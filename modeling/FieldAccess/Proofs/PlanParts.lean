import FieldAccess.Proofs.StoreInvariant

/-!
# The parts of a replacement plan

A plan sorts the rows of a schema into those that are new, that are described differently, that stay
as they are, and that are deleted. Nothing is lost on the way and nothing occurs twice, as long as
no two of the existing rows of the schema have the same name; the rows of other schemas do not
matter.

## Main definitions

* `Replacement.rowsOf` – the existing rows of a schema.
* `Replacement.collected` – the rows of a plan, put together again from its parts.
* `Replacement.Accounts` – what a plan makes of existing rows and records.

## Main statements

* `Replacement.perm_rows` – the parts of a plan are its rows in another order.
* `Replacement.plan_accounts_for_rows` – every plan that is made accounts for all rows.
-/

namespace FieldAccess.Replacement

/-- The existing rows of a schema. -/
def rowsOf (schemaId : String) (existing : List FieldPolicy) : List FieldPolicy :=
  existing.filter fun row => row.schemaId == schemaId

/-- The rows with the given names, each of which is taken out of the map. -/
def taken : Std.ExtTreeMap String FieldPolicy → List String → List FieldPolicy
  | _, [] => []
  | fields, name :: rest =>
    match fields[name]? with
    | some row => row :: taken (fields.erase name) rest
    | none => taken fields rest

/-- The rows of a plan, put together from its parts in the order of some names. -/
def collected (plan : Replacement) (names : List String) : List FieldPolicy :=
  taken (byName (plan.inserted ++ plan.updated ++ plan.unchanged)) names

/-- What a plan makes of the existing rows of a schema and of a batch of records. -/
structure Accounts (schemaId : String) (existing : List FieldPolicy) (records : List FieldRecord)
    (now : Instant) (plan : Replacement) : Prop where
  /-- The parts have the names of the records and no others, and none of them occurs twice. -/
  names : ((plan.inserted ++ plan.updated ++ plan.unchanged).map (·.fieldName)).Perm
    (records.map (·.fieldName))
  disjoint : ((plan.inserted ++ plan.updated ++ plan.unchanged).map (·.fieldName)).Nodup
  /-- The rows whose names are in no record are deleted, as they are. -/
  deleted : plan.deleted.Perm ((rowsOf schemaId existing).filter fun row =>
    !(records.map (·.fieldName)).contains row.fieldName)
  sorted : plan.deleted.Pairwise fun row other => row.fieldName < other.fieldName
  unchanged : ∀ row ∈ plan.unchanged, row ∈ rowsOf schemaId existing ∧ row.record ∈ records
  /-- An updated row was described in another way before. -/
  updated : ∀ row ∈ plan.updated, ∃ old ∈ rowsOf schemaId existing, ∃ record ∈ records,
    old.fieldName = record.fieldName ∧ old.record ≠ record ∧ row.record = record ∧
      row.updatedAt = now ∧ row.id = old.id ∧ row.schemaId = old.schemaId ∧
        row.createdAt = old.createdAt ∧ row.allowList = old.allowList
  inserted : ∀ row ∈ plan.inserted, (∀ old ∈ rowsOf schemaId existing,
      old.fieldName ≠ row.fieldName) ∧ row.schemaId = schemaId ∧ row.record ∈ records ∧
    row.allowList = ∅ ∧ row.createdAt = now ∧ row.updatedAt = now
  /-- Every record has its row, which follows the rule of ownership. -/
  rows : List.Forall₂ (fun record row => row.schemaId = schemaId ∧ row.record = record ∧
    (row.owner = none ↔ row.isOwner = true)) records plan.rows
  collected : plan.collected (records.map (·.fieldName)) = plan.rows
  /-- Nothing changes exactly if the resulting rows are those that were there. -/
  isNoop : plan.isNoop = true ↔ plan.inserted = [] ∧ plan.updated = [] ∧ plan.deleted = []
  isNoop_iff_perm : plan.isNoop = true ↔ plan.rows.Perm (rowsOf schemaId existing)

section Parts

variable {plan : Replacement} {row : FieldPolicy}

theorem mem_withFate {fate : Fate} : row ∈ plan.withFate fate ↔ (fate, row) ∈ plan.kept := by
  simp [withFate]

/-- **Parts.** Every row of a plan is in exactly one of its parts. -/
theorem perm_rows (plan : Replacement) :
    (plan.inserted ++ plan.updated ++ plan.unchanged).Perm plan.rows := by
  obtain ⟨kept, deleted⟩ := plan
  simp only [inserted, updated, unchanged, withFate, rows]
  -- The first row of all comes first in its own part, and is moved there past the parts before.
  induction kept with
  | nil => exact .nil
  | cons entry rest ih =>
    obtain ⟨fate, row⟩ := entry
    cases fate with
    | inserted => exact ih.cons row
    | updated =>
      have hmiddle := @List.perm_middle _ row
        ((rest.filter fun entry => entry.1 == .inserted).map (·.2))
        ((rest.filter fun entry => entry.1 == .updated).map (·.2) ++
          (rest.filter fun entry => entry.1 == .unchanged).map (·.2))
      rw [List.append_assoc] at ih ⊢
      exact hmiddle.trans (ih.cons row)
    | unchanged => exact List.perm_middle.trans (ih.cons row)

/-- A plan changes nothing if all of its parts but the unchanged rows are empty. -/
theorem isNoop_iff : plan.isNoop = true ↔
    plan.inserted = [] ∧ plan.updated = [] ∧ plan.deleted = [] := by
  have hkept : (∀ fate row, (fate, row) ∈ plan.kept → fate = .unchanged) ↔
      plan.inserted = [] ∧ plan.updated = [] := by
    simp only [List.eq_nil_iff_forall_not_mem, inserted, updated, mem_withFate]
    constructor
    · intro hall
      constructor <;> · intro row hrow; cases hall _ row hrow
    · rintro ⟨hinserted, hupdated⟩ fate row hrow
      cases fate with
      | inserted => exact absurd hrow (hinserted row)
      | updated => exact absurd hrow (hupdated row)
      | unchanged => rfl
  simp only [isNoop, Bool.and_eq_true, List.isEmpty_iff, List.all_eq_true, Prod.forall,
    beq_iff_eq, hkept]
  rw [and_comm, and_assoc]

/-- Among rows of different names a name finds its row. -/
theorem getElem?_byName {rows : List FieldPolicy} (hnames : (rows.map (·.fieldName)).Nodup)
    {name : String} : (byName rows)[name]? = some row ↔ row ∈ rows ∧ row.fieldName = name := by
  unfold byName
  by_cases hname : name ∈ rows.map (·.fieldName)
  · obtain ⟨found, hfound, rfl⟩ := List.mem_map.1 hname
    rw [getElem?_foldl_insert_of_unique FieldPolicy.fieldName hfound fun other hother hsame =>
      List.inj_on_of_nodup_map hnames hother hfound hsame]
    constructor
    · rintro h
      obtain rfl := Option.some.inj h
      exact ⟨hfound, rfl⟩
    · rintro ⟨hrow, hsame⟩
      rw [List.inj_on_of_nodup_map hnames hrow hfound hsame]
  · rw [getElem?_foldl_insert_of_forall_ne FieldPolicy.fieldName, Std.ExtTreeMap.getElem?_empty]
    · constructor
      · intro h
        cases h
      · rintro ⟨hrow, rfl⟩
        exact absurd (List.mem_map.2 ⟨row, hrow, rfl⟩) hname
    · intro other hother hsame
      exact hname (List.mem_map.2 ⟨other, hother, hsame⟩)

/-- Rows of different names are taken out of a map that holds them, in the order of their names. -/
theorem taken_eq {rows : List FieldPolicy} (hnames : (rows.map (·.fieldName)).Nodup)
    {fields : Std.ExtTreeMap String FieldPolicy}
    (hfields : ∀ row ∈ rows, fields[row.fieldName]? = some row) :
    taken fields (rows.map (·.fieldName)) = rows := by
  induction rows generalizing fields with
  | nil => rfl
  | cons row rest ih =>
    rw [List.map_cons, List.nodup_cons] at hnames
    obtain ⟨hname, hrest⟩ := hnames
    rw [List.map_cons, taken, hfields row (by simp)]
    -- The names are distinct, so that no row is missed that is still to be taken.
    refine congrArg (row :: ·) (ih hrest fun other hother => ?_)
    have hne : row.fieldName ≠ other.fieldName := fun hsame =>
      hname (List.mem_map.2 ⟨other, hother, hsame.symm⟩)
    rw [Std.ExtTreeMap.getElem?_erase, if_neg (by simpa using hne)]
    exact hfields other (by simp [hother])

/-- The rows of a plan are found again in its parts, if they have different names. -/
theorem collected_eq (hnames : (plan.rows.map (·.fieldName)).Nodup) :
    plan.collected (plan.rows.map (·.fieldName)) = plan.rows := by
  have hparts : ((plan.inserted ++ plan.updated ++ plan.unchanged).map (·.fieldName)).Nodup :=
    (plan.perm_rows.map _).nodup_iff.2 hnames
  refine taken_eq hnames fun row hrow => ?_
  exact (getElem?_byName hparts).2 ⟨plan.perm_rows.mem_iff.2 hrow, rfl⟩

end Parts

section Plans

variable {fresh : Nat → Uuid} {schemaId : String} {existing : List FieldPolicy}
  {records : List FieldRecord} {now : Instant} {plan : Replacement}

/-- A plan is made for a batch that is in order, and is then the one that its records give. -/
theorem eq_ofRecords_of_plan
    (hplan : Replacement.plan fresh schemaId existing records now = .ok plan) :
    checkRecords records = .ok () ∧ plan = ofRecords fresh schemaId existing records now := by
  cases hcheck : checkRecords records with
  | error error =>
    rw [plan_eq_error _ hcheck] at hplan
    cases hplan
  | ok _ =>
    rw [plan_eq_ok _ hcheck] at hplan
    exact ⟨rfl, (Except.ok.inj hplan).symm⟩

theorem mem_rowsOf {row : FieldPolicy} :
    row ∈ rowsOf schemaId existing ↔ row ∈ existing ∧ row.schemaId = schemaId := by
  simp [rowsOf]

/-- Every entry of a batch belongs to a record. -/
theorem exists_record {stored : Std.ExtTreeMap String FieldPolicy} {entry : Fate × FieldPolicy}
    {entries : List (Fate × FieldPolicy)}
    (hentries : List.Forall₂ (Continues schemaId stored now) records entries)
    (hentry : entry ∈ entries) :
    ∃ record ∈ records, Continues schemaId stored now record entry := by
  induction hentries with
  | nil => cases hentry
  | @cons record head rest entries hhead _ ih =>
    rcases List.mem_cons.1 hentry with rfl | hrest
    · exact ⟨record, by simp, hhead⟩
    · obtain ⟨found, hfound, hcontinues⟩ := ih hrest
      exact ⟨found, by simp [hfound], hcontinues⟩

/-- The rows of records have their names. -/
theorem map_fieldName_of_forall₂ {rows : List FieldPolicy}
    (h : List.Forall₂ (fun record row => row.schemaId = schemaId ∧ row.record = record) records
      rows) :
    rows.map (·.fieldName) = records.map (·.fieldName) := by
  induction h with
  | nil => rfl
  | cons hhead _ ih => rw [List.map_cons, List.map_cons, ih, ← hhead.2, FieldPolicy.record]

section Names

variable (hnames : ((rowsOf schemaId existing).map (·.fieldName)).Nodup)

include hnames

/-- What can become of a record: the row of its name stays, or is described differently, or there is
none and a new one is begun. -/
theorem continues_cases {record : FieldRecord} {entry : Fate × FieldPolicy}
    (h : Continues schemaId (storedOf schemaId existing) now record entry) :
    (∃ old ∈ rowsOf schemaId existing, old.fieldName = record.fieldName ∧ old.record = record ∧
        entry = (.unchanged, old)) ∨
      (∃ old ∈ rowsOf schemaId existing, old.fieldName = record.fieldName ∧ old.record ≠ record ∧
        entry = (.updated, old.describe record now)) ∨
      ((∀ old ∈ rowsOf schemaId existing, old.fieldName ≠ record.fieldName) ∧
        entry = (.inserted, .introduce entry.2.id schemaId record now)) := by
  have hstored {row : FieldPolicy} : (storedOf schemaId existing)[record.fieldName]? = some row ↔
      row ∈ rowsOf schemaId existing ∧ row.fieldName = record.fieldName := getElem?_byName hnames
  unfold Continues at h
  cases hfound : (storedOf schemaId existing)[record.fieldName]? with
  | some old =>
    obtain ⟨hold, hname⟩ := hstored.1 hfound
    rw [hfound] at h
    by_cases hagrees : old.agrees record = true
    · refine .inl ⟨old, hold, hname, (FieldPolicy.agrees_iff hname).1 hagrees, ?_⟩
      simpa [FieldPolicy.submit, hagrees] using h
    · refine .inr (.inl ⟨old, hold, hname, ?_, ?_⟩)
      · exact fun hsame => hagrees ((FieldPolicy.agrees_iff hname).2 hsame)
      · simpa [FieldPolicy.submit, hagrees] using h
  | none =>
    rw [hfound] at h
    refine .inr (.inr ⟨fun old hold hname => ?_, h⟩)
    rw [hstored.2 ⟨hold, hname⟩] at hfound
    cases hfound

/-- The rows that are deleted are sorted by name, and are those whose names are in no record. -/
theorem deleted_ofRecords (fresh : Nat → Uuid) (records : List FieldRecord) (now : Instant) :
    (ofRecords fresh schemaId existing records now).deleted.Pairwise
        (fun row other => row.fieldName < other.fieldName) ∧
      (ofRecords fresh schemaId existing records now).deleted.Perm
        ((rowsOf schemaId existing).filter fun row =>
          !(records.map (·.fieldName)).contains row.fieldName) := by
  have hstored {name : String} {row : FieldPolicy} :
      (name, row) ∈ (storedOf schemaId existing).toList ↔
        row ∈ rowsOf schemaId existing ∧ row.fieldName = name := by
    rw [Std.ExtTreeMap.mem_toList_iff_getElem?_eq_some]
    exact getElem?_byName hnames
  have hsorted : (ofRecords fresh schemaId existing records now).deleted.Pairwise
      (fun row other => row.fieldName < other.fieldName) := by
    refine List.pairwise_map.2 (List.Pairwise.filter _ ?_)
    refine List.Pairwise.imp_of_mem ?_ (storedOf schemaId existing).ordered_keys_toList
    rintro ⟨name, row⟩ ⟨name', row'⟩ hrow hrow' hlt
    rw [(hstored.1 hrow).2, (hstored.1 hrow').2]
    exact compareOfLessAndEq_eq_lt.1 hlt
  -- No row occurs twice in either list, so that they are compared by their rows.
  refine ⟨hsorted, (List.perm_ext_iff_of_nodup ?_ ?_).2 fun row => ?_⟩
  · refine hsorted.imp fun {row other} hlt hsame => ?_
    rw [hsame] at hlt
    exact String.lt_irrefl _ hlt
  · exact (List.Nodup.of_map _ hnames).filter _
  · simp only [ofRecords, List.mem_map, List.mem_filter, Prod.exists, hstored]
    constructor
    · rintro ⟨name, _, ⟨⟨hrow, rfl⟩, hname⟩, rfl⟩
      exact ⟨hrow, hname⟩
    · rintro ⟨hrow, hname⟩
      exact ⟨row.fieldName, row, ⟨⟨hrow, rfl⟩, hname⟩, rfl⟩

section Entries

variable (hentries : List.Forall₂ (Continues schemaId (storedOf schemaId existing) now) records
  plan.kept)

include hentries

theorem of_mem_unchanged {row : FieldPolicy} (hrow : row ∈ plan.unchanged) :
    row ∈ rowsOf schemaId existing ∧ row.record ∈ records := by
  obtain ⟨record, hrecord, hcontinues⟩ := exists_record hentries (mem_withFate.1 hrow)
  rcases continues_cases hnames hcontinues with
    ⟨old, hold, -, hsame, hentry⟩ | ⟨_, _, _, _, hentry⟩ | ⟨_, hentry⟩
  · obtain rfl := (Prod.mk.inj hentry).2
    exact ⟨hold, hsame ▸ hrecord⟩
  · cases hentry
  · cases (Prod.mk.inj hentry).1

theorem of_mem_updated {row : FieldPolicy} (hrow : row ∈ plan.updated) :
    ∃ old ∈ rowsOf schemaId existing, ∃ record ∈ records, old.fieldName = record.fieldName ∧
      old.record ≠ record ∧ row = old.describe record now := by
  obtain ⟨record, hrecord, hcontinues⟩ := exists_record hentries (mem_withFate.1 hrow)
  rcases continues_cases hnames hcontinues with
    ⟨_, _, _, _, hentry⟩ | ⟨old, hold, hname, hdiffers, hentry⟩ | ⟨_, hentry⟩
  · cases hentry
  · exact ⟨old, hold, record, hrecord, hname, hdiffers, (Prod.mk.inj hentry).2⟩
  · cases (Prod.mk.inj hentry).1

theorem of_mem_inserted {row : FieldPolicy} (hrow : row ∈ plan.inserted) :
    ∃ record ∈ records, (∀ old ∈ rowsOf schemaId existing, old.fieldName ≠ record.fieldName) ∧
      row = .introduce row.id schemaId record now := by
  obtain ⟨record, hrecord, hcontinues⟩ := exists_record hentries (mem_withFate.1 hrow)
  rcases continues_cases hnames hcontinues with
    ⟨_, _, _, _, hentry⟩ | ⟨_, _, _, _, hentry⟩ | ⟨hnew, hentry⟩
  · cases hentry
  · cases hentry
  · exact ⟨record, hrecord, hnew, (Prod.mk.inj hentry).2⟩

/-- Every record has its row, which describes the field as the record does. -/
theorem forall₂_rows :
    List.Forall₂ (fun record row => row.schemaId = schemaId ∧ row.record = record) records
      plan.rows := by
  refine List.forall₂_map_right_iff.2 (hentries.imp fun record entry hcontinues => ?_)
  rcases continues_cases hnames hcontinues with
    ⟨old, hold, -, hsame, rfl⟩ | ⟨old, hold, hname, -, rfl⟩ | ⟨-, hnew⟩
  · exact ⟨(mem_rowsOf.1 hold).2, hsame⟩
  · exact ⟨(mem_rowsOf.1 hold).2, FieldPolicy.record_describe now hname⟩
  · rw [hnew]
    exact ⟨rfl, rfl⟩

/-- **Nothing changes** exactly if the rows of a plan are those that were there. -/
theorem isNoop_iff_perm (hrecords : (records.map (·.fieldName)).Nodup)
    (hdeleted : plan.deleted.Perm ((rowsOf schemaId existing).filter fun row =>
      !(records.map (·.fieldName)).contains row.fieldName)) :
    plan.isNoop = true ↔ plan.rows.Perm (rowsOf schemaId existing) := by
  have hsame : plan.rows.map (·.fieldName) = records.map (·.fieldName) :=
    map_fieldName_of_forall₂ (forall₂_rows hnames hentries)
  constructor
  · intro hnoop
    obtain ⟨hinserted, hupdated, hnone⟩ := isNoop_iff.1 hnoop
    rw [hnone, List.nil_perm, List.filter_eq_nil_iff] at hdeleted
    have hstay : ∀ row ∈ plan.rows, row ∈ rowsOf schemaId existing := by
      intro row hrow
      refine (of_mem_unchanged hnames hentries ?_).1
      simpa [hinserted, hupdated] using plan.perm_rows.mem_iff.2 hrow
    refine (List.perm_ext_iff_of_nodup (List.Nodup.of_map (·.fieldName) (hsame ▸ hrecords))
      (List.Nodup.of_map _ hnames)).2 fun row => ⟨hstay row, fun hrow => ?_⟩
    -- The record of a row that was there leaves a row of its name, which can only be this one.
    have hname : row.fieldName ∈ plan.rows.map (·.fieldName) := by
      rw [hsame]
      simpa using hdeleted row hrow
    obtain ⟨left, hleft, hleftName⟩ := List.mem_map.1 hname
    rwa [List.inj_on_of_nodup_map hnames hrow (hstay left hleft) hleftName.symm]
  · intro hperm
    have hthere : ∀ row ∈ plan.inserted ++ plan.updated ++ plan.unchanged,
        row ∈ rowsOf schemaId existing := fun row hrow =>
      hperm.mem_iff.1 (plan.perm_rows.mem_iff.1 hrow)
    refine isNoop_iff.2 ⟨?_, ?_, ?_⟩
    · refine List.eq_nil_iff_forall_not_mem.2 fun row hrow => ?_
      obtain ⟨record, -, hnew, hintroduced⟩ := of_mem_inserted hnames hentries hrow
      refine hnew row (hthere row (by simp [hrow])) ?_
      rw [hintroduced]
      rfl
    · -- An updated row and the one that it continues have one name, so that they would be equal.
      refine List.eq_nil_iff_forall_not_mem.2 fun row hrow => ?_
      obtain ⟨old, hold, record, -, hname, hdiffers, rfl⟩ := of_mem_updated hnames hentries hrow
      have hfixed : old.describe record now = old :=
        List.inj_on_of_nodup_map hnames (hthere _ (by simp [hrow])) hold rfl
      have hdescribed := FieldPolicy.record_describe now hname
      rw [hfixed] at hdescribed
      exact hdiffers hdescribed
    · refine List.eq_nil_iff_forall_not_mem.2 fun row hrow => ?_
      obtain ⟨hold, hname⟩ := List.mem_filter.1 (hdeleted.mem_iff.1 hrow)
      have hmem : row.fieldName ∈ plan.rows.map (·.fieldName) :=
        List.mem_map.2 ⟨row, hperm.mem_iff.2 hold, rfl⟩
      rw [hsame] at hmem
      simp [hmem] at hname

end Entries

end Names

/-- **Plans.** A plan that is made accounts for all rows of its schema and for all records, whatever
is stored about the fields of other schemas. -/
theorem plan_accounts_for_rows (fresh : Nat → Uuid) (schemaId : String)
    (existing : List FieldPolicy) (records : List FieldRecord) (now : Instant)
    (plan : Replacement) (hnames : ((rowsOf schemaId existing).map (·.fieldName)).Nodup)
    (hplan : Replacement.plan fresh schemaId existing records now = .ok plan) :
    Accounts schemaId existing records now plan := by
  obtain ⟨hcheck, rfl⟩ := eq_ofRecords_of_plan hplan
  obtain ⟨hchecked, hrecords⟩ := checkRecords_eq_ok_iff.1 hcheck
  obtain ⟨hsorted, hdeleted⟩ := deleted_ofRecords hnames fresh records now
  have hentries : List.Forall₂ (Continues schemaId (storedOf schemaId existing) now) records
    (ofRecords fresh schemaId existing records now).kept := forall₂_fates
  have hrows := forall₂_rows hnames hentries
  have hsame := map_fieldName_of_forall₂ hrows
  have hparts := (perm_rows (ofRecords fresh schemaId existing records now)).map (·.fieldName)
  exact {
    names := hsame ▸ hparts
    disjoint := hparts.nodup_iff.2 (hsame ▸ hrecords)
    deleted := hdeleted
    sorted := hsorted
    unchanged := fun row hrow => of_mem_unchanged hnames hentries hrow
    updated := by
      intro row hrow
      obtain ⟨old, hold, record, hrecord, hname, hdiffers, rfl⟩ :=
        of_mem_updated hnames hentries hrow
      exact ⟨old, hold, record, hrecord, hname, hdiffers, FieldPolicy.record_describe now hname,
        rfl, rfl, rfl, rfl, rfl⟩
    inserted := by
      intro row hrow
      obtain ⟨record, hrecord, hnew, hintroduced⟩ := of_mem_inserted hnames hentries hrow
      rw [hintroduced]
      exact ⟨hnew, rfl, hrecord, rfl, rfl, rfl⟩
    rows := ((List.forall₂_and_left _ _).2 ⟨hchecked, hrows⟩).imp
      fun record row ⟨hrecord, hschema, hdescribed⟩ =>
        ⟨hschema, hdescribed, FieldPolicy.owner_eq_none_iff (hdescribed ▸ hrecord)⟩
    collected := hsame ▸ collected_eq (hsame ▸ hrecords)
    isNoop := isNoop_iff
    isNoop_iff_perm := isNoop_iff_perm hnames hentries hrecords hdeleted }

/-- A batch for three fields, one of which is new and one of which breaks the rule of ownership
where it is stored; a further field is left out, and another schema has a field of the same name. -/
theorem plan_accounts_for_rows_people :
    let now := (Service.onDay 9).now
    let row (schemaId name : String) (id : Nat) : FieldPolicy :=
      { FieldPolicy.introduce ⟨BitVec.ofNat 128 id⟩ schemaId { fieldName := name, isOwner := true }
          (Service.onDay 1).now with
        allowList := (∅ : AllowList).insert "portal" ⟨now, (Service.onDay 2).now⟩ }
    let existing := [row "people" "photo" 1, row "animals" "name" 2,
      { row "people" "name" 3 with isOwner := false }, row "people" "age" 4]
    let records : List FieldRecord := [{ fieldName := "name", isOwner := true },
      { fieldName := "address", isOwner := false, owner := some .citizen },
      { fieldName := "photo", isOwner := true }]
    ((rowsOf "people" existing).map (·.fieldName)).Nodup ∧
      ∃ plan, Replacement.plan Uuid.numbered "people" existing records now = .ok plan ∧
        Accounts "people" existing records now plan ∧
        plan.inserted.map (·.fieldName) = ["address"] ∧
        plan.updated.map (·.fieldName) = ["name"] ∧
        plan.unchanged.map (·.fieldName) = ["photo"] ∧
        plan.deleted.map (·.fieldName) = ["age"] := by
  intro now row existing records
  have hnames : ((rowsOf "people" existing).map (·.fieldName)).Nodup := by decide +kernel
  have hplan : Replacement.plan Uuid.numbered "people" existing records now =
      .ok (ofRecords Uuid.numbered "people" existing records now) :=
    plan_eq_ok existing (by decide +kernel)
  exact ⟨hnames, _, hplan,
    plan_accounts_for_rows Uuid.numbered "people" existing records now _ hnames hplan,
    by decide +kernel⟩

end Plans

end FieldAccess.Replacement
