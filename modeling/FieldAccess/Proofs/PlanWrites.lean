import FieldAccess.Proofs.PlanParts
import FieldAccess.Proofs.Replay

/-!
# Writing a plan part by part

A replacement deletes what the batch leaves out and stores all resulting rows, the unchanged ones
included. A store whose writes are costly may write the changed parts of the plan and nothing else.
Both leave the same rows behind, since the rows of a plan belong to different fields and the
unchanged ones are stored already. The order in which a store lists its rows does not matter either.

## Main definitions

* `Store.applyParts` – the store after the parts of a plan that change anything.

## Main statements

* `Store.insertRows_perm` – rows of different fields are stored in any order.
* `Replacement.plan_perm` – the same rows in another order have the same plan.
* `Store.replaceSchema_writes_parts` – a replacement is its plan, written part by part.
-/

namespace FieldAccess

namespace Replacement

variable {schemaId : String} {existing other : List FieldPolicy}

/-- The rows of a schema are found by name in whatever order they come. -/
theorem storedOf_perm (hperm : existing.Perm other)
    (hnames : ((rowsOf schemaId existing).map (·.fieldName)).Nodup) :
    storedOf schemaId existing = storedOf schemaId other := by
  have hrows : (rowsOf schemaId existing).Perm (rowsOf schemaId other) := hperm.filter _
  have hnames' : ((rowsOf schemaId other).map (·.fieldName)).Nodup :=
    (hrows.map (·.fieldName)).nodup_iff.1 hnames
  refine Std.ExtTreeMap.ext_getElem? fun name => Option.ext fun row => ?_
  have hleft : (storedOf schemaId existing)[name]? = some row ↔
      row ∈ rowsOf schemaId existing ∧ row.fieldName = name := getElem?_byName hnames
  have hright : (storedOf schemaId other)[name]? = some row ↔
      row ∈ rowsOf schemaId other ∧ row.fieldName = name := getElem?_byName hnames'
  rw [hleft, hright, hrows.mem_iff]

theorem plan_perm (hperm : existing.Perm other)
    (hnames : ((rowsOf schemaId existing).map (·.fieldName)).Nodup) (fresh : Nat → Uuid)
    (records : List FieldRecord) (now : Instant) :
    plan fresh schemaId existing records now = plan fresh schemaId other records now := by
  have hstored := storedOf_perm hperm hnames
  unfold storedOf at hstored
  simp only [plan, hstored]

end Replacement

namespace Store

/-- The store after only those parts of a plan that change anything: deleted rows are taken out, new
rows are put in, and updated rows take the places of the former ones. -/
def applyParts (store : Store) (plan : Replacement) : Store :=
  ((store.eraseRows plan.deleted).insertRows plan.inserted).insertRows plan.updated

section Rows

variable {store : Store} {rows other : List FieldPolicy} {ref : FieldRef}

theorem insertRows_append (store : Store) (rows other : List FieldPolicy) :
    store.insertRows (rows ++ other) = (store.insertRows rows).insertRows other :=
  List.foldl_append

/-- Rows of different fields may be stored in any order. -/
theorem insertRows_perm (hperm : rows.Perm other) (hnodup : (rows.map (·.ref)).Nodup) :
    store.insertRows rows = store.insertRows other := by
  have hrefs : (rows.map (·.ref)).Perm (other.map (·.ref)) := hperm.map _
  refine Std.ExtTreeMap.ext_getElem? fun ref => ?_
  by_cases href : ref ∈ rows.map (·.ref)
  · obtain ⟨row, hrow, rfl⟩ := List.mem_map.1 href
    rw [getElem?_insertRows hnodup hrow,
      getElem?_insertRows (hrefs.nodup_iff.1 hnodup) (hperm.mem_iff.1 hrow)]
  · have href' : ref ∉ other.map (·.ref) := fun h => href (hrefs.mem_iff.2 h)
    rw [getElem?_insertRows_of_notMem href, getElem?_insertRows_of_notMem href']

/-- Storing rows that are there already changes nothing, also between other rows. -/
theorem insertRows_of_perm_append {changed unchanged : List FieldPolicy}
    (hperm : (changed ++ unchanged).Perm rows) (hnodup : (rows.map (·.ref)).Nodup)
    (hstored : ∀ row ∈ unchanged, store[row.ref]? = some row) :
    store.insertRows rows = store.insertRows changed := by
  have hmoved : rows.Perm (unchanged ++ changed) := hperm.symm.trans List.perm_append_comm
  rw [insertRows_perm hmoved hnodup, insertRows_append, insertRows_of_stored hstored]

end Rows

section Schemas

variable {store : Store} {schemaId : String}

theorem rowsOf_ofSchema :
    Replacement.rowsOf schemaId (store.ofSchema schemaId) = store.ofSchema schemaId := by
  rw [Replacement.rowsOf, ofSchema, List.filter_filter]
  simp only [Bool.and_self]

/-- A keyed store lists no two rows of one field. -/
theorem Keyed.nodup_refs (hkeyed : store.Keyed) (schemaId : String) :
    ((store.ofSchema schemaId).map (·.ref)).Nodup := by
  have hsublist : ((store.ofSchema schemaId).map (·.ref)).Sublist
      ((store.toList.map (·.2)).map (·.ref)) := List.filter_sublist.map _
  refine hsublist.nodup ?_
  have hkeys : (store.toList.map (·.2)).map FieldPolicy.ref = store.toList.map (·.1) := by
    rw [List.map_map]
    apply List.map_congr_left
    rintro ⟨ref, row⟩ hmem
    exact hkeyed ref row (Std.ExtTreeMap.mem_toList_iff_getElem?_eq_some.1 hmem)
  rw [hkeys, Std.ExtTreeMap.map_fst_toList_eq_keys]
  exact Std.ExtTreeMap.nodup_keys

/-- Within a schema, rows of different fields have different names. -/
theorem Keyed.nodup_names (hkeyed : store.Keyed) (schemaId : String) :
    ((Replacement.rowsOf schemaId (store.ofSchema schemaId)).map (·.fieldName)).Nodup := by
  have hrefs := hkeyed.nodup_refs schemaId
  rw [rowsOf_ofSchema]
  refine List.Nodup.map_on ?_ (List.Nodup.of_map _ hrefs)
  intro row hrow other hother hname
  apply List.inj_on_of_nodup_map hrefs hrow hother
  have hschema := (hkeyed.mem_ofSchema.1 hrow).1
  have hschema' := (hkeyed.mem_ofSchema.1 hother).1
  rw [FieldPolicy.ref, FieldPolicy.ref, hschema, hschema', hname]

end Schemas

section Plans

variable {store : Store} {fresh : Nat → Uuid} {now : Instant} {schemaId : String}
  {records : List FieldRecord} {plan : Replacement}

/-- The unchanged rows of a plan are in the store, and none of them is among the deleted ones. -/
theorem Keyed.getElem?_unchanged (hkeyed : store.Keyed)
    (hplan : Replacement.plan fresh schemaId (store.ofSchema schemaId) records now = .ok plan)
    {row : FieldPolicy} (hrow : row ∈ plan.unchanged) :
    (store.eraseRows plan.deleted)[row.ref]? = some row := by
  obtain ⟨-, rfl⟩ := Replacement.eq_ofRecords_of_plan hplan
  obtain ⟨hmem, hrecord⟩ := Replacement.of_mem_unchanged (hkeyed.nodup_names schemaId)
    Replacement.forall₂_fates hrow
  have hstored := (hkeyed.mem_ofSchema.1 (Replacement.mem_rowsOf.1 hmem).1).2
  have hkept : row.ref ∉ (Replacement.ofRecords fresh schemaId (store.ofSchema schemaId) records
      now).deleted.map (·.ref) := by
    intro hdeleted
    apply ((hkeyed.mem_deleted fresh schemaId records now row.ref).1 hdeleted).2.1
    exact List.mem_map.2 ⟨row.record, hrecord, rfl⟩
  rw [getElem?_eraseRows, if_neg hkept, hstored]

/-- Storing all rows of a plan is storing those that change. -/
theorem Keyed.insertRows_rows (hkeyed : store.Keyed)
    (hplan : Replacement.plan fresh schemaId (store.ofSchema schemaId) records now = .ok plan) :
    (store.eraseRows plan.deleted).insertRows plan.rows = store.applyParts plan := by
  have hnodup : (plan.rows.map (·.ref)).Nodup := by
    obtain ⟨hcheck, rfl⟩ := Replacement.eq_ofRecords_of_plan hplan
    exact hkeyed.nodup_refs_rows fresh schemaId now (checkRecords_eq_ok_iff.1 hcheck).2
  have hunchanged : ∀ row ∈ plan.unchanged, (store.eraseRows plan.deleted)[row.ref]? = some row :=
    fun _ => hkeyed.getElem?_unchanged hplan
  rw [insertRows_of_perm_append plan.perm_rows hnodup hunchanged, insertRows_append, applyParts]

/-- A deleted row is in the store, an inserted one belongs to a field that is not there, and an
updated one has the identifier of the row that it replaces. -/
theorem Keyed.parts_meet_store (hkeyed : store.Keyed)
    (hplan : Replacement.plan fresh schemaId (store.ofSchema schemaId) records now = .ok plan) :
    (∀ row ∈ plan.deleted, store[row.ref]? = some row) ∧
      (∀ row ∈ plan.inserted, row.ref ∉ store) ∧
      ∀ row ∈ plan.updated, ∃ old, store[row.ref]? = some old ∧ old.id = row.id := by
  have hnames := hkeyed.nodup_names schemaId
  have hrowsOf : ∀ row, row ∈ Replacement.rowsOf schemaId (store.ofSchema schemaId) ↔
      row.schemaId = schemaId ∧ store[row.ref]? = some row := by
    intro row
    rw [rowsOf_ofSchema, hkeyed.mem_ofSchema]
  obtain ⟨-, rfl⟩ := Replacement.eq_ofRecords_of_plan hplan
  refine ⟨?_, ?_, ?_⟩
  · intro row hrow
    have hperm := (Replacement.deleted_ofRecords hnames fresh records now).2
    have hmem := (List.mem_filter.1 (hperm.mem_iff.1 hrow)).1
    exact ((hrowsOf row).1 hmem).2
  · intro row hrow hstored
    obtain ⟨record, -, hnew, hintroduced⟩ :=
      Replacement.of_mem_inserted hnames Replacement.forall₂_fates hrow
    obtain ⟨old, hold⟩ :=
      Option.isSome_iff_exists.1 (Std.ExtTreeMap.mem_iff_isSome_getElem?.1 hstored)
    have href : old.ref = ⟨schemaId, record.fieldName⟩ := by
      rw [hkeyed _ _ hold, hintroduced, FieldPolicy.ref_introduce]
    obtain ⟨hschema, hname⟩ := FieldRef.mk.inj href
    have hold' : store[old.ref]? = some old := by rw [hkeyed _ _ hold, hold]
    exact hnew old ((hrowsOf old).2 ⟨hschema, hold'⟩) hname
  · intro row hrow
    obtain ⟨old, hold, record, -, -, -, rfl⟩ :=
      Replacement.of_mem_updated hnames Replacement.forall₂_fates hrow
    exact ⟨old, ((hrowsOf old).1 hold).2, rfl⟩

/-- After a replacement the rows of the schema are those that it returns. -/
theorem Keyed.mem_rows_iff {after : Store} {rows : List FieldPolicy} (hkeyed : store.Keyed)
    (hok : store.replaceSchema fresh now schemaId records = .ok (rows, after))
    {row : FieldPolicy} :
    row ∈ rows ↔ row.schemaId = schemaId ∧ after[row.ref]? = some row := by
  obtain ⟨hcheck, hreplaced⟩ := hkeyed.replaced_of_replaceSchema hok
  obtain ⟨plan, hplan, rfl, rfl⟩ := replaceSchema_eq_ok_iff.1 hok
  obtain ⟨-, rfl⟩ := Replacement.eq_ofRecords_of_plan hplan
  have hnodup := hkeyed.nodup_refs_rows fresh schemaId now (checkRecords_eq_ok_iff.1 hcheck).2
  have hrefs := hkeyed.refs_rows fresh schemaId records now
  constructor
  · intro hrow
    refine ⟨?_, getElem?_insertRows hnodup hrow⟩
    have href := List.mem_map_of_mem (f := FieldPolicy.ref) hrow
    rw [hrefs] at href
    obtain ⟨record, -, href⟩ := List.mem_map.1 href
    exact (FieldRef.mk.inj href).1.symm
  · rintro ⟨hschema, hrow⟩
    -- The name is one of the batch, or nothing would be found; so the field has a returned row.
    have hname : row.fieldName ∈ records.map (·.fieldName) := by
      by_contra hname
      have href : row.ref = ⟨schemaId, row.fieldName⟩ := by rw [FieldPolicy.ref, hschema]
      rw [href, hreplaced.omitted row.fieldName hname] at hrow
      cases hrow
    obtain ⟨record, hrecord, hsame⟩ := List.mem_map.1 hname
    have href : row.ref ∈ (Replacement.ofRecords fresh schemaId (store.ofSchema schemaId) records
        now).rows.map (·.ref) := by
      rw [hrefs]
      refine List.mem_map.2 ⟨record, hrecord, ?_⟩
      rw [FieldPolicy.ref, hschema, hsame]
    obtain ⟨found, hfound, hfoundRef⟩ := List.mem_map.1 href
    rw [← hfoundRef, getElem?_insertRows hnodup hfound] at hrow
    rwa [← Option.some.inj hrow]

end Plans

/-- **Two ways to write.** In whatever order the rows of a schema are listed, the plan made for them
is what a replacement carries out: it returns the rows of the plan and leaves the store that the
changed parts of the plan give. Deleted rows are taken out as they are stored, inserted ones do not
meet any row, and updated ones take the place of the row with their identifier. Other schemas are
left alone, the rows of the schema are those that are returned, and a plan that changes nothing
leaves the store as it was. -/
theorem replaceSchema_writes_parts (store : Store) (hkeyed : store.Keyed) (fresh : Nat → Uuid)
    (now : Instant) (schemaId : String) (records : List FieldRecord) (existing : List FieldPolicy)
    (hexisting : existing.Perm (store.ofSchema schemaId)) (plan : Replacement)
    (hplan : Replacement.plan fresh schemaId existing records now = .ok plan) :
    let after := store.applyParts plan
    store.replaceSchema fresh now schemaId records = .ok (plan.rows, after) ∧
      (∀ row ∈ plan.deleted, store[row.ref]? = some row) ∧
      (∀ row ∈ plan.inserted, row.ref ∉ store) ∧
      (∀ row ∈ plan.updated, ∃ old, store[row.ref]? = some old ∧ old.id = row.id) ∧
      (∀ ref : FieldRef, ref.schemaId ≠ schemaId → after[ref]? = store[ref]?) ∧
      (after.ofSchema schemaId).Perm plan.rows ∧
      (plan.isNoop = true → after = store) := by
  intro after
  have hnames : ((Replacement.rowsOf schemaId existing).map (·.fieldName)).Nodup := by
    have hrows : (Replacement.rowsOf schemaId existing).Perm
        (Replacement.rowsOf schemaId (store.ofSchema schemaId)) := hexisting.filter _
    exact (hrows.map (·.fieldName)).nodup_iff.2 (hkeyed.nodup_names schemaId)
  rw [Replacement.plan_perm hexisting hnames] at hplan
  have hreplace : store.replaceSchema fresh now schemaId records = .ok (plan.rows, after) :=
    replaceSchema_eq_ok_iff.2 ⟨plan, hplan, rfl, (hkeyed.insertRows_rows hplan).symm⟩
  obtain ⟨hcheck, hreplaced⟩ := hkeyed.replaced_of_replaceSchema hreplace
  obtain ⟨hdeleted, hinserted, hupdated⟩ := hkeyed.parts_meet_store hplan
  refine ⟨hreplace, hdeleted, hinserted, hupdated, hreplaced.other, ?_, ?_⟩
  · have hkeyed' : after.Keyed := hreplaced.keyed hkeyed
    have hrows : plan.rows.Nodup := by
      obtain ⟨-, rfl⟩ := Replacement.eq_ofRecords_of_plan hplan
      have hnodup := (checkRecords_eq_ok_iff.1 hcheck).2
      exact List.Nodup.of_map _ (hkeyed.nodup_refs_rows fresh schemaId now hnodup)
    have hafter : (after.ofSchema schemaId).Nodup :=
      List.Nodup.of_map _ (hkeyed'.nodup_refs schemaId)
    apply (List.perm_ext_iff_of_nodup hafter hrows).2
    intro row
    rw [hkeyed'.mem_ofSchema, hkeyed.mem_rows_iff hreplace]
  · intro hnoop
    obtain ⟨hnoInserted, hnoUpdated, hnoDeleted⟩ := Replacement.isNoop_iff.1 hnoop
    simp only [after, applyParts, hnoInserted, hnoUpdated, hnoDeleted]
    rfl

/-- Of three people's fields one is described differently, one stays and one is left out, a new one
comes, and animals have a field of the same name; then the former batch is submitted once more. The
stored rows are listed in the reverse order. -/
theorem replaceSchema_writes_parts_people :
    let name : FieldRecord := { fieldName := "name", isOwner := true }
    let photo : FieldRecord := { fieldName := "photo", isOwner := true }
    let age : FieldRecord := { fieldName := "age", isOwner := false, owner := some .citizen }
    let calls : List Service.Call :=
      [⟨Service.onDay 0, .replace ⟨"people", [name, photo, age]⟩⟩,
        ⟨Service.onDay 1, .replace ⟨"animals", [name]⟩⟩,
        ⟨Service.onDay 2, .grant ⟨"portal", "30d", [⟨"people", "name"⟩]⟩⟩]
    let store := (Service.run calls).store
    let now := (Service.onDay 3).now
    let records := [{ name with description := some "given name" },
      { fieldName := "address", isOwner := true }, photo]
    let existing := (store.ofSchema "people").reverse
    (∃ plan, Replacement.plan Uuid.numbered "people" existing records now = .ok plan ∧
      [plan.deleted, plan.inserted, plan.updated, plan.unchanged].map (·.map (·.fieldName)) =
        [["age"], ["address"], ["name"], ["photo"]] ∧
      store.replaceSchema Uuid.numbered now "people" records =
        .ok (plan.rows, store.applyParts plan) ∧
      (store.applyParts plan)[(⟨"animals", "name"⟩ : FieldRef)]? =
        store[(⟨"animals", "name"⟩ : FieldRef)]?) ∧
    ∃ plan, Replacement.plan Uuid.numbered "people" existing [age, name, photo] now = .ok plan ∧
      plan.isNoop = true ∧ store.applyParts plan = store := by
  intro name photo age calls store now records existing
  have hkeyed : store.Keyed := (Service.sound_run calls).keyed
  have hexisting : existing.Perm (store.ofSchema "people") := List.reverse_perm _
  have hplan : Replacement.plan Uuid.numbered "people" existing records now =
      .ok (Replacement.ofRecords Uuid.numbered "people" existing records now) :=
    Replacement.plan_eq_ok existing (by decide +kernel)
  have hagain : Replacement.plan Uuid.numbered "people" existing [age, name, photo] now =
      .ok (Replacement.ofRecords Uuid.numbered "people" existing [age, name, photo] now) :=
    Replacement.plan_eq_ok existing (by decide +kernel)
  obtain ⟨hreplace, -, -, -, hother, -⟩ :=
    replaceSchema_writes_parts store hkeyed Uuid.numbered now "people" records existing hexisting _
      hplan
  obtain ⟨-, -, -, -, -, -, hnoop⟩ :=
    replaceSchema_writes_parts store hkeyed Uuid.numbered now "people" [age, name, photo] existing
      hexisting _ hagain
  have hsame : (Replacement.ofRecords Uuid.numbered "people" existing [age, name, photo]
      now).isNoop = true := by
    decide +kernel
  exact ⟨⟨_, hplan, by decide +kernel, hreplace, hother _ (by decide)⟩,
    ⟨_, hagain, hsame, hnoop hsame⟩⟩

end Store

end FieldAccess
