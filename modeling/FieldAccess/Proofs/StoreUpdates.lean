import FieldAccess.Proofs.Replacement

/-!
# Look-ups after a change of the store

A change of the store is described by what every reference gives afterwards. The store keeps each
row under the reference of its field; such stores are called keyed, and both changes keep them so.

## Main definitions

* `Store.Keyed` – every row is stored under its own reference.
* `Store.Replaced` – what a reference gives after the fields of a schema were replaced.

## Main statements

* `Store.replaced_of_replaceSchema` – a replacement changes what its batch says and nothing else.
* `Store.getElem?_of_grant` – a grant changes the rows that it names and nothing else.
-/

namespace FieldAccess

section Insertion

variable {α β : Type} {cmp : α → α → Ordering} [Std.TransCmp cmp] [Std.LawfulEqCmp cmp]
  (key : β → α)

/-- Inserting rows leaves a key alone that none of them has. -/
theorem getElem?_foldl_insert_of_forall_ne {rows : List β} {map : Std.ExtTreeMap α β cmp} {k : α}
    (hne : ∀ row ∈ rows, key row ≠ k) :
    (rows.foldl (fun map row => map.insert (key row) row) map)[k]? = map[k]? := by
  induction rows generalizing map with
  | nil => rfl
  | cons row rest ih =>
    have hhead : key row ≠ k := hne row (by simp)
    rw [List.foldl_cons, ih fun r hr => hne r (by simp [hr]), Std.ExtTreeMap.getElem?_insert]
    simp [hhead]

/-- Inserting rows puts the only row of a key under it. -/
theorem getElem?_foldl_insert_of_unique {rows : List β} {map : Std.ExtTreeMap α β cmp} {row : β}
    (hmem : row ∈ rows) (hunique : ∀ r ∈ rows, key r = key row → r = row) :
    (rows.foldl (fun map row => map.insert (key row) row) map)[key row]? = some row := by
  induction rows generalizing map with
  | nil => simp at hmem
  | cons head rest ih =>
    rw [List.foldl_cons]
    by_cases hrest : row ∈ rest
    · exact ih hrest fun r hr => hunique r (by simp [hr])
    · have hhead : row = head := by simpa [hrest] using hmem
      subst hhead
      rw [getElem?_foldl_insert_of_forall_ne, Std.ExtTreeMap.getElem?_insert]
      · simp
      · intro r hr hkey
        exact hrest (hunique r (by simp [hr]) hkey ▸ hr)

end Insertion

/-- Granting twice in the same way is granting once. -/
theorem FieldPolicy.grant_grant (row : FieldPolicy) (application : String)
    (grant : Grant) :
    (row.grant application grant).grant application grant = row.grant application grant := by
  have hlist : (row.allowList.insert application grant).insert application grant =
      row.allowList.insert application grant := by
    refine Std.ExtTreeMap.ext_getElem? fun app => ?_
    simp only [Std.ExtTreeMap.getElem?_insert]
    split <;> rfl
  simp only [FieldPolicy.grant, hlist]

theorem FieldRef.mem_distinct {refs : List FieldRef} {ref : FieldRef} :
    ref ∈ FieldRef.distinct refs ↔ ref ∈ refs := by
  unfold FieldRef.distinct
  exact List.mem_eraseDups

namespace Store

/-- Every row is stored under the reference of its field. -/
def Keyed (store : Store) : Prop :=
  ∀ (ref : FieldRef) (row : FieldPolicy), store[ref]? = some row → row.ref = ref

theorem keyed_empty : Keyed ∅ := by
  intro ref row h
  simp at h

theorem mem_ofSchema {store : Store} {schemaId : String} {row : FieldPolicy} :
    row ∈ store.ofSchema schemaId ↔
      ∃ ref : FieldRef, store[ref]? = some row ∧ row.schemaId = schemaId := by
  simp [ofSchema, Std.ExtTreeMap.mem_toList_iff_getElem?_eq_some]

/-- The rows of a schema of a keyed store are those under its references. -/
theorem Keyed.mem_ofSchema {store : Store} (hkeyed : store.Keyed) {schemaId : String}
    {row : FieldPolicy} :
    row ∈ store.ofSchema schemaId ↔ row.schemaId = schemaId ∧ store[row.ref]? = some row := by
  rw [Store.mem_ofSchema]
  constructor
  · rintro ⟨ref, hrow, hschema⟩
    have href : row.ref = ref := hkeyed ref row hrow
    exact ⟨hschema, href ▸ hrow⟩
  · rintro ⟨hschema, hrow⟩
    exact ⟨row.ref, hrow, hschema⟩

/-- A plan for a schema of a keyed store finds the row of a name where the store has it. -/
theorem Keyed.getElem?_storedOf {store : Store} (hkeyed : store.Keyed) (schemaId name : String) :
    (Replacement.storedOf schemaId (store.ofSchema schemaId))[name]? = store[(⟨schemaId, name⟩ :
      FieldRef)]? := by
  have hmem : ∀ row, row ∈ (store.ofSchema schemaId).filter (·.schemaId == schemaId) ↔
      row.schemaId = schemaId ∧ store[row.ref]? = some row := by
    intro row
    rw [List.mem_filter, hkeyed.mem_ofSchema, beq_iff_eq]
    exact and_iff_left_of_imp And.left
  unfold Replacement.storedOf Replacement.byName
  cases hrow : store[(⟨schemaId, name⟩ : FieldRef)]? with
  | none =>
    rw [getElem?_foldl_insert_of_forall_ne FieldPolicy.fieldName, Std.ExtTreeMap.getElem?_empty]
    intro row hin hname
    obtain ⟨hschema, hstored⟩ := (hmem row).1 hin
    rw [show row.ref = ⟨schemaId, name⟩ by rw [FieldPolicy.ref, hschema, hname], hrow] at hstored
    cases hstored
  | some row =>
    have href : row.ref = ⟨schemaId, name⟩ := hkeyed _ _ hrow
    obtain ⟨hschema, hname⟩ := FieldRef.mk.inj href
    have hin := (hmem row).2 ⟨hschema, href ▸ hrow⟩
    rw [← hname]
    refine getElem?_foldl_insert_of_unique FieldPolicy.fieldName hin ?_
    intro other hother hsame
    obtain ⟨hschema', hstored⟩ := (hmem other).1 hother
    rw [show other.ref = ⟨schemaId, name⟩ by rw [FieldPolicy.ref, hschema', hsame, hname],
      hrow] at hstored
    exact (Option.some.inj hstored).symm

theorem getElem?_eraseRows (store : Store) (rows : List FieldPolicy) (ref : FieldRef) :
    (store.eraseRows rows)[ref]? = if ref ∈ rows.map (·.ref) then none else store[ref]? := by
  unfold eraseRows
  induction rows generalizing store with
  | nil => simp
  | cons row rest ih =>
    rw [List.foldl_cons, ih, Std.ExtTreeMap.getElem?_erase]
    by_cases hrow : row.ref = ref
    · simp [hrow]
    · have hrow' : ref ≠ row.ref := fun h => hrow h.symm
      simp [hrow, hrow']

/-- Looking up fields that are all there gives their rows in order. -/
theorem getAll_eq_ok {store : Store} {refs : List FieldRef}
    (hall : ∀ ref ∈ refs, store[ref]?.isSome) :
    store.getAll refs = .ok (refs.filterMap fun ref => store[ref]?) := by
  induction refs with
  | nil => rfl
  | cons ref rest ih =>
    obtain ⟨row, hrow⟩ := Option.isSome_iff_exists.1 (hall ref (by simp))
    rw [getAll, get, hrow, ih fun r hr => hall r (by simp [hr])]
    simp only [List.filterMap_cons, hrow]
    rfl

/-- Looking up fields fails at the first one that is absent. -/
theorem getAll_eq_error {store : Store} {refs : List FieldRef} {ref : FieldRef}
    (hfirst : refs.find? (fun ref => store[ref]?.isNone) = some ref) :
    store.getAll refs = .error (missing ref) := by
  induction refs with
  | nil => simp at hfirst
  | cons head rest ih =>
    rw [getAll, get]
    cases hrow : store[head]? with
    | none =>
      obtain rfl : head = ref := by simpa [hrow] using hfirst
      rfl
    | some row =>
      rw [List.find?_cons, hrow] at hfirst
      rw [ih hfirst]
      rfl

/-- A replacement succeeds exactly with a plan, which it carries out. -/
theorem replaceSchema_eq_ok_iff {store after : Store} {fresh : Nat → Uuid} {now : Instant}
    {schemaId : String} {records : List FieldRecord} {rows : List FieldPolicy} :
    store.replaceSchema fresh now schemaId records = .ok (rows, after) ↔
      ∃ plan, Replacement.plan fresh schemaId (store.ofSchema schemaId) records now = .ok plan ∧
        rows = plan.rows ∧ after = (store.eraseRows plan.deleted).insertRows plan.rows := by
  unfold replaceSchema
  cases Replacement.plan fresh schemaId (store.ofSchema schemaId) records now with
  | error error => simp
  | ok plan => simp [eq_comm]

/-- What the references of a store give after the fields of a schema were replaced: those of other
schemas give what they gave, those that the batch leaves out give nothing, and each record has its
row, which continues the former one or is among those inserted. -/
structure Replaced (store after : Store) (schemaId : String) (records : List FieldRecord)
    (now : Instant) (inserted : List FieldPolicy) : Prop where
  other : ∀ ref : FieldRef, ref.schemaId ≠ schemaId → after[ref]? = store[ref]?
  omitted : ∀ name, name ∉ records.map (·.fieldName) →
    after[(⟨schemaId, name⟩ : FieldRef)]? = none
  continued : ∀ record ∈ records, ∀ row,
    store[(⟨schemaId, record.fieldName⟩ : FieldRef)]? = some row →
      after[(⟨schemaId, record.fieldName⟩ : FieldRef)]? = some (row.submit record now)
  begun : ∀ record ∈ records, store[(⟨schemaId, record.fieldName⟩ : FieldRef)]? = none →
    ∃ row ∈ inserted, row = .introduce row.id schemaId record now ∧
      after[(⟨schemaId, record.fieldName⟩ : FieldRef)]? = some row

/-- What a plan for a schema of a keyed store deletes: the rows whose names the batch leaves out. -/
theorem Keyed.mem_deleted {store : Store} (hkeyed : store.Keyed) (fresh : Nat → Uuid)
    (schemaId : String) (records : List FieldRecord) (now : Instant) (ref : FieldRef) :
    ref ∈ (Replacement.ofRecords fresh schemaId (store.ofSchema schemaId) records
        now).deleted.map (·.ref) ↔
      ref.schemaId = schemaId ∧ ref.fieldName ∉ records.map (·.fieldName) ∧ ref ∈ store := by
  simp only [Replacement.ofRecords, List.map_map, List.mem_map, List.mem_filter, Prod.exists,
    Std.ExtTreeMap.mem_toList_iff_getElem?_eq_some, hkeyed.getElem?_storedOf, Function.comp_apply,
    Bool.not_eq_true', List.contains_eq_mem, decide_eq_false_iff_not]
  constructor
  · rintro ⟨name, row, ⟨hrow, hname⟩, rfl⟩
    have href := hkeyed _ _ hrow
    rw [href]
    exact ⟨rfl, hname, Std.ExtTreeMap.mem_iff_isSome_getElem?.2 (by rw [hrow]; rfl)⟩
  · rintro ⟨rfl, hname, hmem⟩
    obtain ⟨row, hrow⟩ := Option.isSome_iff_exists.1 (Std.ExtTreeMap.mem_iff_isSome_getElem?.1 hmem)
    exact ⟨ref.fieldName, row, ⟨hrow, hname⟩, hkeyed _ _ hrow⟩

/-- The rows of a plan for a schema of a keyed store belong to the fields of the batch. -/
theorem Keyed.refs_rows {store : Store} (hkeyed : store.Keyed) (fresh : Nat → Uuid)
    (schemaId : String) (records : List FieldRecord) (now : Instant) :
    (Replacement.ofRecords fresh schemaId (store.ofSchema schemaId) records
        now).rows.map (·.ref) = records.map fun record => ⟨schemaId, record.fieldName⟩ := by
  rw [Replacement.rows, List.map_map]
  refine Replacement.refs_fates fun name row hrow => ?_
  rw [hkeyed.getElem?_storedOf] at hrow
  exact hkeyed _ _ hrow

/-- The rows of a plan for a batch without repeated names belong to different fields. -/
theorem Keyed.nodup_refs_rows {store : Store} (hkeyed : store.Keyed) (fresh : Nat → Uuid)
    (schemaId : String) (now : Instant) {records : List FieldRecord}
    (hnodup : (records.map (·.fieldName)).Nodup) :
    ((Replacement.ofRecords fresh schemaId (store.ofSchema schemaId) records
        now).rows.map (·.ref)).Nodup := by
  rw [hkeyed.refs_rows fresh schemaId records now]
  refine List.Nodup.of_map (·.fieldName) ?_
  simpa [List.map_map, Function.comp_def] using hnodup

theorem getElem?_insertRows_of_notMem {store : Store} {rows : List FieldPolicy} {ref : FieldRef}
    (hnotMem : ref ∉ rows.map (·.ref)) : (store.insertRows rows)[ref]? = store[ref]? := by
  apply getElem?_foldl_insert_of_forall_ne FieldPolicy.ref
  intro row hrow href
  exact hnotMem (List.mem_map.2 ⟨row, hrow, href⟩)

/-- Rows of different fields are all found after they were stored. -/
theorem getElem?_insertRows {store : Store} {rows : List FieldPolicy} {row : FieldPolicy}
    (hnodup : (rows.map (·.ref)).Nodup) (hrow : row ∈ rows) :
    (store.insertRows rows)[row.ref]? = some row := by
  refine getElem?_foldl_insert_of_unique FieldPolicy.ref hrow ?_
  intro other hother hsame
  exact List.inj_on_of_nodup_map hnodup hother hrow hsame

/-- Where a plan writes nothing, what it deletes is gone and everything else is as before. -/
theorem getElem?_carriedOut_of_notMem {store : Store} {plan : Replacement} {ref : FieldRef}
    (hnotin : ref ∉ plan.rows.map (·.ref)) :
    ((store.eraseRows plan.deleted).insertRows plan.rows)[ref]? =
      if ref ∈ plan.deleted.map (·.ref) then none else store[ref]? := by
  rw [← getElem?_eraseRows, getElem?_insertRows_of_notMem hnotin]

/-- Every record of a batch without repeated names has a fate, and the row of its fate is found
after the plan was carried out. -/
theorem Keyed.exists_fate {store : Store} (hkeyed : store.Keyed) (fresh : Nat → Uuid)
    (schemaId : String) (now : Instant) {records : List FieldRecord}
    (hnodup : (records.map (·.fieldName)).Nodup) {record : FieldRecord}
    (hrecord : record ∈ records) :
    let plan := Replacement.ofRecords fresh schemaId (store.ofSchema schemaId) records now
    ∃ entry ∈ plan.kept, Replacement.Continues schemaId
        (Replacement.storedOf schemaId (store.ofSchema schemaId)) now record entry ∧
      ((store.eraseRows plan.deleted).insertRows plan.rows)[entry.2.ref]? = some entry.2 := by
  intro plan
  obtain ⟨entry, hentry, hcontinues⟩ :=
    Replacement.exists_continues Replacement.forall₂_fates hrecord
  refine ⟨entry, hentry, hcontinues, getElem?_insertRows ?_ (List.mem_map.2 ⟨entry, hentry, rfl⟩)⟩
  exact hkeyed.nodup_refs_rows fresh schemaId now hnodup

/-- The plan for a batch without repeated names, once carried out on a keyed store. -/
theorem Keyed.replaced {store : Store} (hkeyed : store.Keyed) (fresh : Nat → Uuid)
    (schemaId : String) (now : Instant) {records : List FieldRecord}
    (hnodup : (records.map (·.fieldName)).Nodup) :
    let plan := Replacement.ofRecords fresh schemaId (store.ofSchema schemaId) records now
    Replaced store ((store.eraseRows plan.deleted).insertRows plan.rows) schemaId records now
      plan.inserted := by
  intro plan
  have hrefs := hkeyed.refs_rows fresh schemaId records now
  constructor
  · intro ref hne
    rw [getElem?_carriedOut_of_notMem,
      if_neg fun hmem => hne ((hkeyed.mem_deleted _ _ _ _ ref).1 hmem).1]
    rw [hrefs]
    intro hmem
    obtain ⟨record, -, rfl⟩ := List.mem_map.1 hmem
    exact hne rfl
  · intro name hname
    rw [getElem?_carriedOut_of_notMem]
    · by_cases hmem : (⟨schemaId, name⟩ : FieldRef) ∈ store
      · rw [if_pos ((hkeyed.mem_deleted _ _ _ _ _).2 ⟨rfl, hname, hmem⟩)]
      · rw [Std.ExtTreeMap.getElem?_eq_none hmem, ite_self]
    · rw [hrefs]
      intro hmem
      obtain ⟨record, hrecord, href⟩ := List.mem_map.1 hmem
      exact hname (List.mem_map.2 ⟨record, hrecord, (FieldRef.mk.inj href).2⟩)
  · intro record hrecord row hrow
    obtain ⟨entry, hentry, hcontinues, hstored⟩ :=
      hkeyed.exists_fate fresh schemaId now hnodup hrecord
    rw [Replacement.Continues, hkeyed.getElem?_storedOf, hrow] at hcontinues
    subst hcontinues
    rwa [FieldPolicy.ref_submit, hkeyed _ _ hrow] at hstored
  · intro record hrecord hrow
    obtain ⟨entry, hentry, hcontinues, hstored⟩ :=
      hkeyed.exists_fate fresh schemaId now hnodup hrecord
    rw [Replacement.Continues, hkeyed.getElem?_storedOf, hrow] at hcontinues
    have hrow' : entry.2 = .introduce entry.2.id schemaId record now := (Prod.mk.inj hcontinues).2
    refine ⟨entry.2, ?_, hrow', ?_⟩
    · refine List.mem_map.2 ⟨entry, List.mem_filter.2 ⟨hentry, ?_⟩, rfl⟩
      rw [hcontinues]
      rfl
    · rw [hrow', FieldPolicy.ref_introduce] at hstored
      rw [hstored, ← hrow']

/-- **Replacement.** On a keyed store a successful replacement gives every record of its batch a
row, drops the other rows of the schema, and leaves the other schemas alone. -/
theorem Keyed.replaced_of_replaceSchema {store after : Store} {fresh : Nat → Uuid} {now : Instant}
    {schemaId : String} {records : List FieldRecord} {rows : List FieldPolicy}
    (hkeyed : store.Keyed)
    (hok : store.replaceSchema fresh now schemaId records = .ok (rows, after)) :
    checkRecords records = .ok () ∧ Replaced store after schemaId records now
      (Replacement.ofRecords fresh schemaId (store.ofSchema schemaId) records now).inserted := by
  obtain ⟨plan, hplan, -, rfl⟩ := replaceSchema_eq_ok_iff.1 hok
  cases hcheck : checkRecords records with
  | error error =>
    rw [Replacement.plan_eq_error _ hcheck] at hplan
    cases hplan
  | ok _ =>
    rw [Replacement.plan_eq_ok _ hcheck] at hplan
    obtain rfl := Except.ok.inj hplan
    exact ⟨rfl, hkeyed.replaced fresh schemaId now (checkRecords_eq_ok_iff.1 hcheck).2⟩

/-- Where a row comes from that is there after a replacement. -/
theorem Replaced.origin {store after : Store} {schemaId : String} {records : List FieldRecord}
    {now : Instant} {inserted : List FieldPolicy}
    (h : Replaced store after schemaId records now inserted) {ref : FieldRef} {row : FieldPolicy}
    (hrow : after[ref]? = some row) :
    (ref.schemaId ≠ schemaId ∧ store[ref]? = some row) ∨
      ∃ record ∈ records, ref = ⟨schemaId, record.fieldName⟩ ∧
        ((∃ old, store[ref]? = some old ∧ row = old.submit record now) ∨
          (row ∈ inserted ∧ row = .introduce row.id schemaId record now)) := by
  by_cases hschema : ref.schemaId = schemaId
  · right
    obtain ⟨schema, name⟩ := ref
    obtain rfl : schema = schemaId := hschema
    by_cases hname : name ∈ records.map (·.fieldName)
    · obtain ⟨record, hrecord, rfl⟩ := List.mem_map.1 hname
      refine ⟨record, hrecord, rfl, ?_⟩
      cases hold : store[(⟨schema, record.fieldName⟩ : FieldRef)]? with
      | some old =>
        rw [h.continued record hrecord old hold] at hrow
        exact .inl ⟨old, rfl, (Option.some.inj hrow).symm⟩
      | none =>
        obtain ⟨new, hnew, hintroduced, hstored⟩ := h.begun record hrecord hold
        rw [hstored] at hrow
        obtain rfl := Option.some.inj hrow
        exact .inr ⟨hnew, hintroduced⟩
    · rw [h.omitted name hname] at hrow
      cases hrow
  · exact .inl ⟨hschema, h.other ref hschema ▸ hrow⟩

/-- A replacement keeps a store keyed. -/
theorem Replaced.keyed {store after : Store} {schemaId : String} {records : List FieldRecord}
    {now : Instant} {inserted : List FieldPolicy}
    (h : Replaced store after schemaId records now inserted) (hkeyed : store.Keyed) :
    after.Keyed := by
  intro ref row hrow
  rcases h.origin hrow with ⟨-, hold⟩ | ⟨record, -, rfl, ⟨old, hold, rfl⟩ | ⟨-, hnew⟩⟩
  · exact hkeyed ref row hold
  · rw [FieldPolicy.ref_submit]
    exact hkeyed _ _ hold
  · rw [hnew, FieldPolicy.ref_introduce]

/-- After a replacement the row of a record describes its field as the record does, and the
applications on its allow-list are those that were there before. -/
theorem Replaced.exists_row {store after : Store} {schemaId : String} {records : List FieldRecord}
    {now : Instant} {inserted : List FieldPolicy}
    (h : Replaced store after schemaId records now inserted) (hkeyed : store.Keyed)
    {record : FieldRecord} (hrecord : record ∈ records) :
    ∃ row, after[(⟨schemaId, record.fieldName⟩ : FieldRef)]? = some row ∧ row.record = record ∧
      ∀ application : String, row.allowList[application]? =
        store[(⟨schemaId, record.fieldName⟩ : FieldRef)]?.bind fun row =>
          row.allowList[application]? := by
  cases hold : store[(⟨schemaId, record.fieldName⟩ : FieldRef)]? with
  | some old =>
    refine ⟨_, h.continued record hrecord old hold, ?_, ?_⟩
    · exact FieldPolicy.record_submit now (FieldRef.mk.inj (hkeyed _ _ hold)).2
    · intro application
      rw [FieldPolicy.allowList_submit, Option.bind_some]
  | none =>
    obtain ⟨row, -, hrow, hstored⟩ := h.begun record hrecord hold
    refine ⟨row, hstored, ?_, ?_⟩
    · rw [hrow, FieldPolicy.record_introduce]
    · intro application
      rw [hrow]
      simp [FieldPolicy.introduce]

/-- What the references of a store give after a grant to fields that are all there. -/
theorem getElem?_grantEach (application : String) (grant : Grant) (store : Store)
    (refs : List FieldRef) (ref : FieldRef) :
    (grantEach application grant store refs).2[ref]? =
      if ref ∈ refs then store[ref]?.map (·.grant application grant) else store[ref]? := by
  induction refs generalizing store with
  | nil => rfl
  | cons head rest ih =>
    rw [grantEach]
    cases hhead : store[head]? with
    | none =>
      simp only [ih, List.mem_cons]
      by_cases heq : ref = head
      · subst heq
        simp [hhead]
      · simp [heq]
    | some row =>
      simp only [ih, List.mem_cons, Std.ExtTreeMap.getElem?_insert]
      by_cases heq : ref = head
      · subst heq
        simp [hhead, FieldPolicy.grant_grant]
      · have heq' : head ≠ ref := fun h => heq h.symm
        simp [heq, heq']

theorem not_contains_iff {store : Store} {ref : FieldRef} :
    (!store.contains ref) = true ↔ ref ∉ store := by
  rw [Bool.not_eq_true', ← Bool.not_eq_true, Std.ExtTreeMap.contains_iff_mem]

theorem find?_absent_eq_none_iff {store : Store} {refs : List FieldRef} :
    (refs.find? fun ref => !store.contains ref) = none ↔ ∀ ref ∈ refs, ref ∈ store := by
  simp only [List.find?_eq_none, not_contains_iff, not_not]

/-- A grant succeeds exactly if its fields are all there, and is then carried out. -/
theorem grant_eq_ok_iff {store after : Store} {application : String} {refs : List FieldRef}
    {grant : Grant} {rows : List FieldPolicy} :
    store.grant application refs grant = .ok (rows, after) ↔
      (∀ ref ∈ refs, ref ∈ store) ∧ grantEach application grant store refs = (rows, after) := by
  rw [← find?_absent_eq_none_iff, Store.grant]
  cases refs.find? fun ref => !store.contains ref with
  | some ref => simp
  | none => simp

/-- **Grant.** A successful grant changes the rows that it names, all of which are there, and
nothing else. -/
theorem getElem?_of_grant {store after : Store} {application : String} {refs : List FieldRef}
    {grant : Grant} {rows : List FieldPolicy}
    (hok : store.grant application refs grant = .ok (rows, after)) :
    (∀ ref ∈ refs, ref ∈ store) ∧ ∀ ref : FieldRef, after[ref]? =
      if ref ∈ refs then store[ref]?.map (·.grant application grant) else store[ref]? := by
  obtain ⟨hall, hgranted⟩ := grant_eq_ok_iff.1 hok
  refine ⟨hall, fun ref => ?_⟩
  have hafter := getElem?_grantEach application grant store refs ref
  rwa [hgranted] at hafter

/-- A grant keeps a store keyed. -/
theorem Keyed.grant {store after : Store} {application : String} {refs : List FieldRef}
    {grant : Grant} {rows : List FieldPolicy} (hkeyed : store.Keyed)
    (hok : store.grant application refs grant = .ok (rows, after)) : after.Keyed := by
  intro ref row hrow
  rw [(getElem?_of_grant hok).2 ref] at hrow
  split at hrow
  · obtain ⟨old, hold, rfl⟩ := Option.map_eq_some_iff.1 hrow
    exact hkeyed ref old hold
  · exact hkeyed ref row hrow

end Store

end FieldAccess
