import Mathlib.Data.List.Forall2
import Mathlib.Data.List.Nodup
import FieldAccess.Policy.Store

/-!
# Replacement plans

What a plan holds, stated without the order in which its parts are found out. A batch that passes
its check is planned without any further error; then every record has one row, which continues the
stored row of its name or begins a new one.

## Main definitions

* `FieldPolicy.submit`, `FieldPolicy.introduce` – the row of a record, continued or new.
* `Replacement.ofRecords` – the plan for a batch that is in order.

## Main statements

* `checkRecords_eq_ok_iff` – the batches that are in order.
* `checkRecords_eq_error_iff` – the first fault of a batch.
* `Replacement.plan_eq_ok`, `Replacement.plan_eq_error` – a plan fails exactly as the check does.
-/

namespace FieldAccess

/-- A record is in order when it has a name, and an owner exactly if the provider is none. -/
theorem FieldRecord.check_eq_ok_iff {record : FieldRecord} :
    record.check = .ok () ↔
      Text.isBlankText record.fieldName = false ∧ record.isOwner = record.owner.isNone := by
  unfold FieldRecord.check
  cases hname : Text.isBlankText record.fieldName with
  | true => simp
  | false =>
    by_cases howner : record.isOwner = record.owner.isNone
    · simp [howner]
    · simp [howner]

theorem checkRecordsAfter_cons {seen : List String} {record : FieldRecord}
    (hcheck : record.check = .ok ()) (rest : List FieldRecord) :
    checkRecordsAfter seen (record :: rest) =
      if record.fieldName ∈ seen then .error (.invalidArgument (.repeatedField record.fieldName))
      else checkRecordsAfter (record.fieldName :: seen) rest := by
  rw [checkRecordsAfter, hcheck]
  change (if seen.contains record.fieldName then _ else _) = _
  simp only [List.contains_eq_mem, decide_eq_true_eq]

theorem checkRecordsAfter_eq_ok_iff {seen : List String} {records : List FieldRecord} :
    checkRecordsAfter seen records = .ok () ↔
      (∀ record ∈ records, record.check = .ok ()) ∧ (records.map (·.fieldName)).Nodup ∧
        ∀ record ∈ records, record.fieldName ∉ seen := by
  induction records generalizing seen with
  | nil => simp [checkRecordsAfter]
  | cons record rest ih =>
    cases hcheck : record.check with
    | error error =>
      rw [checkRecordsAfter, hcheck]
      constructor
      · intro h
        cases h
      · rintro ⟨h, -, -⟩
        have := h record (by simp)
        rw [hcheck] at this
        cases this
    | ok _ =>
      rw [checkRecordsAfter_cons hcheck]
      by_cases hseen : record.fieldName ∈ seen
      · rw [if_pos hseen]
        constructor
        · intro h
          cases h
        · rintro ⟨-, -, h⟩
          exact absurd hseen (h record (by simp))
      · rw [if_neg hseen, ih]
        simp only [List.mem_cons, List.map_cons, List.nodup_cons, List.mem_map, not_exists,
          not_and, not_or, forall_eq_or_imp, hcheck, hseen, not_false_eq_true, true_and]
        constructor
        · rintro ⟨hall, hnodup, hfresh⟩
          exact ⟨hall, ⟨fun r hr => (hfresh r hr).1, hnodup⟩, fun r hr => (hfresh r hr).2⟩
        · rintro ⟨hall, ⟨hne, hnodup⟩, hfresh⟩
          exact ⟨hall, hnodup, fun r hr => ⟨hne r hr, hfresh r hr⟩⟩

/-- A batch is in order when each record is and no name occurs twice. -/
theorem checkRecords_eq_ok_iff {records : List FieldRecord} :
    checkRecords records = .ok () ↔
      (∀ record ∈ records, record.check = .ok ()) ∧ (records.map (·.fieldName)).Nodup := by
  simp [checkRecords, checkRecordsAfter_eq_ok_iff]

/-- Records that are in order are passed over, and their names are remembered. -/
theorem checkRecordsAfter_append {seen : List String} {before : List FieldRecord}
    (hbefore : checkRecordsAfter seen before = .ok ()) (after : List FieldRecord) :
    checkRecordsAfter seen (before ++ after) =
      checkRecordsAfter ((before.map (·.fieldName)).reverse ++ seen) after := by
  induction before generalizing seen with
  | nil => rfl
  | cons record rest ih =>
    obtain ⟨hcheck, -, hfresh⟩ := checkRecordsAfter_eq_ok_iff.1 hbefore
    have hrecord : record.check = .ok () := hcheck record (by simp)
    have hseen : record.fieldName ∉ seen := hfresh record (by simp)
    rw [checkRecordsAfter_cons hrecord, if_neg hseen] at hbefore
    rw [List.cons_append, checkRecordsAfter_cons hrecord, if_neg hseen, ih hbefore]
    simp

theorem checkRecordsAfter_eq_error_iff {seen : List String} {records : List FieldRecord}
    {error : PolicyError} :
    checkRecordsAfter seen records = .error error ↔
      ∃ before record after, records = before ++ record :: after ∧
        checkRecordsAfter seen before = .ok () ∧
        (record.check = .error error ∨
          record.check = .ok () ∧ record.fieldName ∈ before.map (·.fieldName) ++ seen ∧
            error = .invalidArgument (.repeatedField record.fieldName)) := by
  constructor
  · intro herror
    induction records generalizing seen with
    | nil => cases herror
    | cons head rest ih =>
      cases hcheck : head.check with
      | error fault =>
        rw [checkRecordsAfter, hcheck] at herror
        obtain rfl : fault = error := Except.error.inj herror
        exact ⟨[], head, rest, rfl, rfl, .inl hcheck⟩
      | ok _ =>
        rw [checkRecordsAfter_cons hcheck] at herror
        by_cases hseen : head.fieldName ∈ seen
        · rw [if_pos hseen] at herror
          exact ⟨[], head, rest, rfl, rfl, .inr ⟨hcheck, hseen, (Except.error.inj herror).symm⟩⟩
        · rw [if_neg hseen] at herror
          obtain ⟨before, record, after, rfl, hbefore, hfault⟩ := ih herror
          refine ⟨head :: before, record, after, rfl, ?_, ?_⟩
          · rw [checkRecordsAfter_cons hcheck, if_neg hseen, hbefore]
          · simpa [or_left_comm] using hfault
  · rintro ⟨before, record, after, rfl, hbefore, hfault⟩
    rw [checkRecordsAfter_append hbefore]
    rcases hfault with hcheck | ⟨hcheck, hrepeated, rfl⟩
    · rw [checkRecordsAfter, hcheck]
      rfl
    · rw [checkRecordsAfter_cons hcheck]
      exact if_pos (by simpa using hrepeated)

/-- **The first fault.** A batch is refused for the first record that is not in order by itself or
repeats the name of an earlier one. -/
theorem checkRecords_eq_error_iff {records : List FieldRecord} {error : PolicyError} :
    checkRecords records = .error error ↔
      ∃ before record after, records = before ++ record :: after ∧ checkRecords before = .ok () ∧
        (record.check = .error error ∨
          record.check = .ok () ∧ record.fieldName ∈ before.map (·.fieldName) ∧
            error = .invalidArgument (.repeatedField record.fieldName)) := by
  simpa [checkRecords] using @checkRecordsAfter_eq_error_iff [] records error

namespace FieldPolicy

/-- The row after a record for its field: as it was, if the record says nothing new. -/
def submit (row : FieldPolicy) (record : FieldRecord) (now : Instant) : FieldPolicy :=
  if row.agrees record then row else row.describe record now

/-- The row of a field that was not there. -/
def introduce (id : Uuid) (schemaId : String) (record : FieldRecord) (now : Instant) :
    FieldPolicy where
  id
  schemaId
  fieldName := record.fieldName
  displayName := record.displayName
  description := record.description
  source := record.source
  isOwner := record.isOwner
  accessControl := record.accessControl
  allowList := ∅
  owner := record.owner
  createdAt := now
  updatedAt := now

theorem apply_eq {row : FieldPolicy} {record : FieldRecord} (now : Instant)
    (hcheck : record.check = .ok ()) :
    row.apply record now = .ok (row.submit record now, !row.agrees record) := by
  simp only [apply, hcheck, submit]
  cases row.agrees record <;> rfl

theorem create_eq {record : FieldRecord} (id : Uuid) (schemaId : String) (now : Instant)
    (hcheck : record.check = .ok ()) :
    create id schemaId record now = .ok (introduce id schemaId record now) := by
  simp only [create, hcheck]
  rfl

@[simp] theorem ref_submit (row : FieldPolicy) (record : FieldRecord) (now : Instant) :
    (row.submit record now).ref = row.ref := by
  unfold submit
  split <;> rfl

@[simp] theorem id_submit (row : FieldPolicy) (record : FieldRecord) (now : Instant) :
    (row.submit record now).id = row.id := by
  unfold submit
  split <;> rfl

@[simp] theorem allowList_submit (row : FieldPolicy) (record : FieldRecord) (now : Instant) :
    (row.submit record now).allowList = row.allowList := by
  unfold submit
  split <;> rfl

/-- A row agrees with a record for its field when it describes the field in the same way. -/
theorem agrees_iff {row : FieldPolicy} {record : FieldRecord}
    (hname : row.fieldName = record.fieldName) : row.agrees record ↔ row.record = record := by
  cases record
  simp_all [agrees, FieldPolicy.record, and_assoc]

/-- A record for the field of a row changes the description of the field to its own. -/
theorem record_describe {row : FieldPolicy} {record : FieldRecord} (now : Instant)
    (hname : row.fieldName = record.fieldName) : (row.describe record now).record = record := by
  cases record
  simp_all [FieldPolicy.record, describe]

/-- After a submission the row describes the field as the record does. -/
theorem record_submit {row : FieldPolicy} {record : FieldRecord} (now : Instant)
    (hname : row.fieldName = record.fieldName) : (row.submit record now).record = record := by
  unfold submit
  split
  · rename_i hagrees
    exact (agrees_iff hname).1 hagrees
  · exact record_describe now hname

@[simp] theorem record_introduce (id : Uuid) (schemaId : String) (record : FieldRecord)
    (now : Instant) : (introduce id schemaId record now).record = record := rfl

@[simp] theorem ref_introduce (id : Uuid) (schemaId : String) (record : FieldRecord)
    (now : Instant) : (introduce id schemaId record now).ref = ⟨schemaId, record.fieldName⟩ := rfl

end FieldPolicy

namespace Replacement

/-- The rows of a batch whose records are in order, each with its fate. -/
def fates (schemaId : String) (stored : Std.ExtTreeMap String FieldPolicy) (now : Instant) :
    (fresh : Nat → Uuid) → List FieldRecord → List (Fate × FieldPolicy)
  | _, [] => []
  | fresh, record :: rest =>
    match stored[record.fieldName]? with
    | some row =>
      ((if row.agrees record then .unchanged else .updated), row.submit record now) ::
        fates schemaId stored now fresh rest
    | none =>
      (.inserted, .introduce (fresh 0) schemaId record now) ::
        fates schemaId stored now (fun n => fresh (n + 1)) rest

variable {schemaId : String} {stored : Std.ExtTreeMap String FieldPolicy} {now : Instant}
  {fresh : Nat → Uuid} {records : List FieldRecord}

theorem keep_eq_fates (hcheck : ∀ record ∈ records, record.check = .ok ()) :
    keep schemaId stored now fresh records = .ok (fates schemaId stored now fresh records) := by
  induction records generalizing fresh with
  | nil => rfl
  | cons record rest ih =>
    have hhead : record.check = .ok () := hcheck record (by simp)
    have htail : ∀ r ∈ rest, r.check = .ok () := fun r hr => hcheck r (by simp [hr])
    rw [keep, fates]
    cases stored[record.fieldName]? with
    | some row =>
      simp only [FieldPolicy.apply_eq now hhead, ih htail]
      cases row.agrees record <;> rfl
    | none =>
      simp only [FieldPolicy.create_eq (fresh 0) schemaId now hhead, ih htail]
      rfl

/-- What the entry of a record says: the stored row of its name is continued, and if there is none
a new row is begun. -/
def Continues (schemaId : String) (stored : Std.ExtTreeMap String FieldPolicy) (now : Instant)
    (record : FieldRecord) (entry : Fate × FieldPolicy) : Prop :=
  match stored[record.fieldName]? with
  | some row =>
    entry = ((if row.agrees record then .unchanged else .updated), row.submit record now)
  | none => entry = (.inserted, .introduce entry.2.id schemaId record now)

theorem forall₂_fates :
    List.Forall₂ (Continues schemaId stored now) records
      (fates schemaId stored now fresh records) := by
  induction records generalizing fresh with
  | nil => exact .nil
  | cons record rest ih =>
    rw [fates]
    cases hstored : stored[record.fieldName]? with
    | some row =>
      refine .cons ?_ ih
      simp [Continues, hstored]
    | none =>
      refine .cons ?_ ih
      simp [Continues, hstored, FieldPolicy.introduce]

/-- Every record has an entry. -/
theorem exists_continues {record : FieldRecord} {entries : List (Fate × FieldPolicy)}
    (hentries : List.Forall₂ (Continues schemaId stored now) records entries)
    (hrecord : record ∈ records) :
    ∃ entry ∈ entries, Continues schemaId stored now record entry := by
  induction hentries with
  | nil => simp at hrecord
  | @cons head entry rest entries hhead _ ih =>
    rcases List.mem_cons.1 hrecord with rfl | hrest
    · exact ⟨entry, by simp, hhead⟩
    · obtain ⟨found, hfound, hcontinues⟩ := ih hrest
      exact ⟨found, by simp [hfound], hcontinues⟩

/-- The rows of a batch belong to its fields, in the order of the records. -/
theorem refs_fates
    (hstored : ∀ (name : String) (row : FieldPolicy),
      stored[name]? = some row → row.ref = ⟨schemaId, name⟩) :
    (fates schemaId stored now fresh records).map (fun entry => entry.2.ref) =
      records.map fun record => ⟨schemaId, record.fieldName⟩ := by
  induction records generalizing fresh with
  | nil => rfl
  | cons record rest ih =>
    rw [fates]
    cases hrow : stored[record.fieldName]? with
    | some row => simp [ih, hstored _ _ hrow]
    | none => simp [ih]

/-- The stored rows of a schema by their names, as a plan looks them up. -/
def storedOf (schemaId : String) (existing : List FieldPolicy) :
    Std.ExtTreeMap String FieldPolicy :=
  byName (existing.filter fun row => row.schemaId == schemaId)

/-- The plan for a batch that is in order. -/
def ofRecords (fresh : Nat → Uuid) (schemaId : String) (existing : List FieldPolicy)
    (records : List FieldRecord) (now : Instant) : Replacement where
  kept := fates schemaId (storedOf schemaId existing) now fresh records
  deleted := ((storedOf schemaId existing).toList.filter fun (name, _) =>
    !(records.map (·.fieldName)).contains name).map (·.2)

/-- The records of fields that are not stored get new rows, with the supplied identifiers in
turn. -/
theorem ids_inserted_ofRecords (existing : List FieldPolicy) :
    (ofRecords fresh schemaId existing records now).inserted.map (·.id) =
      (List.range (records.filter fun record =>
        (storedOf schemaId existing)[record.fieldName]?.isNone).length).map fresh := by
  simp only [inserted, withFate, ofRecords]
  generalize storedOf schemaId existing = stored
  induction records generalizing fresh with
  | nil => rfl
  | cons record rest ih =>
    rw [fates]
    cases hstored : stored[record.fieldName]? with
    | some row =>
      have hfate : ((if row.agrees record then Fate.unchanged else .updated) == .inserted) =
          false := by
        split <;> rfl
      simpa [List.filter_cons, hfate, hstored] using ih
    | none =>
      simp only [List.filter_cons, beq_self_eq_true, if_true, List.map_cons, List.length_cons,
        List.range_succ_eq_map, List.map_map, ih, hstored, Option.isNone_none]
      rfl

/-- A batch that is in order is planned. -/
theorem plan_eq_ok (existing : List FieldPolicy) (hcheck : checkRecords records = .ok ()) :
    plan fresh schemaId existing records now =
      .ok (ofRecords fresh schemaId existing records now) := by
  have hrecords := (checkRecords_eq_ok_iff.1 hcheck).1
  simp only [plan, hcheck]
  change (keep schemaId (storedOf schemaId existing) now fresh records >>= _) = _
  rw [keep_eq_fates hrecords]
  rfl

/-- A batch that is not in order has no plan, whatever is stored. -/
theorem plan_eq_error (existing : List FieldPolicy) {error : PolicyError}
    (hcheck : checkRecords records = .error error) :
    plan fresh schemaId existing records now = .error error := by
  simp only [plan, hcheck]
  rfl

end Replacement

end FieldAccess
