import FieldAccess.Proofs.OfflineConversion

/-!
# Faults of batches

A batch of records is checked where it is submitted, where the store takes it, and once more record
by record while its plan is made. All of them come to the same: a batch is refused for the first of
its records that has a fault, and a batch that is accepted has none that could be found later.

## Main definitions

* `FieldRecord.faultAfter?` – the fault of a record, given the records in front of it.
* `FirstFault` – the fault for which a batch is refused.
* `RefusedFor` – results that tell the first fault of a batch.

## Main statements

* `checkRecords_eq_error_iff_firstFault` – the check of a batch tells its first fault.
* `Service.batch_refused_for_first_fault` – so do the call, the store and the plan.
-/

namespace FieldAccess

/-- The fault of a record that stands behind `earlier` ones in its batch. Its name is looked at
first, then its owner, and last whether the name has occurred. -/
def FieldRecord.faultAfter? (earlier : List FieldRecord) (record : FieldRecord) :
    Option ArgumentFault :=
  if Text.isBlankText record.fieldName then some (.blank "fieldName")
  else if record.isOwner ≠ record.owner.isNone then some (.ownership (some record.fieldName))
  else if record.fieldName ∈ earlier.map (·.fieldName) then
    some (.repeatedField record.fieldName)
  else none

/-- A batch without faults. -/
def Faultless (records : List FieldRecord) : Prop :=
  ∀ earlier record later, records = earlier ++ record :: later → record.faultAfter? earlier = none

/-- The fault for which a batch is refused: that of its first record that has one. -/
def FirstFault (records : List FieldRecord) (fault : ArgumentFault) : Prop :=
  ∃ before record after, records = before ++ record :: after ∧ Faultless before ∧
    record.faultAfter? before = some fault

/-- A result that is an error exactly if the name of some record is blank, its owner breaks the rule
or its name is that of an earlier record; and the error tells the first fault of the batch. -/
structure RefusedFor {ε α : Type} (records : List FieldRecord) (tell : ArgumentFault → ε)
    (result : Except ε α) : Prop where
  fails_iff : (∃ error, result = .error error) ↔
    ∃ before record after, records = before ++ record :: after ∧
      (Text.isBlankText record.fieldName = true ∨ record.isOwner ≠ record.owner.isNone ∨
        record.fieldName ∈ before.map (·.fieldName))
  error_iff : ∀ error, result = .error error ↔
    ∃ fault, FirstFault records fault ∧ error = tell fault

namespace FieldRecord

variable {earlier : List FieldRecord} {record : FieldRecord} {fault : ArgumentFault}

theorem faultAfter?_eq_none_iff : record.faultAfter? earlier = none ↔
    ¬ (Text.isBlankText record.fieldName = true ∨ record.isOwner ≠ record.owner.isNone ∨
      record.fieldName ∈ earlier.map (·.fieldName)) := by
  unfold faultAfter?
  grind

/-- The fault of a record is the one that its own check finds, or else its repeated name. -/
theorem faultAfter?_eq_some_iff : record.faultAfter? earlier = some fault ↔
    record.check = .error (.invalidArgument fault) ∨
      record.check = .ok () ∧ record.fieldName ∈ earlier.map (·.fieldName) ∧
        fault = .repeatedField record.fieldName := by
  unfold faultAfter? check
  grind

end FieldRecord

section Checks

variable {records : List FieldRecord}

theorem checkRecords_eq_ok_iff_faultless : checkRecords records = .ok () ↔ Faultless records := by
  constructor
  · rintro hok earlier record later rfl
    obtain ⟨hchecks, hnames⟩ := checkRecords_eq_ok_iff.1 hok
    obtain ⟨hname, howner⟩ := FieldRecord.check_eq_ok_iff.1 (hchecks record (by simp))
    rw [FieldRecord.faultAfter?_eq_none_iff]
    rintro (hblank | hbroken | hrepeated)
    · simp [hname] at hblank
    · exact hbroken howner
    · rw [List.map_append, List.map_cons] at hnames
      exact (List.nodup_append.1 hnames).2.2 _ hrepeated _ (by simp) rfl
  · intro hfaultless
    cases hcheck : checkRecords records with
    | ok _ => rfl
    | error error =>
      obtain ⟨before, record, after, hrecords, -, hfault⟩ := checkRecords_eq_error_iff.1 hcheck
      obtain ⟨fault, rfl⟩ := exists_fault_of_checkRecords hcheck
      have hnone := hfaultless before record after hrecords
      have hsome : record.faultAfter? before = some fault :=
        FieldRecord.faultAfter?_eq_some_iff.2 (by simpa using hfault)
      rw [hnone] at hsome
      cases hsome

/-- **The first fault.** The check of a batch tells its first fault. -/
theorem checkRecords_eq_error_iff_firstFault {error : PolicyError} :
    checkRecords records = .error error ↔
      ∃ fault, FirstFault records fault ∧ error = .invalidArgument fault := by
  constructor
  · intro hcheck
    obtain ⟨fault, rfl⟩ := exists_fault_of_checkRecords hcheck
    obtain ⟨before, record, after, hrecords, hbefore, hfault⟩ :=
      checkRecords_eq_error_iff.1 hcheck
    refine ⟨fault, ⟨before, record, after, hrecords,
      checkRecords_eq_ok_iff_faultless.1 hbefore, ?_⟩, rfl⟩
    exact FieldRecord.faultAfter?_eq_some_iff.2 (by simpa using hfault)
  · rintro ⟨fault, ⟨before, record, after, hrecords, hbefore, hfault⟩, rfl⟩
    refine checkRecords_eq_error_iff.2 ⟨before, record, after, hrecords,
      checkRecords_eq_ok_iff_faultless.2 hbefore, ?_⟩
    simpa using FieldRecord.faultAfter?_eq_some_iff.1 hfault

theorem checkRecords_eq_invalidArgument_iff {fault : ArgumentFault} :
    checkRecords records = .error (.invalidArgument fault) ↔ FirstFault records fault := by
  simp [checkRecords_eq_error_iff_firstFault]

theorem checkRecords_fails_iff : (∃ error, checkRecords records = .error error) ↔
    ∃ before record after, records = before ++ record :: after ∧
      (Text.isBlankText record.fieldName = true ∨ record.isOwner ≠ record.owner.isNone ∨
        record.fieldName ∈ before.map (·.fieldName)) := by
  have hfails : (∃ error, checkRecords records = .error error) ↔ ¬ Faultless records := by
    rw [← checkRecords_eq_ok_iff_faultless]
    cases checkRecords records <;> simp
  rw [hfails, Faultless]
  simp only [FieldRecord.faultAfter?_eq_none_iff, not_forall, exists_prop, not_not]

/-- What succeeds with the check of a batch, and fails with it for the same fault, tells the first
fault of the batch. -/
theorem RefusedFor.of_check {ε α : Type} {tell : ArgumentFault → ε} {result : Except ε α}
    (hok : checkRecords records = .ok () → ∃ a, result = .ok a)
    (herror : ∀ fault, checkRecords records = .error (.invalidArgument fault) →
      result = .error (tell fault)) :
    RefusedFor records tell result := by
  have htold : ∀ error, result = .error error ↔
      ∃ fault, checkRecords records = .error (.invalidArgument fault) ∧ error = tell fault := by
    intro error
    cases hcheck : checkRecords records with
    | ok _ =>
      obtain ⟨a, rfl⟩ := hok hcheck
      simp
    | error found =>
      obtain ⟨fault, rfl⟩ := exists_fault_of_checkRecords hcheck
      rw [herror fault hcheck]
      simp [eq_comm]
  constructor
  · rw [← checkRecords_fails_iff]
    constructor
    · rintro ⟨error, hresult⟩
      obtain ⟨fault, hcheck, -⟩ := (htold error).1 hresult
      exact ⟨_, hcheck⟩
    · rintro ⟨error, hcheck⟩
      obtain ⟨fault, rfl⟩ := exists_fault_of_checkRecords hcheck
      exact ⟨_, (htold _).2 ⟨fault, hcheck, rfl⟩⟩
  · intro error
    rw [htold]
    simp only [checkRecords_eq_invalidArgument_iff]

end Checks

theorem Replacement.refusedFor_plan (fresh : Nat → Uuid) (schemaId : String)
    (existing : List FieldPolicy) (records : List FieldRecord) (now : Instant) :
    RefusedFor records .invalidArgument (plan fresh schemaId existing records now) :=
  .of_check (fun hok => ⟨_, plan_eq_ok existing hok⟩) fun _ hfault => plan_eq_error existing hfault

theorem Store.refusedFor_replaceSchema (store : Store) (fresh : Nat → Uuid) (now : Instant)
    (schemaId : String) (records : List FieldRecord) :
    RefusedFor records .validation (store.replaceSchema fresh now schemaId records) := by
  refine .of_check (fun hok => ?_) fun fault hfault => ?_
  · exact ⟨_, replaceSchema_eq_ok_iff.2 ⟨_, Replacement.plan_eq_ok _ hok, rfl, rfl⟩⟩
  · rw [replaceSchema, Replacement.plan_eq_error _ hfault]
    rfl

namespace Service

theorem refusedFor_replace {context : Context} (hworks : context.storeFault = none) (store : Store)
    {schemaId : String} (hschema : Text.isBlankText schemaId = false)
    (records : List FieldRecord) :
    RefusedFor records .invalidArgument (replace context store ⟨schemaId, records⟩).result := by
  rw [result_replace, replaceResult_eq_replaceFields hworks hschema]
  refine .of_check (fun hok => ?_) fun fault hfault => ?_
  · obtain ⟨rows, after, hreplaced⟩ : ∃ rows after,
        replaceFields context store schemaId records = .ok (rows, after) :=
      replaceFields_eq_ok hworks schemaId hok
    exact ⟨rows, by rw [hreplaced]; rfl⟩
  · rw [replaceFields_eq_error hworks schemaId hfault]
    rfl

/-- **Refused batches.** A replacement, the store and the plan refuse the same batches, for the same
fault and hence with the same wording: that of the first record that has one. They do so whatever is
stored and at any time. Behind the check of a batch no step of its plan fails, neither for a row
that is continued nor for one that is new. -/
theorem batch_refused_for_first_fault (context : Context) (hworks : context.storeFault = none)
    (store : Store) (existing : List FieldPolicy) (fresh : Nat → Uuid) (now : Instant)
    {schemaId : String} (hschema : Text.isBlankText schemaId = false)
    (records : List FieldRecord) :
    RefusedFor records .invalidArgument (replace context store ⟨schemaId, records⟩).result ∧
      RefusedFor records .validation (store.replaceSchema fresh now schemaId records) ∧
      RefusedFor records .invalidArgument
        (Replacement.plan fresh schemaId existing records now) ∧
      (checkRecords records = .ok () → ∀ record ∈ records, ∀ (row : FieldPolicy) (id : Uuid),
        (∃ result, row.apply record now = .ok result) ∧
          ∃ created, FieldPolicy.create id schemaId record now = .ok created) := by
  refine ⟨refusedFor_replace hworks store hschema records,
    store.refusedFor_replaceSchema fresh now schemaId records,
    Replacement.refusedFor_plan fresh schemaId existing records now, ?_⟩
  intro hok record hrecord row id
  have hcheck : record.check = .ok () := (checkRecords_eq_ok_iff.1 hok).1 record hrecord
  exact ⟨⟨_, FieldPolicy.apply_eq now hcheck⟩, _, FieldPolicy.create_eq id schemaId now hcheck⟩

/-- A batch in which a record of nobody stands in front of a blank and of a repeated name, after a
run. -/
theorem batch_refused_for_first_fault_readdition :
    let store := (run readdition).store
    let context := onDay 4
    let records : List FieldRecord := [{ fieldName := "name", isOwner := true },
      { fieldName := "photo", isOwner := false }, { fieldName := " ", isOwner := true },
      { fieldName := "name", isOwner := true }]
    let fault : ArgumentFault := .ownership (some "photo")
    context.storeFault = none ∧ Text.isBlankText "people" = false ∧ FirstFault records fault ∧
      (replace context store ⟨"people", records⟩).result = .error (.invalidArgument fault) ∧
      store.replaceSchema context.fresh context.now "people" records =
        .error (.validation fault) ∧
      Replacement.plan context.fresh "people" (store.ofSchema "people") records context.now =
        .error (.invalidArgument fault) := by
  intro store context records fault
  have hschema : Text.isBlankText "people" = false := by decide
  obtain ⟨hreplace, hstore, hplan, -⟩ := batch_refused_for_first_fault context rfl store
    (store.ofSchema "people") context.fresh context.now hschema records
  have hfirst : FirstFault records fault := by
    refine ⟨[{ fieldName := "name", isOwner := true }], _, _, rfl, ?_, by decide⟩
    exact checkRecords_eq_ok_iff_faultless.1 (by decide)
  exact ⟨rfl, hschema, hfirst, (hreplace.error_iff _).2 ⟨fault, hfirst, rfl⟩,
    (hstore.error_iff _).2 ⟨fault, hfirst, rfl⟩, (hplan.error_iff _).2 ⟨fault, hfirst, rfl⟩⟩

end Service

end FieldAccess
