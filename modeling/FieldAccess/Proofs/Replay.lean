import FieldAccess.Proofs.Accesses
import FieldAccess.Proofs.DecisionLog

/-!
# Replayed submissions

A submission that is made once more finds every field of its schema as it has left it: grants do not
change what a row says about its field, and other schemas have rows of their own. So it changes
nothing, and is answered with the rows that are there.

## Main definitions

* `Store.Holds` – a store that describes the fields of a schema as records do.
* `Request.schemaId?`, `Request.records?` – what a request submits.

## Main statements

* `Store.Keyed.replaceSchema_of_holds` – records that are held already change nothing.
* `Service.holds_run` – what a submission has put into the store stays until the next one.
* `Service.replayed_submission_changes_nothing` – the same for whole runs.
-/

namespace FieldAccess

/-- Records that agree with the stored rows of their names keep these rows. -/
theorem Replacement.fates_of_agrees {schemaId : String}
    {stored : Std.ExtTreeMap String FieldPolicy} {now : Instant} {fresh : Nat → Uuid}
    {records : List FieldRecord}
    (hagrees : ∀ record ∈ records, ∃ row : FieldPolicy,
      stored[record.fieldName]? = some row ∧ row.agrees record = true) :
    fates schemaId stored now fresh records =
      records.filterMap fun record => stored[record.fieldName]?.map (Fate.unchanged, ·) := by
  induction records generalizing fresh with
  | nil => rfl
  | cons record rest ih =>
    obtain ⟨row, hrow, hsame⟩ := hagrees record (by simp)
    have hrest := fun fresh => @ih fresh fun r hr => hagrees r (by simp [hr])
    have hsubmit : row.submit record now = row := if_pos hsame
    simp only [fates, hrow, hsame, hsubmit, hrest, List.filterMap_cons, Option.map_some, if_true]

namespace Store

/-- The store describes the fields of a schema as records do, and no others. -/
def Holds (store : Store) (schemaId : String) (records : List FieldRecord) : Prop :=
  ∀ name : String, store[(⟨schemaId, name⟩ : FieldRef)]?.map FieldPolicy.record =
    records.find? fun record => record.fieldName == name

/-- Rows that are there already are stored again without a change. -/
theorem insertRows_of_stored {store : Store} {rows : List FieldPolicy}
    (hstored : ∀ row ∈ rows, store[row.ref]? = some row) : store.insertRows rows = store := by
  unfold insertRows
  induction rows with
  | nil => rfl
  | cons row rest ih =>
    have hrow : store[row.ref]? = some row := hstored row (by simp)
    have hinsert : store.insert row.ref row = store := by
      refine Std.ExtTreeMap.ext_getElem? fun ref => ?_
      rw [Std.ExtTreeMap.getElem?_insert]
      split
      · rename_i hsame
        rw [← Std.LawfulEqCmp.eq_of_compare hsame, hrow]
      · rfl
    rw [List.foldl_cons, hinsert]
    exact ih fun r hr => hstored r (by simp [hr])

variable {store : Store} {schemaId : String} {records : List FieldRecord}

/-- A record that is held has a row, which agrees with it. -/
theorem Holds.exists_row (h : store.Holds schemaId records)
    (hnodup : (records.map (·.fieldName)).Nodup) {record : FieldRecord}
    (hrecord : record ∈ records) :
    ∃ row, store[(⟨schemaId, record.fieldName⟩ : FieldRef)]? = some row ∧ row.record = record := by
  have hrow := h record.fieldName
  rw [Service.find?_fieldName hnodup hrecord] at hrow
  exact Option.map_eq_some_iff.1 hrow

/-- A field of the schema that is there is described by one of the records. -/
theorem Holds.fieldName_mem (h : store.Holds schemaId records) {name : String}
    (hmem : (⟨schemaId, name⟩ : FieldRef) ∈ store) : name ∈ records.map (·.fieldName) := by
  obtain ⟨row, hrow⟩ := Option.isSome_iff_exists.1 (Std.ExtTreeMap.mem_iff_isSome_getElem?.1 hmem)
  have hfind := h name
  rw [hrow, Option.map_some] at hfind
  have hname : row.record.fieldName = name := by simpa using List.find?_some hfind.symm
  exact List.mem_map.2 ⟨row.record, List.mem_of_find?_eq_some hfind.symm, hname⟩

/-- **Nothing new.** A batch of records that a keyed store holds already is answered with their rows
and leaves the store as it was. -/
theorem Keyed.replaceSchema_of_holds (hkeyed : store.Keyed) (h : store.Holds schemaId records)
    (hcheck : checkRecords records = .ok ()) (fresh : Nat → Uuid) (now : Instant) :
    store.replaceSchema fresh now schemaId records =
      .ok (records.filterMap fun record => store[(⟨schemaId, record.fieldName⟩ : FieldRef)]?,
        store) := by
  have hnodup := (checkRecords_eq_ok_iff.1 hcheck).2
  let plan := Replacement.ofRecords fresh schemaId (store.ofSchema schemaId) records now
  have hrows : plan.rows =
      records.filterMap fun record => store[(⟨schemaId, record.fieldName⟩ : FieldRef)]? := by
    have hagrees : ∀ record ∈ records, ∃ row : FieldPolicy,
        (Replacement.storedOf schemaId (store.ofSchema schemaId))[record.fieldName]? = some row ∧
          row.agrees record = true := by
      intro record hrecord
      obtain ⟨row, hrow, hdescribes⟩ := h.exists_row hnodup hrecord
      refine ⟨row, by rw [hkeyed.getElem?_storedOf, hrow], ?_⟩
      exact (FieldPolicy.agrees_iff (congrArg FieldRecord.fieldName hdescribes)).2 hdescribes
    simp only [plan, Replacement.rows, Replacement.ofRecords,
      Replacement.fates_of_agrees hagrees, List.map_filterMap, Option.map_map,
      hkeyed.getElem?_storedOf, Function.comp_def, Option.map_id']
  -- A deleted row would belong to a field that no record describes, but all are described.
  have hdeleted : plan.deleted = [] := by
    rw [← List.map_eq_nil_iff (f := FieldPolicy.ref), List.eq_nil_iff_forall_not_mem]
    intro ref href
    obtain ⟨rfl, hname, hmem⟩ := (hkeyed.mem_deleted fresh schemaId records now ref).1 href
    exact hname (h.fieldName_mem hmem)
  refine replaceSchema_eq_ok_iff.2 ⟨plan, Replacement.plan_eq_ok _ hcheck, hrows.symm, ?_⟩
  rw [hdeleted, hrows]
  refine (insertRows_of_stored fun row hrow => ?_).symm
  obtain ⟨record, -, hstored⟩ := List.mem_filterMap.1 hrow
  exact (hkeyed _ _ hstored).symm ▸ hstored

end Store

namespace Service

/-- The schema whose fields a request submits. -/
def Request.schemaId? : Request → Option String
  | register request => some request.schemaId
  | replace request => some request.schemaId
  | grant _ | decide _ => none

/-- The records that a request submits. -/
def Request.records? : Request → Option (List FieldRecord)
  | register request => request.convert.toOption.map (·.records)
  | replace request => some request.records
  | grant _ | decide _ => none

/-- The stored rows that a reply to a submission holds. -/
def Reply.rows? : Reply → Option (List FieldPolicy)
  | registered schema => some schema.records
  | replaced rows => some rows
  | granted _ | decided _ => none

/-- A call submits records of a schema exactly if its request does. -/
theorem Call.recordsOf?_effect {call : Call} {effect : Effect}
    (heffect : call.effect? = some effect) (schemaId : String) :
    effect.recordsOf? schemaId =
      if call.request.schemaId? = some schemaId then call.request.records? else none := by
  obtain ⟨context, request⟩ := call
  cases request with
  | register request =>
    obtain ⟨conversion, hconvert, rfl⟩ := Option.map_eq_some_iff.1 heffect
    simp [Request.schemaId?, Request.records?, Effect.recordsOf?, hconvert]
  | replace request =>
    obtain rfl := Option.some.inj heffect
    simp [Request.schemaId?, Request.records?, Effect.recordsOf?]
  | grant request =>
    obtain ⟨period, -, heffect⟩ := Option.bind_eq_some_iff.1 heffect
    obtain ⟨grant, -, heffect⟩ := Option.bind_eq_some_iff.1 heffect
    obtain rfl := Option.some.inj heffect
    rfl
  | decide request =>
    obtain rfl := Option.some.inj heffect
    rfl

/-- What the latest submission of a schema says does not change as long as the schema is not
submitted. -/
theorem latestRecords?_foldl {schemaId : String} {calls : List Call} (state : State)
    (hcalls : ∀ call ∈ calls, call.request.schemaId? ≠ some schemaId) :
    latestRecords? (calls.foldl State.next state).log schemaId =
      latestRecords? state.log schemaId := by
  induction calls generalizing state with
  | nil => rfl
  | cons call rest ih =>
    rw [List.foldl_cons, ih _ fun c hc => hcalls c (by simp [hc])]
    rcases state.next_cases call with hsame | ⟨reply, effect, after, -, heffect, -, hnext⟩
    · rw [hsame]
    · have hother : effect.recordsOf? schemaId = none := by
        rw [call.recordsOf?_effect heffect, if_neg (hcalls call (by simp))]
      rw [hnext, latestRecords?, List.findSome?_cons, hother]
      rfl

/-- A request that submits a schema has the submission of its records as its effect. -/
theorem Call.effect?_of_schemaId? {call : Call} {schemaId : String}
    (hschema : call.request.schemaId? = some schemaId) :
    call.effect? = call.request.records?.map (.submitted schemaId) := by
  obtain ⟨context, request⟩ := call
  cases request with
  | register request =>
    obtain rfl := Option.some.inj hschema
    simp [effect?, Request.records?, Option.map_map, Function.comp_def]
  | replace request =>
    obtain rfl := Option.some.inj hschema
    rfl
  | grant request => cases hschema
  | decide request => cases hschema

/-- A submission that succeeds has records that are in order and a schema with a name, and becomes
the latest one of its schema. -/
theorem submitted_next {state : State} {call : Call} {schemaId : String} {reply : Reply}
    (hschema : call.request.schemaId? = some schemaId)
    (hok : (call.answer state.store).result = .ok reply) :
    ∃ records, call.request.records? = some records ∧ checkRecords records = .ok () ∧
      Text.isBlankText schemaId = false ∧
      latestRecords? (state.next call).log schemaId = some records := by
  rcases call.fails_or_changes state.store with
    ⟨error, hfailed, -⟩ | ⟨_, effect, -, heffect, hchanges⟩
  · rw [hok] at hfailed
    cases hfailed
  · rw [call.effect?_of_schemaId? hschema] at heffect
    obtain ⟨records, hrecords, rfl⟩ := Option.map_eq_some_iff.1 heffect
    generalize (call.answer state.store).store = after at hchanges
    cases hchanges with
    | submitted hname hstore =>
      obtain ⟨plan, hplan, -⟩ := Store.replaceSchema_eq_ok_iff.1 hstore
      refine ⟨records, hrecords, ?_, hname, ?_⟩
      · cases hcheck : checkRecords records with
        | ok _ => rfl
        | error error =>
          rw [Replacement.plan_eq_error _ hcheck] at hplan
          cases hplan
      · simp [State.next, hok, call.effect?_of_schemaId? hschema, hrecords, latestRecords?,
          Effect.recordsOf?]

/-- **What was submitted stays.** After a submission that succeeds, and any calls that submit other
schemas or none, the store holds the records of the submission. -/
theorem holds_run (before between : List Call) {first : Call} {schemaId : String} {reply : Reply}
    (hschema : first.request.schemaId? = some schemaId)
    (hok : (first.answer (run before).store).result = .ok reply)
    (hbetween : ∀ call ∈ between, call.request.schemaId? ≠ some schemaId) :
    ∃ records, first.request.records? = some records ∧ checkRecords records = .ok () ∧
      Text.isBlankText schemaId = false ∧
      (run (before ++ first :: between)).store.Holds schemaId records := by
  obtain ⟨records, hrecords, hcheck, hname, hlatest⟩ := submitted_next hschema hok
  refine ⟨records, hrecords, hcheck, hname, fun name => ?_⟩
  have hrun : run (before ++ first :: between) =
      between.foldl State.next ((run before).next first) := by
    simp [run]
  rw [(mirrors_run _).records, latestRecord?, hrun, latestRecords?_foldl _ hbetween, hlatest]
  rfl

/-- A submission whose arguments are in order asks the store to replace the fields of its schema. -/
theorem Request.exists_access_submit {request : Request} {schemaId : String}
    {records : List FieldRecord} (hschema : request.schemaId? = some schemaId)
    (hrecords : request.records? = some records) (hname : Text.isBlankText schemaId = false)
    (hcheck : checkRecords records = .ok ()) (now : Instant) :
    ∃ conversion, request.access now = .ok (.submit schemaId records conversion) := by
  cases request with
  | register request =>
    obtain rfl := Option.some.inj hschema
    obtain ⟨conversion, hconvert, rfl⟩ := Option.map_eq_some_iff.1 hrecords
    refine ⟨some conversion, ?_⟩
    rw [access, toOption_eq_some_iff.1 hconvert]
    rfl
  | replace request =>
    obtain rfl := Option.some.inj hschema
    obtain rfl := Option.some.inj hrecords
    exact ⟨none, bind_eq_ok_iff.2 ⟨(), requireNonBlank_eq_ok_iff.2 hname,
      bind_eq_ok_iff.2 ⟨(), hcheck, rfl⟩⟩⟩
  | grant request => cases hschema
  | decide request => cases hschema

/-- While the store works, such a submission is answered with the rows of the replacement. -/
theorem Call.answer_of_replaceSchema {call : Call} {store after : Store} {schemaId : String}
    {records : List FieldRecord} {rows : List FieldPolicy}
    (hschema : call.request.schemaId? = some schemaId)
    (hrecords : call.request.records? = some records)
    (hname : Text.isBlankText schemaId = false) (hcheck : checkRecords records = .ok ())
    (hfault : call.context.storeFault = none)
    (hok : store.replaceSchema call.context.fresh call.context.now schemaId records =
      .ok (rows, after)) :
    ∃ reply, (call.answer store).result = .ok reply ∧ reply.rows? = some rows ∧
      (call.answer store).store = after := by
  obtain ⟨conversion, haccess⟩ :=
    Request.exists_access_submit hschema hrecords hname hcheck call.context.now
  have hrun : Access.run call.context store (.submit schemaId records conversion) =
      .ok (submissionReply rows conversion, after) := by
    rw [Access.run, hok]
    rfl
  have houtcome : call.outcome store = .ok (submissionReply rows conversion, after) :=
    bind_eq_ok_iff.2 ⟨_, haccess, Context.access_eq_ok_iff.2 ⟨hfault, hrun⟩⟩
  rw [(call.answer_eq_outcome store).1, (call.answer_eq_outcome store).2, houtcome]
  exact ⟨_, rfl, by cases conversion <;> rfl, rfl⟩

/-- **A replayed submission changes nothing.** A submission that has succeeded is made again after
any grants, decisions, and submissions of other schemas. While the store works it succeeds, leaves
the whole store as it was, and is answered with the stored rows of its schema: one for each record,
in the order of submission, with all grants that are live. -/
theorem replayed_submission_changes_nothing (before between : List Call) (first again : Call)
    (schemaId : String) (reply : Reply)
    (hschema : first.request.schemaId? = some schemaId)
    (hok : (first.answer (run before).store).result = .ok reply)
    (hbetween : ∀ call ∈ between, call.request.schemaId? ≠ some schemaId)
    (hagain : again.request = first.request) (hfault : again.context.storeFault = none) :
    let state := run (before ++ first :: between)
    let answer := again.answer state.store
    ∃ repeated rows, answer.result = .ok repeated ∧ repeated.rows? = some rows ∧
      answer.store = state.store ∧
      first.request.records? = some (rows.map FieldPolicy.record) ∧
      (∀ row, row ∈ rows ↔ row.schemaId = schemaId ∧ state.store[row.ref]? = some row) ∧
      ∀ row ∈ rows, ∀ application : String,
        row.allowList[application]? = (liveGrants state.log application row.ref).head? := by
  intro state answer
  obtain ⟨records, hrecords, hcheck, hname, hholds⟩ :=
    holds_run before between hschema hok hbetween
  have hmirrors : Mirrors state.store state.log := mirrors_run _
  have hnodup := (checkRecords_eq_ok_iff.1 hcheck).2
  obtain ⟨repeated, hrepeated, hrows, hstore⟩ := again.answer_of_replaceSchema
    (hagain ▸ hschema) (hagain ▸ hrecords) hname hcheck hfault
    (hmirrors.keyed.replaceSchema_of_holds hholds hcheck _ _)
  have hmem : ∀ row, row ∈ (records.filterMap fun record =>
      state.store[(⟨schemaId, record.fieldName⟩ : FieldRef)]?) ↔
        row.schemaId = schemaId ∧ state.store[row.ref]? = some row := by
    intro row
    rw [List.mem_filterMap]
    constructor
    · rintro ⟨record, -, hrow⟩
      have href := hmirrors.keyed _ _ hrow
      exact ⟨(FieldRef.mk.inj href).1, href.symm ▸ hrow⟩
    · rintro ⟨rfl, hrow⟩
      have hstored : row.ref ∈ state.store :=
        Std.ExtTreeMap.mem_iff_isSome_getElem?.2 (by simp [hrow])
      obtain ⟨record, hrecord, hsame⟩ := List.mem_map.1 (hholds.fieldName_mem hstored)
      exact ⟨record, hrecord, by rw [hsame]; exact hrow⟩
  refine ⟨repeated, _, hrepeated, hrows, hstore, ?_, hmem, ?_⟩
  · -- Each record has the row that describes it.
    rw [hrecords, List.map_filterMap]
    congr 1
    have heach : ∀ record ∈ records,
        state.store[(⟨schemaId, record.fieldName⟩ : FieldRef)]?.map FieldPolicy.record =
          some record := by
      intro record hrecord
      obtain ⟨row, hrow, hdescribes⟩ := hholds.exists_row hnodup hrecord
      rw [hrow, Option.map_some, hdescribes]
    rw [List.filterMap_congr heach, List.filterMap_some]
  · intro row hrow application
    rw [← hmirrors.grants, ((hmem row).1 hrow).2, Option.bind_some]

/-- A registration, a grant to one of its fields, a submission of another schema, and the same
registration once more: the grant is still there. -/
theorem replayed_submission_keeps_grant :
    let first : Call := ⟨onDay 0, .register
      { schemaId := "people", providerId := "registry",
        sdl := "type P \x7b\n a: T @isOwner(value: true)\n b: T @owner(value: \"citizen\")\n\x7d" }⟩
    let between : List Call :=
      [⟨onDay 1, .grant ⟨"portal", "30d", [⟨"people", "p.b"⟩]⟩⟩,
        ⟨onDay 2, .replace ⟨"cars", [{ fieldName := "plate", isOwner := true }]⟩⟩]
    let again : Call := ⟨onDay 3, first.request⟩
    let state := run ([] ++ first :: between)
    ∃ repeated rows, (again.answer state.store).result = .ok repeated ∧
      repeated.rows? = some rows ∧ (again.answer state.store).store = state.store ∧
      rows.map (fun row => (row.fieldName, row.allowList["portal"]?.isSome)) =
        [("p.a", false), ("p.b", true)] := by
  intro first between again state
  obtain ⟨reply, hok⟩ : ∃ reply, (first.answer (run []).store).result = .ok reply :=
    ⟨_, rfl⟩
  obtain ⟨repeated, rows, hrepeated, hrows, hstore, -⟩ :=
    replayed_submission_changes_nothing [] between first again "people" reply rfl hok
      (by decide) rfl rfl
  refine ⟨repeated, rows, hrepeated, hrows, hstore, ?_⟩
  have hgranted : ((again.answer state.store).result.toOption.bind Reply.rows?).map
      (fun rows => rows.map fun row => (row.fieldName, row.allowList["portal"]?.isSome)) =
        some [("p.a", false), ("p.b", true)] := by
    decide +kernel
  rw [hrepeated, Except.toOption, Option.bind_some, hrows] at hgranted
  exact Option.some.inj hgranted

end Service

end FieldAccess
