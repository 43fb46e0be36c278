import FieldAccess.Proofs.Runs

/-!
# Calls as accesses to the store

Every call checks its arguments and then accesses the store at most once. There are three kinds of
accesses: the fields of a schema are replaced, access to fields is granted, or fields are looked up.

## Main definitions

* `Service.Access` – what a call asks of the store.
* `Service.Request.access` – the access of a request whose arguments are in order.
* `Service.Call.outcome` – the reply to a call and the store after it.

## Main statements

* `Service.Call.answer_eq_outcome` – a call is answered with its outcome.
-/

namespace FieldAccess.Service

/-- What a call asks of the store. -/
inductive Access where
  /-- The fields of a schema are to be replaced; a registration tells what it has converted. -/
  | submit (schemaId : String) (records : List FieldRecord) (conversion : Option Schema.Conversion)
  /-- An application is to be granted access to fields. -/
  | grant (application : String) (refs : List FieldRef) (entry : Grant)
  /-- Fields are looked up for a decision. -/
  | look (application : String) (refs : List FieldRef)

/-- The reply to a submission that leaves some rows. -/
def submissionReply (rows : List FieldPolicy) : Option Schema.Conversion → Reply
  | none => .replaced rows
  | some conversion => .registered ⟨rows, conversion.fields, conversion.unresolved⟩

/-- What comes of an access: the reply, and the store after it. -/
def Access.run (context : Context) (store : Store) : Access → Except StoreError (Reply × Store)
  | submit schemaId records conversion =>
    (store.replaceSchema context.fresh context.now schemaId records).map fun (rows, after) =>
      (submissionReply rows conversion, after)
  | grant application refs entry =>
    (store.grant application refs entry).map fun (rows, after) =>
      (.granted (rows.map (grantedField entry)), after)
  | look application refs =>
    (store.getAll refs).map fun rows =>
      (.decided (Decision.evaluate application rows context.now), store)

/-- The access that a request asks for at a time, if its arguments are in order. -/
def Request.access (now : Instant) : Request → Except PolicyError Access
  | register request =>
    request.convert.map fun conversion =>
      .submit request.schemaId conversion.records (some conversion)
  | replace request => do
    requireNonBlank request.schemaId "schemaId"
    checkRecords request.records
    return .submit request.schemaId request.records none
  | grant request => do
    let refs := FieldRef.distinct request.records
    requireNonBlank request.applicationId "applicationId"
    if refs.isEmpty then throw (.invalidArgument .noRecords)
    requireRefs refs "records"
    let period ← periodOf request.grantDuration
    let entry ← period.startingAt now
    return .grant request.applicationId refs entry
  | decide request => do
    let refs := FieldRef.distinct request.requiredFields
    requireNonBlank request.applicationId "applicationId"
    requireRefs refs "requiredFields"
    return .look request.applicationId refs

theorem Context.access_map {α β : Type} (context : Context) (f : α → β)
    (result : Except StoreError α) :
    context.access (f <$> result) = f <$> context.access result := by
  unfold access
  cases context.storeFault with
  | some error => rfl
  | none => cases result <;> rfl

namespace Call

/-- The reply to a call and the store after it, or the error with which it fails. -/
def outcome (store : Store) (call : Call) : Except PolicyError (Reply × Store) := do
  let access ← call.request.access call.context.now
  call.context.access (access.run call.context store)

section Outcomes

variable (context : Context) (store : Store)

theorem outcome_register (request : RegisterSchema) :
    outcome store ⟨context, .register request⟩ =
      (fun (schema, after) => (.registered schema, after)) <$>
        registerResult context store request := by
  change (_ <$> request.convert >>= _) = _
  simp only [registerResult, map_bind, bind_map_left, Access.run]
  refine bind_congr fun conversion => ?_
  exact context.access_map _ _

theorem outcome_replace (request : ReplaceMetadata) :
    outcome store ⟨context, .replace request⟩ =
      (fun (rows, after) => (.replaced rows, after)) <$> replaceResult context store request := by
  simp only [outcome, Request.access, replaceResult, map_bind, bind_assoc, pure_bind, Access.run]
  exact bind_congr fun _ => bind_congr fun _ => context.access_map _ _

theorem outcome_grant (request : GrantAccess) :
    outcome store ⟨context, .grant request⟩ =
      (fun (granting, after) => (.granted granting.fields, after)) <$>
        grantResult context store request (FieldRef.distinct request.records) := by
  simp only [outcome, Request.access, grantResult, map_bind, bind_assoc]
  refine bind_congr fun _ => ?_
  split
  · rfl
  · simp only [bind_assoc, map_bind, pure_bind]
    exact bind_congr fun _ => bind_congr fun period => bind_congr fun entry =>
      context.access_map _ _

theorem outcome_decide (request : DecideAccess) :
    outcome store ⟨context, .decide request⟩ =
      (fun decision => (.decided decision, store)) <$>
        decideResult context store request (FieldRef.distinct request.requiredFields) := by
  simp only [outcome, Request.access, decideResult, map_bind, bind_assoc, pure_bind]
  exact bind_congr fun _ => bind_congr fun _ => context.access_map _ _

end Outcomes

/-- A call is answered with its outcome, and leaves the store of its outcome behind. -/
theorem answer_eq_outcome (call : Call) (store : Store) :
    (call.answer store).result = (call.outcome store).map (·.1) ∧
      (call.answer store).store = ((call.outcome store).map (·.2)).toOption.getD store := by
  obtain ⟨context, request⟩ := call
  cases request with
  | register request =>
    rw [outcome_register]
    simp only [answer, register]
    cases registerResult context store request <;> exact ⟨rfl, rfl⟩
  | replace request =>
    rw [outcome_replace]
    simp only [answer, replace]
    cases replaceResult context store request <;> exact ⟨rfl, rfl⟩
  | grant request =>
    rw [outcome_grant]
    simp only [answer, grant]
    cases grantResult context store request (FieldRef.distinct request.records) <;>
      exact ⟨rfl, rfl⟩
  | decide request =>
    rw [outcome_decide]
    simp only [answer, decide]
    cases decideResult context store request (FieldRef.distinct request.requiredFields) <;>
      exact ⟨rfl, rfl⟩

end Call

end FieldAccess.Service
