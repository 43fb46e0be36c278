import FieldAccess.Proofs.BatchGrant
import FieldAccess.Proofs.Endpoints

/-!
# Calls in place

The calls of the service as steps on one store, which every step reads and changes as it is. What a
step has changed stays changed when a later step fails: nothing takes a change back. A call that
returns a new store for the old one could not tell of changes that it made before it failed; these
steps could. They come to the same, so that no call fails behind a change.

## Main definitions

* `Store.Steps` – steps on a store in place.
* `Store.Steps.Settles` – steps that come to a result and leave its store, or the former one.
* `Store.replaceSchemaInPlace`, `Store.getAllInPlace` – the accesses, beside `Store.grantInPlace`.
* `Service.Call.inPlace` – the calls.
* `Http.handleInPlace` – the answer to a request over HTTP.

## Main statements

* `Service.Call.run_inPlace` – a call in place has the result and leaves the store of the call.
* `Http.run_handleInPlace` – a request over HTTP in place has the response and leaves the store of
  the request.
-/

namespace FieldAccess

/-! ### Steps -/

namespace Store

/-- Steps on a store in place. A fault ends them, and what was changed before it stays changed. -/
abbrev Steps (ε α : Type) := ExceptT ε (StateM Store) α

namespace Steps

variable {ε α β : Type} {store : Store}

/-- Steps that come to a result on a store. They leave the store of the result, or the store as it
was if the result is a fault. -/
def Settles (store : Store) (steps : Steps ε α) (result : Except ε (α × Store)) : Prop :=
  steps.run.run store = (result.map (·.1), store.leftBy result)

/-- A look at the store changes nothing. -/
theorem Settles.get_bind {f : Store → Steps ε α} {result : Except ε (α × Store)}
    (h : Settles store (f store) result) : Settles store (getThe Store >>= f) result := h

/-- What is found out without the store changes nothing. -/
theorem Settles.check_bind {x : Except ε α} {f : α → Steps ε β} {g : α → Except ε (β × Store)}
    (h : ∀ a, Settles store (f a) (g a)) : Settles store (liftM x >>= f) (x >>= g) := by
  cases x with
  | error error => rfl
  | ok a => exact h a

/-- What is made of the result changes nothing. -/
theorem Settles.bind_pure {steps : Steps ε α} {result : Except ε (α × Store)}
    (h : Settles store steps result) (f : α → β) :
    Settles store (steps >>= fun a => pure (f a))
      (result.map fun settled => (f settled.1, settled.2)) := by
  rw [Settles] at h
  simp only [Settles, ExceptT.run_bind, StateT.run_bind, h]
  cases result <;> rfl

/-- Changes for some items, one after another, do not fail; the next step sees them all. -/
theorem run_forM_modify_bind (f : Store → α → Store) (items : List α)
    (next : PUnit → Steps ε β) (store : Store) :
    ((items.forM fun item => modify (f · item)) >>= next).run.run store =
      (next ⟨⟩).run.run (items.foldl f store) := by
  induction items generalizing store with
  | nil => rfl
  | cons item rest ih => exact ih (f store item)

end Steps

/-! ### Accesses -/

/-- Replaces the fields of a schema in place: the rows that are left out are erased one after
another, and then those of the records are written. -/
def replaceSchemaInPlace (fresh : Nat → Uuid) (now : Instant) (schemaId : String)
    (records : List FieldRecord) : Steps StoreError (List FieldPolicy) := do
  let store ← getThe Store
  let plan ← (Replacement.plan fresh schemaId (store.ofSchema schemaId) records now).mapError
    StoreError.ofPolicy
  plan.deleted.forM fun row => modify (·.erase row.ref)
  plan.rows.forM fun row => modify (·.insert row.ref row)
  return plan.rows

/-- The policies of fields, looked up in place; the first absent one is an error. -/
def getAllInPlace (refs : List FieldRef) : Steps StoreError (List FieldPolicy) :=
  refs.mapM fun ref => do (← getThe Store).get ref

/-- A replacement in place fails, if at all, before it changes anything. -/
theorem settles_replaceSchemaInPlace (store : Store) (fresh : Nat → Uuid) (now : Instant)
    (schemaId : String) (records : List FieldRecord) :
    Steps.Settles store (replaceSchemaInPlace fresh now schemaId records)
      (store.replaceSchema fresh now schemaId records) := by
  let planned := Replacement.plan fresh schemaId (store.ofSchema schemaId) records now
  have hreplace : store.replaceSchema fresh now schemaId records =
      planned.mapError StoreError.ofPolicy >>= fun plan =>
        pure (plan.rows, (store.eraseRows plan.deleted).insertRows plan.rows) := by
    simp only [replaceSchema, planned]
    cases Replacement.plan fresh schemaId (store.ofSchema schemaId) records now <;> rfl
  rw [hreplace]
  refine .get_bind (.check_bind fun plan => ?_)
  rw [Steps.Settles, Steps.run_forM_modify_bind, Steps.run_forM_modify_bind]
  rfl

/-- Fields are looked up in place without a change. -/
theorem settles_getAllInPlace (store : Store) (refs : List FieldRef) :
    Steps.Settles store (getAllInPlace refs) ((store.getAll refs).map (·, store)) := by
  induction refs with
  | nil => rfl
  | cons ref rest ih =>
    have hall : (store.getAll (ref :: rest)).map (·, store) =
        store.get ref >>= fun row =>
          ((store.getAll rest).map (·, store)).map fun settled =>
            (row :: settled.1, settled.2) := by
      rw [getAll]
      cases store.get ref with
      | error error => rfl
      | ok row => cases store.getAll rest <;> rfl
    rw [hall, getAllInPlace, List.mapM_cons, bind_assoc]
    exact .get_bind (.check_bind fun row => ih.bind_pure (row :: ·))

/-- A batch of grants in place fails, if at all, before it changes anything. -/
theorem settles_grantInPlace (store : Store) (application : String) (refs : List FieldRef)
    (grant : Grant) :
    Steps.Settles store (ExceptT.mk (grantInPlace application refs grant))
      (store.grant application refs grant) := run_grantInPlace

end Store

/-! ### Calls -/

namespace Service

open Store (Steps)

variable {α : Type}

/-- An access to the store in place. -/
def Context.accessInPlace (context : Context) (steps : Steps StoreError α) :
    Steps PolicyError α :=
  match context.storeFault with
  | some error => throw (.ofStore error)
  | none => steps.adapt PolicyError.ofStore

/-- `replace` in place. -/
def replaceInPlace (context : Context) (request : ReplaceMetadata) :
    Steps PolicyError (List FieldPolicy) := do
  requireNonBlank request.schemaId "schemaId"
  checkRecords request.records
  context.accessInPlace
    (Store.replaceSchemaInPlace context.fresh context.now request.schemaId request.records)

/-- `register` in place. -/
def registerInPlace (context : Context) (request : RegisterSchema) :
    Steps PolicyError RegisteredSchema := do
  let conversion ← request.convert
  let records ← context.accessInPlace
    (Store.replaceSchemaInPlace context.fresh context.now request.schemaId conversion.records)
  return { records, fields := conversion.fields, unresolvedOwnerFields := conversion.unresolved }

/-- `grant` in place, for the fields `refs`. -/
def grantInPlace (context : Context) (request : GrantAccess) (refs : List FieldRef) :
    Steps PolicyError Granting := do
  requireNonBlank request.applicationId "applicationId"
  if refs.isEmpty then throw (.invalidArgument .noRecords)
  requireRefs refs "records"
  let period ← periodOf request.grantDuration
  let grant ← period.startingAt context.now
  let rows ← context.accessInPlace (.mk (Store.grantInPlace request.applicationId refs grant))
  return { period, grant, fields := rows.map (grantedField grant) }

/-- `decide` in place, for the fields `refs`. -/
def decideInPlace (context : Context) (request : DecideAccess) (refs : List FieldRef) :
    Steps PolicyError Decision := do
  requireNonBlank request.applicationId "applicationId"
  requireRefs refs "requiredFields"
  let rows ← context.accessInPlace (Store.getAllInPlace refs)
  return Decision.evaluate request.applicationId rows context.now

/-- A call in place. -/
def Call.inPlace (call : Call) : Steps PolicyError Reply :=
  match call.request with
  | .register request => return .registered (← registerInPlace call.context request)
  | .replace request => return .replaced (← replaceInPlace call.context request)
  | .grant request =>
    return .granted
      (← grantInPlace call.context request (FieldRef.distinct request.records)).fields
  | .decide request =>
    return .decided
      (← decideInPlace call.context request (FieldRef.distinct request.requiredFields))

section Results

variable (context : Context) (store : Store)

theorem settles_accessInPlace {steps : Steps StoreError α} {result : Except StoreError (α × Store)}
    (h : Steps.Settles store steps result) :
    Steps.Settles store (context.accessInPlace steps) (context.access result) := by
  rw [Context.accessInPlace, Context.access]
  cases context.storeFault with
  | some error => rfl
  | none =>
    rw [Steps.Settles] at h
    simp only [Steps.Settles, ExceptT.run_adapt, StateT.run_map, h]
    cases result <;> rfl

theorem settles_replaceInPlace (request : ReplaceMetadata) :
    Steps.Settles store (replaceInPlace context request) (replaceResult context store request) :=
  .check_bind fun _ => .check_bind fun _ =>
    settles_accessInPlace context store (Store.settles_replaceSchemaInPlace ..)

theorem settles_registerInPlace (request : RegisterSchema) :
    Steps.Settles store (registerInPlace context request)
      (registerResult context store request) := by
  refine .check_bind fun conversion => ?_
  have haccess := settles_accessInPlace context store (Store.settles_replaceSchemaInPlace store
    context.fresh context.now request.schemaId conversion.records)
  exact haccess.bind_pure _

theorem settles_grantInPlace (request : GrantAccess) (refs : List FieldRef) :
    Steps.Settles store (grantInPlace context request refs)
      (grantResult context store request refs) := by
  refine .check_bind fun _ => ?_
  dsimp only
  split
  · rfl
  · refine .check_bind fun _ => .check_bind fun period => .check_bind fun grant => ?_
    have haccess := settles_accessInPlace context store
      (Store.settles_grantInPlace store request.applicationId refs grant)
    exact haccess.bind_pure _

theorem settles_decideInPlace (request : DecideAccess) (refs : List FieldRef) :
    Steps.Settles store (decideInPlace context request refs)
      ((decideResult context store request refs).map (·, store)) := by
  have haccess : context.access ((store.getAll refs).map (·, store)) =
      (context.access (store.getAll refs)).map (·, store) := by
    rw [Context.access, Context.access]
    cases context.storeFault with
    | some error => rfl
    | none => cases store.getAll refs <;> rfl
  have hdecide : (decideResult context store request refs).map (·, store) = (do
      requireNonBlank request.applicationId "applicationId"
      requireRefs refs "requiredFields"
      (context.access ((store.getAll refs).map (·, store))).map fun settled =>
        (Decision.evaluate request.applicationId settled.1 context.now, settled.2)) := by
    rw [haccess, decideResult]
    cases requireNonBlank request.applicationId "applicationId" with
    | error error => rfl
    | ok _ =>
      cases requireRefs refs "requiredFields" with
      | error error => rfl
      | ok _ => cases context.access (store.getAll refs) <;> rfl
  rw [hdecide]
  refine .check_bind fun _ => .check_bind fun _ => ?_
  have hread := settles_accessInPlace context store (Store.settles_getAllInPlace store refs)
  exact hread.bind_pure _

end Results

/-- **Calls.** A call in place has the result of the call, and leaves the store of the call. -/
theorem Call.run_inPlace (call : Call) (store : Store) :
    call.inPlace.run.run store = ((call.answer store).result, (call.answer store).store) := by
  obtain ⟨context, request⟩ := call
  cases request with
  | register request =>
    refine ((settles_registerInPlace context store request).bind_pure Reply.registered).trans ?_
    simp only [answer, Answer.map, register]
    cases registerResult context store request <;> rfl
  | replace request =>
    refine ((settles_replaceInPlace context store request).bind_pure Reply.replaced).trans ?_
    simp only [answer, Answer.map, replace]
    cases replaceResult context store request <;> rfl
  | grant request =>
    let refs := FieldRef.distinct request.records
    refine ((settles_grantInPlace context store request refs).bind_pure
      fun granting => Reply.granted granting.fields).trans ?_
    simp only [answer, Answer.map, grant, refs]
    cases grantResult context store request (FieldRef.distinct request.records) <;> rfl
  | decide request =>
    let refs := FieldRef.distinct request.requiredFields
    refine ((settles_decideInPlace context store request refs).bind_pure Reply.decided).trans ?_
    simp only [answer, Answer.map, decide, refs]
    cases decideResult context store request (FieldRef.distinct request.requiredFields) <;> rfl

end Service

/-! ### Requests over HTTP -/

namespace Http

/-- Makes the call that the body of a request describes, in place. -/
def callInPlace (context : Service.Context) (request : Request) (uptimeSeconds : Nat)
    (endpoint : Endpoint) : StateM Store Response :=
  match endpoint.read? request with
  | some (.ok body) => do
    let result ← (Service.Call.inPlace ⟨context, body⟩).run
    return ofResult context.trace endpoint.status Service.Reply.json result
  | some (.error fault) => return refusal fault
  | none => return .json 200 (Health.codec.write ⟨"ok", uptimeSeconds⟩)

/-- Answers a request in place. -/
def handleInPlace (context : Context) (request : Request) : StateM Store Response :=
  match route request.path with
  | none => return .empty 404
  | some endpoint =>
    if (allowedMethods endpoint).contains request.method then do
      let response ← callInPlace (callContext context request) request context.uptimeSeconds
        endpoint
      return if request.method = "HEAD" then { response with body := "" } else response
    else return notAllowed endpoint

theorem run_callInPlace (context : Service.Context) (store : Store) (request : Request)
    (uptimeSeconds : Nat) (endpoint : Endpoint) :
    (callInPlace context request uptimeSeconds endpoint).run store =
      ((call context store request uptimeSeconds endpoint).response,
        (call context store request uptimeSeconds endpoint).store) := by
  rw [callInPlace]
  cases hread : endpoint.read? request with
  | none =>
    cases endpoint with
    | health => rfl
    | _ => cases hread
  | some reading =>
    rw [call_eq hread]
    cases reading with
    | ok body =>
      simp only [StateT.run_bind, Service.Call.run_inPlace]
      rfl
    | error fault =>
      dsimp only
      rw [Endpoint.answer]
      split <;> rfl

/-- **Requests over HTTP.** A request in place has the response of the request, and leaves the store
of the request. -/
theorem run_handleInPlace (context : Context) (store : Store) (request : Request) :
    (handleInPlace context request).run store =
      ((handle context store request).response, (handle context store request).store) := by
  rw [handleInPlace, handle]
  cases route request.path with
  | none => rfl
  | some endpoint =>
    dsimp only
    split
    · rw [StateT.run_bind, run_callInPlace]
      split <;> rfl
    · rfl

end Http

end FieldAccess
