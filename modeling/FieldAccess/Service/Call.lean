import FieldAccess.Audit.Event
import FieldAccess.Policy.Store
import FieldAccess.Service.Measurement
import FieldAccess.Service.Request

/-!
# Calls of the service

The four calls of the service on a store. All arguments are checked before the store is looked at,
every call accesses the store at most once, and what has come of it is reported.

## Main definitions

* `Service.Context` – the circumstances of a call.
* `Service.Answer` – what comes of a call.
* `Service.register`, `Service.replace`, `Service.grant`, `Service.decide` – the calls.
-/

namespace FieldAccess.Service

/-- The circumstances of a call. -/
structure Context where
  /-- The trace that the call belongs to. -/
  trace : String
  /-- The time of the call. -/
  now : Instant
  /-- The identifiers for new fields. -/
  fresh : Nat → Uuid
  /-- The error with which the store meets the first access, if it fails. -/
  storeFault : Option StoreError := none

namespace Context

/-- The result of an access to the store. -/
def access (context : Context) (result : Except StoreError α) : Except PolicyError α :=
  match context.storeFault with
  | some error => .error (.ofStore error)
  | none => result.mapError PolicyError.ofStore

/-- The event that reports a call. -/
def event (context : Context) (report : Report) : Event := ⟨context.trace, context.now, report⟩

end Context

/-- What comes of a call: its result, the store after it, the events that are emitted, and what is
counted. -/
structure Answer (α : Type) where
  result : Except PolicyError α
  store : Store
  events : List Event := []
  measurements : List Measurement := []

/-- Replaces the fields of a schema in the store. -/
def replaceFields (context : Context) (store : Store) (schemaId : String)
    (records : List FieldRecord) : Except PolicyError (List FieldPolicy × Store) :=
  context.access (store.replaceSchema context.fresh context.now schemaId records)

/-- The result of `replace`, and the store after it. -/
def replaceResult (context : Context) (store : Store) (request : ReplaceMetadata) :
    Except PolicyError (List FieldPolicy × Store) := do
  requireNonBlank request.schemaId "schemaId"
  checkRecords request.records
  replaceFields context store request.schemaId request.records

/-- Replaces the fields of a schema by those that the records of a request describe. -/
def replace (context : Context) (store : Store) (request : ReplaceMetadata) :
    Answer (List FieldPolicy) :=
  match replaceResult context store request with
  | .ok (rows, store) =>
    { result := .ok rows, store
      events := [context.event (.replaced request.schemaId rows.length)] }
  | .error error =>
    { result := .error error, store
      events := [context.event (.replaceFailed request.schemaId error.failure)] }

/-- The result of `register`, and the store after it. -/
def registerResult (context : Context) (store : Store) (request : RegisterSchema) :
    Except PolicyError (RegisteredSchema × Store) := do
  let conversion ← request.convert
  let (records, store) ← replaceFields context store request.schemaId conversion.records
  return ({ records, fields := conversion.fields,
            unresolvedOwnerFields := conversion.unresolved }, store)

/-- Replaces the fields of a schema by those that a schema document describes. -/
def register (context : Context) (store : Store) (request : RegisterSchema) :
    Answer RegisteredSchema :=
  match registerResult context store request with
  | .ok (registered, store) =>
    { result := .ok registered, store
      events := [context.event (.registered request.schemaId request.providerId
        registered.records.length registered.unresolvedOwnerFields)] }
  | .error error =>
    { result := .error error, store
      events := [context.event (.replaceFailed request.schemaId error.failure)] }

/-- What a request for access comes to: the period, the grant, and the fields. -/
structure Granting where
  period : GrantPeriod
  grant : Grant
  fields : List GrantedField

/-- The period that a request names. -/
def periodOf (text : String) : Except PolicyError GrantPeriod :=
  match GrantPeriod.ofName? text with
  | some period => .ok period
  | none => .error (.invalidArgument (.unknownPeriod text))

/-- What is answered about a field after a grant. -/
def grantedField (grant : Grant) (row : FieldPolicy) : GrantedField where
  fieldName := row.fieldName
  schemaId := row.schemaId
  expiresAt := grant.expiresAt
  updatedAt := grant.updatedAt

/-- The result of `grant` for the fields `refs`, and the store after it. -/
def grantResult (context : Context) (store : Store) (request : GrantAccess) (refs : List FieldRef) :
    Except PolicyError (Granting × Store) := do
  requireNonBlank request.applicationId "applicationId"
  if refs.isEmpty then throw (.invalidArgument .noRecords)
  requireRefs refs "records"
  let period ← periodOf request.grantDuration
  let grant ← period.startingAt context.now
  let (rows, store) ← context.access (store.grant request.applicationId refs grant)
  return ({ period, grant, fields := rows.map (grantedField grant) }, store)

/-- Grants an application access to fields. -/
def grant (context : Context) (store : Store) (request : GrantAccess) :
    Answer (List GrantedField) :=
  let refs := FieldRef.distinct request.records
  match grantResult context store request refs with
  | .ok (granting, store) =>
    { result := .ok granting.fields, store
      events := [context.event
        (.granted request.applicationId granting.period refs granting.grant.expiresAt)]
      measurements := [.grants granting.fields.length] }
  | .error error =>
    { result := .error error, store
      events := [context.event (.grantFailed request.applicationId refs error.failure)] }

/-- The result of `decide` for the fields `refs`. -/
def decideResult (context : Context) (store : Store) (request : DecideAccess)
    (refs : List FieldRef) : Except PolicyError Decision := do
  requireNonBlank request.applicationId "applicationId"
  requireRefs refs "requiredFields"
  let rows ← context.access (store.getAll refs)
  return Decision.evaluate request.applicationId rows context.now

/-- Decides on the access of an application to fields. -/
def decide (context : Context) (store : Store) (request : DecideAccess) : Answer Decision :=
  let refs := FieldRef.distinct request.requiredFields
  match decideResult context store request refs with
  | .ok decision =>
    { result := .ok decision, store
      events := [context.event (.decided request.applicationId refs decision.summary)]
      measurements := [.decisionLatency] }
  | .error error =>
    { result := .error error, store
      events := [context.event (.decisionFailed request.applicationId refs error.failure)]
      measurements := [.decisionLatency, .decisionFailure error.label] }

end FieldAccess.Service
