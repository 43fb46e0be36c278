import FieldAccess.Http.Body
import FieldAccess.Service.Call
import FieldAccess.Wire.Service

/-!
# The service over HTTP

Every call of the service has a path of its own, which may be preceded by `/api/v1`. Arguments at
fault are answered with status 400. What happens inside of the store is not told to clients: its
errors are answered with a fixed text.

## Main definitions

* `Http.Endpoint` – the calls.
* `Http.route` – the endpoint of a path.
* `Http.handle` – what comes of a request.
-/

namespace FieldAccess.Http

open Format

/-- What a failed call is answered with: a code and a message. -/
structure ErrorBody where
  code : String
  message : String
  deriving Repr, DecidableEq, Inhabited

/-- The answer to a failed call. -/
def ErrorBody.codec : Codec ErrorBody :=
  .record "ErrorResponse"
    (.cons (.required "code" .text) <| .cons (.required "message" .text) .nil)
    (fun (code, message, ()) => { code, message })
    (fun body => (body.code, body.message, ()))

/-- The state of the service. -/
structure Health where
  status : String
  uptimeSeconds : Nat
  deriving Repr, DecidableEq, Inhabited

/-- The answer to a question for the state of the service. -/
def Health.codec : Codec Health :=
  .record "HealthResponse"
    (.cons (.required "status" .text) <|
     .cons (.required "uptimeSeconds" (.natural (Nat.pow 2 64 - 1) "u64")) .nil)
    (fun (status, uptimeSeconds, ()) => { status, uptimeSeconds })
    (fun health => (health.status, health.uptimeSeconds, ()))

/-- The status and the body that an error is answered with. -/
def errorAnswer : PolicyError → Nat × ErrorBody
  | .invalidArgument fault => (400, ⟨"invalid_argument", fault.message⟩)
  | .notFound absence => (500, ⟨"not_found", absence.message⟩)
  | .internal _ => (500, ⟨"internal_error", "internal server error"⟩)

/-- The response to a call that fails. -/
def errorResponse (error : PolicyError) : Response :=
  let (status, body) := errorAnswer error
  .json status (ErrorBody.codec.write body)

/-- The response to a request whose body is refused. -/
def refusal (fault : BodyFault) : Response :=
  .json 400 (ErrorBody.codec.write ⟨"invalid_request", "invalid request body: " ++ fault.message⟩)

/-- The response to a call that succeeds. The trace is named in it. -/
def success (trace : String) (status : Nat) (body : Json) : Response :=
  let response := Response.json status body
  { response with headers := response.headers ++ [(traceHeader, trace)] }

/-- What comes of a request: the response, the store after it, the events, and what is counted. -/
structure Answer where
  response : Response
  store : Store
  events : List Event := []
  measurements : List Measurement := []

/-- The circumstances of a request. -/
structure Context where
  now : Instant
  /-- The identifiers for new fields. -/
  fresh : Nat → Uuid
  /-- The trace of a request that names none. -/
  trace : String
  /-- The error with which the store meets the first access, if it fails. -/
  storeFault : Option StoreError := none
  /-- For how long the service has been running. -/
  uptimeSeconds : Nat := 0

/-- The calls of the service. -/
inductive Endpoint where
  | replace
  | grant
  | decide
  | register
  | health
  deriving Repr, DecidableEq

/-- The calls that concern policies, with their paths. -/
def policyPaths : List (String × Endpoint) :=
  [("/policy/metadata", .replace), ("/policy/update-allowlist", .grant),
    ("/policy/decide", .decide), ("/policy/schema", .register)]

/-- All paths. -/
def paths : List (String × Endpoint) :=
  policyPaths ++ policyPaths.map (fun (path, endpoint) => ("/api/v1" ++ path, endpoint)) ++
    [("/health", .health)]

/-- The endpoint of a path. -/
def route (path : String) : Option Endpoint := paths.lookup path

/-- The context of the call that a request makes. -/
def callContext (context : Context) (request : Request) : Service.Context where
  trace := request.trace?.getD context.trace
  now := context.now
  fresh := context.fresh
  storeFault := context.storeFault

/-- The response to a call with a result. -/
def ofResult (trace : String) (status : Nat) (write : α → Json) : Except PolicyError α → Response
  | .ok value => success trace status (write value)
  | .error error => errorResponse error

/-- The answer to a request that makes a call. -/
def ofCall (trace : String) (status : Nat) (write : α → Json) (answer : Service.Answer α) :
    Answer where
  response := ofResult trace status write answer.result
  store := answer.store
  events := answer.events
  measurements := answer.measurements

/-- The answer to a request for a decision whose body is refused. It counts as a failed decision. -/
def undecided (context : Service.Context) (store : Store) (fault : BodyFault) : Answer where
  response := refusal fault
  store
  events := [context.event (.decisionFailed "" [] ⟨"invalid_argument", fault.message⟩)]
  measurements := [.decisionFailure "invalid_argument"]

/-- Makes the call that a request asks for, with the body of the request. -/
def call (context : Service.Context) (store : Store) (request : Request) (uptimeSeconds : Nat) :
    Endpoint → Answer
  | .replace =>
    match request.read ReplaceMetadata.codec with
    | .ok body =>
      ofCall context.trace 201 storedRecordsCodec.write (Service.replace context store body)
    | .error fault => { response := refusal fault, store }
  | .grant =>
    match request.read GrantAccess.codec with
    | .ok body =>
      ofCall context.trace 200 grantedRecordsCodec.write (Service.grant context store body)
    | .error fault => { response := refusal fault, store }
  | .decide =>
    match request.read DecideAccess.codec with
    | .ok body => ofCall context.trace 200 Decision.codec.write (Service.decide context store body)
    | .error fault => undecided context store fault
  | .register =>
    match request.read RegisterSchema.codec with
    | .ok body =>
      ofCall context.trace 201 RegisteredSchema.codec.write (Service.register context store body)
    | .error fault => { response := refusal fault, store }
  | .health => { response := .json 200 (Health.codec.write ⟨"ok", uptimeSeconds⟩), store }

/-- The methods that an endpoint allows. -/
def allowedMethods : Endpoint → List String
  | .health => ["GET", "HEAD"]
  | _ => ["POST"]

/-- The response to a request with a method that its endpoint does not allow. -/
def notAllowed (endpoint : Endpoint) : Response where
  status := 405
  headers := [("allow", ",".intercalate (allowedMethods endpoint))]

/-- Answers a request. -/
def handle (context : Context) (store : Store) (request : Request) : Answer :=
  match route request.path with
  | none => { response := .empty 404, store }
  | some endpoint =>
    if (allowedMethods endpoint).contains request.method then
      let answer := call (callContext context request) store request context.uptimeSeconds endpoint
      if request.method = "HEAD" then
        { answer with response := { answer.response with body := "" } }
      else answer
    else { response := notAllowed endpoint, store }

end FieldAccess.Http
