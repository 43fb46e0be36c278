import FieldAccess.Http.Router
import FieldAccess.Http.Status
import FieldAccess.Http.Transport

/-!
# Calling the service over HTTP

A client makes the calls of a service that runs elsewhere. Together with the router it makes the
same calls as the service itself, with the same results.

## Main definitions

* `Http.Client` – a client.
* `Http.ClientFault` – why a call has no result.
* `Http.Client.register`, `Http.Client.replace`, `Http.Client.grant`, `Http.Client.decide`,
  `Http.Client.health` – the calls.
* `Http.routed` – the transport to a service on the same machine.
-/

namespace FieldAccess.Http

open Format

/-- A client of the service at a base address. -/
structure Client where
  base : String
  /-- The trace that is named in all requests. -/
  trace : Option String := none
  deriving Repr, DecidableEq

/-- Why a call has no result. -/
inductive ClientFault where
  | transport (fault : TransportFault)
  /-- The result of a successful call cannot be read. -/
  | unreadable (fault : Fault)
  /-- The call fails at the service. -/
  | refused (status : Nat) (body : ErrorBody)
  deriving Repr, DecidableEq

namespace ClientFault

/-- The code of a call that fails at the service. -/
def code? : ClientFault → Option String
  | refused _ body => some body.code
  | _ => none

/-- The wordings of the causes of a fault of the transport or of the reading. -/
def causes : ClientFault → List String
  | transport fault => fault.chain
  | unreadable fault => ["error decoding response body", fault.message]
  | refused _ _ => []

/-- The wording of a fault. -/
def message : ClientFault → String
  | refused status body => s!"PDP returned {statusText status} ({body.code}): {body.message}"
  | fault => "HTTP error: " ++ fault.causes.headD ""

/-- The wording of a fault, followed by those of its causes. -/
def chain (fault : ClientFault) : List String := fault.message :: fault.causes

end ClientFault

namespace Client

/-- The client of the service at an address. Slashes at the end do not count. -/
def ofUrl (url : String) (trace : Option String := none) : Client where
  base := Text.withoutTrailing '/' url
  trace

/-- The headers of all requests. -/
def headers (client : Client) : List (String × String) :=
  client.trace.toList.map (traceHeader, ·)

/-- The request that sends a value to a path. -/
def post (client : Client) (path : String) (body : Json) : Request where
  method := "POST"
  target := path
  headers := ("content-type", "application/json") :: client.headers
  body := body.compact

/-- The request for what is at a path. -/
def get (client : Client) (path : String) : Request where
  method := "GET"
  target := path
  headers := client.headers

/-- Why the service did not make a call. A body that does not tell it is taken as it is. -/
def refusal (response : Response) : ErrorBody :=
  match Json.decode ErrorBody.codec response.body with
  | .ok body => body
  | .error _ => ⟨"unknown", response.body⟩

/-- The result that a response gives. -/
def result (codec : Codec α) (response : Response) : Except ClientFault α :=
  if isSuccess response.status then
    (Json.decode codec response.body).mapError .unreadable
  else .error (.refused response.status (refusal response))

variable {m : Type → Type} [Monad m]

/-- Sends a request and reads the response. -/
def exchange (client : Client) (send : Transport m) (request : Request) (codec : Codec α) :
    m (Except ClientFault α) := do
  match ← send client.base request with
  | .ok response => return result codec response
  | .error fault => return .error (.transport fault)

/-- Registers a schema. -/
def register (client : Client) (send : Transport m) (request : RegisterSchema) :
    m (Except ClientFault RegisteredSchema) :=
  client.exchange send (client.post "/api/v1/policy/schema" (RegisterSchema.codec.write request))
    RegisteredSchema.codec

/-- Replaces the fields of a schema. -/
def replace (client : Client) (send : Transport m) (request : ReplaceMetadata) :
    m (Except ClientFault (List FieldPolicy)) :=
  client.exchange send (client.post "/api/v1/policy/metadata" (ReplaceMetadata.codec.write request))
    storedRecordsCodec

/-- Grants an application access to fields. -/
def grant (client : Client) (send : Transport m) (request : GrantAccess) :
    m (Except ClientFault (List GrantedField)) :=
  client.exchange send
    (client.post "/api/v1/policy/update-allowlist" (GrantAccess.codec.write request))
    grantedRecordsCodec

/-- Asks for a decision. -/
def decide (client : Client) (send : Transport m) (request : DecideAccess) :
    m (Except ClientFault Decision) :=
  client.exchange send (client.post "/api/v1/policy/decide" (DecideAccess.codec.write request))
    Decision.codec

/-- Asks for the state of the service. -/
def health (client : Client) (send : Transport m) : m (Except ClientFault Health) :=
  client.exchange send (client.get "/health") Health.codec

end Client

/-- The transport to a service on the same machine: a request changes its store. -/
def routed (context : Context) : Transport (StateM Store) := fun _ request store =>
  let answer := handle context store request
  (.ok answer.response, answer.store)

end FieldAccess.Http
