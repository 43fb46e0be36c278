import FieldAccess.Http.Client
import FieldAccess.Proofs.Endpoints
import FieldAccess.Proofs.WireCodecs

/-!
# Requests of clients

What a client sends for a request reaches the endpoint of the request, and there the request is read
as it was meant. Two things can prevent it: a body that is too long, and a registration that names
the owner of a field twice, which no map does.

## Main definitions

* `Service.Request.NamesOwnersOnce` – requests whose owners of fields are a map.
* `Service.Request.endpoint`, `Http.Client.request` – where a client sends a request, and what.
* `Http.Client.call` – the four calls of a client as one.

## Main statements

* `Http.Client.asks_request` – the service reads what the client has written.
-/

namespace FieldAccess

/-- The owners that a registration names are a map: no field is named twice. -/
def Service.Request.NamesOwnersOnce : Service.Request → Prop
  | .register request => (request.fieldOwners.map Prod.fst).Nodup
  | _ => True

/-- The endpoint of a request. -/
def Service.Request.endpoint : Service.Request → Http.Endpoint
  | .register _ => .register
  | .replace _ => .replace
  | .grant _ => .grant
  | .decide _ => .decide

namespace Http

/-- The body that a client sends for a request. -/
def bodyOf : Service.Request → Json
  | .register request => RegisterSchema.codec.write request
  | .replace request => ReplaceMetadata.codec.write request
  | .grant request => GrantAccess.codec.write request
  | .decide request => DecideAccess.codec.write request

/-- The path to which a client sends requests for an endpoint. -/
def Endpoint.path : Endpoint → String
  | .register => "/api/v1/policy/schema"
  | .replace => "/api/v1/policy/metadata"
  | .grant => "/api/v1/policy/update-allowlist"
  | .decide => "/api/v1/policy/decide"
  | .health => "/health"

theorem route_path (endpoint : Endpoint) : route endpoint.path = some endpoint := by
  cases endpoint <;> decide

theorem path_path (endpoint : Endpoint) (headers : List (String × String)) (body : String) :
    Request.path ⟨"POST", endpoint.path, headers, body⟩ = endpoint.path := by
  -- The path depends on the target alone, so that it is computed for each of the endpoints.
  change Request.path ⟨"POST", endpoint.path, [], ""⟩ = endpoint.path
  cases endpoint <;> decide

/-- A body that is announced as JSON and not too long is read as what it was written for. -/
theorem read_post {α : Type} {codec : Format.Codec α} {value : α} (h : codec.ReadsBack value)
    (client : Client) (path : String)
    (hsize : (codec.write value).compact.utf8ByteSize ≤ maxBodySize) :
    (client.post path (codec.write value)).read codec = .ok value := by
  have hannounced : (client.post path (codec.write value)).announcesJson = true := by
    change Request.announcesJson ⟨"", "", [("content-type", "application/json")], ""⟩ = true
    decide
  have hlong : ¬ maxBodySize < (client.post path (codec.write value)).body.utf8ByteSize :=
    Nat.not_lt.2 hsize
  have hbody : (client.post path (codec.write value)).body = (codec.write value).compact := rfl
  rw [Request.read, hannounced, if_neg (by decide), if_neg hlong, readText, hbody,
    h.decode_compact]

namespace Client

/-- What a client sends for a request. -/
def request (client : Client) (request : Service.Request) : Request :=
  client.post request.endpoint.path (bodyOf request)

/-- **Requests of clients.** A request that names owners once, with a body that is not too long,
reaches its endpoint, and is read there as it was meant. -/
theorem asks_request (client : Client) {request : Service.Request}
    (howners : request.NamesOwnersOnce)
    (hsize : (bodyOf request).compact.utf8ByteSize ≤ maxBodySize) :
    (client.request request).Asks request.endpoint (.ok request) where
  method := rfl
  route := by
    rw [Client.request, post, path_path, route_path]
  read := by
    cases request with
    | register request =>
      have hread := read_post (RegisterSchema.readsBack_codec howners) client
        Endpoint.register.path hsize
      exact congrArg (fun reading => some (reading.map Service.Request.register)) hread
    | replace request =>
      have hread := read_post (ReplaceMetadata.lawful_codec.readsBack request) client
        Endpoint.replace.path hsize
      exact congrArg (fun reading => some (reading.map Service.Request.replace)) hread
    | grant request =>
      have hread := read_post (GrantAccess.lawful_codec.readsBack request) client
        Endpoint.grant.path hsize
      exact congrArg (fun reading => some (reading.map Service.Request.grant)) hread
    | decide request =>
      have hread := read_post (DecideAccess.lawful_codec.readsBack request) client
        Endpoint.decide.path hsize
      exact congrArg (fun reading => some (reading.map Service.Request.decide)) hread

variable {m : Type → Type} [Monad m]

/-- The call of a client that makes a request. -/
def call (client : Client) (send : Transport m) :
    Service.Request → m (Except ClientFault Service.Reply)
  | .register request => return (← client.register send request).map .registered
  | .replace request => return (← client.replace send request).map .replaced
  | .grant request => return (← client.grant send request).map .granted
  | .decide request => return (← client.decide send request).map .decided

end Client

end Http

end FieldAccess
