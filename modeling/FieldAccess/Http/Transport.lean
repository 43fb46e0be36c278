import FieldAccess.Http.Message
import FieldAccess.Net.Url

/-!
# Sending requests

How a request reaches another machine, and why it may not.

## Main definitions

* `Http.TransportFault` – why there is no response.
* `Http.Transport` – a way of sending requests.
* `Http.offline` – the transport of a machine without a network.
-/

namespace FieldAccess.Http

/-- Why there is no response to a request. -/
inductive TransportFault where
  /-- The address cannot be read. -/
  | address (fault : Net.AddressFault)
  /-- The address is none of a server. -/
  | scheme (url : String)
  /-- A header holds characters that cannot be sent. -/
  | header
  /-- The name of the machine is not known. -/
  | unresolved (url : String)
  /-- There is no way to the machine. -/
  | unreachable (url : String)
  /-- The exchange with the machine fails. -/
  | failed (url reason : String)
  deriving Repr, DecidableEq

/-- The wording of a fault, followed by those of its causes. -/
def TransportFault.chain : TransportFault → List String
  | address fault => ["builder error", fault.message]
  | scheme url => [s!"builder error for url ({url})", "URL scheme is not allowed"]
  | header => ["builder error", "failed to parse header value"]
  | unresolved url =>
    [s!"error sending request for url ({url})", "client error (Connect)", "dns error",
      "failed to lookup address information: Temporary failure in name resolution"]
  | unreachable url =>
    [s!"error sending request for url ({url})", "client error (Connect)", "tcp connect error",
      "Network is unreachable (os error 101)"]
  | failed url reason => [s!"error sending request for url ({url})", reason]

/-- A way of sending requests to the server with a base address, with effects in `m`. -/
abbrev Transport (m : Type → Type) :=
  (base : String) → Request → m (Except TransportFault Response)

/-- A character that can be sent in a header. -/
def isSendable (c : Char) : Bool := c = '\t' || (0x20 ≤ c.toNat && c.toNat ≠ 0x7f)

/-- The full address of a request, if it can be sent at all. The user is not part of it. -/
def address (base : String) (request : Request) : Except TransportFault Net.Url :=
  match (Net.Url.read (base ++ request.target).toList).map Net.Url.withoutUser with
  | .error fault => .error (.address fault)
  | .ok url =>
    if url.host.isNone then .error (.scheme (String.ofList url.toText))
    else if request.headers.any fun (_, value) => !value.toList.all isSendable then .error .header
    else if url.scheme ≠ "http" && url.scheme ≠ "https" then
      .error (.scheme (String.ofList url.toText))
    else .ok url

/-- Whether a host has to be looked up by its name. The machine itself is always known. -/
def needsLookup : Option Net.Host → Bool
  | some (.domain name) => name ≠ "localhost".toList
  | _ => false

/-- The transport of a machine without a network. -/
def offline [Pure m] : Transport m := fun base request =>
  pure do
    let url ← address base request
    let text := String.ofList url.toText
    throw (if needsLookup url.host then .unresolved text else .unreachable text)

end FieldAccess.Http
