import FieldAccess.Http.MediaType
import FieldAccess.Text.Trim

/-!
# Messages

The requests and responses of the service over HTTP.

## Main definitions

* `Http.Request`, `Http.Response` – the messages.
* `Http.Request.trace?` – the trace that a request names.
-/

namespace FieldAccess.Http

/-- A request. Names of headers are in lower case; of a repeated header the first one counts. -/
structure Request where
  method : String
  /-- The path and the query, after a scheme and an authority if the target is a full address. -/
  target : String
  headers : List (String × String) := []
  body : String := ""
  deriving Repr, DecidableEq, Inhabited

/-- A response. -/
structure Response where
  status : Nat
  headers : List (String × String) := []
  body : String := ""
  deriving Repr, DecidableEq, Inhabited

/-- The header that names the trace of a request. -/
def traceHeader : String := "x-trace-id"

/-- Whether a character may stand in a header that is read as a text. -/
def isVisible (c : Char) : Bool := c = '\t' || (32 ≤ c.toNat && c.toNat < 127)

namespace Request

/-- The value of a header, if it is a text of visible characters. -/
def header? (request : Request) (name : String) : Option String :=
  (request.headers.lookup name).filter fun value => value.toList.all isVisible

/-- Whether a character may stand in the scheme of an address. -/
def isSchemeChar (c : Char) : Bool :=
  Text.isAsciiLetter c || Text.isDigit c || c = '+' || c = '-' || c = '.'

/-- What follows the authority of a full address, and other targets as they are. -/
def localTarget (target : List Char) : List Char :=
  match target.dropWhile isSchemeChar with
  | ':' :: '/' :: '/' :: rest => rest.dropWhile fun c => c != '/' && c != '?' && c != '#'
  | _ => target

/-- The path, without the query. -/
def path (request : Request) : String :=
  String.ofList ((localTarget request.target.toList).takeWhile fun c => c != '?' && c != '#')

/-- The trace that a request names. -/
def trace? (request : Request) : Option String :=
  ((request.header? traceHeader).map Text.trimmed).filter (· ≠ "")

/-- Whether a request says that its body is a JSON document. -/
def announcesJson (request : Request) : Bool :=
  match (request.header? "content-type").bind fun value => MediaType.read? value.toList with
  | some mediaType => mediaType.isJson
  | none => false

end Request

namespace Response

/-- The value of a header. -/
def header? (response : Response) (name : String) : Option String := response.headers.lookup name

/-- A response without a body. -/
def empty (status : Nat) : Response := { status }

end Response

end FieldAccess.Http
