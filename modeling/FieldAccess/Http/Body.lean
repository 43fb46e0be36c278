import FieldAccess.Format.Codec
import FieldAccess.Http.Message
import FieldAccess.Json.Source

/-!
# Bodies

Bodies are JSON documents. What the body of a request describes is looked at in the order of its
text, so that a value of the wrong type is noticed before a later place where the text breaks the
rules of the format.

## Main definitions

* `BodyFault` – why a body is refused.
* `Request.read` – reading the body of a request.
* `Response.json` – a response with a body.
-/

namespace FieldAccess.Http

open Format

/-- Why the body of a request is refused. -/
inductive BodyFault where
  /-- The request does not say that its body is a JSON document. -/
  | unannounced
  /-- The body is too long. -/
  | tooLong
  /-- The body is no JSON document. -/
  | malformed
  /-- The document does not describe what it should. -/
  | unfit (fault : Fault)
  deriving Repr, DecidableEq

/-- The wording of a fault. -/
def BodyFault.message : BodyFault → String
  | unannounced => "Expected request with " ++ ticked "Content-Type: application/json"
  | tooLong => "Failed to buffer the request body: length limit exceeded"
  | malformed => "Failed to parse the request body as JSON"
  | unfit fault =>
    "Failed to deserialize the JSON body into the target type: " ++ fault.located

/-- The greatest length of a body, in bytes. -/
def maxBodySize : Nat := 2 * 1024 * 1024

/-- Reads a value from the text of a JSON document. -/
def readText (codec : Codec α) (text : String) : Except BodyFault α :=
  match Json.decode codec text with
  | .ok value => .ok value
  | .error fault => .error (if fault.isMalformed then .malformed else .unfit fault)

/-- Reads the body of a request. -/
def Request.read (codec : Codec α) (request : Request) : Except BodyFault α :=
  if !request.announcesJson then .error .unannounced
  else if maxBodySize < request.body.utf8ByteSize then .error .tooLong
  else readText codec request.body

/-- A response with a JSON document. -/
def Response.json (status : Nat) (value : Json) : Response where
  status
  headers := [("content-type", "application/json")]
  body := value.compact

end FieldAccess.Http
