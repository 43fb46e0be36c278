import FieldAccess.Http.Message
import FieldAccess.Json.Reader
import FieldAccess.Net.Url

/-!
# Messages on a connection

How a request is written to a connection that serves for a single exchange, and how the response is
read from all that comes back. The body of a response ends where its length says, after its last
chunk, or with the connection.

## Main definitions

* `Http.requestText` – the text of a request.
* `Http.Response.ofBytes?` – the response that bytes write.
-/

namespace FieldAccess.Http

/-! ## Requests -/

/-- The host of an address, with the port if it is not the usual one. -/
def authority (url : Net.Url) : String :=
  let host := (url.host.map Net.Host.toText).getD []
  String.ofList (host ++ ((url.port.map fun port => ':' :: (toString port).toList).getD []))

/-- The path and the query of an address. -/
def requestTarget (url : Net.Url) : String :=
  String.ofList (Net.Url.pathText url.path ++ (url.query.map ('?' :: ·)).getD [])

/-- The end of a line in a message. -/
def lineEnd : String := "\r\n"

/-- The text of a request to an address. -/
def requestText (url : Net.Url) (request : Request) : String :=
  let lines := s!"{request.method} {requestTarget url} HTTP/1.1" ::
    (request.headers ++ [("host", authority url), ("accept", "*/*"), ("connection", "close"),
      ("content-length", toString request.body.utf8ByteSize)]).map
      fun (name, value) => s!"{name}: {value}"
  lineEnd.intercalate (lines ++ ["", request.body])

/-! ## Responses -/

/-- The bytes before the first empty line, and those after it. -/
def splitHead? : List UInt8 → Option (List UInt8 × List UInt8)
  | 13 :: 10 :: 13 :: 10 :: rest => some ([], rest)
  | byte :: rest => (splitHead? rest).map fun (head, body) => (byte :: head, body)
  | [] => none

/-- The bytes of the first line, and those after it. -/
def splitLine? : List UInt8 → Option (List UInt8 × List UInt8)
  | 13 :: 10 :: rest => some ([], rest)
  | byte :: rest => (splitLine? rest).map fun (line, after) => (byte :: line, after)
  | [] => none

/-- Bytes as characters, each of its own. -/
def characters (bytes : List UInt8) : List Char := bytes.map fun byte => Char.ofNat byte.toNat

/-- The number of a status line. -/
def statusCode? (line : List Char) : Option Nat :=
  match Text.splitOn (· = ' ') line with
  | _ :: code :: _ => if code.isEmpty then none else (String.ofList code).toNat?
  | _ => none

/-- The name of a header in lower case, and its value. -/
def headerOf (line : List Char) : String × String :=
  let name := line.takeWhile (· ≠ ':')
  let value := String.ofList (line.drop (name.length + 1))
  (String.ofList (name.map Char.toLower), Text.trimmed value)

/-- The lines of a head. -/
def headLines (head : List UInt8) : List (List Char) :=
  Text.splitOn (· = '\n') ((characters head).filter (· ≠ '\r'))

/-- The size that the line before a chunk gives. -/
def chunkSize? (line : List Char) : Option Nat :=
  let digits := line.takeWhile fun c => (Json.Reader.hexValue? c).isSome
  if digits.isEmpty then none
  else digits.foldlM (fun n c => do return n * 16 + (← Json.Reader.hexValue? c)) 0

/-- The bytes of a body that comes in chunks, up to the chunk of size zero. -/
def dechunk? : (limit : Nat) → List UInt8 → Option (List UInt8)
  | 0, _ => none
  | limit + 1, bytes => do
    let (line, rest) ← splitLine? bytes
    let size ← chunkSize? (characters line)
    if size = 0 then return []
    if rest.length < size + 2 then none
    return rest.take size ++ (← dechunk? limit (rest.drop (size + 2)))

/-- The body that a head announces, out of the bytes after the head. -/
def bodyBytes? (headers : List (String × String)) (bytes : List UInt8) : Option (List UInt8) :=
  if (headers.lookup "transfer-encoding").any fun value => value.toLower.endsWith "chunked" then
    dechunk? (bytes.length + 1) bytes
  else
    match (headers.lookup "content-length").bind String.toNat? with
    | some length => if bytes.length < length then none else some (bytes.take length)
    | none => some bytes

/-- The response that bytes write. -/
def Response.ofBytes? (bytes : List UInt8) : Option Response := do
  let (head, rest) ← splitHead? bytes
  match headLines head with
  | [] => none
  | first :: lines =>
    let status ← statusCode? first
    let headers := lines.map headerOf
    let body ← bodyBytes? headers rest
    return { status, headers, body := ← String.fromUTF8? (ByteArray.mk body.toArray) }

end FieldAccess.Http
