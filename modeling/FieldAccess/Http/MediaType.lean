import FieldAccess.Text.Classes

/-!
# Media types

The media type that a header announces: two names with a slash between them, and parameters after
semicolons. The name after the slash may end in a suffix after a plus sign. Letter case does not
matter.

## Main definitions

* `MediaType` – a media type without its parameters.
* `MediaType.read?` – reading of a header value.
* `MediaType.isJson` – the media types of JSON documents.
-/

namespace FieldAccess.Http

open Text

/-- A media type without its parameters, in lower case. -/
structure MediaType where
  type : List Char
  subtype : List Char
  suffix : Option (List Char) := none
  deriving Repr, DecidableEq

namespace MediaType

/-- The characters of a name besides letters and digits. -/
def nameMarks : List Char :=
  ['!', '#', '$', '%', '&', '\'', '*', '+', '-', '.', '^', '_', '\x60', '|', '~']

/-- Whether a character may be part of a name. -/
def isNameChar (c : Char) : Bool := isAsciiLetter c || isDigit c || nameMarks.contains c

/-- A letter in lower case. -/
def lower (c : Char) : Char := if 'A' ≤ c && c ≤ 'Z' then Char.ofNat (c.toNat + 32) else c

/-- The text after a quoted value that is open. The value may not be empty: a quote at its start
belongs to it. -/
def afterQuoted? (atStart : Bool) : List Char → Option (List Char)
  | [] => none
  | c :: rest =>
    if c = '"' && !atStart then some rest
    else if c.toNat < 32 || c.toNat = 127 then none
    else afterQuoted? false rest

/-- The parameters after the value of one of them: nothing, or whatever follows a semicolon. -/
def nextParameters? (text : List Char) : Option (List Char) :=
  match text.dropWhile (· == ' ') with
  | [] => some []
  | ';' :: rest => some rest
  | _ => none

/-- The text after the first of several parameters and its semicolon. -/
def afterParameter? (text : List Char) : Option (List Char) :=
  match text.span isNameChar with
  | (_ :: _, '=' :: '"' :: rest) =>
    match afterQuoted? true rest with
    | some rest => nextParameters? rest
    | none => none
  | (_ :: _, '=' :: rest) =>
    match rest.span isNameChar with
    | (_, []) => some []
    | (_ :: _, ';' :: rest) => some rest
    | _ => none
  | _ => none

/-- Whether a text is a list of parameters. `fuel` bounds their number. -/
def areParameters : (fuel : Nat) → List Char → Bool
  | 0, text => text.isEmpty
  | fuel + 1, text =>
    match text.dropWhile (· == ' ') with
    | [] => true
    | text =>
      match afterParameter? text with
      | some rest => areParameters fuel rest
      | none => false

/-- Divides the name after the slash at the last plus sign that is not its first character. -/
def splitSuffix (name : List Char) : List Char × Option (List Char) :=
  let tail := (name.reverse.takeWhile (· != '+')).reverse
  let head := name.take (name.length - tail.length - 1)
  if tail.length < name.length && !head.isEmpty then (head, some tail) else (name, none)

/-- Reads a media type. -/
def read? (text : List Char) : Option MediaType :=
  match text.span isNameChar with
  | (type@(_ :: _), '/' :: rest) =>
    let (name, rest) := rest.span isNameChar
    let (subtype, suffix) := splitSuffix (name.map lower)
    let mediaType := { type := type.map lower, subtype, suffix }
    match name, rest with
    | _, [] => some mediaType
    | _ :: _, ';' :: rest => if areParameters rest.length rest then some mediaType else none
    | _, _ => none
  | _ => none

/-- Whether documents of a media type are JSON. -/
def isJson (mediaType : MediaType) : Bool :=
  mediaType.type == "application".toList &&
    (mediaType.subtype == "json".toList || mediaType.suffix == some "json".toList)

end MediaType

end FieldAccess.Http
