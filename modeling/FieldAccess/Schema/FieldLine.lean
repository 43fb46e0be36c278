import FieldAccess.Schema.TypeBlock
import FieldAccess.Text.Lowercase

/-!
# Field lines

A field line is a name, optional arguments in parentheses, a colon and a type, followed by
directives. The directives that describe access carry one argument, keyed `value` or `type`, with a
quoted payload or a truth value.

## Main definitions

* `FieldDirective` – what a field line says.
* `FieldDirective.path` – the path under which the field is stored.
* `argument?` – the payload of a directive on a line.
* `fieldLine?` – reading of a line.
-/

namespace FieldAccess.Schema

open Text

/-- What the line of a field says about it: its name and type, the type it belongs to, and the
payloads of its directives. -/
structure FieldDirective where
  name : String
  fieldType : String
  parentType : String
  accessControl : Option String := none
  source : Option String := none
  isOwner : Bool := false
  owner : Option String := none
  description : Option String := none
  displayName : Option String := none
  deriving Repr, DecidableEq, Inhabited

/-- The path under which a field is stored: its type in lower case, a point, and its name. -/
def FieldDirective.path (field : FieldDirective) : String :=
  String.ofList (lowercase field.parentType.toList) ++ "." ++ field.name

/-- The text between a quote and the next one that is not escaped, and the text after that one. A
backslash at the end of a line escapes nothing. -/
def payload? : List Char → Option (List Char)
  | [] => none
  | '"' :: _ => some []
  | ['\\'] => none
  | '\\' :: c :: rest => if c = '\n' then none else (payload? rest).map ('\\' :: c :: ·)
  | c :: rest => (payload? rest).map (c :: ·)

/-- A text in which every escaped quote is replaced by the quote. -/
def unescapeQuotes : List Char → List Char
  | '\\' :: '"' :: rest => '"' :: unescapeQuotes rest
  | c :: rest => c :: unescapeQuotes rest
  | [] => []

/-- The word at the start of a text, when no longer word starts with it. -/
def wholeWord? (word text : List Char) : Option (List Char) :=
  match afterPrefix? word text with
  | some rest => if (rest.head?.map isWord).getD false then none else some word
  | none => none

/-- The payload of an argument at the start of a text: a key, a colon, and a quoted text or a truth
value. -/
def keyedPayload? (text : List Char) : Option (List Char) := do
  let rest ←
    (afterPrefix? ['v', 'a', 'l', 'u', 'e'] text).orElse fun _ =>
      afterPrefix? ['t', 'y', 'p', 'e'] text
  match trimStart rest with
  | ':' :: rest =>
    match trimStart rest with
    | '"' :: rest => payload? rest
    | rest => (wholeWord? "true".toList rest).orElse fun _ => wholeWord? "false".toList rest
  | _ => none

/-- The payload of the first argument of a list of arguments. `inWord` tells whether the character
before the text belongs to a word. -/
def firstPayload? (inWord : Bool) : List Char → Option (List Char)
  | [] => none
  | c :: rest =>
    match if inWord then none else keyedPayload? (c :: rest) with
    | some payload => some payload
    | none => firstPayload? (isWord c) rest

/-- The text after the directive `marker`, where it first occurs on a line and is not the beginning
of a longer name. -/
def afterMarker? (marker : List Char) : List Char → Option (List Char)
  | [] => none
  | c :: rest =>
    match afterPrefix? marker (c :: rest) with
    | some after =>
      if (after.head?.map fun c => isAlphanumeric c || c == '_').getD false then
        afterMarker? marker rest
      else some after
    | none => afterMarker? marker rest

/-- The payload of a directive on a line. Only the first occurrence of the directive counts. -/
def argument? (line : List Char) (directive : String) : Option String :=
  match afterMarker? ('@' :: directive.toList) line with
  | none => none
  | some rest =>
    match trimStart rest with
    | '(' :: rest =>
      match splitClosing? '(' ')' rest with
      | some (arguments, _) =>
        (firstPayload? false arguments).map fun payload =>
          String.ofList (unescapeQuotes payload)
      | none => none
    | _ => none

/-- The name and the type of a field line. -/
def nameAndType? (line : List Char) : Option (List Char × List Char) :=
  match word? line with
  | none => none
  | some (name, rest) =>
    match trimStart (afterArguments rest) with
    | ':' :: rest =>
      match rest.takeWhile (· != '@') with
      | [] => none
      | fieldType => some (name, trim fieldType)
    | _ => none

/-- Reads a line of the body of a type. -/
def fieldLine? (parentType : String) (line : List Char) : Option FieldDirective :=
  (nameAndType? line).map fun (name, fieldType) =>
    { name := String.ofList name
      fieldType := String.ofList fieldType
      parentType
      accessControl := argument? line "accessControl"
      source := argument? line "source"
      isOwner := argument? line "isOwner" == some "true"
      owner := argument? line "owner"
      description := argument? line "description"
      displayName := argument? line "displayName" }

end FieldAccess.Schema
