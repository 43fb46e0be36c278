import FieldAccess.Format.Codec
import FieldAccess.Json.Reader
import FieldAccess.Json.Writer
import FieldAccess.Text.Quoted

/-!
# JSON as a source

A JSON document can be looked into in two states: as a text, in the order in which it is written,
and as a value, in which the keys of an object are in increasing order and occur once.

## Main definitions

* `Json.textSource` – documents read from a text.
* `Json.valueSource` – values.
-/

namespace FieldAccess.Json

open Format

/-- What is said about an integer that was found. -/
def integerFound (n : Int) : String := "integer " ++ ticked (toString n)

/-- The cause that a text breaks the rules. -/
def SyntaxFault.cause (fault : SyntaxFault) : Cause := .malformed fault.message

/-- What is said about a value that was found, unless the text is at fault there. -/
def Document.found : Document → Except SyntaxFault String
  | .broken fault | .unreadable fault => .error fault
  | .null => .ok "null"
  | .flag b => .ok ("boolean " ++ ticked (if b then "true" else "false"))
  | .integer n => .ok (integerFound n)
  | .decimal digits => .ok ("floating point " ++ ticked digits)
  | .text s => .ok ("string " ++ Text.quoted s)
  | .list _ _ => .ok "sequence"
  | .table _ _ _ => .ok "map"

/-- The reading of a node of another kind than the one expected. -/
def Document.other (expected : String) (document : Document) : Reading α :=
  match document.found with
  | .ok found => fail (.mismatch found expected)
  | .error fault => fail fault.cause

/-- The fault at the end of what is not closed. -/
def ending (fault : Option SyntaxFault) : Option Fault := fault.map fun fault => .here fault.cause

/-- The fault of a variant that is followed by something else. -/
def variantEnding (fault : Option SyntaxFault) (more : Bool) : Option Fault :=
  ending (if more then some .noValue else fault)

/-- The natural number of an integer, at most `bound`. -/
def naturalOf (bound : Nat) (name : String) (n : Int) : Reading Nat :=
  if 0 ≤ n && n ≤ bound then .ok n.toNat else fail (.unfit (integerFound n) name)

/-- Documents read from a text, looked into in the order of the text. -/
def textSource : Source where
  Node := Document
  text expected
    | .text s => .ok s
    | other => other.other expected
  flag
    | .flag b => .ok b
    | other => other.other "a boolean"
  natural bound name
    | .integer n => naturalOf bound name n
    | other => other.other name
  optional
    | .null => .ok none
    | .broken fault => fail fault.cause
    | other => .ok (some other)
  list
    | .list items fault => .ok ⟨items, ending fault⟩
    | other => other.other "a sequence"
  table
    | .table entries fault _ => .ok ⟨entries, ending fault⟩
    | other => other.other "a map"
  record expected
    | .table entries fault _ => .ok (.named ⟨entries, ending fault⟩)
    | .list items fault => .ok (.positional ⟨items, ending fault⟩)
    | other => other.other expected
  variant
    | .text s => .ok { name := s }
    | .table ((name, content) :: rest) fault _ =>
      .ok { name, content := some content, ending := variantEnding fault !rest.isEmpty }
    | .table [] (some fault) _ => fail fault.cause
    | .broken fault | .unreadable fault => fail fault.cause
    | _ => fail SyntaxFault.noValue.cause
  unit
    | .null => .ok ()
    | other => other.other "unit"
  variantRecord
    | some (.table entries fault _) => .ok ⟨entries, ending fault⟩
    | some other => other.other "struct variant"
    | none => fail (.mismatch "unit variant" "struct variant")
  skip document :=
    match document.fault? with
    | none => .ok ()
    | some fault => fail fault.cause
  surplus _ := .here SyntaxFault.trailingText.cause

/-- What is said about a value that was found. -/
def found : Json → String
  | .null => "null"
  | .flag b => "boolean " ++ ticked (if b then "true" else "false")
  | .integer n => integerFound n
  | .decimal digits => "floating point " ++ ticked digits
  | .text s => "string " ++ Text.quoted s
  | .list _ => "sequence"
  | .table _ => "map"

/-- The reading of a value of another kind than the one expected. -/
def other (expected : String) (value : Json) : Reading α := fail (.mismatch value.found expected)

/-- Values, looked into in the order of their keys. -/
def valueSource : Source where
  Node := Json
  text expected
    | .text s => .ok s
    | value => value.other expected
  flag
    | .flag b => .ok b
    | value => value.other "a boolean"
  natural bound name
    | .integer n => naturalOf bound name n
    | value => value.other name
  optional
    | .null => .ok none
    | value => .ok (some value)
  list
    | .list items => .ok ⟨items, none⟩
    | value => value.other "a sequence"
  table
    | .table entries => .ok ⟨entries, none⟩
    | value => value.other "a map"
  record expected
    | .table entries => .ok (.named ⟨entries, none⟩)
    | .list items => .ok (.positional ⟨items, none⟩)
    | value => value.other expected
  variant
    | .text s => .ok { name := s }
    | .table [(name, content)] => .ok { name, content := some content }
    | .table _ => fail (.unfit "map" "map with a single key")
    | value => value.other "string or map"
  unit
    | .null => .ok ()
    | value => value.other "unit"
  variantRecord
    | some (.table entries) => .ok ⟨entries, none⟩
    | some value => value.other "struct variant"
    | none => fail (.mismatch "unit variant" "struct variant")
  skip _ := .ok ()
  surplus length := .here (.length length "fewer elements in array")

/-- The value that a text describes. -/
def decode (codec : Codec α) (text : String) : Reading α := do
  let (document, fault) := Document.ofText text
  let value ← codec.read textSource document
  match fault with
  | none => return value
  | some fault => fail fault.cause

end FieldAccess.Json
