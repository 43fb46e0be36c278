import FieldAccess.Text.Trim

/-!
# Faults of a document

What can be wrong with a document that should describe a value of some type: the place of the fault,
and its cause.

## Main definitions

* `Cause`, `Cause.message` – the causes and their wording.
* `Fault` – a cause and the path to it.
* `Fault.located` – the wording of a fault with the path in front.
-/

namespace FieldAccess.Format

/-- A step from a part of a document into one of its parts. -/
inductive Segment where
  | key (name : String)
  | index (position : Nat)
  deriving Repr, DecidableEq, Inhabited

/-- Why a document, or a part of it, does not describe a value of the type wanted. -/
inductive Cause where
  /-- The kind of value found is not the kind expected. -/
  | mismatch (found expected : String)
  /-- The value found is of the kind expected, but not one of the values allowed. -/
  | unfit (found expected : String)
  /-- An array with too few or too many items. -/
  | length (found : Nat) (expected : String)
  /-- A field without a default is absent. -/
  | missing (field : String)
  /-- A field occurs twice. -/
  | repeated (field : String)
  /-- The name found is none of the variants. -/
  | unknown (variant : String) (expected : List String)
  /-- The text found does not read as a value of the type. -/
  | refused (message : String)
  /-- The text of the document breaks the rules of its format. -/
  | malformed (problem : String)
  deriving Repr, DecidableEq, Inhabited

/-- A name in the quotes of a message. -/
def ticked (name : String) : String := String.ofList ['\x60'] ++ name ++ String.ofList ['\x60']

/-- The variants that a message offers. -/
def alternatives : List String → String
  | [] => "there are no variants"
  | [only] => "expected " ++ ticked only
  | [first, second] => "expected " ++ ticked first ++ " or " ++ ticked second
  | names => "expected one of " ++ ", ".intercalate (names.map ticked)

namespace Cause

/-- The wording of a cause. -/
def message : Cause → String
  | mismatch found expected => s!"invalid type: {found}, expected {expected}"
  | unfit found expected => s!"invalid value: {found}, expected {expected}"
  | length found expected => s!"invalid length {found}, expected {expected}"
  | missing field => "missing field " ++ ticked field
  | repeated field => "duplicate field " ++ ticked field
  | unknown variant expected => s!"unknown variant {ticked variant}, {alternatives expected}"
  | refused message => message
  | malformed problem => problem

end Cause

/-- A fault: its cause, and the way to it from the top of the document. -/
structure Fault where
  path : List Segment
  cause : Cause
  /-- Whether the fault is told of the part around the one where it was found. -/
  outward : Bool := false
  deriving Repr, DecidableEq, Inhabited

namespace Fault

/-- A fault of the document as a whole. -/
def here (cause : Cause) : Fault := { path := [], cause }

/-- The fault told of the part around the one where it was found. -/
def outwards (fault : Fault) : Fault := { fault with outward := true }

/-- The fault seen from the part around it. -/
def under (segment : Segment) (fault : Fault) : Fault :=
  if fault.outward then { fault with outward := false }
  else { fault with path := segment :: fault.path }

/-- The wording without the path. -/
def message (fault : Fault) : String := fault.cause.message

/-- Whether the text itself is at fault, and not what it describes. -/
def isMalformed (fault : Fault) : Bool :=
  match fault.cause with
  | .malformed _ => true
  | _ => false

/-- The path as it is shown: keys with points between them, positions in brackets. -/
def showPath : List Segment → String
  | [] => ""
  | .key name :: rest => name ++ showRest rest
  | .index n :: rest => s!"[{n}]" ++ showRest rest
where
  showRest : List Segment → String
    | [] => ""
    | .key name :: rest => "." ++ name ++ showRest rest
    | .index n :: rest => s!"[{n}]" ++ showRest rest

/-- The wording with the path to the fault in front, when there is one. A fault of the text itself
has none. -/
def located (fault : Fault) : String :=
  if fault.path.isEmpty || fault.isMalformed then fault.message
  else s!"{showPath fault.path}: {fault.message}"

end Fault

/-- What reading a part of a document gives. -/
abbrev Reading (α : Type) := Except Fault α

/-- A reading inside a part of the document, seen from the part around it. -/
def Reading.under (segment : Segment) : Reading α → Reading α
  | .ok value => .ok value
  | .error fault => .error (fault.under segment)

/-- A reading that fails for the given cause. -/
def fail (cause : Cause) : Reading α := .error (.here cause)

end FieldAccess.Format
