import FieldAccess.Decimal.Bounded
import FieldAccess.Policy.FieldRef

/-!
# Values of options

What stands after an option on the command line, or in the variable that takes its place.

## Main definitions

* `ValueKind` – what a value must be.
* `Value` – a value.
* `ValueKind.read` – the value that a text gives.
-/

namespace FieldAccess.CommandLine

/-- What the value of an option must be. -/
inductive ValueKind where
  | text
  /-- The path of a file. -/
  | path
  /-- The number of a port. -/
  | port
  /-- A reference to a field as one word. -/
  | field
  deriving Repr, DecidableEq

/-- The value of an option. -/
inductive Value where
  | text (text : String)
  | port (port : UInt16)
  | field (ref : FieldRef)
  /-- The option has no value; it is there. -/
  | on
  deriving Repr, DecidableEq

/-- Why a text does not give a value. -/
inductive ValueFault where
  | empty
  | number (fault : Decimal.BoundedFault)
  | noPort (number : Int)
  | noField (word : String)
  deriving Repr, DecidableEq

/-- The wording of a fault. -/
def ValueFault.message : ValueFault → String
  | empty => "a value is required"
  | number fault => fault.message
  | noPort n => s!"{n} is not in 0..=65535"
  | noField word => s!"expected SCHEMA:FIELD, got '{word}'"

/-- The port that a text gives. -/
def readPort (text : String) : Except ValueFault UInt16 := do
  let n ← (Decimal.readBounded (Nat.pow 2 63) (Nat.pow 2 63 - 1) text.toList).mapError .number
  if 0 ≤ n ∧ n < Nat.pow 2 16 then return n.toNat.toUInt16 else throw (.noPort n)

/-- The value that a text gives. -/
def ValueKind.read (kind : ValueKind) (text : String) : Except ValueFault Value :=
  match kind with
  | .text => .ok (.text text)
  | .path => if text.isEmpty then .error .empty else .ok (.text text)
  | .port => (readPort text).map .port
  | .field =>
    match FieldRef.ofWord? text with
    | some ref => .ok (.field ref)
    | none => .error (.noField text)

end FieldAccess.CommandLine
