import FieldAccess.Text.Classes

/-!
# Whole numbers of limited size

How a whole number between two bounds is read from decimal digits. Digits are looked at one after
another, and the first thing that is wrong is what is told.

## Main definitions

* `Decimal.BoundedFault` – why a text is no number between the bounds.
* `Decimal.readBounded` – the number that a text gives.
-/

namespace FieldAccess.Decimal

/-- Why a text is no number between the bounds. -/
inductive BoundedFault where
  | empty
  | notADigit
  | tooLarge
  | tooSmall
  deriving Repr, DecidableEq

/-- The wording of a fault. -/
def BoundedFault.message : BoundedFault → String
  | empty => "cannot parse integer from empty string"
  | notADigit => "invalid digit found in string"
  | tooLarge => "number too large to fit in target type"
  | tooSmall => "number too small to fit in target type"

/-- Adds digits to a number that is at most `limit`; `fault` tells that it grows beyond that. -/
def addDigits (limit : Nat) (fault : BoundedFault) :
    (value : Nat) → List Char → Except BoundedFault Nat
  | value, [] => .ok value
  | value, c :: rest =>
    if !Text.isDigit c then .error .notADigit
    else
      let next := value * 10 + (c.toNat - '0'.toNat)
      if limit < next then .error fault else addDigits limit fault next rest

/-- The number from `-below` to `above` that a text gives: digits, after a sign if there is one. -/
def readBounded (below above : Nat) : List Char → Except BoundedFault Int
  | [] => .error .empty
  | ['+'] => .error .notADigit
  | ['-'] => .error .notADigit
  | '+' :: digits => (addDigits above .tooLarge 0 digits).map Int.ofNat
  | '-' :: digits => (addDigits below .tooSmall 0 digits).map fun n => -Int.ofNat n
  | digits => (addDigits above .tooLarge 0 digits).map Int.ofNat

end FieldAccess.Decimal
