import FieldAccess.Decimal.Shortest
import FieldAccess.Json.Reader
import FieldAccess.Text.Trim

/-!
# Plain scalars

A scalar without quotes is a text, unless it is spelled like an absent value, a truth value or a
number. Digits after a leading zero are no number.

## Main definitions

* `PlainValue`, `PlainValue.ofText` – what a plain scalar stands for.
* `unsigned?` – the natural number that a scalar spells.
-/

namespace FieldAccess.Yaml

/-- What a plain scalar stands for. -/
inductive PlainValue where
  | null
  | flag (value : Bool)
  | integer (value : Int)
  /-- A number with a fraction or an exponent, by its digits. -/
  | decimal (digits : String)
  | text (value : String)
  deriving Repr, DecidableEq, Inhabited

/-- Whether a text is a spelling of the absent value. -/
def isNull (text : String) : Bool := ["null", "Null", "NULL", "~"].contains text

/-- The truth value that a text spells. -/
def flag? (text : String) : Option Bool :=
  if ["true", "True", "TRUE"].contains text then some true
  else if ["false", "False", "FALSE"].contains text then some false
  else none

/-- Whether a text is a row of digits, with a sign or without, that starts with a needless zero. -/
def isPadded (text : List Char) : Bool :=
  let digits := match text with
    | '-' :: rest => rest
    | '+' :: rest => rest
    | digits => digits
  match digits with
  | '0' :: rest => !rest.isEmpty && rest.all Text.isDigit
  | _ => false

/-- The value of a digit in a base. -/
def digitValue? (base : Nat) (c : Char) : Option Nat := do
  let value ← Json.Reader.hexValue? c
  if value < base then return value else none

/-- The number that digits write in a base. -/
def digitsValue? (base : Nat) (digits : List Char) : Option Nat :=
  if digits.isEmpty then none
  else digits.foldlM (fun n d => do return n * base + (← digitValue? base d)) 0

/-- The bases that a number may name, each with its letter. -/
def bases : List (Char × Nat) := [('x', 16), ('o', 8), ('b', 2)]

/-- The number that a text writes with the name of its base in front. -/
def basedValue? : List Char → Option Nat
  | '0' :: letter :: digits => (bases.lookup letter).bind fun base => digitsValue? base digits
  | _ => none

/-- The number that a text writes without a sign. -/
def bareValue? (text : List Char) : Option Nat := basedValue? text <|> digitsValue? 10 text

/-- The natural number that a scalar spells, with a plus sign or without. -/
def unsigned? (text : List Char) : Option Nat :=
  if isPadded text then none
  else
    match text with
    | '+' :: rest => bareValue? rest
    | rest => bareValue? rest

/-- The number below zero that a scalar spells. -/
def negative? (text : List Char) : Option Int :=
  match text with
  | '-' :: rest => if isPadded rest then none else (bareValue? rest).map fun n => -(n : Int)
  | _ => none

/-- The parts of a number with a point or an exponent: its digits and the power of ten. -/
def scientific? (text : List Char) : Option (List Char × Int) := do
  let whole := text.takeWhile Text.isDigit
  let rest := text.dropWhile Text.isDigit
  let (fraction, rest) := match rest with
    | '.' :: rest => (rest.takeWhile Text.isDigit, rest.dropWhile Text.isDigit)
    | rest => ([], rest)
  let digits := whole ++ fraction
  if digits.isEmpty then none
  let exponent ← exponent? rest
  return (digits, exponent - fraction.length)
where
  /-- The exponent at the end of a number. -/
  exponent? : List Char → Option Int
    | [] => some 0
    | letter :: rest =>
      if letter = 'e' || letter = 'E' then
        match rest with
        | '-' :: digits => (digitsValue? 10 digits).map fun n => -(n : Int)
        | '+' :: digits => (digitsValue? 10 digits).map Int.ofNat
        | digits => (digitsValue? 10 digits).map Int.ofNat
      else none

/-- The floating-point number next to `digits · 10 ^ exponent`; `none` when it is out of range. -/
def nearest? (digits : List Char) (exponent : Int) : Option Float :=
  let digits := digits.dropWhile (· = '0')
  let lead := digits.length + exponent
  if digits.isEmpty || lead < -400 then some 0
  else if 400 < lead then none
  else
    let significand := digits.foldl (fun n d => n * 10 + (d.toNat - '0'.toNat)) 0
    let x := Float.ofScientific significand (exponent < 0) exponent.natAbs
    if x.isInf then none else some x

/-- The digits of a floating-point number, with a point. -/
def decimalDigits (negative : Bool) (x : Float) : String :=
  let digits := match Decimal.magnitude? x with
    | none => ['0', '.', '0']
    | some magnitude =>
      let (k, e) := magnitude.shortest
      Decimal.positional k e
  String.ofList (if negative then '-' :: digits else digits)

/-- The spellings of infinity. -/
def infinities : List String := [".inf", ".Inf", ".INF"]

/-- The number with a point or an exponent that a scalar spells, by its digits. -/
def decimal? (text : List Char) : Option String :=
  let finite (negative : Bool) (text : List Char) : Option String := do
    let (digits, exponent) ← scientific? text
    return decimalDigits negative (← nearest? digits exponent)
  if [".nan", ".NaN", ".NAN"].contains (String.ofList text) then some "NaN"
  else
    let signed (negative : Bool) (text : List Char) : Option String :=
      if infinities.contains (String.ofList text) then some (if negative then "-inf" else "inf")
      else finite negative text
    match text with
    | '+' :: rest => signed false rest
    | '-' :: rest => signed true rest
    | rest => signed false rest

/-- The integer that a scalar spells, if it has at most 128 bits. -/
def integer? (text : List Char) : Option Int :=
  match unsigned? text with
  | some n => if n < Nat.pow 2 128 then some n else none
  | none => (negative? text).filter fun n => -(Nat.pow 2 127 : Nat) ≤ n

/-- What a plain scalar stands for. -/
def PlainValue.ofText (text : String) : PlainValue :=
  if text.isEmpty || isNull text then .null
  else
    match flag? text, integer? text.toList with
    | some b, _ => .flag b
    | none, some n => .integer n
    | none, none =>
      if isPadded text.toList then .text text
      else
        match decimal? text.toList with
        | some digits => .decimal digits
        | none => .text text

end FieldAccess.Yaml
