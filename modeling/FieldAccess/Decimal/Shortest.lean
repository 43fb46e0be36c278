/-!
# Shortest decimals

The decimal with the fewest digits that reads back as a given binary floating-point number, and of
those the one nearest to it.

A finite positive number is `m · 2 ^ q`. The reals that read back as it form an interval around it,
which contains its ends when `m` is even. For one digit, two digits and so on the two neighbours of
the number on the decimal grid of that many digits are tried; seventeen digits always suffice.

## Main definitions

* `Binary` – a finite positive number `m · 2 ^ q` and its neighbours.
* `Binary.shortest` – the digits and the exponent of its shortest decimal.
* `magnitude?` – the magnitude of a floating-point number, if it is finite and not zero.
-/

namespace FieldAccess.Decimal

/-- The number `mantissa · 2 ^ exponent`, where `lowered` tells that the gap below it is half the
gap above it. -/
structure Binary where
  mantissa : Nat
  exponent : Int
  lowered : Bool
  deriving Repr

/-- The fraction `n · 2 ^ e` as numerator and denominator. -/
def scale2 (n : Nat) (e : Int) : Nat × Nat :=
  if 0 ≤ e then (n * Nat.pow 2 e.toNat, 1) else (n, Nat.pow 2 (-e).toNat)

/-- The fraction `n · 10 ^ e` as numerator and denominator. -/
def scale10 (n : Nat) (e : Int) : Nat × Nat :=
  if 0 ≤ e then (n * Nat.pow 10 e.toNat, 1) else (n, Nat.pow 10 (-e).toNat)

/-- Comparison of two fractions with positive denominators. -/
def fractionLt (a b : Nat × Nat) : Bool := a.1 * b.2 < b.1 * a.2

namespace Binary

/-- Whether the fraction reads back as the number: it lies between the midpoints to the number's
neighbours, or on one of them when the mantissa is even. -/
def covers (x : Binary) (fraction : Nat × Nat) : Bool :=
  let low := if x.lowered then scale2 (4 * x.mantissa - 1) (x.exponent - 2)
    else scale2 (2 * x.mantissa - 1) (x.exponent - 1)
  let high := scale2 (2 * x.mantissa + 1) (x.exponent - 1)
  if x.mantissa % 2 = 0 then !fractionLt fraction low && !fractionLt high fraction
  else fractionLt low fraction && fractionLt fraction high

/-- The decimal exponent `e` with `10 ^ e ≤ x < 10 ^ (e + 1)`, searched upward from `e`. -/
def magnitudeFrom (x : Binary) : Nat → Int → Int
  | 0, e => e
  | fuel + 1, e =>
    if fractionLt (scale2 x.mantissa x.exponent) (scale10 1 (e + 1)) then e
    else magnitudeFrom x fuel (e + 1)

/-- The decimal exponent of the leading digit. -/
def leading (x : Binary) : Int := x.magnitudeFrom 700 (-330)

/-- The neighbours of the number on the grid of multiples of `10 ^ e` that read back as it, the
nearer one first. -/
def candidates (x : Binary) (e : Int) : List Nat :=
  let (n, d) := scale2 x.mantissa x.exponent
  let (n, d) := if 0 ≤ e then (n, d * Nat.pow 10 e.toNat) else (n * Nat.pow 10 (-e).toNat, d)
  let below := n / d
  let order := if 2 * (n % d) ≤ d then [below, below + 1] else [below + 1, below]
  order.filter fun k => 0 < k && x.covers (scale10 k e)

/-- The shortest decimal from `digits` digits upward, as an integer and a power of ten. -/
def shortestFrom (x : Binary) (lead : Int) : Nat → Nat → Nat × Int
  | 0, _ => (x.mantissa, 0)
  | fuel + 1, digits =>
    let e := lead - (digits : Int) + 1
    match x.candidates e with
    | k :: _ => (k, e)
    | [] => shortestFrom x lead fuel (digits + 1)

/-- Drops the zeros at the end of an integer, counting them into the exponent. -/
def withoutZeros : Nat → Nat × Int → Nat × Int
  | 0, r => r
  | fuel + 1, (k, e) =>
    if k % 10 = 0 && k ≠ 0 then withoutZeros fuel (k / 10, e + 1) else (k, e)

/-- The shortest decimal `k · 10 ^ e` that reads back as the number, with `k` not a multiple of
ten. -/
def shortest (x : Binary) : Nat × Int :=
  withoutZeros 20 (x.shortestFrom x.leading 18 1)

end Binary

/-- The magnitude of a floating-point number that is finite and not zero. -/
def magnitude? (x : Float) : Option Binary :=
  let bits : Nat := x.toBits.toNat
  let biased : Nat := bits / Nat.pow 2 52 % Nat.pow 2 11
  let fraction : Nat := bits % Nat.pow 2 52
  if biased = 0x7ff then none
  else if biased = 0 then if fraction = 0 then none else some ⟨fraction, -1074, false⟩
  else some ⟨Nat.pow 2 52 + fraction, (biased : Int) - 1075, fraction == 0 && biased != 1⟩

/-- `k · 10 ^ e` written out in full, with at least one digit on each side of the point. -/
def positional (k : Nat) (e : Int) : List Char :=
  let digits := (toString k).toList
  if 0 ≤ e then digits ++ List.replicate e.toNat '0' ++ ['.', '0']
  else
    let places := (-e).toNat
    let padded := List.replicate (places + 1 - digits.length) '0' ++ digits
    let (whole, part) := padded.splitAt (padded.length - places)
    whole ++ '.' :: part

/-- `k · 10 ^ e` with one digit before the point and a signed exponent. -/
def scientific (k : Nat) (e : Int) : List Char :=
  let digits := (toString k).toList
  let exponent := e + (digits.length : Int) - 1
  let mantissa := match digits with
    | [d] => [d]
    | d :: rest => d :: '.' :: rest
    | [] => []
  mantissa ++ 'e' :: (if exponent < 0 then '-' else '+') :: (toString exponent.natAbs).toList

end FieldAccess.Decimal
