/-!
# Punycode

The encoding of domain labels in ASCII (RFC 3492): the ASCII characters of a label, a hyphen, and
then, in numbers of variable length, where the other characters are to be inserted.

## Main definitions

* `Punycode.decode` – the label that a text encodes.
* `Punycode.encode` – the encoding of a label.
-/

namespace FieldAccess.Net.Punycode

/-- The value of a digit: letters stand for 0 to 25, digits for 26 to 35. -/
def digit? (c : Char) : Option Nat :=
  if 'a' ≤ c && c ≤ 'z' then some (c.toNat - 'a'.toNat)
  else if 'A' ≤ c && c ≤ 'Z' then some (c.toNat - 'A'.toNat)
  else if '0' ≤ c && c ≤ '9' then some (c.toNat - '0'.toNat + 26)
  else none

/-- The threshold of the digit at place `k`: it ends a number unless it is at least this. -/
def threshold (k bias : Nat) : Nat :=
  if k ≤ bias then 1 else if bias + 26 ≤ k then 26 else k - bias

/-- Divides by 35 while the number is large, counting places. -/
def shrink : (fuel delta k : Nat) → Nat × Nat
  | 0, delta, k => (delta, k)
  | fuel + 1, delta, k => if 455 < delta then shrink fuel (delta / 35) (k + 36) else (delta, k)

/-- The bias after a number, given the count of characters with the one it inserts. -/
def adapt (delta count : Nat) (first : Bool) : Nat :=
  let delta := if first then delta / 700 else delta / 2
  let (delta, k) := shrink delta (delta + delta / count) 0
  k + 36 * delta / (delta + 38)

/-- Reads a number of variable length and adds it to `sum`. -/
def number? (bias : Nat) : (k weight sum : Nat) → List Char → Option (Nat × List Char)
  | _, _, _, [] => none
  | k, weight, sum, c :: rest =>
    match digit? c with
    | none => none
    | some digit =>
      let sum := sum + digit * weight
      let t := threshold k bias
      if sum < Nat.pow 2 32 then
        if digit < t then some (sum, rest)
        else if weight * (36 - t) < Nat.pow 2 32 then
          number? bias (k + 36) (weight * (36 - t)) sum rest
        else none
      else none

/-- Inserts the characters that the numbers stand for into those already `done`. `fuel` bounds
their count. -/
def insertAll : (fuel n i bias : Nat) → (done : List Char) → List Char → Option (List Char)
  | _, _, _, _, done, [] => some done
  | 0, _, _, _, _, _ => none
  | fuel + 1, n, i, bias, done, text =>
    match number? bias 36 1 i text with
    | none => none
    | some (next, rest) =>
      let count := done.length + 1
      let code := n + next / count
      let place := next % count
      if code.isValidChar then
        insertAll fuel code (place + 1) (adapt (next - i) count (i == 0))
          (done.take place ++ Char.ofNat code :: done.drop place) rest
      else none

/-- The label that a text encodes. -/
def decode (text : List Char) : Option (List Char) :=
  let numbers := (text.reverse.takeWhile (· != '-')).reverse
  let basic := text.take (text.length - numbers.length - 1)
  insertAll numbers.length 128 0 72 basic numbers

/-- The digit of a value. -/
def digit (value : Nat) : Char :=
  Char.ofNat (if value < 26 then 'a'.toNat + value else '0'.toNat + (value - 26))

/-- Writes a number of variable length from the place `k` on. `fuel` bounds its digits. -/
def numberText (bias : Nat) : (fuel k n : Nat) → List Char
  | 0, _, n => [digit n]
  | fuel + 1, k, n =>
    let t := threshold k bias
    if n < t then [digit n]
    else digit (t + (n - t) % (36 - t)) :: numberText bias fuel (k + 36) ((n - t) / (36 - t))

/-- What has been encoded so far: the encoding, the count of characters that are in place, the
distance since the last number, and the bias of the next one. -/
structure Encoding where
  text : List Char
  count : Nat
  delta : Nat := 0
  bias : Nat := 72

/-- Passes a character of the label while those with the number `code` are put in place. If `first`
characters are there, it is the first one that is put in place. -/
def Encoding.pass (code first : Nat) (done : Encoding) (c : Char) : Encoding :=
  if c.toNat < code then { done with delta := done.delta + 1 }
  else if c.toNat = code then
    { text := done.text ++ numberText done.bias done.delta 36 done.delta,
      count := done.count + 1,
      delta := 0,
      bias := adapt done.delta (done.count + 1) (done.count == first) }
  else done

/-- Puts the characters with the given numbers in place, in increasing order from `next` on. -/
def encodeFrom (label : List Char) (first : Nat) :
    (next : Nat) → Encoding → (codes : List Nat) → Encoding
  | _, done, [] => done
  | next, done, code :: codes =>
    let before := { done with delta := done.delta + (code - next) * (done.count + 1) }
    let after := label.foldl (Encoding.pass code first) before
    encodeFrom label first (code + 1) { after with delta := after.delta + 1 } codes

/-- The encoding of a label. -/
def encode (label : List Char) : List Char :=
  let basic := label.filter fun c => c.toNat < 128
  let codes := ((label.map Char.toNat).filter (128 ≤ ·)).eraseDups.mergeSort
  let start : Encoding := { text := [], count := basic.length }
  let numbers := (encodeFrom label basic.length 128 start codes).text
  if basic.isEmpty then numbers else basic ++ '-' :: numbers

end FieldAccess.Net.Punycode
