import FieldAccess.Json.Writer

/-!
# Identifiers

Universally unique identifiers of 128 bits, written as five groups of lower-case hexadecimal
digits. They may be read in capitals, without hyphens, in braces, or after `urn:uuid:`, whose
letters may be capitals too.

## Main definitions

* `Uuid` – an identifier.
* `Uuid.toText`, `Uuid.read` – writing and reading.
* `Uuid.numbered` – a sequence of distinct identifiers in the form of random ones.
-/

namespace FieldAccess

/-- An identifier of 128 bits. -/
structure Uuid where
  bits : BitVec 128
  deriving Repr, DecidableEq

namespace Uuid

instance : Inhabited Uuid := ⟨⟨0⟩⟩

/-- The last `count` hexadecimal digits of a number. -/
def hexDigits : (count n : Nat) → List Char
  | 0, _ => []
  | count + 1, n => hexDigits count (n / 16) ++ [Json.hexDigit (n % 16)]

/-- The written form. -/
def toText (id : Uuid) : String :=
  let digits := hexDigits 32 id.bits.toNat
  let group (start size : Nat) := String.ofList ((digits.drop start).take size)
  s!"{group 0 8}-{group 8 4}-{group 12 4}-{group 16 4}-{group 20 12}"

/-- The value of a hexadecimal digit. -/
def hexValue? (c : Char) : Option Nat :=
  if '0' ≤ c && c ≤ '9' then some (c.toNat - '0'.toNat)
  else if 'a' ≤ c && c ≤ 'f' then some (c.toNat - 'a'.toNat + 10)
  else if 'A' ≤ c && c ≤ 'F' then some (c.toNat - 'A'.toNat + 10)
  else none

/-- The number that hexadecimal digits write. -/
def number? (digits : List Char) : Option Nat :=
  digits.foldlM (fun n c => (hexValue? c).map fun d => n * 16 + d) 0

/-- The sizes of the groups. -/
def groupSizes : List Nat := [8, 4, 4, 4, 12]

/-- The parts of a text between hyphens. -/
def groups (text : List Char) : List (List Char) :=
  text.foldr (fun c parts =>
    if c = '-' then [] :: parts
    else match parts with
      | [] => [[c]]
      | part :: rest => (c :: part) :: rest) [[]]

/-- The identifier in five groups. -/
def ofGroups? (text : List Char) : Option Uuid :=
  let parts := groups text
  if parts.map List.length = groupSizes then
    (number? parts.flatten).map fun n => ⟨BitVec.ofNat 128 n⟩
  else none

/-- The text inside of braces or after `urn:uuid:`, the number of characters before it, and whether
it stands alone. -/
def unwrapped (text : List Char) : List Char × Nat × Bool :=
  match text with
  | '\x7b' :: rest =>
    if rest.getLast? = some '\x7d' then (rest.dropLast, 1, false) else (text, 0, true)
  | text =>
    if (text.take 9).map Char.toLower = "urn:uuid:".toList then (text.drop 9, 9, false)
    else (text, 0, true)

/-- The identifier that a text writes. -/
def ofText? (text : List Char) : Option Uuid :=
  if text.length = 32 then (number? text).map fun n => ⟨BitVec.ofNat 128 n⟩
  else ofGroups? (unwrapped text).1

/-- The first character that is neither a hyphen nor a hexadecimal digit, and the number of bytes
before it. -/
def firstStranger? (offset : Nat) : List Char → Option (Char × Nat)
  | [] => none
  | c :: rest =>
    if c = '-' || (hexValue? c).isSome then firstStranger? (offset + c.utf8Size) rest
    else some (c, offset)

/-- The places where the groups start, when the text is well formed. -/
def groupStarts : List Nat := [0, 9, 14, 19, 24]

/-- The positions of the hyphens. -/
def hyphens (text : List Char) : List Nat :=
  (text.zipIdx.filter fun (c, _) => c == '-').map fun (_, i) => i

/-- The number and size of the first of four groups that does not end where the next one should be
preceded by a hyphen. -/
def misplaced? : (index : Nat) → (starts hyphens : List Nat) → Option (Nat × Nat)
  | index, start :: next :: starts, hyphen :: hyphens =>
    if hyphen + 1 = next then misplaced? (index + 1) (next :: starts) hyphens
    else some (index, hyphen - start)
  | _, _, _ => none

/-- The number of bytes of a text. -/
def byteSize (text : List Char) : Nat := (String.ofList text).utf8ByteSize

/-- The size of the longest written form: five groups after `urn:uuid:`. -/
def longest : Nat := 45

/-- The size of five groups with hyphens between them. -/
def groupedSize : Nat := 36

/-- The complaint about a text of an impossible size. -/
def badLength (size : Nat) : String := s!"invalid length: found {size}"

/-- What is wrong with the digits and groups of a text, which counts its positions from `offset` and
stems from one of `size` bytes. One that stands alone may be without hyphens. -/
def groupComplaint (inner : List Char) (offset : Nat) (alone : Bool) (size : Nat) : String :=
  match firstStranger? offset inner with
  | some (c, position) =>
    "invalid character: found " ++ String.ofList ['\x60', c, '\x60'] ++ s!" at {position}"
  | none =>
    let marks := hyphens inner
    if marks.isEmpty && alone then badLength size
    else if marks.length ≠ 4 then
      s!"invalid group count: expected 5, found {marks.length + 1}"
    else
      match misplaced? 0 groupStarts marks with
      | some (group, found) =>
        s!"invalid group length in group {group}: expected {groupSizes.getD group 0}, found {found}"
      | none => s!"invalid group length in group 4: expected 12, found {size - 24}"

/-- Why a text writes no identifier. A text of the size of five groups is taken for them as it is,
and five groups inside of braces or after `urn:uuid:` count their positions for themselves. -/
def complaint (text : List Char) : String :=
  let size := byteSize text
  if size > longest then badLength size
  else if size = groupedSize then groupComplaint text 0 false size
  else
    let (inner, offset, alone) := unwrapped text
    groupComplaint inner (if byteSize inner = groupedSize then 0 else offset) alone size

/-- Reads an identifier. -/
def read (text : String) : Except String Uuid :=
  match ofText? text.toList with
  | some id => .ok id
  | none => .error ("UUID parsing failed: " ++ complaint text.toList)

/-- The bits that all random identifiers have: the version and the variant. -/
def randomForm : BitVec 128 := 0x00000000000040008000000000000000

/-- The bits of a random identifier that are drawn. -/
def drawnBits : BitVec 128 := 0xffffffffffff0fff3fffffffffffffff

/-- The random identifier with the given bits. -/
def ofRandom (bits : Nat) : Uuid := ⟨randomForm ||| (BitVec.ofNat 128 bits &&& drawnBits)⟩

/-- The `n`-th identifier of a sequence that has the form of random identifiers. -/
def numbered (n : Nat) : Uuid := ofRandom (n % Nat.pow 2 62)

end Uuid

end FieldAccess
