import FieldAccess.Text.WordTable
import FieldAccess.Text.AlphanumericTable

/-!
# Character classes

The three classes of characters on which schema documents and names depend: blanks, word
characters and alphanumeric characters. All three follow the Unicode properties; the ASCII part is
decided directly, so that statements about plain identifiers need no table.

## Main definitions

* `isBlank` – white space, the characters that trimming removes.
* `isWord` – characters of an identifier.
* `isAlphanumeric` – letters and numbers of every script.
-/

namespace FieldAccess.Text

/-- Whether `n` lies in one of the inclusive ranges. -/
def inRanges (ranges : List (Nat × Nat)) (n : Nat) : Bool :=
  ranges.any fun range => range.1 ≤ n && n ≤ range.2

/-- A digit `0` to `9`. -/
def isDigit (c : Char) : Bool := '0' ≤ c && c ≤ '9'

/-- A letter of the Latin alphabet without marks. -/
def isAsciiLetter (c : Char) : Bool := ('a' ≤ c && c ≤ 'z') || ('A' ≤ c && c ≤ 'Z')

/-- White space in the sense of the Unicode property of that name. -/
def isBlank (c : Char) : Bool :=
  let n := c.toNat
  if n < 0x80 then (9 ≤ n && n ≤ 13) || n == 32
  else n == 0x85 || n == 0xa0 || n == 0x1680 || (0x2000 ≤ n && n ≤ 0x200a) || n == 0x2028 ||
    n == 0x2029 || n == 0x202f || n == 0x205f || n == 0x3000

/-- A character that can stand inside an identifier. -/
def isWord (c : Char) : Bool :=
  if c.toNat < 0x80 then isAsciiLetter c || isDigit c || c == '_'
  else inRanges wordRanges c.toNat

/-- A letter or a number. -/
def isAlphanumeric (c : Char) : Bool :=
  if c.toNat < 0x80 then isAsciiLetter c || isDigit c
  else inRanges alphanumericRanges c.toNat

end FieldAccess.Text
