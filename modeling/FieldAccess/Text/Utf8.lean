import FieldAccess.Text.Classes

/-!
# Characters in bytes

The encoding of characters in one to four bytes. Bytes that encode nothing are faults: one of them
reaches from the first byte that is not part of a character up to the first byte that cannot
continue it.

## Main definitions

* `Utf8.decode` – the text that bytes encode, or their first fault.
* `Utf8.decodeLossy` – the text with a sign in the place of each fault.
-/

namespace FieldAccess.Text.Utf8

/-- A fault in bytes: how many bytes stand before it, and its size unless it reaches to the end. -/
structure Fault where
  index : Nat
  size : Option Nat
  deriving Repr, DecidableEq

/-- The wording of a fault. -/
def Fault.message (fault : Fault) : String :=
  match fault.size with
  | some size => s!"invalid utf-8 sequence of {size} bytes from index {fault.index}"
  | none => s!"incomplete utf-8 byte sequence from index {fault.index}"

/-- The number of bytes after the first one of a character, if a byte may be the first one. -/
def followers? (first : Nat) : Option Nat :=
  if first < 0x80 then some 0
  else if first < 0xc2 then none
  else if first < 0xe0 then some 1
  else if first < 0xf0 then some 2
  else if first < 0xf5 then some 3
  else none

/-- The least and the greatest byte that may follow the first one of a character. -/
def secondBounds (first : Nat) : Nat × Nat :=
  if first = 0xe0 then (0xa0, 0xbf)
  else if first = 0xed then (0x80, 0x9f)
  else if first = 0xf0 then (0x90, 0xbf)
  else if first = 0xf4 then (0x80, 0x8f)
  else (0x80, 0xbf)

/-- How many of the next `count` bytes continue a character. -/
def continuing (bounds : Nat × Nat) : (count : Nat) → List Nat → Nat
  | 0, _ => 0
  | _, [] => 0
  | count + 1, byte :: rest =>
    if bounds.1 ≤ byte && byte ≤ bounds.2 then 1 + continuing (0x80, 0xbf) count rest else 0

/-- The number of a character with the given first byte and following bytes. -/
def codePoint (first : Nat) (following : List Nat) : Nat :=
  let lead := match following.length with
    | 0 => first
    | 1 => first % 0x20
    | 2 => first % 0x10
    | _ => first % 0x08
  following.foldl (fun n byte => n * 0x40 + byte % 0x40) lead

/-- What stands at the start of bytes: a character of a number of bytes, or a fault of a size unless
it reaches to the end. -/
inductive Start where
  | char (c : Char) (size : Nat)
  | fault (size : Option Nat)

/-- What stands at the start of bytes, after their first one. -/
def start (first : Nat) (rest : List Nat) : Start :=
  match followers? first with
  | none => .fault (some 1)
  | some count =>
    let good := continuing (secondBounds first) count rest
    if good = count then .char (Char.ofNat (codePoint first (rest.take count))) (1 + count)
    else if good = rest.length then .fault none
    else .fault (some (1 + good))

/-- The text that bytes encode. `index` bytes stand before them, and `limit` bounds their number. -/
def decodeFrom : (limit index : Nat) → List Nat → Except Fault (List Char)
  | 0, _, _ => .ok []
  | _, _, [] => .ok []
  | limit + 1, index, first :: rest =>
    match start first rest with
    | .char c size => do return c :: (← decodeFrom limit (index + size) (rest.drop (size - 1)))
    | .fault size => .error { index, size }

/-- The text that bytes encode. -/
def decode (bytes : List Nat) : Except Fault (List Char) := decodeFrom bytes.length 0 bytes

/-- The sign in the place of bytes that encode nothing. -/
def replacement : Char := Char.ofNat 0xfffd

/-- The text with a sign in the place of each fault. `limit` bounds the number of bytes. -/
def decodeLossyFrom : (limit : Nat) → List Nat → List Char
  | 0, _ => []
  | _, [] => []
  | limit + 1, first :: rest =>
    match start first rest with
    | .char c size => c :: decodeLossyFrom limit (rest.drop (size - 1))
    | .fault (some size) => replacement :: decodeLossyFrom limit (rest.drop (size - 1))
    | .fault none => [replacement]

/-- The text with a sign in the place of each fault. -/
def decodeLossy (bytes : List Nat) : List Char := decodeLossyFrom bytes.length bytes

end FieldAccess.Text.Utf8
