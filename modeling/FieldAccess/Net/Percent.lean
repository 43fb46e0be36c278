import FieldAccess.Json.Writer
import FieldAccess.Text.Utf8

/-!
# Percent encoding

Bytes of UTF-8 written as a percent sign and two hexadecimal digits.

## Main definitions

* `percentDecode` – the text in which the encoded bytes are replaced.
* `percentEncode` – the text in which some characters are encoded.
-/

namespace FieldAccess.Net

/-- The bytes of a character in UTF-8. -/
def utf8Bytes (c : Char) : List Nat :=
  let n := c.toNat
  if n < 0x80 then [n]
  else if n < 0x800 then [0xc0 + n / 0x40, 0x80 + n % 0x40]
  else if n < 0x10000 then [0xe0 + n / 0x1000, 0x80 + n / 0x40 % 0x40, 0x80 + n % 0x40]
  else [0xf0 + n / 0x40000, 0x80 + n / 0x1000 % 0x40, 0x80 + n / 0x40 % 0x40, 0x80 + n % 0x40]

/-- The value of a hexadecimal digit. -/
def hexValue? (c : Char) : Option Nat :=
  if '0' ≤ c && c ≤ '9' then some (c.toNat - '0'.toNat)
  else if 'a' ≤ c && c ≤ 'f' then some (c.toNat - 'a'.toNat + 10)
  else if 'A' ≤ c && c ≤ 'F' then some (c.toNat - 'A'.toNat + 10)
  else none

/-- The byte that two hexadecimal digits write. -/
def hexByte? (high low : Char) : Option Nat := do
  let high ← hexValue? high
  let low ← hexValue? low
  return high * 16 + low

/-- The bytes of a text in which encoded bytes count as themselves. -/
def decodedBytes : List Char → List Nat
  | [] => []
  | '%' :: high :: low :: rest =>
    match hexByte? high low with
    | some byte => byte :: decodedBytes rest
    | none => utf8Bytes '%' ++ decodedBytes (high :: low :: rest)
  | c :: rest => utf8Bytes c ++ decodedBytes rest
termination_by text => text.length

/-- The text in which encoded bytes are replaced, or the first fault of its bytes. -/
def percentDecode (text : List Char) : Except Text.Utf8.Fault (List Char) :=
  Text.Utf8.decode (decodedBytes text)

/-- The text in which encoded bytes are replaced, if its bytes are correct UTF-8. -/
def percentDecode? (text : List Char) : Option (List Char) := (percentDecode text).toOption

/-- A hexadecimal digit in upper case. -/
def upperHexDigit (n : Nat) : Char := (Json.hexDigit n).toUpper

/-- An encoded byte. -/
def encodedByte (byte : Nat) : List Char :=
  ['%', upperHexDigit (byte / 16), upperHexDigit (byte % 16)]

/-- The text in which the characters that `isEncoded` selects, and all beyond ASCII, are encoded. -/
def percentEncode (isEncoded : Char → Bool) (text : List Char) : List Char :=
  text.flatMap fun c =>
    if isEncoded c || 0x7f ≤ c.toNat || c.toNat < 0x20 then (utf8Bytes c).flatMap encodedByte
    else [c]

end FieldAccess.Net
