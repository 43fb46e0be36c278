import FieldAccess.Text.PrintableTable
import FieldAccess.Text.Classes

/-!
# Quoted texts

A text as it is shown inside messages: in double quotes, with escapes for quotes, backslashes,
line breaks and all characters that would not show.

## Main definitions

* `quoted` – a text in quotes.
-/

namespace FieldAccess.Text

/-- The hexadecimal digits of a number, without leading zeros. -/
def hexDigits (n : Nat) : List Char := Nat.toDigits 16 n

/-- A character that shows in print. -/
def isPrintable (c : Char) : Bool :=
  if c.toNat < 0x80 then 0x20 ≤ c.toNat && c.toNat < 0x7f
  else !inRanges unprintableRanges c.toNat

/-- A character that is drawn over the one before it. -/
def extendsGrapheme (c : Char) : Bool :=
  0x80 ≤ c.toNat && inRanges graphemeExtendRanges c.toNat

/-- A character as it is written inside quotes. -/
def quotedChar (c : Char) : List Char :=
  if c = '"' then ['\\', '"']
  else if c = '\\' then ['\\', '\\']
  else if c = '\n' then ['\\', 'n']
  else if c = '\r' then ['\\', 'r']
  else if c = '\t' then ['\\', 't']
  else if c.toNat = 0 then ['\\', '0']
  else if extendsGrapheme c || !isPrintable c then
    ['\\', 'u', '\x7b'] ++ hexDigits c.toNat ++ ['\x7d']
  else [c]

/-- A text in quotes. -/
def quoted (s : String) : String := String.ofList ('"' :: (s.toList.flatMap quotedChar ++ ['"']))

end FieldAccess.Text
