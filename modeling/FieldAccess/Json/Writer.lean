import FieldAccess.Json.Value

/-!
# Writing JSON

Two layouts of a JSON text: the compact one without any blanks, and the indented one with a line
for every item and entry. Quotes, backslashes and control characters are escaped, all other
characters stand for themselves.

## Main definitions

* `Json.compact` – the compact layout.
* `Json.indented` – the indented layout, two blanks a level.
-/

namespace FieldAccess.Json

/-- The digit of a number below sixteen. -/
def hexDigit (n : Nat) : Char :=
  if n < 10 then Char.ofNat ('0'.toNat + n) else Char.ofNat ('a'.toNat + (n - 10))

/-- A character as it is written inside quotes. -/
def escapeChar (c : Char) : List Char :=
  if c = '"' then ['\\', '"']
  else if c = '\\' then ['\\', '\\']
  else if 0x20 ≤ c.toNat then [c]
  else if c = '\n' then ['\\', 'n']
  else if c = '\r' then ['\\', 'r']
  else if c = '\t' then ['\\', 't']
  else if c.toNat = 8 then ['\\', 'b']
  else if c.toNat = 12 then ['\\', 'f']
  else ['\\', 'u', '0', '0', hexDigit (c.toNat / 16), hexDigit (c.toNat % 16)]

/-- A text in quotes. -/
def quotedChars (s : String) : List Char := '"' :: (s.toList.flatMap escapeChar ++ ['"'])

/-- A text in quotes. -/
def quoted (s : String) : String := String.ofList (quotedChars s)

mutual

/-- The characters of the compact layout. -/
def compactChars : Json → List Char
  | .null => ['n', 'u', 'l', 'l']
  | .flag true => ['t', 'r', 'u', 'e']
  | .flag false => ['f', 'a', 'l', 's', 'e']
  | .integer n => (toString n).toList
  | .decimal digits => digits.toList
  | .text s => quotedChars s
  | .list items => '[' :: compactItems items
  | .table entries => '{' :: compactEntries entries

/-- The items of an array and its closing bracket. -/
def compactItems : List Json → List Char
  | [] => [']']
  | [item] => compactChars item ++ [']']
  | item :: rest => compactChars item ++ ',' :: compactItems rest

/-- The entries of an object and its closing brace. -/
def compactEntries : List (String × Json) → List Char
  | [] => ['}']
  | [(key, value)] => quotedChars key ++ ':' :: compactChars value ++ ['}']
  | (key, value) :: rest =>
    quotedChars key ++ ':' :: compactChars value ++ ',' :: compactEntries rest

end

/-- The compact layout of a value. -/
def compact (value : Json) : String := String.ofList value.compactChars

/-- A line break and the blanks of an indentation. -/
def newLine (depth : Nat) : List Char := '\n' :: List.replicate (2 * depth) ' '

mutual

/-- The characters of the indented layout, for a value `depth` levels down. -/
def indentedChars (depth : Nat) : Json → List Char
  | .list [] => ['[', ']']
  | .list items => '[' :: indentedItems depth items
  | .table [] => ['{', '}']
  | .table entries => '{' :: indentedEntries depth entries
  | value => value.compactChars

/-- The items of an array that lies `depth` levels down, one a line, and its closing bracket. -/
def indentedItems (depth : Nat) : List Json → List Char
  | [] => newLine depth ++ [']']
  | [item] => newLine (depth + 1) ++ indentedChars (depth + 1) item ++ newLine depth ++ [']']
  | item :: rest =>
    newLine (depth + 1) ++ indentedChars (depth + 1) item ++ ',' :: indentedItems depth rest

/-- The entries of an object that lies `depth` levels down, one a line, and its closing brace. -/
def indentedEntries (depth : Nat) : List (String × Json) → List Char
  | [] => newLine depth ++ ['}']
  | [(key, value)] =>
    newLine (depth + 1) ++ quotedChars key ++ ':' :: ' ' :: indentedChars (depth + 1) value ++
      newLine depth ++ ['}']
  | (key, value) :: rest =>
    newLine (depth + 1) ++ quotedChars key ++ ':' :: ' ' :: indentedChars (depth + 1) value ++
      ',' :: indentedEntries depth rest

end

/-- The indented layout of a value. -/
def indented (value : Json) : String := String.ofList (indentedChars 0 value)

end FieldAccess.Json
