import FieldAccess.Text.Classes

/-!
# Trimming, lines and searching

Operations on texts given as lists of characters, and the trimming of strings built on them.

## Main definitions

* `trimStart`, `trimEnd`, `trim` – removal of blanks at the ends of a text.
* `lines` – the lines of a text; a line ends with a line feed, with or without a carriage return
  before it.
* `splitFirst?`, `splitLast?` – the text before and after the first occurrence of a pattern, or the
  last one of a character.
* `joined` – texts written one after another with a separator between them.
-/

namespace FieldAccess.Text

/-- The text without the blanks it starts with. -/
def trimStart (text : List Char) : List Char := text.dropWhile isBlank

/-- The text without the blanks it ends with. -/
def trimEnd (text : List Char) : List Char := (text.reverse.dropWhile isBlank).reverse

/-- The text without the blanks at both of its ends. -/
def trim (text : List Char) : List Char := trimEnd (trimStart text)

/-- A line with the carriage return at its end removed. -/
def withoutReturn (line : List Char) : List Char :=
  if line.getLast? = some '\r' then line.dropLast else line

/-- The lines of `text`, where `line` holds the characters read since the last line feed, in
reverse. Text after the last line feed is a line only if there is some, and keeps a carriage
return. -/
def linesFrom (line : List Char) : List Char → List (List Char)
  | [] => if line.isEmpty then [] else [line.reverse]
  | '\n' :: rest => withoutReturn line.reverse :: linesFrom [] rest
  | c :: rest => linesFrom (c :: line) rest

/-- The lines of `text`. -/
def lines (text : List Char) : List (List Char) := linesFrom [] text

/-- The rest of `text` after `pattern`, when it starts with it. -/
def afterPrefix? : (pattern text : List Char) → Option (List Char)
  | [], text => some text
  | _ :: _, [] => none
  | p :: pattern, c :: text => if p = c then afterPrefix? pattern text else none

/-- What stands before and after the first occurrence of `pattern`. -/
def splitFirst? (pattern : List Char) : List Char → Option (List Char × List Char)
  | [] => (afterPrefix? pattern []).map fun rest => ([], rest)
  | c :: text =>
    match afterPrefix? pattern (c :: text) with
    | some rest => some ([], rest)
    | none => (splitFirst? pattern text).map fun (before, rest) => (c :: before, rest)

/-- What stands before and after the last occurrence of `separator`. -/
def splitLast? (separator : Char) : List Char → Option (List Char × List Char)
  | [] => none
  | c :: text =>
    match splitLast? separator text with
    | some (before, after) => some (c :: before, after)
    | none => if c = separator then some ([], text) else none

/-- The parts of `text` between the characters that satisfy `isSeparator`. -/
def splitOn (isSeparator : Char → Bool) : List Char → List (List Char)
  | [] => [[]]
  | c :: text =>
    if isSeparator c then [] :: splitOn isSeparator text
    else
      match splitOn isSeparator text with
      | [] => [[c]]
      | part :: parts => (c :: part) :: parts

/-- The texts one after another, with `separator` between neighbours. -/
def joined (separator : List Char) : List (List Char) → List Char
  | [] => []
  | [text] => text
  | text :: rest => text ++ separator ++ joined separator rest

/-- The string without the blanks at both of its ends. -/
def trimmed (s : String) : String := String.ofList (trim s.toList)

/-- Whether the string holds nothing but blanks. -/
def isBlankText (s : String) : Bool := s.toList.all isBlank

/-- The string without the characters `c` it ends with. -/
def withoutTrailing (c : Char) (s : String) : String :=
  String.ofList (s.toList.reverse.dropWhile (· == c)).reverse

end FieldAccess.Text
