import FieldAccess.Json.Writer
import FieldAccess.Text.Trim
import FieldAccess.Yaml.Document
import FieldAccess.Yaml.Plain

/-!
# Writing YAML

A value is written as a document of mappings in blocks. A text is written plain if it can be, so
that it reads back as that text; texts of several lines are written as blocks of lines.

## Main definitions

* `styleOf` – the way in which a text is written.
* `Node.ofValue` – the node that a value is written as.
* `Node.render` – the text of a node.
-/

namespace FieldAccess.Yaml

/-! ## The way of writing -/

/-- A character that is written as itself. -/
def isPrintable (c : Char) : Bool :=
  let n := c.toNat
  n = 0x0a || (0x20 ≤ n && n ≤ 0x7e) || (0xa0 ≤ n && n ≤ 0xfffd && n ≠ 0xfeff) || 0x10000 ≤ n

/-- Whether two neighbours in a text are selected by `first` and `second`. -/
def hasNeighbours (first second : Char → Bool) : List Char → Bool
  | c :: d :: rest => (first c && second d) || hasNeighbours first second (d :: rest)
  | _ => false

/-- A character that would be escaped inside a text. -/
def isSpecial (c : Char) : Bool := !isPrintable c

/-- A blank, or the end of a line. -/
def isGap (c : Char) : Bool := isBlank c || isBreak c

/-- Whether a text starts with a sign that has a meaning of its own. -/
def startsWithSign (text : List Char) : Bool :=
  match text with
  | '-' :: '-' :: '-' :: _ | '.' :: '.' :: '.' :: _ => true
  | c :: rest =>
    Cursor.isFlowSign c || "#&*!|>'\"%@".toList.contains c || c.toNat = 0x60 ||
      ((c = '?' || c = ':' || c = '-') && startsBlank rest)
  | [] => false

/-- Whether a colon occurs at the end of a word. -/
def holdsColon : List Char → Bool
  | ':' :: rest => startsBlank rest || holdsColon rest
  | _ :: rest => holdsColon rest
  | [] => false

/-- Whether a text holds a line end next to a space, or a character that would be escaped. Neither
can be written between single quotes. -/
def needsEscapes (text : List Char) : Bool :=
  text.any isSpecial || hasNeighbours isBreak (· = ' ') text || hasNeighbours (· = ' ') isBreak text

/-- Whether a text can be written without quotes. -/
def isPlain (text : List Char) : Bool :=
  !(text.any isBreak || text.head? = some ' ' || text.getLast? = some ' ' || needsEscapes text ||
    startsWithSign text || holdsColon (text.drop 1) || hasNeighbours isGap (· = '#') text)

/-- Whether a text can be written as a block of lines. -/
def isBlock (text : List Char) : Bool :=
  !(text.getLast? = some ' ' || text.any isSpecial || hasNeighbours (· = ' ') isBreak text)

/-- Whether a plain scalar of this spelling would not be read as a text. -/
def isSpelled (text : String) : Bool :=
  isPadded text.toList ||
    match PlainValue.ofText text with
    | .text _ => false
    | _ => true

/-- The way in which a text is written. -/
def styleOf (text : String) : ScalarStyle :=
  let chars := text.toList
  if chars.contains '\n' then if isBlock chars then .literal else .doubleQuoted
  else if !isSpelled text && isPlain chars then .plain
  else if needsEscapes chars then .doubleQuoted
  else .singleQuoted

mutual

/-- The node that a value is written as. -/
def Node.ofValue : Json → Node
  | .null => .scalar none .plain "null"
  | .flag b => .scalar none .plain (if b then "true" else "false")
  | .integer n => .scalar none .plain (toString n)
  | .decimal digits => .scalar none .plain digits
  | .text s => .scalar none (styleOf s) s
  | .list items => .list none (Node.ofValues items) true
  | .table entries => .table none (Node.ofEntries entries) true

/-- The nodes that values are written as. -/
def Node.ofValues : List Json → List Node
  | [] => []
  | item :: rest => Node.ofValue item :: Node.ofValues rest

/-- The nodes that entries are written as. -/
def Node.ofEntries : List (String × Json) → List (Node × Node)
  | [] => []
  | (key, value) :: rest =>
    (.scalar none (styleOf key) key, Node.ofValue value) :: Node.ofEntries rest

end

/-! ## The text -/

/-- The spaces at the start of a line. -/
def spaces (indent : Nat) : List Char := List.replicate indent ' '

/-- Lines of text, each indented unless it is empty. `fresh` tells whether a line starts here. -/
def indented (indent : Nat) : (fresh : Bool) → List Char → List Char
  | _, [] => []
  | fresh, c :: rest =>
    if isBreak c then c :: indented indent true rest
    else (if fresh then spaces indent else []) ++ c :: indented indent false rest

/-- A text between single quotes, in which a single quote is written twice. -/
def singleQuoted (indent : Nat) (text : List Char) : List Char :=
  let body := indented indent false (text.flatMap fun c => if c = '\'' then ['\'', '\''] else [c])
  let last := if text.getLast?.any isBreak then spaces indent else []
  '\'' :: body ++ last ++ ['\'']

/-- The letter that stands for a character after a backslash. -/
def escapeLetter? (c : Char) : Option Char :=
  let n := c.toNat
  if n = 0 then some '0'
  else if n = 7 then some 'a'
  else if n = 8 then some 'b'
  else if n = 9 then some 't'
  else if n = 10 then some 'n'
  else if n = 11 then some 'v'
  else if n = 12 then some 'f'
  else if n = 13 then some 'r'
  else if n = 0x1b then some 'e'
  else if c = '"' || c = '\\' then some c
  else if n = 0x85 then some 'N'
  else if n = 0x2028 then some 'L'
  else if n = 0x2029 then some 'P'
  else none

/-- The hexadecimal digits of a number, in capital letters, filled up to a width. -/
def hexCode (width n : Nat) : List Char :=
  let digits := (Nat.toDigits 16 n).map Char.toUpper
  List.replicate (width - digits.length) '0' ++ digits

/-- A character between double quotes. -/
def escaped (c : Char) : List Char :=
  match escapeLetter? c with
  | some letter => ['\\', letter]
  | none =>
    let n := c.toNat
    if isPrintable c then [c]
    else if n ≤ 0xff then '\\' :: 'x' :: hexCode 2 n
    else if n ≤ 0xffff then '\\' :: 'u' :: hexCode 4 n
    else '\\' :: 'U' :: hexCode 8 n

/-- A text between double quotes. -/
def doubleQuoted (text : List Char) : List Char := '"' :: text.flatMap escaped ++ ['"']

/-- The signs after the bar that starts a block of lines: the depth, when the first line would not
show it, and what becomes of the line ends at the end. -/
def blockSigns (text : List Char) : List Char :=
  let depth := if text.head?.any fun c => c = ' ' || isBreak c then ['2'] else []
  let ending := match text.reverse with
    | [] => ['-']
    | [c] => if isBreak c then ['+'] else ['-']
    | c :: d :: _ => if !isBreak c then ['-'] else if isBreak d then ['+'] else []
  depth ++ ending

/-- The text of a scalar up to the end of its line. -/
def scalarLines (indent : Nat) (style : ScalarStyle) (text : List Char) : List Char :=
  match style with
  | .plain => text ++ ['\n']
  | .singleQuoted => singleQuoted indent text ++ ['\n']
  | .doubleQuoted | .folded => doubleQuoted text ++ ['\n']
  | .literal =>
    '|' :: blockSigns text ++ '\n' :: indented indent true text ++
      (if text.getLast?.any isBreak then [] else ['\n'])

/-- Whether a scalar is short enough for a key on one line with its value. -/
def isSimpleKey (text : String) : Bool := !text.toList.any isBreak && text.utf8ByteSize ≤ 128

/-- The text of a scalar inside a line. -/
def scalarText (style : ScalarStyle) (text : List Char) : List Char :=
  match style with
  | .plain => text
  | .singleQuoted => singleQuoted 0 text
  | .doubleQuoted | .folded | .literal => doubleQuoted text

mutual

/-- The text of a node after a sign, up to the end of its line. -/
def afterSign (indent : Nat) : Node → List Char
  | .broken | .reference _ => ['\n']
  | .scalar _ style text => ' ' :: scalarLines (indent + 2) style text.toList
  | .list _ [] _ => [' ', '[', ']', '\n']
  | .list _ items _ => '\n' :: itemLines (indent + 2) items
  | .table _ [] _ => [' ', '\x7b', '\x7d', '\n']
  | .table _ entries _ => '\n' :: entryLines (indent + 2) entries

/-- The lines of items. -/
def itemLines (indent : Nat) : List Node → List Char
  | [] => []
  | item :: rest => spaces indent ++ '-' :: afterSign indent item ++ itemLines indent rest

/-- The lines of entries. -/
def entryLines (indent : Nat) : List (Node × Node) → List Char
  | [] => []
  | (key, value) :: rest =>
    keyText indent key ++ ':' :: afterSign indent value ++ entryLines indent rest

/-- The text of a key up to the colon. A key that needs lines of its own follows a question mark. -/
def keyText (indent : Nat) : Node → List Char
  | .scalar _ style text =>
    spaces indent ++
      if isSimpleKey text then scalarText style text.toList
      else '?' :: ' ' :: scalarLines (indent + 2) style text.toList ++ spaces indent
  | key => spaces indent ++ '?' :: afterSign indent key ++ spaces indent

end

/-- The text of a document with the given node. -/
def Node.render : Node → String
  | .table _ entries@(_ :: _) _ => String.ofList (entryLines 0 entries)
  | .list _ items@(_ :: _) _ => String.ofList (itemLines 0 items)
  | node => String.ofList ((afterSign 0 node).drop 1)

/-- The text that describes a value. -/
def encode (value : Json) : String := (Node.ofValue value).render

end FieldAccess.Yaml
