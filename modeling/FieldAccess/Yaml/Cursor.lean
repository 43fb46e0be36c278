import FieldAccess.Text.Classes
import FieldAccess.Yaml.Fault

/-!
# Places in a YAML text

A cursor is a place in a text: what follows, and where in the text it stands. The layout of a YAML
text carries meaning, so that lines and columns are counted while reading.

## Main definitions

* `Cursor` – a place in a text.
* `Cursor.next`, `Cursor.advance` – the places after it.
* `Cursor.refuse` – the rule that is broken at a place.
* `Gap`, `Cursor.gap` – blanks and line ends inside a scalar, and what they stand for.
-/

namespace FieldAccess.Yaml

/-- A character that ends a line. -/
def isBreak (c : Char) : Bool :=
  c = '\n' || c = '\r' || c = '\u0085' || c = '\u2028' || c = '\u2029'

/-- A blank inside a line. -/
def isBlank (c : Char) : Bool := c = ' ' || c = '\t'

/-- A character of a name. -/
def isNameChar (c : Char) : Bool :=
  Text.isAsciiLetter c || Text.isDigit c || c = '_' || c = '-'

/-- Whether a text starts with a blank or a line end, or is empty. -/
def startsBlank : List Char → Bool
  | [] => true
  | c :: _ => isBlank c || isBreak c

/-- Whether a text starts with a line end, or is empty. -/
def startsBreak : List Char → Bool
  | [] => true
  | c :: _ => isBreak c

/-- What a line end stands for inside a scalar. -/
def breakText (c : Char) : Char := if c = '\u2028' || c = '\u2029' then c else '\n'

/-- A place in a text. -/
structure Cursor where
  /-- The text that follows. -/
  rest : List Char
  /-- The number of characters before. -/
  index : Nat := 0
  /-- The number of lines before. -/
  line : Nat := 0
  /-- The number of characters before on the same line. -/
  column : Nat := 0
  deriving Repr, Inhabited

namespace Cursor

/-- The place after the next character. The two characters of a line end count as one. -/
def next (c : Cursor) : Cursor :=
  match c.rest with
  | [] => c
  | '\r' :: '\n' :: rest => { rest, index := c.index + 2, line := c.line + 1 }
  | d :: rest =>
    if isBreak d then { rest, index := c.index + 1, line := c.line + 1 }
    else { c with rest, index := c.index + 1, column := c.column + 1 }

/-- The place after the next `n` characters, none of which ends a line. -/
def advance (c : Cursor) (n : Nat) : Cursor :=
  { c with rest := c.rest.drop n, index := c.index + n, column := c.column + n }

/-- The place after the characters that `p` selects, none of which ends a line. -/
def skipWhile (c : Cursor) (p : Char → Bool) : Cursor := c.advance (c.rest.takeWhile p).length

/-- The place as it is told. -/
def mark (c : Cursor) : Mark := ⟨c.line, c.column⟩

/-- A rule is broken here, while something is read that starts at another place. -/
def refuse (c : Cursor) (problem : Problem) (activity : Activity) (start : Mark) :
    Except SyntaxFault α :=
  .error (.broken problem c.mark (some (activity, start)))

/-- The place after the blanks and the comment at the end of a line. Nothing else may be there. -/
def lineEnd (c : Cursor) (activity : Activity) (start : Mark) : Except SyntaxFault Cursor :=
  let c := c.skipWhile isBlank
  let c := match c.rest with
    | '#' :: _ => c.skipWhile fun d => !isBreak d
    | _ => c
  if startsBreak c.rest then .ok c.next else c.refuse .missingLineEnd activity start

/-- Whether a marker of three equal characters stands alone at the start of a line. -/
def atMarker (c : Cursor) (sign : Char) : Bool :=
  c.column = 0 && c.rest.take 3 == [sign, sign, sign] && startsBlank (c.rest.drop 3)

/-- Whether a document starts or ends here. -/
def atDocumentMarker (c : Cursor) : Bool := c.atMarker '-' || c.atMarker '.'

end Cursor

/-- Blanks and line ends inside a scalar. -/
structure Gap where
  /-- The blanks before the first line end. -/
  blanks : List Char := []
  /-- The line ends, as they stand in the scalar. -/
  breaks : List Char := []
  /-- The places of the tabs after the first line end. -/
  tabs : List Mark := []

namespace Gap

/-- What a gap stands for: a single line end is a space, and of several the first one is left
out. -/
def text (gap : Gap) : List Char :=
  match gap.breaks with
  | [] => gap.blanks
  | ['\n'] => [' ']
  | '\n' :: rest => rest
  | breaks => breaks

end Gap

namespace Cursor

/-- The line ends at the start of a text and the blanks between them, once a line has ended. -/
def laterBreaks : (limit : Nat) → Cursor → Gap → Gap × Cursor
  | 0, c, gap => (gap, c)
  | limit + 1, c, gap =>
    match c.rest with
    | [] => (gap, c)
    | d :: _ =>
      if isBreak d then laterBreaks limit c.next { gap with breaks := gap.breaks ++ [breakText d] }
      else if d = '\t' then
        laterBreaks limit c.next { gap with tabs := gap.tabs ++ [c.mark] }
      else if d = ' ' then laterBreaks limit c.next gap
      else (gap, c)

/-- The gap at a place, and the place after it. -/
def gap (c : Cursor) : Gap × Cursor :=
  let blanks := c.rest.takeWhile isBlank
  laterBreaks c.rest.length (c.advance blanks.length) { blanks }

end Cursor

end FieldAccess.Yaml
