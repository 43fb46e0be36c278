import FieldAccess.Json.Reader
import FieldAccess.Yaml.Cursor

/-!
# Scalars in a YAML text

The five ways of writing a scalar: plain, between single or double quotes, and in a block of lines
that are kept as they are or folded. All of them may span lines; what a line end then stands for
depends on the way of writing.

## Main definitions

* `ScalarStyle` – the ways of writing a scalar.
* `Cursor.plain`, `Cursor.quoted`, `Cursor.block` – the scalar at a place.
-/

namespace FieldAccess.Yaml

/-- The ways of writing a scalar. -/
inductive ScalarStyle where
  | plain
  | singleQuoted
  | doubleQuoted
  | literal
  | folded
  deriving Repr, DecidableEq, Inhabited

namespace Cursor

/-! ## Quoted scalars -/

/-- The character that a letter after a backslash stands for. -/
def escaped? (c : Char) : Option Char :=
  if c = '0' then some (Char.ofNat 0)
  else if c = 'a' then some (Char.ofNat 7)
  else if c = 'b' then some (Char.ofNat 8)
  else if c = 't' || c = '\t' then some '\t'
  else if c = 'n' then some '\n'
  else if c = 'v' then some (Char.ofNat 11)
  else if c = 'f' then some (Char.ofNat 12)
  else if c = 'r' then some '\r'
  else if c = 'e' then some (Char.ofNat 27)
  else if c = ' ' || c = '"' || c = '/' || c = '\\' then some c
  else if c = 'N' then some '\u0085'
  else if c = '_' then some '\u00a0'
  else if c = 'L' then some '\u2028'
  else if c = 'P' then some '\u2029'
  else none

/-- The number of hexadecimal digits that follow a letter after a backslash. -/
def codeLength? (c : Char) : Option Nat :=
  if c = 'x' then some 2 else if c = 'u' then some 4 else if c = 'U' then some 8 else none

/-- The number that hexadecimal digits write. -/
def hexNumber? (digits : List Char) : Option Nat :=
  digits.foldlM (fun n d => do return n * 16 + (← Json.Reader.hexValue? d)) 0

/-- The character whose number the given count of hexadecimal digits writes. -/
def codeChar (count : Nat) (text : List Char) : Except Problem Char :=
  let digits := text.take count
  match hexNumber? digits with
  | none => .error .missingDigit
  | some n =>
    if digits.length < count then .error .missingDigit
    else if n < 0xd800 || (0xe000 ≤ n && n ≤ 0x10ffff) then .ok (Char.ofNat n)
    else .error .noCharacter

/-- Reads up to the closing quote. -/
def quotedFrom (quote : Char) (start : Mark) :
    (limit : Nat) → Cursor → Except SyntaxFault (List Char × Cursor)
  | 0, c => c.refuse .unclosedQuotes .quoted start
  | limit + 1, c =>
    if c.atDocumentMarker then c.refuse .documentInQuotes .quoted start else
    match c.rest with
    | [] => c.refuse .unclosedQuotes .quoted start
    | d :: rest =>
      if isBlank d || isBreak d then do
        let (gap, after) := c.gap
        let (text, last) ← quotedFrom quote start limit after
        return (gap.text ++ text, last)
      else if quote = '\'' && d = '\'' && rest.head? = some '\'' then do
        let (text, last) ← quotedFrom quote start limit (c.advance 2)
        return ('\'' :: text, last)
      else if d = quote then .ok ([], c.next)
      else if quote = '"' && d = '\\' then
        match rest with
        | [] => c.refuse .unknownEscape .escape start
        | e :: rest =>
          if isBreak e then do
            let (gap, after) := c.next.next.gap
            let (text, last) ← quotedFrom quote start limit after
            return (gap.breaks ++ text, last)
          else
            match codeLength? e with
            | some count =>
              match codeChar count rest with
              | .error problem => (c.advance 2).refuse problem .escape start
              | .ok char => do
                let (text, last) ← quotedFrom quote start limit (c.advance (2 + count))
                return (char :: text, last)
            | none =>
              match escaped? e with
              | none => c.refuse .unknownEscape .escape start
              | some char => do
                let (text, last) ← quotedFrom quote start limit (c.advance 2)
                return (char :: text, last)
      else do
        let (text, last) ← quotedFrom quote start limit c.next
        return (d :: text, last)

/-- The scalar between quotes that starts here. -/
def quoted (c : Cursor) (quote : Char) : Except SyntaxFault (List Char × Cursor) :=
  quotedFrom quote c.mark c.rest.length c.next

/-! ## Plain scalars -/

/-- A character that separates items inside brackets. -/
def isFlowSign (c : Char) : Bool := c = ',' || c = '[' || c = ']' || c = '{' || c = '}'

/-- Whether a plain scalar breaks the rules inside brackets: a colon is followed by a character
that separates items. -/
def isStrayColon (text : List Char) : Bool :=
  match text with
  | ':' :: d :: _ => isFlowSign d || d = '?'
  | _ => false

/-- Whether a plain scalar goes on with the next character. -/
def goesOn (flow : Bool) : List Char → Bool
  | [] => false
  | d :: rest =>
    !(isBlank d || isBreak d || (d = ':' && startsBlank rest) || (flow && isFlowSign d))

/-- The characters of a plain scalar up to the next gap or to its end. -/
def plainRun (flow : Bool) (start : Mark) :
    (limit : Nat) → Cursor → Except SyntaxFault (List Char × Cursor)
  | 0, c => .ok ([], c)
  | limit + 1, c =>
    if flow && isStrayColon c.rest then c.refuse .strayColon .plain start
    else if !goesOn flow c.rest then .ok ([], c)
    else
      match c.rest with
      | [] => .ok ([], c)
      | d :: _ => do
        let (text, last) ← plainRun flow start limit c.next
        return (d :: text, last)

/-- Reads the rest of a plain scalar. `pending` is the gap before, which counts only if more text
follows. The last part of the result tells whether a line ended after the scalar. -/
def plainFrom (flow : Bool) (indent : Int) (start : Mark) :
    (limit : Nat) → (pending : Gap) → Cursor → Except SyntaxFault (List Char × Cursor × Bool)
  | 0, _, c => .ok ([], c, false)
  | limit + 1, pending, c => do
    let ended := !pending.breaks.isEmpty
    if c.atDocumentMarker || c.rest.head? = some '#' then return ([], c, ended)
    let (run, c) ← plainRun flow start c.rest.length c
    let (text, ended) := if run.isEmpty then ([], ended) else (pending.text ++ run, false)
    match c.rest with
    | [] => return (text, c, ended)
    | d :: _ =>
      if !(isBlank d || isBreak d) then return (text, c, ended)
      let (gap, after) := c.gap
      if let some tab := gap.tabs.find? fun tab => (tab.column : Int) < indent then
        throw (.broken .shallowTab tab (some (.plain, start)))
      if !flow && (after.column : Int) < indent then return (text, after, !gap.breaks.isEmpty)
      let (more, last, ended) ← plainFrom flow indent start limit gap after
      return (text ++ more, last, ended)

/-- The plain scalar that starts here; its further lines are indented by `indent` at least. -/
def plain (c : Cursor) (flow : Bool) (indent : Int) :
    Except SyntaxFault (List Char × Cursor × Bool) :=
  plainFrom flow indent c.mark (c.rest.length + 1) {} c

/-! ## Blocks -/

/-- What becomes of the line ends at the end of a block. -/
inductive Chomping where
  | strip
  | clip
  | keep
  deriving Repr, DecidableEq

/-- The header of a block: what becomes of the line ends at its end, and the depth of its lines
if that is given. -/
structure BlockHeader where
  chomping : Chomping := .clip
  depth : Option Nat := none

/-- The chomping that a sign stands for. -/
def chomping? (c : Char) : Option Chomping :=
  if c = '+' then some .keep else if c = '-' then some .strip else none

/-- Reads a digit that gives the depth. -/
def withDepth (start : Mark) (header : BlockHeader) (c : Cursor) :
    Except SyntaxFault (BlockHeader × Cursor) :=
  match c.rest with
  | d :: _ =>
    if Text.isDigit d then
      if d = '0' then c.refuse .depthOfZero .block start
      else .ok ({ header with depth := some (d.toNat - '0'.toNat) }, c.next)
    else .ok (header, c)
  | [] => .ok (header, c)

/-- Reads a sign for the chomping. -/
def withChomping (header : BlockHeader) (c : Cursor) : BlockHeader × Cursor :=
  match c.rest with
  | d :: _ =>
    match chomping? d with
    | some chomping => ({ header with chomping }, c.next)
    | none => (header, c)
  | [] => (header, c)

/-- Reads a header: a sign and a digit, either of which may be left out, in any order. -/
def header (start : Mark) (c : Cursor) : Except SyntaxFault (BlockHeader × Cursor) := do
  let (header, after) := withChomping {} c
  let (header, after) ← withDepth start header after
  if after.index = c.index + 1 && header.depth.isSome then return withChomping header after
  else return (header, after)

/-- Empty lines up to the next line of a block: their line ends, the greatest column reached, and
the place of the next line. `indent` is the column of the lines if it is known. -/
def emptyLines (start : Mark) (indent : Option Nat) :
    (limit : Nat) → Cursor → Except SyntaxFault (List Char × Nat × Cursor)
  | 0, c => .ok ([], c.column, c)
  | limit + 1, c =>
    let spaces := (c.rest.takeWhile (· = ' ')).length
    let c := c.advance (match indent with
      | some indent => min spaces (indent - c.column)
      | none => spaces)
    let shallow := indent.all fun indent => c.column < indent
    match c.rest with
    | [] => .ok ([], c.column, c)
    | d :: _ =>
      if shallow && d = '\t' then c.refuse .tabForDepth .block start
      else if isBreak d then do
        let (breaks, widest, last) ← emptyLines start indent limit c.next
        return (breakText d :: breaks, max c.column widest, last)
      else .ok ([], c.column, c)

/-- Whether the next character is a blank. -/
def atBlank (c : Cursor) : Bool := c.rest.head?.any isBlank

/-- Reads the lines of a block. `leading` is the end of the line before, `empty` are the empty
lines after it, and `blank` tells whether the line before started with a blank. -/
def blockLines (start : Mark) (folded : Bool) (chomping : Chomping) (indent : Nat) :
    (limit : Nat) → (leading empty : List Char) → (blank : Bool) → Cursor →
      Except SyntaxFault (List Char × Cursor)
  | 0, _, _, _, c => .ok ([], c)
  | limit + 1, leading, empty, blank, c =>
    if c.column = indent && !c.rest.isEmpty then do
      let joint :=
        if folded && leading == ['\n'] && !blank && !c.atBlank then
          if empty.isEmpty then [' '] else []
        else leading
      let line := c.rest.takeWhile fun d => !isBreak d
      let after := c.advance line.length
      let (breaks, _, next) ← emptyLines start (some indent) after.rest.length after.next
      let ending := (after.rest.head?.map breakText).toList
      let (text, last) ← blockLines start folded chomping indent limit ending breaks c.atBlank next
      return (joint ++ empty ++ line ++ text, last)
    else
      match chomping with
      | .strip => .ok ([], c)
      | .clip => .ok (leading, c)
      | .keep => .ok (leading ++ empty, c)

/-- The block of lines that starts here, after a sign. `parent` is the column of the collection
around it, `-1` outside of all. -/
def block (c : Cursor) (folded : Bool) (parent : Int) :
    Except SyntaxFault (List Char × Cursor) := do
  let start := c.mark
  let (header, c) ← header start c.next
  let c ← c.lineEnd .block start
  let given := header.depth.map fun depth => (max parent 0).toNat + depth
  let (breaks, widest, c) ← emptyLines start given c.rest.length c
  let indent := given.getD (max (max widest 1) (parent + 1).toNat)
  blockLines start folded header.chomping indent (c.rest.length + 1) [] breaks false c

end Cursor

end FieldAccess.Yaml
