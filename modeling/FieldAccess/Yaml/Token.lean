import FieldAccess.Yaml.Scalar
import FieldAccess.Yaml.Tag

/-!
# Tokens of a YAML text

The signs of a YAML text in their order. Collections that are written by indentation have no signs
of their own: their start and end are tokens that follow from the columns. Whether a scalar is a
key is only known when the colon after it is found, so tokens wait until no such colon can come any
more.

## Main definitions

* `Token` – the tokens.
* `Scan` – a text in the course of being read.
* `Token.ofText` – the tokens of a text, and the fault that ends them.
-/

namespace FieldAccess.Yaml

/-- A token. -/
inductive Token where
  | streamEnd
  | versionDirective (major minor : Nat)
  | tagDirective (handle : String) (meaning : Tag)
  | documentStart
  | documentEnd
  | blockSequenceStart
  | blockMappingStart
  | blockEnd
  | flowSequenceStart
  | flowSequenceEnd
  | flowMappingStart
  | flowMappingEnd
  | blockEntry
  | flowEntry
  | key
  | value
  | alias (name : String)
  | anchor (name : String)
  | tag (name : TagName)
  | scalar (style : ScalarStyle) (text : String)
  deriving Repr, DecidableEq, Inhabited

/-- A node that may turn out to be a key. -/
structure PendingKey where
  /-- The number of its token. -/
  token : Nat
  /-- Whether only a key can stand there. -/
  required : Bool
  index : Nat
  line : Nat
  column : Nat
  deriving Repr

/-- A text in the course of being read. -/
structure Scan where
  cursor : Cursor
  /-- The node of the innermost brackets that may be a key. -/
  pending : Option PendingKey := none
  /-- The same for each of the brackets around them; there are none outside of all brackets. -/
  outer : List (Option PendingKey) := []
  /-- The columns of the open collections, the innermost first. -/
  columns : List Nat := []
  /-- Whether a key may start here. -/
  keyAllowed : Bool := true
  /-- The tokens that wait, each with the place where it starts. -/
  queue : List (Token × Mark) := []
  /-- The number of tokens that came before. -/
  delivered : Nat := 0

namespace Scan

/-- Whether the place is inside brackets. -/
def inFlow (s : Scan) : Bool := !s.outer.isEmpty

/-- The column of the innermost open collection, `-1` outside of all. -/
def indent (s : Scan) : Int :=
  match s.columns with
  | [] => -1
  | column :: _ => column

/-- Adds a token that starts at a place. -/
def push (s : Scan) (token : Token) (place : Mark) : Scan :=
  { s with queue := s.queue ++ [(token, place)] }

/-- Adds a token in front of the one with the given number. -/
def insertBefore (s : Scan) (number : Nat) (token : Token) (place : Mark) : Scan :=
  let position := number - s.delivered
  { s with queue := s.queue.take position ++ (token, place) :: s.queue.drop position }

/-- The fault that a node which must be a key is none. -/
def missingColon (c : Cursor) (key : PendingKey) : Except SyntaxFault α :=
  c.refuse .missingColon .simpleKey ⟨key.line, key.column⟩

/-- Gives up the hope that the pending node is a key. -/
def dropPending (s : Scan) : Except SyntaxFault Scan :=
  match s.pending with
  | some key => if key.required then missingColon s.cursor key else .ok { s with pending := none }
  | none => .ok s

/-- Remembers that the node that starts here may be a key. -/
def savePending (s : Scan) : Except SyntaxFault Scan :=
  if s.keyAllowed then do
    let required := !s.inFlow && s.indent = s.cursor.column
    let s ← s.dropPending
    return { s with pending := some {
      token := s.delivered + s.queue.length, required
      index := s.cursor.index, line := s.cursor.line, column := s.cursor.column } }
  else .ok s

/-- Whether a key can no longer end here: it is written on one line, and short. -/
def isStale (c : Cursor) (key : PendingKey) : Bool :=
  key.line < c.line || key.index + 1024 < c.index

/-- A pending node, unless it can no longer be a key. -/
def freshen (c : Cursor) : Option PendingKey → Except SyntaxFault (Option PendingKey)
  | none => .ok none
  | some key =>
    if !isStale c key then .ok (some key)
    else if key.required then missingColon c key
    else .ok none

/-- Forgets the pending nodes that can no longer be keys. -/
def dropStale (s : Scan) : Except SyntaxFault Scan := do
  let outer ← s.outer.mapM (freshen s.cursor)
  let pending ← freshen s.cursor s.pending
  return { s with pending, outer }

/-- Opens a collection at a column that is deeper than the open ones. Its token comes in front of
the token with the given number, if there is one. -/
def openColumn (s : Scan) (column : Nat) (number : Option Nat) (token : Token) (place : Mark) :
    Scan :=
  if s.inFlow || column ≤ s.indent then s
  else
    let s := { s with columns := column :: s.columns }
    match number with
    | some number => s.insertBefore number token place
    | none => s.push token place

/-- Closes the collections that are deeper than a column. -/
def closeColumns (s : Scan) (column : Int) : Scan :=
  if s.inFlow then s
  else
    let closed := s.columns.takeWhile fun (deeper : Nat) => column < (deeper : Int)
    { s with columns := s.columns.drop closed.length
             queue := s.queue ++ closed.map fun _ => (.blockEnd, s.cursor.mark) }

/-- Skips blanks, comments and line ends. A tab in front of a node is allowed only where no key may
start. -/
def skipToToken : (limit : Nat) → Scan → Scan
  | 0, s => s
  | limit + 1, s =>
    let c := s.cursor
    let c := if c.column = 0 && c.rest.head? = some '\ufeff' then c.next else c
    let c := c.skipWhile fun d => d = ' ' || ((s.inFlow || !s.keyAllowed) && d = '\t')
    let c := if c.rest.head? = some '#' then c.skipWhile fun d => !isBreak d else c
    if c.rest.head?.any isBreak then
      skipToToken limit { s with cursor := c.next, keyAllowed := s.keyAllowed || !s.inFlow }
    else { s with cursor := c }

/-! ## The single tokens -/

/-- The end of the text, which ends the last line as well. -/
def streamEnd (s : Scan) : Except SyntaxFault Scan := do
  let c := s.cursor
  let cursor := if c.column = 0 then c else { c with line := c.line + 1, column := 0 }
  let s ← ({ s with cursor }.closeColumns (-1)).dropPending
  return { s with keyAllowed := false }.push .streamEnd cursor.mark

/-- A number in a directive. -/
def directiveNumber (c : Cursor) (start : Mark) : Except SyntaxFault (Nat × Cursor) :=
  let digits := c.rest.takeWhile Text.isDigit
  if digits.isEmpty then c.refuse .missingVersion .versionDirective start
  else if 9 < digits.length then (c.advance 9).refuse .longVersion .versionDirective start
  else .ok (digits.foldl (fun n d => n * 10 + (d.toNat - '0'.toNat)) 0, c.advance digits.length)

/-- The value of a directive that gives the version of the format. -/
def versionDirective (c : Cursor) (start : Mark) : Except SyntaxFault (Token × Cursor) := do
  let (major, c) ← directiveNumber (c.skipWhile isBlank) start
  if c.rest.head? ≠ some '.' then c.refuse .missingVersionPoint .versionDirective start
  else
    let (minor, c) ← directiveNumber c.next start
    return (.versionDirective major minor, c)

/-- The value of a directive that gives a meaning to a handle. -/
def tagDirective (c : Cursor) (start : Mark) : Except SyntaxFault (Token × Cursor) := do
  let c := c.skipWhile isBlank
  if c.rest.head? ≠ some '!' then c.refuse .missingExclamation .tagDirectiveHandle start
  else
    let (handle, c) := c.handle
    if handle ≠ "!" && !handle.endsWith "!" then
      c.refuse .missingExclamation .tagDirectiveName start
    else if !c.rest.head?.any isBlank then c.refuse .missingBlank .tagDirective start
    else
      let (meaning, c) ← (c.skipWhile isBlank).tagText true .tagDirectiveText start
      if startsBlank c.rest then return (.tagDirective handle meaning, c)
      else c.refuse .missingBlankOrBreak .tagDirective start

/-- The value of the directive with a name. -/
def directiveValue (name : List Char) (c : Cursor) (start : Mark) :
    Except SyntaxFault (Token × Cursor) :=
  if name.isEmpty then c.refuse .missingDirectiveName .directive start
  else if !startsBlank c.rest then c.refuse .strayInDirectiveName .directive start
  else if name == "YAML".toList then versionDirective c start
  else if name == "TAG".toList then tagDirective c start
  else c.refuse .unknownDirective .directive start

/-- A directive. -/
def directive (s : Scan) : Except SyntaxFault Scan := do
  let s ← (s.closeColumns (-1)).dropPending
  let start := s.cursor.mark
  let name := (s.cursor.rest.drop 1).takeWhile isNameChar
  let (token, c) ← directiveValue name (s.cursor.advance (1 + name.length)) start
  let c ← c.lineEnd .directive start
  return { s with cursor := c, keyAllowed := false }.push token start

/-- A marker of the start or the end of a document. -/
def documentMarker (s : Scan) (token : Token) : Except SyntaxFault Scan := do
  let s ← (s.closeColumns (-1)).dropPending
  return { s with cursor := s.cursor.advance 3, keyAllowed := false }.push token s.cursor.mark

/-- An opening bracket. -/
def openFlow (s : Scan) (token : Token) : Except SyntaxFault Scan := do
  let s ← s.savePending
  return { s with
    cursor := s.cursor.next, keyAllowed := true
    pending := none, outer := s.pending :: s.outer }.push token s.cursor.mark

/-- A closing bracket. -/
def closeFlow (s : Scan) (token : Token) : Except SyntaxFault Scan := do
  let s ← s.dropPending
  let s := match s.outer with
    | [] => s
    | pending :: outer => { s with pending, outer }
  return { s with cursor := s.cursor.next, keyAllowed := false }.push token s.cursor.mark

/-- A comma. -/
def flowEntry (s : Scan) : Except SyntaxFault Scan := do
  let s ← s.dropPending
  return { s with cursor := s.cursor.next, keyAllowed := true }.push .flowEntry s.cursor.mark

/-- Refuses a sign outside of brackets where no key may start. -/
def requireKeyAllowed (s : Scan) (problem : Problem) : Except SyntaxFault Unit :=
  if !s.inFlow && !s.keyAllowed then .error (.broken problem s.cursor.mark none) else .ok ()

/-- A hyphen in front of an item. -/
def blockEntry (s : Scan) : Except SyntaxFault Scan := do
  s.requireKeyAllowed .misplacedItem
  let place := s.cursor.mark
  let s ← (s.openColumn s.cursor.column none .blockSequenceStart place).dropPending
  return { s with cursor := s.cursor.next, keyAllowed := true }.push .blockEntry place

/-- A question mark in front of a key. -/
def key (s : Scan) : Except SyntaxFault Scan := do
  s.requireKeyAllowed .misplacedKey
  let place := s.cursor.mark
  let s ← (s.openColumn s.cursor.column none .blockMappingStart place).dropPending
  return { s with cursor := s.cursor.next, keyAllowed := !s.inFlow }.push .key place

/-- A colon in front of a value. A pending node before it is a key. -/
def value (s : Scan) : Except SyntaxFault Scan :=
  let place := s.cursor.mark
  match s.pending with
  | some pending =>
    let start : Mark := ⟨pending.line, pending.column⟩
    let s := s.insertBefore pending.token .key start
    let s := s.openColumn pending.column (some pending.token) .blockMappingStart start
    .ok <| { s with
      cursor := s.cursor.next, pending := none, keyAllowed := false }.push .value place
  | none => do
    s.requireKeyAllowed .misplacedValue
    let s := s.openColumn s.cursor.column none .blockMappingStart place
    return { s with cursor := s.cursor.next, keyAllowed := !s.inFlow }.push .value place

/-- The name of an anchor or of an alias. -/
def nodeName (c : Cursor) (activity : Activity) : Except SyntaxFault (String × Cursor) :=
  let name := (c.rest.drop 1).takeWhile isNameChar
  let last := c.advance (1 + name.length)
  let ends := startsBlank last.rest || last.rest.head?.any fun d =>
    "?:,]%@".toList.contains d || d.toNat = 0x7d || d.toNat = 0x60
  if name.isEmpty || !ends then last.refuse .missingName activity c.mark
  else .ok (String.ofList name, last)

/-- A name, an anchor or an alias. -/
def name (s : Scan) (activity : Activity) (token : String → Token) : Except SyntaxFault Scan := do
  let s ← s.savePending
  let (name, cursor) ← nodeName s.cursor activity
  return { s with cursor, keyAllowed := false }.push (token name) s.cursor.mark

/-- A tag. -/
def tag (s : Scan) : Except SyntaxFault Scan := do
  let s ← s.savePending
  let (tag, cursor) ← s.cursor.tag s.inFlow
  return { s with cursor, keyAllowed := false }.push (.tag tag) s.cursor.mark

/-- A block of lines. -/
def block (s : Scan) (style : ScalarStyle) : Except SyntaxFault Scan := do
  let s ← s.dropPending
  let (text, cursor) ← s.cursor.block (style = .folded) s.indent
  return { s with cursor, keyAllowed := true }.push (.scalar style (String.ofList text))
    s.cursor.mark

/-- A scalar between quotes. -/
def quoted (s : Scan) (quote : Char) (style : ScalarStyle) : Except SyntaxFault Scan := do
  let s ← s.savePending
  let (text, cursor) ← s.cursor.quoted quote
  return { s with cursor, keyAllowed := false }.push (.scalar style (String.ofList text))
    s.cursor.mark

/-- A plain scalar. A key may follow it on a later line. -/
def plain (s : Scan) : Except SyntaxFault Scan := do
  let s ← s.savePending
  let (text, cursor, lineEnded) ← s.cursor.plain s.inFlow (s.indent + 1)
  return { s with cursor, keyAllowed := lineEnded }.push (.scalar .plain (String.ofList text))
    s.cursor.mark

/-- Whether a plain scalar may start here. -/
def startsPlain (flow : Bool) : List Char → Bool
  | [] => false
  | d :: rest =>
    if d = '-' then !rest.head?.any isBlank
    else if d = '?' || d = ':' then !flow && !startsBlank rest
    else !(isBlank d || isBreak d || Cursor.isFlowSign d || "#&*!|>'\"%@".toList.contains d ||
      d.toNat = 0x60)

/-- Reads the next token. -/
def token (s : Scan) : Except SyntaxFault Scan :=
  let c := s.cursor
  if c.column = 0 && c.rest.head? = some '%' then s.directive
  else if c.atMarker '-' then s.documentMarker .documentStart
  else if c.atMarker '.' then s.documentMarker .documentEnd
  else
    match c.rest with
    | [] => s.streamEnd
    | d :: rest =>
      let alone := s.inFlow || startsBlank rest
      if d = '[' then s.openFlow .flowSequenceStart
      else if d.toNat = 0x7b then s.openFlow .flowMappingStart
      else if d = ']' then s.closeFlow .flowSequenceEnd
      else if d.toNat = 0x7d then s.closeFlow .flowMappingEnd
      else if d = ',' then s.flowEntry
      else if d = '-' && startsBlank rest then s.blockEntry
      else if d = '?' && alone then s.key
      else if d = ':' && alone then s.value
      else if d = '*' then s.name .reference .alias
      else if d = '&' then s.name .anchor .anchor
      else if d = '!' then s.tag
      else if d = '|' && !s.inFlow then s.block .literal
      else if d = '>' && !s.inFlow then s.block .folded
      else if d = '\'' then s.quoted d .singleQuoted
      else if d = '"' then s.quoted d .doubleQuoted
      else if startsPlain s.inFlow c.rest then s.plain
      else c.refuse .strayCharacter .token c.mark

/-- Reads on up to the end of the next token. -/
def advance (s : Scan) : Except SyntaxFault Scan := do
  let s ← (skipToToken s.cursor.rest.length s).dropStale
  (s.closeColumns s.cursor.column).token

/-- Whether the first waiting token may still be a key. -/
def isHeld (s : Scan) : Bool :=
  (s.pending :: s.outer).any fun key => key.any fun key => key.token = s.delivered

/-- The tokens from here on, each with the place where it starts, and the fault that ends them. -/
def tokens : (limit : Nat) → Scan → List (Token × Mark) × Option SyntaxFault
  | 0, s => ([], some (.broken .strayCharacter s.cursor.mark none))
  | limit + 1, s =>
    match s.queue with
    | [] =>
      match s.advance with
      | .error fault => ([], some fault)
      | .ok s => tokens limit s
    | first :: queue =>
      match s.dropStale with
      | .error fault => ([], some fault)
      | .ok s =>
        if s.isHeld then
          match s.advance with
          | .error fault => ([], some fault)
          | .ok s => tokens limit s
        else if first.1 = .streamEnd then ([first], none)
        else
          let (rest, fault) := tokens limit { s with queue, delivered := s.delivered + 1 }
          (first :: rest, fault)

end Scan

/-- A character that may stand in a text. -/
def isAllowed (c : Char) : Bool :=
  let n := c.toNat
  n = 9 || n = 10 || n = 13 || (0x20 ≤ n && n ≤ 0x7e) || n = 0x85 || (0xa0 ≤ n && n ≤ 0xd7ff) ||
    (0xe000 ≤ n && n ≤ 0xfffd) || 0x10000 ≤ n

/-- The tokens of a text, each with the place where it starts, and the fault that ends them if the
text breaks the rules. -/
def Token.ofText (text : String) : List (Token × Mark) × Option SyntaxFault :=
  let chars := text.toList
  let allowed := chars.takeWhile isAllowed
  if allowed.length = chars.length then
    Scan.tokens (8 * chars.length + 8) { cursor := { rest := chars } }
  else ([], some (.control (String.ofList allowed).utf8ByteSize))

end FieldAccess.Yaml
