import FieldAccess.Json.Value
import FieldAccess.Decimal.Shortest

/-!
# Reading JSON

A JSON text is read into a `Document` from the left to the right. Where the text breaks the rules
of the format, reading stops and the document keeps what came before: the last item read is
`broken`, and the arrays and objects around it are not closed. Whoever looks into the document in
text order thus meets either what he looks for or the place where the text is at fault, whichever
comes first.

## Main definitions

* `Json.Document` – a text as far as it could be read.
* `Json.Document.ofText` – the document of a text, and whether only blanks follow it.
* `Json.Document.value?` – the value of a text that was read completely.
-/

namespace FieldAccess.Json

/-- How a text breaks the rules of the format. -/
inductive SyntaxFault where
  | endInValue
  | endInList
  | endInTable
  | endInText
  | noValue
  | noWord
  | noColon
  | noListSeparator
  | noTableSeparator
  | trailingComma
  | keyIsNoText
  | escape
  | controlCharacter
  | loneSurrogate
  | endInSurrogate
  | number
  | outOfRange
  | trailingText
  deriving Repr, DecidableEq, Inhabited

/-- The wording of a fault. -/
def SyntaxFault.message : SyntaxFault → String
  | endInValue => "EOF while parsing a value"
  | endInList => "EOF while parsing a list"
  | endInTable => "EOF while parsing an object"
  | endInText => "EOF while parsing a string"
  | noValue => "expected value"
  | noWord => "expected ident"
  | noColon => "expected \x60:\x60"
  | noListSeparator => "expected \x60,\x60 or \x60]\x60"
  | noTableSeparator => "expected \x60,\x60 or \x60\x7d\x60"
  | trailingComma => "trailing comma"
  | keyIsNoText => "key must be a string"
  | escape => "invalid escape"
  | controlCharacter => "control character (\\u0000-\\u001F) found while parsing a string"
  | loneSurrogate => "lone leading surrogate in hex escape"
  | endInSurrogate => "unexpected end of hex escape"
  | number => "invalid number"
  | outOfRange => "number out of range"
  | trailingText => "trailing characters"

/-- A JSON text as far as it could be read. -/
inductive Document where
  /-- The text is at fault here. -/
  | broken (fault : SyntaxFault)
  /-- A correctly formed token that stands for no value: a string with half of a surrogate pair,
  or a number that is out of range. -/
  | unreadable (fault : SyntaxFault)
  | null
  | flag (value : Bool)
  | integer (value : Int)
  | decimal (digits : String)
  | text (value : String)
  /-- The fault is that of the text after the last item, where it breaks the rules. -/
  | list (items : List Document) (fault : Option SyntaxFault)
  /-- The fault is what a reader of the keys meets after the last entry: that of the text, or a key
  that stands for no text. Who passes over the table without reading its keys meets `passing`. -/
  | table (entries : List (String × Document)) (fault passing : Option SyntaxFault)
  deriving Repr, Inhabited

namespace Document

mutual

/-- The first fault in the text of a document. -/
def fault? : Document → Option SyntaxFault
  | .broken fault => some fault
  | .list items fault => faultIn? items <|> fault
  | .table entries _ passing => faultInEntries? entries <|> passing
  | _ => none

/-- The first fault in the texts of items. -/
def faultIn? : List Document → Option SyntaxFault
  | [] => none
  | item :: rest => item.fault? <|> faultIn? rest

/-- The first fault in the texts of entries. -/
def faultInEntries? : List (String × Document) → Option SyntaxFault
  | [] => none
  | (_, value) :: rest => value.fault? <|> faultInEntries? rest

end

end Document

namespace Reader

/-- A blank between tokens. -/
def isBlank (c : Char) : Bool := c = ' ' || c = '\n' || c = '\t' || c = '\r'

/-- The text after the blanks at its start. -/
def skipBlanks (text : List Char) : List Char := text.dropWhile isBlank

/-- The value of a hexadecimal digit. -/
def hexValue? (c : Char) : Option Nat :=
  if '0' ≤ c && c ≤ '9' then some (c.toNat - '0'.toNat)
  else if 'a' ≤ c && c ≤ 'f' then some (c.toNat - 'a'.toNat + 10)
  else if 'A' ≤ c && c ≤ 'F' then some (c.toNat - 'A'.toNat + 10)
  else none

/-- The number that four hexadecimal digits write. -/
def hex4? (a b c d : Char) : Option Nat := do
  let a ← hexValue? a
  let b ← hexValue? b
  let c ← hexValue? c
  let d ← hexValue? d
  return ((a * 16 + b) * 16 + c) * 16 + d

/-- The character that a letter after a backslash stands for. -/
def escaped? (c : Char) : Option Char :=
  if c = '"' || c = '\\' || c = '/' then some c
  else if c = 'b' then some (Char.ofNat 8)
  else if c = 'f' then some (Char.ofNat 12)
  else if c = 'n' then some '\n'
  else if c = 'r' then some '\r'
  else if c = 't' then some '\t'
  else none

/-- The halves of surrogate pairs: numbers that stand for no character of their own. -/
def isSurrogate (n : Nat) : Bool := 0xd800 ≤ n && n < 0xe000

/-- A reading of a string: the text it stands for, if it stands for one, and what follows it. -/
abbrev StringReading := Except SyntaxFault (Except SyntaxFault String × List Char)

/-- Reads a string up to its closing quote. `done` holds, in reverse, what was read; `unread` is the
first fault that lets the string stand for no text. -/
def stringFrom (done : List Char) (unread : Option SyntaxFault) : List Char → StringReading
  | [] => .error (unread.getD .endInText)
  | '"' :: rest =>
    match unread with
    | some fault => .ok (.error fault, rest)
    | none => .ok (.ok (String.ofList done.reverse), rest)
  | '\\' :: 'u' :: a :: b :: c :: d :: rest =>
    match hex4? a b c d with
    | none => .error (unread.getD .escape)
    | some n =>
      if !isSurrogate n then stringFrom (Char.ofNat n :: done) unread rest
      else if 0xdc00 ≤ n then stringFrom done (unread <|> some .loneSurrogate) rest
      else
        match rest with
        | '\\' :: 'u' :: e :: f :: g :: h :: rest' =>
          match hex4? e f g h with
          | some m =>
            if 0xdc00 ≤ m && m < 0xe000 then
              let point := 0x10000 + (n - 0xd800) * 0x400 + (m - 0xdc00)
              stringFrom (Char.ofNat point :: done) unread rest'
            else
              stringFrom done (unread <|> some .loneSurrogate)
                ('\\' :: 'u' :: e :: f :: g :: h :: rest')
          | none => .error (unread.getD .escape)
        | '\\' :: 'u' :: _ => .error (unread.getD .endInText)
        | ['\\'] => .error (unread.getD .endInText)
        | [] => .error (unread.getD .endInText)
        | rest => stringFrom done (unread <|> some .endInSurrogate) rest
  | '\\' :: 'u' :: _ => .error (unread.getD .endInText)
  | ['\\'] => .error (unread.getD .endInText)
  | '\\' :: c :: rest =>
    match escaped? c with
    | some c => stringFrom (c :: done) unread rest
    | none => .error (unread.getD .escape)
  | c :: rest =>
    if c.toNat < 0x20 then .error (unread.getD .controlCharacter)
    else stringFrom (c :: done) unread rest
termination_by text => text.length

/-- The largest number that is kept exactly. -/
def maxExact : Nat := Nat.pow 2 64 - 1

/-- A power of ten as a floating-point number. -/
def tenPower (n : Nat) : Float := Float.ofScientific 1 false n

/-- `significand · 10 ^ exponent` as a floating-point number, computed with one multiplication or
with divisions by at most `10 ^ 308` each; `none` when it is out of range. -/
def assemble (fuel : Nat) (significand : Float) (exponent : Int) : Option Float :=
  match fuel with
  | 0 => none
  | fuel + 1 =>
    if exponent.natAbs ≤ 308 then
      if 0 ≤ exponent then
        let x := significand * tenPower exponent.natAbs
        if x.isInf then none else some x
      else some (significand / tenPower exponent.natAbs)
    else if significand == 0 then some significand
    else if 0 ≤ exponent then none
    else assemble fuel (significand / tenPower 308) (exponent + 308)

/-- A floating-point number as a JSON text writes it: positionally from `0.00001` up to sixteen
digits before the point, otherwise with an exponent. -/
def decimalText (negative : Bool) (x : Float) : String :=
  let digits := match Decimal.magnitude? x with
    | none => ['0', '.', '0']
    | some magnitude =>
      let (k, e) := magnitude.shortest
      let lead := e + ((toString k).length : Int) - 1
      if -5 ≤ lead && lead < 16 then Decimal.positional k e else Decimal.scientific k e
  String.ofList (if negative then '-' :: digits else digits)

/-- The number with the given sign, significand and decimal exponent. -/
def decimal (negative : Bool) (significand : Nat) (exponent : Int) : Document :=
  match assemble 8 (Float.ofNat significand) exponent with
  | some x => .decimal (decimalText negative x)
  | none => .unreadable .outOfRange

/-- The digits at the start of a text, and what follows them. -/
def digits (text : List Char) : List Nat × List Char :=
  let (ds, rest) := text.span fun c => '0' ≤ c && c ≤ '9'
  (ds.map fun c => c.toNat - '0'.toNat, rest)

/-- Takes digits into a significand as long as it stays exact; the remaining ones are only
counted. -/
def takeDigits (significand : Nat) : List Nat → Nat × Nat × Nat
  | [] => (significand, 0, 0)
  | d :: rest =>
    if significand * 10 + d ≤ maxExact then
      let (s, taken, dropped) := takeDigits (significand * 10 + d) rest
      (s, taken + 1, dropped)
    else (significand, 0, rest.length + 1)

/-- The largest exponent that is looked at. -/
def maxExponent : Nat := Nat.pow 2 31 - 1

/-- The fault of a number that lacks a digit in front of the given text. -/
def noDigit (text : List Char) : SyntaxFault := if text.isEmpty then .endInValue else .number

/-- A reading of a value: as far as it could be read, and the text after it or the fault there. -/
abbrev ValueReading := Document × Except SyntaxFault (List Char)

/-- The reading of a value that breaks off. -/
def brokenOff (fault : SyntaxFault) : ValueReading := (.broken fault, .error fault)

/-- Reads the exponent after its letter, given the significand and the exponent so far. -/
def exponentFrom (negative : Bool) (significand : Nat) (before : Int) (text : List Char) :
    ValueReading :=
  let (down, text) := match text with
    | '+' :: rest => (false, rest)
    | '-' :: rest => (true, rest)
    | rest => (false, rest)
  match digits text with
  | ([], rest) => brokenOff (noDigit rest)
  | (ds, rest) =>
    let size := ds.foldl (fun n d => n * 10 + d) 0
    if maxExponent < size then
      if significand ≠ 0 && !down then (.unreadable .outOfRange, .ok rest)
      else (.decimal (if negative then "-0.0" else "0.0"), .ok rest)
    else (decimal negative significand (if down then before - size else before + size), .ok rest)

/-- Reads what follows the digits before the point. `dropped` of them did not fit into the
significand. -/
def fractionFrom (negative : Bool) (significand dropped : Nat) (text : List Char) : ValueReading :=
  match text with
  | '.' :: rest =>
    match digits rest with
    | ([], rest) => brokenOff (noDigit rest)
    | (ds, rest) =>
      let (significand, taken, _) := takeDigits significand ds
      let exponent := (dropped : Int) - taken
      match rest with
      | 'e' :: rest => exponentFrom negative significand exponent rest
      | 'E' :: rest => exponentFrom negative significand exponent rest
      | rest => (decimal negative significand exponent, .ok rest)
  | 'e' :: rest => exponentFrom negative significand dropped rest
  | 'E' :: rest => exponentFrom negative significand dropped rest
  | rest =>
    if 0 < dropped then (decimal negative significand dropped, .ok rest)
    else if !negative then (.integer significand, .ok rest)
    else if 0 < significand && significand ≤ Nat.pow 2 63 then (.integer (-significand), .ok rest)
    else (decimal true significand 0, .ok rest)

/-- Reads a number after its sign. A zero at the start stands alone before the point. -/
def numberFrom (negative : Bool) (text : List Char) : ValueReading :=
  match digits text with
  | ([], rest) => brokenOff (noDigit rest)
  | (0 :: _ :: _, _) => brokenOff .number
  | (ds, rest) =>
    let (significand, _, dropped) := takeDigits 0 ds
    fractionFrom negative significand dropped rest

/-- Reads one of the three words of the format. -/
def wordFrom (word : List Char) (value : Document) (text : List Char) : ValueReading :=
  if word.isPrefixOf text then (value, .ok (text.drop word.length))
  else if text.isPrefixOf word then brokenOff .endInValue
  else brokenOff .noWord

/-- The fault after which a collection is not closed. -/
def faultOf : Except SyntaxFault (List Char) → Option SyntaxFault
  | .ok _ => none
  | .error fault => some fault

/-- A reading of the entries of an object: those before the first fault that a reader of their keys
meets, that fault, the fault met without reading the keys, and the text after the object or the
fault that broke it off. -/
structure EntriesReading where
  entries : List (String × Document)
  fault : Option SyntaxFault
  passing : Option SyntaxFault
  rest : Except SyntaxFault (List Char)

namespace EntriesReading

/-- The reading that breaks off. -/
def brokenOff (fault : SyntaxFault) : EntriesReading := ⟨[], some fault, some fault, .error fault⟩

/-- The reading of a closing brace. -/
def closed (rest : List Char) : EntriesReading := ⟨[], none, none, .ok rest⟩

/-- The reading with one more entry in front, whose key may stand for no text. -/
def after (key : Except SyntaxFault String) (value : Document) (reading : EntriesReading) :
    EntriesReading :=
  match key with
  | .ok key => { reading with entries := (key, value) :: reading.entries }
  | .error fault =>
    { entries := [],
      fault := some fault,
      passing := value.fault? <|> Document.faultInEntries? reading.entries <|> reading.passing,
      rest := reading.rest }

/-- The object with these entries. -/
def toValue (reading : EntriesReading) : ValueReading :=
  (.table reading.entries reading.fault reading.passing, reading.rest)

end EntriesReading

mutual

/-- Reads a value. `fuel` bounds the number of values, items and entries on the way. -/
def valueFrom : (fuel : Nat) → List Char → ValueReading
  | 0, _ => brokenOff .noValue
  | fuel + 1, input =>
    match skipBlanks input with
    | [] => brokenOff .endInValue
    | '"' :: rest =>
      match stringFrom [] none rest with
      | .ok (.ok s, rest) => (.text s, .ok rest)
      | .ok (.error fault, rest) => (.unreadable fault, .ok rest)
      | .error fault => brokenOff fault
    | '[' :: rest =>
      match skipBlanks rest with
      | ']' :: rest => (.list [] none, .ok rest)
      | [] => (.list [] (some .endInList), .error .endInList)
      | rest =>
        let (items, rest) := itemsFrom fuel rest
        (.list items (faultOf rest), rest)
    | '{' :: rest =>
      match skipBlanks rest with
      | '}' :: rest => (.table [] none none, .ok rest)
      | [] => (.table [] (some .endInTable) (some .endInTable), .error .endInTable)
      | rest => (entriesFrom fuel rest).toValue
    | 'n' :: rest => wordFrom ['u', 'l', 'l'] .null rest
    | 't' :: rest => wordFrom ['r', 'u', 'e'] (.flag true) rest
    | 'f' :: rest => wordFrom ['a', 'l', 's', 'e'] (.flag false) rest
    | '-' :: rest => numberFrom true rest
    | c :: rest =>
      if '0' ≤ c && c ≤ '9' then numberFrom false (c :: rest) else brokenOff .noValue

/-- Reads the items of an array up to its closing bracket. -/
def itemsFrom : (fuel : Nat) → List Char → List Document × Except SyntaxFault (List Char)
  | 0, _ => ([], .error .noValue)
  | fuel + 1, input =>
    match valueFrom fuel input with
    | (item, .error fault) => ([item], .error fault)
    | (item, .ok rest) =>
      match skipBlanks rest with
      | ',' :: rest =>
        match skipBlanks rest with
        | ']' :: _ => ([item], .error .trailingComma)
        | [] => ([item], .error .endInValue)
        | rest =>
          let (items, rest) := itemsFrom fuel rest
          (item :: items, rest)
      | ']' :: rest => ([item], .ok rest)
      | [] => ([item], .error .endInList)
      | _ => ([item], .error .noListSeparator)

/-- Reads the entries of an object up to its closing brace. -/
def entriesFrom : (fuel : Nat) → List Char → EntriesReading
  | 0, _ => .brokenOff .noValue
  | fuel + 1, input =>
    match skipBlanks input with
    | '"' :: rest =>
      match stringFrom [] none rest with
      | .error fault => .brokenOff fault
      | .ok (key, rest) =>
        match skipBlanks rest with
        | ':' :: rest =>
          match valueFrom fuel rest with
          | (value, .error fault) => (EntriesReading.brokenOff fault).after key value
          | (value, .ok rest) =>
            match skipBlanks rest with
            | ',' :: rest =>
              match skipBlanks rest with
              | '}' :: _ => (EntriesReading.brokenOff .trailingComma).after key value
              | [] => (EntriesReading.brokenOff .endInValue).after key value
              | rest => (entriesFrom fuel rest).after key value
            | '}' :: rest => (EntriesReading.closed rest).after key value
            | [] => (EntriesReading.brokenOff .endInTable).after key value
            | _ => (EntriesReading.brokenOff .noTableSeparator).after key value
        | [] => (EntriesReading.brokenOff .endInTable).after key (.broken .endInTable)
        | _ => (EntriesReading.brokenOff .noColon).after key (.broken .noColon)
    | _ => .brokenOff .keyIsNoText

end

end Reader

namespace Document

/-- The document of a text, and the fault after it if anything but blanks follows. -/
def ofText (text : String) : Document × Option SyntaxFault :=
  let chars := text.toList
  let (document, rest) := Reader.valueFrom (chars.length + 2) chars
  (document, match rest with
    | .ok rest => if (Reader.skipBlanks rest).isEmpty then none else some .trailingText
    | .error fault => some fault)

mutual

/-- The value of a document without faults. -/
def value? : Document → Option Json
  | .broken _ | .unreadable _ => none
  | .null => some .null
  | .flag b => some (.flag b)
  | .integer n => some (.integer n)
  | .decimal digits => some (.decimal digits)
  | .text s => some (.text s)
  | .list items fault => if fault.isNone then (values? items).map .list else none
  | .table entries fault _ => if fault.isNone then (entryValues? entries).map .table else none

/-- The values of items without faults. -/
def values? : List Document → Option (List Json)
  | [] => some []
  | item :: rest => do
    let value ← item.value?
    return value :: (← values? rest)

/-- The values of entries without faults. -/
def entryValues? : List (String × Document) → Option (List (String × Json))
  | [] => some []
  | (key, item) :: rest => do
    let value ← item.value?
    return (key, value) :: (← entryValues? rest)

end

mutual

/-- The document that a value is written as. -/
def ofValue : Json → Document
  | .null => .null
  | .flag b => .flag b
  | .integer n => .integer n
  | .decimal digits => .decimal digits
  | .text s => .text s
  | .list items => .list (ofValues items) none
  | .table entries => .table (ofEntries entries) none none

/-- The documents that values are written as. -/
def ofValues : List Json → List Document
  | [] => []
  | item :: rest => ofValue item :: ofValues rest

/-- The documents that entries are written as. -/
def ofEntries : List (String × Json) → List (String × Document)
  | [] => []
  | (key, value) :: rest => (key, ofValue value) :: ofEntries rest

end

end Document

/-- The value that a text writes, if all of it is one JSON value. -/
def parse? (text : String) : Option Json :=
  match Document.ofText text with
  | (document, none) => document.value?
  | (_, some _) => none

end FieldAccess.Json
