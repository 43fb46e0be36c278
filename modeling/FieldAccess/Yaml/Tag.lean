import FieldAccess.Net.Percent
import FieldAccess.Yaml.Cursor

/-!
# Tags in a YAML text

A tag names the kind of a node. In the text it is written with a handle, which directives at the
start of a document give a meaning, or in full between angle brackets.

## Main definitions

* `Tag` – a tag that is meant.
* `TagName` – a tag as it is written.
* `Cursor.tag` – the tag at a place.
* `TagName.resolve?` – the tag that is meant.
-/

namespace FieldAccess.Yaml

/-- A tag. Bytes that make up no character are replaced by the sign for such bytes, and the tag is
then not legible. -/
structure Tag where
  text : String
  isLegible : Bool := true
  deriving Repr, DecidableEq, Inhabited

/-- A tag followed by another one. -/
def Tag.append (tag more : Tag) : Tag := ⟨tag.text ++ more.text, tag.isLegible && more.isLegible⟩

/-- A tag as it is written. -/
structure TagName where
  /-- The handle; empty when the tag is written in full. -/
  handle : String
  suffix : Tag
  deriving Repr, DecidableEq, Inhabited

/-- Handles and what they stand for, those that count first. -/
abbrev TagHandles := List (String × Tag)

/-- The handles that need no directive. -/
def TagHandles.standard : TagHandles := [("!", ⟨"!", true⟩), ("!!", ⟨"tag:yaml.org,2002:", true⟩)]

/-- The tag that is meant, if the handle is known. -/
def TagName.resolve? (name : TagName) (handles : TagHandles) : Option Tag :=
  if name.handle.isEmpty then some name.suffix
  else (handles.lookup name.handle).map (·.append name.suffix)

namespace Cursor

/-- A character of a tag. In a tag that is written in full, more signs are allowed. -/
def isTagChar (full : Bool) (c : Char) : Bool :=
  isNameChar c || ";/?:@&=+$.!~*'()".toList.contains c || (full && ",[]".toList.contains c)

/-- The number of bytes of a character that starts with a byte. -/
def sequenceLength? (byte : Nat) : Option Nat :=
  if byte < 0x80 then some 1
  else if byte < 0xc0 then none
  else if byte < 0xe0 then some 2
  else if byte < 0xf0 then some 3
  else if byte < 0xf8 then some 4
  else none

/-- The byte that a text writes with a percent sign. -/
def octet? : List Char → Option Nat
  | '%' :: high :: low :: _ => Net.hexByte? high low
  | _ => none

/-- The given count of bytes after the first one of a character. -/
def laterOctets (activity : Activity) (start : Mark) :
    (count : Nat) → Cursor → Except SyntaxFault (List Nat × Cursor)
  | 0, c => .ok ([], c)
  | count + 1, c =>
    match octet? c.rest with
    | none => c.refuse .missingOctet activity start
    | some byte =>
      if byte / 64 = 2 then do
        let (bytes, last) ← laterOctets activity start count (c.advance 3)
        return (byte :: bytes, last)
      else c.refuse .laterOctet activity start

/-- The character that a text writes with percent signs. The bytes have the form of one, which they
need not make up. -/
def encodedChar (activity : Activity) (start : Mark) (c : Cursor) :
    Except SyntaxFault (Tag × Cursor) :=
  match octet? c.rest with
  | none => c.refuse .missingOctet activity start
  | some first =>
    match sequenceLength? first with
    | none => c.refuse .firstOctet activity start
    | some count => do
      let (bytes, last) ← laterOctets activity start (count - 1) (c.advance 3)
      match String.fromUTF8? (ByteArray.mk ((first :: bytes).map Nat.toUInt8).toArray) with
      | some decoded => return (⟨decoded, true⟩, last)
      | none => return (⟨String.singleton (Char.ofNat 0xfffd), false⟩, last)

/-- The characters of a tag. -/
def tagChars (full : Bool) (activity : Activity) (start : Mark) :
    (limit : Nat) → Cursor → Except SyntaxFault (Tag × Cursor)
  | 0, c => .ok (⟨"", true⟩, c)
  | limit + 1, c =>
    match c.rest with
    | '%' :: _ => do
      let (decoded, next) ← encodedChar activity start c
      let (tag, last) ← tagChars full activity start limit next
      return (decoded.append tag, last)
    | d :: _ =>
      if isTagChar full d then do
        let (tag, last) ← tagChars full activity start limit c.next
        return (Tag.append ⟨String.singleton d, true⟩ tag, last)
      else .ok (⟨"", true⟩, c)
    | [] => .ok (⟨"", true⟩, c)

/-- The characters of a tag, of which there is at least one. -/
def tagText (full : Bool) (activity : Activity) (start : Mark) (c : Cursor) :
    Except SyntaxFault (Tag × Cursor) := do
  let (tag, last) ← tagChars full activity start c.rest.length c
  if tag.text.isEmpty then last.refuse .missingTagText activity start else return (tag, last)

/-- A handle: a name between exclamation marks, or a single one. -/
def handle (c : Cursor) : String × Cursor :=
  let name := (c.rest.drop 1).takeWhile isNameChar
  let after := c.advance (1 + name.length)
  match after.rest with
  | '!' :: _ => (String.ofList ('!' :: name ++ ['!']), after.next)
  | _ => (String.ofList ('!' :: name), after)

/-- A tag with a handle. Without a second exclamation mark the handle is a single one, and the name
belongs to the tag. -/
def shortTag (c : Cursor) : Except SyntaxFault (TagName × Cursor) := do
  let (handle, after) := c.handle
  if handle.length ≥ 2 && handle.endsWith "!" then
    let (suffix, last) ← after.tagText false .tagText c.mark
    return (⟨handle, suffix⟩, last)
  else
    let (more, last) ← tagChars false .tagText c.mark after.rest.length after
    let suffix := Tag.append ⟨String.ofList (handle.toList.drop 1), true⟩ more
    if suffix.text.isEmpty then return (⟨"", ⟨"!", true⟩⟩, last)
    else return (⟨"!", suffix⟩, last)

/-- A tag that is written in full. -/
def fullTag (c : Cursor) : Except SyntaxFault (TagName × Cursor) := do
  let (suffix, last) ← (c.advance 2).tagText true .tagText c.mark
  match last.rest with
  | '>' :: _ => return (⟨"", suffix⟩, last.next)
  | _ => last.refuse .unclosedTag .tag c.mark

/-- The tag that starts here. After it there must be a blank, or inside brackets a comma. -/
def tag (c : Cursor) (flow : Bool) : Except SyntaxFault (TagName × Cursor) := do
  let (tag, last) ← match c.rest with
    | '!' :: '<' :: _ => c.fullTag
    | _ => c.shortTag
  if startsBlank last.rest || (flow && last.rest.head? = some ',') then return (tag, last)
  else last.refuse .missingBlankOrBreak .tag c.mark

end Cursor

end FieldAccess.Yaml
