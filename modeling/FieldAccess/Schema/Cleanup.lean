import FieldAccess.Text.Trim
import FieldAccess.Schema.Delimiter

/-!
# Comments and descriptions

A schema document is read line by line. What a line says is what is left of it without block
strings, without the comment at its end, and without the description in front of a field. Lines of
which nothing is left are dropped.

## Main definitions

* `outsideBlocks` – the part of a line that lies outside of block strings.
* `withoutComment` – a line without its comment.
* `withoutDescription` – a line without the quoted description it starts with.
* `clean` – the document without comments and descriptions.
-/

namespace FieldAccess.Schema

open Text

/-- The part of a line outside of block strings, and whether a block is still open at its end. A
block string is opened and closed by three double quotes, except that three quotes right after a
backslash do not close it; `escaped` tells that a backslash inside a block has just been read. A
blank stands where a block begins. -/
def outsideBlocks (inBlock escaped : Bool) : List Char → List Char × Bool
  | [] => ([], inBlock)
  | '"' :: '"' :: '"' :: rest =>
    if inBlock then outsideBlocks escaped false rest
    else
      let (kept, open?) := outsideBlocks true false rest
      (' ' :: kept, open?)
  | c :: rest =>
    if inBlock then outsideBlocks true (c == '\\') rest
    else
      let (kept, open?) := outsideBlocks false false rest
      (c :: kept, open?)

/-- The text before the comment sign of a line, when there is one outside of strings. -/
def beforeComment? (state : QuoteState) : List Char → Option (List Char)
  | [] => none
  | c :: rest =>
    if c = '#' ∧ state = .outside then some []
    else (beforeComment? (state.after c) rest).map (c :: ·)

/-- A line without its comment. -/
def withoutComment (line : List Char) : List Char :=
  match beforeComment? .outside line with
  | some text => trimEnd text
  | none => line

/-- The text after the quote that closes a string. -/
def afterString? (escaped : Bool) : List Char → Option (List Char)
  | [] => none
  | c :: rest =>
    if escaped then afterString? false rest
    else if c = '\\' then afterString? true rest
    else if c = '"' then some rest
    else afterString? false rest

/-- A line without the quoted description it starts with. Nothing is left of a line whose
description does not end. -/
def withoutDescription : List Char → List Char
  | '"' :: rest =>
    match afterString? false rest with
    | some text => trimStart text
    | none => []
  | line => line

/-- What is left of the lines that say something, given whether a block string is open. -/
def cleanLines (inBlock : Bool) : List (List Char) → List (List Char)
  | [] => []
  | line :: rest =>
    let (outside, open?) := outsideBlocks inBlock false line
    let text := withoutDescription (withoutComment (trim outside))
    if text.isEmpty then cleanLines open? rest else text :: cleanLines open? rest

/-- The document without comments and descriptions. -/
def clean (document : List Char) : List Char :=
  joined ['\n'] (cleanLines false (lines document))

end FieldAccess.Schema
