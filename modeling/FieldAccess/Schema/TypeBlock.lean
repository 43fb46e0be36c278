import FieldAccess.Text.Trim
import FieldAccess.Schema.Delimiter

/-!
# Type blocks

A type block is the word `type`, a name, an optional list of interfaces, any number of directives
and a body in braces. Blocks are taken from the front of the document to its end; the first header
whose body is not closed ends the search, since nothing after it can be trusted.

## Main definitions

* `keyword?` – the word `type` and a name at the start of a text.
* `header?` – a whole type header, up to and including its opening brace.
* `typeBlocks` – the type blocks of a document.
* `skippedTypes` – the names that follow the word `type` where no type block starts.
-/

namespace FieldAccess.Schema

open Text

/-- The text after at least one blank, and after all that follow it. -/
def afterBlanks? : List Char → Option (List Char)
  | c :: rest => if isBlank c then some (trimStart rest) else none
  | [] => none

/-- A name at the start of a text, as long as possible, and the text after it. -/
def word? (text : List Char) : Option (List Char × List Char) :=
  match text.takeWhile isWord with
  | [] => none
  | name => some (name, text.dropWhile isWord)

/-- The word `type` followed by a name, at the start of a text, and the text after the name. -/
def keyword? (text : List Char) : Option (List Char × List Char) :=
  match afterPrefix? ['t', 'y', 'p', 'e'] text with
  | some rest => (afterBlanks? rest).bind word?
  | none => none

/-- The text after a list of interfaces, when one follows: blanks, the word `implements`, a blank,
and everything up to a directive or a brace. -/
def afterInterfaces (text : List Char) : List Char :=
  match (afterBlanks? text).bind (afterPrefix? "implements".toList) with
  | some rest =>
    match afterBlanks? rest with
    | some _ => rest.dropWhile fun c => c != '\x7b' && c != '@'
    | none => text
  | none => text

/-- The text after arguments in parentheses, when they follow. -/
def afterArguments (text : List Char) : List Char :=
  match trimStart text with
  | '(' :: rest =>
    match rest.dropWhile (· != ')') with
    | _ :: rest => rest
    | [] => text
  | _ => text

/-- The text after a directive with its arguments, when one follows. -/
def afterDirective? (text : List Char) : Option (List Char) :=
  match trimStart text with
  | '@' :: rest => (word? rest).map fun (_, rest) => afterArguments rest
  | _ => none

/-- The text after all directives that follow. `fuel` bounds their number. -/
def afterDirectives : (fuel : Nat) → List Char → List Char
  | 0, text => text
  | fuel + 1, text =>
    match afterDirective? text with
    | some rest => afterDirectives fuel rest
    | none => text

/-- A type header at the start of a text: the name of the type, and the text after the opening
brace. -/
def header? (text : List Char) : Option (List Char × List Char) :=
  match keyword? text with
  | some (name, rest) =>
    let rest := afterInterfaces rest
    match trimStart (afterDirectives rest.length rest) with
    | '\x7b' :: body => some (name, body)
    | _ => none
  | none => none

/-- The first type header of a text whose first character is the `position`-th of the document: its
position, the name of the type, and the text after the opening brace. A header does not start in
the middle of a word; `inWord` tells whether the character before the text belongs to one. -/
def findHeader? (position : Nat) (inWord : Bool) :
    List Char → Option (Nat × List Char × List Char)
  | [] => none
  | c :: rest =>
    match if inWord then none else header? (c :: rest) with
    | some (name, body) => some (position, name, body)
    | none => findHeader? (position + 1) (isWord c) rest

/-- A type block: where it starts in the document, the name of the type, and the text between its
braces. -/
structure TypeBlock where
  position : Nat
  name : List Char
  body : List Char
  deriving Repr, DecidableEq, Inhabited

/-- The type blocks of the rest of a document from `position` on. `fuel` bounds their number. -/
def typeBlocksFrom : (fuel position : Nat) → List Char → List TypeBlock
  | 0, _, _ => []
  | fuel + 1, position, text =>
    match findHeader? position false text with
    | none => []
    | some (start, name, rest) =>
      match splitClosing? '\x7b' '\x7d' rest with
      | none => []
      | some (body, after) =>
        { position := start, name, body } ::
          typeBlocksFrom fuel (position + (text.length - after.length)) after

/-- The type blocks of a document, in order. -/
def typeBlocks (document : List Char) : List TypeBlock :=
  typeBlocksFrom document.length 0 document

/-- The places where the word `type` is followed by a name, and the names. Places do not overlap:
`busy` characters still belong to the last one. -/
def keywordsFrom (position busy : Nat) (inWord : Bool) : List Char → List (Nat × List Char)
  | [] => []
  | c :: rest =>
    if busy = 0 ∧ inWord = false then
      match keyword? (c :: rest) with
      | some (name, after) =>
        (position, name) ::
          keywordsFrom (position + 1) (rest.length - after.length) (isWord c) rest
      | none => keywordsFrom (position + 1) 0 (isWord c) rest
    else keywordsFrom (position + 1) (busy - 1) (isWord c) rest

/-- The names that follow the word `type` at places where none of the blocks starts. -/
def skippedTypes (document : List Char) (blocks : List TypeBlock) : List (List Char) :=
  ((keywordsFrom 0 0 false document).filter fun (position, _) =>
    !blocks.any fun block => block.position == position).map fun (_, name) => name

end FieldAccess.Schema
