import FieldAccess.Net.DirectionTable
import FieldAccess.Net.DomainTable
import FieldAccess.Net.JoiningTable
import FieldAccess.Net.Punycode
import FieldAccess.Text.Composed
import FieldAccess.Text.Lowercase
import FieldAccess.Text.Trim

/-!
# Domain names

Names of hosts, whose labels may hold characters of all scripts. A name is read in three steps: its
characters are replaced by their images, the text is composed, and each label is checked. A label
with characters beyond ASCII is then written as `xn--` and its encoding in ASCII; one that is
given in this form has to encode a label that would have been left as it is.

## Main definitions

* `Domain.read?` – the written form of a name.
* `Domain.isJoined` – where the two joiners may stand.
* `Domain.isDirected` – the rule for labels of names with characters written from the right to the
  left.
-/

namespace FieldAccess.Net

open Text

namespace Domain

/-! ### Images of characters -/

/-- The ASCII characters that no domain name contains, besides control characters. -/
def refusedMarks : List Char :=
  [' ', '#', '%', '/', ':', '<', '>', '?', '@', '[', '\\', ']', '^', '|']

/-- Whether a character of ASCII is refused in a domain name. -/
def isRefusedAscii (c : Char) : Bool := c.toNat < 0x20 || c.toNat = 0x7f || refusedMarks.contains c

/-- The image of a character within a run. -/
def runImage? (c : Char) : Option Char :=
  imageRuns.findSome? fun (first, last, step, image) =>
    if first ≤ c.toNat && c.toNat ≤ last && (c.toNat - first) % step = 0 then
      some (Char.ofNat (image + (c.toNat - first)))
    else none

/-- The image of a character that is given as a text. -/
def textImage? (c : Char) : Option (List Char) :=
  imageTexts.findSome? fun (first, texts) =>
    if first ≤ c.toNat && c.toNat - first < texts.utf8ByteSize then
      (splitOn (· == ' ') texts.toList)[c.toNat - first]?
    else none

/-- What a character of a domain name becomes, unless it is refused. -/
def image? (c : Char) : Option (List Char) :=
  if c.toNat < 0x80 then some (lowercaseChar c)
  else if inRanges refusedRanges c.toNat then none
  else if inRanges ignoredRanges c.toNat then some []
  else
    match runImage? c with
    | some image => some [image]
    | none => some ((textImage? c).getD [c])

/-- The text of the images of characters, in composed form, unless one is refused. -/
def mapped? (name : List Char) : Option (List Char) := do
  let text := composed (← name.mapM image?).flatten
  if text.any isRefusedAscii then none else some text

/-! ### Joiners -/

/-- With which neighbours a character joins. -/
def joining (c : Char) : Joining :=
  match joiningRuns.find? fun run => run.1 ≤ c.toNat && c.toNat ≤ run.2.1 with
  | some (_, _, joining) => joining
  | none => if isNonspacing c then .transparent else .none

/-- Whether the first character that is not transparent joins as wanted. -/
def joinsAs (wanted : Joining) (text : List Char) : Bool :=
  match text.find? fun c => joining c != .transparent with
  | some c => joining c == wanted || joining c == .both
  | none => false

/-- The class of the signs that take the vowel off a consonant. -/
def viramaClass : Nat := 9

/-- The joiner that prevents the joining of its neighbours. -/
def nonJoiner : Char := Char.ofNat 0x200c

/-- The joiner that demands the joining of its neighbours. -/
def joiner : Char := Char.ofNat 0x200d

/-- Whether the joiners of a text stand where they have a meaning: both of them after the sign that
takes the vowel off a consonant, and the one that prevents joining also between letters that would
join.
`before` holds, in reverse, what stands before the text. -/
def isJoined (before : List Char) : List Char → Bool
  | [] => true
  | c :: rest =>
    let placed :=
      if c = joiner || c = nonJoiner then
        (before.head?.map combiningClass).getD 0 = viramaClass ||
          (c = nonJoiner && joinsAs .after before && joinsAs .before rest)
      else true
    placed && isJoined (c :: before) rest

/-! ### Directions -/

/-- The direction of a character. -/
def direction (c : Char) : Direction :=
  match directionRuns.find? fun run => run.1 ≤ c.toNat && c.toNat ≤ run.2.1 with
  | some (_, _, direction) => direction
  | none => if isNonspacing c then .mark else .leftToRight

/-- Whether a character is written from the right to the left. -/
def isRightToLeft (c : Char) : Bool :=
  direction c == .rightToLeft || direction c == .arabicNumber

/-- Whether a label may be part of a name with characters written from the right to the left: it
begins with a letter, holds no letter of the other direction, ends in a letter or a digit, marks
apart, and does not mix the two kinds of digits. -/
def isDirected (label : List Char) : Bool :=
  let directions := label.map direction
  let ending := (directions.reverse.find? (· != .mark)).getD .mark
  match directions.head? with
  | none => true
  | some .leftToRight =>
    directions.all (fun d => d != .rightToLeft && d != .arabicNumber) &&
      (ending == .leftToRight || ending == .number)
  | some .rightToLeft =>
    directions.all (· != .leftToRight) &&
      (ending == .rightToLeft || ending == .number || ending == .arabicNumber) &&
      !(directions.contains .number && directions.contains .arabicNumber)
  | some _ => false

/-! ### Labels -/

/-- A label of a name: what it says and how it is written. -/
structure Label where
  text : List Char
  written : List Char

/-- What an encoded label starts with. -/
def encodingPrefix : List Char := ['x', 'n', '-', '-']

/-- The size of the longest label that is encoded. -/
def longestLabel : Nat := 1000

/-- The size of the longest encoding that is decoded. -/
def longestEncoding : Nat := 2000

/-- Whether a character is of ASCII. -/
def isAscii (c : Char) : Bool := c.toNat < 0x80

/-- Whether what a label says is in order. -/
def isLabel (text : List Char) : Bool :=
  text.all isAscii ||
    (!((text.head?.map isMark).getD false) && isJoined [] text && text.length ≤ longestLabel)

/-- The label that is encoded, if it is one that stands for itself and cannot do without. -/
def decoded? (encoding : List Char) : Option (List Char) := do
  if encoding.getLast? = some '-' || longestEncoding < encoding.length then none
  let text ← Punycode.decode encoding
  if text.all (fun c => isAscii c || image? c == some [c]) && !text.all isAscii &&
      composed text == text then some text else none

/-- Reads a label of a text that was mapped. -/
def label? (text : List Char) : Option Label := do
  match afterPrefix? encodingPrefix text with
  | some encoding =>
    let decoded ← decoded? encoding
    if isLabel decoded then some { text := decoded, written := text } else none
  | none =>
    if !isLabel text then none
    else if text.all isAscii then some { text, written := text }
    else some { text, written := encodingPrefix ++ Punycode.encode text }

/-- The written form of a name, if it is one. -/
def read? (name : List Char) : Option (List Char) := do
  let labels ← (splitOn (· == '.') (← mapped? name)).mapM label?
  if (labels.any fun label => label.text.any isRightToLeft) &&
      !(labels.all fun label => isDirected label.text) then none
  else some (joined ['.'] (labels.map Label.written))

end Domain

end FieldAccess.Net
