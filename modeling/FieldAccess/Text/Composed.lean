import FieldAccess.Text.Classes
import FieldAccess.Text.CompositeTable
import FieldAccess.Text.MarkTable

/-!
# Composed texts

Many characters with marks can be written in two ways: as one composite character, or as a character
and the marks on it. The composed form of a text has a composite wherever there is one, and the
marks on one character in the order of their classes.

Capitals and the characters that are compatible with others are left as they are: this is the form
of texts in which they were replaced before.

## Main definitions

* `composed` – the composed form of a text.
* `isMark`, `combiningClass` – marks and their classes.
-/

namespace FieldAccess.Text

/-- The class of a character: the order of marks on one character, and 0 for all others. -/
def combiningClass (c : Char) : Nat :=
  if c.toNat < 0x300 then 0
  else
    match combiningRuns.find? fun run => run.1 ≤ c.toNat && c.toNat ≤ run.2.1 with
    | some (_, _, order) => order
    | none => 0

/-- Whether a character is a mark that takes up no space. -/
def isNonspacing (c : Char) : Bool := 0x300 ≤ c.toNat && inRanges nonspacingRanges c.toNat

/-- Whether a character is a mark. -/
def isMark (c : Char) : Bool := isNonspacing c || inRanges spacingRanges c.toNat

/-! ### Syllables of Hangul -/

/-- The first syllable. -/
def hangulSyllable : Nat := 0xac00

/-- The first leading consonant. -/
def hangulLeading : Nat := 0x1100

/-- The first vowel. -/
def hangulVowel : Nat := 0x1161

/-- The place before the first trailing consonant. -/
def hangulTrailing : Nat := 0x11a7

/-- The syllable of a leading consonant and a vowel, or of such a syllable and a trailing
consonant. -/
def hangulComposite? (a b : Nat) : Option Char :=
  if hangulLeading ≤ a && a < hangulLeading + 19 && hangulVowel ≤ b && b < hangulVowel + 21 then
    some (Char.ofNat (hangulSyllable + ((a - hangulLeading) * 21 + (b - hangulVowel)) * 28))
  else if hangulSyllable ≤ a && a < hangulSyllable + 11172 && (a - hangulSyllable) % 28 = 0 &&
      hangulTrailing < b && b < hangulTrailing + 28 then
    some (Char.ofNat (a + (b - hangulTrailing)))
  else none

/-- The consonants and the vowel of a syllable. -/
def hangulParts? (c : Char) : Option (List Char) :=
  if hangulSyllable ≤ c.toNat && c.toNat < hangulSyllable + 11172 then
    let index := c.toNat - hangulSyllable
    let trailing := index % 28
    some ([Char.ofNat (hangulLeading + index / 588),
      Char.ofNat (hangulVowel + index % 588 / 28)] ++
      (if trailing = 0 then [] else [Char.ofNat (hangulTrailing + trailing)]))
  else none

/-! ### Composites -/

/-- The composite that follows a character in a list of characters and composites. -/
def compositeAfter? (c : Char) : List Char → Option Char
  | base :: composite :: rest => if base = c then some composite else compositeAfter? c rest
  | _ => none

/-- The character before a composite in a list of characters and composites. -/
def baseBefore? (c : Char) : List Char → Option Char
  | base :: composite :: rest => if composite = c then some base else baseBefore? c rest
  | _ => none

/-- The composite of two characters. -/
def composite? (a b : Char) : Option Char :=
  match hangulComposite? a.toNat b.toNat with
  | some c => some c
  | none => compositeTexts.findSome? fun (mark, texts) =>
    if mark = b.toNat then compositeAfter? a texts.toList else none

/-- The two characters of a composite. -/
def compositeParts? (c : Char) : Option (Char × Char) :=
  compositeTexts.findSome? fun (mark, texts) =>
    (baseBefore? c texts.toList).map fun base => (base, Char.ofNat mark)

/-- The parts of a character, given that it has at most `depth` marks that can be taken off. -/
def parts : (depth : Nat) → Char → List Char
  | 0, c => [c]
  | depth + 1, c =>
    if c.toNat < 0x80 then [c]
    else
      match hangulParts? c with
      | some parts => parts
      | none =>
        match compositeParts? c with
        | some (base, mark) => parts depth base ++ [mark]
        | none => [c]

/-- A composite has at most this many marks. -/
def mostMarks : Nat := 3

/-- The text, in reverse, with a mark more, which goes before the marks of higher classes. -/
def insertMark (mark : Char) (order : Nat) : List Char → List Char
  | [] => [mark]
  | c :: before =>
    if 0 < order && order < combiningClass c then c :: insertMark mark order before
    else mark :: c :: before

/-- The text without composites and with its marks in order. -/
def decomposed (text : List Char) : List Char :=
  ((text.flatMap (parts mostMarks)).foldl
    (fun done c => insertMark c (combiningClass c) done) []).reverse

/-- Composes a character with the marks that follow it. `marks` are, in reverse, those that are left
over, the last one of which is of class `order`. -/
def composeFrom (base : Char) (marks : List Char) (order : Nat) : List Char → List Char
  | [] => base :: marks.reverse
  | c :: rest =>
    let next := combiningClass c
    match (if marks.isEmpty || order < next then composite? base c else none) with
    | some composite => composeFrom composite marks order rest
    | none =>
      if next = 0 then base :: marks.reverse ++ composeFrom c [] 0 rest
      else composeFrom base (c :: marks) next rest

/-- The text with composites in the place of the characters that bear marks. -/
def recomposed : List Char → List Char
  | [] => []
  | c :: rest =>
    if combiningClass c = 0 then composeFrom c [] 0 rest else c :: recomposed rest

/-- The composed form of a text. -/
def composed (text : List Char) : List Char := recomposed (decomposed text)

end FieldAccess.Text
