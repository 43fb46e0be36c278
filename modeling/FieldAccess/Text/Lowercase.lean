import FieldAccess.Text.CaseTable
import FieldAccess.Text.Classes

/-!
# Lower case

The lower-case form of a text, as the Unicode standard defines it without regard to a language.
A character has one lower-case form everywhere, with one exception: capital sigma is written `ς`
where a word ends and `σ` elsewhere.

## Main definitions

* `lowercase` – the lower-case form of a text.
* `endsWord` – the condition under which a capital sigma takes its final form.
-/

namespace FieldAccess.Text

/-- A character of a script that distinguishes case, in one of its cases. -/
def isCased (c : Char) : Bool :=
  if c.toNat < 0x80 then isAsciiLetter c else inRanges casedRanges c.toNat

/-- A character that is passed over when the case of its neighbours is looked at. -/
def isCaseIgnorable (c : Char) : Bool :=
  if c.toNat < 0x80 then c == '\'' || c == '.' || c == ':' || c == '^' || c.toNat == 0x60
  else inRanges caseIgnorableRanges c.toNat

/-- The offset from `n` to its lower-case form, if a run of the table covers it. -/
def lowercaseOffset? (n : Nat) : Option Int :=
  (lowercaseRuns.find? fun (first, last, stride, _) =>
    first ≤ n && n ≤ last && (n - first) % stride == 0).map fun (_, _, _, offset) => offset

/-- The lower-case form of a single character, out of context. -/
def lowercaseChar (c : Char) : List Char :=
  if c.toNat < 0x80 then [if 'A' ≤ c && c ≤ 'Z' then Char.ofNat (c.toNat + 32) else c]
  else if c.toNat = 0x130 then ['i', Char.ofNat 0x307]
  else
    match lowercaseOffset? c.toNat with
    | some offset => [Char.ofNat (c.toNat + offset).toNat]
    | none => [c]

/-- Whether a cased character comes first once case-ignorable ones are passed over. -/
def casedComesNext (text : List Char) : Bool :=
  match text.dropWhile isCaseIgnorable with
  | [] => false
  | c :: _ => isCased c

/-- Whether a character ends a word: a cased character comes before it and none after it. -/
def endsWord (reversedBefore after : List Char) : Bool :=
  casedComesNext reversedBefore && !casedComesNext after

/-- The lower-case form of the text, given in reverse what stands before it. -/
def lowercaseFrom (reversedBefore : List Char) : List Char → List Char
  | [] => []
  | c :: rest =>
    (if c = 'Σ' then [if endsWord reversedBefore rest then 'ς' else 'σ'] else lowercaseChar c) ++
      lowercaseFrom (c :: reversedBefore) rest

/-- The lower-case form of a text. -/
def lowercase (text : List Char) : List Char := lowercaseFrom [] text

end FieldAccess.Text
