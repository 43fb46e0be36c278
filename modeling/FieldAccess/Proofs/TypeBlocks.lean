import FieldAccess.Proofs.Texts
import FieldAccess.Schema.Document

/-!
# Type blocks

The blocks of a document are those of its first block and those of the text behind it: how many
blocks there can be is bounded by the length of the text, and where a block stands does not matter
for what it says.

## Main definitions

* `TypeBlock.shift` – a block that stands further back in the document.
* `blockFields` – the fields of all blocks of a cleaned document.

## Main statements

* `typeBlocks_of_findHeader?` – the blocks of a text that has a first block.
* `blockFields_of_findHeader?` – the fields of such a text.
-/

namespace FieldAccess.Schema

open Text

section Suffixes

variable {text rest name : List Char}

theorem suffix_of_trimStart {c : Char} (h : trimStart text = c :: rest) : rest <:+ text := by
  have hsuffix : trimStart text <:+ text := List.dropWhile_suffix _
  rw [h] at hsuffix
  exact (List.suffix_cons _ _).trans hsuffix

theorem suffix_of_afterBlanks? (h : afterBlanks? text = some rest) : rest <:+ text := by
  cases text with
  | nil => cases h
  | cons c text =>
    simp only [afterBlanks?] at h
    split at h
    · rw [← Option.some.inj h]
      exact (List.dropWhile_suffix _).trans (List.suffix_cons _ _)
    · cases h

theorem suffix_of_word? (h : word? text = some (name, rest)) : rest <:+ text := by
  unfold word? at h
  split at h
  · cases h
  · rw [← (Prod.mk.inj (Option.some.inj h)).2]
    exact List.dropWhile_suffix _

theorem afterInterfaces_suffix (text : List Char) : afterInterfaces text <:+ text := by
  unfold afterInterfaces
  split
  · rename_i rest h
    split
    · obtain ⟨behind, hbehind, hrest⟩ := Option.bind_eq_some_iff.1 h
      refine (List.dropWhile_suffix _).trans (.trans ?_ (suffix_of_afterBlanks? hbehind))
      exact ⟨_, (afterPrefix?_eq_some_iff.1 hrest).symm⟩
    · exact List.suffix_rfl
  · exact List.suffix_rfl

theorem afterArguments_suffix (text : List Char) : afterArguments text <:+ text := by
  unfold afterArguments
  split
  · rename_i rest h
    split
    · rename_i c behind hbehind
      refine .trans ?_ ((List.dropWhile_suffix (· != ')')).trans (suffix_of_trimStart h))
      rw [hbehind]
      exact List.suffix_cons _ _
    · exact List.suffix_rfl
  · exact List.suffix_rfl

theorem suffix_of_afterDirective? (h : afterDirective? text = some rest) : rest <:+ text := by
  unfold afterDirective? at h
  split at h
  · rename_i behind hbehind
    obtain ⟨⟨name, after⟩, hword, rfl⟩ := Option.map_eq_some_iff.1 h
    exact (afterArguments_suffix _).trans
      ((suffix_of_word? hword).trans (suffix_of_trimStart hbehind))
  · cases h

theorem afterDirectives_suffix (fuel : Nat) (text : List Char) :
    afterDirectives fuel text <:+ text := by
  induction fuel generalizing text with
  | zero => exact List.suffix_rfl
  | succ fuel ih =>
    unfold afterDirectives
    split
    · rename_i rest h
      exact (ih rest).trans (suffix_of_afterDirective? h)
    · exact List.suffix_rfl

/-- A header ends with the opening brace. -/
theorem suffix_of_header? {body : List Char} (h : header? text = some (name, body)) :
    '\x7b' :: body <:+ text := by
  unfold header? at h
  split at h
  · rename_i name' behind hkeyword
    dsimp only at h
    split at h
    · rename_i body' hbody
      obtain ⟨rfl, rfl⟩ := Prod.mk.inj (Option.some.inj h)
      have hbehind : behind <:+ text := by
        unfold keyword? at hkeyword
        split at hkeyword
        · rename_i rest hrest
          obtain ⟨blank, hblank, hword⟩ := Option.bind_eq_some_iff.1 hkeyword
          exact (suffix_of_word? hword).trans ((suffix_of_afterBlanks? hblank).trans
            ⟨_, (afterPrefix?_eq_some_iff.1 hrest).symm⟩)
        · cases hkeyword
      rw [← hbody]
      exact (List.dropWhile_suffix _).trans ((afterDirectives_suffix _ _).trans
        ((afterInterfaces_suffix _).trans hbehind))
    · cases h
  · cases h

/-- The first header stands at the place that is found, at or behind the start of the text. -/
theorem header?_of_findHeader? {position start : Nat} {inWord : Bool} {body : List Char}
    (h : findHeader? position inWord text = some (start, name, body)) :
    ∃ distance, start = position + distance ∧
      header? (text.drop distance) = some (name, body) := by
  induction text generalizing position inWord with
  | nil => cases h
  | cons c text ih =>
    unfold findHeader? at h
    split at h
    · rename_i name' body' hheader
      obtain ⟨rfl, rfl, rfl⟩ : position = start ∧ name' = name ∧ body' = body := by simpa using h
      split at hheader
      · cases hheader
      · exact ⟨0, rfl, hheader⟩
    · obtain ⟨distance, hstart, hheader⟩ := ih h
      exact ⟨distance + 1, by omega, hheader⟩

theorem suffix_of_findHeader? {position start : Nat} {inWord : Bool} {body : List Char}
    (h : findHeader? position inWord text = some (start, name, body)) :
    '\x7b' :: body <:+ text := by
  obtain ⟨distance, -, hheader⟩ := header?_of_findHeader? h
  exact (suffix_of_header? hheader).trans (List.drop_suffix _ _)

theorem length_lt_of_findHeader? {position start : Nat} {inWord : Bool} {body : List Char}
    (h : findHeader? position inWord text = some (start, name, body)) :
    body.length < text.length :=
  (suffix_of_findHeader? h).length_le

/-- The text behind a block has fewer closing braces than the text in front of the header. -/
theorem count_lt_of_splitClosing? {position start : Nat} {inWord : Bool}
    {body after : List Char} (hheader : findHeader? position inWord text = some (start, name, rest))
    (hsplit : splitClosing? '\x7b' '\x7d' rest = some (body, after)) :
    after.count '\x7d' < text.count '\x7d' := by
  have hrest : rest <:+ text := (List.suffix_cons _ _).trans (suffix_of_findHeader? hheader)
  have hcount := hrest.sublist.count_le '\x7d'
  rw [eq_append_of_splitClosingFrom hsplit, List.count_append, List.count_cons_self] at hcount
  omega

end Suffixes

/-- The same block at a place further back in the document. -/
def TypeBlock.shift (distance : Nat) (block : TypeBlock) : TypeBlock :=
  { block with position := block.position + distance }

@[simp] theorem TypeBlock.fields_shift (distance : Nat) (block : TypeBlock) :
    (block.shift distance).fields = block.fields := rfl

/-- The header that a text begins with is the first one. -/
theorem findHeader?_of_header? {text name behind : List Char}
    (h : header? text = some (name, behind)) :
    findHeader? 0 false text = some (0, name, behind) := by
  cases text with
  | nil => cases h
  | cons c text =>
    rw [findHeader?]
    simp only [Bool.false_eq_true, if_false, h]

theorem findHeader?_add (position distance : Nat) (inWord : Bool) (text : List Char) :
    findHeader? (position + distance) inWord text =
      (findHeader? position inWord text).map fun (start, name, body) =>
        (start + distance, name, body) := by
  induction text generalizing position inWord with
  | nil => rfl
  | cons c text ih =>
    unfold findHeader?
    split
    · rfl
    · rw [← ih, Nat.add_right_comm]

/-- Where a text stands does not matter for its blocks, but for their places. -/
theorem typeBlocksFrom_add (fuel position distance : Nat) (text : List Char) :
    typeBlocksFrom fuel (position + distance) text =
      (typeBlocksFrom fuel position text).map (TypeBlock.shift distance) := by
  induction fuel generalizing position text with
  | zero => rfl
  | succ fuel ih =>
    simp only [typeBlocksFrom, findHeader?_add]
    cases findHeader? position false text with
    | none => rfl
    | some found =>
      obtain ⟨start, name, rest⟩ := found
      simp only [Option.map_some]
      cases splitClosing? '\x7b' '\x7d' rest with
      | none => rfl
      | some parts =>
        simp only [List.map_cons, ← ih]
        rw [Nat.add_right_comm]
        rfl

/-- Without a closing brace there is no block. -/
theorem typeBlocksFrom_of_count_eq_zero {text : List Char} (h : text.count '\x7d' = 0)
    (fuel position : Nat) : typeBlocksFrom fuel position text = [] := by
  cases fuel with
  | zero => rfl
  | succ fuel =>
    unfold typeBlocksFrom
    split
    · rfl
    · rename_i hheader
      split
      · rfl
      · rename_i hsplit
        have hafter := count_lt_of_splitClosing? hheader hsplit
        omega

/-- There are at most as many blocks as closing braces. -/
theorem typeBlocksFrom_fuel {fuel fuel' : Nat} {text : List Char} (h : text.count '\x7d' ≤ fuel)
    (h' : text.count '\x7d' ≤ fuel') (position : Nat) :
    typeBlocksFrom fuel position text = typeBlocksFrom fuel' position text := by
  -- Every block takes one unit of fuel and leaves a text with fewer closing braces behind.
  induction fuel generalizing fuel' text position with
  | zero =>
    rw [typeBlocksFrom_of_count_eq_zero (by omega), typeBlocksFrom_of_count_eq_zero (by omega)]
  | succ fuel ih =>
    cases fuel' with
    | zero =>
      rw [typeBlocksFrom_of_count_eq_zero (by omega), typeBlocksFrom_of_count_eq_zero (by omega)]
    | succ fuel' =>
      simp only [typeBlocksFrom]
      cases hheader : findHeader? position false text with
      | none => rfl
      | some found =>
        obtain ⟨start, name, rest⟩ := found
        dsimp only
        cases hsplit : splitClosing? '\x7b' '\x7d' rest with
        | none => rfl
        | some parts =>
          obtain ⟨body, after⟩ := parts
          have hafter := count_lt_of_splitClosing? hheader hsplit
          simp only [List.cons.injEq, true_and]
          exact ih (by omega) (by omega) _

theorem typeBlocksFrom_zero {fuel : Nat} {text : List Char} (h : text.count '\x7d' ≤ fuel) :
    typeBlocksFrom fuel 0 text = typeBlocks text :=
  typeBlocksFrom_fuel h List.count_le_length 0

/-- The blocks of a text that has a first block are that block and those of the text behind it. -/
theorem typeBlocks_of_findHeader? {text name rest body after : List Char} {start : Nat}
    (hheader : findHeader? 0 false text = some (start, name, rest))
    (hsplit : splitClosing? '\x7b' '\x7d' rest = some (body, after)) :
    typeBlocks text = { position := start, name, body } ::
      (typeBlocks after).map (TypeBlock.shift (text.length - after.length)) := by
  have hrest := length_lt_of_findHeader? hheader
  have hafter := length_lt_of_splitClosing? hsplit
  obtain ⟨fuel, hfuel⟩ : ∃ fuel, text.length = fuel + 1 :=
    Nat.exists_eq_succ_of_ne_zero (by omega)
  have hcount : after.count '\x7d' ≤ fuel := List.count_le_length.trans (by omega)
  rw [typeBlocks, hfuel, typeBlocksFrom, hheader]
  simp only [hsplit, ← hfuel, typeBlocksFrom_add, typeBlocksFrom_zero hcount]

/-- The fields of all blocks of a cleaned document. -/
def blockFields (cleaned : List Char) : List FieldDirective :=
  (typeBlocks cleaned).flatMap TypeBlock.fields

theorem parse_eq (document : String) : parse document = blockFields (clean document.toList) := rfl

/-- The fields of a text that has a first block are those of that block, and those of the text
behind it. -/
theorem blockFields_of_findHeader? {text name rest body after : List Char} {start : Nat}
    (hheader : findHeader? 0 false text = some (start, name, rest))
    (hsplit : splitClosing? '\x7b' '\x7d' rest = some (body, after)) :
    blockFields text =
      TypeBlock.fields { position := start, name, body } ++ blockFields after := by
  simp [blockFields, typeBlocks_of_findHeader? hheader hsplit, List.flatMap_map]

/-- A line feed in front of a text moves its blocks by one place. -/
theorem typeBlocks_feed (text : List Char) :
    typeBlocks ('\n' :: text) = (typeBlocks text).map (TypeBlock.shift 1) := by
  have hheader : findHeader? 0 false ('\n' :: text) = (findHeader? 0 false text).map
      fun (start, name, body) => (start + 1, name, body) := by
    rw [← findHeader?_add]
    rfl
  have hcount : text.count '\x7d' ≤ text.length + 1 := List.count_le_length.trans (Nat.le_succ _)
  rw [← typeBlocksFrom_zero hcount, typeBlocks]
  simp only [List.length_cons, typeBlocksFrom, hheader]
  cases hfound : findHeader? 0 false text with
  | none => rfl
  | some found =>
    obtain ⟨start, name, rest⟩ := found
    simp only [Option.map_some]
    cases hsplit : splitClosing? '\x7b' '\x7d' rest with
    | none => rfl
    | some parts =>
      obtain ⟨body, after⟩ := parts
      have hrest := length_lt_of_findHeader? hfound
      have hafter := length_lt_of_splitClosing? hsplit
      have hplace : 0 + (text.length + 1 - after.length) =
          0 + (text.length - after.length) + 1 := by omega
      simp only [hplace, typeBlocksFrom_add _ _ 1, List.map_cons, TypeBlock.shift]

theorem blockFields_feed (text : List Char) : blockFields ('\n' :: text) = blockFields text := by
  simp [blockFields, typeBlocks_feed, List.flatMap_map]

end FieldAccess.Schema
