import FieldAccess.Proofs.WrittenTypes

/-!
# Types that are not read

The types of a document that are not read are the names behind the word `type` at places where none
of the type blocks begins. Names are looked for piece by piece as long as no word reaches from one
piece into the next, and a type that is read takes away its own name and nothing else.

## Main definitions

* `EndsWords` – a text that continues no word, and no blanks in front of a word.
* `keywordNames` – the names that follow the word `type` in a text.
* `otherNames` – all of these names but for one.
* `unread` – the types of a cleaned document that are not read.

## Main statements

* `keywordsFrom_append` – names are looked for piece by piece.
* `unread_of_findHeader?` – the names of a text that begins with a type.
* `exists_unread_append` – the types of a document that are not read are found type by type.
-/

namespace FieldAccess.Schema

open Text

/-- A text that continues no word: behind its first blanks there is no word. -/
def EndsWords (rest : List Char) : Prop := ∀ c ∈ (trimStart rest).head?, isWord c = false

namespace EndsWords

variable {text rest : List Char}

theorem cons {c : Char} (hblank : isBlank c = false) (hword : isWord c = false)
    (rest : List Char) : EndsWords (c :: rest) := by
  rw [EndsWords, trimStart_cons_of_not_blank hblank]
  rintro _ ⟨⟩
  exact hword

theorem blanks_append {blanks : List Char} (hblanks : ∀ c ∈ blanks, isBlank c = true)
    (h : EndsWords rest) : EndsWords (blanks ++ rest) := by
  rwa [EndsWords, trimStart_append_of_blank hblanks]

theorem head (h : EndsWords rest) : ∀ c ∈ rest.head?, isWord c = false := by
  cases rest with
  | nil =>
    intro c hc
    cases hc
  | cons c rest =>
    rintro _ ⟨⟩
    by_cases hc : isBlank c = true
    · exact isWord_of_isBlank hc
    · rw [EndsWords, trimStart_cons_of_not_blank (by simpa using hc)] at h
      exact h c rfl

/-- A word is as long in front of a text that continues no word. -/
theorem word?_append (h : ∀ c ∈ rest.head?, isWord c = false) (text : List Char) :
    word? (text ++ rest) = (word? text).map fun (name, behind) => (name, behind ++ rest) := by
  have hstop : rest.takeWhile isWord = [] ∧ rest.dropWhile isWord = rest := by
    cases rest with
    | nil => exact ⟨rfl, rfl⟩
    | cons c rest => simp [h c rfl]
  have htake : (text ++ rest).takeWhile isWord = text.takeWhile isWord := by
    rw [List.takeWhile_append, hstop.1]
    split
    · rename_i hall
      rw [List.append_nil, (List.takeWhile_prefix _).eq_of_length hall]
    · rfl
  have hdrop : (text ++ rest).dropWhile isWord = text.dropWhile isWord ++ rest := by
    rw [List.dropWhile_append, hstop.2]
    split
    · rename_i hnil
      rw [List.isEmpty_iff.1 hnil]
      rfl
    · rfl
  rw [word?, word?, htake, hdrop]
  cases text.takeWhile isWord <;> rfl

/-- Blanks and a word behind them are found in front of a text that continues no word. -/
theorem afterBlanks?_word?_append (h : EndsWords rest) (text : List Char) :
    (afterBlanks? (text ++ rest)).bind word? =
      ((afterBlanks? text).bind word?).map fun (name, behind) => (name, behind ++ rest) := by
  have hnone : ∀ {blanks : List Char}, (∀ c ∈ blanks, isBlank c = true) →
      word? (trimStart (blanks ++ rest)) = none := by
    intro blanks hblanks
    rw [trimStart_append_of_blank hblanks]
    have hword := word?_append h []
    rwa [List.nil_append] at hword
  cases text with
  | nil =>
    cases rest with
    | nil => rfl
    | cons c rest =>
      rw [List.nil_append, afterBlanks?]
      split
      · rename_i hc
        have hrest := hnone (List.forall_mem_nil _)
        rw [List.nil_append, trimStart, List.dropWhile_cons_of_pos hc] at hrest
        rw [Option.bind_some]
        exact hrest
      · rfl
  | cons c text =>
    rw [List.cons_append, afterBlanks?, afterBlanks?]
    split
    · rw [Option.bind_some, Option.bind_some]
      by_cases hblank : trimStart text = []
      · rw [hnone (trimStart_eq_nil_iff.1 hblank), hblank]
        rfl
      · rw [trimStart_append hblank, word?_append h.head]
    · rfl

theorem keyword?_append (h : EndsWords rest) (text : List Char) :
    keyword? (text ++ rest) = (keyword? text).map fun (name, behind) => (name, behind ++ rest) := by
  have htype : afterPrefix? ['t', 'y', 'p', 'e'] (text ++ rest) =
      (afterPrefix? ['t', 'y', 'p', 'e'] text).map (· ++ rest) := by
    cases rest with
    | nil => simp
    | cons c rest =>
      refine afterPrefix?_append_cons ?_ text
      have hc := h.head c rfl
      intro hmem
      simp only [List.mem_cons, List.not_mem_nil, or_false] at hmem
      rcases hmem with rfl | rfl | rfl | rfl <;> revert hc <;> decide
  rw [keyword?, keyword?, htype]
  cases afterPrefix? ['t', 'y', 'p', 'e'] text with
  | none => rfl
  | some behind => exact h.afterBlanks?_word?_append behind

theorem keyword?_eq_none (h : EndsWords rest) : keyword? rest = none := h.keyword?_append []

end EndsWords

section Keywords

variable {position busy : Nat} {inWord : Bool} {text rest : List Char}

theorem keywordsFrom_add (position distance busy : Nat) (inWord : Bool) (text : List Char) :
    keywordsFrom (position + distance) busy inWord text =
      (keywordsFrom position busy inWord text).map
        fun (place, name) => (place + distance, name) := by
  induction text generalizing position busy inWord with
  | nil => rfl
  | cons c text ih =>
    simp only [keywordsFrom, Nat.add_right_comm position distance 1, ih]
    split
    · split <;> rfl
    · rfl

/-- The places of names are those of characters. -/
theorem mem_keywordsFrom {place : Nat} {name : List Char}
    (h : (place, name) ∈ keywordsFrom position busy inWord text) :
    position ≤ place ∧ place < position + text.length := by
  induction text generalizing position busy inWord with
  | nil => cases h
  | cons c text ih =>
    rw [List.length_cons]
    have hlater : ∀ {busy inWord}, (place, name) ∈ keywordsFrom (position + 1) busy inWord text →
        position ≤ place ∧ place < position + (text.length + 1) := by
      intro busy inWord h
      have := ih h
      omega
    rw [keywordsFrom] at h
    split at h
    · split at h
      · rcases List.mem_cons.1 h with heq | h
        · obtain ⟨rfl, -⟩ := Prod.mk.inj heq
          omega
        · exact hlater h
      · exact hlater h
    · exact hlater h

/-- Where no word goes on it does not matter what stands in front. -/
theorem keywordsFrom_of_endsWords (h : EndsWords rest) (position : Nat) (inWord : Bool) :
    keywordsFrom position 0 inWord rest = keywordsFrom position 0 false rest := by
  cases rest with
  | nil => rfl
  | cons c rest =>
    simp only [keywordsFrom, h.keyword?_eq_none]
    cases inWord <;> rfl

/-- **Names piece by piece.** Names that follow the word `type` are looked for in a text and then in
what follows it, if no word goes on there. -/
theorem keywordsFrom_append (h : EndsWords rest) (hbusy : busy ≤ text.length) :
    keywordsFrom position busy inWord (text ++ rest) =
      keywordsFrom position busy inWord text ++
        keywordsFrom (position + text.length) 0 false rest := by
  induction text generalizing position busy inWord with
  | nil =>
    obtain rfl := Nat.le_zero.1 hbusy
    exact keywordsFrom_of_endsWords h position inWord
  | cons c text ih =>
    have hplace : position + (c :: text).length = position + 1 + text.length := by
      rw [List.length_cons]
      omega
    rw [List.length_cons] at hbusy
    rw [hplace, List.cons_append, keywordsFrom, keywordsFrom, ← List.cons_append,
      h.keyword?_append]
    split
    · cases hkeyword : keyword? (c :: text) with
      | none => exact ih (Nat.zero_le _)
      | some found =>
        -- The characters of a name stay busy, and all of them stand in front.
        obtain ⟨name, behind⟩ := found
        have hlength : (text ++ rest).length - (behind ++ rest).length =
            text.length - behind.length := by
          rw [List.length_append, List.length_append]
          omega
        simp only [Option.map_some, hlength]
        rw [ih (Nat.sub_le _ _), List.cons_append]
    · exact ih (by omega)

/-- The names that follow the word `type` in a text. -/
def keywordNames (text : List Char) : List (List Char) :=
  (keywordsFrom 0 0 false text).map fun (_, name) => name

theorem map_keywordsFrom (position : Nat) (text : List Char) :
    (keywordsFrom position 0 false text).map (fun (_, name) => name) = keywordNames text := by
  rw [keywordNames, ← Nat.zero_add position, keywordsFrom_add, List.map_map]
  rfl

/-- The names that follow the word `type` in a text, but for the one at a place. -/
def otherNames (start : Nat) (text : List Char) : List (List Char) :=
  ((keywordsFrom 0 0 false text).filter fun (place, _) => start != place).map fun (_, name) => name

theorem keywordNames_append (h : EndsWords rest) (text : List Char) :
    keywordNames (text ++ rest) = keywordNames text ++ keywordNames rest := by
  rw [keywordNames, keywordsFrom_append h (Nat.zero_le _), List.map_append, map_keywordsFrom,
    map_keywordsFrom]

theorem keywordNames_cons {c : Char} (hc : isWord c = false) (rest : List Char) :
    keywordNames (c :: rest) = keywordNames rest := by
  have hnone : keyword? (c :: rest) = none := by
    rw [keyword?, afterPrefix?_cons_of_ne]
    rintro rfl
    revert hc
    decide
  rw [keywordNames, keywordsFrom, if_pos ⟨rfl, rfl⟩]
  simp only [hnone, hc, map_keywordsFrom]

theorem keywordNames_blanks_append {blanks : List Char} (hblanks : ∀ c ∈ blanks, isBlank c = true)
    (rest : List Char) : keywordNames (blanks ++ rest) = keywordNames rest := by
  induction blanks with
  | nil => rfl
  | cons c blanks ih =>
    rw [List.cons_append, keywordNames_cons (isWord_of_isBlank (hblanks c (by simp))),
      ih fun d hd => hblanks d (by simp [hd])]

/-- Without blanks no name follows a word. -/
theorem keywordNames_of_solid (h : ∀ c ∈ text, isBlank c = false) : keywordNames text = [] := by
  have hnone : ∀ {text}, (∀ c ∈ text, isBlank c = false) → keyword? text = none := by
    intro text h
    rw [keyword?]
    cases hbehind : afterPrefix? ['t', 'y', 'p', 'e'] text with
    | none => rfl
    | some behind =>
      cases behind with
      | nil => rfl
      | cons c behind =>
        have hc : isBlank c = false := h c (by simp [afterPrefix?_eq_some_iff.1 hbehind])
        simp [afterBlanks?, hc]
  have hempty : ∀ position busy inWord, keywordsFrom position busy inWord text = [] := by
    induction text with
    | nil => exact fun _ _ _ => rfl
    | cons c text ih =>
      have hrest := ih fun d hd => h d (by simp [hd])
      intro position busy inWord
      simp [keywordsFrom, hnone h, hrest]
  rw [keywordNames, hempty]
  rfl

/-- Behind the place no name is left out. -/
theorem otherNames_append (h : EndsWords rest) {start : Nat} (hstart : start < text.length) :
    otherNames start (text ++ rest) = otherNames start text ++ keywordNames rest := by
  have hkept : ∀ entry ∈ keywordsFrom (0 + text.length) 0 false rest,
      (start != entry.1) = true := by
    rintro ⟨place, name⟩ hentry
    have hplace := mem_keywordsFrom hentry
    rw [bne_iff_ne]
    dsimp only
    omega
  rw [otherNames, keywordsFrom_append h (Nat.zero_le _), List.filter_append, List.map_append,
    List.filter_eq_self.2 hkept, map_keywordsFrom, otherNames]

end Keywords

/-- The types of a cleaned document that are not read. -/
def unread (cleaned : List Char) : List (List Char) := skippedTypes cleaned (typeBlocks cleaned)

theorem unreadTypes_eq (document : String) :
    unreadTypes document = (unread (clean document.toList)).map String.ofList := rfl

section Unread

variable {front after text name rest body : List Char} {start : Nat}

/-- Without any blocks all names are those of types that are not read. -/
theorem unread_of_typeBlocks_eq_nil (h : typeBlocks text = []) :
    unread text = keywordNames text := by
  simp [unread, skippedTypes, h, keywordNames]

/-- The search for blocks ends at a header whose body is not closed. -/
theorem typeBlocks_eq_nil (hheader : findHeader? 0 false text = some (start, name, rest))
    (hsplit : splitClosing? '\x7b' '\x7d' rest = none) : typeBlocks text = [] := by
  rw [typeBlocks]
  cases text.length with
  | zero => rfl
  | succ fuel => simp only [typeBlocksFrom, hheader, hsplit]

/-- A header stands in front of what is behind it. -/
theorem start_lt_of_findHeader? {position : Nat} {inWord : Bool}
    (h : findHeader? position inWord text = some (start, name, rest)) :
    start + rest.length < position + text.length := by
  obtain ⟨distance, rfl, hheader⟩ := header?_of_findHeader? h
  have hlength := (suffix_of_header? hheader).length_le
  rw [List.length_cons, List.length_drop] at hlength
  omega

/-- **A type and what follows it.** A type takes away its own name, which stands where its header
begins. What follows its closing brace is read by itself. -/
theorem unread_of_findHeader?
    (hheader : findHeader? 0 false (front ++ '\x7d' :: after) = some (start, name, rest))
    (hsplit : splitClosing? '\x7b' '\x7d' rest = some (body, after)) :
    unread (front ++ '\x7d' :: after) = otherNames start front ++ unread after := by
  have hbrace : EndsWords ('\x7d' :: after) := .cons (by decide) (by decide) after
  have hstart := start_lt_of_findHeader? hheader
  have hafter := length_lt_of_splitClosing? hsplit
  rw [List.length_append, List.length_cons] at hstart
  have hblocks := typeBlocks_of_findHeader? hheader hsplit
  have hlength : (front ++ '\x7d' :: after).length - after.length = front.length + 1 := by
    rw [List.length_append, List.length_cons]
    omega
  have hbehind : keywordsFrom (0 + front.length) 0 false ('\x7d' :: after) =
      (keywordsFrom 0 0 false after).map
        fun (place, name) => (place + (front.length + 1), name) := by
    have hword : isWord '\x7d' = false := by decide
    rw [← keywordsFrom_add, keywordsFrom, if_pos ⟨rfl, rfl⟩]
    simp only [hbrace.keyword?_eq_none, hword, Nat.add_assoc]
  rw [hlength] at hblocks
  rw [unread, skippedTypes, otherNames, hblocks, keywordsFrom_append hbrace (Nat.zero_le _),
    hbehind, List.filter_append, List.map_append]
  congr 1
  · -- The blocks behind the type stand behind all of these places.
    refine congrArg _ (List.filter_congr ?_)
    rintro ⟨place, name⟩ hplace
    have hlt := mem_keywordsFrom hplace
    have hlater (block : TypeBlock) : (block.position + (front.length + 1) == place) = false :=
      beq_false_of_ne (by omega)
    simp [List.any_map, Function.comp_def, TypeBlock.shift, hlater, bne]
  · rw [List.filter_map, List.map_map, unread, skippedTypes]
    refine congrArg _ (List.filter_congr ?_)
    rintro ⟨place, name⟩ -
    have hearlier : (start == place + (front.length + 1)) = false := beq_false_of_ne (by omega)
    have hsame (block : TypeBlock) :
        (block.position + (front.length + 1) == place + (front.length + 1)) =
          (block.position == place) := by
      rw [Bool.eq_iff_iff, beq_iff_eq, beq_iff_eq]
      omega
    simp [List.any_map, Function.comp_def, TypeBlock.shift, hearlier, hsame]

/-- The types that are not read are found type by type. -/
theorem exists_unread_append (types : List WrittenType) :
    ∃ names, ∀ rest, unread (types.flatMap WrittenType.text ++ rest) = names ++ unread rest := by
  induction types with
  | nil => exact ⟨[], fun _ => rfl⟩
  | cons type types ih =>
    obtain ⟨names, hnames⟩ := ih
    obtain ⟨start, hheader⟩ := type.isHeader
    refine ⟨otherNames start (type.header ++ type.body) ++ names, fun rest => ?_⟩
    have htext : (type :: types).flatMap WrittenType.text ++ rest =
        type.header ++ type.body ++ '\x7d' :: (types.flatMap WrittenType.text ++ rest) := by
      simp [WrittenType.text]
    have hfound := hheader (type.body ++ '\x7d' :: (types.flatMap WrittenType.text ++ rest))
    rw [← List.append_assoc] at hfound
    rw [htext, unread_of_findHeader? hfound (type.balanced.splitClosing?_append _), hnames,
      List.append_assoc]

end Unread

end FieldAccess.Schema
