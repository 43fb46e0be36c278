import FieldAccess.Proofs.LiteralScalars
import FieldAccess.Proofs.PlainScalars
import FieldAccess.Proofs.WrittenNodes

/-!
# Scalars as they are written

The way in which a text is written is one that it can be read back from. Whatever the way, only
characters are written that may stand in a text, and a key on one line with its value is short
enough to be found.

## Main definitions

* `Fits` – the texts that can be written in a way.

## Main statements

* `fits_styleOf`, `fits_toDigits` – texts and numbers are written in ways that fit.
* `isPrintable_scalarLines`, `isPrintable_scalarText` – what is written of them.
* `length_scalarText_lt` – the length of a key on one line.
-/

namespace FieldAccess.Yaml

/-- The texts that can be written in a way. -/
inductive Fits : ScalarStyle → List Char → Prop
  | plain {text : List Char} (h : PlainText text) : Fits .plain text
  | singleQuoted {text : List Char} (h : Separated text) : Fits .singleQuoted text
  | doubleQuoted {text : List Char} : Fits .doubleQuoted text
  | literal {text : List Char} (hfeed : '\n' ∈ text)
      (hprintable : ∀ d ∈ text, isPrintable d = true) : Fits .literal text

theorem isPrintable_of_any {text : List Char} (h : text.any isSpecial = false) :
    ∀ d ∈ text, isPrintable d = true := fun d hd => by
  simpa [isSpecial] using List.any_eq_false.1 h d hd

/-- Texts are written in a way that fits. -/
theorem fits_styleOf (text : String) : Fits (styleOf text) text.toList := by
  simp only [styleOf]
  split
  · rename_i hfeed
    split
    · rename_i hblock
      simp only [isBlock, Bool.not_eq_true', Bool.or_eq_false_iff] at hblock
      exact .literal (by simpa using hfeed) (isPrintable_of_any hblock.1.2)
    · exact .doubleQuoted
  · rename_i hfeed
    have hfeed : '\n' ∉ text.toList := by simpa using hfeed
    split
    · rename_i hplain
      obtain ⟨hspelled, hplain⟩ : isSpelled text = false ∧ isPlain text.toList = true := by
        simpa using hplain
      refine .plain ⟨fun hnil => ?_, hplain⟩
      have hempty : text = "" := by rw [← String.ofList_toList (s := text), hnil]
      subst hempty
      cases hspelled
    · split
      · exact .doubleQuoted
      · rename_i hescapes
        simp only [needsEscapes, Bool.not_eq_true, Bool.or_eq_false_iff] at hescapes
        obtain ⟨⟨hspecial, hbehind⟩, hbefore⟩ := hescapes
        refine .singleQuoted
          ⟨fun d hd => ⟨isPrintable_of_any hspecial d hd, ?_⟩, hbehind, hbefore⟩
        rintro rfl
        exact hfeed hd

section Digits

variable {text : List Char}

theorem holdsColon_of_notMem (h : ':' ∉ text) : holdsColon text = false := by
  induction text with
  | nil => rfl
  | cons d rest ih =>
    rw [List.mem_cons, not_or] at h
    rw [holdsColon]
    · exact ih h.2
    · exact fun hd => h.1 hd.symm

theorem hasNeighbours_of_first {first second : Char → Bool} (h : ∀ d ∈ text, first d = false) :
    hasNeighbours first second text = false := by
  induction text with
  | nil => rfl
  | cons c rest ih =>
    cases rest with
    | nil => rfl
    | cons d rest =>
      rw [hasNeighbours, h c List.mem_cons_self, ih fun e he => h e (List.mem_cons_of_mem _ he)]
      rfl

/-- A character that is no gap, needs not be escaped, and has no meaning of its own. -/
def isOrdinary (d : Char) : Bool :=
  !(isGap d || isSpecial d || d = '.' || Cursor.isFlowSign d ||
    "#&*!|>'\"%@".toList.contains d || d.toNat = 0x60 || d = '?' || d = ':' || d = '-')

theorem isOrdinary_of_isDigit {d : Char} (h : Text.isDigit d = true) : isOrdinary d = true := by
  have hall : ∀ n : Fin 128,
      Text.isDigit (Char.ofNat n) = true → isOrdinary (Char.ofNat n) = true := by
    decide +kernel
  have hcode := Instant.toNat_of_isDigit h
  exact Text.forall_ascii (P := fun d => Text.isDigit d = true → isOrdinary d = true) hall
    (by omega) h

theorem startsWithSign_of_isOrdinary {d : Char} (h : isOrdinary d = true) (rest : List Char) :
    startsWithSign (d :: rest) = false := by
  simp only [isOrdinary, Bool.not_eq_true', Bool.or_eq_false_iff, decide_eq_false_iff_not] at h
  unfold startsWithSign
  split
  · rename_i heq
    cases heq
    exact absurd rfl h.2
  · rename_i heq
    cases heq
    exact absurd rfl h.1.1.1.1.1.1.2
  · rename_i heq
    cases heq
    simp only [h, decide_false, Bool.false_and, Bool.or_false]
  · rfl

/-- Ordinary characters can be written without quotes. -/
theorem plainText_of_isOrdinary (hne : text ≠ []) (htext : ∀ d ∈ text, isOrdinary d = true) :
    PlainText text := by
  have hordinary : ∀ d ∈ text, isGap d = false ∧ isSpecial d = false ∧ d ≠ ':' := by
    intro d hd
    have hd := htext d hd
    simp only [isOrdinary, Bool.not_eq_true', Bool.or_eq_false_iff, decide_eq_false_iff_not] at hd
    exact ⟨hd.1.1.1.1.1.1.1.1, hd.1.1.1.1.1.1.1.2, hd.1.2⟩
  obtain ⟨c, rest, rfl⟩ := List.exists_cons_of_ne_nil hne
  have hspace : ∀ d ∈ c :: rest, d ≠ ' ' := by
    intro d hd hspace
    have hgap := (hordinary d hd).1
    rw [hspace] at hgap
    cases hgap
  have hline : ∀ d ∈ c :: rest, isBreak d = false := fun d hd => by
    have hgap := (hordinary d hd).1
    simp only [isGap, Bool.or_eq_false_iff] at hgap
    exact hgap.2
  have hspecial : (c :: rest).any isSpecial = false := by
    simpa using fun d hd => (hordinary d hd).2.1
  have hescapes : needsEscapes (c :: rest) = false := by
    rw [needsEscapes, hspecial, hasNeighbours_of_first hline,
      hasNeighbours_of_first fun d hd => by simpa using hspace d hd]
    rfl
  have hlast : (c :: rest).getLast? ≠ some ' ' := fun hlast =>
    hspace ' ' (List.mem_of_getLast? hlast) rfl
  have hcolon : ':' ∉ rest := fun hmem => (hordinary ':' (List.mem_cons_of_mem _ hmem)).2.2 rfl
  have hbreak : (c :: rest).any isBreak = false := by simpa using hline
  refine ⟨hne, ?_⟩
  simp [isPlain, hbreak, hspace c List.mem_cons_self, hlast, hescapes, holdsColon_of_notMem hcolon,
    startsWithSign_of_isOrdinary (htext c List.mem_cons_self),
    hasNeighbours_of_first fun d hd => (hordinary d hd).1]

end Digits

/-- Numbers are written in a way that fits. -/
theorem fits_toDigits (n : Nat) : Fits .plain (Nat.toDigits 10 n) :=
  .plain (plainText_of_isOrdinary (writes_toDigits n).ne_nil fun d hd =>
    isOrdinary_of_isDigit ((writes_toDigits n).isDigit d hd))

/-! ### Characters -/

/-- A character that is written as itself may stand in a text. -/
theorem isAllowed_of_isPrintable {d : Char} (h : isPrintable d = true) : isAllowed d = true := by
  have hvalid := d.valid
  simp only [UInt32.isValidChar, Nat.isValidChar] at hvalid
  change d.toNat < _ ∨ _ < d.toNat ∧ d.toNat < _ at hvalid
  simp only [isPrintable, Bool.or_eq_true, Bool.and_eq_true, decide_eq_true_eq] at h
  simp only [isAllowed, Bool.or_eq_true, Bool.and_eq_true, decide_eq_true_eq]
  omega

theorem mem_indented {d : Char} {n : Nat} {fresh : Bool} {text : List Char}
    (h : d ∈ indented n fresh text) : d = ' ' ∨ d ∈ text := by
  induction text generalizing fresh with
  | nil => cases h
  | cons c rest ih =>
    rw [indented] at h
    split at h
    · rcases List.mem_cons.1 h with rfl | h
      · exact .inr List.mem_cons_self
      · exact (ih h).imp_right (List.mem_cons_of_mem _)
    · rcases List.mem_append.1 h with h | h
      · split at h
        · exact .inl (List.eq_of_mem_replicate h)
        · cases h
      · rcases List.mem_cons.1 h with rfl | h
        · exact .inr List.mem_cons_self
        · exact (ih h).imp_right (List.mem_cons_of_mem _)

/-- A character that is written as itself inside a line. -/
def isInline (d : Char) : Bool := isPrintable d && !isBreak d

section Inside

variable {d : Char} {n : Nat} {style : ScalarStyle} {text : List Char}

theorem isPrintable_of_isInline (h : isInline d = true) : isPrintable d = true := by
  rw [isInline, Bool.and_eq_true] at h
  exact h.1

theorem isBreak_of_isInline (h : isInline d = true) : isBreak d = false := by
  rw [isInline, Bool.and_eq_true, Bool.not_eq_true'] at h
  exact h.2

theorem isBreak_of_escapeLetter (hnone : escapeLetter? d = none) : isBreak d = false := by
  cases hbreak : isBreak d with
  | false => rfl
  | true =>
    simp only [isBreak, Bool.or_eq_true, decide_eq_true_eq] at hbreak
    rcases hbreak with (((rfl | rfl) | rfl) | rfl) | rfl <;> exact absurd hnone (by decide)

theorem isInline_hexCode (width : Nat) (h : d ∈ hexCode width n) : isInline d = true := by
  have hdigit : ∀ n < 16, isInline (Nat.digitChar n).toUpper = true := by decide
  have hdigits : ∀ n, ∀ d ∈ (Nat.toDigits 16 n).map Char.toUpper, isInline d = true := by
    intro n
    induction n using Nat.strongRecOn with
    | ind n ih =>
      intro d hd
      rcases Nat.lt_or_ge n 16 with hlt | hge
      · rw [Nat.toDigits_of_lt_base hlt, List.map_singleton, List.mem_singleton] at hd
        exact hd ▸ hdigit n hlt
      · have hless : n / 16 < n := Nat.div_lt_self (by omega) (by decide)
        rw [Nat.toDigits_of_base_le (by decide) hge, List.map_append, List.mem_append] at hd
        rcases hd with hd | hd
        · exact ih _ hless d hd
        · rw [List.map_singleton, List.mem_singleton] at hd
          exact hd ▸ hdigit _ (Nat.mod_lt n (by decide))
  rcases List.mem_append.1 h with h | h
  · rw [List.eq_of_mem_replicate h]
    decide
  · exact hdigits n d h

/-- A character between double quotes is written with few characters inside the line. -/
theorem escaped_inline (d : Char) :
    (∀ e ∈ escaped d, isInline e = true) ∧ (escaped d).length ≤ 6 := by
  have hcode : ∀ (letter : Char) (width : Nat), isInline letter = true → 0 < width → width ≤ 4 →
      d.toNat < 16 ^ width → (∀ e ∈ '\\' :: letter :: hexCode width d.toNat, isInline e = true) ∧
        ('\\' :: letter :: hexCode width d.toNat).length ≤ 6 := by
    intro letter width hletter hpos hwidth hnumber
    refine ⟨fun e he => ?_, ?_⟩
    · rcases List.mem_cons.1 he with rfl | he
      · decide
      rcases List.mem_cons.1 he with rfl | he
      · exact hletter
      · exact isInline_hexCode width he
    · rw [List.length_cons, List.length_cons, length_hexCode hpos hnumber]
      omega
  rw [escaped]
  split
  · rename_i letter hletter
    have hall : ∀ pair ∈ escapes, isInline pair.1 = true := by decide
    have hinline := hall _ (mem_escapes hletter)
    exact ⟨by simpa [show isInline '\\' = true from by decide] using hinline, by simp⟩
  · rename_i hnone
    dsimp only
    split
    · rename_i hprintable
      exact ⟨by simpa [isInline, hprintable] using isBreak_of_escapeLetter hnone, by simp⟩
    rename_i hprintable
    have hsmall : d.toNat < 0x10000 := by
      by_contra hlarge
      refine hprintable ?_
      simp only [isPrintable, Bool.or_eq_true, decide_eq_true_eq]
      exact .inr (by omega)
    split
    · exact hcode 'x' 2 (by decide) (by decide) (by decide) (by omega)
    split
    · exact hcode 'u' 4 (by decide) (by decide) (by decide) (by omega)
    · omega

theorem isInline_doubled (hd : isInline d = true) : ∀ e ∈ doubled d, isInline e = true := by
  rw [doubled]
  split
  · exact List.all_eq_true.1 (by decide)
  · simpa using hd

theorem length_flatMap_le {f : Char → List Char} {k : Nat} (hf : ∀ d, (f d).length ≤ k)
    (text : List Char) : (text.flatMap f).length ≤ k * text.length := by
  induction text with
  | nil => exact Nat.le_refl 0
  | cons d text ih =>
    have hd := hf d
    rw [List.flatMap_cons, List.length_append, List.length_cons, Nat.mul_succ]
    omega

theorem doubleQuoted_inline (text : List Char) : (∀ e ∈ doubleQuoted text, isInline e = true) ∧
    (doubleQuoted text).length ≤ 6 * text.length + 2 := by
  have hlength := length_flatMap_le (fun d => (escaped_inline d).2) text
  refine ⟨fun e he => ?_, ?_⟩
  · rcases (by simpa [doubleQuoted] using he : e = '"' ∨ (∃ d ∈ text, e ∈ escaped d) ∨ e = '"')
      with rfl | ⟨d, -, hd⟩ | rfl
    · decide
    · exact (escaped_inline d).1 e hd
    · decide
  · simp only [doubleQuoted, List.cons_append, List.length_cons, List.length_append,
      List.length_nil]
    omega

/-- What is written of a text without line ends holds none either, and is not much longer. -/
theorem scalarText_inline (h : Fits style text) (hline : ∀ d ∈ text, isBreak d = false) :
    (∀ e ∈ scalarText style text, isInline e = true) ∧
      (scalarText style text).length ≤ 6 * text.length + 2 := by
  cases h with
  | plain h =>
    have hplain := h.isPlain
    simp only [isPlain, Bool.not_eq_true', Bool.or_eq_false_iff, needsEscapes] at hplain
    have hprintable := isPrintable_of_any hplain.1.1.1.2.1.1
    have hlength : text.length ≤ 6 * text.length + 2 := by omega
    exact ⟨fun e he => by simp [isInline, hprintable e he, hline e he], hlength⟩
  | singleQuoted hseparated =>
    have hshort : ∀ d, (doubled d).length ≤ 2 := fun d => by
      rw [doubled]
      split <;> simp
    have hlength := length_flatMap_le hshort text
    rw [scalarText, singleQuoted_eq, singleBody_inline hline]
    refine ⟨fun e he => ?_, ?_⟩
    · rcases (by simpa using he : e = '\'' ∨ (∃ d ∈ text, e ∈ doubled d) ∨ e = '\'')
        with rfl | ⟨d, hd, he⟩ | rfl
      · decide
      · exact isInline_doubled (by simp [isInline, hseparated.printable d hd, hline d hd]) e he
      · decide
    · simp only [List.length_cons, List.length_append, List.length_nil]
      omega
  | doubleQuoted => exact doubleQuoted_inline text
  | literal => exact doubleQuoted_inline text

theorem length_le_utf8ByteSize (text : String) : text.toList.length ≤ text.utf8ByteSize := by
  have hchars : ∀ chars : List Char, chars.length ≤ (String.ofList chars).utf8ByteSize := by
    intro chars
    induction chars with
    | nil => exact Nat.le_refl 0
    | cons c chars ih =>
      have hpos := Char.utf8Size_pos c
      rw [String.ofList_cons, String.utf8ByteSize_append, String.utf8ByteSize_singleton,
        List.length_cons]
      omega
  have h := hchars text.toList
  rwa [String.ofList_toList] at h

theorem isBreak_of_isSimpleKey {key : String} (h : isSimpleKey key = true) :
    ∀ d ∈ key.toList, isBreak d = false := by
  have hboth : key.toList.any isBreak = false ∧ key.utf8ByteSize ≤ 128 := by
    simpa [isSimpleKey] using h
  exact fun d hd => by simpa using List.any_eq_false.1 hboth.1 d hd

/-- A key on one line with its value is short enough to be found. -/
theorem length_scalarText_lt {text : String} (h : Fits style text.toList)
    (hsimple : isSimpleKey text = true) : (scalarText style text.toList).length < 1024 := by
  obtain ⟨-, hbytes⟩ : text.toList.any isBreak = false ∧ text.utf8ByteSize ≤ 128 := by
    simpa [isSimpleKey] using hsimple
  have hshort := length_le_utf8ByteSize text
  have hwritten := (scalarText_inline h (isBreak_of_isSimpleKey hsimple)).2
  omega

theorem isPrintable_blockSigns (text : List Char) :
    ∀ e ∈ blockSigns text, isPrintable e = true := by
  have hchomping : ∀ chomping, ∀ e ∈ chompingSigns chomping, isPrintable e = true := by
    intro chomping
    exact List.all_eq_true.1 (by cases chomping <;> decide)
  intro e he
  rw [blockSigns_eq] at he
  rcases List.mem_append.1 he with he | he
  · split at he
    · rw [List.mem_singleton.1 he]
      decide
    · cases he
  · exact hchomping _ e he

/-- Only characters that may stand in a text are written. -/
theorem isPrintable_scalarLines (h : Fits style text) (indent : Nat) :
    ∀ e ∈ scalarLines indent style text, isPrintable e = true := by
  have hspace : isPrintable ' ' = true := by decide
  have hfeed : isPrintable '\n' = true := by decide
  have hdouble : ∀ e ∈ doubleQuoted text ++ ['\n'], isPrintable e = true := by
    intro e he
    rcases List.mem_append.1 he with he | he
    · exact isPrintable_of_isInline ((doubleQuoted_inline text).1 e he)
    · exact List.mem_singleton.1 he ▸ hfeed
  intro e he
  cases h with
  | plain h =>
    have hplain := h.isPlain
    simp only [isPlain, Bool.not_eq_true', Bool.or_eq_false_iff, needsEscapes] at hplain
    rcases List.mem_append.1 he with he | he
    · exact isPrintable_of_any hplain.1.1.1.2.1.1 e he
    · exact List.mem_singleton.1 he ▸ hfeed
  | singleQuoted hseparated =>
    have hdoubled : ∀ e ∈ text.flatMap doubled, isPrintable e = true := by
      intro e he
      obtain ⟨d, hd, he⟩ := List.mem_flatMap.1 he
      rw [doubled] at he
      split at he
      · rw [(by simpa using he : e = '\'')]
        decide
      · exact List.mem_singleton.1 he ▸ (hseparated.printable d hd).1
    rw [scalarLines, singleQuoted_eq, singleBody] at he
    simp only [List.mem_cons, List.mem_append, List.not_mem_nil, or_false, or_assoc] at he
    rcases he with rfl | he | he | rfl | rfl
    · decide
    · exact (mem_indented he).elim (fun hd => hd ▸ hspace) (hdoubled e)
    · split at he
      · exact List.eq_of_mem_replicate he ▸ hspace
      · cases he
    · decide
    · exact hfeed
  | doubleQuoted => exact hdouble e he
  | literal hmem hprintable =>
    rw [scalarLines] at he
    simp only [List.mem_cons, List.mem_append, or_assoc, List.cons_append] at he
    rcases he with rfl | he | rfl | he | he
    · decide
    · exact isPrintable_blockSigns text e he
    · exact hfeed
    · exact (mem_indented he).elim (fun hd => hd ▸ hspace) (hprintable e)
    · split at he
      · cases he
      · exact List.mem_singleton.1 he ▸ hfeed

end Inside

end FieldAccess.Yaml
