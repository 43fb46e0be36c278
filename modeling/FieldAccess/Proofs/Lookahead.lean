import FieldAccess.Proofs.TypeBlocks

/-!
# Reading in front of any text

Where a reader comes to an end inside of a text, what follows the text does not matter to it. So a
text that is read as the header of a type is one in every document, and the name and the type of a
field do not depend on the directives behind them.

## Main statements

* `header?_append` – a header is read in front of any text.
* `nameAndType?_append_directive` – a name and a type are read in front of any directive.
-/

namespace FieldAccess.Schema

open Text

section Pieces

variable {text rest name behind : List Char} {c : Char}

theorem trimStart_append_of_eq (h : trimStart text = c :: behind) (rest : List Char) :
    trimStart (text ++ rest) = c :: (behind ++ rest) := by
  rw [trimStart_append (by rw [h]; nofun), h, List.cons_append]

theorem mem_of_trimStart (h : trimStart text = c :: behind) : c ∈ text := by
  have hmem : c ∈ trimStart text := h ▸ List.mem_cons_self
  exact (List.dropWhile_suffix isBlank).subset hmem

/-- A character that is not dropped is kept, with all that follows it. -/
theorem mem_dropWhile {p : Char → Bool} (hmem : c ∈ text) (hc : p c = false) :
    c ∈ text.dropWhile p := by
  rw [← List.takeWhile_append_dropWhile (p := p) (l := text), List.mem_append] at hmem
  refine hmem.resolve_left fun htake => ?_
  rw [List.mem_takeWhile_imp htake] at hc
  cases hc

/-- A word at the start of a text is not looked for behind a character that is not in it. -/
theorem afterPrefix?_append_of_mem {word : List Char} (hmem : c ∈ text) (hc : c ∉ word)
    (rest : List Char) :
    afterPrefix? word (text ++ rest) = (afterPrefix? word text).map (· ++ rest) := by
  induction word generalizing text with
  | nil => rfl
  | cons p word ih =>
    cases text with
    | nil => cases hmem
    | cons d text =>
      rw [List.mem_cons, not_or] at hc
      by_cases hp : p = d
      · have hmem' : c ∈ text := (List.mem_cons.1 hmem).resolve_left fun h => hc.1 (h.trans hp.symm)
        rw [List.cons_append, afterPrefix?, afterPrefix?, if_pos hp, if_pos hp, ih hmem' hc.2]
      · rw [List.cons_append, afterPrefix?_cons_of_ne hp, afterPrefix?_cons_of_ne hp]
        rfl

theorem mem_of_afterBlanks? (h : afterBlanks? text = some behind) (hmem : c ∈ text)
    (hc : isBlank c = false) : c ∈ behind := by
  cases text with
  | nil => cases h
  | cons d text =>
    simp only [afterBlanks?] at h
    split at h
    · rename_i hd
      obtain rfl := Option.some.inj h
      refine mem_dropWhile ((List.mem_cons.1 hmem).resolve_left ?_) hc
      rintro rfl
      rw [hd] at hc
      cases hc
    · cases h

theorem afterBlanks?_append (hmem : c ∈ text) (hc : isBlank c = false) (rest : List Char) :
    afterBlanks? (text ++ rest) = (afterBlanks? text).map (· ++ rest) := by
  cases text with
  | nil => cases hmem
  | cons d text =>
    simp only [List.cons_append, afterBlanks?]
    split
    · rename_i hd
      have hmem' : c ∈ text := by
        refine (List.mem_cons.1 hmem).resolve_left ?_
        rintro rfl
        rw [hd] at hc
        cases hc
      rw [trimStart_append (List.ne_nil_of_mem (mem_dropWhile hmem' hc))]
      rfl
    · rfl

theorem word?_append_of_ne_nil (h : word? text = some (name, behind)) (hne : behind ≠ [])
    (rest : List Char) : word? (text ++ rest) = some (name, behind ++ rest) := by
  unfold word? at h ⊢
  split at h
  · cases h
  · rename_i hname
    obtain ⟨rfl, rfl⟩ := Prod.mk.inj (Option.some.inj h)
    rw [takeWhile_append_of_ne_nil hne, dropWhile_append_of_ne_nil hne]
    split
    · rename_i hnil
      exact absurd hnil hname
    · rfl

/-- Arguments are read in front of any text, unless they are not closed. -/
theorem afterArguments_append (h : trimStart (afterArguments text) = c :: behind) (hc : c ≠ '(')
    (rest : List Char) : afterArguments (text ++ rest) = afterArguments text ++ rest := by
  unfold afterArguments at h ⊢
  split at h
  · rename_i arguments hopening
    rw [trimStart_append_of_eq hopening]
    split at h
    · rename_i closing after hclosing
      have hdrop : (arguments ++ rest).dropWhile (· != ')') = closing :: (after ++ rest) := by
        rw [dropWhile_append_of_ne_nil (by rw [hclosing]; nofun), hclosing, List.cons_append]
      simp only [hdrop]
    · -- Arguments that are not closed are not read at all.
      rw [hopening] at h
      exact absurd (List.cons.inj h).1.symm hc
  · rename_i hopening
    rw [trimStart_append_of_eq h]
    split
    · rename_i heq
      exact absurd (List.cons.inj heq).1 hc
    · rfl

end Pieces

section Headers

variable {text name behind : List Char}

theorem afterInterfaces_append (hbrace : '\x7b' ∈ text) (rest : List Char) :
    afterInterfaces (text ++ rest) = afterInterfaces text ++ rest := by
  have hword : (afterBlanks? (text ++ rest)).bind (afterPrefix? "implements".toList) =
      ((afterBlanks? text).bind (afterPrefix? "implements".toList)).map (· ++ rest) := by
    rw [afterBlanks?_append hbrace (by decide)]
    cases hafter : afterBlanks? text with
    | none => rfl
    | some behind =>
      exact afterPrefix?_append_of_mem (mem_of_afterBlanks? hafter hbrace (by decide)) (by decide)
        rest
  unfold afterInterfaces
  rw [hword]
  cases hfound : (afterBlanks? text).bind (afterPrefix? "implements".toList) with
  | none => rfl
  | some behind =>
    have hbehind : '\x7b' ∈ behind := by
      obtain ⟨blank, hblank, hrest⟩ := Option.bind_eq_some_iff.1 hfound
      have hmem := mem_of_afterBlanks? hblank hbrace (by decide)
      rw [afterPrefix?_eq_some_iff.1 hrest, List.mem_append] at hmem
      exact hmem.resolve_left (by decide)
    simp only [Option.map_some, afterBlanks?_append hbehind (by decide : isBlank '\x7b' = false)]
    cases afterBlanks? behind with
    | none => rfl
    | some _ =>
      exact dropWhile_append_of_ne_nil (List.ne_nil_of_mem (mem_dropWhile hbehind (by decide))) rest

theorem afterDirectives_of_ne {c : Char} (h : trimStart text = c :: behind) (hc : c ≠ '@')
    (fuel : Nat) : afterDirectives fuel text = text := by
  have hnone : afterDirective? text = none := by
    unfold afterDirective?
    rw [h]
    split
    · rename_i heq
      exact absurd (List.cons.inj heq).1 hc
    · rfl
  cases fuel with
  | zero => rfl
  | succ fuel => rw [afterDirectives, hnone]

/-- A directive is read in front of any text if a brace follows it and others. -/
theorem afterDirective?_append {fuel : Nat} {next : List Char}
    (hdirective : afterDirective? text = some next)
    (h : trimStart (afterDirectives fuel next) = '\x7b' :: behind) (rest : List Char) :
    afterDirective? (text ++ rest) = some (next ++ rest) := by
  unfold afterDirective? at hdirective ⊢
  split at hdirective
  · rename_i marked hmarked
    obtain ⟨⟨name, after⟩, hword, rfl⟩ := Option.map_eq_some_iff.1 hdirective
    have hbrace : '\x7b' ∈ afterArguments after :=
      (afterDirectives_suffix fuel _).subset (mem_of_trimStart h)
    have hafter : after ≠ [] := List.ne_nil_of_mem ((afterArguments_suffix after).subset hbrace)
    -- Arguments that are not closed would stand in front of the brace.
    obtain ⟨c, more, hmore⟩ : ∃ c more, trimStart (afterArguments after) = c :: more :=
      List.exists_cons_of_ne_nil (List.ne_nil_of_mem (mem_dropWhile hbrace (by decide)))
    have hc : c ≠ '(' := by
      rintro rfl
      rw [afterDirectives_of_ne hmore (by decide), hmore] at h
      cases (List.cons.inj h).1
    rw [trimStart_append_of_eq hmarked]
    simp only [word?_append_of_ne_nil hword hafter, Option.map_some,
      afterArguments_append hmore hc]
  · cases hdirective

/-- No directive begins at a brace. -/
theorem trimStart_afterDirectives (h : trimStart text = '\x7b' :: behind) (fuel : Nat)
    (rest : List Char) :
    trimStart (afterDirectives fuel (text ++ rest)) = '\x7b' :: (behind ++ rest) := by
  have happend := trimStart_append_of_eq h rest
  rw [afterDirectives_of_ne happend (by decide), happend]

/-- Directives are read in front of any text if a brace follows them. More of them may be looked for
behind the brace. -/
theorem afterDirectives_append {fuel fuel' : Nat} (hfuel : fuel ≤ fuel')
    (h : trimStart (afterDirectives fuel text) = '\x7b' :: behind) (rest : List Char) :
    trimStart (afterDirectives fuel' (text ++ rest)) = '\x7b' :: (behind ++ rest) := by
  induction fuel generalizing text fuel' with
  | zero => exact trimStart_afterDirectives h fuel' rest
  | succ fuel ih =>
    rw [afterDirectives] at h
    cases hdirective : afterDirective? text with
    | none =>
      rw [hdirective] at h
      exact trimStart_afterDirectives h fuel' rest
    | some next =>
      rw [hdirective] at h
      obtain ⟨fuel', rfl⟩ := Nat.exists_eq_add_of_le' (Nat.one_le_of_lt hfuel)
      rw [afterDirectives, afterDirective?_append hdirective h]
      exact ih (Nat.le_of_succ_le_succ hfuel) h

theorem keyword?_append (h : keyword? text = some (name, behind)) (hbrace : '\x7b' ∈ behind)
    (rest : List Char) : keyword? (text ++ rest) = some (name, behind ++ rest) := by
  unfold keyword? at h ⊢
  split at h
  · rename_i after hafter
    obtain rfl := afterPrefix?_eq_some_iff.1 hafter
    obtain ⟨blank, hblank, hword⟩ := Option.bind_eq_some_iff.1 h
    have hmem : '\x7b' ∈ after :=
      (suffix_of_afterBlanks? hblank).subset ((suffix_of_word? hword).subset hbrace)
    rw [List.append_assoc, afterPrefix?_append]
    simp only [afterBlanks?_append hmem (by decide : isBlank '\x7b' = false), hblank,
      Option.map_some, Option.bind_some]
    exact word?_append_of_ne_nil hword (List.ne_nil_of_mem hbrace) rest
  · cases h

/-- **Headers.** A header is read in front of any text. -/
theorem header?_append (h : header? text = some (name, behind)) (rest : List Char) :
    header? (text ++ rest) = some (name, behind ++ rest) := by
  unfold header? at h ⊢
  split at h
  · rename_i name' after hkeyword
    dsimp only at h
    split at h
    · rename_i behind' hopening
      obtain ⟨rfl, rfl⟩ := Prod.mk.inj (Option.some.inj h)
      have hbrace : '\x7b' ∈ after :=
        (afterInterfaces_suffix after).subset
          ((afterDirectives_suffix _ _).subset (mem_of_trimStart hopening))
      rw [keyword?_append hkeyword hbrace]
      simp only [afterInterfaces_append hbrace]
      rw [afterDirectives_append (by simp) hopening]
      rfl
    · cases h
  · cases h

end Headers

section Fields

variable {text name fieldType : List Char}

/-- **Field signatures.** The name and the type of a field are read in front of any directive. -/
theorem nameAndType?_append_directive (h : nameAndType? text = some (name, fieldType))
    (hsign : '@' ∉ text) (rest : List Char) :
    nameAndType? (text ++ ' ' :: '@' :: rest) = some (name, fieldType) := by
  unfold nameAndType? at h ⊢
  split at h
  · cases h
  · rename_i name' after hword
    split at h
    · rename_i typed hcolon
      have htyped : typed <:+ text :=
        (suffix_of_trimStart hcolon).trans ((afterArguments_suffix after).trans
          (suffix_of_word? hword))
      have hafter : after ≠ [] := by
        rintro rfl
        cases hcolon
      have hplain : ∀ c ∈ typed, (c != '@') = true := by
        intro c hc
        rw [bne_iff_ne]
        rintro rfl
        exact hsign (htyped.subset hc)
      have htake : (typed ++ ' ' :: '@' :: rest).takeWhile (· != '@') = typed ++ [' '] :=
        List.takeWhile_append_of_pos hplain
      have htrim : trim (typed ++ [' ']) = trim typed :=
        trim_append_of_blank (List.forall_mem_singleton.2 rfl)
      rw [List.takeWhile_eq_self_iff.2 hplain] at h
      rw [word?_append_of_ne_nil hword hafter]
      simp only [afterArguments_append hcolon (by decide), trimStart_append_of_eq hcolon, htake]
      split at h
      · cases h
      · obtain ⟨rfl, rfl⟩ := Prod.mk.inj (Option.some.inj h)
        split
        · rename_i hnil
          cases (List.append_eq_nil_iff.1 hnil).2
        · rw [htrim]
    · cases h

end Fields

end FieldAccess.Schema
