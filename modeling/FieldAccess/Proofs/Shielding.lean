import FieldAccess.Schema.Cleanup

/-!
# Quoted strings in schema documents

Comments, and the delimiters of blocks and arguments, are looked for outside of quoted strings. A
text in which they stand inside of strings only, and in which every string ends, is passed over by
both searches as a whole.

## Main definitions

* `Shielded` – special characters stand inside of strings, and every string ends.
* `KeepsBlocks` – a text that neither begins nor ends a block string.

## Main statements

* `Shielded.beforeComment?_append` – a shielded text holds no comment sign.
* `Shielded.splitClosingFrom_append` – a shielded text closes no delimiter and opens none.
-/

namespace FieldAccess.Schema

/-- A character that is no delimiter outside of strings is passed over. -/
theorem splitClosingFrom_cons_of_ne {opening closing c : Char} {depth : Nat} {state : QuoteState}
    {rest : List Char} (hopening : ¬(state = .outside ∧ c ≠ '"' ∧ c = opening))
    (hclosing : ¬(state = .outside ∧ c ≠ '"' ∧ c = closing)) :
    splitClosingFrom opening closing depth state (c :: rest) =
      (splitClosingFrom opening closing depth (state.after c) rest).map (prepend c) := by
  conv => lhs; unfold splitClosingFrom
  rw [if_neg hopening, if_neg hclosing]

/-- Every special character of a text that begins in a state stands inside of a string, and every
string ends. -/
def Shielded (special : Char → Bool) : QuoteState → List Char → Prop
  | state, [] => state = .outside
  | state, c :: rest =>
    (state = .outside → special c = false) ∧ Shielded special (state.after c) rest

namespace Shielded

variable {special : Char → Bool} {state : QuoteState} {text rest : List Char}

theorem append (htext : Shielded special state text) (hrest : Shielded special .outside rest) :
    Shielded special state (text ++ rest) := by
  induction text generalizing state with
  | nil =>
    obtain rfl : state = .outside := htext
    exact hrest
  | cons c text ih => exact ⟨htext.1, ih htext.2⟩

/-- A text without strings is shielded if nothing in it is special. -/
theorem plain (h : ∀ c ∈ text, special c = false ∧ c ≠ '"') : Shielded special .outside text := by
  induction text with
  | nil => rfl
  | cons c text ih =>
    obtain ⟨hc, hquote⟩ := h c (by simp)
    refine ⟨fun _ => hc, ?_⟩
    rw [QuoteState.after, if_neg hquote]
    exact ih fun other hother => h other (by simp [hother])

theorem singleton {c : Char} (hc : special c = false) (hquote : c ≠ '"') :
    Shielded special .outside [c] :=
  plain fun d hd => by rw [List.mem_singleton.1 hd]; exact ⟨hc, hquote⟩

/-- A string is shielded if it ends at its first quote. -/
theorem quoted (hquote : special '"' = false) (h : ∀ c ∈ text, c ≠ '"' ∧ c ≠ '\\') :
    Shielded special .outside ('"' :: text ++ ['"']) := by
  refine ⟨fun _ => hquote, ?_⟩
  rw [QuoteState.after, if_pos rfl]
  induction text with
  | nil => exact ⟨nofun, rfl⟩
  | cons c text ih =>
    obtain ⟨hc, hbackslash⟩ := h c (by simp)
    refine ⟨nofun, ?_⟩
    rw [QuoteState.after, if_neg hbackslash, if_neg hc]
    exact ih fun other hother => h other (by simp [hother])

theorem flatMap {α : Type} {f : α → List Char} {items : List α}
    (h : ∀ item ∈ items, Shielded special .outside (f item)) :
    Shielded special .outside (items.flatMap f) := by
  induction items with
  | nil => rfl
  | cons item items ih =>
    exact (h item (by simp)).append (ih fun other hother => h other (by simp [hother]))

/-- A shielded text holds no comment sign. -/
theorem beforeComment?_append (hspecial : special '#' = true)
    (htext : Shielded special state text) :
    beforeComment? state (text ++ rest) = (beforeComment? .outside rest).map (text ++ ·) := by
  induction text generalizing state with
  | nil =>
    obtain rfl : state = .outside := htext
    simp
  | cons c text ih =>
    have hsign : ¬(c = '#' ∧ state = .outside) := by
      rintro ⟨rfl, hstate⟩
      have := htext.1 hstate
      rw [hspecial] at this
      cases this
    rw [List.cons_append, beforeComment?, if_neg hsign, ih htext.2, Option.map_map]
    rfl

theorem beforeComment?_eq_none (hspecial : special '#' = true)
    (htext : Shielded special state text) : beforeComment? state text = none := by
  rw [← List.append_nil text, htext.beforeComment?_append hspecial]
  rfl

/-- A shielded text closes no delimiter and opens none. -/
theorem splitClosingFrom_append {opening closing : Char} (hopening : special opening = true)
    (hclosing : special closing = true) (depth : Nat) (htext : Shielded special state text) :
    splitClosingFrom opening closing depth state (text ++ rest) =
      (splitClosingFrom opening closing depth .outside rest).map fun (body, after) =>
        (text ++ body, after) := by
  induction text generalizing state with
  | nil =>
    obtain rfl : state = .outside := htext
    simp
  | cons c text ih =>
    have hne : ∀ delimiter, special delimiter = true →
        ¬(state = .outside ∧ c ≠ '"' ∧ c = delimiter) := by
      rintro _ hdelimiter ⟨hstate, -, rfl⟩
      have := htext.1 hstate
      rw [hdelimiter] at this
      cases this
    rw [List.cons_append, splitClosingFrom_cons_of_ne (hne _ hopening) (hne _ hclosing),
      ih htext.2, Option.map_map]
    rfl

/-- A shielded text is what stands in front of a delimiter that closes it. -/
theorem splitClosing?_eq {opening closing : Char} (hopening : special opening = true)
    (hclosing : special closing = true) (hne : opening ≠ closing) (hquote : closing ≠ '"')
    (htext : Shielded special .outside text) :
    splitClosing? opening closing (text ++ closing :: rest) = some (text, rest) := by
  have hfound :
      splitClosingFrom opening closing 0 .outside (closing :: rest) = some ([], rest) := by
    simp [splitClosingFrom, hne.symm, hquote]
  rw [splitClosing?, splitClosingFrom_append hopening hclosing 0 htext, hfound]
  simp

end Shielded

/-- A text that neither begins nor ends a block string, whatever follows it. -/
def KeepsBlocks (text : List Char) : Prop :=
  ∀ rest, outsideBlocks false false (text ++ rest) =
    (text ++ (outsideBlocks false false rest).1, (outsideBlocks false false rest).2)

namespace KeepsBlocks

variable {text rest : List Char}

theorem nil : KeepsBlocks [] := fun _ => rfl

theorem append (htext : KeepsBlocks text) (hrest : KeepsBlocks rest) :
    KeepsBlocks (text ++ rest) := by
  intro more
  rw [List.append_assoc, htext, hrest, List.append_assoc]

theorem singleton {c : Char} (h : c ≠ '"') : KeepsBlocks [c] := by
  intro rest
  rw [List.singleton_append, outsideBlocks]
  · rfl
  · exact fun _ hc => absurd hc h

/-- A text without quotes leaves block strings alone. -/
theorem plain (h : '"' ∉ text) : KeepsBlocks text := by
  induction text with
  | nil => exact nil
  | cons c text ih =>
    rw [List.mem_cons, not_or] at h
    exact (singleton (Ne.symm h.1)).append (ih h.2)

/-- A string after which there is no quote leaves block strings alone, even if it is empty. -/
theorem quoted (htext : '"' ∉ text) {c : Char} (hc : c ≠ '"') :
    KeepsBlocks ('"' :: text ++ ['"', c]) := by
  -- A quote that is not followed by two others is kept like any other character.
  have hkept : ∀ more, (∀ after, more ≠ '"' :: '"' :: after) →
      outsideBlocks false false ('"' :: more) =
        ('"' :: (outsideBlocks false false more).1, (outsideBlocks false false more).2) := by
    intro more hmore
    rw [outsideBlocks]
    · rfl
    · exact fun after _ h => hmore after h
  intro rest
  have hfirst := hkept (text ++ '"' :: c :: rest) fun after h => by
    cases text with
    | nil => exact hc (List.cons.inj (List.cons.inj h).2).1
    | cons d text => exact htext ((List.cons.inj h).1 ▸ List.mem_cons_self)
  have hplain := plain htext ('"' :: c :: rest)
  have hsecond := hkept (c :: rest) fun after h => hc (List.cons.inj h).1
  have hlast : outsideBlocks false false (c :: rest) = _ := singleton hc rest
  simp [hfirst, hplain, hsecond, hlast]

theorem flatMap {α : Type} {f : α → List Char} {items : List α}
    (h : ∀ item ∈ items, KeepsBlocks (f item)) : KeepsBlocks (items.flatMap f) := by
  induction items with
  | nil => exact nil
  | cons item items ih =>
    exact (h item (by simp)).append (ih fun other hother => h other (by simp [hother]))

end KeepsBlocks

end FieldAccess.Schema
