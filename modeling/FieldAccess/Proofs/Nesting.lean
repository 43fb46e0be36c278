import FieldAccess.Proofs.Cleaning

/-!
# Nested delimiters

How deep delimiters are nested behind a text, where those inside of strings do not count. A text is
balanced if it closes what it opens and nothing else, and ends outside of strings: the search for a
closing delimiter passes over it.

## Main definitions

* `nesting` – the number of open delimiters behind a text, and the state there.
* `Balanced` – a text that closes its braces and its strings.

## Main statements

* `splitClosingFrom_append` – the search for a closing delimiter goes on behind a text.
* `Balanced.splitClosing?_append` – a balanced text is the body in front of a closing brace.
-/

namespace FieldAccess.Schema

open Text

/-- How many delimiters are open behind a text, and the state there. There is no answer if the text
closes more delimiters than were open. -/
def nesting (opening closing : Char) :
    (depth : Nat) → QuoteState → List Char → Option (Nat × QuoteState)
  | depth, state, [] => some (depth, state)
  | depth, state, c :: rest =>
    if state = .outside ∧ c ≠ '"' ∧ c = opening then
      nesting opening closing (depth + 1) .outside rest
    else if state = .outside ∧ c ≠ '"' ∧ c = closing then
      match depth with
      | 0 => none
      | depth + 1 => nesting opening closing depth .outside rest
    else nesting opening closing depth (state.after c) rest

section Nesting

variable {opening closing c : Char} {depth depth' : Nat} {state state' : QuoteState}
  {text rest : List Char}

theorem nesting_cons_of_ne (hopening : ¬(state = .outside ∧ c ≠ '"' ∧ c = opening))
    (hclosing : ¬(state = .outside ∧ c ≠ '"' ∧ c = closing)) :
    nesting opening closing depth state (c :: rest) =
      nesting opening closing depth (state.after c) rest := by
  conv => lhs; unfold nesting
  rw [if_neg hopening, if_neg hclosing]

theorem nesting_append (depth : Nat) (state : QuoteState) (text rest : List Char) :
    nesting opening closing depth state (text ++ rest) =
      (nesting opening closing depth state text).bind fun (depth, state) =>
        nesting opening closing depth state rest := by
  induction text generalizing depth state with
  | nil => rfl
  | cons c text ih =>
    simp only [List.cons_append, nesting]
    split
    · exact ih _ _
    · split
      · cases depth with
        | zero => rfl
        | succ depth => exact ih _ _
      · exact ih _ _

/-- The search for a closing delimiter goes on behind a text that does not close it. -/
theorem splitClosingFrom_append
    (h : nesting opening closing depth state text = some (depth', state')) (rest : List Char) :
    splitClosingFrom opening closing depth state (text ++ rest) =
      (splitClosingFrom opening closing depth' state' rest).map fun (body, after) =>
        (text ++ body, after) := by
  -- The search stands at the depth and in the state of the nesting at every character.
  induction text generalizing depth state with
  | nil =>
    obtain ⟨rfl, rfl⟩ := Prod.mk.inj (Option.some.inj h)
    simp
  | cons c text ih =>
    have step : ∀ {depth state}, nesting opening closing depth state text = some (depth', state') →
        (splitClosingFrom opening closing depth state (text ++ rest)).map (prepend c) =
          (splitClosingFrom opening closing depth' state' rest).map fun (body, after) =>
            (c :: text ++ body, after) := by
      intro depth state hstep
      rw [ih hstep, Option.map_map]
      rfl
    unfold nesting at h
    rw [List.cons_append]
    conv => lhs; unfold splitClosingFrom
    split at h
    · rename_i hopening
      rw [if_pos hopening]
      exact step h
    · rename_i hopening
      rw [if_neg hopening]
      split at h
      · rename_i hclosing
        rw [if_pos hclosing]
        cases depth with
        | zero => cases h
        | succ depth => exact step h
      · rename_i hclosing
        rw [if_neg hclosing]
        exact step h

/-- Delimiters inside of strings do not count. -/
theorem Shielded.nesting_eq {special : Char → Bool} (hopening : special opening = true)
    (hclosing : special closing = true) (depth : Nat) (h : Shielded special state text) :
    nesting opening closing depth state text = some (depth, .outside) := by
  induction text generalizing state with
  | nil =>
    obtain rfl : state = .outside := h
    rfl
  | cons c text ih =>
    have hne : ∀ delimiter, special delimiter = true →
        ¬(state = .outside ∧ c ≠ '"' ∧ c = delimiter) := by
      rintro _ hdelimiter ⟨hstate, -, rfl⟩
      rw [h.1 hstate] at hdelimiter
      cases hdelimiter
    rw [nesting_cons_of_ne (hne _ hopening) (hne _ hclosing), ih h.2]

/-- A text without delimiters changes the state only. -/
theorem nesting_of_notMem (hopening : opening ∉ text) (hclosing : closing ∉ text) (depth : Nat)
    (state : QuoteState) :
    nesting opening closing depth state text = some (depth, state.behind text) := by
  induction text generalizing state with
  | nil => rfl
  | cons c text ih =>
    rw [List.mem_cons, not_or] at hopening hclosing
    rw [nesting_cons_of_ne (fun h => hopening.1 h.2.2.symm) (fun h => hclosing.1 h.2.2.symm),
      ih hopening.2 hclosing.2]
    rfl

end Nesting

/-- A text that closes the braces and the strings that it opens, and no others. -/
def Balanced (text : List Char) : Prop :=
  nesting '\x7b' '\x7d' 0 .outside text = some (0, .outside)

instance (text : List Char) : Decidable (Balanced text) := inferInstanceAs (Decidable (_ = _))

namespace Balanced

variable {text rest : List Char}

theorem append_iff (h : Balanced text) : Balanced (text ++ rest) ↔ Balanced rest := by
  rw [Balanced, nesting_append, h, Option.bind_some, Balanced]

theorem shielded {special : Char → Bool} (hopening : special '\x7b' = true)
    (hclosing : special '\x7d' = true) (h : Shielded special .outside text) : Balanced text :=
  h.nesting_eq hopening hclosing 0

/-- A text without braces is balanced if it ends outside of strings. -/
theorem of_notMem (hopening : '\x7b' ∉ text) (hclosing : '\x7d' ∉ text)
    (hstate : QuoteState.behind .outside text = .outside) : Balanced text := by
  rw [Balanced, nesting_of_notMem hopening hclosing, hstate]

/-- A balanced text is the body in front of a closing brace. -/
theorem splitClosing?_append (h : Balanced text) (rest : List Char) :
    splitClosing? '\x7b' '\x7d' (text ++ '\x7d' :: rest) = some (text, rest) := by
  have hfound : splitClosingFrom '\x7b' '\x7d' 0 .outside ('\x7d' :: rest) = some ([], rest) := rfl
  rw [splitClosing?, splitClosingFrom_append h, hfound]
  simp

end Balanced

end FieldAccess.Schema
