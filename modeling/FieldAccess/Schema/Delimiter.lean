/-!
# Balanced delimiters

Finding the delimiter that closes one already opened. Quoted strings are passed over: a double
quote opens and closes a string, and inside a string a backslash takes the next character with it.

## Main definitions

* `QuoteState` – where a character stands with respect to strings.
* `splitClosing?` – the text up to the closing delimiter, and the text after it.
-/

namespace FieldAccess.Schema

/-- Where a character stands: outside of strings, inside one, or inside one after a backslash. -/
inductive QuoteState where
  | outside
  | inside
  | escaped
  deriving Repr, DecidableEq, Inhabited

/-- The state after a character. -/
def QuoteState.after (c : Char) : QuoteState → QuoteState
  | outside => if c = '"' then inside else outside
  | inside => if c = '\\' then escaped else if c = '"' then outside else inside
  | escaped => inside

/-- Puts a character in front of the first of two texts. -/
def prepend (c : Char) (texts : List Char × List Char) : List Char × List Char :=
  (c :: texts.1, texts.2)

/-- The text up to the delimiter that closes the outermost of `depth + 1` open ones, all of them
opened by `opening` and closed by `closing`, and the text after it. -/
def splitClosingFrom (opening closing : Char) :
    (depth : Nat) → QuoteState → List Char → Option (List Char × List Char)
  | _, _, [] => none
  | depth, state, c :: rest =>
    if state = .outside ∧ c ≠ '"' ∧ c = opening then
      (splitClosingFrom opening closing (depth + 1) .outside rest).map (prepend c)
    else if state = .outside ∧ c ≠ '"' ∧ c = closing then
      match depth with
      | 0 => some ([], rest)
      | depth + 1 => (splitClosingFrom opening closing depth .outside rest).map (prepend c)
    else (splitClosingFrom opening closing depth (state.after c) rest).map (prepend c)

/-- The text up to the delimiter that closes one already opened, and the text after it; `none` when
there is no such delimiter. -/
def splitClosing? (opening closing : Char) (text : List Char) : Option (List Char × List Char) :=
  splitClosingFrom opening closing 0 .outside text

/-- What `splitClosingFrom` finds, together with the delimiter, is the text again. -/
theorem eq_append_of_splitClosingFrom {opening closing : Char} {text : List Char} :
    ∀ {depth : Nat} {state : QuoteState} {body after : List Char},
      splitClosingFrom opening closing depth state text = some (body, after) →
        text = body ++ closing :: after := by
  induction text with
  | nil => intro depth state body after h; simp [splitClosingFrom] at h
  | cons c rest ih =>
    intro depth state body after h
    have step : ∀ {depth state},
        (splitClosingFrom opening closing depth state rest).map (prepend c) = some (body, after) →
          c :: rest = body ++ closing :: after := by
      intro depth state h
      obtain ⟨⟨b, a⟩, found, same⟩ := Option.map_eq_some_iff.1 h
      obtain ⟨rfl, rfl⟩ := Prod.mk.inj same
      simp [ih found]
    unfold splitClosingFrom at h
    split at h
    · exact step h
    · split at h
      · rename_i isClosing
        cases depth with
        | zero =>
          obtain ⟨rfl, rfl⟩ := Prod.mk.inj (Option.some.inj h)
          simp [isClosing.2.2]
        | succ depth => exact step h
      · exact step h

/-- The text after the closing delimiter is shorter than the text searched. -/
theorem length_lt_of_splitClosing? {opening closing : Char} {text body after : List Char}
    (found : splitClosing? opening closing text = some (body, after)) :
    after.length < text.length := by
  simp only [eq_append_of_splitClosingFrom found, List.length_append, List.length_cons]
  omega

end FieldAccess.Schema
