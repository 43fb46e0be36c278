import FieldAccess.Proofs.Descriptions

/-!
# String literals of directives

The literal of a text writes a backslash in front of each quote and of each backslash. The readers
of a line know both escapes, so that a literal always ends where it is meant to end. But the payload
that is found there is freed from escaped quotes only: the backslashes of the text stay doubled.

## Main definitions

* `literal` – the payload that stands for a text.
* `doubled` – a text with each of its backslashes written twice.

## Main statements

* `unescapeQuotes_escape` – what is left of the escapes of a literal.
* `argument?_literal` – the value of a directive whose argument is a literal.
-/

namespace FieldAccess.Schema

open Text

/-- A text with each of its backslashes written twice. -/
def doubled : List Char → List Char
  | [] => []
  | c :: text => if c = '\\' then '\\' :: '\\' :: doubled text else c :: doubled text

/-- The literal of a text without line feeds. -/
def literal (text : String) (h : '\n' ∉ text.toList) : EscapedText where
  text := escape text.toList
  valid := escaped_escape h

section Doubling

variable {text : List Char}

/-- A literal does not begin with a quote of its text. -/
theorem head?_escape_ne (text : List Char) : (escape text).head? ≠ some '"' := by
  cases text with
  | nil => exact nofun
  | cons c text =>
    rw [escape]
    split
    · exact fun h => absurd (Option.some.inj h) (by decide)
    · rename_i hc
      exact fun h => hc (.inl (Option.some.inj h))

/-- A backslash that is not in front of a quote is kept. -/
theorem unescapeQuotes_backslash (h : text.head? ≠ some '"') :
    unescapeQuotes ('\\' :: text) = '\\' :: unescapeQuotes text := by
  cases text with
  | nil => rfl
  | cons c text =>
    rw [unescapeQuotes]
    rintro rest - hquote
    exact h (congrArg some (List.cons.inj hquote).1)

/-- **Escapes.** Of the escapes of a literal those of quotes are undone, and those of backslashes
are not. -/
theorem unescapeQuotes_escape (text : List Char) :
    unescapeQuotes (escape text) = doubled text := by
  induction text with
  | nil => rfl
  | cons c text ih =>
    rw [escape, doubled]
    by_cases hbackslash : c = '\\'
    · subst hbackslash
      rw [if_pos (.inr rfl), if_pos rfl, unescapeQuotes_backslash (by simp),
        unescapeQuotes_backslash (head?_escape_ne text), ih]
    · rw [if_neg hbackslash]
      by_cases hquote : c = '"'
      · subst hquote
        rw [if_pos (.inl rfl), unescapeQuotes, ih]
      · rw [if_neg (by simp [hquote, hbackslash]), unescapeQuotes, ih]
        exact fun _ h => absurd h hbackslash

theorem length_doubled (text : List Char) :
    (doubled text).length = text.length + text.count '\\' := by
  induction text with
  | nil => rfl
  | cons c text ih =>
    rw [doubled]
    split
    · rename_i hc
      rw [hc, List.count_cons_self, List.length_cons, List.length_cons, ih, List.length_cons]
      omega
    · rename_i hc
      rw [List.count_cons_of_ne hc, List.length_cons, ih, List.length_cons]
      omega

theorem doubled_eq_self_iff : doubled text = text ↔ '\\' ∉ text := by
  constructor
  · intro h
    have hlength := length_doubled text
    rw [h] at hlength
    exact List.count_eq_zero.1 (by omega)
  · intro h
    induction text with
    | nil => rfl
    | cons c text ih =>
      rw [List.mem_cons, not_or] at h
      rw [doubled, if_neg (Ne.symm h.1), ih h.2]

end Doubling

theorem meaning_literal (text : String) (h : '\n' ∉ text.toList) :
    (literal text h).meaning = String.ofList (doubled text.toList) := by
  rw [EscapedText.meaning, literal, unescapeQuotes_escape]

/-- The value of a directive is found wherever it stands on a line as long as nothing in front
mentions it. -/
theorem KnownDirective.argument?_behind (directive : KnownDirective) {before : List Char}
    (hbefore : afterMarker? directive.kind.marker before = none) (after : List Char) :
    argument? (before ++ directive.chars ++ after) directive.kind.name =
      some directive.value.meaning := by
  have hspace : ' ' ∉ directive.kind.marker := by cases directive.kind <;> decide
  obtain ⟨rest, hrest⟩ : ∃ rest, directive.chars ++ after = ' ' :: rest := by
    rw [chars, List.replicate_succ, List.cons_append, List.cons_append]
    exact ⟨_, rfl⟩
  have hpassed (text : List Char) (htext : afterMarker? directive.kind.marker text = none) :
      afterMarker? directive.kind.marker (text ++ ' ' :: rest) =
        afterMarker? directive.kind.marker rest :=
    afterMarker?_append_cons hspace (List.cons_ne_nil _ _) htext
  have hfound : afterMarker? directive.kind.marker (before ++ directive.chars ++ after) =
      some ('(' :: directive.argument ++ ')' :: after) := by
    rw [List.append_assoc, hrest, hpassed before hbefore, ← hpassed [] rfl, List.nil_append,
      ← hrest, directive.afterMarker?_chars]
  exact argument?_of_marker hfound

/-- **Literals.** A directive whose argument is the literal of a text says this text with doubled
backslashes, wherever it stands on a line as long as nothing in front mentions it. So it says the
text itself exactly if there is no backslash in it. -/
theorem argument?_literal (kind : DirectiveKind) (spaces : Nat) (text : String)
    (htext : '\n' ∉ text.toList) (before after : List Char)
    (hbefore : afterMarker? kind.marker before = none) :
    let directive : KnownDirective := { spaces, kind, value := .quoted (literal text htext) }
    let line := before ++ directive.chars ++ after
    argument? line kind.name = some (String.ofList (doubled text.toList)) ∧
      (argument? line kind.name = some text ↔ '\\' ∉ text.toList) := by
  intro directive line
  have hvalue : argument? line kind.name = some (String.ofList (doubled text.toList)) := by
    rw [← meaning_literal text htext]
    exact directive.argument?_behind hbefore after
  have hsame : String.ofList (doubled text.toList) = text ↔ doubled text.toList = text.toList :=
    ⟨fun h => by rw [← String.toList_inj] at h; simpa using h, fun h => by rw [h]; simp⟩
  refine ⟨hvalue, ?_⟩
  rw [hvalue, Option.some.injEq, hsame, doubled_eq_self_iff]

/-- Quotes, and parentheses, commas and other signs in a literal behind another directive. -/
theorem argument?_literal_owner :
    let text := "the \"agency\" (:), @owner"
    let before := "born: Date @description(value: \"@ownerRef\")".toList
    let directive : KnownDirective :=
      { spaces := 2, kind := .owner, value := .quoted (literal text (by decide)) }
    argument? (before ++ directive.chars ++ " @source(value: \"x\")".toList) "owner" =
      some "the \"agency\" (:), @owner" := by
  intro text before directive
  exact (argument?_literal .owner 2 text (by decide) before _ (by decide)).2.2 (by decide)

/-- **Backslashes stay doubled.** A text with a backslash is not what its literal is read as. -/
theorem not_literal_decoded :
    (¬∀ (kind : DirectiveKind) (text : String) (htext : '\n' ∉ text.toList),
      let directive : KnownDirective := { kind, value := .quoted (literal text htext) }
      argument? ("a: S".toList ++ directive.chars) kind.name = some text) ∧
      (parse "type P \x7b\n  a: S @owner(value: \"a\\\\b\")\n\x7d").map (·.owner) =
        [some "a\\\\b"] := by
  refine ⟨fun h => ?_, by decide +kernel⟩
  have hvalue := h .owner "a\\b" (by decide)
  revert hvalue
  decide

end FieldAccess.Schema
