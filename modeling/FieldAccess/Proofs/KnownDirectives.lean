import FieldAccess.Proofs.FieldLines

/-!
# Known directives of field lines

A field line is read for six directives. Each of them is looked for where its sign first stands on
the line, be it inside of a quoted text. So quoted text is opaque to the other directives only as
long as it mentions none of them ahead of its place.

## Main definitions

* `EscapedText` – what may stand between quotes on a line.
* `DirectiveKind`, `KnownDirective`, `MarkedField` – fields with directives of the six kinds.
* `MarkedField.IsAnnounced` – no quoted text mentions a directive ahead of its place.

## Main statements

* `argument?_knownDirectives` – the value of a directive is found on an announced line.
* `payload_replaced` – another quoted text changes the value of its own directive only.
* `payload_mentions_isOwner` – a quoted text that mentions a directive ahead of its place is taken
  for it.
-/

namespace FieldAccess.Schema

open Text

/-- A text that may stand between quotes on one line: each quote in it is escaped, and each
backslash escapes a character. -/
inductive Escaped : List Char → Prop where
  | nil : Escaped []
  | plain {c : Char} {rest : List Char} (hquote : c ≠ '"') (hbackslash : c ≠ '\\')
      (hfeed : c ≠ '\n') (hrest : Escaped rest) : Escaped (c :: rest)
  | escape {c : Char} {rest : List Char} (hfeed : c ≠ '\n') (hrest : Escaped rest) :
      Escaped ('\\' :: c :: rest)

/-- Whether a text may stand between quotes on one line. -/
def isEscaped : List Char → Bool
  | [] => true
  | ['\\'] => false
  | '\\' :: c :: rest => c != '\n' && isEscaped rest
  | c :: rest => c != '"' && c != '\n' && isEscaped rest

theorem isEscaped_iff {text : List Char} : isEscaped text = true ↔ Escaped text := by
  constructor
  · intro h
    fun_induction isEscaped text with
    | case1 => exact .nil
    | case2 => cases h
    | case3 c rest ih =>
      obtain ⟨hfeed, hrest⟩ := Bool.and_eq_true_iff.1 h
      exact .escape (bne_iff_ne.1 hfeed) (ih hrest)
    | case4 c rest hlone hescape ih =>
      obtain ⟨hc, hrest⟩ := Bool.and_eq_true_iff.1 h
      obtain ⟨hquote, hfeed⟩ := Bool.and_eq_true_iff.1 hc
      have hbackslash : c ≠ '\\' := by
        rintro rfl
        cases rest with
        | nil => exact hlone rfl rfl
        | cons d rest => exact hescape d rest rfl rfl
      exact .plain (bne_iff_ne.1 hquote) hbackslash (bne_iff_ne.1 hfeed) (ih hrest)
  · intro h
    induction h with
    | nil => rfl
    | plain hquote hbackslash hfeed hrest ih =>
      simp [isEscaped, hquote, hbackslash, hfeed, ih]
    | escape hfeed hrest ih => simp [isEscaped, hfeed, ih]

instance : DecidablePred Escaped := fun _ => decidable_of_iff _ isEscaped_iff

/-- What stands between quotes on a line. -/
structure EscapedText where
  text : List Char
  valid : Escaped text

/-- The text that is meant. -/
def EscapedText.meaning (payload : EscapedText) : String :=
  String.ofList (unescapeQuotes payload.text)

/-- The directives that a field line is read for. -/
inductive DirectiveKind where
  | accessControl
  | source
  | isOwner
  | owner
  | description
  | displayName
  deriving DecidableEq

namespace DirectiveKind

/-- The name of the directive. -/
def name : DirectiveKind → String
  | accessControl => "accessControl"
  | source => "source"
  | isOwner => "isOwner"
  | owner => "owner"
  | description => "description"
  | displayName => "displayName"

/-- All kinds. -/
def all : List DirectiveKind :=
  [accessControl, source, isOwner, owner, description, displayName]

theorem mem_all (kind : DirectiveKind) : kind ∈ all := by
  cases kind <;> decide

/-- The sign of the directive. -/
def marker (kind : DirectiveKind) : List Char := '@' :: kind.name.toList

/-- The name of the directive is an identifier. -/
def identifier (kind : DirectiveKind) : Identifier where
  text := kind.name.toList
  valid := by cases kind <;> rfl

theorem name_injective {kind other : DirectiveKind} (h : kind.name.toList = other.name.toList) :
    kind = other := by
  have hall : ∀ kind ∈ all, ∀ other ∈ all, kind.name.toList = other.name.toList →
      kind = other := by
    decide
  exact hall kind kind.mem_all other other.mem_all h

end DirectiveKind

/-- What a directive says: a quoted text or a truth value. -/
inductive EscapedValue where
  | quoted (payload : EscapedText)
  | truth (value : Bool)

namespace EscapedValue

/-- The text that a value stands for. -/
def meaning : EscapedValue → String
  | quoted payload => payload.meaning
  | truth true => "true"
  | truth false => "false"

/-- A value as it is written. -/
def chars : EscapedValue → List Char
  | quoted payload => '"' :: payload.text ++ ['"']
  | truth true => ['t', 'r', 'u', 'e']
  | truth false => ['f', 'a', 'l', 's', 'e']

/-- Whether a value mentions the sign of a directive. -/
def mentions (kind : DirectiveKind) : EscapedValue → Bool
  | quoted payload => (afterMarker? kind.marker payload.text).isSome
  | truth _ => false

end EscapedValue

/-- One of the directives that a field line is read for, with its argument. -/
structure KnownDirective where
  /-- The number of spaces in front of the directive, besides the first. -/
  spaces : Nat := 0
  kind : DirectiveKind
  key : Key := .value
  value : EscapedValue

namespace KnownDirective

/-- The argument of a directive as it is written. -/
def argument (directive : KnownDirective) : List Char :=
  directive.key.chars ++ [':', ' '] ++ directive.value.chars

/-- A directive as it is written. -/
def chars (directive : KnownDirective) : List Char :=
  List.replicate (directive.spaces + 1) ' ' ++
    (directive.kind.marker ++ ('(' :: directive.argument ++ [')']))

/-- The directive with another quoted text, if it is of a kind. -/
def withPayload (kind : DirectiveKind) (payload : EscapedText) (directive : KnownDirective) :
    KnownDirective :=
  if directive.kind = kind then { directive with value := .quoted payload } else directive

end KnownDirective

/-- Whether no value of a list of directives mentions a directive ahead of its place; `seen` are
those in front of the list. -/
def announced (seen : List DirectiveKind) : List KnownDirective → Bool
  | [] => true
  | directive :: rest =>
    (DirectiveKind.all.all fun kind =>
      !directive.value.mentions kind || (directive.kind :: seen).contains kind) &&
    announced (directive.kind :: seen) rest

/-- A field and its directives, each kind at most once. -/
structure MarkedField where
  name : Identifier
  parameters : Option Parameters := none
  fieldType : FieldType
  directives : List KnownDirective
  distinct : (directives.map (·.kind)).Nodup

namespace MarkedField

variable (field : MarkedField)

/-- The field without its directives. -/
def bare : FieldDefinition where
  name := field.name
  parameters := field.parameters
  fieldType := field.fieldType

/-- The line of a field. -/
def chars : List Char := field.bare.chars ++ field.directives.flatMap KnownDirective.chars

/-- What the directive of a kind says. -/
def value? (kind : DirectiveKind) : Option String :=
  (field.directives.find? fun directive => directive.kind = kind).map (·.value.meaning)

/-- What a field of a type says. -/
def toDirective (parentType : String) : FieldDirective where
  name := String.ofList field.name.text
  fieldType := String.ofList field.fieldType.text
  parentType
  accessControl := field.value? .accessControl
  source := field.value? .source
  isOwner := field.value? .isOwner == some "true"
  owner := field.value? .owner
  description := field.value? .description
  displayName := field.value? .displayName

/-- No quoted text mentions a directive ahead of its place. -/
def IsAnnounced : Prop := announced [] field.directives = true

instance : Decidable field.IsAnnounced := inferInstanceAs (Decidable (_ = true))

theorem kind_withPayload (kind : DirectiveKind) (payload : EscapedText)
    (directive : KnownDirective) : (directive.withPayload kind payload).kind = directive.kind := by
  unfold KnownDirective.withPayload
  split <;> rfl

/-- The field with another quoted text in the directive of a kind. -/
def withPayload (kind : DirectiveKind) (payload : EscapedText) : MarkedField where
  name := field.name
  parameters := field.parameters
  fieldType := field.fieldType
  directives := field.directives.map (KnownDirective.withPayload kind payload)
  distinct := by
    simpa only [List.map_map, Function.comp_def, kind_withPayload] using field.distinct

end MarkedField

/-- What a field line says, with another text as the value of the directive of a kind. -/
def FieldDirective.withValue (directive : FieldDirective) (kind : DirectiveKind) (text : String) :
    FieldDirective :=
  match kind with
  | .accessControl => { directive with accessControl := some text }
  | .source => { directive with source := some text }
  | .isOwner => { directive with isOwner := text == "true" }
  | .owner => { directive with owner := some text }
  | .description => { directive with description := some text }
  | .displayName => { directive with displayName := some text }

section Escapes

variable {text : List Char}

/-- An escaped text is read up to the quote behind it. -/
theorem Escaped.payload? (h : Escaped text) (rest : List Char) :
    payload? (text ++ '"' :: rest) = some text := by
  induction h with
  | nil => rfl
  | plain hquote hbackslash hfeed htext ih =>
    rw [List.cons_append, Schema.payload?, ih]
    · rfl
    · exact hquote
    · exact fun h => absurd h hbackslash
    · exact fun _ _ h => absurd h hbackslash
  | escape hfeed htext ih =>
    rw [List.cons_append, List.cons_append, Schema.payload?, if_neg hfeed, ih]
    rfl

/-- A quoted text is shielded if it is escaped. -/
theorem Escaped.shielded {special : Char → Bool} (hspecial : special '"' = false)
    (h : Escaped text) : Shielded special .outside ('"' :: text ++ ['"']) := by
  refine ⟨fun _ => hspecial, ?_⟩
  rw [QuoteState.after, if_pos rfl]
  induction h with
  | nil => exact ⟨by rintro ⟨⟩, rfl⟩
  | plain hquote hbackslash hfeed htext ih =>
    refine ⟨by rintro ⟨⟩, ?_⟩
    rw [QuoteState.after, if_neg hbackslash, if_neg hquote]
    exact ih
  | escape hfeed htext ih => exact ⟨by rintro ⟨⟩, by rintro ⟨⟩, ih⟩

end Escapes

section Arguments

variable (directive : KnownDirective)

/-- The parentheses in an argument stand inside of strings. -/
theorem KnownDirective.shielded_argument :
    Shielded (['(', ')'].contains ·) .outside directive.argument := by
  obtain ⟨_, _, key, value⟩ := directive
  have hplain : ∀ text : List Char,
      text.all (fun c => !(['(', ')', '"'].contains c)) = true →
        Shielded (['(', ')'].contains ·) .outside text := by
    intro text htext
    refine .plain fun c hc => ?_
    have hc' := List.all_eq_true.1 htext c hc
    simp_all
  have hkey : Shielded (['(', ')'].contains ·) .outside (key.chars ++ [':', ' ']) := by
    cases key <;> exact hplain _ rfl
  refine hkey.append ?_
  cases value with
  | quoted payload => exact payload.valid.shielded rfl
  | truth value => cases value <;> exact hplain _ rfl

/-- The payload of an argument is what stands between its quotes, or its truth value. -/
theorem KnownDirective.firstPayload?_argument :
    (firstPayload? false directive.argument).map
        (fun payload => String.ofList (unescapeQuotes payload)) =
      some directive.value.meaning := by
  obtain ⟨_, _, key, value⟩ := directive
  cases value with
  | quoted payload =>
    have hpayload : payload? (payload.text ++ ['"']) = some payload.text :=
      payload.valid.payload? []
    have hkeyed : keyedPayload? (key.chars ++ [':', ' '] ++ ('"' :: payload.text ++ ['"'])) =
        some payload.text := by
      cases key <;> exact hpayload
    have hfirst : firstPayload? false (key.chars ++ [':', ' '] ++ ('"' :: payload.text ++ ['"'])) =
        some payload.text := by
      obtain ⟨c, rest, hchars⟩ : ∃ c rest,
          key.chars ++ [':', ' '] ++ ('"' :: payload.text ++ ['"']) = c :: rest := by
        cases key <;> exact ⟨_, _, rfl⟩
      rw [hchars] at hkeyed ⊢
      simp [firstPayload?, hkeyed]
    exact congrArg (Option.map _) hfirst
  | truth value => cases key <;> cases value <;> rfl

end Arguments

section Markers

variable {name text rest : List Char}

/-- A text that does not mention a directive is passed over in the search for it, up to a character
that is not in its sign. -/
theorem afterMarker?_append_cons {marker : List Char} {c : Char} (hmarker : c ∉ marker)
    (hne : marker ≠ []) (htext : afterMarker? marker text = none) :
    afterMarker? marker (text ++ c :: rest) = afterMarker? marker rest := by
  induction text with
  | nil =>
    cases marker with
    | nil => exact absurd rfl hne
    | cons m marker =>
      rw [List.mem_cons, not_or] at hmarker
      rw [List.nil_append, afterMarker?, afterPrefix?_cons_of_ne (Ne.symm hmarker.1)]
  | cons d text ih =>
    have hprefix : afterPrefix? marker (d :: (text ++ c :: rest)) =
        (afterPrefix? marker (d :: text)).map (· ++ c :: rest) :=
      afterPrefix?_append_cons hmarker (d :: text)
    rw [afterMarker?] at htext
    rw [List.cons_append, afterMarker?, hprefix]
    cases hafter : afterPrefix? marker (d :: text) with
    | none =>
      rw [hafter] at htext
      exact ih htext
    | some after =>
      -- The sign stands here, as the beginning of a longer name.
      rw [hafter] at htext
      cases after with
      | nil => cases htext
      | cons next after =>
        by_cases hword : (isAlphanumeric next || next == '_') = true
        · simp only [List.head?_cons, Option.map_some, Option.getD_some, hword, if_true] at htext
          simp only [Option.map_some, List.cons_append, List.head?_cons, Option.getD_some, hword,
            if_true]
          exact ih htext
        · simp [hword] at htext

/-- The search for a directive goes on behind the sign of another one. -/
theorem afterMarker?_marker {kind other : DirectiveKind} (hkind : other ≠ kind)
    (behind : List Char) :
    afterMarker? kind.marker (other.marker ++ '(' :: behind) =
      afterMarker? kind.marker (other.name.toList ++ '(' :: behind) := by
  have hne : other.identifier.text ≠ kind.name.toList := fun h =>
    hkind (DirectiveKind.name_injective h)
  -- The parenthesis ends the name, so that the sign of a longer name is not taken for it.
  have hends : EndsName ('(' :: behind) := fun c hc => .inr (Option.some.inj hc).symm
  exact afterMarker?_of_ne (fun c hc => kind.identifier.isPart hc) hne hends

/-- The sign of a directive is found where the directive stands. -/
theorem KnownDirective.afterMarker?_chars (directive : KnownDirective) (rest : List Char) :
    afterMarker? directive.kind.marker (directive.chars ++ rest) =
      some ('(' :: directive.argument ++ ')' :: rest) := by
  have hspaces : '@' ∉ List.replicate (directive.spaces + 1) ' ' := by simp
  have hends : EndsName ('(' :: directive.argument ++ [')'] ++ rest) :=
    fun c hc => .inr (Option.some.inj hc).symm
  rw [KnownDirective.chars, List.append_assoc, List.append_assoc, DirectiveKind.marker,
    afterMarker?_append hspaces, afterMarker?_self hends]
  simp

/-- A directive of another kind that does not mention a directive is passed over in the search for
it. -/
theorem afterMarker?_knownDirective {directive : KnownDirective} {kind : DirectiveKind}
    (hkind : directive.kind ≠ kind) (hmentions : directive.value.mentions kind = false) :
    afterMarker? kind.marker (directive.chars ++ rest) = afterMarker? kind.marker rest := by
  obtain ⟨spaces, other, key, value⟩ := directive
  have hspaces : '@' ∉ List.replicate (spaces + 1) ' ' := by simp
  have hname : '@' ∉ other.name.toList := by cases other <;> decide
  have hkey : '@' ∉ key.chars := by cases key <;> decide
  rw [KnownDirective.chars, List.append_assoc, List.append_assoc, List.append_assoc,
    List.cons_append, DirectiveKind.marker, afterMarker?_append hspaces]
  refine (afterMarker?_marker hkind _).trans ?_
  -- A truth value holds no `@` at all; a quoted text is passed over as far as its closing quote.
  cases value with
  | truth value =>
    have hvalue : '@' ∉ (EscapedValue.truth value).chars := by cases value <;> decide
    have hplain : '@' ∉ other.name.toList ++ '(' :: key.chars ++ [':', ' '] ++
        (EscapedValue.truth value).chars ++ [')'] := by
      simp [hname, hkey, hvalue]
    have hpassed : afterMarker? kind.marker ((other.name.toList ++ '(' :: key.chars ++ [':', ' '] ++
        (EscapedValue.truth value).chars ++ [')']) ++ rest) = afterMarker? kind.marker rest :=
      afterMarker?_append hplain
    simpa [KnownDirective.argument, DirectiveKind.marker] using hpassed
  | quoted payload =>
    have hquote : '"' ∉ kind.marker := by cases kind <;> decide
    have hfront : '@' ∉ other.name.toList ++ '(' :: key.chars ++ [':', ' ', '"'] := by
      simp [hname, hkey]
    have hnone : afterMarker? kind.marker payload.text = none := by
      simpa [EscapedValue.mentions] using hmentions
    calc
      afterMarker? kind.marker (other.name.toList ++ '(' ::
          (KnownDirective.argument ⟨spaces, other, key, .quoted payload⟩ ++ ([')'] ++ rest)))
        = afterMarker? kind.marker ((other.name.toList ++ '(' :: key.chars ++ [':', ' ', '"']) ++
            (payload.text ++ '"' :: ([')'] ++ rest))) := by
          simp [KnownDirective.argument, EscapedValue.chars]
      _ = afterMarker? kind.marker (payload.text ++ '"' :: ([')'] ++ rest)) :=
          afterMarker?_append hfront
      _ = afterMarker? kind.marker ([')'] ++ rest) :=
          afterMarker?_append_cons hquote (List.cons_ne_nil _ _) hnone
      _ = afterMarker? kind.marker rest := afterMarker?_append (by decide)

end Markers

section Lines

/-- The argument behind the sign of a directive is read as what it says. -/
theorem argument?_of_marker {line rest : List Char} {directive : KnownDirective}
    (h : afterMarker? directive.kind.marker line =
      some ('(' :: directive.argument ++ ')' :: rest)) :
    argument? line directive.kind.name = some directive.value.meaning := by
  have hsplit : splitClosing? '(' ')' (directive.argument ++ ')' :: rest) =
      some (directive.argument, rest) :=
    directive.shielded_argument.splitClosing?_eq rfl rfl (by decide) (by decide)
  rw [DirectiveKind.marker] at h
  rw [argument?, h]
  simp only [List.cons_append, trimStart_cons_of_not_blank (rfl : isBlank '(' = false), hsplit,
    directive.firstPayload?_argument]

/-- **Announced values.** On an announced line the value of a directive is what is said there. The
text in front of the directives is passed over in the search for it. -/
theorem argument?_knownDirectives {kind : DirectiveKind} {seen : List DirectiveKind}
    {directives : List KnownDirective} (hseen : kind ∉ seen)
    (hannounced : announced seen directives = true) {text : List Char}
    (htext : ∀ rest, afterMarker? kind.marker (text ++ rest) = afterMarker? kind.marker rest) :
    argument? (text ++ directives.flatMap KnownDirective.chars) kind.name =
      (directives.find? fun directive => directive.kind = kind).map (·.value.meaning) := by
  -- The text in front grows by the directives of other kinds.
  induction directives generalizing seen text with
  | nil =>
    have hnone : afterMarker? ('@' :: kind.name.toList) (text ++ []) = none := htext []
    rw [List.flatMap_nil, argument?, hnone]
    rfl
  | cons directive rest ih =>
    obtain ⟨hmentions, hrest⟩ := Bool.and_eq_true_iff.1 hannounced
    rw [List.flatMap_cons]
    by_cases hkind : directive.kind = kind
    · subst hkind
      have hfound : afterMarker? directive.kind.marker
          (text ++ (directive.chars ++ rest.flatMap KnownDirective.chars)) =
            some ('(' :: directive.argument ++ ')' :: rest.flatMap KnownDirective.chars) := by
        rw [htext, directive.afterMarker?_chars]
      rw [argument?_of_marker hfound]
      simp
    · have hother : kind ∉ directive.kind :: seen := by
        simp [hseen, Ne.symm hkind]
      have hquiet : directive.value.mentions kind = false := by
        have := List.all_eq_true.1 hmentions kind kind.mem_all
        simpa [hother] using this
      rw [← List.append_assoc, ih hother hrest fun more => ?_]
      · simp [hkind]
      · rw [List.append_assoc, htext, afterMarker?_knownDirective hkind hquiet]

/-- In front of the first directive there are only spaces. -/
theorem takeWhile_knownDirectives {directives : List KnownDirective} {c : Char}
    (hc : c ∈ (directives.flatMap KnownDirective.chars).takeWhile (· != '@')) :
    isBlank c = true := by
  cases directives with
  | nil => cases hc
  | cons directive rest =>
    have hspaces : ∀ c ∈ List.replicate (directive.spaces + 1) ' ', (c != '@') = true := by
      intro c hc
      rw [List.eq_of_mem_replicate hc]
      rfl
    simp only [List.flatMap_cons, KnownDirective.chars, DirectiveKind.marker, List.append_assoc,
      List.cons_append, List.takeWhile_append_of_pos hspaces, List.takeWhile_cons,
      bne_self_eq_false, Bool.false_eq_true, if_false, List.append_nil] at hc
    exact isBlank_of_mem_spaces hc

variable (field : MarkedField)

theorem MarkedField.chars_eq :
    field.chars = field.bare.name.text ++
      (field.bare.signature ++ field.directives.flatMap KnownDirective.chars) := by
  simp [chars, FieldDefinition.chars, bare]

/-- The value of a directive is found on the line of a field if the line is announced. -/
theorem MarkedField.argument?_chars (h : field.IsAnnounced) (kind : DirectiveKind) :
    argument? field.chars kind.name = field.value? kind := by
  have hbare : '@' ∉ field.bare.name.text ++ field.bare.signature := by
    rw [List.mem_append, not_or]
    exact ⟨not_mem_of_isPlain (fun _ => field.bare.name.isPlain) rfl,
      not_mem_of_isPlain (fun _ => field.bare.isPlain_signature) rfl⟩
  rw [chars_eq, ← List.append_assoc]
  exact argument?_knownDirectives List.not_mem_nil h fun rest => afterMarker?_append hbare

/-- An announced line is read as what it says. -/
theorem MarkedField.fieldLine?_chars (h : field.IsAnnounced) (parentType : String) :
    fieldLine? parentType field.chars = some (field.toDirective parentType) := by
  have hvalue (kind : DirectiveKind) := field.argument?_chars h kind
  have hname : nameAndType? field.chars = some (field.name.text, field.fieldType.text) := by
    rw [chars_eq]
    exact field.bare.nameAndType?_append fun _ => takeWhile_knownDirectives
  rw [fieldLine?, hname, Option.map_some]
  simp only [toDirective, ← hvalue]
  rfl

/-- With another quoted text in the directive of a kind, a field says something else of this kind
only. -/
theorem MarkedField.value?_withPayload {kind : DirectiveKind}
    (hkind : kind ∈ field.directives.map (·.kind)) (payload : EscapedText)
    (other : DirectiveKind) :
    (field.withPayload kind payload).value? other =
      if other = kind then some payload.meaning else field.value? other := by
  have hfind : (field.withPayload kind payload).directives.find? (·.kind = other) =
      (field.directives.find? (·.kind = other)).map (KnownDirective.withPayload kind payload) := by
    simp only [withPayload, List.find?_map, Function.comp_def, kind_withPayload]
  rw [value?, value?, hfind]
  cases hfound : field.directives.find? (·.kind = other) with
  | none =>
    -- The replaced directive is there, so an absent one is of another kind.
    have hother : other ≠ kind := by
      rintro rfl
      obtain ⟨directive, hmem, hsame⟩ := List.mem_map.1 hkind
      simpa [hsame] using List.find?_eq_none.1 hfound directive hmem
    rw [if_neg hother]
    rfl
  | some directive =>
    have hsame : directive.kind = other := by simpa using List.find?_some hfound
    rw [Option.map_some, Option.map_some, Option.map_some, KnownDirective.withPayload, hsame]
    split <;> rfl

/-- With another quoted text in the directive of a kind, a field says what it said, but for the
value of this kind. -/
theorem MarkedField.toDirective_withPayload {kind : DirectiveKind}
    (hkind : kind ∈ field.directives.map (·.kind)) (payload : EscapedText)
    (parentType : String) :
    (field.withPayload kind payload).toDirective parentType =
      (field.toDirective parentType).withValue kind payload.meaning := by
  simp only [toDirective, field.value?_withPayload hkind payload]
  cases kind <;> rfl

end Lines

/-- **Opaque payloads.** Where no quoted text mentions a directive ahead of its place, neither
before nor after a replacement, the replacement of a quoted text by any other one changes what the
line says at most in the value of its own directive, which becomes the new text. -/
theorem payload_replaced (field : MarkedField) (kind : DirectiveKind) (payload : EscapedText)
    (parentType : String) (hkind : kind ∈ field.directives.map (·.kind))
    (hbefore : field.IsAnnounced) (hafter : (field.withPayload kind payload).IsAnnounced) :
    ∃ directive, fieldLine? parentType field.chars = some directive ∧
      fieldLine? parentType (field.withPayload kind payload).chars =
        some (directive.withValue kind payload.meaning) := by
  refine ⟨_, field.fieldLine?_chars hbefore parentType, ?_⟩
  rw [MarkedField.fieldLine?_chars _ hafter, field.toDirective_withPayload hkind]

/-- A field with a description and an owner. -/
def describedField (description : EscapedText) : MarkedField where
  name := ⟨['b', 'o', 'r', 'n'], rfl⟩
  fieldType := ⟨['D', 'a', 't', 'e'], nofun, rfl, rfl⟩
  directives :=
    [{ kind := .description, value := .quoted description },
      { kind := .owner, value := .quoted ⟨"citizen".toList, by decide⟩ }]
  distinct := (by decide : [DirectiveKind.description, .owner].Nodup)

/-- A description that looks like the end of its directive is replaced by one that mentions itself,
and a directive with a longer name. -/
theorem payload_replaced_description :
    let field := describedField ⟨"a \\\") of @description(value: \\\"x".toList, by decide⟩
    let payload : EscapedText := ⟨"@ownerRef(value: \\\"x\\\") and @description".toList, by decide⟩
    ∃ directive, fieldLine? "P" field.chars = some directive ∧
      fieldLine? "P" (field.withPayload .description payload).chars =
        some (directive.withValue .description payload.meaning) :=
  payload_replaced (describedField _) .description _ "P" (by decide) (by decide) (by decide)

/-- **Payloads are not opaque.** A quoted text that mentions a directive ahead of its place is
taken for it: another description makes the field one of its provider. -/
theorem payload_mentions_isOwner :
    let field := describedField ⟨"of the citizen".toList, by decide⟩
    let payload : EscapedText := ⟨"@isOwner(value: true)".toList, by decide⟩
    (fieldLine? "P" field.chars).map (·.isOwner) = some false ∧
      (fieldLine? "P" (field.withPayload .description payload).chars).map (·.isOwner) =
        some true ∧
      (parse "type P \x7b\n  a: S @description(value: \"@isOwner(value: true)\")\n\x7d").map
        (·.isOwner) = [true] := by
  decide +kernel

end FieldAccess.Schema
