import FieldAccess.Proofs.FieldLines
import FieldAccess.Proofs.SettledTexts
import FieldAccess.Proofs.UnreadTypes

/-!
# Directives of types

Between the name of a type and the brace that opens its body there may be directives. For the reader
of headers the arguments of a directive end at the first closing parenthesis, be it in a string or
that of inner ones. As long as the arguments hold no other one, directives of types change neither
the fields that are read nor the types that are not, but for the names that follow the word `type`
inside of arguments.

## Main definitions

* `TypeDirective` – a directive of a type, as it is written.
* `TypeHead` – the word `type`, a name, and perhaps the interfaces of the type.
* `TypePlace` – a place in a document where directives of a type can stand.

## Main statements

* `TypeHead.header?_append` – the header of a type is read up to its directives, and then these.
* `TypePlace.reading` – what is read of a document and what is not.
* `type_directives_transparent` – more directives of a type change nothing.
* `not_type_directives_transparent` – a parenthesis in a string takes its type with it.
-/

namespace FieldAccess.Schema

open Text

/-- The text behind the brace that opens the body of a type, if there are only directives in front
of it. -/
def behindDirectives? (text : List Char) : Option (List Char) :=
  match trimStart (afterDirectives text.length text) with
  | '\x7b' :: body => some body
  | _ => none

/-- A text that begins with a directive or with the brace behind directives. -/
def BeginsDirective (rest : List Char) : Prop :=
  ∀ c ∈ (trimStart rest).head?, c = '@' ∨ c = '\x7b'

section Reading

variable {text rest behind : List Char}

theorem afterBlanks?_gap {gap : List Char} (hne : gap ≠ []) (hgap : ∀ c ∈ gap, isBlank c = true)
    (rest : List Char) : afterBlanks? (gap ++ rest) = some (trimStart rest) := by
  cases gap with
  | nil => exact absurd rfl hne
  | cons c gap =>
    rw [List.cons_append, afterBlanks?, if_pos (hgap c (by simp)),
      trimStart_append_of_blank fun d hd => hgap d (by simp [hd])]

theorem header?_eq (text : List Char) :
    header? text = (keyword? text).bind fun (name, rest) =>
      (behindDirectives? (afterInterfaces rest)).map (name, ·) := by
  rw [header?]
  cases keyword? text with
  | none => rfl
  | some found =>
    obtain ⟨name, rest⟩ := found
    simp only [Option.bind_some, behindDirectives?]
    generalize trimStart (afterDirectives (afterInterfaces rest).length (afterInterfaces rest)) =
      text
    cases text with
    | nil => rfl
    | cons c body =>
      by_cases hc : c = '\x7b'
      · subst hc
        rfl
      · simp [hc]

theorem length_lt_of_afterDirective? (h : afterDirective? text = some rest) :
    rest.length < text.length := by
  unfold afterDirective? at h
  split at h
  · rename_i marked hmarked
    obtain ⟨⟨name, after⟩, hword, rfl⟩ := Option.map_eq_some_iff.1 h
    have hsuffix := ((afterArguments_suffix after).trans (suffix_of_word? hword)).length_le
    have htext : ('@' :: marked).length ≤ text.length := by
      rw [← hmarked]
      exact (List.dropWhile_suffix _).length_le
    rw [List.length_cons] at htext
    exact hsuffix.trans_lt htext
  · cases h

/-- There are fewer directives than characters. -/
theorem afterDirectives_fuel {fuel fuel' : Nat} (h : text.length ≤ fuel)
    (h' : text.length ≤ fuel') : afterDirectives fuel text = afterDirectives fuel' text := by
  induction fuel generalizing fuel' text with
  | zero =>
    obtain rfl := List.eq_nil_of_length_eq_zero (Nat.le_zero.1 h)
    cases fuel' <;> rfl
  | succ fuel ih =>
    cases fuel' with
    | zero =>
      obtain rfl := List.eq_nil_of_length_eq_zero (Nat.le_zero.1 h')
      rfl
    | succ fuel' =>
      simp only [afterDirectives]
      cases hdirective : afterDirective? text with
      | none => rfl
      | some rest =>
        have hlength := length_lt_of_afterDirective? hdirective
        exact ih (by omega) (by omega)

theorem behindDirectives?_of_directive (h : afterDirective? text = some rest) :
    behindDirectives? text = behindDirectives? rest := by
  have hlength := length_lt_of_afterDirective? h
  obtain ⟨fuel, hfuel⟩ : ∃ fuel, text.length = fuel + 1 :=
    Nat.exists_eq_succ_of_ne_zero (by omega)
  have hnext : afterDirectives text.length text = afterDirectives rest.length rest := by
    rw [hfuel, afterDirectives, h]
    exact afterDirectives_fuel (by omega) le_rfl
  rw [behindDirectives?, behindDirectives?, hnext]

theorem behindDirectives?_of_none (h : afterDirective? text = none) :
    behindDirectives? text = match trimStart text with
      | '\x7b' :: body => some body
      | _ => none := by
  -- The number of directives that are looked for does not matter if there is none.
  have hstay : ∀ fuel, afterDirectives fuel text = text := by
    intro fuel
    cases fuel with
    | zero => rfl
    | succ fuel => rw [afterDirectives, h]
  rw [behindDirectives?, hstay]

theorem behindDirectives?_blanks_append {blanks : List Char}
    (hblanks : ∀ c ∈ blanks, isBlank c = true) (rest : List Char) :
    behindDirectives? (blanks ++ rest) = behindDirectives? rest := by
  have hdirective : afterDirective? (blanks ++ rest) = afterDirective? rest := by
    rw [afterDirective?, trimStart_append_of_blank hblanks, afterDirective?]
  cases hnext : afterDirective? rest with
  | none =>
    rw [behindDirectives?_of_none hnext, behindDirectives?_of_none (hdirective.trans hnext),
      trimStart_append_of_blank hblanks]
  | some next =>
    rw [behindDirectives?_of_directive hnext,
      behindDirectives?_of_directive (hdirective.trans hnext)]

theorem behindDirectives?_brace (body : List Char) :
    behindDirectives? ('\x7b' :: body) = some body := by
  have hnone : afterDirective? ('\x7b' :: body) = none := rfl
  rw [behindDirectives?_of_none hnone]
  rfl

end Reading

namespace BeginsDirective

variable {rest : List Char}

theorem endsWords (h : BeginsDirective rest) : EndsWords rest := by
  intro c hc
  rcases h c hc with rfl | rfl <;> decide

theorem blanks_append {blanks : List Char} (hblanks : ∀ c ∈ blanks, isBlank c = true)
    (h : BeginsDirective rest) : BeginsDirective (blanks ++ rest) := by
  rwa [BeginsDirective, trimStart_append_of_blank hblanks]

theorem sign (rest : List Char) : BeginsDirective ('@' :: rest) := by
  rw [BeginsDirective, trimStart_cons_of_not_blank (by decide)]
  rintro _ ⟨⟩
  exact .inl rfl

theorem brace (rest : List Char) : BeginsDirective ('\x7b' :: rest) := by
  rw [BeginsDirective, trimStart_cons_of_not_blank (by decide)]
  rintro _ ⟨⟩
  exact .inr rfl

/-- Interfaces end where the blanks in front of a directive do. -/
theorem dropWhile_eq (h : BeginsDirective rest) :
    (rest.dropWhile fun c => c != '\x7b' && c != '@') = trimStart rest := by
  have hblanks : ∀ c ∈ rest.takeWhile isBlank, (c != '\x7b' && c != '@') = true := by
    intro c hc
    have hblank := List.mem_takeWhile_imp hc
    rw [Bool.and_eq_true, bne_iff_ne, bne_iff_ne]
    constructor
    all_goals
      rintro rfl
      exact absurd hblank (by decide)
  have hsplit : rest = rest.takeWhile isBlank ++ trimStart rest :=
    List.takeWhile_append_dropWhile.symm
  conv => lhs; rw [hsplit, List.dropWhile_append_of_pos hblanks]
  cases hrest : trimStart rest with
  | nil => rfl
  | cons c more => rcases h c (by simp [hrest]) with rfl | rfl <;> rfl

end BeginsDirective

/-- The interfaces that a type implements. -/
structure Interfaces where
  gap : List Char
  /-- What follows the word `implements`. -/
  text : List Char
  gap_ne_nil : gap ≠ []
  gap_blank : ∀ c ∈ gap, isBlank c = true
  begins : ∃ c rest, text = c :: rest ∧ isBlank c = true
  plain : ∀ c ∈ text, c ≠ '\x7b' ∧ c ≠ '@'

def Interfaces.chars (interfaces : Interfaces) : List Char :=
  interfaces.gap ++ ("implements".toList ++ interfaces.text)

/-- What stands in front of the directives of a type: the word `type`, the name of the type, and
perhaps its interfaces. -/
structure TypeHead where
  gap : List Char
  name : Identifier
  interfaces : Option Interfaces := none
  gap_ne_nil : gap ≠ []
  gap_blank : ∀ c ∈ gap, isBlank c = true

namespace TypeHead

variable (head : TypeHead) {rest : List Char}

/-- What follows the name of the type. -/
def suffix : List Char := (head.interfaces.map Interfaces.chars).getD []

/-- The head of a type as it is written. -/
def chars : List Char := ['t', 'y', 'p', 'e'] ++ (head.gap ++ (head.name.text ++ head.suffix))

/-- Interfaces are passed over up to the first directive or brace. -/
theorem afterInterfaces_chars (interfaces : Interfaces) (h : BeginsDirective rest) :
    afterInterfaces (interfaces.chars ++ rest) = trimStart rest := by
  obtain ⟨gap, text, hne, hgap, ⟨c, more, rfl, hc⟩, hplain⟩ := interfaces
  have hword : (afterBlanks? (gap ++ ("implements".toList ++ c :: more) ++ rest)).bind
      (afterPrefix? "implements".toList) = some (c :: more ++ rest) := by
    have hsolid : BeginsSolid "implements".toList := ⟨'i', "mplements".toList, by decide, by decide⟩
    rw [List.append_assoc, afterBlanks?_gap hne hgap, Option.bind_some, List.append_assoc,
      hsolid.append.trimStart, afterPrefix?_append]
  have hblank : afterBlanks? (c :: more ++ rest) = some (trimStart (more ++ rest)) := by
    rw [List.cons_append, afterBlanks?, if_pos hc]
  have hplain' : ∀ d ∈ c :: more, (d != '\x7b' && d != '@') = true := by
    intro d hd
    simpa using hplain d hd
  simp only [afterInterfaces, Interfaces.chars, hword, hblank]
  rw [List.dropWhile_append_of_pos hplain', h.dropWhile_eq]

theorem afterInterfaces_of_beginsDirective (h : BeginsDirective rest) :
    afterInterfaces rest = rest := by
  have hnone : (afterBlanks? rest).bind (afterPrefix? "implements".toList) = none := by
    cases rest with
    | nil => rfl
    | cons c rest =>
      rw [afterBlanks?]
      split
      · rename_i hc
        have hstart : trimStart (c :: rest) = trimStart rest := List.dropWhile_cons_of_pos hc
        rw [BeginsDirective, hstart] at h
        rw [Option.bind_some]
        cases hrest : trimStart rest with
        | nil => rfl
        | cons d more => rcases h d (by simp [hrest]) with rfl | rfl <;> rfl
      · rfl
  rw [afterInterfaces, hnone]

theorem afterInterfaces_suffix_append (h : BeginsDirective rest) :
    behindDirectives? (afterInterfaces (head.suffix ++ rest)) = behindDirectives? rest := by
  rw [suffix]
  cases head.interfaces with
  | none => exact congrArg behindDirectives? (afterInterfaces_of_beginsDirective h)
  | some interfaces =>
    have hblanks : ∀ c ∈ rest.takeWhile isBlank, isBlank c = true :=
      fun c hc => List.mem_takeWhile_imp hc
    have hrest := behindDirectives?_blanks_append hblanks (trimStart rest)
    rw [trimStart, List.takeWhile_append_dropWhile] at hrest
    rw [hrest]
    exact congrArg behindDirectives? (afterInterfaces_chars interfaces h)

theorem head?_suffix_append (h : BeginsDirective rest) :
    ∀ c ∈ (head.suffix ++ rest).head?, isWord c = false := by
  rw [suffix]
  cases head.interfaces with
  | none => exact h.endsWords.head
  | some interfaces =>
    obtain ⟨gap, text, hne, hgap, -, -⟩ := interfaces
    obtain ⟨c, more, rfl⟩ := List.exists_cons_of_ne_nil hne
    rintro _ ⟨⟩
    exact isWord_of_isBlank (hgap c (by simp))

/-- **Headers.** The header of a type is read up to its directives, and then these. -/
theorem header?_append (h : BeginsDirective rest) :
    header? (head.chars ++ rest) = (behindDirectives? rest).map (head.name.text, ·) := by
  have hkeyword : keyword? (head.chars ++ rest) = some (head.name.text, head.suffix ++ rest) := by
    have hchars : head.chars ++ rest =
        ['t', 'y', 'p', 'e'] ++ (head.gap ++ (head.name.text ++ (head.suffix ++ rest))) := by
      simp [chars]
    rw [keyword?, hchars, afterPrefix?_append]
    simp only [afterBlanks?_gap head.gap_ne_nil head.gap_blank, Option.bind_some,
      head.name.beginsSolid.append.trimStart]
    exact word?_append head.name (head.head?_suffix_append h)
  rw [header?_eq, hkeyword, Option.bind_some]
  simp only [head.afterInterfaces_suffix_append h]

end TypeHead

/-- The arguments of a directive of a type. Their strings and comments end in them. -/
structure TypeArguments where
  /-- What stands in front of the opening parenthesis. -/
  gap : List Char := []
  /-- What stands between the parentheses. -/
  text : List Char
  isGap : IsGap gap
  settled : Settled ('(' :: text)

namespace TypeArguments

variable (arguments : TypeArguments)

def chars : List Char := arguments.gap ++ '(' :: (arguments.text ++ [')'])

/-- What cleaning leaves of arguments, without the closing parenthesis. -/
def cleaned : List Char := clean ('(' :: arguments.text)

/-- The names that follow the word `type` inside of arguments. -/
def mentioned : List (List Char) := keywordNames arguments.cleaned

end TypeArguments

/-- A directive of a type. -/
structure TypeDirective where
  /-- What stands in front of the directive. -/
  gap : List Char := []
  name : Identifier
  arguments : Option TypeArguments := none
  isGap : IsGap gap

namespace TypeDirective

variable (directive : TypeDirective)

def chars : List Char :=
  directive.gap ++ '@' ::
    (directive.name.text ++ (directive.arguments.map TypeArguments.chars).getD [])

/-- Outside of comments there is no closing parenthesis in the arguments. -/
def IsPlain : Prop := ∀ arguments ∈ directive.arguments, ')' ∉ arguments.cleaned

instance : Decidable directive.IsPlain :=
  inferInstanceAs (Decidable (∀ arguments ∈ directive.arguments, ')' ∉ arguments.cleaned))

/-- The names that follow the word `type` inside of the arguments. -/
def mentioned : List (List Char) := (directive.arguments.map TypeArguments.mentioned).getD []

end TypeDirective

/-- A cleaned text that the reader of headers passes over, and the names that follow the word `type`
in it. -/
structure PassedOver (between : List Char) (names : List (List Char)) : Prop where
  behind : ∀ rest, BeginsDirective rest →
    behindDirectives? (between ++ rest) = behindDirectives? rest
  begins : ∀ rest, BeginsDirective rest → BeginsDirective (between ++ rest)
  names : keywordNames between = names

section Directives

variable {rest : List Char}

/-- A directive ends with its name if another one follows, or the brace. -/
theorem afterDirective?_name (name : Identifier) (h : BeginsDirective rest) :
    afterDirective? ('@' :: (name.text ++ rest)) = some rest := by
  have hnone : afterArguments rest = rest := by
    rw [afterArguments]
    split
    · rename_i behind hbehind
      rcases h '(' (by simp [hbehind]) with h | h <;> cases h
    · rfl
  rw [afterDirective?, trimStart_cons_of_not_blank (by decide)]
  simp only [word?_append name h.endsWords.head, Option.map_some, hnone]

/-- A directive ends with the first closing parenthesis of its arguments. -/
theorem afterDirective?_arguments (name : Identifier) {gap inner : List Char}
    (hgap : ∀ c ∈ gap, isBlank c = true) (hinner : ')' ∉ inner) (rest : List Char) :
    afterDirective? ('@' :: (name.text ++ (gap ++ '(' :: (inner ++ ')' :: rest)))) = some rest := by
  have hends : EndsWords (gap ++ '(' :: (inner ++ ')' :: rest)) :=
    .blanks_append hgap (.cons (by decide) (by decide) _)
  have hinner' : ∀ c ∈ inner, (c != ')') = true := by
    intro c hc
    rw [bne_iff_ne]
    rintro rfl
    exact hinner hc
  have harguments : afterArguments (gap ++ '(' :: (inner ++ ')' :: rest)) = rest := by
    rw [afterArguments, trimStart_append_of_blank hgap, trimStart_cons_of_not_blank (by decide)]
    simp only [List.dropWhile_append_of_pos hinner']
    rfl
  rw [afterDirective?, trimStart_cons_of_not_blank (by decide)]
  simp only [word?_append name hends.head, Option.map_some, harguments]

theorem keywordNames_name (name : Identifier) : keywordNames name.text = [] :=
  keywordNames_of_solid fun _ hc => (isIdentifierPart_classes (name.isPart hc)).1

end Directives

namespace PassedOver

variable {blanks between : List Char} {names : List (List Char)}

theorem of_blanks (hblanks : ∀ c ∈ blanks, isBlank c = true) : PassedOver blanks [] where
  behind rest _ := behindDirectives?_blanks_append hblanks rest
  begins rest h := h.blanks_append hblanks
  names := by
    have hnames := keywordNames_blanks_append hblanks []
    rwa [List.append_nil] at hnames

theorem endsWords (h : PassedOver between names) : EndsWords between := by
  have hbegins := h.begins [] fun _ hc => by cases hc
  rw [List.append_nil] at hbegins
  exact hbegins.endsWords

/-- A directive without arguments is passed over. -/
theorem name (hblanks : ∀ c ∈ blanks, isBlank c = true) (name : Identifier)
    (h : PassedOver between names) :
    PassedOver (blanks ++ '@' :: (name.text ++ between)) names where
  behind rest hrest := by
    have hdirective := afterDirective?_name name (h.begins rest hrest)
    rw [List.append_assoc, behindDirectives?_blanks_append hblanks, List.cons_append,
      List.append_assoc, behindDirectives?_of_directive hdirective, h.behind rest hrest]
  begins rest _ := by
    rw [List.append_assoc]
    exact (BeginsDirective.sign _).blanks_append hblanks
  names := by
    rw [keywordNames_blanks_append hblanks, keywordNames_cons (by decide),
      keywordNames_append h.endsWords, keywordNames_name, h.names]
    rfl

/-- A directive with arguments is passed over if they hold no closing parenthesis. -/
theorem arguments (hblanks : ∀ c ∈ blanks, isBlank c = true) (name : Identifier)
    {gap back inner : List Char} (hgap : ∀ c ∈ gap, isBlank c = true)
    (hback : ∀ c ∈ back, isBlank c = true) (hinner : ')' ∉ inner) (h : PassedOver between names) :
    PassedOver (blanks ++ '@' :: (name.text ++ (gap ++ '(' :: (inner ++ (back ++ ')' :: between)))))
      (keywordNames ('(' :: inner) ++ names) where
  behind rest hrest := by
    have hinner' : ')' ∉ inner ++ back := by
      rw [List.mem_append, not_or]
      exact ⟨hinner, notMem_blanks hback (by decide)⟩
    have hdirective := afterDirective?_arguments name hgap hinner' (between ++ rest)
    rw [← h.behind rest hrest, ← behindDirectives?_of_directive hdirective, List.append_assoc,
      behindDirectives?_blanks_append hblanks]
    simp
  begins rest _ := by
    rw [List.append_assoc]
    exact (BeginsDirective.sign _).blanks_append hblanks
  names := by
    have hclosing : EndsWords (back ++ ')' :: between) :=
      .blanks_append hback (.cons (by decide) (by decide) _)
    have hopening : EndsWords (gap ++ '(' :: (inner ++ (back ++ ')' :: between))) :=
      .blanks_append hgap (.cons (by decide) (by decide) _)
    rw [keywordNames_blanks_append hblanks, keywordNames_cons (by decide : isWord '@' = false),
      keywordNames_append hopening, keywordNames_name, keywordNames_blanks_append hgap,
      ← List.cons_append, keywordNames_append hclosing, keywordNames_blanks_append hback,
      keywordNames_cons (by decide : isWord ')' = false), h.names]
    rfl

end PassedOver

theorem settled_name (name : Identifier) :
    Settled ('@' :: name.text) ∧ clean ('@' :: name.text) = '@' :: name.text := by
  have hplain : ∀ c, isPlain c = false → c ≠ '@' → c ∉ '@' :: name.text := by
    intro c hc hsign
    rw [List.mem_cons, not_or]
    exact ⟨hsign, not_mem_of_isPlain (fun _ => name.isPlain) hc⟩
  have hfeed := hplain '\n' rfl (by decide)
  have hquote := hplain '"' rfl (by decide)
  have hsign := hplain '#' rfl (by decide)
  exact ⟨.of_notMem hfeed hquote hsign, Settled.clean_of_notMem hfeed hquote hsign
    ⟨'@', _, rfl, by decide⟩ (name.endsSolid.append ['@'])⟩

/-- Arguments and what follows them are cleaned one after the other. -/
theorem TypeArguments.exists_clean_append (arguments : TypeArguments) {text : List Char}
    (htext : Settled text) :
    ∃ gap back, (∀ c ∈ gap, isBlank c = true) ∧ (∀ c ∈ back, isBlank c = true) ∧ ∀ rest,
      clean (text ++ (arguments.chars ++ rest)) =
        clean text ++ (gap ++ (arguments.cleaned ++ (back ++ clean (')' :: rest)))) := by
  obtain ⟨gap, hgap, hopening⟩ := htext.clean_append_gap arguments.isGap
  obtain ⟨back, hback, hclosing⟩ := arguments.settled.clean_append
  refine ⟨gap, back, hgap, hback, fun rest => ?_⟩
  have hchars : arguments.chars ++ rest =
      arguments.gap ++ '(' :: (arguments.text ++ ')' :: rest) := by
    simp [chars]
  rw [hchars, hopening '(' _ (by decide), ← List.cons_append, hclosing ')' rest (by decide)]
  rfl

/-- **Cleaned directives.** What is left of directives is passed over by the reader of headers. -/
theorem exists_clean_directives {directives : List TypeDirective}
    (hplain : ∀ directive ∈ directives, directive.IsPlain) {text gap : List Char}
    (htext : Settled text) (hgap : IsGap gap) {c : Char} (hc : IsMark c)
    (rest : List Char) :
    ∃ between, PassedOver between (directives.flatMap TypeDirective.mentioned) ∧
      clean (text ++ (directives.flatMap TypeDirective.chars ++ (gap ++ c :: rest))) =
        clean text ++ (between ++ clean (c :: rest)) := by
  -- Behind each directive cleaning starts again, so that the text in front is the directive.
  induction directives generalizing text with
  | nil =>
    obtain ⟨blanks, hblanks, hclean⟩ := htext.clean_append_gap hgap
    exact ⟨blanks, .of_blanks hblanks, hclean c rest hc⟩
  | cons directive directives ih =>
    have hothers := fun other hother => hplain other (List.mem_cons_of_mem _ hother)
    have hdirective := hplain directive List.mem_cons_self
    obtain ⟨lead, name, arguments, hlead⟩ := directive
    obtain ⟨blanks, hblanks, hclean⟩ := htext.clean_append_gap hlead
    obtain ⟨hsettled, hname⟩ := settled_name name
    generalize hmore : directives.flatMap TypeDirective.chars ++ (gap ++ c :: rest) = more at ih
    have hsplit : text ++ ((TypeDirective.mk lead name arguments hlead :: directives).flatMap
        TypeDirective.chars ++ (gap ++ c :: rest)) = text ++ (lead ++ '@' :: (name.text ++
          ((arguments.map TypeArguments.chars).getD [] ++ more))) := by
      simp [TypeDirective.chars, ← hmore]
    rw [hsplit, hclean '@' _ (by decide)]
    cases arguments with
    | none =>
      obtain ⟨between, hbetween, hrest⟩ := ih hothers hsettled
      refine ⟨_, hbetween.name hblanks name, ?_⟩
      rw [List.cons_append, hname] at hrest
      simp [hrest]
    | some arguments =>
      obtain ⟨front, back, hfront, hback, harguments⟩ := arguments.exists_clean_append hsettled
      obtain ⟨inner, hinner⟩ := IsMark.exists_clean_cons (by decide : IsMark '(') arguments.text
      have hbrace : Settled [')'] ∧ clean [')'] = [')'] := by decide +kernel
      obtain ⟨between, hbetween, hrest⟩ := ih hothers hbrace.1
      have hclosing : ')' ∉ inner := by
        have hcleaned := hdirective arguments rfl
        rw [TypeArguments.cleaned, hinner, List.mem_cons, not_or] at hcleaned
        exact hcleaned.2
      have hmentioned : keywordNames ('(' :: inner) = arguments.mentioned :=
        (congrArg keywordNames hinner).symm
      have hpassed := hbetween.arguments hblanks name hfront hback hclosing
      rw [hmentioned] at hpassed
      refine ⟨_, hpassed, ?_⟩
      have hcleaned := harguments more
      rw [List.singleton_append, hbrace.2] at hrest
      rw [hname, TypeArguments.cleaned, hinner, hrest, List.cons_append] at hcleaned
      simp [hcleaned]

/-- No header begins in a text without the word `type`. -/
theorem findHeader?_of_noWord {lead : List Char}
    (hlead : ∀ tail ∈ lead.tails, afterPrefix? ['t', 'y', 'p', 'e'] tail = none)
    (hlast : ∀ c ∈ lead.getLast?, isWord c = false) (rest : List Char) :
    findHeader? 0 false (lead ++ 't' :: rest) = findHeader? lead.length false ('t' :: rest) := by
  have hfound : ∀ position inWord, (lead = [] → inWord = false) →
      findHeader? position inWord (lead ++ 't' :: rest) =
        findHeader? (position + lead.length) false ('t' :: rest) := by
    induction lead with
    | nil =>
      intro position inWord hword
      rw [hword rfl]
      rfl
    | cons c lead ih =>
      intro position inWord _
      -- The word could only begin with the letter that follows the text.
      have hnone : header? (c :: (lead ++ 't' :: rest)) = none := by
        have hword := hlead (c :: lead) (by simp)
        rw [afterPrefix?] at hword
        rw [header?, keyword?, afterPrefix?, afterPrefix?_append_cons (by decide)]
        split at hword
        · rename_i hc
          rw [if_pos hc, hword]
          rfl
        · rename_i hc
          rw [if_neg hc]
      have hrest := ih (fun tail htail => hlead tail (by simp_all))
        (fun d hd => hlast d (by cases lead <;> simp_all)) (position + 1) (isWord c)
        (by rintro rfl; exact hlast c rfl)
      rw [List.cons_append, findHeader?, hnone, ite_self]
      simp only [hrest, List.length_cons, Nat.add_assoc, Nat.add_comm 1]
  simpa using hfound 0 false fun _ => rfl

/-- A place between the name of a type, or its interfaces, and the brace that opens its body. -/
structure TypePlace where
  /-- All that stands in front of the place. -/
  start : String
  /-- The types in front of the type. -/
  types : List WrittenType
  /-- What stands between these types and the type. -/
  lead : List Char
  head : TypeHead
  /-- What stands in front of the brace. -/
  gap : List Char
  /-- All that follows the brace. -/
  after : String
  settled : Settled start.toList
  cleanStart : clean start.toList = types.flatMap WrittenType.text ++ (lead ++ head.chars)
  /-- No header begins in front of the type. -/
  passed : ∀ rest, findHeader? 0 false (lead ++ 't' :: rest) =
    findHeader? lead.length false ('t' :: rest)
  isGap : IsGap gap

namespace TypePlace

variable (place : TypePlace)

/-- The document with directives at a place. -/
def document (directives : List TypeDirective) : String :=
  String.ofList (place.start.toList ++
    (directives.flatMap TypeDirective.chars ++ (place.gap ++ '\x7b' :: place.after.toList)))

theorem findHeader?_append {between : List Char} {names : List (List Char)}
    (h : PassedOver between names) (body : List Char) :
    findHeader? 0 false (place.lead ++ place.head.chars ++ (between ++ '\x7b' :: body)) =
      some (place.lead.length, place.head.name.text, body) := by
  have hheader : header? (place.head.chars ++ (between ++ '\x7b' :: body)) =
      some (place.head.name.text, body) := by
    rw [place.head.header?_append (h.begins _ (.brace body)), h.behind _ (.brace body),
      behindDirectives?_brace]
    rfl
  have hfound := findHeader?_add 0 place.lead.length false
    (place.head.chars ++ (between ++ '\x7b' :: body))
  rw [findHeader?_of_header? hheader, Nat.zero_add] at hfound
  rw [List.append_assoc]
  refine (place.passed _).trans (hfound.trans ?_)
  simp

/-- The names of a document that are not those of types that are read. -/
theorem exists_unread (body : List Char) :
    ∃ above below, ∀ between names, PassedOver between names →
      unread (place.lead ++ place.head.chars ++ (between ++ '\x7b' :: body)) =
        above ++ (names ++ below) := by
  have hnames : ∀ {between names}, PassedOver between names → ∀ text,
      EndsWords (between ++ '\x7b' :: text) ∧
        keywordNames (between ++ '\x7b' :: text) = names ++ keywordNames ('\x7b' :: text) := by
    intro between names h text
    have hbrace : EndsWords ('\x7b' :: text) := (BeginsDirective.brace text).endsWords
    exact ⟨(h.begins _ (.brace text)).endsWords, by rw [keywordNames_append hbrace, h.names]⟩
  cases hsplit : splitClosing? '\x7b' '\x7d' body with
  | none =>
    refine ⟨keywordNames (place.lead ++ place.head.chars), keywordNames ('\x7b' :: body), ?_⟩
    intro between names h
    obtain ⟨hends, hbetween⟩ := hnames h body
    rw [unread_of_typeBlocks_eq_nil (typeBlocks_eq_nil (place.findHeader?_append h body) hsplit),
      keywordNames_append hends, hbetween]
  | some parts =>
    obtain ⟨inner, after⟩ := parts
    refine ⟨otherNames place.lead.length (place.lead ++ place.head.chars),
      keywordNames ('\x7b' :: inner) ++ unread after, ?_⟩
    intro between names h
    obtain ⟨hends, hbetween⟩ := hnames h inner
    obtain rfl : body = inner ++ '\x7d' :: after := eq_append_of_splitClosingFrom hsplit
    have hheader := place.findHeader?_append h (inner ++ '\x7d' :: after)
    have htext : place.lead ++ place.head.chars ++
        (between ++ '\x7b' :: (inner ++ '\x7d' :: after)) =
          place.lead ++ place.head.chars ++ (between ++ '\x7b' :: inner) ++ '\x7d' :: after := by
      simp
    -- The name of the type stands in front of its directives.
    have hstart : place.lead.length < (place.lead ++ place.head.chars).length := by
      simp [TypeHead.chars]
    rw [htext] at hheader ⊢
    rw [unread_of_findHeader? hheader hsplit, otherNames_append hends hstart, hbetween]
    simp

/-- The blocks of a document are those in front of the type, its own, and those behind it. -/
theorem exists_contents (body : List Char) :
    ∃ blocks, ∀ between names, PassedOver between names →
      contents (place.lead ++ place.head.chars ++ (between ++ '\x7b' :: body)) = blocks := by
  cases hsplit : splitClosing? '\x7b' '\x7d' body with
  | none =>
    refine ⟨[], fun between names h => ?_⟩
    rw [contents, typeBlocks_eq_nil (place.findHeader?_append h body) hsplit]
    rfl
  | some parts =>
    obtain ⟨inner, after⟩ := parts
    exact ⟨_, fun between names h =>
      contents_of_findHeader? (place.findHeader?_append h body) hsplit⟩

/-- **Reading.** The fields that are read do not depend on the directives, and the types that are
not read are the same but for those that the directives mention. -/
theorem reading :
    ∃ fields above below, ∀ directives : List TypeDirective,
      (∀ directive ∈ directives, directive.IsPlain) →
        parse (place.document directives) = fields ∧
        unreadTypes (place.document directives) =
          (above ++ (directives.flatMap TypeDirective.mentioned ++ below)).map String.ofList := by
  obtain ⟨body, hbody⟩ := IsMark.exists_clean_cons (by decide : IsMark '\x7b') place.after.toList
  obtain ⟨front, hfront⟩ := exists_unread_append place.types
  -- What is left of the directives differs, but all that is read of the document does not depend on
  -- it, apart from the names that it brings with it.
  obtain ⟨above, below, hunread⟩ := place.exists_unread body
  obtain ⟨blocks, hblocks⟩ := place.exists_contents body
  refine ⟨place.types.flatMap WrittenType.fields ++ blocks.flatMap fun (name, body) =>
    bodyFields name body, front ++ above, below, fun directives hplain => ?_⟩
  obtain ⟨between, hbetween, hclean⟩ := exists_clean_directives hplain place.settled place.isGap
    (by decide : IsMark '\x7b') place.after.toList
  have hdocument : clean (place.document directives).toList =
      place.types.flatMap WrittenType.text ++
        (place.lead ++ place.head.chars ++ (between ++ '\x7b' :: body)) := by
    rw [document, String.toList_ofList, hclean, place.cleanStart, hbody]
    simp
  constructor
  · rw [parse_eq, hdocument, blockFields_append, blockFields_eq_contents, hblocks _ _ hbetween]
  · rw [unreadTypes_eq, hdocument, hfront, hunread _ _ hbetween, List.append_assoc]

end TypePlace

/-- **Directives of types.** More directives of a type do not change the fields that are read, as
long as no directive has a closing parenthesis in its arguments. The types that are not read stay
the same too, as long as no name follows the word `type` in the arguments that are added. -/
theorem type_directives_transparent (place : TypePlace) (front added back : List TypeDirective)
    (hplain : ∀ directive ∈ front ++ added ++ back, directive.IsPlain) :
    parse (place.document (front ++ added ++ back)) = parse (place.document (front ++ back)) ∧
      ((∀ directive ∈ added, directive.mentioned = []) →
        unreadTypes (place.document (front ++ added ++ back)) =
          unreadTypes (place.document (front ++ back))) := by
  obtain ⟨fields, above, below, hreading⟩ := place.reading
  have hplain' : ∀ directive ∈ front ++ back, directive.IsPlain := by
    intro directive hmem
    refine hplain directive ?_
    simp only [List.mem_append] at hmem ⊢
    exact hmem.elim (.inl ∘ .inl) .inr
  obtain ⟨hfields, hunread⟩ := hreading _ hplain
  obtain ⟨hfields', hunread'⟩ := hreading _ hplain'
  refine ⟨hfields.trans hfields'.symm, fun hsilent => ?_⟩
  rw [hunread, hunread', List.flatMap_append, List.flatMap_append, List.flatMap_append,
    List.flatMap_eq_nil_iff.2 hsilent, List.append_nil]

/-- A type with interfaces, below other definitions and comments. -/
def TypePlace.person : TypePlace where
  start := "# people\ntype Query \x7b\n  me: Person\n\x7d\nscalar Date # of a day\ntype Person\n" ++
    "  implements Node & Entity # type (\n"
  types := [.query]
  lead := "\nscalar Date\n".toList
  head :=
    { gap := [' ']
      name := ⟨"Person".toList, by decide⟩
      interfaces := some
        { gap := ['\n']
          text := " Node & Entity".toList
          gap_ne_nil := by decide
          gap_blank := List.all_eq_true.1 rfl
          begins := ⟨' ', "Node & Entity".toList, by decide, by decide⟩
          plain := by simp }
      gap_ne_nil := by decide
      gap_blank := List.all_eq_true.1 rfl }
  gap := "\n".toList
  after := "\n  id: ID! @isOwner(value: true)\n\x7d\ntype Q \x7b c: S \x7d"
  settled := by decide +kernel
  cleanStart := by decide +kernel
  passed := findHeader?_of_noWord (by decide +kernel)
    (by simpa using (by decide : isWord '\n' = false))
  isGap := .blank (by decide) .nil

/-- A directive with a comment, a parenthesis and braces in its arguments. -/
def TypeDirective.key : TypeDirective where
  gap := ' ' :: '#' :: (" the keys (".toList ++ ['\n'])
  name := ⟨"key".toList, by decide⟩
  arguments := some
    { text := "fields: \"id \x7b (\", # )\n  about: \"\"\"the type\n \x7b \"\"\"".toList
      isGap := .nil
      settled := by decide +kernel }
  isGap := .blank (by decide) (.comment (by decide) (by decide) .nil)

/-- A directive with braces, a parenthesis and comments. -/
theorem type_directives_transparent_key :
    let entity : TypeDirective := { name := ⟨"entity".toList, by decide⟩, isGap := .nil }
    let front := [entity]
    let added := [.key, entity]
    (∀ directive ∈ front ++ added ++ [.key], directive.IsPlain) ∧
      (∀ directive ∈ added, directive.mentioned = []) ∧
      parse (TypePlace.person.document (front ++ added ++ [.key])) =
        parse (TypePlace.person.document (front ++ [.key])) ∧
      unreadTypes (TypePlace.person.document (front ++ added ++ [.key])) =
        unreadTypes (TypePlace.person.document (front ++ [.key])) := by
  intro entity front added
  have hplain : ∀ directive ∈ front ++ added ++ [.key], directive.IsPlain := by decide +kernel
  have hsilent : ∀ directive ∈ added, directive.mentioned = [] := by decide +kernel
  have hsame := type_directives_transparent TypePlace.person front added [.key] hplain
  exact ⟨hplain, hsilent, hsame.1, hsame.2 hsilent⟩

/-- **Directives of types are not transparent.** A closing parenthesis in a string takes the type
with it, and a text about types is taken for one. -/
theorem not_type_directives_transparent :
    (parse "type P \x7b\n  a: S\n\x7d").map (·.name) = ["a"] ∧
      unreadTypes "type P \x7b\n  a: S\n\x7d" = [] ∧
      parse "type P @key(fields: \"a)\") \x7b\n  a: S\n\x7d" = [] ∧
      unreadTypes "type P @key(fields: \"a)\") \x7b\n  a: S\n\x7d" = ["P"] ∧
      unreadTypes "type P @about(text: \"a type of person\") \x7b\n  a: S\n\x7d" = ["of"] := by
  decide +kernel

end FieldAccess.Schema
