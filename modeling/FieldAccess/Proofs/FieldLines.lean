import FieldAccess.Proofs.SchemaDocuments
import FieldAccess.Proofs.Shielding

/-!
# Reading of field lines

The line of a field is read as what it says: its name and type are found in front of its directives,
and the argument of each directive is found behind the first place where its whole name stands.

## Main definitions

* `Quiet` – a text in which cleaning has nothing to remove.

## Main statements

* `afterMarker?_of_ne` – a directive is not taken for one whose name it extends.
* `argument?_append` – the argument of the first directive of a name is found on a line.
* `fieldLine?_chars` – the line of a field is read as what it says.
-/

namespace FieldAccess.Schema

open Text

/-- A character that ends what can be read outside of strings: it starts a comment, or opens or
closes a block. -/
def isDelimiter (c : Char) : Bool := ['#', '\x7b', '\x7d'].contains c

/-- A text on one line in which nothing is a comment, a block string or a brace. -/
structure Quiet (text : List Char) : Prop where
  shielded : Shielded isDelimiter .outside text
  keepsBlocks : KeepsBlocks text
  noFeed : '\n' ∉ text

namespace Quiet

variable {text rest : List Char}

theorem append (htext : Quiet text) (hrest : Quiet rest) : Quiet (text ++ rest) where
  shielded := htext.shielded.append hrest.shielded
  keepsBlocks := htext.keepsBlocks.append hrest.keepsBlocks
  noFeed := by simp [htext.noFeed, hrest.noFeed]

theorem flatMap {α : Type} {f : α → List Char} {items : List α}
    (h : ∀ item ∈ items, Quiet (f item)) : Quiet (items.flatMap f) where
  shielded := .flatMap fun item hitem => (h item hitem).shielded
  keepsBlocks := .flatMap fun item hitem => (h item hitem).keepsBlocks
  noFeed := by
    rw [List.mem_flatMap]
    rintro ⟨item, hitem, hfeed⟩
    exact (h item hitem).noFeed hfeed

/-- A text of plain characters and signs of directives is quiet. -/
theorem plain (h : ∀ c ∈ text, isPlain c = true ∨ c = '@') : Quiet text := by
  have hne : ∀ c ∈ text, c ≠ '"' ∧ c ≠ '#' ∧ c ≠ '\x7b' ∧ c ≠ '\x7d' ∧ c ≠ '\n' := by
    intro c hc
    rcases h c hc with hplain | rfl
    · simp only [isPlain, List.contains_eq_mem, List.mem_cons, List.not_mem_nil, or_false,
        Bool.not_eq_true', decide_eq_false_iff_not, not_or] at hplain
      exact hplain.2
    · decide
  refine ⟨.plain fun c hc => ?_, .plain fun hquote => (hne _ hquote).1 rfl,
    fun hfeed => (hne _ hfeed).2.2.2.2 rfl⟩
  obtain ⟨hquote, hsign, hopening, hclosing, -⟩ := hne c hc
  simp [isDelimiter, hquote, hsign, hopening, hclosing]

end Quiet

section Characters

theorem Identifier.isPart (name : Identifier) {c : Char} (hc : c ∈ name.text) :
    isIdentifierPart c = true := by
  obtain ⟨text, hvalid⟩ := name
  cases text with
  | nil => simp at hc
  | cons first rest =>
    simp only [isIdentifier, Bool.and_eq_true, List.all_eq_true] at hvalid
    rcases List.mem_cons.1 hc with rfl | hrest
    · simp [isIdentifierPart, hvalid.1]
    · exact hvalid.2 c hrest

theorem Identifier.ne_nil (name : Identifier) : name.text ≠ [] := by
  obtain ⟨text, hvalid⟩ := name
  rintro rfl
  cases hvalid

theorem Identifier.beginsSolid (name : Identifier) : BeginsSolid name.text := by
  cases htext : name.text with
  | nil => exact absurd htext name.ne_nil
  | cons c rest =>
    exact ⟨c, rest, rfl, (isIdentifierPart_classes (name.isPart (by simp [htext]))).1⟩

theorem Identifier.endsSolid (name : Identifier) : EndsSolid name.text := by
  have hlast := List.dropLast_concat_getLast name.ne_nil
  exact ⟨_, _, hlast.symm, (isIdentifierPart_classes (name.isPart (List.getLast_mem _))).1⟩

theorem Identifier.isPlain (name : Identifier) {c : Char} (hc : c ∈ name.text) :
    isPlain c = true :=
  (isIdentifierPart_classes (name.isPart hc)).2.2.2

theorem Payload.not_mem (payload : Payload) {c : Char}
    (hc : ['"', '\\', '@', '\n'].contains c = true) : c ∉ payload.text := by
  intro hmem
  have := List.all_eq_true.1 payload.valid c hmem
  rw [hc] at this
  cases this

theorem not_mem_of_isPlain {text : List Char} (h : ∀ c ∈ text, isPlain c = true) {c : Char}
    (hc : isPlain c = false) : c ∉ text := by
  intro hmem
  rw [h c hmem] at hc
  cases hc

end Characters

namespace Argument

variable (argument : Argument)

theorem chars_eq : argument.chars = argument.key.chars ++ [':', ' '] ++ argument.value.chars := by
  simp [chars]

/-- Characters that stand in payloads only are shielded by an argument. -/
theorem shielded_chars {special : Char → Bool}
    (h : "valuetypetruefalse: \"".toList.all (fun c => !special c) = true) :
    Shielded special .outside argument.chars := by
  have hspecial : ∀ c, "valuetypetruefalse: \"".toList.contains c = true → special c = false :=
    fun c hc => by simpa using List.all_eq_true.1 h c (List.contains_iff_mem.1 hc)
  have hplain : ∀ text : List Char,
      text.all (fun c => "valuetypetruefalse: \"".toList.contains c && c != '"') = true →
        Shielded special .outside text := by
    intro text htext
    refine .plain fun c hc => ?_
    obtain ⟨hmem, hquote⟩ := Bool.and_eq_true_iff.1 (List.all_eq_true.1 htext c hc)
    exact ⟨hspecial c hmem, bne_iff_ne.1 hquote⟩
  obtain ⟨key, value⟩ := argument
  have hkey : Shielded special .outside (key.chars ++ [':', ' ']) := by
    cases key <;> exact hplain _ rfl
  have hvalue : Shielded special .outside value.chars := by
    cases value with
    | quoted payload =>
      have hquote : '"' ∉ payload.text := payload.not_mem rfl
      have hbackslash : '\\' ∉ payload.text := payload.not_mem rfl
      exact .quoted (hspecial '"' rfl) fun c hc =>
        ⟨fun heq => hquote (heq ▸ hc), fun heq => hbackslash (heq ▸ hc)⟩
    | truth value => cases value <;> exact hplain _ rfl
  rw [chars_eq]
  exact hkey.append hvalue

/-- An argument and the parenthesis behind it leave block strings alone. -/
theorem keepsBlocks_chars : KeepsBlocks (argument.chars ++ [')']) := by
  obtain ⟨key, value⟩ := argument
  have hkey : KeepsBlocks (key.chars ++ [':', ' ']) := by
    cases key <;> exact .plain (by decide)
  have hvalue : KeepsBlocks (value.chars ++ [')']) := by
    cases value with
    | quoted payload =>
      have hquote : '"' ∉ payload.text := payload.not_mem rfl
      simpa [Value.chars] using KeepsBlocks.quoted hquote (by decide : ')' ≠ '"')
    | truth value => cases value <;> exact .plain (by decide)
  rw [chars_eq, List.append_assoc]
  exact hkey.append hvalue

/-- An argument holds no sign of a directive and does not end its line. -/
theorem not_mem_chars {c : Char} (hc : c = '@' ∨ c = '\n') : c ∉ argument.chars := by
  obtain ⟨key, value⟩ := argument
  have hkey : c ∉ key.chars ++ [':', ' '] := by
    rcases hc with rfl | rfl <;> cases key <;> decide
  have hvalue : c ∉ value.chars := by
    cases value with
    | quoted payload =>
      rcases hc with rfl | rfl
      · simpa [Value.chars] using payload.not_mem (rfl : List.contains _ '@' = true)
      · simpa [Value.chars] using payload.not_mem (rfl : List.contains _ '\n' = true)
    | truth value => rcases hc with rfl | rfl <;> cases value <;> decide
  rw [chars_eq, List.mem_append]
  exact not_or.2 ⟨hkey, hvalue⟩

end Argument

namespace Directive

variable (directive : Directive)

theorem quiet_suffix : Quiet directive.suffix := by
  obtain ⟨_, _, _ | argument⟩ := directive
  · exact .plain nofun
  · have hopening : Shielded isDelimiter .outside ['('] := .singleton rfl (by decide)
    have hclosing : Shielded isDelimiter .outside [')'] := .singleton rfl (by decide)
    exact {
      shielded := (hopening.append (argument.shielded_chars rfl)).append hclosing
      keepsBlocks := (KeepsBlocks.singleton (by decide : '(' ≠ '"')).append
        argument.keepsBlocks_chars
      noFeed := by simp [suffix, argument.not_mem_chars (.inr rfl)] }

theorem quiet_chars : Quiet directive.chars := by
  refine .append (.plain fun c hc => ?_) directive.quiet_suffix
  simp only [List.mem_append, List.mem_replicate, List.mem_cons] at hc
  rcases hc with ⟨-, rfl⟩ | rfl | hname
  · exact .inl rfl
  · exact .inr rfl
  · exact .inl (directive.name.isPlain hname)

theorem endsSolid_chars : EndsSolid directive.chars := by
  obtain ⟨_, name, _ | argument⟩ := directive
  · simpa [chars, suffix] using name.endsSolid.append (List.replicate _ ' ' ++ ['@'])
  · exact EndsSolid.append ⟨'(' :: argument.chars, ')', rfl, rfl⟩ _

/-- No other directive begins behind the name of a directive. -/
theorem not_mem_suffix : '@' ∉ directive.suffix := by
  obtain ⟨_, _, _ | argument⟩ := directive
  · nofun
  · simp [suffix, argument.not_mem_chars (.inl rfl)]

end Directive

namespace FieldDefinition

variable (field : FieldDefinition)

theorem isPlain_signature {c : Char} (hc : c ∈ field.signature) : isPlain c = true := by
  obtain ⟨_, _, parameters, ⟨text, _, _, htext⟩, _⟩ := field
  rw [List.all_eq_true] at htext
  cases parameters with
  | none =>
    simp only [signature, List.nil_append, List.mem_cons] at hc
    rcases hc with rfl | rfl | hc
    · rfl
    · rfl
    · exact htext c hc
  | some parameters =>
    have hvalid := List.all_eq_true.1 parameters.valid
    simp only [signature, List.mem_append, List.mem_cons, List.not_mem_nil, or_false] at hc
    rcases hc with ((rfl | hc) | rfl) | rfl | rfl | hc
    · rfl
    · exact (Bool.and_eq_true_iff.1 (hvalid c hc)).1
    · rfl
    · rfl
    · rfl
    · exact htext c hc

theorem quiet_chars : Quiet field.chars := by
  refine .append (.append (.plain fun c hc => ?_) (.plain fun c hc => ?_))
    (.flatMap fun directive _ => directive.quiet_chars)
  · exact .inl (field.name.isPlain hc)
  · exact .inl (field.isPlain_signature hc)

theorem beginsSolid_chars : BeginsSolid field.chars := by
  rw [chars, List.append_assoc]
  exact field.name.beginsSolid.append

theorem isPlain_of_mem_head? {c : Char} (hc : c ∈ field.chars.head?) : isPlain c = true := by
  cases hname : field.name.text with
  | nil => exact absurd hname field.name.ne_nil
  | cons first rest =>
    obtain rfl : first = c := by simpa [chars, hname] using hc
    exact field.name.isPlain (by simp [hname])

theorem endsSolid_chars : EndsSolid field.chars := by
  refine .flatMap ?_ fun directive _ => directive.endsSolid_chars
  have htype := (solid_of_trim field.fieldType.trimmed field.fieldType.nonempty).2
  simp only [signature]
  exact ((htype.append [':', ' ']).append _).append _

end FieldDefinition

section Payloads

theorem payload?_append {text rest : List Char} (hquote : '"' ∉ text) (hbackslash : '\\' ∉ text) :
    payload? (text ++ '"' :: rest) = some text := by
  induction text with
  | nil => rfl
  | cons c text ih =>
    rw [List.mem_cons, not_or] at hquote hbackslash
    rw [List.cons_append, payload?, ih hquote.2 hbackslash.2]
    · rfl
    · exact fun h => hquote.1 h.symm
    · exact fun h => absurd h (Ne.symm hbackslash.1)
    · exact fun _ _ h => absurd h (Ne.symm hbackslash.1)

theorem unescapeQuotes_eq_self {text : List Char} (h : '\\' ∉ text) :
    unescapeQuotes text = text := by
  induction text with
  | nil => rfl
  | cons c text ih =>
    rw [List.mem_cons, not_or] at h
    rw [unescapeQuotes, ih h.2]
    exact fun _ hc => absurd hc (Ne.symm h.1)

theorem Value.not_mem_text (value : Value) : '\\' ∉ value.text := by
  cases value with
  | quoted payload => exact payload.not_mem rfl
  | truth value => cases value <;> decide

/-- The payload of an argument is what its value stands for. -/
theorem keyedPayload?_chars (argument : Argument) :
    keyedPayload? argument.chars = some argument.value.text := by
  obtain ⟨key, value⟩ := argument
  cases value with
  | quoted payload =>
    have hpayload : payload? (payload.text ++ ['"']) = some payload.text :=
      payload?_append (payload.not_mem rfl) (payload.not_mem rfl)
    cases key <;> exact hpayload
  | truth value => cases key <;> cases value <;> rfl

theorem firstPayload?_chars (argument : Argument) :
    firstPayload? false argument.chars = some argument.value.text := by
  have hpayload := keyedPayload?_chars argument
  obtain ⟨c, rest, hchars⟩ : ∃ c rest, argument.chars = c :: rest := by
    obtain ⟨_ | _, value⟩ := argument
    · exact ⟨'v', _, rfl⟩
    · exact ⟨'t', _, rfl⟩
  rw [hchars] at hpayload ⊢
  simp [firstPayload?, hpayload]

end Payloads

section Markers

variable {name text rest : List Char}

/-- A marker is not looked for where no directive begins. -/
theorem afterMarker?_append (h : '@' ∉ text) :
    afterMarker? ('@' :: name) (text ++ rest) = afterMarker? ('@' :: name) rest := by
  induction text with
  | nil => rfl
  | cons c text ih =>
    rw [List.mem_cons, not_or] at h
    rw [List.cons_append, afterMarker?, afterPrefix?_cons_of_ne h.1]
    exact ih h.2

/-- What may stand behind a name: nothing, a space, or the parenthesis before an argument. -/
def EndsName (rest : List Char) : Prop := ∀ c ∈ rest.head?, c = ' ' ∨ c = '('

theorem endsName_suffix (directive : Directive) (directives : List Directive) :
    EndsName (directive.suffix ++ directives.flatMap Directive.chars) := by
  obtain ⟨_, _, _ | argument⟩ := directive
  · cases directives with
    | nil => nofun
    | cons next directives =>
      rintro c hc
      left
      simpa [Directive.suffix, Directive.chars, List.replicate_succ, eq_comm] using hc
  · rintro c hc
    right
    simpa [Directive.suffix, eq_comm] using hc

theorem afterMarker?_self (hrest : EndsName rest) :
    afterMarker? ('@' :: name) ('@' :: name ++ rest) = some rest := by
  rw [List.cons_append, afterMarker?, ← List.cons_append, afterPrefix?_append]
  cases rest with
  | nil => rfl
  | cons c rest => rcases hrest c rfl with rfl | rfl <;> rfl

/-- **Whole names.** A marker does not match a directive of another name, even if that name extends
the one that is looked for. -/
theorem afterMarker?_of_ne {other : Identifier} (hname : ∀ c ∈ name, isIdentifierPart c = true)
    (hne : other.text ≠ name) (hrest : EndsName rest) :
    afterMarker? ('@' :: name) ('@' :: other.text ++ rest) =
      afterMarker? ('@' :: name) (other.text ++ rest) := by
  rw [List.cons_append, afterMarker?]
  cases hafter : afterPrefix? ('@' :: name) ('@' :: (other.text ++ rest)) with
  | none => rfl
  | some after =>
    have hsplit := afterPrefix?_eq_some_iff.1 hafter
    rw [List.cons_append, List.cons_inj_right, List.append_eq_append_iff] at hsplit
    rcases hsplit with ⟨more, hlonger, hmore⟩ | ⟨more, hlonger, hmore⟩
    · -- The name that is looked for would go on behind the name of the directive.
      cases more with
      | nil => exact absurd (by simpa using hlonger.symm) hne
      | cons c more =>
        have hpart := hname c (by simp [hlonger])
        rcases hrest c (by simp [hmore]) with rfl | rfl <;> cases hpart
    · -- The name of the directive goes on behind the name that is looked for.
      cases more with
      | nil => exact absurd (by simpa using hlonger) hne
      | cons c more =>
        have hpart := (isIdentifierPart_classes (other.isPart (c := c) (by simp [hlonger]))).2.2.1
        simp [hmore, hpart]

end Markers

/-- The argument behind the name of a directive is read as its payload. -/
theorem argument?_of_afterMarker? {line : List Char} {name : String} {directive : Directive}
    {directives : List Directive}
    (h : afterMarker? ('@' :: name.toList) line =
      some (directive.suffix ++ directives.flatMap Directive.chars)) :
    argument? line name =
      directive.argument.map fun argument => String.ofList argument.value.text := by
  rw [argument?, h]
  obtain ⟨_, _, _ | argument⟩ := directive
  · cases directives with
    | nil => rfl
    | cons next directives =>
      have hblank : ∀ c ∈ List.replicate (next.spaces + 1) ' ', isBlank c = true :=
        fun _ => isBlank_of_mem_spaces
      simp only [Directive.suffix, List.nil_append, List.flatMap_cons, Directive.chars,
        List.append_assoc, trimStart_append_of_blank hblank]
      rw [List.cons_append, trimStart_cons_of_not_blank rfl]
      rfl
  · have hshielded : Shielded (['(', ')'].contains ·) .outside argument.chars :=
      argument.shielded_chars rfl
    have hsplit : splitClosing? '(' ')'
        (argument.chars ++ ')' :: directives.flatMap Directive.chars) =
          some (argument.chars, directives.flatMap Directive.chars) :=
      hshielded.splitClosing?_eq rfl rfl (by decide) (by decide)
    simp only [Directive.suffix, List.cons_append, List.append_assoc, List.nil_append,
      trimStart_cons_of_not_blank (rfl : isBlank '(' = false), hsplit,
      firstPayload?_chars, Option.map_some, unescapeQuotes_eq_self argument.value.not_mem_text]

section Directives

variable {name text : List Char} (directive : Directive) (directives : List Directive)

theorem append_flatMap_cons :
    text ++ (directive :: directives).flatMap Directive.chars =
      (text ++ List.replicate (directive.spaces + 1) ' ') ++ ('@' :: directive.name.text ++
        (directive.suffix ++ directives.flatMap Directive.chars)) := by
  simp [Directive.chars]

/-- The marker of the first directive is found. -/
theorem afterMarker?_cons_self (htext : '@' ∉ text) :
    afterMarker? ('@' :: directive.name.text)
        (text ++ (directive :: directives).flatMap Directive.chars) =
      some (directive.suffix ++ directives.flatMap Directive.chars) := by
  rw [append_flatMap_cons, afterMarker?_append (by simp [htext]),
    afterMarker?_self (endsName_suffix directive directives)]

/-- Any other marker is looked for behind the first directive. -/
theorem afterMarker?_cons_of_ne (htext : '@' ∉ text)
    (hname : ∀ c ∈ name, isIdentifierPart c = true) (hne : directive.name.text ≠ name) :
    afterMarker? ('@' :: name) (text ++ (directive :: directives).flatMap Directive.chars) =
      afterMarker? ('@' :: name)
        ((directive.name.text ++ directive.suffix) ++ directives.flatMap Directive.chars) := by
  rw [append_flatMap_cons, afterMarker?_append (by simp [htext]),
    afterMarker?_of_ne hname hne (endsName_suffix directive directives), List.append_assoc]

end Directives

/-- The argument of the first directive of a name is found on a line. -/
theorem argument?_append {name : String} (hname : ∀ c ∈ name.toList, isIdentifierPart c = true)
    {text : List Char} (htext : '@' ∉ text) (directives : List Directive) :
    argument? (text ++ directives.flatMap Directive.chars) name =
      ((directives.find? fun other => other.name.text == name.toList).bind (·.argument)).map
        fun argument => String.ofList argument.value.text := by
  -- The text in front grows by the directives of other names.
  induction directives generalizing text with
  | nil =>
    have hnone : afterMarker? ('@' :: name.toList) (text ++ []) = none := afterMarker?_append htext
    rw [List.flatMap_nil, argument?, hnone]
    rfl
  | cons directive directives ih =>
    by_cases hsame : directive.name.text = name.toList
    · have hmarker := afterMarker?_cons_self directive directives htext
      rw [hsame] at hmarker
      rw [argument?_of_afterMarker? hmarker]
      simp [hsame]
    · have hbehind : '@' ∉ directive.name.text ++ directive.suffix := by
        rw [List.mem_append, not_or]
        exact ⟨not_mem_of_isPlain (fun _ => directive.name.isPlain) rfl, directive.not_mem_suffix⟩
      rw [argument?, afterMarker?_cons_of_ne directive directives htext hname hsame]
      have hrest := ih hbehind
      rw [argument?] at hrest
      rw [hrest]
      simp [hsame]

theorem FieldDefinition.argument?_chars (field : FieldDefinition) {name : String}
    (hname : name.toList.all isIdentifierPart = true) :
    Schema.argument? field.chars name = field.argument? name := by
  refine argument?_append (List.all_eq_true.1 hname) ?_ field.directives
  rw [List.mem_append, not_or]
  exact ⟨not_mem_of_isPlain (fun _ => field.name.isPlain) rfl,
    not_mem_of_isPlain (fun _ => field.isPlain_signature) rfl⟩

/-- A name is read up to where no word goes on. -/
theorem word?_append (name : Identifier) {rest : List Char}
    (hrest : ∀ c ∈ rest.head?, isWord c = false) :
    word? (name.text ++ rest) = some (name.text, rest) := by
  have hword : ∀ c ∈ name.text, isWord c = true := fun c hc =>
    (isIdentifierPart_classes (name.isPart hc)).2.1
  have hstop : rest.takeWhile isWord = [] ∧ rest.dropWhile isWord = rest := by
    cases rest with
    | nil => exact ⟨rfl, rfl⟩
    | cons c rest => simp [hrest c rfl]
  have htake : (name.text ++ rest).takeWhile isWord = name.text := by
    rw [List.takeWhile_append_of_pos hword, hstop.1, List.append_nil]
  have hdrop : (name.text ++ rest).dropWhile isWord = rest := by
    rw [List.dropWhile_append_of_pos hword, hstop.2]
  rw [word?, htake, hdrop]
  cases hname : name.text with
  | nil => exact absurd hname name.ne_nil
  | cons c more => rfl

namespace FieldDefinition

variable (field : FieldDefinition)

/-- The text behind the parameters of a field begins with a colon. -/
theorem afterArguments_signature (rest : List Char) :
    afterArguments (field.signature ++ rest) = ':' :: ' ' :: field.fieldType.text ++ rest := by
  obtain ⟨_, _, _ | parameters, fieldType, _⟩ := field
  · simp [signature, afterArguments, trimStart_cons_of_not_blank (rfl : isBlank ':' = false)]
  · have hparameters : ∀ c ∈ parameters.text, (c != ')') = true := fun c hc =>
      (Bool.and_eq_true_iff.1 (List.all_eq_true.1 parameters.valid c hc)).2
    simp [signature, afterArguments, trimStart_cons_of_not_blank (rfl : isBlank '(' = false),
      List.dropWhile_append_of_pos hparameters]

/-- In front of the first directive there are only spaces. -/
theorem takeWhile_directives (directives : List Directive) {c : Char}
    (hc : c ∈ (directives.flatMap Directive.chars).takeWhile (· != '@')) : isBlank c = true := by
  cases directives with
  | nil => cases hc
  | cons directive directives =>
    have hspaces : ∀ c ∈ List.replicate (directive.spaces + 1) ' ', (c != '@') = true := by
      intro c hc
      rw [List.eq_of_mem_replicate hc]
      rfl
    simp only [List.flatMap_cons, Directive.chars, List.append_assoc, List.cons_append,
      List.takeWhile_append_of_pos hspaces, List.takeWhile_cons, bne_self_eq_false,
      Bool.false_eq_true, if_false, List.append_nil] at hc
    exact isBlank_of_mem_spaces hc

/-- The name of a field is read in front of its signature. -/
theorem word?_signature (behind : List Char) :
    word? (field.name.text ++ (field.signature ++ behind)) =
      some (field.name.text, field.signature ++ behind) := by
  refine word?_append _ fun c hc => ?_
  obtain ⟨_, _, _ | parameters, _, _⟩ := field
  · obtain rfl : ':' = c := by simpa [signature] using hc
    decide
  · obtain rfl : '(' = c := by simpa [signature] using hc
    decide

/-- The type of a field goes on to the first directive. -/
theorem takeWhile_type (rest : List Char) :
    (' ' :: field.fieldType.text ++ rest).takeWhile (· != '@') =
      ' ' :: field.fieldType.text ++ rest.takeWhile (· != '@') := by
  refine List.takeWhile_append_of_pos fun c hc => ?_
  rw [bne_iff_ne]
  rintro rfl
  rcases List.mem_cons.1 hc with h | h
  · cases h
  · have hplain := List.all_eq_true.1 field.fieldType.valid _ h
    cases hplain

/-- The type of a field is read without the blanks around it. -/
theorem trim_type {blanks : List Char} (hblanks : ∀ c ∈ blanks, isBlank c = true) :
    trim (' ' :: field.fieldType.text ++ blanks) = field.fieldType.text := by
  obtain ⟨hbegins, hends⟩ := solid_of_trim field.fieldType.trimmed field.fieldType.nonempty
  have hspace : ∀ c ∈ [' '], isBlank c = true := fun _ => @isBlank_of_mem_spaces 1 _
  rw [trim, ← List.singleton_append, List.append_assoc, trimStart_append_of_blank hspace,
    hbegins.append.trimStart, trimEnd_append_of_blank hblanks, hends.trimEnd]

/-- The name and the type are found in front of directives, or where the line ends. -/
theorem nameAndType?_append {behind : List Char}
    (hbehind : ∀ c ∈ behind.takeWhile (· != '@'), isBlank c = true) :
    nameAndType? (field.name.text ++ (field.signature ++ behind)) =
      some (field.name.text, field.fieldType.text) := by
  have htrim := field.trim_type hbehind
  rw [nameAndType?, word?_signature]
  simp only [afterArguments_signature, List.cons_append,
    trimStart_cons_of_not_blank (rfl : isBlank ':' = false)]
  rw [← List.cons_append, takeWhile_type, List.cons_append]
  simp only [Option.some.injEq, Prod.mk.injEq, true_and]
  exact htrim

theorem nameAndType?_chars :
    nameAndType? field.chars = some (field.name.text, field.fieldType.text) := by
  rw [chars, List.append_assoc]
  exact field.nameAndType?_append fun _ => takeWhile_directives field.directives

end FieldDefinition

/-- **Field lines.** The line of a field is read as what it says. -/
theorem fieldLine?_chars (parentType : String) (field : FieldDefinition) :
    fieldLine? parentType field.chars = some (field.toDirective parentType) := by
  rw [fieldLine?, field.nameAndType?_chars, Option.map_some]
  simp only [FieldDefinition.toDirective]
  rw [field.argument?_chars rfl, field.argument?_chars rfl, field.argument?_chars rfl,
    field.argument?_chars rfl, field.argument?_chars rfl, field.argument?_chars rfl]

end FieldAccess.Schema
