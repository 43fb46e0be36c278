import FieldAccess.Proofs.KnownDirectives
import FieldAccess.Proofs.SchemaRoundTrip
import FieldAccess.Proofs.WrittenTypes

/-!
# Descriptions of fields

A quoted description is removed where a line begins. A field that a line begins with is read as if
its description were not there. In front of a field that stands on the line of its type the
description stays, and the field is not read.

## Main definitions

* `quoted` – a text as it is written between quotes.
* `oneLineType` – a type that is written on one line.

## Main statements

* `cleanLines_description` – a description says nothing where a line begins.
* `parse_oneLineType` – a type on a line of its own is read between its neighbours.
* `description_at_line_start` – which descriptions are removed, and which take their field with
  them.
-/

namespace FieldAccess.Schema

open Text

/-- A text in which quotes and backslashes are escaped. -/
def escape : List Char → List Char
  | [] => []
  | c :: text => if c = '"' ∨ c = '\\' then '\\' :: c :: escape text else c :: escape text

/-- A text as it is written between quotes. -/
def quoted (description : String) : String :=
  "\"" ++ String.ofList (escape description.toList) ++ "\""

section Escapes

variable {text rest : List Char}

theorem escaped_escape (hfeed : '\n' ∉ text) : Escaped (escape text) := by
  induction text with
  | nil => exact .nil
  | cons c text ih =>
    rw [List.mem_cons, not_or] at hfeed
    rw [escape]
    split
    · exact .escape (Ne.symm hfeed.1) (ih hfeed.2)
    · rename_i hc
      rw [not_or] at hc
      exact .plain hc.1 hc.2 (Ne.symm hfeed.1) (ih hfeed.2)

namespace Escaped

theorem notMem (h : Escaped text) : '\n' ∉ text := by
  induction h with
  | nil => exact List.not_mem_nil
  | plain hquote hbackslash hfeed hrest ih => simp [hfeed.symm, ih]
  | escape hfeed hrest ih => simp [hfeed.symm, ih]

/-- An escaped text ends at the first quote behind it. -/
theorem afterString? (h : Escaped text) (rest : List Char) :
    afterString? false (text ++ '"' :: rest) = some rest := by
  induction h with
  | nil => rfl
  | plain hquote hbackslash hfeed htext ih =>
    rw [List.cons_append, Schema.afterString?, if_neg (by decide), if_neg hbackslash,
      if_neg hquote, ih]
  | escape hfeed htext ih =>
    rw [List.cons_append, List.cons_append, Schema.afterString?, if_neg (by decide), if_pos rfl,
      Schema.afterString?, if_pos rfl, ih]

/-- Two quotes in a row do not stand at the beginning of an escaped text, even if it ends there. -/
theorem ne_quotes (h : Escaped text) (rest more : List Char) :
    text ++ '"' :: ' ' :: rest ≠ '"' :: '"' :: more := by
  cases h with
  | nil => exact fun h => absurd (List.cons.inj (List.cons.inj h).2).1 (by decide)
  | plain hquote hbackslash hfeed htext => exact fun h => hquote (List.cons.inj h).1
  | escape hfeed htext => exact fun h => absurd (List.cons.inj h).1 (by decide)

/-- A quoted text with a space behind it leaves block strings alone. -/
theorem keepsBlocks (h : Escaped text) : KeepsBlocks ('"' :: text ++ ['"', ' ']) := by
  have hkept : ∀ rest, outsideBlocks false false (text ++ '"' :: ' ' :: rest) =
      (text ++ '"' :: ' ' :: (outsideBlocks false false rest).1,
        (outsideBlocks false false rest).2) := by
    intro rest
    induction h with
    | nil =>
      rw [List.nil_append, outsideBlocks_outside, outsideBlocks_outside]
      · rfl
      · exact fun _ h => absurd h (by decide)
      · exact fun _ _ h => absurd (List.cons.inj h).1 (by decide)
    | plain hquote hbackslash hfeed htext ih =>
      rw [List.cons_append, outsideBlocks_outside (fun _ h => absurd h hquote), ih]
      rfl
    | escape hfeed htext ih =>
      rw [List.cons_append, List.cons_append,
        outsideBlocks_outside (fun _ h => absurd h (by decide)),
        outsideBlocks_outside (fun more _ => htext.ne_quotes rest more), ih]
      rfl
  intro rest
  have htext : '"' :: text ++ ['"', ' '] ++ rest = '"' :: (text ++ '"' :: ' ' :: rest) := by simp
  rw [htext, outsideBlocks_outside (fun more _ => h.ne_quotes rest more), hkept]
  simp

theorem shielded_description {special : Char → Bool} (hquote : special '"' = false)
    (hspace : special ' ' = false) (h : Escaped text) :
    Shielded special .outside ('"' :: text ++ ['"', ' ']) := by
  have hdescription := (h.shielded hquote).append (.singleton hspace (by decide))
  rwa [List.append_assoc] at hdescription

theorem quiet_description (h : Escaped text) : Quiet ('"' :: text ++ ['"', ' ']) where
  shielded := h.shielded_description rfl rfl
  keepsBlocks := h.keepsBlocks
  noFeed := by simp [h.notMem]

end Escaped

end Escapes

section Rows

variable {text row : List Char}

/-- A row that begins with neither a blank nor a quote has no description. -/
theorem withoutDescription_row (hrow : ∀ c ∈ row.head?, c ≠ '"' ∧ isBlank c = false) :
    withoutDescription (trim (uncommented (outsideBlocks false false row).1)) =
      trim (uncommented (outsideBlocks false false row).1) := by
  cases row with
  | nil => rfl
  | cons c row =>
    obtain ⟨hquote, hblank⟩ := hrow c rfl
    have hkept : ∀ text, withoutDescription (trim (c :: text)) = trim (c :: text) := by
      intro text
      rw [trim, trimStart_cons_of_not_blank hblank, trimEnd_cons_of_not_blank hblank,
        withoutDescription_of_ne hquote]
    rw [outsideBlocks_outside fun _ h => absurd h hquote, uncommented]
    cases hbefore : beforeComment? .outside (c :: (outsideBlocks false false row).1) with
    | none => exact hkept _
    | some before =>
      -- The first character of the row is that of what stands in front of a comment.
      obtain ⟨comment, hcomment⟩ := exists_of_beforeComment? hbefore
      cases before with
      | nil => rfl
      | cons d before =>
        obtain ⟨rfl, -⟩ := List.cons.inj hcomment
        exact hkept before

/-- A description in front of a row is all that is removed of it. -/
theorem rowText_description (h : Escaped text)
    (hrow : ∀ c ∈ row.head?, c ≠ '"' ∧ isBlank c = false) :
    rowText false ('"' :: text ++ ['"', ' '] ++ row) = rowText false row := by
  have hdescription : Shielded (· == '#') .outside ('"' :: text ++ ['"', ' ']) :=
    h.shielded_description rfl rfl
  have huncommented : ∀ outside, uncommented ('"' :: text ++ ['"', ' '] ++ outside) =
      '"' :: text ++ ['"', ' '] ++ uncommented outside := by
    intro outside
    rw [uncommented, uncommented, hdescription.beforeComment?_append rfl]
    cases beforeComment? .outside outside <;> rfl
  have hends : EndsSolid ('"' :: text ++ ['"']) := ⟨'"' :: text, '"', rfl, by decide⟩
  have htrim : ∀ outside, trim ('"' :: text ++ ['"', ' '] ++ outside) =
      '"' :: (text ++ '"' :: trimEnd (' ' :: outside)) := by
    intro outside
    have hsplit : '"' :: text ++ ['"', ' '] ++ outside =
        '"' :: text ++ ['"'] ++ ' ' :: outside := by simp
    rw [hsplit, trim, List.cons_append, List.cons_append, trimStart_cons_of_not_blank (by decide),
      ← List.cons_append, ← List.cons_append, hends.trimEnd_append]
    simp
  have hspace' : isBlank ' ' = true := by decide
  rw [rowText_eq, rowText_eq, h.keepsBlocks row, huncommented, htrim, withoutDescription,
    h.afterString?, withoutDescription_row hrow]
  exact (trimStart_trimEnd _).trans (trim_cons_of_blank hspace')

/-- **Descriptions.** A description says nothing where a line begins. -/
theorem cleanLines_description (h : Escaped text)
    (hrow : ∀ c ∈ row.head?, c ≠ '"' ∧ isBlank c = false) (rows : List (List Char)) :
    cleanLines false (('"' :: text ++ ['"', ' '] ++ row) :: rows) =
      cleanLines false (row :: rows) :=
  cleanLines_congr (rowText_description h hrow) (by rw [h.keepsBlocks row]) rows

end Rows

/-- A type that is written on one line. -/
def oneLineType (name : Identifier) (inner : List Char) : List Char :=
  TypeDefinition.header { name } ++ ' ' :: inner ++ [' ', '\x7d']

section OneLineTypes

variable {name : Identifier} {inner : List Char}

theorem oneLineType_eq (name : Identifier) (inner : List Char) :
    oneLineType name inner =
      (TypeDefinition.header { name } ++ [' ']) ++ (inner ++ [' ', '\x7d']) := by
  simp [oneLineType]

/-- What stands in front of the field of a type has no meaning but that of a header. -/
theorem not_mem_front {c : Char} (hc : c ∈ ['\n', '"', '#']) :
    c ∉ TypeDefinition.header { name } ++ [' '] := by
  intro hmem
  rcases List.mem_append.1 hmem with hmem | hmem
  · exact TypeDefinition.not_mem_header _ (by simpa using hc) hmem
  · rw [List.mem_singleton.1 hmem] at hc
    revert hc
    decide

theorem not_mem_oneLineType (hinner : Quiet inner) : '\n' ∉ oneLineType name inner := by
  rw [oneLineType_eq, List.mem_append, not_or]
  exact ⟨not_mem_front (by decide), by simp [hinner.noFeed]⟩

theorem keepsBlocks_oneLineType (name : Identifier) (hinner : Quiet inner) :
    KeepsBlocks (oneLineType name inner) := by
  rw [oneLineType_eq]
  exact .append (.plain (not_mem_front (by decide)))
    (hinner.keepsBlocks.append (.plain (by decide)))

theorem beforeComment?_oneLineType (hinner : Quiet inner) :
    beforeComment? .outside (oneLineType name inner) = none := by
  have hfront : Shielded (· == '#') .outside (TypeDefinition.header { name } ++ [' ']) :=
    .plain fun c hc => ⟨beq_false_of_ne fun h => not_mem_front (by decide) (h ▸ hc),
      fun h => not_mem_front (by decide) (h ▸ hc)⟩
  rw [oneLineType_eq, hfront.beforeComment?_append rfl, hinner.shielded.beforeComment?_append rfl]
  rfl

theorem openBehind_oneLineType (hinner : Quiet inner) :
    openBehind false ((oneLineType name inner).splitOn '\n') = false := by
  rw [List.splitOn_eq_singleton (not_mem_oneLineType hinner)]
  exact openBehind_of_keepsBlocks
    (List.forall_mem_singleton.2 (keepsBlocks_oneLineType name hinner))

/-- A type on one line as it is read. -/
def WrittenType.oneLine (name : Identifier) (hinner : Quiet inner) : WrittenType where
  name := name.text
  header := TypeDefinition.header { name }
  body := ' ' :: inner ++ [' ']
  isHeader := ⟨0, fun rest => findHeader?_of_header? (TypeDefinition.header?_header _ rest)⟩
  balanced := by
    have hspace : Balanced [' '] := by decide
    have hbody := Balanced.shielded rfl rfl hinner.shielded
    exact hspace.append_iff.2 (hbody.append_iff.2 hspace)

theorem clean_oneLineType (hinner : Quiet inner) :
    clean (oneLineType name inner) =
      [WrittenType.oneLine name hinner].flatMap WrittenType.text := by
  have hends : EndsSolid (oneLineType name inner) := .append ⟨[' '], '\x7d', rfl, by decide⟩ _
  have hclean := cleanLines_indented (beforeComment?_oneLineType hinner)
    (keepsBlocks_oneLineType name hinner) ⟨'t', _, rfl, by decide⟩ hends (fun h => by cases h) 0 []
  rw [clean_eq, List.splitOn_eq_singleton (not_mem_oneLineType hinner)]
  refine (congrArg _ hclean).trans ?_
  simp [joined, cleanLines, oneLineType, WrittenType.text, WrittenType.oneLine]

/-- **Types on one line.** A type on a line of its own is read between the types above it and what
stands below it. -/
theorem parse_oneLineType {before : String} {types : List WrittenType}
    (hblock : inBlockString before = false)
    (hclean : clean before.toList = types.flatMap WrittenType.text) (hinner : Quiet inner)
    (after : String) :
    parse (before ++ "\n" ++ String.ofList (oneLineType name inner) ++ "\n" ++ after) =
      types.flatMap WrittenType.fields ++
        ((if isRootType (String.ofList name.text) then []
          else (fieldLine? (String.ofList name.text) (trim inner)).toList) ++ parse after) := by
  have hdocument :
      (before ++ "\n" ++ String.ofList (oneLineType name inner) ++ "\n" ++ after).toList =
        before.toList ++ '\n' :: (oneLineType name inner ++ '\n' :: after.toList) := by
    simp
  have hfeed : '\n' ∉ ' ' :: inner ++ [' '] := by simp [hinner.noFeed]
  have hspace : isBlank ' ' = true := by decide
  have htrim : trim (' ' :: inner ++ [' ']) = trim inner := by
    rw [trim_append_of_blank (List.forall_mem_singleton.2 hspace), trim_cons_of_blank hspace]
  rw [parse_eq, hdocument, blockFields_clean_feed hblock hclean,
    blockFields_clean_feed (openBehind_oneLineType hinner) (clean_oneLineType hinner), parse_eq,
    List.flatMap_singleton, WrittenType.fields, WrittenType.oneLine, bodyFields_row hfeed, htrim]

end OneLineTypes

/-- A line that begins with a quote is not the line of a field. -/
theorem fieldLine?_quote (parentType : String) (text : List Char) :
    fieldLine? parentType ('"' :: text) = none := by
  have hword : word? ('"' :: text) = none := by
    rw [word?, List.takeWhile_cons_of_neg (by decide)]
  rw [fieldLine?, nameAndType?, hword]
  rfl

theorem toList_quoted (description : String) :
    (quoted description ++ " ").toList = '"' :: escape description.toList ++ ['"', ' '] := by
  simp [quoted]

theorem description_readAlike {description before after : String}
    (hfeed : '\n' ∉ description.toList) (hbegins : beginsText before = true)
    (hblock : inBlockString before = false)
    (hafter : ∀ c ∈ after.toList.head?, c ≠ '"' ∧ isBlank c = false) :
    ReadAlike (before ++ (quoted description ++ " ") ++ after) (before ++ after) := by
  have hescaped := escaped_escape hfeed
  obtain ⟨above, hclean⟩ := exists_clean_append hbegins hblock
  obtain ⟨row, below, hrows⟩ := exists_splitOn_cons after.toList
  have hrow : ∀ c ∈ row.head?, c ≠ '"' ∧ isBlank c = false := fun c hc =>
    hafter c (head?_of_splitOn hrows c hc)
  have hsplit := splitOn_row_append hescaped.quiet_description.noFeed hrows
  refine readAlike_of_clean ?_
  calc
    clean (before ++ (quoted description ++ " ") ++ after).toList
      = clean (before.toList ++
          ('"' :: escape description.toList ++ ['"', ' '] ++ after.toList)) := by
        rw [String.toList_append, String.toList_append, toList_quoted, List.append_assoc]
    _ = clean (before.toList ++ after.toList) := by
        rw [hclean, hclean, hsplit, hrows, cleanLines_description hescaped hrow]
    _ = clean (before ++ after).toList := by rw [String.toList_append]

/-- **Descriptions of fields.** A description in front of a field that a line begins with is read as
nothing. In front of the field of a type on one line it takes the field with it, and leaves all
other types as they are. -/
theorem description_at_line_start {description : String} (hfeed : '\n' ∉ description.toList) :
    (∀ before after : String, beginsText before = true → inBlockString before = false →
      (∀ c ∈ after.toList.head?, c ≠ '"' ∧ isBlank c = false) →
        ReadAlike (before ++ (quoted description ++ " ") ++ after) (before ++ after)) ∧
    (∀ (before after : String) (types : List WrittenType) (name : Identifier)
      (field : FieldDefinition), inBlockString before = false →
      clean before.toList = types.flatMap WrittenType.text →
        parse (before ++ "\n" ++ String.ofList (oneLineType name field.chars) ++ "\n" ++ after) =
          types.flatMap WrittenType.fields ++
            (TypeDefinition.fieldDirectives { name, fields := [field] } ++ parse after) ∧
        parse (before ++ "\n" ++ String.ofList (oneLineType name
            ((quoted description ++ " ").toList ++ field.chars)) ++ "\n" ++ after) =
          types.flatMap WrittenType.fields ++ parse after) := by
  refine ⟨fun before after hbegins hblock hafter =>
    description_readAlike hfeed hbegins hblock hafter,
    fun before after types name field hblock hclean => ⟨?_, ?_⟩⟩
  · have htrim : trim field.chars = field.chars :=
      trim_of_solid field.beginsSolid_chars field.endsSolid_chars
    rw [parse_oneLineType hblock hclean field.quiet_chars, htrim, fieldLine?_chars]
    rfl
  · have hquiet := (escaped_escape hfeed).quiet_description.append field.quiet_chars
    have hbegins : BeginsSolid ('"' :: escape description.toList ++ ['"', ' '] ++ field.chars) :=
      ⟨'"', _, rfl, by decide⟩
    have hends : EndsSolid ('"' :: escape description.toList ++ ['"', ' '] ++ field.chars) :=
      field.endsSolid_chars.append _
    rw [toList_quoted, parse_oneLineType hblock hclean hquiet, trim_of_solid hbegins hends]
    simp only [List.cons_append, fieldLine?_quote]
    simp

/-- A description with quotes, a comment sign and a brace, in front of a field on a line of its own
and in front of the field of a type on one line. -/
theorem description_at_line_start_person :
    let description := "the \"id\" # of \\ a: \x7d \"\"\""
    let field : FieldDefinition :=
      { name := ⟨['a'], by decide⟩, fieldType := ⟨['S'], by decide, by decide, by decide⟩ }
    '\n' ∉ description.toList ∧
      ReadAlike ("type P \x7b\n  " ++ (quoted description ++ " ") ++ "a: S\n\x7d")
        ("type P \x7b\n  " ++ "a: S\n\x7d") ∧
      parse ("" ++ "\n" ++ String.ofList (oneLineType ⟨['P'], by decide⟩
        ((quoted description ++ " ").toList ++ field.chars)) ++ "\n" ++ "type Q \x7b b: S \x7d") =
          parse "type Q \x7b b: S \x7d" :=
  have hfeed : '\n' ∉ "the \"id\" # of \\ a: \x7d \"\"\"".toList := by decide
  have hread := description_at_line_start hfeed
  ⟨hfeed, hread.1 _ _ (by decide +kernel) (by decide +kernel)
      fun c hc => by cases hc; decide,
    (hread.2 "" "type Q \x7b b: S \x7d" [] _ _ (by decide) (by decide)).2⟩

/-- **Descriptions are not transparent.** A description takes the field of a type on one line with
it. -/
theorem not_description_transparent :
    (parse "type P \x7b a: S \x7d").map (·.name) = ["a"] ∧
      parse "type P \x7b \"d\" a: S \x7d" = [] ∧
      unreadTypes "type P \x7b \"d\" a: S \x7d" = [] := by
  decide +kernel

end FieldAccess.Schema
