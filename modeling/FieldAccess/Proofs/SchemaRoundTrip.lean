import FieldAccess.Proofs.FieldLines
import FieldAccess.Proofs.TypeBlocks

/-!
# Reading documents that were written

Reading inverts writing: a well-formed document is read as what its fields say, whatever follows it.
Cleaning leaves the lines of such a document as they are, but for their indentation, and its types
are the first blocks of the text.

## Main definitions

* `afterBrace` – what cleaning leaves of a text that follows a closing brace.

## Main statements

* `TypeDefinition.cleanLines_opening` – cleaning removes the indentation of the lines of a type.
* `blockFields_clean` – types are read one after another, and then what follows the last brace.
* `parse_render` – reading inverts writing.
-/

namespace FieldAccess.Schema

open Text

section Cleaning

variable {text : List Char}

/-- Cleaning a line of which only the indentation has to be removed. -/
theorem cleanLines_indented (hcomment : beforeComment? .outside text = none)
    (hblocks : KeepsBlocks text) (hbegins : BeginsSolid text) (hends : EndsSolid text)
    (hquote : '"' ∉ text.head?) (indentation : Nat) (rest : List (List Char)) :
    cleanLines false ((List.replicate indentation ' ' ++ text) :: rest) =
      text :: cleanLines false rest := by
  have houtside : outsideBlocks false false (List.replicate indentation ' ' ++ text) =
      (List.replicate indentation ' ' ++ text, false) := by
    have hindented : KeepsBlocks (List.replicate indentation ' ' ++ text) :=
      .append (.plain fun h => by cases isBlank_of_mem_spaces h) hblocks
    simpa [outsideBlocks] using hindented []
  have htrim : trim (List.replicate indentation ' ' ++ text) = text :=
    trim_indented (fun _ => isBlank_of_mem_spaces) hbegins hends
  have hdescription : withoutDescription (withoutComment text) = text := by
    rw [withoutComment, hcomment]
    obtain ⟨c, rest, rfl, -⟩ := hbegins
    rw [withoutDescription]
    rintro more h
    exact hquote (by simp [h])
  obtain ⟨c, more, htext, -⟩ := hbegins
  simp only [cleanLines, houtside, htrim, hdescription]
  simp [htext]

end Cleaning

namespace TypeDefinition

variable (type : TypeDefinition)

/-- The lines of a type, but for the closing brace. -/
def opening : List (List Char) := type.header :: type.fields.map FieldDefinition.line

/-- What cleaning leaves of these lines. -/
def openingCleaned : List (List Char) := type.header :: type.fields.map FieldDefinition.chars

theorem not_mem_header {c : Char} (hc : c = '\n' ∨ c = '"' ∨ c = '#') : c ∉ type.header := by
  have hname : c ∉ type.name.text :=
    not_mem_of_isPlain (fun _ => type.name.isPlain) (by rcases hc with rfl | rfl | rfl <;> rfl)
  simp only [header, List.mem_append, not_or]
  rcases hc with rfl | rfl | rfl
  all_goals exact ⟨⟨by decide, hname⟩, by decide⟩

theorem endsSolid_header : EndsSolid type.header :=
  EndsSolid.append ⟨[' '], '\x7b', rfl, rfl⟩ _

theorem isLine_opening {line : List Char} (hline : line ∈ type.opening) : IsLine line := by
  rcases List.mem_cons.1 hline with rfl | hline
  · exact isLine_indented (type.not_mem_header (.inl rfl)) type.endsSolid_header 0
  · obtain ⟨field, -, rfl⟩ := List.mem_map.1 hline
    exact isLine_indented field.quiet_chars.noFeed field.endsSolid_chars _

theorem cleanLines_fields (fields : List FieldDefinition) (rest : List (List Char)) :
    cleanLines false (fields.map FieldDefinition.line ++ rest) =
      fields.map FieldDefinition.chars ++ cleanLines false rest := by
  induction fields with
  | nil => rfl
  | cons field fields ih =>
    have hquote : '"' ∉ field.chars.head? := by
      intro hmem
      have := field.isPlain_of_mem_head? hmem
      cases this
    have hfield := cleanLines_indented (field.quiet_chars.shielded.beforeComment?_eq_none rfl)
      field.quiet_chars.keepsBlocks field.beginsSolid_chars field.endsSolid_chars hquote
      field.indentation
    rw [List.map_cons, List.cons_append, FieldDefinition.line, hfield, ih]
    rfl

/-- **Cleaning of types.** Cleaning removes the indentation of the lines of a type and nothing
else. -/
theorem cleanLines_opening (rest : List (List Char)) :
    cleanLines false (type.opening ++ rest) = type.openingCleaned ++ cleanLines false rest := by
  have hshielded : Shielded (· == '#') .outside type.header := by
    refine .plain fun c hc => ⟨?_, ?_⟩
    · rw [beq_eq_false_iff_ne]
      rintro rfl
      exact type.not_mem_header (.inr (.inr rfl)) hc
    · rintro rfl
      exact type.not_mem_header (.inr (.inl rfl)) hc
  have hheader := cleanLines_indented (hshielded.beforeComment?_eq_none rfl)
    (.plain (type.not_mem_header (.inr (.inl rfl)))) ⟨'t', _, rfl, rfl⟩ type.endsSolid_header
    (fun h => by cases h) 0 (type.fields.map FieldDefinition.line ++ rest)
  rw [opening, List.cons_append, openingCleaned, List.cons_append, ← cleanLines_fields]
  exact hheader

/-- The header of a type is read as its name. -/
theorem header?_header (rest : List Char) :
    header? (type.header ++ rest) = some (type.name.text, rest) := by
  have hkeyword : keyword? (type.header ++ rest) =
      some (type.name.text, ' ' :: '\x7b' :: rest) := by
    have hrest : type.header ++ rest =
        ['t', 'y', 'p', 'e'] ++ ' ' :: (type.name.text ++ ' ' :: '\x7b' :: rest) := by
      simp [header]
    have hblanks : afterBlanks? (' ' :: (type.name.text ++ ' ' :: '\x7b' :: rest)) =
        some (type.name.text ++ ' ' :: '\x7b' :: rest) := by
      rw [afterBlanks?, if_pos (by decide), type.name.beginsSolid.append.trimStart]
    rw [keyword?, hrest, afterPrefix?_append]
    simp only [hblanks, Option.bind_some]
    exact word?_append _ fun c hc => by cases hc; decide
  rw [header?, hkeyword]
  rfl

/-- The body of a type in a cleaned document. -/
def body : List Char := '\n' :: (type.fields.map FieldDefinition.chars).flatMap (· ++ ['\n'])

theorem shielded_body : Shielded isDelimiter .outside type.body := by
  have hfeed : Shielded isDelimiter .outside ['\n'] := .singleton rfl (by decide)
  refine hfeed.append (.flatMap fun line hline => ?_)
  obtain ⟨field, -, rfl⟩ := List.mem_map.1 hline
  exact field.quiet_chars.shielded.append hfeed

/-- The body of a type is read up to the brace that closes it. -/
theorem splitClosing?_body (after : List Char) :
    splitClosing? '\x7b' '\x7d' (type.body ++ '\x7d' :: after) = some (type.body, after) :=
  type.shielded_body.splitClosing?_eq rfl rfl (by decide) (by decide)

theorem lines_body : Text.lines type.body = [] :: type.fields.map FieldDefinition.chars := by
  have hlines : ∀ line ∈ type.fields.map FieldDefinition.chars, IsLine line := by
    intro line hline
    obtain ⟨field, -, rfl⟩ := List.mem_map.1 hline
    exact isLine_indented field.quiet_chars.noFeed field.endsSolid_chars 0
  have hempty : IsLine [] := ⟨List.not_mem_nil, by simp⟩
  rw [body, ← List.nil_append ('\n' :: _), lines_append hempty,
    ← List.append_nil (List.flatMap _ _), lines_flatMap hlines]
  exact congrArg _ (List.append_nil _)

/-- The body of a type is read as what its fields say. -/
theorem fields_body (start : Nat) :
    TypeBlock.fields { position := start, name := type.name.text, body := type.body } =
      type.fieldDirectives := by
  have hfield : ∀ parentType (field : FieldDefinition),
      fieldLine? parentType (trim field.chars) = some (field.toDirective parentType) := by
    intro parentType field
    rw [trim, field.beginsSolid_chars.trimStart, field.endsSolid_chars.trimEnd, fieldLine?_chars]
  simp only [TypeBlock.fields, fieldDirectives, lines_body]
  split
  · rfl
  · rw [List.filterMap_cons_none rfl, List.filterMap_map]
    simp only [Function.comp_def, hfield]
    exact congrFun List.filterMap_eq_map' _

/-- A type at the start of a cleaned document is read as what its fields say. -/
theorem blockFields_openingCleaned (after : List Char) :
    blockFields (type.openingCleaned.flatMap (· ++ ['\n']) ++ '\x7d' :: after) =
      type.fieldDirectives ++ blockFields after := by
  have htext : type.openingCleaned.flatMap (· ++ ['\n']) ++ '\x7d' :: after =
      type.header ++ (type.body ++ '\x7d' :: after) := by
    simp [openingCleaned, body]
  have hheader : findHeader? 0 false (type.header ++ (type.body ++ '\x7d' :: after)) =
      some (0, type.name.text, type.body ++ '\x7d' :: after) :=
    findHeader?_of_header? (type.header?_header _)
  rw [htext, blockFields_of_findHeader? hheader (type.splitClosing?_body after), type.fields_body]

end TypeDefinition

section Braces

/-- What cleaning leaves of a text that follows a closing brace. -/
def afterBrace (text : List Char) : List Char := (clean ('\x7d' :: text)).tail

/-- A line that begins with a brace is kept. It is no description, whatever follows the brace. -/
theorem cleanLines_brace (line : List Char) (rest : List (List Char)) :
    cleanLines false (('\x7d' :: line) :: rest) =
      ('\x7d' :: withoutComment (trimEnd (outsideBlocks false false line).1)) ::
        cleanLines (outsideBlocks false false line).2 rest := by
  have houtside : outsideBlocks false false ('\x7d' :: line) = _ :=
    KeepsBlocks.singleton (by decide) line
  have hcomment : ∀ text, withoutComment ('\x7d' :: text) = '\x7d' :: withoutComment text := by
    intro text
    have hbefore : beforeComment? .outside ('\x7d' :: text) =
        (beforeComment? .outside text).map ('\x7d' :: ·) := rfl
    rw [withoutComment, withoutComment, hbefore]
    cases beforeComment? .outside text with
    | none => rfl
    | some before => exact trimEnd_cons_of_not_blank rfl
  simp only [cleanLines, houtside, List.singleton_append, trim,
    trimStart_cons_of_not_blank (rfl : isBlank '\x7d' = false),
    trimEnd_cons_of_not_blank (rfl : isBlank '\x7d' = false), hcomment]
  rfl

theorem clean_brace (text : List Char) : clean ('\x7d' :: text) = '\x7d' :: afterBrace text := by
  obtain ⟨line, rest, hlines⟩ := exists_lines_cons (by decide : '\x7d' ≠ '\n') (by decide) text
  rw [afterBrace, clean, hlines, cleanLines_brace]
  cases cleanLines (outsideBlocks false false line).2 rest <;> rfl

theorem afterBrace_nil : afterBrace [] = [] := by decide

/-- A text on the lines behind a brace is cleaned like any other. -/
theorem blockFields_afterBrace_feed (text : List Char) :
    blockFields (afterBrace ('\n' :: text)) = blockFields (clean text) := by
  have hlines : lines ('\x7d' :: '\n' :: text) = ['\x7d'] :: lines text :=
    @lines_append ['\x7d'] text ⟨by decide, by decide⟩
  rw [afterBrace, clean, hlines, cleanLines_brace, clean]
  change blockFields (joined ['\n'] (['\x7d'] :: cleanLines false (lines text))).tail = _
  cases cleanLines false (lines text) with
  | nil => rfl
  | cons line rest => exact blockFields_feed _

end Braces

/-- The types that are written first are read as what their fields say, and what follows the last
brace is read by itself. -/
theorem TypeDefinition.blockFields_clean (type : TypeDefinition) (text : List Char) :
    blockFields (clean (type.opening.flatMap (· ++ ['\n']) ++ '\x7d' :: text)) =
      type.fieldDirectives ++ blockFields (afterBrace text) := by
  have hlines : Text.lines (type.opening.flatMap (· ++ ['\n']) ++ '\x7d' :: text) =
      type.opening ++ Text.lines ('\x7d' :: text) :=
    lines_flatMap fun line => type.isLine_opening
  have hne : cleanLines false (Text.lines ('\x7d' :: text)) ≠ [] := by
    obtain ⟨line, rest, hbrace⟩ := exists_lines_cons (by decide : '\x7d' ≠ '\n') (by decide) text
    rw [hbrace, cleanLines_brace]
    nofun
  rw [clean, hlines, type.cleanLines_opening, joined_append hne]
  change blockFields (_ ++ clean ('\x7d' :: text)) = _
  rw [clean_brace, type.blockFields_openingCleaned]

/-- Types are read one after another, and then what follows the last brace. -/
theorem blockFields_clean (document : Document) (hne : document ≠ []) (text : List Char) :
    blockFields (clean (joined ['\n'] (document.flatMap TypeDefinition.lines) ++ text)) =
      Document.fieldDirectives document ++ blockFields (afterBrace text) := by
  have hwritten : ∀ type : TypeDefinition, type.lines = type.opening ++ [['\x7d']] := fun _ => rfl
  -- What follows the brace of the first type is the rest of the document, on lines of its own.
  induction document with
  | nil => exact absurd rfl hne
  | cons type document ih =>
    rw [List.flatMap_cons, hwritten, List.append_assoc, joined_append (by simp), List.append_assoc]
    cases document with
    | nil =>
      change blockFields (clean (_ ++ '\x7d' :: text)) = _
      rw [type.blockFields_clean]
      simp [Document.fieldDirectives]
    | cons next document =>
      have hjoined : joined ['\n'] ([['\x7d']] ++ (next :: document).flatMap TypeDefinition.lines) =
          '\x7d' :: '\n' :: joined ['\n'] ((next :: document).flatMap TypeDefinition.lines) := rfl
      rw [hjoined, List.cons_append, List.cons_append, type.blockFields_clean,
        blockFields_afterBrace_feed, ih (List.cons_ne_nil _ _)]
      simp [Document.fieldDirectives]

/-- **Reading inverts writing.** A document is read as what its fields say. A text on the lines
behind it is read as if it stood alone, and whatever follows its last brace does not change what has
been read. -/
theorem parse_render (document : Document) :
    parse document.render = document.fieldDirectives ∧
      (∀ text, parse (document.render ++ "\n" ++ text) =
        document.fieldDirectives ++ parse text) ∧
      ∀ text, document.fieldDirectives <+: parse (document.render ++ text) := by
  have hfeed : "\n".toList = ['\n'] := by decide
  simp only [parse_eq, Document.render, String.toList_append, String.toList_ofList]
  by_cases hne : document = []
  · -- An empty document has no brace, and leaves an empty line in front of the text.
    subst hne
    refine ⟨rfl, fun text => ?_, fun text => List.nil_prefix⟩
    rw [hfeed]
    rfl
  · have hread := blockFields_clean document hne
    refine ⟨?_, fun text => ?_, fun text => ?_⟩
    · have hend := hread []
      rwa [List.append_nil, afterBrace_nil, show blockFields [] = [] from rfl, List.append_nil]
        at hend
    · rw [List.append_assoc, hread, hfeed]
      exact congrArg _ (blockFields_afterBrace_feed _)
    · rw [hread]
      exact List.prefix_append _ _

example :
    Document.render [{
      name := ⟨['P'], by decide⟩
      fields := [{
        name := ⟨['a'], by decide⟩
        fieldType := ⟨['T', '!'], by decide, by decide, by decide⟩
        directives := [
          { name := ⟨"ownerRef".toList, by decide⟩ },
          { name := ⟨"owner".toList, by decide⟩
            argument := some { value := .quoted ⟨") # \x7d".toList, by decide⟩ } }] }] }] =
      "type P \x7b\n  a: T! @ownerRef @owner(value: \") # \x7d\")\n\x7d" := by
  decide

end FieldAccess.Schema
