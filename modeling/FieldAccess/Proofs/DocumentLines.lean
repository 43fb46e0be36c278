import FieldAccess.Proofs.OwnLines
import FieldAccess.Proofs.SchemaRoundTrip

/-!
# Lines of written documents

Every field of a document that was written stands on a line of its own, between lines in which all
braces and strings are closed. So what holds of such lines holds of every document.

## Main definitions

* `Document.written` – the types of a document as they stand in the cleaned text.
* `Document.fieldLine` – the line of a field.

## Main statements

* `Document.document_fieldLine` – a document is its field line with the directives of the field.
* `Document.parse_fieldLine` – what stands behind the type of a field changes nothing above and
  below its line.
-/

namespace FieldAccess.Schema

open Text

section Rows

variable {row : List Char} {rows : List (List Char)}

theorem joined_cons (row : List Char) (rows : List (List Char)) :
    joined ['\n'] (row :: rows) = row ++ rows.flatMap ('\n' :: ·) := by
  induction rows generalizing row with
  | nil => simp [joined]
  | cons next rows ih => simp [joined, ih]

theorem joined_eq_intercalate (rows : List (List Char)) :
    joined ['\n'] rows = ['\n'].intercalate rows := by
  induction rows with
  | nil => rfl
  | cons row rows ih =>
    cases rows with
    | nil => simp [joined]
    | cons next rows => rw [joined, ih, List.intercalate_cons_cons]; exact List.cons_ne_nil _ _

/-- Rows are what stands between the line feeds of a text. -/
theorem splitOn_joined (hne : rows ≠ []) (hfeed : ∀ row ∈ rows, '\n' ∉ row) :
    (joined ['\n'] rows).splitOn '\n' = rows := by
  rw [joined_eq_intercalate, List.splitOn_intercalate '\n' hfeed hne]

theorem clean_joined (hne : rows ≠ []) (hfeed : ∀ row ∈ rows, '\n' ∉ row) :
    clean (joined ['\n'] rows) = joined ['\n'] (cleanLines false rows) := by
  rw [clean_eq, splitOn_joined hne hfeed]

/-- What is left of a row of which only the indentation has to be removed. -/
theorem rowText_indented (hcomment : beforeComment? .outside row = none) (hblocks : KeepsBlocks row)
    (hbegins : BeginsSolid row) (hends : EndsSolid row) (hquote : '"' ∉ row.head?)
    (indentation : Nat) : rowText false (List.replicate indentation ' ' ++ row) = row := by
  have hclean := cleanLines_indented hcomment hblocks hbegins hends hquote indentation []
  rw [cleanLines_cons, cleanLines, List.append_nil] at hclean
  split at hclean
  · cases hclean
  · exact (List.cons.inj hclean).1

end Rows

namespace TypeDefinition

variable (type : TypeDefinition)

/-- What cleaning leaves of the lines of a type. -/
def cleaned : List (List Char) := type.openingCleaned ++ [['\x7d']]

theorem cleanLines_lines (rest : List (List Char)) :
    cleanLines false (type.lines ++ rest) = type.cleaned ++ cleanLines false rest := by
  have hlines : type.lines ++ rest = type.opening ++ ['\x7d'] :: rest := by
    simp [lines, opening]
  rw [hlines, type.cleanLines_opening, cleanLines_brace, cleaned, List.append_assoc]
  rfl

theorem flatMap_cleaned :
    type.cleaned.flatMap (· ++ ['\n']) = type.header ++ type.body ++ ['\x7d', '\n'] := by
  simp [cleaned, openingCleaned, body]

end TypeDefinition

theorem FieldDefinition.quiet_line (field : FieldDefinition) : Quiet field.line :=
  .append (.plain fun c hc => .inl (by rw [List.eq_of_mem_replicate hc]; rfl)) field.quiet_chars

namespace TypeDefinition

variable (type : TypeDefinition) {row : List Char}

/-- The lines of a type hold no line feeds and no block strings. -/
theorem plain_opening (hrow : row ∈ type.opening) : '\n' ∉ row ∧ KeepsBlocks row := by
  rcases List.mem_cons.1 hrow with rfl | hrow
  · exact ⟨type.not_mem_header (.inl rfl), .plain (type.not_mem_header (.inr (.inl rfl)))⟩
  · obtain ⟨field, -, rfl⟩ := List.mem_map.1 hrow
    exact ⟨field.quiet_line.noFeed, field.quiet_line.keepsBlocks⟩

theorem plain_lines (hrow : row ∈ type.lines) : '\n' ∉ row ∧ KeepsBlocks row := by
  have hrow' : row ∈ type.opening ∨ row = ['\x7d'] := by
    simpa [lines, opening, or_assoc] using hrow
  rcases hrow' with hrow | rfl
  · exact type.plain_opening hrow
  · exact ⟨by decide, .plain (by decide)⟩

end TypeDefinition

/-- The line feed behind a type belongs to the header of the next one. -/
def lead (isFirst : Bool) : List Char := if isFirst then [] else ['\n']

theorem TypeDefinition.isHeader_lead (isFirst : Bool) (type : TypeDefinition) :
    IsHeader type.name.text (lead isFirst ++ type.header) := by
  have hheader : IsHeader type.name.text type.header :=
    ⟨0, fun rest => findHeader?_of_header? (type.header?_header rest)⟩
  cases isFirst
  · exact hheader.feed
  · exact hheader

/-- A type of a document as it stands in the cleaned text. -/
def TypeDefinition.written (isFirst : Bool) (type : TypeDefinition) : WrittenType where
  name := type.name.text
  header := lead isFirst ++ type.header
  body := type.body
  isHeader := type.isHeader_lead isFirst
  balanced := .shielded rfl rfl type.shielded_body

namespace Document

/-- The types of a document as they stand in the cleaned text. -/
def written (isFirst : Bool) : Document → List WrittenType
  | [] => []
  | type :: document => type.written isFirst :: written false document

theorem cleanLines_lines (document : Document) (rest : List (List Char)) :
    cleanLines false (document.flatMap TypeDefinition.lines ++ rest) =
      document.flatMap TypeDefinition.cleaned ++ cleanLines false rest := by
  induction document with
  | nil => rfl
  | cons type document ih =>
    rw [List.flatMap_cons, List.append_assoc, type.cleanLines_lines, ih, List.flatMap_cons,
      List.append_assoc]

/-- The types of a document stand one after another in the cleaned text. -/
theorem flatMap_written (isFirst : Bool) (document : Document) (rest : List Char) :
    lead isFirst ++ ((document.flatMap TypeDefinition.cleaned).flatMap (· ++ ['\n']) ++ rest) =
      (written isFirst document).flatMap WrittenType.text ++
        (lead (isFirst && document.isEmpty) ++ rest) := by
  induction document generalizing isFirst with
  | nil => simp [written]
  | cons type document ih =>
    have hrest := ih false
    simp only [lead, Bool.false_eq_true, if_false, Bool.false_and] at hrest
    rw [List.flatMap_cons, List.flatMap_append, type.flatMap_cleaned, written, List.flatMap_cons]
    simpa [WrittenType.text, TypeDefinition.written, lead] using hrest

end Document

namespace FieldDefinition

variable (field : FieldDefinition)

/-- The line of a field up to the end of its type. -/
def start : List Char :=
  List.replicate field.indentation ' ' ++ (field.name.text ++ field.signature)

theorem quiet_name_signature : Quiet (field.name.text ++ field.signature) :=
  .append (.plain fun _ hc => .inl (field.name.isPlain hc))
    (.plain fun _ hc => .inl (field.isPlain_signature hc))

theorem endsSolid_signature : EndsSolid field.signature := by
  have htype := (solid_of_trim field.fieldType.trimmed field.fieldType.nonempty).2
  simp only [signature]
  exact (htype.append [':', ' ']).append _

theorem not_mem_head?_name {rest : List Char} : '"' ∉ (field.name.text ++ rest).head? := by
  intro hmem
  obtain ⟨c, more, hname, -⟩ := field.name.beginsSolid
  rw [hname, List.cons_append] at hmem
  obtain rfl : c = '"' := Option.some.inj hmem
  have hplain := field.name.isPlain (c := '"') (by simp [hname])
  cases hplain

theorem isFieldStart_start :
    IsFieldStart field.start field.name.text field.fieldType.text := by
  have hquiet := field.quiet_name_signature
  have hspaces : Quiet (List.replicate field.indentation ' ') :=
    .plain fun c hc => .inl (by rw [List.eq_of_mem_replicate hc]; rfl)
  have hstart : Quiet field.start := hspaces.append hquiet
  have hends : EndsSolid (field.name.text ++ field.signature) := field.endsSolid_signature.append _
  have hrow : rowText false field.start = field.name.text ++ field.signature :=
    rowText_indented (hquiet.shielded.beforeComment?_eq_none rfl) hquiet.keepsBlocks
      field.name.beginsSolid.append hends field.not_mem_head?_name field.indentation
  have hbehind : ∀ c ∈ ([] : List Char).takeWhile (· != '@'), isBlank c = true := by simp
  have hread := field.nameAndType?_append hbehind
  rw [List.append_nil] at hread
  exact {
    noFeed := hstart.noFeed
    closed := by rw [hstart.keepsBlocks.closed]
    noComment := by
      rw [hstart.keepsBlocks.closed]
      exact hstart.shielded.beforeComment?_eq_none rfl
    solid := by
      rw [hstart.keepsBlocks.closed]
      exact (hends.append _).trimEnd
    read := by rw [hrow, hread]
    noDirective := by
      rw [hrow, List.mem_append, not_or]
      exact ⟨not_mem_of_isPlain (fun _ => field.name.isPlain) rfl,
        not_mem_of_isPlain (fun _ => field.isPlain_signature) rfl⟩
    balanced := by
      rw [hrow]
      exact .shielded rfl rfl hquiet.shielded }

theorem line_eq : field.line = field.start ++ field.directives.flatMap Directive.chars := by
  simp [line, start, chars]

theorem rowText_line : rowText false field.line = field.chars := by
  have hquote : '"' ∉ field.chars.head? := by
    rw [chars, List.append_assoc]
    exact field.not_mem_head?_name
  exact rowText_indented (field.quiet_chars.shielded.beforeComment?_eq_none rfl)
    field.quiet_chars.keepsBlocks field.beginsSolid_chars field.endsSolid_chars hquote _

end FieldDefinition

section FieldLines

variable (before after : Document) (name : Identifier) (above below : List FieldDefinition)
  (field : FieldDefinition)

namespace Document

/-- The rows of a document above a field. -/
def rowsAbove : List (List Char) :=
  before.flatMap TypeDefinition.lines ++ TypeDefinition.opening { name, fields := above }

/-- The rows of a document below a field. -/
def rowsBelow : List (List Char) :=
  below.map FieldDefinition.line ++ ['\x7d'] :: after.flatMap TypeDefinition.lines

variable {row : List Char}

theorem plain_lines (document : Document) (hrow : row ∈ document.flatMap TypeDefinition.lines) :
    '\n' ∉ row ∧ KeepsBlocks row := by
  obtain ⟨type, -, hrow⟩ := List.mem_flatMap.1 hrow
  exact type.plain_lines hrow

theorem plain_rowsAbove (hrow : row ∈ rowsAbove before name above) :
    '\n' ∉ row ∧ KeepsBlocks row :=
  (List.mem_append.1 hrow).elim (plain_lines before) (TypeDefinition.plain_opening _)

theorem plain_rowsBelow (hrow : row ∈ rowsBelow after below) : '\n' ∉ row ∧ KeepsBlocks row := by
  rcases List.mem_append.1 hrow with hrow | hrow
  · obtain ⟨field, -, rfl⟩ := List.mem_map.1 hrow
    exact ⟨field.quiet_line.noFeed, field.quiet_line.keepsBlocks⟩
  · rcases List.mem_cons.1 hrow with rfl | hrow
    · exact ⟨by decide, .plain (by decide)⟩
    · exact plain_lines after hrow

theorem rowsAbove_ne_nil : rowsAbove before name above ≠ [] := by
  simp [rowsAbove, TypeDefinition.opening]

theorem rowsBelow_ne_nil : rowsBelow after below ≠ [] := by simp [rowsBelow]

theorem clean_rowsAbove :
    clean (joined ['\n'] (rowsAbove before name above)) =
      (written true before).flatMap WrittenType.text ++
        (lead before.isEmpty ++ TypeDefinition.header { name }) ++
          (above.map FieldDefinition.chars).flatMap ('\n' :: ·) := by
  have hopening := TypeDefinition.cleanLines_opening { name, fields := above } []
  rw [cleanLines, List.append_nil, List.append_nil] at hopening
  have hcleaned : joined ['\n'] (TypeDefinition.openingCleaned { name, fields := above }) =
      TypeDefinition.header { name } ++ (above.map FieldDefinition.chars).flatMap ('\n' :: ·) :=
    joined_cons _ _
  have hwritten := flatMap_written true before
    (joined ['\n'] (TypeDefinition.openingCleaned { name, fields := above }))
  rw [clean_joined (rowsAbove_ne_nil before name above)
    fun row hrow => (plain_rowsAbove before name above hrow).1, rowsAbove, cleanLines_lines,
    hopening, joined_append (by simp [TypeDefinition.openingCleaned])]
  refine hwritten.trans ?_
  rw [hcleaned, Bool.true_and, List.append_assoc, List.append_assoc]

theorem clean_rowsBelow :
    clean (joined ['\n'] (rowsBelow after below)) =
      (below.map FieldDefinition.chars).flatMap (· ++ ['\n']) ++
        '\x7d' :: (after.flatMap TypeDefinition.cleaned).flatMap ('\n' :: ·) := by
  have hafter := cleanLines_lines after []
  rw [cleanLines, List.append_nil, List.append_nil] at hafter
  have hbrace : cleanLines false (['\x7d'] :: after.flatMap TypeDefinition.lines) =
      ['\x7d'] :: after.flatMap TypeDefinition.cleaned := by
    rw [cleanLines_brace, outsideBlocks_nil, hafter]
    rfl
  rw [clean_joined (rowsBelow_ne_nil after below)
    fun row hrow => (plain_rowsBelow after below hrow).1, rowsBelow,
    TypeDefinition.cleanLines_fields, hbrace, joined_append (List.cons_ne_nil _ _), joined_cons]
  rfl

theorem shielded_above (above : List FieldDefinition) :
    Shielded isDelimiter .outside ((above.map FieldDefinition.chars).flatMap ('\n' :: ·)) :=
  .flatMap fun line hline => by
    obtain ⟨field, -, rfl⟩ := List.mem_map.1 hline
    exact .append (.singleton rfl (by decide)) field.quiet_chars.shielded

theorem shielded_below (below : List FieldDefinition) :
    Shielded isDelimiter .outside ((below.map FieldDefinition.chars).flatMap (· ++ ['\n'])) :=
  .flatMap fun line hline => by
    obtain ⟨field, -, rfl⟩ := List.mem_map.1 hline
    exact field.quiet_chars.shielded.append (.singleton rfl (by decide))

/-- The line of a field in a document. -/
def fieldLine : FieldLine where
  before := String.ofList (joined ['\n'] (rowsAbove before name above))
  start := String.ofList field.start
  after := String.ofList (joined ['\n'] (rowsBelow after below))
  name := field.name.text
  fieldType := field.fieldType.text
  types := written true before
  parent := name.text
  header := lead before.isEmpty ++ TypeDefinition.header { name }
  opened := (above.map FieldDefinition.chars).flatMap ('\n' :: ·)
  closing := (below.map FieldDefinition.chars).flatMap (· ++ ['\n'])
  rest := (after.flatMap TypeDefinition.cleaned).flatMap ('\n' :: ·)
  closedAbove := by
    rw [inBlockString, String.toList_ofList, splitOn_joined (rowsAbove_ne_nil before name above)
      fun row hrow => (plain_rowsAbove before name above hrow).1]
    exact openBehind_of_keepsBlocks fun row hrow => (plain_rowsAbove before name above hrow).2
  cleanAbove := by rw [String.toList_ofList, clean_rowsAbove]
  isHeader := TypeDefinition.isHeader_lead _ { name }
  balancedAbove := .shielded rfl rfl (shielded_above above)
  isStart := by
    rw [String.toList_ofList]
    exact field.isFieldStart_start
  cleanBelow := by rw [String.toList_ofList, clean_rowsBelow]
  balancedBelow := .shielded rfl rfl (shielded_below below)

theorem line_fieldLine :
    ((fieldLine before after name above below field).start ++
      String.ofList (field.directives.flatMap Directive.chars)).toList = field.line := by
  rw [field.line_eq, fieldLine, String.toList_append, String.toList_ofList, String.toList_ofList]

/-- A document is the line of a field with its directives, and the lines around it. -/
theorem document_fieldLine :
    (fieldLine before after name above below field).document
        (String.ofList (field.directives.flatMap Directive.chars)) =
      render (before ++ { name, fields := above ++ field :: below } :: after) := by
  have hrows : (before ++ { name, fields := above ++ field :: below } :: after).flatMap
      TypeDefinition.lines =
        rowsAbove before name above ++ (field.line :: rowsBelow after below) := by
    simp [rowsAbove, rowsBelow, TypeDefinition.lines, TypeDefinition.opening,
      TypeDefinition.header]
  have hbelow : joined ['\n'] (field.line :: rowsBelow after below) =
      field.line ++ '\n' :: joined ['\n'] (rowsBelow after below) :=
    joined_append_of_ne_nil (List.cons_ne_nil field.line []) (rowsBelow_ne_nil after below)
  rw [← String.toList_inj, FieldLine.toList_document, line_fieldLine, render, hrows,
    joined_append_of_ne_nil (rowsAbove_ne_nil before name above) (List.cons_ne_nil _ _), hbelow]
  simp [fieldLine]

theorem closed_fieldLine :
    (fieldLine before after name above below field).Closed
      (String.ofList (field.directives.flatMap Directive.chars)) where
  noFeed := by
    rw [String.toList_ofList]
    exact (Quiet.flatMap fun directive _ => directive.quiet_chars).noFeed
  closed := by rw [line_fieldLine, field.quiet_line.keepsBlocks.closed]
  nonempty := by
    rw [line_fieldLine, field.rowText_line]
    obtain ⟨c, more, hchars, -⟩ := field.beginsSolid_chars
    rw [hchars]
    exact List.cons_ne_nil _ _
  balanced := by
    rw [line_fieldLine, field.rowText_line]
    exact .shielded rfl rfl field.quiet_chars.shielded

/-- **Documents line by line.** A document is read as the fields above the line of a field, what the
field says, and the fields below it. Another text behind the type of the field changes nothing
above and below. -/
theorem parse_fieldLine :
    let line := fieldLine before after name above below field
    let parent := String.ofList name.text
    parse (render (before ++ { name, fields := above ++ field :: below } :: after)) =
        line.fieldsAbove ++
          (if isRootType parent then [] else [field.toDirective parent]) ++ line.fieldsBelow ∧
      ∀ tail, line.Closed tail →
        parse (line.document tail) =
          line.fieldsAbove ++ line.fieldsOn tail ++ line.fieldsBelow := by
  intro line parent
  have hclosed := closed_fieldLine before after name above below field
  have hfields : line.fieldsOn (String.ofList (field.directives.flatMap Directive.chars)) =
      if isRootType parent then [] else [field.toDirective parent] := by
    have htrim : trim field.chars = field.chars :=
      trim_of_solid field.beginsSolid_chars field.endsSolid_chars
    rw [FieldLine.fieldsOn, line_fieldLine, field.rowText_line,
      bodyFields_row field.quiet_chars.noFeed, htrim, fieldLine?_chars]
    rfl
  refine ⟨?_, fun tail htail => line.parse_document htail⟩
  rw [← document_fieldLine, ← hfields]
  exact line.parse_document hclosed

end Document

end FieldLines

end FieldAccess.Schema
