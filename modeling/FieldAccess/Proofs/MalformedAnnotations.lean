import FieldAccess.Proofs.DocumentLines

/-!
# Malformed annotations

An annotation that cannot be read affects its own field only, as long as every string and every
block string that begins in it ends in it. A string that does not end hides the brace that closes
the type, and with it all that follows.

## Main definitions

* `ClosesStrings` – a text that ends the strings that it begins.

## Main statements

* `FieldLine.closed_annotated` – a line is closed if its annotation ends its strings.
* `annotation_affects_own_field` – whatever an annotation says, the other fields are read alike.
* `not_annotation_affects_own_field` – an unclosed quote takes the whole document with it.
-/

namespace FieldAccess.Schema

open Text

/-- A text that ends the strings and the block strings that it begins. -/
def ClosesStrings (text : List Char) : Prop :=
  (outsideBlocks false false text).2 = false ∧
    QuoteState.behind .outside (outsideBlocks false false text).1 = .outside

instance (text : List Char) : Decidable (ClosesStrings text) := inferInstanceAs (Decidable (_ ∧ _))

namespace IsFieldStart

variable {start name fieldType text : List Char}

/-- An annotation is what is left of it outside of block strings. -/
theorem rowText_annotated (h : IsFieldStart start name fieldType) (hsign : '#' ∉ text) :
    rowText false (start ++ (" @description(value: ".toList ++ text)) =
      rowText false start ++ (" @description(value:".toList ++
        trimEnd (' ' :: (outsideBlocks false false text).1)) := by
  have hplain : KeepsBlocks " @description(value: ".toList := .plain (by decide)
  have hspace : " @description(value: ".toList = " @description(value:".toList ++ [' '] := by decide
  have hsolid : EndsSolid " @description(value:".toList :=
    ⟨" @description(value".toList, ':', by decide, by decide⟩
  have htrim : trimEnd (outsideBlocks false false (" @description(value: ".toList ++ text)).1 =
      " @description(value:".toList ++ trimEnd (' ' :: (outsideBlocks false false text).1) := by
    rw [hplain text, hspace, List.append_assoc, List.singleton_append, hsolid.trimEnd_append]
  have hsign' : '#' ∉ " @description(value: ".toList ++ text := by simp [hsign]
  have htail : trimEnd (outsideBlocks false false
      (" @description(value: ".toList ++ text)).1 ≠ [] := by
    rw [htrim]
    simp
  rw [h.rowText_append (by simp) hsign' htail, htrim]

/-- A block string is open behind an annotation if the annotation leaves one open. -/
theorem outsideBlocks_annotated (h : IsFieldStart start name fieldType) (text : List Char) :
    (outsideBlocks false false (start ++ (" @description(value: ".toList ++ text))).2 =
      (outsideBlocks false false text).2 := by
  have hplain : KeepsBlocks " @description(value: ".toList := .plain (by decide)
  have hrow := outsideBlocks_append (by decide : ' ' ≠ '"') false false start
    ("@description(value: ".toList ++ text)
  have htext := congrArg Prod.snd (hplain text)
  rw [h.closed] at hrow
  exact (congrArg Prod.snd hrow).trans htext

theorem nameAndType?_annotated (h : IsFieldStart start name fieldType) (hsign : '#' ∉ text) :
    nameAndType? (rowText false (start ++ (" @description(value: ".toList ++ text))) =
      some (name, fieldType) := by
  rw [h.rowText_annotated hsign]
  exact nameAndType?_append_directive h.read h.noDirective _

/-- The braces of a line are closed behind an annotation if its strings are. -/
theorem balanced_annotated (h : IsFieldStart start name fieldType)
    (htext : ∀ c ∈ text, c ∉ ['\n', '\x7b', '\x7d', '#']) (hstrings : ClosesStrings text) :
    Balanced (rowText false (start ++ (" @description(value: ".toList ++ text))) := by
  have hmark : ∀ c ∈ ['\x7b', '\x7d'], c ∉ " @description(value:".toList ∧ c ≠ ' ' := by simp
  -- A block string leaves a blank behind, and no brace.
  have hbrace : ∀ c ∈ ['\x7b', '\x7d'], c ∉ " @description(value:".toList ++
      trimEnd (' ' :: (outsideBlocks false false text).1) := by
    intro c hc hmem
    have hmem' := (List.mem_append.1 hmem).resolve_left (hmark c hc).1
    have hmem'' := (List.mem_cons.1 ((trimEnd_isPrefix _).subset hmem')).resolve_left (hmark c hc).2
    exact htext c ((mem_outsideBlocks hmem'').resolve_left (hmark c hc).2)
      (List.mem_cons_of_mem _ (List.mem_append_left ['#'] hc))
  have hstate : QuoteState.behind .outside (" @description(value:".toList ++
      trimEnd (' ' :: (outsideBlocks false false text).1)) = .outside := by
    rw [QuoteState.behind_append]
    exact behind_trimEnd hstrings.2
  have hsign : '#' ∉ text := fun hmem => htext _ hmem (by decide)
  rw [h.rowText_annotated hsign]
  exact h.balanced.append_iff.2 (.of_notMem (hbrace _ (by decide)) (hbrace _ (by decide)) hstate)

end IsFieldStart

namespace FieldLine

variable (line : FieldLine) {text : String}

theorem toList_annotated (text : String) :
    (line.start ++ (" @description(value: " ++ text)).toList =
      line.start.toList ++ (" @description(value: ".toList ++ text.toList) := by
  rw [String.toList_append, String.toList_append]

theorem closed_annotated (htext : ∀ c ∈ text.toList, c ∉ ['\n', '\x7b', '\x7d', '#'])
    (hstrings : ClosesStrings text.toList) : line.Closed (" @description(value: " ++ text) where
  noFeed := by
    rw [String.toList_append, List.mem_append, not_or]
    exact ⟨by decide, fun hfeed => htext _ hfeed (by decide)⟩
  closed := by
    rw [toList_annotated, line.isStart.outsideBlocks_annotated, hstrings.1]
  nonempty := by
    rw [toList_annotated, line.isStart.rowText_annotated fun hsign => htext _ hsign (by decide)]
    simp
  balanced := by
    rw [toList_annotated]
    exact line.isStart.balanced_annotated htext hstrings

/-- A field keeps its name and its type whatever its annotation says. -/
theorem fieldsOn_annotated (htext : ∀ c ∈ text.toList, c ∉ ['\n', '\x7b', '\x7d', '#']) :
    (line.fieldsOn (" @description(value: " ++ text)).map
        (fun field => (field.name, field.fieldType, field.parentType)) =
      if isRootType (String.ofList line.parent) then []
      else [(String.ofList line.name, String.ofList line.fieldType,
        String.ofList line.parent)] := by
  have hsign : '#' ∉ text.toList := fun hsign => htext _ hsign (by decide)
  have hread := line.isStart.nameAndType?_annotated hsign
  have hfeed : '\n' ∉ rowText false
      (line.start.toList ++ (" @description(value: ".toList ++ text.toList)) := by
    intro hmem
    rcases mem_rowText hmem with h | h
    · cases h
    · simp only [List.mem_append] at h
      rcases h with h | h | h
      · exact line.isStart.noFeed h
      · revert h
        decide
      · exact htext _ h (by decide)
  rw [fieldsOn, toList_annotated, bodyFields_row hfeed, trim_rowText, fieldLine?, hread]
  split <;> rfl

end FieldLine

/-- **Annotations.** Whatever stands in an annotation, the types above its type are read as they
are. If the annotation ends the strings that it begins, all other fields and types of the document
are read as they are too, and its own field keeps its name and its type. Every field of a document
that was written is on such a line: an annotation in the place of its directives leaves what is read
of all other fields, and the types, as they were. -/
theorem annotation_affects_own_field (line : FieldLine) {text : String}
    (htext : ∀ c ∈ text.toList, c ∉ ['\n', '\x7b', '\x7d', '#']) :
    let annotated := " @description(value: " ++ text
    (line.types.flatMap WrittenType.fields <+: parse (line.document annotated) ∧
      line.types.map (fun type => String.ofList type.name) <+:
        parsedTypes (line.document annotated)) ∧
    (ClosesStrings text.toList → ∀ tail, line.Closed tail →
      parse (line.document tail) =
        line.fieldsAbove ++ line.fieldsOn tail ++ line.fieldsBelow ∧
      parse (line.document annotated) =
        line.fieldsAbove ++ line.fieldsOn annotated ++ line.fieldsBelow ∧
      (line.fieldsOn annotated).map
          (fun field => (field.name, field.fieldType, field.parentType)) =
        (if isRootType (String.ofList line.parent) then []
        else [(String.ofList line.name, String.ofList line.fieldType,
          String.ofList line.parent)]) ∧
      parsedTypes (line.document annotated) = parsedTypes (line.document tail)) ∧
    ∀ (before after : Document) (name : Identifier) (above below : List FieldDefinition)
      (field : FieldDefinition),
      line = Document.fieldLine before after name above below field →
        let document :=
          Document.render (before ++ { name, fields := above ++ field :: below } :: after)
        let parent := String.ofList name.text
        line.document (String.ofList (field.directives.flatMap Directive.chars)) = document ∧
        parse document = line.fieldsAbove ++
          (if isRootType parent then [] else [field.toDirective parent]) ++ line.fieldsBelow ∧
        (ClosesStrings text.toList →
          parse (line.document annotated) =
            line.fieldsAbove ++ line.fieldsOn annotated ++ line.fieldsBelow ∧
          parsedTypes (line.document annotated) = parsedTypes document) := by
  refine ⟨line.prefix_document _, fun hstrings tail htail => ?_, ?_⟩
  · have hannotated := line.closed_annotated htext hstrings
    exact ⟨line.parse_document htail, line.parse_document hannotated,
      line.fieldsOn_annotated htext, by
        rw [line.parsedTypes_document hannotated, line.parsedTypes_document htail]⟩
  · intro before after name above below field hline document parent
    obtain ⟨hread, hchanged⟩ := Document.parse_fieldLine before after name above below field
    have hdocument := Document.document_fieldLine before after name above below field
    have hclosed := Document.closed_fieldLine before after name above below field
    rw [← hline] at hread hchanged hdocument hclosed
    refine ⟨hdocument, hread, fun hstrings => ?_⟩
    have hannotated := line.closed_annotated htext hstrings
    refine ⟨hchanged _ hannotated, ?_⟩
    rw [line.parsedTypes_document hannotated, ← line.parsedTypes_document hclosed, hdocument]

/-- A field with a description, below a type of operations and a comment. -/
def FieldLine.person : FieldLine where
  before := "# people\ntype Query \x7b\n  me: Person\n\x7d\ntype Person @key(fields: \"id\") \x7b"
  start := "  \"the # of a person\" id: ID!"
  after := "  name: String @description(value: \"a \x7d # b\")\n\x7d\ntype Q \x7b c: S \x7d"
  name := "id".toList
  fieldType := "ID!".toList
  types := [.query]
  parent := "Person".toList
  header := "\ntype Person @key(fields: \"id\") \x7b".toList
  opened := []
  closing := "name: String @description(value: \"a \x7d # b\")\n".toList
  rest := "\ntype Q \x7b c: S \x7d".toList
  closedAbove := by decide +kernel
  cleanAbove := by decide +kernel
  isHeader := .feed (.of_header? (by decide +kernel))
  balancedAbove := by decide
  isStart := by constructor <;> decide +kernel
  cleanBelow := by decide +kernel
  balancedBelow := by decide +kernel

/-- A field of a type of written documents. -/
def FieldDefinition.nic : FieldDefinition where
  name := ⟨"nic".toList, by decide⟩
  fieldType := ⟨['S'], by decide, by decide, by decide⟩
  directives := [{
    name := ⟨"owner".toList, by decide⟩
    argument := some { value := .quoted ⟨"drp".toList, by decide⟩ } }]

/-- An annotation without an end, and with parentheses and a directive in its text, leaves the other
fields as they are; and so it does in a document with two fields that was written. -/
theorem annotation_affects_own_field_person :
    let text := "\"x\\\" @isOwner(value: true)\" (("
    let annotated := " @description(value: " ++ text
    let tail := " @isOwner(value: true)"
    let name : Identifier := ⟨['P'], by decide⟩
    let field := FieldDefinition.nic
    let line := Document.fieldLine [] [] name [field] [] field
    (∀ c ∈ text.toList, c ∉ ['\n', '\x7b', '\x7d', '#']) ∧ ClosesStrings text.toList ∧
      FieldLine.person.Closed tail ∧
      parsedTypes (FieldLine.person.document annotated) =
        parsedTypes (FieldLine.person.document tail) ∧
      parse (Document.render [{ name, fields := [field, field] }]) =
        line.fieldsAbove ++ [field.toDirective "P"] ++ line.fieldsBelow ∧
      parse (line.document annotated) =
        line.fieldsAbove ++ line.fieldsOn annotated ++ line.fieldsBelow := by
  intro text annotated tail name field line
  have htext : ∀ c ∈ "\"x\\\" @isOwner(value: true)\" ((".toList,
      c ∉ ['\n', '\x7b', '\x7d', '#'] := by
    simp
  have hstrings : ClosesStrings "\"x\\\" @isOwner(value: true)\" ((".toList := by decide +kernel
  have htail : FieldLine.person.Closed " @isOwner(value: true)" := by
    constructor <;> decide +kernel
  obtain ⟨-, hperson, -⟩ := annotation_affects_own_field FieldLine.person htext
  obtain ⟨-, -, hwritten⟩ := annotation_affects_own_field line htext
  obtain ⟨-, hread, hannotated⟩ := hwritten [] [] name [field] [] field rfl
  obtain ⟨hread', -⟩ := hannotated hstrings
  exact ⟨htext, hstrings, htail, (hperson hstrings _ htail).2.2.2, hread, hread'⟩

/-- **Annotations affect other fields.** A quote that does not end hides the braces behind it, and
with them all fields of the document. -/
theorem not_annotation_affects_own_field :
    let above := "type P \x7b\n  a: S"
    let below := "\n  b: S\n\x7d\ntype Q \x7b\n  c: S\n\x7d"
    (parse (above ++ below)).map (·.name) = ["a", "b", "c"] ∧
      parsedTypes (above ++ below) = ["P", "Q"] ∧
      parse (above ++ " @description(value: \"x" ++ below) = [] ∧
      parsedTypes (above ++ " @description(value: \"x" ++ below) = [] := by
  decide +kernel

end FieldAccess.Schema
