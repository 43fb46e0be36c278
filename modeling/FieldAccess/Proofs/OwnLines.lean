import FieldAccess.Proofs.WrittenTypes

/-!
# Fields on lines of their own

A document in which a field stands on a line of its own, between lines that close their braces and
strings. What the document says is said above the line, on it and below it, and what follows the
type of the field on its line matters for the field alone, as long as the line closes its braces and
strings too.

## Main definitions

* `IsFieldStart` – a line up to the end of the type of its field.
* `FieldLine` – a field on a line of its own in a document.
* `FieldLine.Closed` – the texts that may follow the type of the field.

## Main statements

* `FieldLine.parse_document` – the fields of a document are those above a line, that on it and those
  below it.
* `FieldLine.parsedTypes_document` – the types are those above the line, the one around it and those
  below it.
-/

namespace FieldAccess.Schema

open Text

/-- A row up to the end of the type of the field on it. Its strings and braces are closed, and it
holds no comment. -/
structure IsFieldStart (start name fieldType : List Char) : Prop where
  noFeed : '\n' ∉ start
  closed : (outsideBlocks false false start).2 = false
  noComment : beforeComment? .outside (outsideBlocks false false start).1 = none
  solid : trimEnd (outsideBlocks false false start).1 = (outsideBlocks false false start).1
  read : nameAndType? (rowText false start) = some (name, fieldType)
  noDirective : '@' ∉ rowText false start
  balanced : Balanced (rowText false start)

namespace IsFieldStart

variable {start name fieldType tail : List Char}

theorem ne_nil (h : IsFieldStart start name fieldType) : rowText false start ≠ [] := by
  intro hnil
  have hread := h.read
  rw [hnil] at hread
  cases hread

/-- What is left of a row goes on with what follows it on the row. -/
theorem rowText_append (h : IsFieldStart start name fieldType) (hspace : ' ' ∈ tail.head?)
    (hsign : '#' ∉ tail) (htail : trimEnd (outsideBlocks false false tail).1 ≠ []) :
    rowText false (start ++ tail) =
      rowText false start ++ trimEnd (outsideBlocks false false tail).1 := by
  obtain ⟨more, rfl⟩ := List.head?_eq_some_iff.1 hspace
  have houtside := outsideBlocks_append (by decide : ' ' ≠ '"') false false start more
  rw [h.closed] at houtside
  have hrow : rowText false start =
      withoutDescription (trimStart (outsideBlocks false false start).1) := by
    rw [rowText_eq, uncommented, h.noComment, Option.getD_none, trim_of_trimEnd h.solid]
  have hsign' : '#' ∉ (outsideBlocks false false (' ' :: more)).1 := fun hmem =>
    (mem_outsideBlocks hmem).elim (by decide) hsign
  have hcomment : beforeComment? .outside
      (outsideBlocks false false (start ++ ' ' :: more)).1 = none := by
    rw [houtside, beforeComment?_append, h.noComment, beforeComment?_of_notMem hsign']
    rfl
  have hne := h.ne_nil
  rw [hrow] at hne ⊢
  -- A description ends inside of `start`, since something is left behind it.
  have hstart : trimStart (outsideBlocks false false start).1 ≠ [] := by
    intro hnil
    rw [hnil] at hne
    exact hne rfl
  rw [rowText_eq, uncommented, hcomment, Option.getD_none, houtside, trim,
    trimStart_append hstart, trimEnd_append htail, withoutDescription_append hne]

end IsFieldStart

/-- A field on a line of its own, in a document in which all braces and strings are closed. -/
structure FieldLine where
  /-- The lines above the field. -/
  before : String
  /-- The line of the field up to the end of its type. -/
  start : String
  /-- The lines below the field. -/
  after : String
  name : List Char
  fieldType : List Char
  /-- The types in front of the type of the field. -/
  types : List WrittenType
  /-- The name and the header of the type of the field. -/
  parent : List Char
  header : List Char
  /-- The body of the type above and below the field, and what follows it. -/
  opened : List Char
  closing : List Char
  rest : List Char
  closedAbove : inBlockString before = false
  cleanAbove : clean before.toList = types.flatMap WrittenType.text ++ header ++ opened
  isHeader : IsHeader parent header
  balancedAbove : Balanced opened
  isStart : IsFieldStart start.toList name fieldType
  cleanBelow : clean after.toList = closing ++ '\x7d' :: rest
  balancedBelow : Balanced closing

namespace FieldLine

variable (line : FieldLine)

/-- The document in which a text follows the type of the field. -/
def document (tail : String) : String :=
  line.before ++ "\n" ++ line.start ++ tail ++ "\n" ++ line.after

/-- A text that can follow the type of the field: the line closes its braces and strings. -/
structure Closed (tail : String) : Prop where
  noFeed : '\n' ∉ tail.toList
  closed : (outsideBlocks false false (line.start ++ tail).toList).2 = false
  nonempty : rowText false (line.start ++ tail).toList ≠ []
  balanced : Balanced (rowText false (line.start ++ tail).toList)

def fieldsAbove : List FieldDirective :=
  line.types.flatMap WrittenType.fields ++ bodyFields line.parent line.opened

/-- The fields on the line. -/
def fieldsOn (tail : String) : List FieldDirective :=
  bodyFields line.parent (rowText false (line.start ++ tail).toList)

def fieldsBelow : List FieldDirective :=
  bodyFields line.parent line.closing ++ blockFields line.rest

/-- The type of the field. -/
def type {tail : String} (htail : line.Closed tail) : WrittenType where
  name := line.parent
  header := line.header
  body := line.opened ++
    '\n' :: (rowText false (line.start ++ tail).toList ++ '\n' :: line.closing)
  isHeader := line.isHeader
  balanced :=
    have hfeed : Balanced ['\n'] := by decide
    line.balancedAbove.append_iff.2 (hfeed.append_iff.2 (htail.balanced.append_iff.2
      (hfeed.append_iff.2 line.balancedBelow)))

variable {tail : String}

theorem toList_document (tail : String) :
    (line.document tail).toList =
      line.before.toList ++ '\n' :: ((line.start ++ tail).toList ++ '\n' :: line.after.toList) := by
  simp [document]

theorem clean_before :
    clean line.before.toList =
      line.types.flatMap WrittenType.text ++ (line.header ++ line.opened) := by
  rw [line.cleanAbove, List.append_assoc]

/-- A document is made of the types above the field, the type of the field, and what follows it. -/
theorem clean_document (htail : line.Closed tail) :
    clean (line.document tail).toList =
      (line.types ++ [line.type htail]).flatMap WrittenType.text ++ line.rest := by
  have hbefore : clean line.before.toList ≠ [] := by
    rw [clean_before]
    simp [line.isHeader.ne_nil]
  have hafter : clean line.after.toList ≠ [] := by
    rw [line.cleanBelow]
    simp
  have hfeed : '\n' ∉ (line.start ++ tail).toList := by
    simp [line.isStart.noFeed, htail.noFeed]
  have hrow : clean (line.start ++ tail).toList = rowText false (line.start ++ tail).toList :=
    clean_row hfeed
  have hblock : openBehind false ((line.start ++ tail).toList.splitOn '\n') = false := by
    rw [List.splitOn_eq_singleton hfeed]
    exact htail.closed
  -- All three parts say something, so the line feeds between them are left.
  have hbelow := clean_feed_of_ne_nil hblock (hrow ▸ htail.nonempty) hafter
  rw [toList_document, clean_feed_of_ne_nil line.closedAbove hbefore (by rw [hbelow]; simp), hbelow,
    clean_before, hrow, line.cleanBelow]
  simp [WrittenType.text, type]

/-- **Fields line by line.** The fields of a document are those above a line, that on it and those
below it. -/
theorem parse_document (htail : line.Closed tail) :
    parse (line.document tail) = line.fieldsAbove ++ line.fieldsOn tail ++ line.fieldsBelow := by
  have hfeed : ∀ name text rest, bodyFields name (text ++ '\n' :: rest) = _ := bodyFields_append
  rw [parse_eq, line.clean_document htail, blockFields_append, List.flatMap_append]
  simp [WrittenType.fields, type, hfeed, fieldsAbove, fieldsOn, fieldsBelow]

/-- What follows the field on its line does not matter for the types that are read. -/
theorem parsedTypes_document (htail : line.Closed tail) :
    parsedTypes (line.document tail) =
      line.types.map (fun type => String.ofList type.name) ++
        String.ofList line.parent :: typeNames line.rest := by
  rw [parsedTypes, line.clean_document htail, typeNames_append]
  simp [type]

/-- Whatever follows the field, the types above are read as they are. -/
theorem prefix_document (tail : String) :
    line.types.flatMap WrittenType.fields <+: parse (line.document tail) ∧
      line.types.map (fun type => String.ofList type.name) <+:
        parsedTypes (line.document tail) := by
  obtain ⟨more, hclean⟩ := exists_clean_feed line.closedAbove
    ((line.start ++ tail).toList ++ '\n' :: line.after.toList)
  rw [← toList_document, clean_before, List.append_assoc] at hclean
  rw [parse_eq, parsedTypes, hclean, blockFields_append, typeNames_append]
  exact ⟨List.prefix_append _ _, List.prefix_append _ _⟩

end FieldLine

end FieldAccess.Schema
