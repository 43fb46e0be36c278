import FieldAccess.Proofs.Lookahead
import FieldAccess.Proofs.Nesting

/-!
# Types in a document

A document in which all braces and strings are closed is a sequence of types, each of which ends
with the brace that closes its block. Types are read one after another, and what follows them is
read as if it stood alone.

## Main definitions

* `IsHeader` – a text that ends with the brace that opens a type.
* `WrittenType` – a type of a cleaned document.
* `parsedTypes` – the names of the types that are read.

## Main statements

* `contents_append` – types are read one after another.
* `contents_clean_feed` – what follows a document is read as if it stood alone.
* `bodyFields_append` – the lines of a body are read one after another.
-/

namespace FieldAccess.Schema

open Text

section Contents

/-- The names and the bodies of the types of a cleaned document. -/
def contents (cleaned : List Char) : List (List Char × List Char) :=
  (typeBlocks cleaned).map fun block => (block.name, block.body)

/-- The fields of a type with a body. -/
def bodyFields (name body : List Char) : List FieldDirective :=
  TypeBlock.fields { position := 0, name, body }

/-- The names of the types of a cleaned document. -/
def typeNames (cleaned : List Char) : List String :=
  (typeBlocks cleaned).map fun block => String.ofList block.name

/-- The names of the types of a document that are read. -/
def parsedTypes (document : String) : List String := typeNames (clean document.toList)

theorem blockFields_eq_contents (cleaned : List Char) :
    blockFields cleaned = (contents cleaned).flatMap fun (name, body) => bodyFields name body := by
  rw [blockFields, contents, List.flatMap_map]
  rfl

theorem typeNames_eq_contents (cleaned : List Char) :
    typeNames cleaned = (contents cleaned).map fun (name, _) => String.ofList name := by
  rw [typeNames, contents, List.map_map]
  rfl

theorem contents_of_findHeader? {text name rest body after : List Char} {start : Nat}
    (hheader : findHeader? 0 false text = some (start, name, rest))
    (hsplit : splitClosing? '\x7b' '\x7d' rest = some (body, after)) :
    contents text = (name, body) :: contents after := by
  rw [contents, typeBlocks_of_findHeader? hheader hsplit, List.map_cons, List.map_map]
  rfl

theorem contents_feed (text : List Char) : contents ('\n' :: text) = contents text := by
  rw [contents, typeBlocks_feed, List.map_map]
  rfl

end Contents

section Bodies

variable {name : List Char}

/-- The fields of a type are those of its rows. -/
theorem bodyFields_eq (name body : List Char) :
    bodyFields name body =
      if isRootType (String.ofList name) then []
      else (body.splitOn '\n').filterMap fun row => fieldLine? (String.ofList name) (trim row) := by
  have hrows := filterMap_lines
    (f := fun row => fieldLine? (String.ofList name) (trim row)) rfl
    (fun row => by rw [trim_withoutReturn]) body
  rw [← hrows]
  rfl

/-- The lines of a body are read one after another. -/
theorem bodyFields_append (name body rest : List Char) :
    bodyFields name (body ++ '\n' :: rest) = bodyFields name body ++ bodyFields name rest := by
  simp only [bodyFields_eq, List.splitOn_append_cons_self, List.filterMap_append]
  split <;> rfl

theorem bodyFields_row {row : List Char} (hfeed : '\n' ∉ row) (name : List Char) :
    bodyFields name row =
      if isRootType (String.ofList name) then []
      else (fieldLine? (String.ofList name) (trim row)).toList := by
  rw [bodyFields_eq, List.splitOn_eq_singleton hfeed, List.filterMap_cons, List.filterMap_nil]
  cases fieldLine? (String.ofList name) (trim row) <;> rfl

end Bodies

/-- A text that ends with the brace that opens a type, whatever follows it. -/
def IsHeader (name header : List Char) : Prop :=
  ∃ start, ∀ rest, findHeader? 0 false (header ++ rest) = some (start, name, rest)

namespace IsHeader

variable {name header : List Char}

theorem of_header? (h : header? header = some (name, [])) : IsHeader name header :=
  ⟨0, fun rest => findHeader?_of_header? (header?_append h rest)⟩

/-- A header may stand on a line of its own. -/
theorem feed (h : IsHeader name header) : IsHeader name ('\n' :: header) := by
  obtain ⟨start, hfind⟩ := h
  refine ⟨start + 1, fun rest => ?_⟩
  have hnone : header? ('\n' :: (header ++ rest)) = none := rfl
  have hword : isWord '\n' = false := by decide
  rw [List.cons_append, findHeader?]
  simp only [Bool.false_eq_true, if_false, hnone, findHeader?_add, hword, hfind, Option.map_some]

theorem ne_nil (h : IsHeader name header) : header ≠ [] := by
  rintro rfl
  obtain ⟨start, hfind⟩ := h
  cases hfind []

end IsHeader

/-- A type of a cleaned document: all that stands in front of its body, and the body. -/
structure WrittenType where
  name : List Char
  header : List Char
  body : List Char
  isHeader : IsHeader name header
  balanced : Balanced body

namespace WrittenType

variable (type : WrittenType)

/-- A type as it stands in a cleaned document. -/
def text : List Char := type.header ++ type.body ++ ['\x7d']

/-- The fields of a type. -/
def fields : List FieldDirective := bodyFields type.name type.body

/-- A type is read as its name and its body. -/
theorem contents_text_append (rest : List Char) :
    contents (type.text ++ rest) = (type.name, type.body) :: contents rest := by
  obtain ⟨start, hfind⟩ := type.isHeader
  have hheader := hfind (type.body ++ '\x7d' :: rest)
  have htext : type.text ++ rest = type.header ++ (type.body ++ '\x7d' :: rest) := by simp [text]
  rw [htext, contents_of_findHeader? hheader (type.balanced.splitClosing?_append rest)]

/-- The type of operations in a document of people. -/
def query : WrittenType where
  name := "Query".toList
  header := "type Query \x7b".toList
  body := "\nme: Person\n".toList
  isHeader := .of_header? (by decide +kernel)
  balanced := by decide +kernel

end WrittenType

/-- **Types in order.** Types are read one after another, and then what follows them. -/
theorem contents_append (types : List WrittenType) (rest : List Char) :
    contents (types.flatMap WrittenType.text ++ rest) =
      types.map (fun type => (type.name, type.body)) ++ contents rest := by
  induction types with
  | nil => rfl
  | cons type types ih =>
    rw [List.flatMap_cons, List.append_assoc, type.contents_text_append, ih]
    rfl

theorem blockFields_append (types : List WrittenType) (rest : List Char) :
    blockFields (types.flatMap WrittenType.text ++ rest) =
      types.flatMap WrittenType.fields ++ blockFields rest := by
  rw [blockFields_eq_contents, contents_append, List.flatMap_append, List.flatMap_map,
    ← blockFields_eq_contents]
  rfl

theorem typeNames_append (types : List WrittenType) (rest : List Char) :
    typeNames (types.flatMap WrittenType.text ++ rest) =
      types.map (fun type => String.ofList type.name) ++ typeNames rest := by
  rw [typeNames_eq_contents, contents_append, List.map_append, List.map_map,
    ← typeNames_eq_contents]
  rfl

section Documents

variable {before : List Char} {types : List WrittenType}

/-- A document is cleaned line by line if no block string is open where a line ends. Lines that say
nothing are dropped together with their ends. -/
theorem clean_feed (hblock : openBehind false (before.splitOn '\n') = false) (after : List Char) :
    (clean before = [] ∧ clean (before ++ '\n' :: after) = clean after) ∨
      (clean after = [] ∧ clean (before ++ '\n' :: after) = clean before) ∨
        clean (before ++ '\n' :: after) = clean before ++ '\n' :: clean after := by
  have hrows : clean (before ++ '\n' :: after) =
      joined ['\n'] (cleanLines false (before.splitOn '\n') ++
        cleanLines false (after.splitOn '\n')) := by
    rw [clean_eq, List.splitOn_append_cons_self, cleanLines_append, hblock]
  rw [hrows, clean_eq before, clean_eq after]
  -- A line feed is left between the two parts only if both of them say something.
  by_cases hbefore : cleanLines false (before.splitOn '\n') = []
  · rw [hbefore]
    exact .inl ⟨rfl, rfl⟩
  · by_cases hafter : cleanLines false (after.splitOn '\n') = []
    · rw [hafter, List.append_nil]
      exact .inr (.inl ⟨rfl, rfl⟩)
    · exact .inr (.inr (joined_append_of_ne_nil hbefore hafter))

theorem clean_feed_of_ne_nil (hblock : openBehind false (before.splitOn '\n') = false)
    {after : List Char} (hbefore : clean before ≠ []) (hafter : clean after ≠ []) :
    clean (before ++ '\n' :: after) = clean before ++ '\n' :: clean after :=
  ((clean_feed hblock after).resolve_left fun h => hbefore h.1).resolve_left fun h => hafter h.1

/-- Lines below a text do not change what is left of it. -/
theorem exists_clean_feed (hblock : openBehind false (before.splitOn '\n') = false)
    (after : List Char) : ∃ more, clean (before ++ '\n' :: after) = clean before ++ more := by
  rcases clean_feed hblock after with ⟨hnil, h⟩ | ⟨-, h⟩ | h
  · exact ⟨clean after, by rw [h, hnil, List.nil_append]⟩
  · exact ⟨[], by rw [h, List.append_nil]⟩
  · exact ⟨_, h⟩

/-- **Documents in order.** What follows a document that is made of types is read as if it stood
alone. -/
theorem contents_clean_feed (hblock : openBehind false (before.splitOn '\n') = false)
    (hbefore : clean before = types.flatMap WrittenType.text) (after : List Char) :
    contents (clean (before ++ '\n' :: after)) =
      types.map (fun type => (type.name, type.body)) ++ contents (clean after) := by
  rcases clean_feed hblock after with ⟨hnil, h⟩ | ⟨hnil, h⟩ | h
  · rw [h, ← contents_append, ← hbefore, hnil, List.nil_append]
  · rw [h, hnil, ← contents_append, ← hbefore, List.append_nil]
  · rw [h, hbefore, contents_append, contents_feed]

theorem blockFields_clean_feed (hblock : openBehind false (before.splitOn '\n') = false)
    (hbefore : clean before = types.flatMap WrittenType.text) (after : List Char) :
    blockFields (clean (before ++ '\n' :: after)) =
      types.flatMap WrittenType.fields ++ blockFields (clean after) := by
  rw [blockFields_eq_contents, contents_clean_feed hblock hbefore, List.flatMap_append,
    List.flatMap_map, ← blockFields_eq_contents]
  rfl

end Documents

end FieldAccess.Schema
