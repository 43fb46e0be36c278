import FieldAccess.Proofs.Texts
import FieldAccess.Schema.Document

/-!
# Well-formed schema documents

Documents that are made of types with fields, how they are written, and what reading them is to
find. A field has directives in any order, with or without an argument, and of any names; the first
directive of a name counts.

## Main definitions

* `Identifier`, `Parameters`, `FieldType`, `Payload` – the texts a document is made of.
* `FieldDefinition`, `TypeDefinition`, `Document` – documents.
* `Document.render` – a document as a text.
* `Document.fieldDirectives` – what the fields of a document say.
-/

namespace FieldAccess.Schema

open Text

/-- A character that an identifier may begin with. -/
def isIdentifierStart (c : Char) : Bool := isAsciiLetter c || c == '_'

/-- A character that may stand in an identifier. -/
def isIdentifierPart (c : Char) : Bool := isIdentifierStart c || isDigit c

/-- Whether a text is an identifier. -/
def isIdentifier : List Char → Bool
  | [] => false
  | c :: rest => isIdentifierStart c && rest.all isIdentifierPart

/-- The name of a type, a field or a directive. -/
structure Identifier where
  text : List Char
  valid : isIdentifier text = true

/-- A character without a meaning outside of strings. -/
def isPlain (c : Char) : Bool := !(['@', '"', '#', '\x7b', '\x7d', '\n'].contains c)

/-- The parameters of a field, without the parentheses around them. -/
structure Parameters where
  text : List Char
  valid : text.all (fun c => isPlain c && c != ')') = true

/-- The type of a field. -/
structure FieldType where
  text : List Char
  nonempty : text ≠ []
  trimmed : trim text = text
  valid : text.all isPlain = true

/-- What is said between quotes. Nothing in it is escaped. -/
structure Payload where
  text : List Char
  valid : text.all (fun c => !(['"', '\\', '@', '\n'].contains c)) = true

/-- What an argument says: a quoted text or a truth value. -/
inductive Value where
  | quoted (payload : Payload)
  | truth (value : Bool)

/-- The text that a value stands for. -/
def Value.text : Value → List Char
  | quoted payload => payload.text
  | truth true => ['t', 'r', 'u', 'e']
  | truth false => ['f', 'a', 'l', 's', 'e']

/-- A value as it is written. -/
def Value.chars : Value → List Char
  | quoted payload => '"' :: payload.text ++ ['"']
  | truth value => (truth value).text

/-- The two names that an argument can have. -/
inductive Key where
  | value
  | type

/-- The spelling of a key. -/
def Key.chars : Key → List Char
  | value => ['v', 'a', 'l', 'u', 'e']
  | type => ['t', 'y', 'p', 'e']

/-- The argument of a directive. -/
structure Argument where
  key : Key := .value
  value : Value

/-- An argument as it is written. -/
def Argument.chars (argument : Argument) : List Char :=
  argument.key.chars ++ ':' :: ' ' :: argument.value.chars

/-- A directive of a field. -/
structure Directive where
  /-- The number of spaces in front of the directive, besides the first. -/
  spaces : Nat := 0
  name : Identifier
  argument : Option Argument := none

/-- What stands after the name of a directive. -/
def Directive.suffix (directive : Directive) : List Char :=
  match directive.argument with
  | none => []
  | some argument => '(' :: argument.chars ++ [')']

/-- A directive as it is written. -/
def Directive.chars (directive : Directive) : List Char :=
  List.replicate (directive.spaces + 1) ' ' ++ '@' :: directive.name.text ++ directive.suffix

/-- A field of a type. -/
structure FieldDefinition where
  /-- The number of spaces that the line is indented by. -/
  indentation : Nat := 2
  name : Identifier
  parameters : Option Parameters := none
  fieldType : FieldType
  directives : List Directive := []

namespace FieldDefinition

variable (field : FieldDefinition)

/-- What stands between the name of a field and its directives. -/
def signature : List Char :=
  (match field.parameters with
    | none => []
    | some parameters => '(' :: parameters.text ++ [')']) ++
  ':' :: ' ' :: field.fieldType.text

/-- A field as it is written, without its indentation. -/
def chars : List Char :=
  field.name.text ++ field.signature ++ field.directives.flatMap Directive.chars

/-- The line of a field. -/
def line : List Char := List.replicate field.indentation ' ' ++ field.chars

/-- What the first directive of a name says. -/
def argument? (directive : String) : Option String :=
  ((field.directives.find? fun other => other.name.text == directive.toList).bind
    (·.argument)).map fun argument => String.ofList argument.value.text

/-- What a field of a type says. -/
def toDirective (parentType : String) : FieldDirective where
  name := String.ofList field.name.text
  fieldType := String.ofList field.fieldType.text
  parentType
  accessControl := field.argument? "accessControl"
  source := field.argument? "source"
  isOwner := field.argument? "isOwner" == some "true"
  owner := field.argument? "owner"
  description := field.argument? "description"
  displayName := field.argument? "displayName"

end FieldDefinition

/-- A type with its fields. -/
structure TypeDefinition where
  name : Identifier
  fields : List FieldDefinition := []

namespace TypeDefinition

variable (type : TypeDefinition)

/-- The first line of a type. -/
def header : List Char := ['t', 'y', 'p', 'e', ' '] ++ type.name.text ++ [' ', '\x7b']

/-- A type as it is written, line by line. -/
def lines : List (List Char) := type.header :: type.fields.map FieldDefinition.line ++ [['\x7d']]

/-- What the fields of a type say. Types of operations hold no data. -/
def fieldDirectives : List FieldDirective :=
  let name := String.ofList type.name.text
  if isRootType name then [] else type.fields.map (·.toDirective name)

end TypeDefinition

/-- A document is a list of types. -/
abbrev Document := List TypeDefinition

/-- A document as a text. -/
def Document.render (document : Document) : String :=
  String.ofList (joined ['\n'] (document.flatMap TypeDefinition.lines))

/-- What the fields of a document say. -/
def Document.fieldDirectives (document : Document) : List FieldDirective :=
  document.flatMap TypeDefinition.fieldDirectives

section Characters

variable {c : Char}

theorem toNat_lt_of_isIdentifierPart (h : isIdentifierPart c = true) : c.toNat < 128 := by
  have hle : ∀ d : Char, c ≤ d → c.toNat ≤ d.toNat := fun d hd => hd
  simp only [isIdentifierPart, isIdentifierStart, isAsciiLetter, isDigit, Bool.or_eq_true,
    Bool.and_eq_true, decide_eq_true_eq, beq_iff_eq] at h
  rcases h with ((⟨-, h⟩ | ⟨-, h⟩) | rfl) | ⟨-, h⟩
  · exact (hle _ h).trans_lt (by decide)
  · exact (hle _ h).trans_lt (by decide)
  · decide
  · exact (hle _ h).trans_lt (by decide)

/-- A character of an identifier is a word character, no blank, and has no other meaning. -/
theorem isIdentifierPart_classes (h : isIdentifierPart c = true) :
    isBlank c = false ∧ isWord c = true ∧ (isAlphanumeric c || c == '_') = true ∧
      isPlain c = true :=
  forall_ascii (P := fun c => isIdentifierPart c = true → isBlank c = false ∧ isWord c = true ∧
    (isAlphanumeric c || c == '_') = true ∧ isPlain c = true) (by decide +kernel)
    (toNat_lt_of_isIdentifierPart h) h

end Characters

end FieldAccess.Schema
