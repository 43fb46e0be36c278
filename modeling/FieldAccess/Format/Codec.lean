import FieldAccess.Format.Source
import FieldAccess.Json.Value

/-!
# Codecs

A codec says how values of a type are read from a document and how they are written. Codecs of
records are put together from their fields, so that every record of the library is described once,
for all formats.

A record is read in the order of the document: the first entry that is at fault decides the fault
of the record. Entries with unknown names are passed over, a repeated field is a fault, and once
all entries are read the absent fields are looked at in the order in which the record declares
them.

## Main definitions

* `Codec` – reading and writing of a type.
* `Codec.text`, `Codec.flag`, `Codec.natural`, `Codec.list`, `Codec.table`, `Codec.choice` – codecs
  of the simple types.
* `Field`, `Fields` – the fields of a record.
* `Codec.record` – the codec of a record.
* `Codec.variants` – the codec of a type that has several variants.
-/

namespace FieldAccess.Format

/-- How values of a type are read and written. -/
structure Codec (α : Type) where
  read : (S : Source) → S.Node → Reading α
  write : α → Json

namespace Codec

/-- Texts. -/
def text : Codec String where
  read S := S.text "a string"
  write := .text

/-- Truth values. -/
def flag : Codec Bool where
  read S := S.flag
  write := .flag

/-- Natural numbers up to `bound`. -/
def natural (bound : Nat) (name : String) : Codec Nat where
  read S := S.natural bound name
  write n := .integer n

/-- Reads items one after another, each with its position in the path. -/
def readItems (read : Node → Reading α) : (position : Nat) → List Node → Reading (List α)
  | _, [] => .ok []
  | position, node :: rest => do
    let value ← (read node).under (.index position)
    return value :: (← readItems read (position + 1) rest)

/-- Sequences. -/
def list (item : Codec α) : Codec (List α) where
  read S node := do
    let listing ← S.list node
    let values ← readItems (item.read S) 0 listing.items
    listing.finish
    return values
  write values := .list (values.map item.write)

/-- Enters a value under a key, in the place of one that is there. -/
def setEntry (key : String) (value : α) : List (String × α) → List (String × α)
  | [] => [(key, value)]
  | (k, v) :: rest => if k = key then (k, value) :: rest else (k, v) :: setEntry key value rest

/-- Reads entries one after another into those already `done`. -/
def readEntries (read : Node → Reading α) :
    (done : List (String × α)) → List (String × Node) → Reading (List (String × α))
  | done, [] => .ok done
  | done, (key, node) :: rest => do
    let value ← (read node).under (.key key)
    readEntries read (setEntry key value done) rest

/-- Maps from texts. Of a repeated key the last value counts. -/
def table (value : Codec α) : Codec (List (String × α)) where
  read S node := do
    let listing ← S.table node
    let entries ← readEntries (value.read S) [] listing.items
    listing.finish
    return entries
  write entries := .table (entries.map fun (key, v) => (key, value.write v))

/-- Values written as a text that `parse` understands. `expected` names the kind of text wanted. -/
def ofText (expected : String) (parse : String → Except String α) (render : α → String) :
    Codec α where
  read S node := do
    match parse (← S.text expected node) with
    | .ok value => .ok value
    | .error message => fail (.refused message)
  write value := .text (render value)

/-- Values that are written as values of another type. -/
def mapped (codec : Codec β) (ofOther : β → α) (toOther : α → β) : Codec α where
  read S node := (codec.read S node).map ofOther
  write value := codec.write (toOther value)

/-- A finite set of values, each written as its name. -/
def choice (values : List α) (name : α → String) : Codec α where
  read S node := do
    let view ← S.variant node
    match values.find? fun value => name value == view.name with
    | none =>
      let cause := .unknown view.name (values.map name)
      .error { path := [], cause, outward := view.outward }
    | some value =>
      match view.content with
      | some content => (S.unit content).under (.key view.name)
      | none => .ok ()
      match view.ending with
      | some fault => .error fault
      | none => .ok value
  write value := .text (name value)

end Codec

/-- A field of a record that holds an `α`. -/
structure Field (α : Type) where
  name : String
  read : (S : Source) → S.Node → Reading α
  /-- The value when no entry has the field's name. -/
  absent : Option α
  /-- The value when an array that holds the fields in order is too short for this one. -/
  absentInArray : Option α
  /-- The value as it is written; `none` leaves the field out. -/
  write : α → Option Json

namespace Field

/-- A field that must be there. -/
def required (name : String) (codec : Codec α) : Field α where
  name
  read := codec.read
  absent := none
  absentInArray := none
  write value := some (codec.write value)

/-- A field with a default. -/
def withDefault (name : String) (codec : Codec α) (default : α) : Field α where
  name
  read := codec.read
  absent := some default
  absentInArray := some default
  write value := some (codec.write value)

/-- Reads a value that may be absent. -/
def readOptional (codec : Codec α) (S : Source) (node : S.Node) : Reading (Option α) := do
  match ← S.optional node with
  | none => return none
  | some node => return some (← codec.read S node)

/-- A field that may be absent, and is then not written. -/
def optional (name : String) (codec : Codec α) : Field (Option α) where
  name
  read := readOptional codec
  absent := some none
  absentInArray := some none
  write value := value.map codec.write

/-- A field that may be absent from an object, and is then not written, but not from an array. -/
def optionalByName (name : String) (codec : Codec α) : Field (Option α) :=
  { optional name codec with absentInArray := none }

end Field

/-- The fields of a record whose values, in order, form a `τ`. -/
inductive Fields : Type → Type 1 where
  | nil : Fields Unit
  | cons {α τ : Type} (field : Field α) (rest : Fields τ) : Fields (α × τ)

namespace Fields

/-- The values read so far, field by field. -/
def Slots : {τ : Type} → Fields τ → Type
  | _, nil => Unit
  | _, cons (α := α) _ rest => Option α × rest.Slots

/-- No value read yet. -/
def empty : {τ : Type} → (fields : Fields τ) → fields.Slots
  | _, nil => ()
  | _, cons _ rest => (none, rest.empty)

/-- The number of fields. -/
def count : {τ : Type} → Fields τ → Nat
  | _, nil => 0
  | _, cons _ rest => rest.count + 1

/-- Reads an entry into the slot of the field it names. -/
def put (S : Source) (key : String) (node : S.Node) :
    {τ : Type} → (fields : Fields τ) → fields.Slots → Reading fields.Slots
  | _, nil, _ => (S.skip node).map fun _ => ()
  | _, cons field rest, slots =>
    if field.name = key then
      match slots.1 with
      | some _ => fail (.repeated key)
      | none => ((field.read S node).under (.key key)).map fun value => (some value, slots.2)
    else (put S key node rest slots.2).map fun others => (slots.1, others)

/-- Reads entries one after another. -/
def putAll (S : Source) (fields : Fields τ) :
    fields.Slots → List (String × S.Node) → Reading fields.Slots
  | slots, [] => .ok slots
  | slots, (key, node) :: rest => do putAll S fields (← fields.put S key node slots) rest

/-- The values of all fields, with defaults for the absent ones. -/
def complete : {τ : Type} → (fields : Fields τ) → fields.Slots → Reading τ
  | _, nil, _ => .ok ()
  | _, cons field rest, slots => do
    let value ← match slots.1, field.absent with
      | some value, _ => .ok value
      | none, some value => .ok value
      | none, none => fail (.missing field.name)
    return (value, ← rest.complete slots.2)

/-- Reads the fields from items in order. `expected` describes the record for the fault of an array
that is too short. -/
def readInOrder (S : Source) (expected : String) (ending : Option Fault) :
    {τ : Type} → (fields : Fields τ) → (position : Nat) → List S.Node → Reading (τ × List S.Node)
  | _, nil, _, nodes => .ok ((), nodes)
  | _, cons field rest, position, node :: nodes => do
    let value ← (field.read S node).under (.index position)
    let (values, nodes) ← readInOrder S expected ending rest (position + 1) nodes
    return ((value, values), nodes)
  | _, cons field rest, position, [] => do
    match ending with
    | some fault => .error fault
    | none =>
      let value ← match field.absentInArray with
        | some value => .ok value
        | none => fail (.length position expected)
      let (values, nodes) ← readInOrder S expected ending rest (position + 1) []
      return ((value, values), nodes)

/-- The entries that values are written as. -/
def entries : {τ : Type} → (fields : Fields τ) → τ → List (String × Json)
  | _, nil, () => []
  | _, cons field rest, (value, values) =>
    match field.write value with
    | some json => (field.name, json) :: rest.entries values
    | none => rest.entries values

/-- Reads named fields. -/
def readNamed (S : Source) (fields : Fields τ) (listing : Listing (String × S.Node)) :
    Reading τ := do
  let slots ← fields.putAll S fields.empty listing.items
  listing.finish
  fields.complete slots

end Fields

/-- The description of a record with a number of fields, in a fault. -/
def elements (expected : String) (count : Nat) : String :=
  if count = 1 then s!"{expected} with 1 element" else s!"{expected} with {count} elements"

/-- One of the variants of a type, with named fields. -/
structure Variant (α : Type) where
  name : String
  /-- Reads the fields of the variant. -/
  read : (S : Source) → Option S.Node → Reading α
  /-- The fields of a value of this variant, as they are written. -/
  entries? : α → Option (List (String × Json))

/-- The variant called `name`, made from the values of its fields. -/
def Variant.ofFields (name : String) (fields : Fields τ) (ofParts : τ → α) (parts? : α → Option τ) :
    Variant α where
  name
  read S content := do return ofParts (← fields.readNamed S (← S.variantRecord content))
  entries? value := (parts? value).map fields.entries

namespace Codec

/-- The codec of a record called `name`, made from the values of its fields. -/
def record (name : String) (fields : Fields τ) (ofParts : τ → α) (parts : α → τ) : Codec α where
  read S node := do
    let expected := s!"struct {name}"
    match ← S.record expected node with
    | .named listing => return ofParts (← fields.readNamed S listing)
    | .positional listing =>
      let (values, rest) ←
        fields.readInOrder S (elements expected fields.count) listing.ending 0 listing.items
      if rest.isEmpty then
        listing.finish
        return ofParts values
      else .error (S.surplus listing.items.length)
  write value := .table (fields.entries (parts value))

/-- The variants are written as a map with one entry, from the name of the variant to its fields. -/
def variants (all : List (Variant α)) : Codec α where
  read S node := do
    let view ← S.variant node
    match all.find? fun variant => variant.name == view.name with
    | none =>
      let cause := .unknown view.name (all.map Variant.name)
      .error { path := [], cause, outward := view.outward }
    | some variant =>
      let value ← (variant.read S view.content).under (.key view.name)
      match view.ending with
      | some fault => .error fault
      | none => .ok value
  write value :=
    .table ((all.findSome? fun variant => (variant.entries? value).map fun entries =>
      (variant.name, Json.table entries)).toList)

end Codec

end FieldAccess.Format
