import FieldAccess.Format.Fault

/-!
# Sources

A source is a kind of document that can be looked into: it says what a node of such a document is
when a text, a number, a sequence or a record is wanted there. Everything that differs between the
formats, such as which spellings count as a number or what is said about a value of the wrong kind,
is decided by the source; what a type consists of is decided by its codec.

## Main definitions

* `Listing` – parts of a document in order, up to its end or to a fault.
* `RecordView` – a record by the names of its fields or by their order.
* `Source` – the ways of looking into a document.
-/

namespace FieldAccess.Format

/-- Parts of a document in order. When the document breaks off after the last of them, `ending` is
the fault met there. -/
structure Listing (α : Type) where
  items : List α
  ending : Option Fault := none

/-- A record in a document: by the names of its fields, or by their order. -/
inductive RecordView (Node : Type) where
  | named (entries : Listing (String × Node))
  | positional (items : Listing Node)

/-- One of several variants: its name, its content if it has one, and the fault met after it. -/
structure VariantView (Node : Type) where
  name : String
  content : Option Node := none
  ending : Option Fault := none
  /-- Whether an unknown name is a fault of the part around this one. -/
  outward : Bool := false

/-- A kind of document that can be looked into. -/
structure Source where
  /-- A part of a document. -/
  Node : Type
  /-- The text of a node. `expected` names the kind of value wanted, for the fault. -/
  text : (expected : String) → Node → Reading String
  /-- The truth value of a node. -/
  flag : Node → Reading Bool
  /-- The natural number of a node, at most `bound`; `name` is the name of that range. -/
  natural : (bound : Nat) → (name : String) → Node → Reading Nat
  /-- The node, unless it stands for an absent value. -/
  optional : Node → Reading (Option Node)
  /-- The items of a sequence. -/
  list : Node → Reading (Listing Node)
  /-- The entries of a map from texts. -/
  table : Node → Reading (Listing (String × Node))
  /-- The fields of a record; `expected` names the record. -/
  record : (expected : String) → Node → Reading (RecordView Node)
  /-- The variant that a node chooses. -/
  variant : Node → Reading (VariantView Node)
  /-- Reads a node that must not have a content. -/
  unit : Node → Reading Unit
  /-- The fields of a variant that has named fields. -/
  variantRecord : Option Node → Reading (Listing (String × Node))
  /-- Passes over a node that is not wanted. -/
  skip : Node → Reading Unit
  /-- The fault of a sequence of the given length of which only a part was wanted. -/
  surplus : (length : Nat) → Fault

/-- Succeeds unless the document broke off. -/
def Listing.finish (listing : Listing α) : Reading Unit :=
  match listing.ending with
  | some fault => .error fault
  | none => .ok ()

end FieldAccess.Format
