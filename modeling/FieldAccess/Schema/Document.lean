import FieldAccess.Schema.Cleanup
import FieldAccess.Schema.FieldLine

/-!
# Schema documents

Reading of an annotated schema document: the field lines of all types that hold data. Reading never
fails. Lines that are no field lines are passed over, and a directive whose payload cannot be read
counts as absent.

## Main definitions

* `isRootType` – the types of operations, which hold no data.
* `parse` – the fields of a document, in order.
* `unreadTypes` – the names of the types whose block could not be read.
-/

namespace FieldAccess.Schema

open Text

/-- The names of the types that describe operations. -/
def rootTypes : List String := ["Query", "Mutation", "Subscription"]

/-- Whether a type describes operations and holds no data. -/
def isRootType (name : String) : Bool := rootTypes.contains name

/-- The fields of a type block. -/
def TypeBlock.fields (block : TypeBlock) : List FieldDirective :=
  let name := String.ofList block.name
  if isRootType name then []
  else (lines block.body).filterMap fun line => fieldLine? name (trim line)

/-- The fields of a document, in order. -/
def parse (document : String) : List FieldDirective :=
  (typeBlocks (clean document.toList)).flatMap TypeBlock.fields

/-- The names of the types of a document whose block could not be read, in order. -/
def unreadTypes (document : String) : List String :=
  let cleaned := clean document.toList
  (skippedTypes cleaned (typeBlocks cleaned)).map String.ofList

end FieldAccess.Schema
