import FieldAccess.Text.Trim
import Std.Data.ExtTreeMap

/-!
# Field references

A field is identified by the schema it belongs to and its name there.

## Main definitions

* `FieldRef` – a schema id and a field name.
* `FieldRef.distinct` – references without repetitions.
* `FieldRef.word`, `FieldRef.ofWord?` – a reference as one word.
-/

namespace FieldAccess

/-- The identity of a field. -/
structure FieldRef where
  schemaId : String
  fieldName : String
  deriving Repr, DecidableEq, Inhabited

namespace FieldRef

/-- The order of references: by schema, then by name. -/
def order : FieldRef → FieldRef → Ordering :=
  compareLex (compareOn schemaId) (compareOn fieldName)

instance : Std.TransCmp order := inferInstanceAs (Std.TransCmp (compareLex _ _))

instance : Std.LawfulEqCmp order where
  eq_of_compare {a b} h := by
    simp only [order, compareLex, compareOn, Ordering.then_eq_eq] at h
    cases a
    cases b
    simp_all

/-- The reference in messages. -/
def display (ref : FieldRef) : String :=
  s!"schema_id {ref.schemaId} and field_name {ref.fieldName}"

/-- The reference as one word: the schema and the name, with a colon between them. -/
def word (ref : FieldRef) : String := ref.schemaId ++ ":" ++ ref.fieldName

/-- The reference that a word gives. The last colon separates its parts, and neither part may be
empty. -/
def ofWord? (word : String) : Option FieldRef :=
  match Text.splitLast? ':' word.toList with
  | some (schemaId, fieldName) =>
    if schemaId.isEmpty || fieldName.isEmpty then none
    else some ⟨String.ofList schemaId, String.ofList fieldName⟩
  | none => none

/-- The references without repetitions, in the order of their first occurrences. -/
def distinct (refs : List FieldRef) : List FieldRef := refs.eraseDups

end FieldRef

end FieldAccess
