import FieldAccess.Policy.FieldPolicy

/-!
# Replacing the fields of a schema

A submission describes all fields of a schema. The stored fields that it describes keep their
identity, creation and grants; the others are deleted, and fields that are new are created.

## Main definitions

* `Replacement` – what becomes of each field.
* `Replacement.plan` – the replacement of the stored fields by a batch of records.
* `Replacement.rows` – the resulting fields, in the order of the batch.
-/

namespace FieldAccess

/-- What becomes of a field that is described by a submission. -/
inductive Fate where
  | inserted
  | updated
  | unchanged
  deriving Repr, DecidableEq

/-- The replacement of the fields of a schema: every submitted field with its fate, in the order of
submission, and the fields that are deleted. -/
structure Replacement where
  kept : List (Fate × FieldPolicy)
  deleted : List FieldPolicy

namespace Replacement

/-- The fields of the given fate. -/
def withFate (fate : Fate) (plan : Replacement) : List FieldPolicy :=
  (plan.kept.filter fun (f, _) => f == fate).map (·.2)

/-- The new fields. -/
def inserted (plan : Replacement) : List FieldPolicy := plan.withFate .inserted

/-- The fields whose description changes. -/
def updated (plan : Replacement) : List FieldPolicy := plan.withFate .updated

/-- The fields that stay as they are. -/
def unchanged (plan : Replacement) : List FieldPolicy := plan.withFate .unchanged

/-- The resulting fields, in the order of submission. -/
def rows (plan : Replacement) : List FieldPolicy := plan.kept.map (·.2)

/-- Whether the replacement changes nothing. -/
def isNoop (plan : Replacement) : Bool :=
  plan.deleted.isEmpty && plan.kept.all fun (fate, _) => fate == .unchanged

/-- Fields by their names; of two fields of one name the later one counts. -/
def byName (rows : List FieldPolicy) : Std.ExtTreeMap String FieldPolicy :=
  rows.foldl (fun fields row => fields.insert row.fieldName row) ∅

/-- What becomes of the fields that are described by `records`, given the stored ones by name.
`fresh` supplies the identifiers of new fields. -/
def keep (schemaId : String) (stored : Std.ExtTreeMap String FieldPolicy) (now : Instant) :
    (fresh : Nat → Uuid) → List FieldRecord → Except PolicyError (List (Fate × FieldPolicy))
  | _, [] => .ok []
  | fresh, record :: rest =>
    match stored[record.fieldName]? with
    | some row => do
      let (row, changed) ← row.apply record now
      let others ← keep schemaId stored now fresh rest
      return ((if changed then .updated else .unchanged), row) :: others
    | none => do
      let row ← FieldPolicy.create (fresh 0) schemaId record now
      let others ← keep schemaId stored now (fun n => fresh (n + 1)) rest
      return (.inserted, row) :: others

/-- The replacement of the fields of a schema among `existing` by a batch of records. Deleted
fields are in the order of their names. -/
def plan (fresh : Nat → Uuid) (schemaId : String) (existing : List FieldPolicy)
    (records : List FieldRecord) (now : Instant) : Except PolicyError Replacement := do
  checkRecords records
  let stored := byName (existing.filter fun row => row.schemaId == schemaId)
  let kept ← keep schemaId stored now fresh records
  let names := records.map (·.fieldName)
  let deleted := stored.toList.filter fun (name, _) => !names.contains name
  return { kept, deleted := deleted.map (·.2) }

end Replacement

end FieldAccess
