import FieldAccess.Policy.Error
import FieldAccess.Text.Trim

/-!
# Field records

The description of one field of a schema as a provider submits it.

A field belongs to the provider that submits it, and then no owner is named, or it belongs to
somebody else, who is named. A batch of records describes all fields of a schema, so that no field
occurs twice in it.

## Main definitions

* `Owner` – the owner of a field.
* `checkOwnership` – the rule of ownership.
* `FieldRecord`, `FieldRecord.check` – a record, and what it must satisfy.
* `checkRecords` – what a batch must satisfy.
-/

namespace FieldAccess

/-- The owner of a field. -/
structure Owner where
  identity : String
  deriving Repr, DecidableEq, Inhabited

namespace Owner

/-- The citizen whom a record is about. -/
def citizen : Owner := ⟨"citizen"⟩

/-- The owner of a field whose owner could not be found out. -/
def unknown : Owner := ⟨"unknown"⟩

/-- Whether the owner could not be found out. -/
def isUnknown (owner : Owner) : Bool := owner == unknown

end Owner

/-- An owner is named exactly for the fields that the provider does not own. -/
def checkOwnership (isOwner : Bool) (owner : Option Owner) : Except PolicyError Unit :=
  if isOwner = owner.isNone then .ok () else .error (.invalidArgument (.ownership none))

/-- The description of one field of a schema. -/
structure FieldRecord where
  fieldName : String
  displayName : Option String := none
  description : Option String := none
  source : Provenance := .fallback
  isOwner : Bool
  accessControl : AccessControl := .restricted
  owner : Option Owner := none
  deriving Repr, DecidableEq, Inhabited

namespace FieldRecord

/-- A record has a name and follows the rule of ownership. -/
def check (record : FieldRecord) : Except PolicyError Unit :=
  if Text.isBlankText record.fieldName then .error (.invalidArgument (.blank "fieldName"))
  else if record.isOwner = record.owner.isNone then .ok ()
  else .error (.invalidArgument (.ownership (some record.fieldName)))

end FieldRecord

/-- Checks records in turn, each on its own and against the names `seen` before. -/
def checkRecordsAfter (seen : List String) : List FieldRecord → Except PolicyError Unit
  | [] => .ok ()
  | record :: rest => do
    record.check
    if seen.contains record.fieldName then
      .error (.invalidArgument (.repeatedField record.fieldName))
    else checkRecordsAfter (record.fieldName :: seen) rest

/-- Every record of a batch is in order, and no name occurs twice. -/
def checkRecords (records : List FieldRecord) : Except PolicyError Unit :=
  checkRecordsAfter [] records

end FieldAccess
