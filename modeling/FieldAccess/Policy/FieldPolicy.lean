import FieldAccess.Policy.AllowList
import FieldAccess.Policy.FieldRecord
import FieldAccess.Policy.Uuid

/-!
# Field policies

What is stored about one field of one schema: its description, and the applications that were
granted access to it.

## Main definitions

* `FieldPolicy` – the stored policy.
* `FieldPolicy.create` – the policy of a new field.
* `FieldPolicy.apply` – the policy after another record for the same field.
* `FieldPolicy.grant` – the policy after a grant.
-/

namespace FieldAccess

/-- What is stored about a field. -/
structure FieldPolicy where
  id : Uuid
  schemaId : String
  fieldName : String
  displayName : Option String := none
  description : Option String := none
  source : Provenance
  isOwner : Bool
  accessControl : AccessControl
  allowList : AllowList
  owner : Option Owner := none
  createdAt : Instant
  updatedAt : Instant
  deriving DecidableEq

namespace FieldPolicy

/-- The identity of the field. -/
def ref (policy : FieldPolicy) : FieldRef := ⟨policy.schemaId, policy.fieldName⟩

/-- The policy of a new field, which no application may access yet. -/
def create (id : Uuid) (schemaId : String) (record : FieldRecord) (now : Instant) :
    Except PolicyError FieldPolicy := do
  record.check
  return {
    id
    schemaId
    fieldName := record.fieldName
    displayName := record.displayName
    description := record.description
    source := record.source
    isOwner := record.isOwner
    accessControl := record.accessControl
    allowList := ∅
    owner := record.owner
    createdAt := now
    updatedAt := now }

/-- The owner has to consent to the access to a restricted field that the provider does not own. -/
def needsConsent (policy : FieldPolicy) : Bool :=
  !policy.isOwner && policy.accessControl == .restricted

/-- The rule of ownership. -/
def check (policy : FieldPolicy) : Except PolicyError Unit :=
  checkOwnership policy.isOwner policy.owner

/-- The description of the field, as a record. -/
def record (policy : FieldPolicy) : FieldRecord where
  fieldName := policy.fieldName
  displayName := policy.displayName
  description := policy.description
  source := policy.source
  isOwner := policy.isOwner
  accessControl := policy.accessControl
  owner := policy.owner

/-- Whether a record says of the field what is stored already. -/
def agrees (policy : FieldPolicy) (record : FieldRecord) : Bool :=
  policy.displayName == record.displayName && policy.description == record.description &&
    policy.source == record.source && policy.isOwner == record.isOwner &&
    policy.accessControl == record.accessControl && policy.owner == record.owner

/-- The policy with the description of a record. Identity, creation and grants stay. -/
def describe (policy : FieldPolicy) (record : FieldRecord) (now : Instant) : FieldPolicy :=
  { policy with
    displayName := record.displayName
    description := record.description
    source := record.source
    isOwner := record.isOwner
    accessControl := record.accessControl
    owner := record.owner
    updatedAt := now }

/-- The policy after a record for its field, and whether it has changed. -/
def apply (policy : FieldPolicy) (record : FieldRecord) (now : Instant) :
    Except PolicyError (FieldPolicy × Bool) := do
  record.check
  if policy.agrees record then return (policy, false)
  else return (policy.describe record now, true)

/-- The policy after a grant, which takes the place of an earlier one. -/
def grant (policy : FieldPolicy) (application : String) (grant : Grant) : FieldPolicy :=
  { policy with
    allowList := policy.allowList.insert application grant
    updatedAt := grant.updatedAt }

end FieldPolicy

end FieldAccess
