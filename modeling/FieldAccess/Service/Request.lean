import FieldAccess.Policy.Decision
import FieldAccess.Schema.Conversion

/-!
# Requests and answers

The four requests of the service and what they are answered with.

## Main definitions

* `RegisterSchema`, `ReplaceMetadata`, `GrantAccess`, `DecideAccess` – the requests.
* `RegisteredSchema`, `GrantedField` – answers.
* `RegisterSchema.convert` – the part of a registration that needs no store.
-/

namespace FieldAccess

/-- The name of an argument may not stand for a blank text. -/
def requireNonBlank (value name : String) : Except PolicyError Unit :=
  if Text.isBlankText value then .error (.invalidArgument (.blank name)) else .ok ()

/-- Checks that no reference of a list has a blank part. The references are numbered from
`index`. -/
def requireRefsFrom (name : String) : (index : Nat) → List FieldRef → Except PolicyError Unit
  | _, [] => .ok ()
  | index, ref :: rest => do
    requireNonBlank ref.schemaId s!"{name}[{index}].schemaId"
    requireNonBlank ref.fieldName s!"{name}[{index}].fieldName"
    requireRefsFrom name (index + 1) rest

/-- Checks that no reference of a list has a blank part. -/
def requireRefs (refs : List FieldRef) (name : String) : Except PolicyError Unit :=
  requireRefsFrom name 0 refs

/-- The fields of a schema, to be derived from its document. -/
structure RegisterSchema where
  schemaId : String
  providerId : String
  sdl : String
  fieldOwners : Schema.FieldOwners := []
  deriving Repr, DecidableEq, Inhabited

/-- The fields of a schema, one record each. -/
structure ReplaceMetadata where
  schemaId : String
  records : List FieldRecord
  deriving Repr, DecidableEq, Inhabited

/-- Access to fields for an application. -/
structure GrantAccess where
  applicationId : String
  grantDuration : String
  records : List FieldRef
  deriving Repr, DecidableEq, Inhabited

/-- A decision on the access of an application to fields. -/
structure DecideAccess where
  applicationId : String
  requiredFields : List FieldRef
  deriving Repr, DecidableEq, Inhabited

/-- The stored fields of a registered schema, and how their owners were found. -/
structure RegisteredSchema where
  records : List FieldPolicy
  fields : List Schema.ConvertedField
  unresolvedOwnerFields : List String
  deriving DecidableEq

/-- A field to which access was granted. -/
structure GrantedField where
  fieldName : String
  schemaId : String
  expiresAt : Instant
  updatedAt : Instant
  deriving Repr, DecidableEq, Inhabited

/-- The records of a submitted schema document. -/
def RegisterSchema.convert (request : RegisterSchema) : Except PolicyError Schema.Conversion := do
  requireNonBlank request.schemaId "schemaId"
  requireNonBlank request.providerId "providerId"
  requireNonBlank request.sdl "sdl"
  match Schema.parse request.sdl with
  | [] => .error (.invalidArgument .noFields)
  | fields => .ok (Schema.convert fields request.providerId request.fieldOwners)

end FieldAccess
