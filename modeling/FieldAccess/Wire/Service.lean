import FieldAccess.Service.Request
import FieldAccess.Wire.Policy
import FieldAccess.Wire.Schema

/-!
# Requests and answers in documents

How the requests of the service and their answers are read from documents and written.

## Main definitions

* `RegisterSchema.codec`, `ReplaceMetadata.codec`, `GrantAccess.codec`, `DecideAccess.codec` – the
  requests.
* `storedRecordsCodec`, `grantedRecordsCodec`, `RegisteredSchema.codec` – the answers.
-/

namespace FieldAccess

open Format

/-- Registrations of a schema. -/
def RegisterSchema.codec : Codec RegisterSchema :=
  .record "RegisterSchemaRequest"
    (.cons (.required "schemaId" .text) <|
     .cons (.required "providerId" .text) <|
     .cons (.required "sdl" .text) <|
     .cons (.withDefault "fieldOwners" (.table .text) []) .nil)
    (fun (schemaId, providerId, sdl, fieldOwners, ()) => { schemaId, providerId, sdl, fieldOwners })
    (fun request => (request.schemaId, request.providerId, request.sdl, request.fieldOwners, ()))

/-- Replacements of the fields of a schema. -/
def ReplaceMetadata.codec : Codec ReplaceMetadata :=
  .record "ReplacePolicyMetadataRequest"
    (.cons (.required "schemaId" .text) <|
     .cons (.required "records" (.list FieldRecord.codec)) .nil)
    (fun (schemaId, records, ()) => { schemaId, records })
    (fun request => (request.schemaId, request.records, ()))

/-- Requests for access. -/
def GrantAccess.codec : Codec GrantAccess :=
  .record "UpdateAllowListRequest"
    (.cons (.required "applicationId" .text) <|
     .cons (.required "grantDuration" .text) <|
     .cons (.required "records" (.list FieldRef.codec)) .nil)
    (fun (applicationId, grantDuration, records, ()) => { applicationId, grantDuration, records })
    (fun request => (request.applicationId, request.grantDuration, request.records, ()))

/-- Requests for a decision. -/
def DecideAccess.codec : Codec DecideAccess :=
  .record "DecideAccessRequest"
    (.cons (.required "applicationId" .text) <|
     .cons (.required "requiredFields" (.list FieldRef.codec)) .nil)
    (fun (applicationId, requiredFields, ()) => { applicationId, requiredFields })
    (fun request => (request.applicationId, request.requiredFields, ()))

/-- The answer to a registration. -/
def RegisteredSchema.codec : Codec RegisteredSchema :=
  .record "RegisteredSchema"
    (.cons (.required "records" (.list FieldPolicy.codec)) <|
     .cons (.required "fields" (.list Schema.ConvertedField.codec)) <|
     .cons (.required "unresolvedOwnerFields" (.list .text)) .nil)
    (fun (records, fields, unresolvedOwnerFields, ()) => { records, fields, unresolvedOwnerFields })
    (fun answer => (answer.records, answer.fields, answer.unresolvedOwnerFields, ()))

/-- Fields to which access was granted. -/
def GrantedField.codec : Codec GrantedField :=
  .record "GrantedField"
    (.cons (.required "fieldName" .text) <|
     .cons (.required "schemaId" .text) <|
     .cons (.required "expiresAt" Instant.codec) <|
     .cons (.required "updatedAt" Instant.codec) .nil)
    (fun (fieldName, schemaId, expiresAt, updatedAt, ()) =>
      { fieldName, schemaId, expiresAt, updatedAt })
    (fun field => (field.fieldName, field.schemaId, field.expiresAt, field.updatedAt, ()))

/-- The answer to a replacement: the stored fields. -/
def storedRecordsCodec : Codec (List FieldPolicy) :=
  .record "PolicyMetadataResponse" (.cons (.required "records" (.list FieldPolicy.codec)) .nil)
    (fun (records, ()) => records) (fun records => (records, ()))

/-- The answer to a request for access: the fields to which it was granted. -/
def grantedRecordsCodec : Codec (List GrantedField) :=
  .record "AllowListUpdateResponse" (.cons (.required "records" (.list GrantedField.codec)) .nil)
    (fun (records, ()) => records) (fun records => (records, ()))

end FieldAccess
