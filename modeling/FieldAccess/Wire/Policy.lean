import FieldAccess.Format.Codec
import FieldAccess.Policy.Decision

/-!
# Policies in documents

How field records, field policies and decisions, with all they consist of, are read from documents
and written. Keys are in camel case, and absent optional values are left out.

## Main definitions

* `FieldRef.codec`, `Grant.codec`, `AllowList.codec` – the parts.
* `FieldRecord.codec`, `FieldPolicy.codec` – records and stored policies.
* `Decision.codec` – decisions.
-/

namespace FieldAccess

open Format

/-- Instants are written as texts. -/
def Instant.codec : Codec Instant :=
  .ofText "an RFC 3339 formatted date and time string"
    (fun text => (Instant.read text).mapError Instant.ReadError.message) Instant.toText

/-- Identifiers are written as texts. -/
def Uuid.codec : Codec Uuid := .ofText "a UUID string" Uuid.read Uuid.toText

/-- Words for access control. -/
def AccessControl.codec : Codec AccessControl := .choice AccessControl.all AccessControl.name

/-- Words for provenance. -/
def Provenance.codec : Codec Provenance := .choice Provenance.all Provenance.name

/-- Grant periods. -/
def GrantPeriod.codec : Codec GrantPeriod := .choice GrantPeriod.all GrantPeriod.name

/-- Owners are written as their identities. -/
def Owner.codec : Codec Owner := Codec.text.mapped Owner.mk Owner.identity

/-- References of fields. -/
def FieldRef.codec : Codec FieldRef :=
  .record "FieldRef" (.cons (.required "schemaId" .text) (.cons (.required "fieldName" .text) .nil))
    (fun (schemaId, fieldName, ()) => { schemaId, fieldName })
    (fun ref => (ref.schemaId, ref.fieldName, ()))

/-- Grants. -/
def Grant.codec : Codec Grant :=
  .record "AllowListEntry"
    (.cons (.required "expiresAt" Instant.codec) (.cons (.required "updatedAt" Instant.codec) .nil))
    (fun (expiresAt, updatedAt, ()) => { expiresAt, updatedAt })
    (fun grant => (grant.expiresAt, grant.updatedAt, ()))

/-- Allow-lists are maps from applications to grants. They have no order of their own and are written
in the order of the applications. -/
def AllowList.codec : Codec AllowList :=
  (Codec.table Grant.codec).mapped
    (fun entries => entries.foldl (fun list (app, grant) => list.insert app grant) ∅)
    (fun list => list.toList)

/-- Field records. Provenance and access control have defaults. -/
def FieldRecord.codec : Codec FieldRecord :=
  .record "FieldPolicyRecord"
    (.cons (.required "fieldName" .text) <|
     .cons (.optional "displayName" .text) <|
     .cons (.optional "description" .text) <|
     .cons (.withDefault "source" Provenance.codec .fallback) <|
     .cons (.required "isOwner" .flag) <|
     .cons (.withDefault "accessControlType" AccessControl.codec .restricted) <|
     .cons (.optional "owner" Owner.codec) .nil)
    (fun (fieldName, displayName, description, source, isOwner, accessControl, owner, ()) =>
      { fieldName, displayName, description, source, isOwner, accessControl, owner })
    (fun record => (record.fieldName, record.displayName, record.description, record.source,
      record.isOwner, record.accessControl, record.owner, ()))

/-- Stored policies. -/
def FieldPolicy.codec : Codec FieldPolicy :=
  .record "FieldPolicy"
    (.cons (.required "id" Uuid.codec) <|
     .cons (.required "schemaId" .text) <|
     .cons (.required "fieldName" .text) <|
     .cons (.optional "displayName" .text) <|
     .cons (.optional "description" .text) <|
     .cons (.required "source" Provenance.codec) <|
     .cons (.required "isOwner" .flag) <|
     .cons (.required "accessControlType" AccessControl.codec) <|
     .cons (.required "allowList" AllowList.codec) <|
     .cons (.optional "owner" Owner.codec) <|
     .cons (.required "createdAt" Instant.codec) <|
     .cons (.required "updatedAt" Instant.codec) .nil)
    (fun (id, schemaId, fieldName, displayName, description, source, isOwner, accessControl,
        allowList, owner, createdAt, updatedAt, ()) =>
      { id, schemaId, fieldName, displayName, description, source, isOwner, accessControl,
        allowList, owner, createdAt, updatedAt })
    (fun row => (row.id, row.schemaId, row.fieldName, row.displayName, row.description, row.source,
      row.isOwner, row.accessControl, row.allowList, row.owner, row.createdAt, row.updatedAt, ()))

/-- What a decision says about a field. -/
def DecisionField.codec : Codec DecisionField :=
  .record "DecisionField"
    (.cons (.required "fieldName" .text) <|
     .cons (.required "schemaId" .text) <|
     .cons (.optional "displayName" .text) <|
     .cons (.optional "description" .text) <|
     .cons (.optional "owner" Owner.codec) .nil)
    (fun (fieldName, schemaId, displayName, description, owner, ()) =>
      { fieldName, schemaId, displayName, description, owner })
    (fun field => (field.fieldName, field.schemaId, field.displayName, field.description,
      field.owner, ()))

/-- Decisions. -/
def Decision.codec : Codec Decision :=
  .record "PolicyDecision"
    (.cons (.required "appAuthorized" .flag) <|
     .cons (.required "unauthorizedFields" (.list DecisionField.codec)) <|
     .cons (.required "appAccessExpired" .flag) <|
     .cons (.required "expiredFields" (.list DecisionField.codec)) <|
     .cons (.required "appRequiresOwnerConsent" .flag) <|
     .cons (.required "consentRequiredFields" (.list DecisionField.codec)) .nil)
    (fun (appAuthorized, unauthorizedFields, appAccessExpired, expiredFields,
        appRequiresOwnerConsent, consentRequiredFields, ()) =>
      { appAuthorized, unauthorizedFields, appAccessExpired, expiredFields,
        appRequiresOwnerConsent, consentRequiredFields })
    (fun d => (d.appAuthorized, d.unauthorizedFields, d.appAccessExpired, d.expiredFields,
      d.appRequiresOwnerConsent, d.consentRequiredFields, ()))

end FieldAccess
