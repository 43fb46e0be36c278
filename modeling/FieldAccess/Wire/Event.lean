import FieldAccess.Audit.Event
import FieldAccess.Wire.Policy

/-!
# Events in documents

How events are read from documents and written. Every kind of report has its own name for the time
of the event, and its keys are in snake case.

## Main definitions

* `Event.codec` – events.
-/

namespace FieldAccess.Event

open Format

/-- Counts. -/
def countCodec : Codec Nat := .natural (Nat.pow 2 64 - 1) "usize"

/-- Lists of field references. -/
def refsCodec : Codec (List FieldRef) := .list FieldRef.codec

/-- Decisions. -/
def decided : Variant Event :=
  .ofFields "DecisionEvaluated"
    (.cons (.required "trace_id" .text) <|
     .cons (.required "application_id" .text) <|
     .cons (.required "requested_fields" refsCodec) <|
     .cons (.required "app_authorized" .flag) <|
     .cons (.required "app_access_expired" .flag) <|
     .cons (.required "app_requires_owner_consent" .flag) <|
     .cons (.required "unauthorized_fields" countCodec) <|
     .cons (.required "expired_fields" countCodec) <|
     .cons (.required "consent_required_fields" countCodec) <|
     .cons (.required "evaluated_at" Instant.codec) .nil)
    (fun (trace, application, requested, appAuthorized, appAccessExpired, appRequiresOwnerConsent,
        unauthorizedFields, expiredFields, consentRequiredFields, time, ()) =>
      { trace, time, report := .decided application requested
          { appAuthorized, appAccessExpired, appRequiresOwnerConsent, unauthorizedFields,
            expiredFields, consentRequiredFields } })
    (fun
      | ⟨trace, time, .decided application requested s⟩ =>
        some (trace, application, requested, s.appAuthorized, s.appAccessExpired,
          s.appRequiresOwnerConsent, s.unauthorizedFields, s.expiredFields,
          s.consentRequiredFields, time, ())
      | _ => none)

/-- Failed decisions. -/
def decisionFailed : Variant Event :=
  .ofFields "DecisionFailed"
    (.cons (.required "trace_id" .text) <|
     .cons (.required "application_id" .text) <|
     .cons (.required "requested_fields" refsCodec) <|
     .cons (.required "reason" .text) <|
     .cons (.required "message" .text) <|
     .cons (.required "failed_at" Instant.codec) .nil)
    (fun (trace, application, requested, reason, message, time, ()) =>
      { trace, time, report := .decisionFailed application requested { reason, message } })
    (fun
      | ⟨trace, time, .decisionFailed application requested f⟩ =>
        some (trace, application, requested, f.reason, f.message, time, ())
      | _ => none)

/-- Replacements. -/
def replaced : Variant Event :=
  .ofFields "MetadataReplaced"
    (.cons (.required "trace_id" .text) <|
     .cons (.required "schema_id" .text) <|
     .cons (.required "field_count" countCodec) <|
     .cons (.required "replaced_at" Instant.codec) .nil)
    (fun (trace, schemaId, fieldCount, time, ()) =>
      { trace, time, report := .replaced schemaId fieldCount })
    (fun
      | ⟨trace, time, .replaced schemaId fieldCount⟩ => some (trace, schemaId, fieldCount, time, ())
      | _ => none)

/-- Failed replacements and registrations. -/
def replaceFailed : Variant Event :=
  .ofFields "MetadataReplaceFailed"
    (.cons (.required "trace_id" .text) <|
     .cons (.required "schema_id" .text) <|
     .cons (.required "reason" .text) <|
     .cons (.required "message" .text) <|
     .cons (.required "failed_at" Instant.codec) .nil)
    (fun (trace, schemaId, reason, message, time, ()) =>
      { trace, time, report := .replaceFailed schemaId { reason, message } })
    (fun
      | ⟨trace, time, .replaceFailed schemaId f⟩ =>
        some (trace, schemaId, f.reason, f.message, time, ())
      | _ => none)

/-- Grants. -/
def granted : Variant Event :=
  .ofFields "AllowListGranted"
    (.cons (.required "trace_id" .text) <|
     .cons (.required "application_id" .text) <|
     .cons (.required "grant_duration" GrantPeriod.codec) <|
     .cons (.required "fields" refsCodec) <|
     .cons (.required "expires_at" Instant.codec) <|
     .cons (.required "granted_at" Instant.codec) .nil)
    (fun (trace, application, period, fields, expiresAt, time, ()) =>
      { trace, time, report := .granted application period fields expiresAt })
    (fun
      | ⟨trace, time, .granted application period fields expiresAt⟩ =>
        some (trace, application, period, fields, expiresAt, time, ())
      | _ => none)

/-- Failed grants. -/
def grantFailed : Variant Event :=
  .ofFields "AllowListGrantFailed"
    (.cons (.required "trace_id" .text) <|
     .cons (.required "application_id" .text) <|
     .cons (.required "fields" refsCodec) <|
     .cons (.required "reason" .text) <|
     .cons (.required "message" .text) <|
     .cons (.required "failed_at" Instant.codec) .nil)
    (fun (trace, application, fields, reason, message, time, ()) =>
      { trace, time, report := .grantFailed application fields { reason, message } })
    (fun
      | ⟨trace, time, .grantFailed application fields f⟩ =>
        some (trace, application, fields, f.reason, f.message, time, ())
      | _ => none)

/-- Registrations. -/
def registered : Variant Event :=
  .ofFields "SchemaRegistered"
    (.cons (.required "trace_id" .text) <|
     .cons (.required "schema_id" .text) <|
     .cons (.required "provider_id" .text) <|
     .cons (.required "field_count" countCodec) <|
     .cons (.required "unresolved_owner_fields" (.list .text)) <|
     .cons (.required "registered_at" Instant.codec) .nil)
    (fun (trace, schemaId, providerId, fieldCount, unresolvedOwnerFields, time, ()) =>
      { trace, time, report := .registered schemaId providerId fieldCount unresolvedOwnerFields })
    (fun
      | ⟨trace, time, .registered schemaId providerId fieldCount unresolvedOwnerFields⟩ =>
        some (trace, schemaId, providerId, fieldCount, unresolvedOwnerFields, time, ())
      | _ => none)

/-- Events. -/
def codec : Codec Event :=
  .variants [decided, decisionFailed, replaced, replaceFailed, granted, grantFailed, registered]

end FieldAccess.Event
