import FieldAccess.Audit.Event
import FieldAccess.Wire.Policy

/-!
# Audit entries

What an audit service is told about an event. Decisions are entered as policy checks that concern
the service, all other events as management events that concern the policy metadata. An entry has
its keys in a fixed order; the objects inside of it have theirs in increasing order.

## Main definitions

* `Event.auditEntry` – the entry for an event.
-/

namespace FieldAccess

/-- References of fields as they are written. -/
def refsJson (refs : List FieldRef) : Json := .list (refs.map FieldRef.codec.write)

namespace Report

/-- The kind of access that an entry is about. -/
def accessKind : Report → String
  | decided _ _ _ | decisionFailed _ _ _ => "READ"
  | replaced _ _ | replaceFailed _ _ | registered _ _ _ _ => "CREATE"
  | granted _ _ _ _ | grantFailed _ _ _ => "UPDATE"

/-- What the call asked for. -/
def requestedData : Report → List (String × Json)
  | decided application requested _ | decisionFailed application requested _ =>
    [("applicationId", .text application), ("requiredFields", refsJson requested)]
  | replaced schemaId _ | replaceFailed schemaId _ => [("schemaId", .text schemaId)]
  | granted application period fields _ =>
    [("applicationId", .text application), ("grantDuration", .text period.name),
      ("records", refsJson fields)]
  | grantFailed application fields _ =>
    [("applicationId", .text application), ("records", refsJson fields)]
  | registered schemaId providerId _ _ =>
    [("schemaId", .text schemaId), ("providerId", .text providerId)]

/-- A failure in an entry. -/
def failureData (failure : Failure) : List (String × Json) :=
  [("error", .text failure.reason), ("message", .text failure.message)]

/-- What the call was answered with. -/
def responseData : Report → List (String × Json)
  | decided _ _ summary =>
    [("appAuthorized", .flag summary.appAuthorized),
      ("appAccessExpired", .flag summary.appAccessExpired),
      ("appRequiresOwnerConsent", .flag summary.appRequiresOwnerConsent),
      ("unauthorizedFieldCount", .integer summary.unauthorizedFields),
      ("expiredFieldCount", .integer summary.expiredFields),
      ("consentRequiredFieldCount", .integer summary.consentRequiredFields)]
  | decisionFailed _ _ failure | replaceFailed _ failure | grantFailed _ _ failure =>
    failureData failure
  | replaced _ fieldCount => [("recordCount", .integer fieldCount)]
  | granted _ _ fields expiresAt =>
    [("expiresAt", Instant.codec.write expiresAt), ("recordCount", .integer fields.length)]
  | registered _ _ fieldCount unresolved =>
    [("recordCount", .integer fieldCount),
      ("unresolvedOwnerFields", .list (unresolved.map .text))]

end Report

/-- The entry for an event at the service called `service`. A trace without a name is left out. -/
def Event.auditEntry (service : String) (event : Event) : Json :=
  let report := event.report
  let trace := if event.trace = "" then [] else [("traceId", Json.text event.trace)]
  let target :=
    if report.isDecision then
      [("targetType", Json.text "SERVICE"), ("targetServiceName", .text service)]
    else [("targetType", .text "RESOURCE"), ("targetResource", .text "POLICY_METADATA")]
  .table <| trace ++
    [("timestamp", .text event.time.toMillisText),
      ("eventName", .text (if report.isDecision then "POLICY_CHECK" else "MANAGEMENT_EVENT")),
      ("eventType", .text report.accessKind),
      ("status", .text (if report.isSuccess then "SUCCESS" else "FAILURE")),
      ("actorType", .text "SERVICE"),
      ("actorServiceName", .text service)] ++
    target ++
    [("requestedData", (Json.table report.requestedData).sorted),
      ("responseMetadata", (Json.table report.responseData).sorted)]

end FieldAccess
