import FieldAccess.Policy.Decision
import FieldAccess.Policy.Error

/-!
# Events

Every call of the service is reported by one event, whether it succeeds or fails. An event belongs
to a trace and tells what has come of the call.

## Main definitions

* `Report` – what has come of a call.
* `Event` – a report, its trace and its time.
-/

namespace FieldAccess

/-- What is reported about a failed call. -/
structure Failure where
  /-- The label of the error. -/
  reason : String
  message : String
  deriving Repr, DecidableEq, Inhabited

/-- What is reported about an error. -/
def PolicyError.failure (error : PolicyError) : Failure := ⟨error.label, error.message⟩

/-- What is reported about a decision. -/
structure DecisionSummary where
  appAuthorized : Bool
  appAccessExpired : Bool
  appRequiresOwnerConsent : Bool
  unauthorizedFields : Nat
  expiredFields : Nat
  consentRequiredFields : Nat
  deriving Repr, DecidableEq, Inhabited

/-- What is reported about a decision. -/
def Decision.summary (decision : Decision) : DecisionSummary where
  appAuthorized := decision.appAuthorized
  appAccessExpired := decision.appAccessExpired
  appRequiresOwnerConsent := decision.appRequiresOwnerConsent
  unauthorizedFields := decision.unauthorizedFields.length
  expiredFields := decision.expiredFields.length
  consentRequiredFields := decision.consentRequiredFields.length

/-- What has come of a call. -/
inductive Report where
  | decided (application : String) (requested : List FieldRef) (summary : DecisionSummary)
  | decisionFailed (application : String) (requested : List FieldRef) (failure : Failure)
  | replaced (schemaId : String) (fieldCount : Nat)
  | replaceFailed (schemaId : String) (failure : Failure)
  | granted (application : String) (period : GrantPeriod) (fields : List FieldRef)
      (expiresAt : Instant)
  | grantFailed (application : String) (fields : List FieldRef) (failure : Failure)
  | registered (schemaId providerId : String) (fieldCount : Nat)
    (unresolvedOwnerFields : List String)
  deriving Repr, DecidableEq

namespace Report

/-- The failure that is reported, if the call has failed. -/
def failure? : Report → Option Failure
  | decisionFailed _ _ failure | replaceFailed _ failure | grantFailed _ _ failure => some failure
  | _ => none

/-- Whether the call has succeeded. -/
def isSuccess (report : Report) : Bool := report.failure?.isNone

/-- Whether a decision was asked for. -/
def isDecision : Report → Bool
  | decided _ _ _ | decisionFailed _ _ _ => true
  | _ => false

end Report

/-- The report of a call that belongs to a trace. -/
structure Event where
  trace : String
  time : Instant
  report : Report
  deriving DecidableEq

end FieldAccess
