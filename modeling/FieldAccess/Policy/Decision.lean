import FieldAccess.Policy.FieldPolicy

/-!
# Access decisions

Whether an application may access fields. Each field has one outcome: without a grant the access is
unauthorized; with a grant that has ended it has expired; with a valid grant the owner may still
have to consent.

## Main definitions

* `Outcome`, `FieldPolicy.outcome` – the outcome for one field.
* `Decision`, `Decision.evaluate` – the decision on a list of fields.
-/

namespace FieldAccess

/-- The outcome for one field. -/
inductive Outcome where
  | unauthorized
  | expired
  | consentRequired
  | authorized
  deriving Repr, DecidableEq, Inhabited

/-- The spelling of an outcome. -/
def Outcome.name : Outcome → String
  | unauthorized => "unauthorized"
  | expired => "expired"
  | consentRequired => "consentRequired"
  | authorized => "authorized"

/-- The outcome for an application that wants to access a field. -/
def FieldPolicy.outcome (policy : FieldPolicy) (application : String) (now : Instant) : Outcome :=
  match policy.allowList[application]? with
  | none => .unauthorized
  | some grant =>
    if grant.isExpiredAt now then .expired
    else if policy.needsConsent then .consentRequired
    else .authorized

/-- What a decision says about a field. -/
structure DecisionField where
  fieldName : String
  schemaId : String
  displayName : Option String := none
  description : Option String := none
  owner : Option Owner := none
  deriving Repr, DecidableEq, Inhabited

/-- What a decision says about the field of a policy. -/
def FieldPolicy.decisionField (policy : FieldPolicy) : DecisionField where
  fieldName := policy.fieldName
  schemaId := policy.schemaId
  displayName := policy.displayName
  description := policy.description
  owner := policy.owner

/-- A decision: the fields of each outcome but the last, and whether there are any. -/
structure Decision where
  appAuthorized : Bool
  unauthorizedFields : List DecisionField
  appAccessExpired : Bool
  expiredFields : List DecisionField
  appRequiresOwnerConsent : Bool
  consentRequiredFields : List DecisionField
  deriving Repr, DecidableEq, Inhabited

namespace Decision

/-- The fields with an outcome, in order. -/
def withOutcome (application : String) (now : Instant) (outcome : Outcome)
    (policies : List FieldPolicy) : List DecisionField :=
  (policies.filter fun policy => policy.outcome application now == outcome).map
    FieldPolicy.decisionField

/-- The decision on a list of fields. Access to no field at all is authorized. -/
def evaluate (application : String) (policies : List FieldPolicy) (now : Instant) : Decision :=
  let unauthorized := withOutcome application now .unauthorized policies
  let expired := withOutcome application now .expired policies
  let consent := withOutcome application now .consentRequired policies
  { appAuthorized := unauthorized.isEmpty
    unauthorizedFields := unauthorized
    appAccessExpired := !expired.isEmpty
    expiredFields := expired
    appRequiresOwnerConsent := !consent.isEmpty
    consentRequiredFields := consent }

end Decision

end FieldAccess
