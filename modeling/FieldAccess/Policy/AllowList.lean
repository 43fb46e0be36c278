import FieldAccess.Policy.Error

/-!
# Allow-lists

The applications that may access a field, each with the end of its access.

## Main definitions

* `Grant` – the access of one application.
* `AllowList` – a grant for each of some applications.
* `GrantPeriod.from` – the grant that begins at an instant.
-/

namespace FieldAccess

/-- The access of an application: when it ends, and when it was granted. -/
structure Grant where
  expiresAt : Instant
  updatedAt : Instant
  deriving Repr, DecidableEq, Inhabited

/-- A grant has expired strictly after its end. -/
def Grant.isExpiredAt (grant : Grant) (now : Instant) : Bool := grant.expiresAt < now

/-- A grant for each of some applications. -/
abbrev AllowList := Std.ExtTreeMap String Grant

/-- The instant at which a grant given at `now` ends. -/
def GrantPeriod.expiry (period : GrantPeriod) (now : Instant) : Except PolicyError Instant :=
  match now.addMonths? period.months with
  | some t => .ok t
  | none => .error (.invalidArgument (.overflow period now))

/-- The grant given at `now` for a period. -/
def GrantPeriod.startingAt (period : GrantPeriod) (now : Instant) : Except PolicyError Grant :=
  (period.expiry now).map fun expiresAt => { expiresAt, updatedAt := now }

end FieldAccess
