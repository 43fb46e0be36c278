import FieldAccess.Policy.FieldRef
import FieldAccess.Policy.Vocabulary
import FieldAccess.Time.Rfc3339

/-!
# Errors

What can go wrong with a request: its arguments may be at fault, a field that it names may be
unknown, or the store may fail. The store reports its own errors, which turn into errors of the
request.

## Main definitions

* `ArgumentFault` – the faults of an argument.
* `PolicyError` – the errors of a request.
* `StoreError` – the errors of the store.
* `PolicyError.ofStore`, `StoreError.ofPolicy` – how the two are carried over into each other.
-/

namespace FieldAccess

/-- Why the arguments of a request are refused. -/
inductive ArgumentFault where
  /-- The named argument is blank. -/
  | blank (name : String)
  /-- The text is no word for access control. -/
  | unknownAccess (text : String)
  /-- The text is no word for a provenance. -/
  | unknownProvenance (text : String)
  /-- The text is no grant period. -/
  | unknownPeriod (text : String)
  /-- The calendar ends before the grant would. -/
  | overflow (period : GrantPeriod) (now : Instant)
  /-- The ownership of the field contradicts the owner given for it; the name is known when the
  field is one of a batch. -/
  | ownership (field : Option String)
  /-- The field occurs twice in a batch. -/
  | repeatedField (name : String)
  /-- A grant names no field. -/
  | noRecords
  /-- A schema document has no field. -/
  | noFields
  /-- A fault reported in words by a store. -/
  | reported (message : String)
  deriving Repr, DecidableEq

namespace ArgumentFault

/-- The rule of ownership. -/
def ownershipRule : String :=
  "owner must be specified when isOwner is false and must be null when isOwner is true"

/-- The wording of a fault. -/
def message : ArgumentFault → String
  | blank name => name ++ " is required"
  | unknownAccess text => s!"unknown access control type '{text}'"
  | unknownProvenance text => s!"unknown source '{text}'"
  | unknownPeriod text => "invalid grant duration: " ++ text
  | overflow period now => s!"grant duration {period.name} overflows from {now.display}"
  | ownership none => ownershipRule
  | ownership (some field) => field ++ ": " ++ ownershipRule
  | repeatedField name => s!"duplicate fieldName '{name}' in request"
  | noRecords => "records must not be empty"
  | noFields => "sdl contains no annotated data fields"
  | reported message => message

end ArgumentFault

/-- What a request refers to without its being there. -/
inductive Absence where
  /-- The store has no policy for the field. -/
  | field (ref : FieldRef)
  /-- An absence reported in words by a store. -/
  | reported (message : String)
  deriving Repr, DecidableEq

/-- The wording of an absence. -/
def Absence.message : Absence → String
  | field ref => "policy metadata not found for " ++ ref.display
  | reported message => message

/-- Why a request fails. -/
inductive PolicyError where
  /-- An argument is at fault. Always found before anything is changed. -/
  | invalidArgument (fault : ArgumentFault)
  /-- Something referred to is absent. -/
  | notFound (absence : Absence)
  /-- The store failed; the details are not shown to clients. -/
  | internal (message : String)
  deriving Repr, DecidableEq

namespace PolicyError

/-- The label of an error in counters and audit entries. -/
def label : PolicyError → String
  | invalidArgument _ => "invalid_argument"
  | notFound _ => "not_found"
  | internal _ => "db_error"

/-- The wording of an error without its kind. -/
def detail : PolicyError → String
  | invalidArgument fault => fault.message
  | notFound absence => absence.message
  | internal message => message

/-- The wording of an error. -/
def message : PolicyError → String
  | invalidArgument fault => "Invalid argument: " ++ fault.message
  | notFound absence => "Not found: " ++ absence.message
  | internal message => "Internal error: " ++ message

end PolicyError

/-- Why the store fails. -/
inductive StoreError where
  | notFound (absence : Absence)
  | validation (fault : ArgumentFault)
  | database (message : String)
  | serialization (message : String)
  | unknown (message : String)
  deriving Repr, DecidableEq

namespace StoreError

/-- The name of the kind of an error. -/
def kind : StoreError → String
  | notFound _ => "NotFound"
  | validation _ => "Validation"
  | database _ => "Database"
  | serialization _ => "Serialization"
  | unknown _ => "Unknown"

/-- The wording of an error. -/
def message : StoreError → String
  | notFound absence => "Entity not found: " ++ absence.message
  | validation fault => "Validation error: " ++ fault.message
  | database message => "Database error: " ++ message
  | serialization message => "Serialization error: " ++ message
  | unknown message => "Unknown error: " ++ message

/-- The error of a store that the request reports to it. -/
def ofPolicy : PolicyError → StoreError
  | .invalidArgument fault => .validation fault
  | .notFound absence => .notFound absence
  | .internal message => .unknown message

end StoreError

/-- The error of a request for which the store fails. -/
def PolicyError.ofStore : StoreError → PolicyError
  | .notFound absence => .notFound absence
  | .validation fault => .invalidArgument fault
  | error => .internal error.message

/-- The errors of a database, as far as they are told apart. -/
inductive DatabaseError where
  | rowNotFound
  | poolTimedOut
  | poolClosed
  | workerCrashed
  | protocol (message : String)
  | columnNotFound (name : String)
  deriving Repr, DecidableEq

namespace DatabaseError

/-- The wording of an error. -/
def message : DatabaseError → String
  | rowNotFound => "no rows returned by a query that expected to return at least one row"
  | poolTimedOut => "pool timed out while waiting for an open connection"
  | poolClosed => "attempted to acquire a connection on a closed pool"
  | workerCrashed => "attempted to communicate with a crashed background worker"
  | protocol message => "encountered unexpected or invalid data: " ++ message
  | columnNotFound name => "no column found for name: " ++ name

end DatabaseError

/-- The error of a store whose database fails. A missing row is an absence. -/
def StoreError.ofDatabase : DatabaseError → StoreError
  | .rowNotFound => .notFound (.reported "Row not found")
  | error => .database error.message

end FieldAccess
