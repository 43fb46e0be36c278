/-!
# The vocabulary of field policies

The closed sets of words that describe a field and a grant, each with its spelling.

## Main definitions

* `AccessControl` – whether the owner's consent matters for a field.
* `Provenance` – where the value of a field comes from.
* `GrantPeriod` – how long a grant lasts.
-/

namespace FieldAccess

/-- Whether a field is open to every application that was granted it, or needs the consent of its
owner as well. -/
inductive AccessControl where
  | unrestricted
  | restricted
  deriving Repr, DecidableEq, Inhabited

namespace AccessControl

/-- The spelling of a word. -/
def name : AccessControl → String
  | unrestricted => "public"
  | restricted => "restricted"

/-- All words. -/
def all : List AccessControl := [unrestricted, restricted]

/-- The word with a spelling. -/
def ofName? (text : String) : Option AccessControl := all.find? fun word => word.name == text

end AccessControl

/-- Whether the value of a field comes from its primary source. Informational only. -/
inductive Provenance where
  | primary
  | fallback
  deriving Repr, DecidableEq, Inhabited

namespace Provenance

/-- The spelling of a word. -/
def name : Provenance → String
  | primary => "primary"
  | fallback => "fallback"

/-- All words. -/
def all : List Provenance := [primary, fallback]

/-- The word with a spelling. -/
def ofName? (text : String) : Option Provenance := all.find? fun word => word.name == text

end Provenance

/-- How long a grant lasts. -/
inductive GrantPeriod where
  | month
  | year
  deriving Repr, DecidableEq, Inhabited

namespace GrantPeriod

/-- The spelling of a period. -/
def name : GrantPeriod → String
  | month => "30d"
  | year => "365d"

/-- All periods. -/
def all : List GrantPeriod := [month, year]

/-- The period with a spelling. -/
def ofName? (text : String) : Option GrantPeriod := all.find? fun word => word.name == text

/-- The calendar months of a period. -/
def months : GrantPeriod → Nat
  | month => 1
  | year => 12

end GrantPeriod

end FieldAccess
