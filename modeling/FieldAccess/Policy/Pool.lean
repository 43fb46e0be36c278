import FieldAccess.Policy.Error
import FieldAccess.Policy.FieldPolicy

/-!
# The database of the store

The store can be kept in a database, which is reached over a pool of connections. Changes are made
in a transaction; a question without fields needs no connection.

## Main definitions

* `StoreCall` – what the store is asked for.
* `StoreCall.onClosedPool` – what comes of it once the pool is closed.
* `Migration` – a change of the layout of the database.
-/

namespace FieldAccess

/-- What the store is asked for. -/
inductive StoreCall where
  | get (ref : FieldRef)
  | getAll (refs : List FieldRef)
  | grant (app : String) (refs : List FieldRef) (grant : Grant)
  | replace (schemaId : String) (records : List FieldRecord)
  deriving Repr

namespace StoreCall

/-- Whether a call makes changes. -/
def changes : StoreCall → Bool
  | grant .. | replace .. => true
  | get _ | getAll _ => false

/-- Whether a call needs a connection to the database. -/
def needsConnection : StoreCall → Bool
  | getAll refs => !refs.isEmpty
  | _ => true

/-- The error of a call for which no connection can be had. -/
def connectionError (call : StoreCall) (error : DatabaseError) : StoreError :=
  if call.changes then .database ("Failed to begin transaction: " ++ error.message)
  else .ofDatabase error

/-- What comes of a call once the pool is closed. -/
def onClosedPool (call : StoreCall) : Except StoreError (List FieldPolicy) :=
  if call.needsConnection then .error (call.connectionError .poolClosed) else .ok []

end StoreCall

/-- A change of the layout of the database. -/
structure Migration where
  version : Nat
  description : String
  deriving Repr, DecidableEq

/-- All changes, in order. -/
def Migration.all : List Migration := [⟨20260601000000, "policy metadata"⟩]

/-- The changes that are not among those made before. -/
def Migration.pending (made : List Nat) : List Migration :=
  all.filter fun migration => !made.contains migration.version

end FieldAccess
