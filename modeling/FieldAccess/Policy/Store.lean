import FieldAccess.Policy.Replacement

/-!
# The store of field policies

One policy for each field. Every change is made completely or not at all.

## Main definitions

* `Store` – the policies by their fields.
* `Store.replaceSchema` – replacing the fields of a schema.
* `Store.get`, `Store.getAll` – looking up one field, or several.
* `Store.grant` – granting access to several fields.
-/

namespace FieldAccess

/-- The policies, each under the reference of its field. -/
abbrev Store := Std.ExtTreeMap FieldRef FieldPolicy FieldRef.order

namespace Store

/-- The error of a field that is not there. -/
def missing (ref : FieldRef) : StoreError := .notFound (.field ref)

/-- The policies of a schema. -/
def ofSchema (store : Store) (schemaId : String) : List FieldPolicy :=
  (store.toList.map (·.2)).filter fun row => row.schemaId == schemaId

/-- The store without some fields. -/
def eraseRows (store : Store) (rows : List FieldPolicy) : Store :=
  rows.foldl (fun store row => store.erase row.ref) store

/-- The store with some policies, which take the places of earlier ones. -/
def insertRows (store : Store) (rows : List FieldPolicy) : Store :=
  rows.foldl (fun store row => store.insert row.ref row) store

/-- Replaces the fields of a schema by those that records describe. The result holds them in the
order of the records. -/
def replaceSchema (store : Store) (fresh : Nat → Uuid) (now : Instant) (schemaId : String)
    (records : List FieldRecord) : Except StoreError (List FieldPolicy × Store) :=
  match Replacement.plan fresh schemaId (store.ofSchema schemaId) records now with
  | .error error => .error (.ofPolicy error)
  | .ok plan => .ok (plan.rows, (store.eraseRows plan.deleted).insertRows plan.rows)

/-- The policy of a field. -/
def get (store : Store) (ref : FieldRef) : Except StoreError FieldPolicy :=
  match store[ref]? with
  | some row => .ok row
  | none => .error (missing ref)

/-- The policies of fields, in order; the first absent one is an error. -/
def getAll (store : Store) : List FieldRef → Except StoreError (List FieldPolicy)
  | [] => .ok []
  | ref :: rest => do
    let row ← store.get ref
    return row :: (← getAll store rest)

/-- Grants an application access to fields that are all there. The result holds each field as it is
right after the grant. -/
def grantEach (application : String) (grant : Grant) (store : Store) :
    List FieldRef → List FieldPolicy × Store
  | [] => ([], store)
  | ref :: rest =>
    match store[ref]? with
    | none => grantEach application grant store rest
    | some row =>
      let row := row.grant application grant
      let (rows, store) := grantEach application grant (store.insert ref row) rest
      (row :: rows, store)

/-- Grants an application access to fields. If one of them is absent nothing changes. -/
def grant (store : Store) (application : String) (refs : List FieldRef) (grant : Grant) :
    Except StoreError (List FieldPolicy × Store) :=
  match refs.find? fun ref => !store.contains ref with
  | some ref => .error (missing ref)
  | none => .ok (grantEach application grant store refs)

end Store

end FieldAccess
