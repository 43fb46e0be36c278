/-!
# JSON values

A JSON value keeps the entries of an object in the order in which they are written. Numbers are
integers, or decimals given by the text that writes them.

## Main definitions

* `Json` – the values.
* `Json.sorted` – the same value with the keys of every object in increasing order.
-/

namespace FieldAccess

/-- A JSON value. -/
inductive Json where
  | null
  | flag (value : Bool)
  | integer (value : Int)
  | decimal (digits : String)
  | text (value : String)
  | list (items : List Json)
  | table (entries : List (String × Json))
  deriving Repr, BEq, Inhabited

namespace Json

/-- The value of an object's key; of a repeated key, the first one. -/
def get? (key : String) : Json → Option Json
  | .table entries => entries.lookup key
  | _ => none

/-- Enters a value under a key into entries with increasing keys, replacing one that is there. -/
def insertEntry (key : String) (value : Json) : List (String × Json) → List (String × Json)
  | [] => [(key, value)]
  | (k, v) :: rest =>
    if key < k then (key, value) :: (k, v) :: rest
    else if key = k then (key, value) :: rest
    else (k, v) :: insertEntry key value rest

mutual

/-- The value with the keys of every object in increasing order. Of a repeated key the last entry
counts. -/
def sorted : Json → Json
  | .list items => .list (sortedItems items)
  | .table entries => .table (sortedEntries [] entries)
  | value => value

/-- The sorted forms of the items. -/
def sortedItems : List Json → List Json
  | [] => []
  | item :: rest => sorted item :: sortedItems rest

/-- Enters the sorted forms of the entries, in turn, into those already `done`. -/
def sortedEntries (done : List (String × Json)) : List (String × Json) → List (String × Json)
  | [] => done
  | (key, value) :: rest => sortedEntries (insertEntry key (sorted value) done) rest

end

end Json

end FieldAccess
