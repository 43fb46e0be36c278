import FieldAccess.Net.Percent
import FieldAccess.Text.Trim

/-!
# Queries of addresses

The names and values in the query of an address.

## Main definitions

* `Net.queryPairs` – the names and values in order.
-/

namespace FieldAccess.Net

open Text

/-- A part of a query without its encoding. Plus signs stand for spaces. -/
def decodedPart (text : List Char) : String :=
  String.ofList (Utf8.decodeLossy (decodedBytes (text.map fun c => if c = '+' then ' ' else c)))

/-- The names and values of a query, in order. A name without a value has an empty one. -/
def queryPairs (query : List Char) : List (String × String) :=
  ((splitOn (· = '&') query).filter (!·.isEmpty)).map fun part =>
    match splitFirst? ['='] part with
    | some (name, value) => (decodedPart name, decodedPart value)
    | none => (decodedPart part, "")

end FieldAccess.Net
