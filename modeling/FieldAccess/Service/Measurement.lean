/-!
# Measurements

What the service counts: granted accesses, the time that decisions take, failed decisions, and
events for which the audit queue had no room.

## Main definitions

* `Measurement` – one measurement.
* `Measurement.totals` – the counts after a list of measurements.
-/

namespace FieldAccess

/-- Something that is counted. -/
inductive Measurement where
  | grants (count : Nat)
  | decisionLatency
  | decisionFailure (reason : String)
  | droppedEvent (reason : String)
  deriving Repr, DecidableEq

namespace Measurement

/-- A name with a label in braces. -/
def labelled (name label value : String) : String :=
  name ++ String.ofList ['\x7b'] ++ label ++ "=" ++ value ++ String.ofList ['\x7d']

/-- The name under which it is counted. -/
def name : Measurement → String
  | grants _ => "pdp_allowlist_grants_total"
  | decisionLatency => "pdp_decision_latency_seconds"
  | decisionFailure reason => labelled "pdp_decision_failures_total" "reason" reason
  | droppedEvent reason => labelled "pdp_audit_events_dropped_total" "reason" reason

/-- How much is added to the count. -/
def amount : Measurement → Nat
  | grants count => count
  | _ => 1

/-- Adds an amount to the count with a name. -/
def add (name : String) (amount : Nat) : List (String × Nat) → List (String × Nat)
  | [] => [(name, amount)]
  | (n, count) :: rest =>
    if n = name then (n, count + amount) :: rest else (n, count) :: add name amount rest

/-- The counts after some measurements, in the order in which they are first made. -/
def totals (measurements : List Measurement) : List (String × Nat) :=
  measurements.foldl (fun counts m => add m.name m.amount counts) []

end Measurement

end FieldAccess
