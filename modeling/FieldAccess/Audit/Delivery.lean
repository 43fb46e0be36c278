import FieldAccess.Audit.Entry
import FieldAccess.Http.Transport
import FieldAccess.Json.Writer
import FieldAccess.Manifest.Basic
import FieldAccess.Service.Measurement
import FieldAccess.Text.Trim

/-!
# Delivery of audit entries

Events wait in a queue of limited length and are sent to the audit service one after another. An
event that finds the queue full is dropped and counted; an entry that the audit service does not
take is not sent again.

## Main definitions

* `Audit.Queue` – the events that wait.
* `Audit.Sink` – where the events of an instance go to.
* `Audit.deliver` – sending the events of a queue.
-/

namespace FieldAccess.Audit

/-- Where the audit service takes entries. -/
def entryPath : String := "/api/audit-logs"

/-- The address that entries are sent to. -/
def entryUrl (endpoint : String) : String := Text.withoutTrailing '/' endpoint ++ entryPath

/-- The events that wait. -/
structure Queue where
  capacity : Nat
  events : List Event := []

namespace Queue

/-- The greatest length of a queue. -/
def maxCapacity : Nat := (Nat.pow 2 64 - 1) / 8

/-- An empty queue, if it can have the given length. -/
def ofCapacity? (capacity : Nat) : Option Queue :=
  if capacity = 0 || maxCapacity < capacity then none else some { capacity }

/-- Adds an event, or counts it as dropped. -/
def emit (queue : Queue) (event : Event) : Queue × List Measurement :=
  if queue.events.length < queue.capacity then
    ({ queue with events := queue.events ++ [event] }, [])
  else (queue, [.droppedEvent "queue_full"])

/-- Adds events in turn. -/
def emitAll (queue : Queue) : List Event → Queue × List Measurement
  | [] => (queue, [])
  | event :: rest =>
    let (queue, dropped) := queue.emit event
    let (queue, more) := queue.emitAll rest
    (queue, dropped ++ more)

end Queue

/-- Where events go to. -/
inductive Sink where
  /-- Into the log only. -/
  | log
  /-- To the audit service at an endpoint. -/
  | queue (endpoint service : String) (queue : Queue)

/-- Where events go to under some settings; `none` if there can be no queue of the length wanted. -/
def Sink.open? (settings : Option AuditSettings) : Option Sink :=
  match settings with
  | none => some .log
  | some settings =>
    match settings.endpoint with
    | none => some .log
    | some endpoint =>
      (Queue.ofCapacity? settings.queueCapacity.toNat).map (.queue endpoint settings.serviceName)

/-- The request that sends an entry. -/
def entryRequest (service : String) (event : Event) : Http.Request where
  method := "POST"
  target := entryPath
  headers := [("content-type", "application/json")]
  body := (event.auditEntry service).compact

/-- What came of the events of a queue. -/
structure Delivery where
  /-- The requests that the audit service received. -/
  received : List Http.Request := []
  /-- The number of entries that it took. -/
  delivered : Nat := 0
  /-- The number of entries that it did not take. -/
  failed : Nat := 0
  deriving Repr, DecidableEq

namespace Delivery

/-- Adds a request and what came of it. -/
def record (delivery : Delivery) (request : Http.Request) :
    Except Http.TransportFault Http.Response → Delivery
  | .error _ => { delivery with failed := delivery.failed + 1 }
  | .ok response =>
    let delivery := { delivery with received := delivery.received ++ [request] }
    if response.status = 201 then { delivery with delivered := delivery.delivered + 1 }
    else { delivery with failed := delivery.failed + 1 }

end Delivery

/-- Sends events in turn. -/
def deliverAll [Monad m] (send : Http.Transport m) (endpoint service : String) :
    Delivery → List Event → m Delivery
  | delivery, [] => return delivery
  | delivery, event :: rest => do
    let request := entryRequest service event
    let reply ← send (Text.withoutTrailing '/' endpoint) request
    deliverAll send endpoint service (delivery.record request reply) rest

/-- Sends the events of a queue. -/
def deliver [Monad m] (send : Http.Transport m) (endpoint service : String) (queue : Queue) :
    m Delivery :=
  deliverAll send endpoint service {} queue.events

end FieldAccess.Audit
