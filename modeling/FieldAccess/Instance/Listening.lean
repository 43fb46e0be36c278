import FieldAccess.Audit.Delivery
import FieldAccess.Http.Router
import FieldAccess.Instance.Outgoing
import Std.Async.Signal
import Std.Http.Server

/-!
# A running instance

An instance answers requests until it is told to stop. Its store is kept in memory, and its events
are sent to the audit service while it runs.

## Main definitions

* `Instance.State` – what an instance remembers.
* `Instance.respond` – the answer to a request.
* `Instance.serve` – running an instance.
-/

namespace FieldAccess.Instance

open Std.Async

/-- Where the events of an instance wait. -/
structure Outbox where
  endpoint : String
  service : String
  queue : IO.Ref Audit.Queue

/-- What an instance remembers. -/
structure State where
  store : IO.Ref Store
  outbox : Option Outbox
  /-- The time at which the instance was started, in milliseconds. -/
  startedMs : Nat

/-- The current time. -/
def now : IO Instant := do
  let time ← Std.Time.Timestamp.now
  let nanos := time.toNanosecondsSinceUnixEpoch.toInt.toNat
  return (Instant.sinceEpoch? (nanos / nanosOfSecond) (nanos % nanosOfSecond)).getD default

/-- A random number of 128 bits. -/
def drawBits : IO Nat := do
  let bytes ← IO.getRandomBytes 16
  return bytes.toList.foldl (fun n byte => n * 256 + byte.toNat) 0

/-- The circumstances of a request that comes in now. -/
def State.context (state : State) : IO Http.Context := do
  let first ← drawBits
  let runningMs := (← IO.monoMsNow) - state.startedMs
  return {
    now := ← now
    fresh := fun n => Uuid.ofRandom (first + n)
    trace := (Uuid.ofRandom (← drawBits)).toText
    uptimeSeconds := runningMs / 1000 }

/-- Answers a request, and puts its events into the outbox. -/
def State.answer (state : State) (request : Http.Request) : IO Http.Response := do
  let context ← state.context
  let answer ← state.store.modifyGet fun store =>
    let answer := Http.handle context store request
    (answer, answer.store)
  if let some outbox := state.outbox then
    outbox.queue.modify fun queue => (queue.emitAll answer.events).1
  return answer.response

/-- The request that a connection brings. A body that is no text cannot be a JSON document. -/
def requestOf (head : Std.Http.Request.Head) (body : ByteArray) : Http.Request where
  method := toString head.method
  target := toString head.uri
  headers := head.headers.toList.map fun (name, value) => (name.value, value.value)
  body := (String.fromUTF8? body).getD "\ufffd"

/-- The head of a response. -/
def builder (response : Http.Response) : Std.Http.Response.Builder :=
  let status := (Std.Http.Status.ofCode none response.status.toUInt16).getD .internalServerError
  response.headers.foldl (fun builder (name, value) =>
    match Std.Http.Header.Name.ofString? name, Std.Http.Header.Value.ofString? value with
    | some name, some value => builder.header name value
    | _, _ => builder) (Std.Http.Response.withStatus status)

/-- The answer to a request. -/
def respond (state : State) (request : Std.Http.Request Std.Http.Body.Stream) :
    ContextAsync (Std.Http.Response Std.Http.Body.Full) := do
  let body : ByteArray ← request.body.readAll
  let response ← state.answer (requestOf request.line body)
  (builder response).fromBytes response.body.toUTF8

instance : Std.Http.Server.Handler State where
  ResponseBody := Std.Http.Body.Full
  onRequest := respond

/-- Takes the first event out of the outbox and sends it. -/
def Outbox.deliverFirst (outbox : Outbox) : IO Bool := do
  let first ← outbox.queue.modifyGet fun queue =>
    (queue.events.head?, { queue with events := queue.events.drop 1 })
  match first with
  | none => return false
  | some event =>
    let _ ← Audit.deliverAll send outbox.endpoint outbox.service {} [event]
    return true

/-- Sends the events of the outbox until it is empty when the instance stops. -/
partial def Outbox.deliver (outbox : Outbox) (stopped : IO.Ref Bool) : IO Unit := do
  if ← outbox.deliverFirst then outbox.deliver stopped
  else if ← stopped.get then return
  else
    IO.sleep 20
    outbox.deliver stopped

/-- The outbox of an instance under some settings. -/
def Outbox.ofSettings (settings : Option AuditSettings) : IO (Option Outbox) := do
  match Audit.Sink.open? settings with
  | some (.queue endpoint service queue) =>
    return some { endpoint, service, queue := ← IO.mkRef queue }
  | _ => return none

/-- Waits for a signal to stop. -/
def waitForStop : Async Unit := do
  let terminate ← Signal.Waiter.mk .sigterm false
  let interrupt ← Signal.Waiter.mk .sigint false
  Selectable.one #[
    .case terminate.selector fun _ => return (),
    .case interrupt.selector fun _ => return ()]

/-- Runs an instance until it is told to stop, and then waits for the requests and events that are
under way. -/
def serve (manifest : Manifest) : IO Unit := do
  let settings := manifest.spec.server
  let outbox ← Outbox.ofSettings manifest.spec.audit
  let state : State := {
    store := ← IO.mkRef {}
    outbox
    startedMs := ← IO.monoMsNow }
  let stopped ← IO.mkRef false
  let delivery ← IO.asTask (outbox.forM fun outbox => outbox.deliver stopped)
  let run : Async Unit := do
    match ← addresses settings.host settings.port with
    | [] => throw (IO.userError "no address")
    | address :: _ =>
      let server ← Std.Http.Server.serve address state { serverName := none }
      waitForStop
      server.shutdownAndWait
  try
    run.block
  finally
    stopped.set true
    let _ ← IO.wait delivery

end FieldAccess.Instance
