import FieldAccess.Proofs.ManifestChecks
import FieldAccess.Proofs.Runs

/-!
# Delivery of events

What becomes of events that are emitted before the delivery begins. As many as the queue can hold
are sent, each once and in the order of their emission; the others are counted as dropped. What the
audit service answers decides how an event is counted, but not what is sent next.

## Main definitions

* `Audit.Arrival` – a request as it arrives at a server.
* `Audit.Delivers` – a transport that brings requests to a server and its responses back.

## Main statements

* `Audit.Queue.emitAll_eq` – what a queue holds after some events.
* `Audit.deliverAll_eq` – what a server receives of some events, and what is reported of them.
* `Audit.emitted_events_delivered_or_counted` – every emitted event is accounted for.
-/

namespace FieldAccess

/-- Whether a response sends the client to another place. -/
def Http.Response.redirects (response : Response) : Bool :=
  [301, 302, 303, 307, 308].contains response.status && (response.header? "location").isSome

namespace Audit

/-- A request and the address of the server at which it arrives. -/
abbrev Arrival := String × Http.Request

/-- A transport that brings every request to the server, once and behind the earlier ones, and its
response back. The server answers request number `n` by `replies n`. What is done about a response
that sends the client elsewhere is not said. -/
def Delivers (send : Http.Transport (StateM (List Arrival))) (replies : Nat → Http.Response) :
    Prop :=
  ∀ (base : String) (request : Http.Request) (arrivals : List Arrival),
    (replies arrivals.length).redirects = false →
      send base request arrivals =
        (.ok (replies arrivals.length), arrivals ++ [(base, request)])

/-- The responses to `count` requests behind the first `start` ones. -/
def repliesFrom (replies : Nat → Http.Response) (start count : Nat) : List Http.Response :=
  (List.range' start count).map replies

theorem repliesFrom_succ (replies : Nat → Http.Response) (start count : Nat) :
    repliesFrom replies start (count + 1) =
      replies start :: repliesFrom replies (start + 1) count := by
  rw [repliesFrom, List.range'_succ, List.map_cons, ← repliesFrom]

namespace Queue

variable {queue : Queue}

theorem emit_of_lt (h : queue.events.length < queue.capacity) (event : Event) :
    queue.emit event = ({ queue with events := queue.events ++ [event] }, []) := by
  rw [emit, if_pos h]

theorem emit_of_le (h : queue.capacity ≤ queue.events.length) (event : Event) :
    queue.emit event = (queue, [.droppedEvent "queue_full"]) := by
  rw [emit, if_neg (Nat.not_lt.2 h)]

/-- **Emission.** A queue takes the first events, as many as there is room for, in their order, and
each of the others is counted as dropped. -/
theorem emitAll_eq (queue : Queue) (events : List Event) :
    let room := queue.capacity - queue.events.length
    queue.emitAll events = ({ queue with events := queue.events ++ events.take room },
      List.replicate (events.length - room) (.droppedEvent "queue_full")) := by
  induction events generalizing queue with
  | nil => simp [emitAll]
  | cons event rest ih =>
    rw [emitAll]
    by_cases hroom : queue.events.length < queue.capacity
    · have hleft : queue.capacity - queue.events.length =
          queue.capacity - (queue.events.length + 1) + 1 := by omega
      simp only [emit_of_lt hroom, ih, hleft, List.length_append, List.length_cons,
        List.length_nil, Nat.zero_add, List.take_succ_cons, List.append_assoc,
        List.singleton_append, List.nil_append, Nat.add_sub_add_right]
    · have hnone : queue.capacity - queue.events.length = 0 := by omega
      simp only [emit_of_le (Nat.not_lt.1 hroom), ih, hnone, List.take_zero, List.append_nil,
        Nat.sub_zero, List.length_cons, List.replicate_succ, List.singleton_append]

end Queue

section Sending

variable {send : Http.Transport (StateM (List Arrival))} {replies : Nat → Http.Response}
  (endpoint service : String)

/-- **One event.** It is sent once, and whatever the response says delivery goes on behind it. -/
theorem deliverAll_cons (hsend : Delivers send replies) {arrivals : List Arrival}
    (hreply : (replies arrivals.length).redirects = false) (delivery : Delivery) (event : Event)
    (rest : List Event) :
    deliverAll send endpoint service delivery (event :: rest) arrivals =
      deliverAll send endpoint service
        (delivery.record (entryRequest service event) (.ok (replies arrivals.length))) rest
        (arrivals ++ [(Text.withoutTrailing '/' endpoint, entryRequest service event)]) := by
  let sent := send (Text.withoutTrailing '/' endpoint) (entryRequest service event) arrivals
  have hstep : deliverAll send endpoint service delivery (event :: rest) arrivals =
      deliverAll send endpoint service
        (delivery.record (entryRequest service event) sent.1) rest sent.2 := rfl
  have hsent : sent = (.ok (replies arrivals.length),
      arrivals ++ [(Text.withoutTrailing '/' endpoint, entryRequest service event)]) :=
    hsend _ _ _ hreply
  rw [hstep, hsent]

/-- **Delivery.** A server receives a request for each of the events, in their order. Reported are
the numbers of responses that tell of an entry that was made, and of all others. -/
theorem deliverAll_eq (hsend : Delivers send replies)
    (hreplies : ∀ n, (replies n).redirects = false) (delivery : Delivery) (events : List Event)
    (arrivals : List Arrival) :
    let requests := events.map (entryRequest service)
    let responses := repliesFrom replies arrivals.length events.length
    deliverAll send endpoint service delivery events arrivals =
      ({ received := delivery.received ++ requests
         delivered := delivery.delivered + responses.countP (·.status = 201)
         failed := delivery.failed + responses.countP (·.status ≠ 201) },
        arrivals ++ requests.map (Text.withoutTrailing '/' endpoint, ·)) := by
  induction events generalizing delivery arrivals with
  | nil =>
    simp only [List.map_nil, List.length_nil, List.append_nil]
    rfl
  | cons event rest ih =>
    rw [deliverAll_cons endpoint service hsend (hreplies _), ih]
    simp only [List.length_append, List.length_cons, List.length_nil, Nat.zero_add,
      repliesFrom_succ, List.map_cons, List.append_assoc, List.singleton_append]
    by_cases haccepted : (replies arrivals.length).status = 201
    · simp [Delivery.record, haccepted, Nat.add_assoc, Nat.add_comm 1]
    · simp [Delivery.record, haccepted, Nat.add_assoc, Nat.add_comm 1]

end Sending

/-- **Emitted events.** A queue of any possible length is opened, events are emitted, and then they
are delivered to a server that does not send the client elsewhere. Whatever its responses are, it
receives one request for each of the first events, as many as the queue holds, in the order of
emission and with the entry of the event; the others are counted as dropped. Reported as delivered
are those to which it responded that an entry was made, and as failed all others it received. -/
theorem emitted_events_delivered_or_counted {send : Http.Transport (StateM (List Arrival))}
    {replies : Nat → Http.Response} (hsend : Delivers send replies)
    (hreplies : ∀ n, (replies n).redirects = false) {settings : AuditSettings} {endpoint : String}
    (hendpoint : settings.endpoint = some endpoint) (hpos : settings.queueCapacity ≠ 0)
    (hmax : settings.queueCapacity.toNat ≤ Queue.maxCapacity) (events : List Event) :
    let service := settings.serviceName
    let count := min events.length settings.queueCapacity.toNat
    ∃ queue, Sink.open? (some settings) = some (.queue endpoint service queue) ∧
      let (filled, dropped) := queue.emitAll events
      let (report, arrivals) := deliver send endpoint service filled []
      arrivals = (events.take count).map (fun event => (Text.withoutTrailing '/' endpoint,
          { method := "POST"
            target := "/api/audit-logs"
            headers := [("content-type", "application/json")]
            body := (event.auditEntry service).compact })) ∧
        dropped = List.replicate (events.length - count) (.droppedEvent "queue_full") ∧
        report.delivered = (repliesFrom replies 0 count).countP (·.status = 201) ∧
        report.failed = (repliesFrom replies 0 count).countP (·.status ≠ 201) ∧
        report.delivered + report.failed + dropped.length = events.length := by
  intro service count
  have hpossible : settings.queueCapacity.toNat < 2 ^ 61 := by
    have hlongest : Queue.maxCapacity + 1 = 2 ^ 61 := by decide
    omega
  have hopen := Sink.open?_eq hendpoint hpos
  rw [if_pos hpossible] at hopen
  refine ⟨_, hopen, ?_⟩
  -- The queue is empty at first, so that all of its length is room for the events.
  have hemitted := Queue.emitAll_eq { capacity := settings.queueCapacity.toNat } events
  have htaken : events.take settings.queueCapacity.toNat = events.take count := by
    rw [List.take_eq_take_iff]
    omega
  have hdropped : events.length - settings.queueCapacity.toNat = events.length - count := by
    omega
  simp only [List.length_nil, Nat.sub_zero, List.nil_append, htaken, hdropped] at hemitted
  have hdelivered := deliverAll_eq endpoint service hsend hreplies {} (events.take count) []
  have hcount : (events.take count).length = count :=
    List.length_take_of_le (Nat.min_le_left _ _)
  simp only [List.length_nil, List.nil_append, Nat.zero_add, hcount] at hdelivered
  rw [hemitted]
  dsimp only [deliver]
  rw [hdelivered]
  refine ⟨by rw [List.map_map]; rfl, rfl, rfl, rfl, ?_⟩
  have hresponses : (repliesFrom replies 0 count).length = count := by simp [repliesFrom]
  have hall := List.length_eq_countP_add_countP (fun response : Http.Response =>
    decide (response.status = 201)) (l := repliesFrom replies 0 count)
  simp only [decide_eq_true_eq] at hall
  simp only [List.length_replicate, ne_eq]
  omega

/-- A transport that brings every response back as it is. -/
def straight (replies : Nat → Http.Response) : Http.Transport (StateM (List Arrival)) :=
  fun base request arrivals =>
    (.ok (replies arrivals.length), arrivals ++ [(base, request)])

/-- A decision, a grant and a replacement for a queue with room for two, and a server that fails at
the first request. The objects inside of an entry have their keys in increasing order. -/
theorem emitted_events_delivered_or_counted_pair :
    let settings : AuditSettings := { endpoint := some "http://audit/", queueCapacity := 2 }
    let service := settings.serviceName
    let replies : Nat → Http.Response := fun n => { status := if n = 0 then 500 else 201 }
    let decided : Event :=
      ⟨"a", (Service.onDay 4).now, .decided "app" [⟨"people", "nic"⟩] ⟨true, false, true, 0, 0, 1⟩⟩
    let granted : Event :=
      ⟨"b", (Service.onDay 4).now,
        .granted "app" .month [⟨"people", "nic"⟩, ⟨"people", "age"⟩] (Service.onDay 30).now⟩
    let replaced : Event := ⟨"c", (Service.onDay 5).now, .replaced "people" 2⟩
    Delivers (straight replies) replies ∧ (∀ n, (replies n).redirects = false) ∧
      (∃ queue, Sink.open? (some settings) = some (.queue "http://audit/" service queue) ∧
        let (filled, dropped) := queue.emitAll [decided, granted, replaced]
        let (report, arrivals) := deliver (straight replies) "http://audit/" service filled []
        arrivals = [("http://audit", entryRequest service decided),
            ("http://audit", entryRequest service granted)] ∧
          dropped = [.droppedEvent "queue_full"] ∧ report.delivered = 1 ∧ report.failed = 1) ∧
      decided.auditEntry service = .table
        [("traceId", .text "a"), ("timestamp", .text "1970-01-05T00:00:00.000Z"),
          ("eventName", .text "POLICY_CHECK"), ("eventType", .text "READ"),
          ("status", .text "SUCCESS"), ("actorType", .text "SERVICE"),
          ("actorServiceName", .text "policy-decision-point"), ("targetType", .text "SERVICE"),
          ("targetServiceName", .text "policy-decision-point"),
          ("requestedData", .table [("applicationId", .text "app"),
            ("requiredFields", .list [.table
              [("fieldName", .text "nic"), ("schemaId", .text "people")]])]),
          ("responseMetadata", .table [("appAccessExpired", .flag false),
            ("appAuthorized", .flag true), ("appRequiresOwnerConsent", .flag true),
            ("consentRequiredFieldCount", .integer 1), ("expiredFieldCount", .integer 0),
            ("unauthorizedFieldCount", .integer 0)])] := by
  intro settings service replies decided granted replaced
  have hsend : Delivers (straight replies) replies := fun _ _ _ _ => rfl
  have hendpoint : settings.endpoint = some "http://audit/" := rfl
  have hreplies : ∀ n, (replies n).redirects = false := by
    intro n
    have hheaders : (replies n).header? "location" = none := rfl
    rw [Http.Response.redirects, hheaders, Option.isSome_none, Bool.and_false]
  obtain ⟨queue, hopen, harrivals, hdropped, hdelivered, hfailed, -⟩ :=
    emitted_events_delivered_or_counted hsend hreplies hendpoint (by decide) (by decide)
      [decided, granted, replaced]
  have hbase : Text.withoutTrailing '/' "http://audit/" = "http://audit" := by decide
  rw [hbase] at harrivals
  refine ⟨hsend, hreplies, ⟨queue, hopen, harrivals, hdropped, hdelivered, hfailed⟩, ?_⟩
  simp only [decided, service, settings]
  rfl

end Audit

end FieldAccess
