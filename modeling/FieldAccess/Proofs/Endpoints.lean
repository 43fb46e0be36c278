import FieldAccess.Http.Router
import FieldAccess.Proofs.Accesses

/-!
# Requests as calls

The four policy endpoints are handled alike: the body of a request is read, the call that it
describes is made, and its answer is written. A body that cannot be read is refused, and all other
requests neither change nor report anything.

## Main definitions

* `Service.Reply.json` – a reply as it is written.
* `Http.Endpoint.read?` – the call that a body describes.
* `Http.Endpoint.answer` – what comes of it.
* `Http.Request.Asks` – a request that reaches a policy endpoint.

## Main statements

* `Http.Request.Asks.handle_eq` – what comes of a request that reaches a policy endpoint.
* `Http.Request.asks_or_idle` – all other requests are answered and have no other effect.
-/

namespace FieldAccess

/-- A reply as it is written. -/
def Service.Reply.json : Service.Reply → Json
  | .registered schema => RegisteredSchema.codec.write schema
  | .replaced rows => storedRecordsCodec.write rows
  | .granted fields => grantedRecordsCodec.write fields
  | .decided decision => Decision.codec.write decision

namespace Http

/-- The call that the body of a request to an endpoint describes. -/
def Endpoint.read? (endpoint : Endpoint) (request : Request) :
    Option (Except BodyFault Service.Request) :=
  match endpoint with
  | .replace => some ((request.read ReplaceMetadata.codec).map .replace)
  | .grant => some ((request.read GrantAccess.codec).map .grant)
  | .decide => some ((request.read DecideAccess.codec).map .decide)
  | .register => some ((request.read RegisterSchema.codec).map .register)
  | .health => none

/-- The status of a call that succeeds. -/
def Endpoint.status : Endpoint → Nat
  | .replace | .register => 201
  | .grant | .decide | .health => 200

/-- A request that reaches a policy endpoint, and what is read there. -/
structure Request.Asks (request : Request) (endpoint : Endpoint)
    (reading : Except BodyFault Service.Request) : Prop where
  method : request.method = "POST"
  route : Http.route request.path = some endpoint
  read : endpoint.read? request = some reading

/-- What comes of a request to a policy endpoint: the call that its body describes is answered, or
the body is refused. -/
def Endpoint.answer (endpoint : Endpoint) (context : Service.Context) (store : Store) :
    Except BodyFault Service.Request → Answer
  | .ok body =>
    ofCall context.trace endpoint.status Service.Reply.json
      (Service.Call.answer store ⟨context, body⟩)
  | .error fault =>
    if endpoint = .decide then undecided context store fault
    else { response := refusal fault, store }

theorem ofCall_map {α : Type} {trace : String} {status : Nat} {write : α → Json}
    (reply : α → Service.Reply) (hwrite : ∀ value, (reply value).json = write value)
    (answer : Service.Answer α) :
    ofCall trace status Service.Reply.json (answer.map reply) =
      ofCall trace status write answer := by
  obtain ⟨result, store, events, measurements⟩ := answer
  cases result with
  | error error => rfl
  | ok value => simp only [ofCall, ofResult, Service.Answer.map, Except.map, hwrite]

/-- **Handlers.** Every policy endpoint makes the call that a body describes and writes its answer,
or refuses the body. -/
theorem call_eq {endpoint : Endpoint} {request : Request}
    {reading : Except BodyFault Service.Request} (hread : endpoint.read? request = some reading)
    (context : Service.Context) (store : Store) (uptimeSeconds : Nat) :
    call context store request uptimeSeconds endpoint = endpoint.answer context store reading := by
  cases endpoint with
  | replace =>
    obtain rfl := Option.some.inj hread
    rw [call]
    cases request.read ReplaceMetadata.codec with
    | error fault => rfl
    | ok body => exact (ofCall_map .replaced (fun _ => rfl) _).symm
  | grant =>
    obtain rfl := Option.some.inj hread
    rw [call]
    cases request.read GrantAccess.codec with
    | error fault => rfl
    | ok body => exact (ofCall_map .granted (fun _ => rfl) _).symm
  | decide =>
    obtain rfl := Option.some.inj hread
    rw [call]
    cases request.read DecideAccess.codec with
    | error fault => rfl
    | ok body => exact (ofCall_map .decided (fun _ => rfl) _).symm
  | register =>
    obtain rfl := Option.some.inj hread
    rw [call]
    cases request.read RegisterSchema.codec with
    | error fault => rfl
    | ok body => exact (ofCall_map .registered (fun _ => rfl) _).symm
  | health => cases hread

namespace Request

variable {request : Request} {endpoint : Endpoint} {reading : Except BodyFault Service.Request}

theorem Asks.handle_eq (h : request.Asks endpoint reading) (context : Context) (store : Store) :
    handle context store request =
      endpoint.answer (callContext context request) store reading := by
  have hallowed : (allowedMethods endpoint).contains request.method = true := by
    rw [h.method]
    cases endpoint with
    | health => cases h.read
    | _ => rfl
  have hhead : request.method ≠ "HEAD" := by
    rw [h.method]
    decide
  simp only [handle, h.route, if_pos hallowed, if_neg hhead]
  exact call_eq h.read _ store _

/-- A request that does not reach a policy endpoint is answered without a look at the store, and
nothing is reported of it. -/
theorem asks_or_idle (request : Request) :
    (∃ endpoint reading, request.Asks endpoint reading) ∨
      ∀ uptimeSeconds, ∃ response, ∀ (context : Context) (store : Store),
        context.uptimeSeconds = uptimeSeconds →
          handle context store request = { response, store } := by
  cases hroute : Http.route request.path with
  | none =>
    refine .inr fun _ => ⟨.empty 404, fun context store _ => ?_⟩
    simp only [handle, hroute]
  | some endpoint =>
    by_cases hallowed : (allowedMethods endpoint).contains request.method = true
    · cases hread : endpoint.read? request with
      | some reading =>
        refine .inl ⟨endpoint, reading, ?_, hroute, hread⟩
        cases endpoint with
        | health => cases hread
        | _ => simpa [allowedMethods] using hallowed
      | none =>
        -- Only the health check describes no call; it tells nothing but the uptime.
        obtain rfl : endpoint = .health := by
          cases endpoint with
          | health => rfl
          | _ => cases hread
        refine .inr fun uptimeSeconds => ?_
        let response : Response := .json 200 (Health.codec.write ⟨"ok", uptimeSeconds⟩)
        by_cases hhead : request.method = "HEAD"
        · refine ⟨{ response with body := "" }, fun context store huptime => ?_⟩
          simp only [handle, hroute, if_pos hallowed, call, huptime, if_pos hhead, response]
        · refine ⟨response, fun context store huptime => ?_⟩
          simp only [handle, hroute, if_pos hallowed, call, huptime, if_neg hhead, response]
    · refine .inr fun _ => ⟨notAllowed endpoint, fun context store _ => ?_⟩
      simp only [handle, hroute, if_neg hallowed]

end Request

end Http

end FieldAccess
