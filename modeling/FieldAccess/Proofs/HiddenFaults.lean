import FieldAccess.Proofs.ClientRequests

/-!
# Hidden faults of the store

What goes wrong inside of the store is not told to clients. A request is answered in the same way
whichever internal error the store meets it with, down to the headers and the body: a request whose
arguments are in order gets a fixed response, and all others are answered before the store is
accessed.

## Main definitions

* `StoreError.IsInternal` – the errors whose wording is not for clients.
* `Http.internalResponse` – the response to a request that meets with such an error.
* `Http.failedResponse` – the same, or the response to arguments at fault.

## Main statements

* `Service.Call.result_of_storeFault` – what a call comes to when the store fails.
* `Http.internal_faults_hidden` – responses do not depend on internal errors.
-/

namespace FieldAccess

/-- The errors of the inside of the store, whose wording is not for clients. -/
def StoreError.IsInternal : StoreError → Prop
  | notFound _ | validation _ => False
  | database _ | serialization _ | unknown _ => True

theorem StoreError.IsInternal.ofStore_eq {fault : StoreError} (h : fault.IsInternal) :
    PolicyError.ofStore fault = .internal fault.message := by
  cases fault with
  | notFound _ => cases h
  | validation _ => cases h
  | _ => rfl

/-- When the store fails, a call comes to the error of its arguments or to that of the store. -/
theorem Service.Call.result_of_storeFault {call : Call} {fault : StoreError}
    (hfault : call.context.storeFault = some fault) (store : Store) :
    (call.answer store).result =
      call.request.access call.context.now >>= fun _ => .error (.ofStore fault) := by
  rw [(call.answer_eq_outcome store).1, outcome]
  cases call.request.access call.context.now with
  | error error => rfl
  | ok access =>
    change (call.context.access (access.run call.context store)).map _ = _
    rw [Context.access, hfault]
    rfl

namespace Http

/-- The response to a request that meets with an internal error. -/
def internalResponse : Response :=
  .json 500 (ErrorBody.codec.write ⟨"internal_error", "internal server error"⟩)

/-- The response to a request that asks for an access, if its arguments are in order, which meets
with an internal error. -/
def failedResponse : Except PolicyError Service.Access → Response
  | .error error => errorResponse error
  | .ok _ => internalResponse

theorem response_of_internal {call : Service.Call} {fault : StoreError}
    (hfault : call.context.storeFault = some fault) (hinternal : fault.IsInternal)
    (store : Store) (trace : String) (status : Nat) (write : Service.Reply → Json) :
    (ofCall trace status write (call.answer store)).response =
      failedResponse (call.request.access call.context.now) := by
  rw [ofCall, Service.Call.result_of_storeFault hfault, hinternal.ofStore_eq]
  cases call.request.access call.context.now <;> rfl

/-- **Hidden faults.** Requests at the same time, to services that have been running for the same
time and whose stores meet them with internal errors, get the same response, whatever the errors
and the stores are. If the arguments are in order, this is the fixed response. -/
theorem internal_faults_hidden {context context' : Context} {fault fault' : StoreError}
    (hfault : context.storeFault = some fault) (hfault' : context'.storeFault = some fault')
    (hinternal : fault.IsInternal) (hinternal' : fault'.IsInternal)
    (hnow : context.now = context'.now) (huptime : context.uptimeSeconds = context'.uptimeSeconds)
    (store store' : Store) (request : Request) :
    (handle context store request).response = (handle context' store' request).response ∧
      ∀ endpoint body access, request.Asks endpoint (.ok body) →
        body.access context.now = .ok access →
          (handle context store request).response = internalResponse := by
  have hcall (endpoint : Endpoint) (body : Service.Request)
      (hasks : request.Asks endpoint (.ok body)) :
      (handle context store request).response = (handle context' store' request).response := by
    rw [hasks.handle_eq, hasks.handle_eq, Endpoint.answer, Endpoint.answer,
      response_of_internal hfault hinternal, response_of_internal hfault' hinternal']
    change failedResponse (body.access context.now) = failedResponse (body.access context'.now)
    rw [hnow]
  refine ⟨?_, ?_⟩
  · rcases request.asks_or_idle with ⟨endpoint, reading, hasks⟩ | hidle
    · cases reading with
      | ok body => exact hcall endpoint body hasks
      | error refusal =>
        -- A body that is refused is answered before any call is made.
        rw [hasks.handle_eq, hasks.handle_eq, Endpoint.answer, Endpoint.answer]
        split <;> rfl
    · obtain ⟨response, hresponse⟩ := hidle context.uptimeSeconds
      rw [hresponse context store rfl, hresponse context' store' huptime.symm]
  · intro endpoint body access hasks haccess
    rw [hasks.handle_eq, Endpoint.answer, response_of_internal hfault hinternal]
    change failedResponse (body.access context.now) = _
    rw [haccess]
    rfl

/-- A decision asked for by a client, while the database is gone in one way or another. -/
theorem internal_faults_hidden_readdition :
    let store := (Service.run Service.readdition).store
    let direct := Service.onDay 4
    let lost : StoreError := .database "postgres://pdp:secret@db:5432: connection refused"
    let strange : StoreError := .unknown "no such thing"
    let context : Context :=
      { now := direct.now, fresh := direct.fresh, trace := "", storeFault := some lost }
    let context' : Context := { context with storeFault := some strange }
    let request := (Client.ofUrl "http://localhost:8080" (some "trace")).request
      (.decide ⟨"portal", [⟨"people", "photo"⟩]⟩)
    (handle context store request).response = (handle context' store request).response ∧
      (handle context store request).response = internalResponse := by
  intro store direct lost strange context context' request
  obtain ⟨hsame, hfixed⟩ := @internal_faults_hidden context context' lost strange rfl rfl trivial
    trivial rfl rfl store store request
  have hasks : request.Asks .decide (.ok (.decide ⟨"portal", [⟨"people", "photo"⟩]⟩)) :=
    Client.asks_request _ trivial (by decide +kernel)
  exact ⟨hsame, hfixed _ _ _ hasks rfl⟩

end Http

end FieldAccess
