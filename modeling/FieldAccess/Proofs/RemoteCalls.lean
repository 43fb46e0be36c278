import FieldAccess.Proofs.ClientRequests
import FieldAccess.Proofs.Identifiers

/-!
# Calls over HTTP

A client that calls the service over HTTP gets the answers that the service gives when it is called
directly, and leaves the same store behind. The answers of both travel as JSON texts, and errors as
statuses with a code and a message, from which the kind of the error and its wording are found
again. The details of internal errors are not sent.

## Main definitions

* `Http.refused` – how a client learns of an error.
* `Http.Reports` – results of a client that report the results of the service.

## Main statements

* `Http.result_ofCall` – a client reads from a response what a call came to.
* `Http.Client.call_routed` – a call over the router and the call that it makes.
* `Http.remote_calls_refine_service` – calls over the router and direct calls.
-/

namespace FieldAccess

open Format

namespace Service.Call

/-- The trace of a call decides neither on its result nor on the store after it. -/
theorem answer_retraced {context context' : Context} (hnow : context.now = context'.now)
    (hfresh : context.fresh = context'.fresh) (hfault : context.storeFault = context'.storeFault)
    (request : Request) (store : Store) :
    (answer store ⟨context, request⟩).result = (answer store ⟨context', request⟩).result ∧
      (answer store ⟨context, request⟩).store = (answer store ⟨context', request⟩).store := by
  obtain ⟨trace, now, fresh, fault⟩ := context
  obtain ⟨trace', now', fresh', fault'⟩ := context'
  obtain rfl : now = now' := hnow
  obtain rfl : fresh = fresh' := hfresh
  obtain rfl : fault = fault' := hfault
  have houtcome : outcome store ⟨⟨trace, now, fresh, fault⟩, request⟩ =
      outcome store ⟨⟨trace', now, fresh, fault⟩, request⟩ := by
    -- Neither the check of the arguments nor any of the accesses looks at the trace.
    simp only [outcome]
    refine bind_congr fun access => ?_
    cases access <;> rfl
  simp only [answer_eq_outcome, houtcome, and_self]

end Service.Call

namespace Http

/-- How a client learns of an error. -/
def refused (error : PolicyError) : ClientFault :=
  .refused (errorAnswer error).1 (errorAnswer error).2

/-- The body of the response to an error tells its code and its message. -/
theorem refusal_errorResponse (error : PolicyError) :
    Client.refusal (errorResponse error) = (errorAnswer error).2 := by
  have hbody : (errorResponse error).body = (ErrorBody.codec.write (errorAnswer error).2).compact :=
    rfl
  have hread := (ErrorBody.lawful_codec.readsBack (errorAnswer error).2).decode_compact
  rw [← hbody] at hread
  simp only [Client.refusal, hread]

theorem status_errorResponse (error : PolicyError) :
    (errorResponse error).status = (errorAnswer error).1 := rfl

theorem isSuccess_errorAnswer (error : PolicyError) :
    isSuccess (errorAnswer error).1 = false := by
  cases error <;> rfl

/-- **Responses.** A client reads from the response to a call what the call came to. -/
theorem result_ofCall {α : Type} {codec : Codec α} (hcodec : codec.Lawful) {status : Nat}
    (hstatus : isSuccess status = true) (trace : String) (answer : Service.Answer α) :
    Client.result codec (ofCall trace status codec.write answer).response =
      answer.result.mapError refused := by
  cases hresult : answer.result with
  | ok value =>
    have hresponse : (ofCall trace status codec.write answer).response =
        success trace status (codec.write value) := by simp only [ofCall, ofResult, hresult]
    have hread : Json.decode codec (success trace status (codec.write value)).body = .ok value :=
      (hcodec.readsBack value).decode_compact
    have hsuccess : isSuccess (success trace status (codec.write value)).status = true := hstatus
    rw [hresponse, Client.result, if_pos hsuccess, hread]
    rfl
  | error error =>
    have hresponse : (ofCall trace status codec.write answer).response = errorResponse error := by
      simp only [ofCall, ofResult, hresult]
    have hfailure : isSuccess (errorAnswer error).1 ≠ true := by
      rw [isSuccess_errorAnswer]
      decide
    rw [hresponse, Client.result, status_errorResponse, if_neg hfailure, refusal_errorResponse]
    rfl

namespace Client

/-- What an exchange over the router comes to when the request makes a call. -/
theorem exchange_routed {α : Type} {codec : Codec α} (hcodec : codec.Lawful) {status : Nat}
    (hstatus : isSuccess status = true) (reply : α → Service.Reply)
    (hwrite : ∀ value, (reply value).json = codec.write value) {context : Context} {store : Store}
    {request : Request} {trace : String} {answer : Service.Answer α}
    (hhandle : handle context store request =
      ofCall trace status Service.Reply.json (answer.map reply)) (client : Client) :
    (return (← client.exchange (routed context) request codec).map reply : StateM Store _) store =
      ((answer.map reply).result.mapError refused, (answer.map reply).store) := by
  have hexchange : (return (← client.exchange (routed context) request codec).map reply :
      StateM Store (Except ClientFault Service.Reply)) store =
        ((result codec (handle context store request).response).map reply,
          (handle context store request).store) := rfl
  have hmap : (answer.result.mapError refused).map reply =
      (answer.map reply).result.mapError refused := by
    rw [Service.Answer.map]
    cases answer.result <;> rfl
  rw [hexchange, hhandle, ofCall_map reply hwrite, result_ofCall hcodec hstatus, hmap]
  rfl

/-- A call over the router gives the client the result of the call that it makes, and leaves the
store of this call behind. -/
theorem call_routed (client : Client) (context : Context) (store : Store)
    {request : Service.Request} (howners : request.NamesOwnersOnce)
    (hsize : (bodyOf request).compact.utf8ByteSize ≤ maxBodySize) :
    let answer := Service.Call.answer store
      ⟨callContext context (client.request request), request⟩
    client.call (routed context) request store =
      (answer.result.mapError refused, answer.store) := by
  have hhandle := (client.asks_request howners hsize).handle_eq context store
  rw [Endpoint.answer] at hhandle
  cases request with
  | register request =>
    exact exchange_routed RegisteredSchema.lawful_codec (by decide : isSuccess 201 = true)
      .registered (fun _ => rfl) hhandle client
  | replace request =>
    exact exchange_routed lawful_storedRecordsCodec (by decide : isSuccess 201 = true)
      .replaced (fun _ => rfl) hhandle client
  | grant request =>
    exact exchange_routed lawful_grantedRecordsCodec (by decide : isSuccess 200 = true)
      .granted (fun _ => rfl) hhandle client
  | decide request =>
    exact exchange_routed Decision.lawful_codec (by decide : isSuccess 200 = true)
      .decided (fun _ => rfl) hhandle client

end Client

/-- Results of a client that report the results of the service: the values are the same, and each
kind of error is told from its status and code, with the wording of its cause. Internal errors are
told without it. -/
structure Reports {α : Type} (remote : Except ClientFault α) (direct : Except PolicyError α) :
    Prop where
  ok : ∀ value, remote = .ok value ↔ direct = .ok value
  invalidArgument : ∀ message, remote = .error (.refused 400 ⟨"invalid_argument", message⟩) ↔
    ∃ fault, direct = .error (.invalidArgument fault) ∧ fault.message = message
  notFound : ∀ message, remote = .error (.refused 500 ⟨"not_found", message⟩) ↔
    ∃ absence, direct = .error (.notFound absence) ∧ absence.message = message
  internal : remote = .error (.refused 500 ⟨"internal_error", "internal server error"⟩) ↔
    ∃ message, direct = .error (.internal message)

/-- What a client learns of a result reports it. -/
theorem reports_mapError {α : Type} (direct : Except PolicyError α) :
    Reports (direct.mapError refused) direct := by
  cases direct with
  | ok value => constructor <;> simp [Except.mapError]
  | error error =>
    cases error <;> constructor <;> simp [Except.mapError, refused, errorAnswer]

/-- **Calls over HTTP.** A call of a client over the router and the same call made directly, at the
same time on the same store, and with the same error if the store fails. The client's result reports
the result of the service, and both leave the same store behind. Rows and stores differ in
identifiers, and in these only if different ones are drawn for new rows. -/
theorem remote_calls_refine_service (client : Client) (context : Context) (store : Store)
    (direct : Service.Context) (request : Service.Request)
    (howners : request.NamesOwnersOnce)
    (hsize : (bodyOf request).compact.utf8ByteSize ≤ maxBodySize)
    (hnow : context.now = direct.now) (hfault : context.storeFault = direct.storeFault) :
    let remote := client.call (routed context) request store
    let answer := Service.Call.answer store ⟨direct, request⟩
    Reports (remote.1.map Service.Reply.anonymous) (answer.result.map Service.Reply.anonymous) ∧
      remote.2.anonymous = answer.store.anonymous ∧
      (context.fresh = direct.fresh →
        Reports remote.1 answer.result ∧ remote.2 = answer.store) := by
  intro remote answer
  let made := callContext context (client.request request)
  have hremote : remote = ((Service.Call.answer store ⟨made, request⟩).result.mapError refused,
      (Service.Call.answer store ⟨made, request⟩).store) :=
    client.call_routed context store howners hsize
  -- The call that is made and the direct one differ in their traces and in what they draw.
  have halike : Service.Call.Alike ⟨made, request⟩ ⟨direct, request⟩ := ⟨rfl, hnow, hfault⟩
  obtain ⟨hresult, hstore⟩ := halike.answer_anonymous (rfl : store.anonymous = store.anonymous)
  refine ⟨?_, ?_, ?_⟩
  · have hanonymous : remote.1.map Service.Reply.anonymous =
        (answer.result.map Service.Reply.anonymous).mapError refused := by
      rw [← hresult, hremote]
      cases (Service.Call.answer store ⟨made, request⟩).result <;> rfl
    rw [hanonymous]
    exact reports_mapError _
  · rw [← hstore, hremote]
  · intro hfresh
    obtain ⟨hsame, hsame'⟩ :=
      @Service.Call.answer_retraced made direct hnow hfresh hfault request store
    rw [← hsame, ← hsame', hremote]
    exact ⟨reports_mapError _, rfl⟩

/-- A registration that names an owner, and a grant of an absent field, made by a client after a
run. -/
theorem remote_calls_refine_service_readdition :
    let client := Client.ofUrl "http://localhost:8080/" (some "trace")
    let store := (Service.run Service.readdition).store
    let direct := Service.onDay 4
    let context : Context := { now := direct.now, fresh := direct.fresh, trace := "" }
    let register : Service.Request := .register
      { schemaId := "people", providerId := "registry", fieldOwners := [("p.a", "citizen")],
        sdl := "type P \x7b\n a: T @isOwner(value: true)\n\x7d" }
    let absent : Service.Request :=
      .grant ⟨"portal", "30d", [⟨"people", "photo"⟩, ⟨"people", "age"⟩]⟩
    let registered := Service.Call.answer store ⟨direct, register⟩
    registered.result.isOk = true ∧
      Reports (client.call (routed context) register store).1 registered.result ∧
      (client.call (routed context) register store).2 = registered.store ∧
      (client.call (routed context) absent store).1 = .error (.refused 500
        ⟨"not_found", "policy metadata not found for schema_id people and field_name age"⟩) := by
  intro client store direct context register absent registered
  obtain ⟨-, -, hregister⟩ := remote_calls_refine_service client context store direct register
    (by simp [register, Service.Request.NamesOwnersOnce]) (by decide +kernel) rfl rfl
  obtain ⟨-, -, habsent⟩ := remote_calls_refine_service client context store direct absent trivial
    (by decide +kernel) rfl rfl
  have hresult : (Service.Call.answer store ⟨direct, absent⟩).result =
      .error (.notFound (.field ⟨"people", "age"⟩)) := by
    decide +kernel
  obtain ⟨hreports, hstore⟩ := hregister rfl
  exact ⟨by decide +kernel, hreports, hstore,
    ((habsent rfl).1.notFound _).2 ⟨_, hresult, by decide⟩⟩

end Http

end FieldAccess
