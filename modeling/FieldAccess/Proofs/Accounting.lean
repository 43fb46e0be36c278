import FieldAccess.Proofs.Endpoints
import FieldAccess.Proofs.Independence

/-!
# Accounting for calls

Every call emits one event and is counted. The event belongs to the trace of the call, says
whether the call has succeeded, and agrees with what the caller is answered: with the error, or with
the data of the reply. Counted are the time of every decision, the decisions that fail, and the
fields to which access is granted. Over HTTP nothing is reported but what the calls report, and
decisions whose body is refused.

## Main definitions

* `Service.Request.ReportedBy` – reports that agree with the reply to a request.
* `Service.Request.measured` – what is counted of a call with some result.
* `Service.Call.Reports` – events that are right for an answer to a call.
* `Service.Call.Accounted` – answers to a call with one event, the right one, and the right counts.

## Main statements

* `Service.Call.accounted` – every call is accounted for.
* `Http.Request.Asks.reported` – so is every request over HTTP that makes a call.
* `calls_accounted_for` – both, with what is reported of refused bodies.
-/

namespace FieldAccess

/-- The field to which access was granted. -/
def GrantedField.ref (field : GrantedField) : FieldRef := ⟨field.schemaId, field.fieldName⟩

namespace Service

/-- A report that agrees with the reply to a request. It tells the fields asked for without
repetitions, and of the reply the outcome, the numbers and the end of the access. -/
def Request.ReportedBy : Request → Reply → Report → Prop
  | register request, .registered schema, report =>
    report = .registered request.schemaId request.providerId schema.records.length
      schema.unresolvedOwnerFields
  | replace request, .replaced rows, report => report = .replaced request.schemaId rows.length
  | grant request, .granted fields, report =>
    ∃ period expiresAt, GrantPeriod.ofName? request.grantDuration = some period ∧
      report = .granted request.applicationId period (FieldRef.distinct request.records)
        expiresAt ∧
      ∀ field ∈ fields, field.expiresAt = expiresAt
  | decide request, .decided decision, report =>
    report = .decided request.applicationId (FieldRef.distinct request.requiredFields)
      { appAuthorized := decision.appAuthorized
        appAccessExpired := decision.appAccessExpired
        appRequiresOwnerConsent := decision.appRequiresOwnerConsent
        unauthorizedFields := decision.unauthorizedFields.length
        expiredFields := decision.expiredFields.length
        consentRequiredFields := decision.consentRequiredFields.length }
  | _, _, _ => False

/-- What is counted of a call with some result. -/
def Request.measured : Request → Except PolicyError Reply → List Measurement
  | grant _, .ok (.granted fields) => [.grants fields.length]
  | decide _, .ok _ => [.decisionLatency]
  | decide _, .error error => [.decisionLatency, .decisionFailure error.label]
  | _, _ => []

/-- An event that is right for an answer to a call on a store. -/
structure Call.Reports (store : Store) (call : Call) (answer : Answer Reply) (event : Event) :
    Prop where
  trace : event.trace = call.context.trace
  isSuccess : event.report.isSuccess = true ↔ ∃ reply, answer.result = .ok reply
  failure : ∀ error, answer.result = .error error →
    event.report.failure? = some ⟨error.label, error.message⟩
  reported : ∀ reply, answer.result = .ok reply → call.request.ReportedBy reply event.report
  /-- On a store with every row under its own reference, the fields of a grant are the ones that it
  is answered with. -/
  granted : ∀ fields, answer.result = .ok (.granted fields) → store.Keyed →
    ∃ application period expiresAt, event.report =
      .granted application period (fields.map GrantedField.ref) expiresAt

/-- An answer to a call on a store with one event, which is right for it, and the right counts. -/
structure Call.Accounted (store : Store) (call : Call) (answer : Answer Reply) : Prop where
  events : ∃ event, answer.events = [event] ∧ call.Reports store answer event
  measurements : answer.measurements = call.request.measured answer.result

section Grants

variable {context : Context} {store after : Store} {request : GrantAccess} {refs : List FieldRef}
  {granting : Granting}

/-- What a grant that succeeds consists of. -/
theorem exists_of_grantResult
    (h : grantResult context store request refs = .ok (granting, after)) :
    GrantPeriod.ofName? request.grantDuration = some granting.period ∧
      ∃ rows, store.grant request.applicationId refs granting.grant = .ok (rows, after) ∧
        granting.fields = rows.map (grantedField granting.grant) := by
  obtain ⟨_, -, h⟩ := bind_eq_ok_iff.1 h
  dsimp only at h
  -- A grant of no fields is refused, so that one that succeeds has gone on behind this check.
  split at h
  · obtain ⟨_, h, -⟩ := bind_eq_ok_iff.1 h
    cases h
  obtain ⟨_, -, h⟩ := bind_eq_ok_iff.1 h
  obtain ⟨period, hperiod, h⟩ := bind_eq_ok_iff.1 h
  obtain ⟨entry, -, h⟩ := bind_eq_ok_iff.1 h
  obtain ⟨⟨rows, after'⟩, hrows, h⟩ := bind_eq_ok_iff.1 h
  obtain ⟨rfl, rfl⟩ := Prod.mk.inj (Except.ok.inj h)
  exact ⟨periodOf_eq_ok_iff.1 hperiod, rows, (Context.access_eq_ok_iff.1 hrows).2, rfl⟩

/-- A grant is answered with the fields that it names, in their order. -/
theorem refs_of_grantResult (hkeyed : store.Keyed)
    (h : grantResult context store request refs = .ok (granting, after)) :
    granting.fields.map GrantedField.ref = refs := by
  obtain ⟨-, rows, hrows, hfields⟩ := exists_of_grantResult h
  -- The fields are all there, for a grant of an absent one fails.
  obtain ⟨hmem, hgranted⟩ := Store.grant_eq_ok_iff.1 hrows
  have hall : ∀ ref ∈ refs, store[ref]?.isSome := by
    intro ref href
    exact Std.ExtTreeMap.mem_iff_isSome_getElem?.1 (hmem ref href)
  have hanswered := grantedFields_grantEach hkeyed request.applicationId granting.grant hall
  rw [hgranted] at hanswered
  rw [hfields, hanswered, List.map_map]
  exact List.map_id _

end Grants

namespace Call

section Answers

variable {context : Context} {store : Store} {request : Request} {answer : Answer Reply}
  {report : Report}

/-- The error of a call that fails is reported. -/
theorem reports_of_error {error : PolicyError} (hresult : answer.result = .error error)
    (hfailure : report.failure? = some error.failure) :
    Reports store ⟨context, request⟩ answer (context.event report) where
  trace := rfl
  isSuccess := by
    rw [hresult]
    simp [Context.event, Report.isSuccess, hfailure]
  failure other hother := by
    rw [hresult] at hother
    obtain rfl := Except.error.inj hother
    exact hfailure
  reported reply hreply := by
    rw [hresult] at hreply
    cases hreply
  granted fields hfields := by
    rw [hresult] at hfields
    cases hfields

/-- The reply to a call that succeeds is reported. -/
theorem reports_of_ok {reply : Reply} (hresult : answer.result = .ok reply)
    (hfailure : report.failure? = none) (hreported : request.ReportedBy reply report)
    (hgranted : ∀ fields, reply = .granted fields → store.Keyed →
      ∃ application period expiresAt,
        report = .granted application period (fields.map GrantedField.ref) expiresAt) :
    Reports store ⟨context, request⟩ answer (context.event report) where
  trace := rfl
  isSuccess := by
    rw [hresult]
    simp [Context.event, Report.isSuccess, hfailure]
  failure error herror := by
    rw [hresult] at herror
    cases herror
  reported other hother := by
    rw [hresult] at hother
    obtain rfl := Except.ok.inj hother
    exact hreported
  granted fields hfields := by
    rw [hresult] at hfields
    exact hgranted fields (Except.ok.inj hfields)

/-- A call that fails is accounted for by a report of its error. -/
theorem accounted_of_error {error : PolicyError} (hresult : answer.result = .error error)
    (hevents : answer.events = [context.event report])
    (hfailure : report.failure? = some error.failure)
    (hmeasured : answer.measurements = request.measured (.error error)) :
    Accounted store ⟨context, request⟩ answer where
  events := ⟨_, hevents, reports_of_error hresult hfailure⟩
  measurements := by rw [hresult, hmeasured]

/-- A call that succeeds is accounted for by a report that agrees with its reply. -/
theorem accounted_of_ok {reply : Reply} (hresult : answer.result = .ok reply)
    (hevents : answer.events = [context.event report]) (hfailure : report.failure? = none)
    (hreported : request.ReportedBy reply report)
    (hgranted : ∀ fields, reply = .granted fields → store.Keyed →
      ∃ application period expiresAt,
        report = .granted application period (fields.map GrantedField.ref) expiresAt)
    (hmeasured : answer.measurements = request.measured (.ok reply)) :
    Accounted store ⟨context, request⟩ answer where
  events := ⟨_, hevents, reports_of_ok hresult hfailure hreported hgranted⟩
  measurements := by rw [hresult, hmeasured]

end Answers

/-- **Calls.** Every call is accounted for. -/
theorem accounted (store : Store) (call : Call) : call.Accounted store (call.answer store) := by
  obtain ⟨context, request⟩ := call
  cases request with
  | register request =>
    simp only [answer, register]
    cases registerResult context store request with
    | error error => exact accounted_of_error rfl rfl rfl rfl
    | ok registered => exact accounted_of_ok rfl rfl rfl rfl (by rintro _ ⟨⟩) rfl
  | replace request =>
    simp only [answer, replace]
    cases replaceResult context store request with
    | error error => exact accounted_of_error rfl rfl rfl rfl
    | ok replaced => exact accounted_of_ok rfl rfl rfl rfl (by rintro _ ⟨⟩) rfl
  | grant request =>
    simp only [answer, grant]
    cases hgrant : grantResult context store request (FieldRef.distinct request.records) with
    | error error => exact accounted_of_error rfl rfl rfl rfl
    | ok granted =>
      obtain ⟨granting, after⟩ := granted
      obtain ⟨hperiod, rows, -, hfields⟩ := exists_of_grantResult hgrant
      refine accounted_of_ok rfl rfl rfl ⟨_, _, hperiod, rfl, ?_⟩ ?_ rfl
      · intro field hfield
        rw [hfields] at hfield
        obtain ⟨row, -, rfl⟩ := List.mem_map.1 hfield
        rfl
      · intro fields hreply hkeyed
        obtain rfl := Reply.granted.inj hreply
        rw [refs_of_grantResult hkeyed hgrant]
        exact ⟨_, _, _, rfl⟩
  | decide request =>
    simp only [answer, decide]
    cases decideResult context store request (FieldRef.distinct request.requiredFields) with
    | error error => exact accounted_of_error rfl rfl rfl rfl
    | ok decision => exact accounted_of_ok rfl rfl rfl rfl (by rintro _ ⟨⟩) rfl

end Call

end Service

namespace Http

/-- The event that reports a decision whose body is refused: neither the application nor the fields
are known. -/
def refusedDecision (context : Context) (request : Request) (fault : BodyFault) : Event where
  trace := request.trace?.getD context.trace
  time := context.now
  report := .decisionFailed "" [] ⟨"invalid_argument", fault.message⟩

/-- What is reported and counted of a request over HTTP. -/
structure Accounted (context : Context) (store : Store) (request : Request) (answer : Answer) :
    Prop where
  made : ∀ endpoint body, request.Asks endpoint (.ok body) →
    let direct := Service.Call.answer store ⟨callContext context request, body⟩
    answer.events = direct.events ∧ answer.measurements = direct.measurements
  undecided : ∀ fault, request.Asks .decide (.error fault) →
    answer.response = refusal fault ∧ answer.events = [refusedDecision context request fault] ∧
      answer.measurements = [.decisionFailure "invalid_argument"]
  idle : (∀ endpoint body, ¬ request.Asks endpoint (.ok body)) →
    (∀ fault, ¬ request.Asks .decide (.error fault)) →
      answer.events = [] ∧ answer.measurements = []

/-- **Requests over HTTP.** Every request is accounted for by the call that it makes, if it makes
one, or by the decision that it fails to ask for. -/
theorem accounted (context : Context) (store : Store) (request : Request) :
    Accounted context store request (handle context store request) where
  made endpoint body hasks := by
    rw [hasks.handle_eq]
    exact ⟨rfl, rfl⟩
  undecided fault hasks := by
    rw [hasks.handle_eq]
    exact ⟨rfl, rfl, rfl⟩
  idle hmade hundecided := by
    rcases request.asks_or_idle with ⟨endpoint, reading, hasks⟩ | hidle
    · cases reading with
      | ok body => exact absurd hasks (hmade endpoint body)
      | error fault =>
        have hother : endpoint ≠ .decide := by
          rintro rfl
          exact hundecided fault hasks
        rw [hasks.handle_eq, Endpoint.answer, if_neg hother]
        exact ⟨rfl, rfl⟩
    · obtain ⟨response, hresponse⟩ := hidle context.uptimeSeconds
      rw [hresponse context store rfl]
      exact ⟨rfl, rfl⟩

end Http

/-- **Accounts.** Every call emits one event, which agrees with what the caller is answered, and is
counted by its outcome; the stores that calls leave behind have every row under its own
reference. A request over HTTP is reported and counted as the call that it makes; a decision whose
body is refused is reported as failed, and counted as failed but not as made. -/
theorem calls_accounted_for :
    (∀ (store : Store) (call : Service.Call), call.Accounted store (call.answer store)) ∧
      (∀ calls : List Service.Call, (Service.run calls).store.Keyed) ∧
      ∀ (context : Http.Context) (store : Store) (request : Http.Request),
        Http.Accounted context store request (Http.handle context store request) :=
  ⟨Service.Call.accounted, fun calls => (Service.sound_run calls).keyed, Http.accounted⟩

/-- A grant that names a field twice, and a decision whose body is not announced, after a run. -/
theorem calls_accounted_for_readdition :
    let store := (Service.run Service.readdition).store
    let twice : Service.Call := ⟨Service.onDay 4,
      .grant ⟨"portal", "30d", [⟨"people", "photo"⟩, ⟨"people", "name"⟩, ⟨"people", "photo"⟩]⟩⟩
    let context : Http.Context :=
      { now := twice.context.now, fresh := twice.context.fresh, trace := "" }
    let unannounced : Http.Request :=
      { method := "POST", target := "/policy/decide", headers := [(Http.traceHeader, "trace")] }
    (∃ fields expiresAt, (twice.answer store).result = .ok (.granted fields) ∧
      fields.map GrantedField.ref = [⟨"people", "photo"⟩, ⟨"people", "name"⟩] ∧
      (twice.answer store).events.map (·.report) = [.granted "portal" .month
        [⟨"people", "photo"⟩, ⟨"people", "name"⟩] expiresAt] ∧
      ∀ field ∈ fields, field.expiresAt = expiresAt) ∧
    (twice.answer store).measurements = [.grants 2] ∧
    (Http.handle context store unannounced).events = [⟨"trace", context.now,
      .decisionFailed "" [] ⟨"invalid_argument", Http.BodyFault.unannounced.message⟩⟩] ∧
    (Http.handle context store unannounced).measurements =
      [.decisionFailure "invalid_argument"] := by
  intro store twice context unannounced
  obtain ⟨hcalls, hkeyed, hrequests⟩ := calls_accounted_for
  have hok : (twice.answer store).result.isOk = true := by decide +kernel
  obtain ⟨reply, hreply⟩ := Service.exists_of_isOk hok
  obtain ⟨event, hevent, hreports⟩ := (hcalls store twice).events
  have hreported := hreports.reported reply hreply
  have hasks : unannounced.Asks .decide (.error .unannounced) :=
    ⟨rfl, by decide +kernel, by rfl⟩
  obtain ⟨-, hevents, hmeasurements⟩ :=
    (hrequests context store unannounced).undecided .unannounced hasks
  refine ⟨?_, by decide +kernel, hevents, hmeasurements⟩
  cases reply with
  | granted fields =>
    obtain ⟨period, expiresAt, hperiod, hreport, hexpiry⟩ := hreported
    obtain rfl : period = .month := by
      have hmonth : GrantPeriod.ofName? "30d" = some .month := by decide
      exact (Option.some.inj (hmonth.symm.trans hperiod)).symm
    obtain ⟨_, _, _, hgranted⟩ := hreports.granted fields hreply (hkeyed _)
    obtain ⟨-, -, hrefs, -⟩ := Report.granted.inj (hgranted.symm.trans hreport)
    have hreports : (twice.answer store).events.map (·.report) = [event.report] := by
      rw [hevent, List.map_singleton]
    exact ⟨fields, expiresAt, hreply, hrefs,
      hreports.trans (congrArg (fun report => [report]) hreport), hexpiry⟩
  | _ => cases hreported

end FieldAccess
