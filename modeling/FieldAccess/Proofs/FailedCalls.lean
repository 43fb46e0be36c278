import FieldAccess.Proofs.InPlace

/-!
# Failed calls

A call that fails leaves the store as it was, and so does a request over HTTP that is answered with
an error status. This is said of the steps in place, which could leave changes behind: none of them
fails after the first change. Whether the arguments of a request are at fault is found out from the
request and the time alone, before the store is asked.

## Main definitions

* `Store.Steps.LeavesNoTrace` – steps that leave the store as it was when they fail.
* `Service.Request.checkArguments` – all that can be wrong with the arguments of a request.

## Main statements

* `Service.Call.sameFaults` – a call refuses its arguments exactly when the check does.
* `Service.Call.leavesNoTrace` – a call in place that fails changes nothing.
* `Http.eq_of_handleInPlace` – a request in place that is answered with an error status changes
  nothing.
* `failed_calls` – failures leave no trace, and faults of arguments do not depend on the store.
-/

namespace FieldAccess

/-- Steps in place that leave the store as it was when they fail. -/
def Store.Steps.LeavesNoTrace {ε α : Type} (steps : Steps ε α) : Prop :=
  ∀ (store after : Store) (error : ε), steps.run.run store = (.error error, after) → after = store

namespace Service

/-- All that can be wrong with the arguments of a request that is made at a time. -/
def Request.checkArguments (now : Instant) : Request → Except PolicyError Unit
  | .register request => do
    let conversion ← request.convert
    checkRecords conversion.records
  | .replace request => do
    requireNonBlank request.schemaId "schemaId"
    checkRecords request.records
  | .grant request => do
    requireNonBlank request.applicationId "applicationId"
    if (FieldRef.distinct request.records).isEmpty then .error (.invalidArgument .noRecords)
    else do
      requireRefs (FieldRef.distinct request.records) "records"
      let period ← periodOf request.grantDuration
      discard (period.startingAt now)
  | .decide request => do
    requireNonBlank request.applicationId "applicationId"
    requireRefs (FieldRef.distinct request.requiredFields) "requiredFields"

/-- Two results are faults of the same argument, or neither is a fault of an argument. -/
def SameFaults {α β : Type} (x : Except PolicyError α) (y : Except PolicyError β) : Prop :=
  ∀ fault, x = .error (.invalidArgument fault) ↔ y = .error (.invalidArgument fault)

namespace SameFaults

variable {α β γ : Type}

/-- After the same first step, faults are the same if they are in what follows. -/
theorem bind {x : Except PolicyError α} {f : α → Except PolicyError β}
    {g : α → Except PolicyError γ} (h : ∀ a, x = .ok a → SameFaults (f a) (g a)) :
    SameFaults (x >>= f) (x >>= g) := by
  intro fault
  cases x with
  | error error =>
    change Except.error error = _ ↔ Except.error error = _
    simp
  | ok a => exact h a rfl fault

/-- What follows a step adds no fault, if it never is one. -/
theorem bind_left {x : Except PolicyError α} {f : α → Except PolicyError β}
    (h : ∀ a, x = .ok a → ∀ fault, f a ≠ .error (.invalidArgument fault)) :
    SameFaults (x >>= f) x := by
  intro fault
  cases x with
  | error error =>
    change Except.error error = _ ↔ _
    simp
  | ok a =>
    constructor
    · intro hfault
      exact absurd hfault (h a rfl fault)
    · intro hfault
      cases hfault

theorem map {x : Except PolicyError α} (f : α → β) : SameFaults (x.map f) x := by
  intro fault
  cases x with
  | error error => simp [Except.map]
  | ok a => simp [Except.map]

theorem trans {x : Except PolicyError α} {y : Except PolicyError β} {z : Except PolicyError γ}
    (hxy : SameFaults x y) (hyz : SameFaults y z) : SameFaults x z :=
  fun fault => (hxy fault).trans (hyz fault)

theorem symm {x : Except PolicyError α} {y : Except PolicyError β} (h : SameFaults x y) :
    SameFaults y x := fun fault => (h fault).symm

end SameFaults

variable {context : Context} {store : Store}

/-- A store that works replaces the fields of a schema by those of a batch in order. -/
theorem replaceFields_eq_ok (hfault : context.storeFault = none) (schemaId : String)
    {records : List FieldRecord} (hcheck : checkRecords records = .ok ()) :
    ∃ rows after, replaceFields context store schemaId records = .ok (rows, after) := by
  refine ⟨_, _, Context.access_eq_ok_iff.2 ⟨hfault, Store.replaceSchema_eq_ok_iff.2
    ⟨_, Replacement.plan_eq_ok _ hcheck, rfl, rfl⟩⟩⟩

/-- A store that works refuses a batch for the faults that the check finds in it. -/
theorem sameFaults_replaceFields (hfault : context.storeFault = none) (schemaId : String)
    (records : List FieldRecord) :
    SameFaults (replaceFields context store schemaId records) (checkRecords records) := by
  intro fault
  cases hcheck : checkRecords records with
  | error error =>
    simp only [replaceFields, Context.access, hfault, Store.replaceSchema,
      Replacement.plan_eq_error _ hcheck, Except.mapError]
    cases error with
    | invalidArgument _ => simp [StoreError.ofPolicy, PolicyError.ofStore]
    | notFound _ => simp [StoreError.ofPolicy, PolicyError.ofStore]
    | internal _ => simp [StoreError.ofPolicy, PolicyError.ofStore]
  | ok _ =>
    obtain ⟨rows, after, hok⟩ := @replaceFields_eq_ok context store hfault schemaId records hcheck
    simp [hok]

/-- A working store that only misses fields finds no fault in arguments. -/
theorem access_bind_ne_invalidArgument {α β : Type} (hfault : context.storeFault = none)
    {result : Except StoreError α} (f : α → β)
    (hmissing : ∀ error, result = .error error → ∃ ref, error = Store.missing ref)
    (fault : ArgumentFault) :
    (context.access result >>= fun a => pure (f a)) ≠ .error (.invalidArgument fault) := by
  intro h
  simp only [Context.access, hfault] at h
  cases result with
  | ok a => cases h
  | error error =>
    obtain ⟨ref, rfl⟩ := hmissing error rfl
    cases h

theorem exists_missing_of_grant {application : String} {refs : List FieldRef} {grant : Grant}
    {error : StoreError} (h : store.grant application refs grant = .error error) :
    ∃ ref, error = Store.missing ref := by
  unfold Store.grant at h
  split at h
  · exact ⟨_, (Except.error.inj h).symm⟩
  · cases h

theorem exists_missing_of_getAll {refs : List FieldRef} {error : StoreError}
    (h : store.getAll refs = .error error) : ∃ ref, error = Store.missing ref := by
  cases hfirst : refs.find? fun ref => store[ref]?.isNone with
  | some ref =>
    rw [Store.getAll_eq_error hfirst] at h
    exact ⟨ref, (Except.error.inj h).symm⟩
  | none =>
    rw [Store.getAll_eq_ok fun ref href => by
      simpa [Option.isSome_iff_ne_none] using List.find?_eq_none.1 hfirst ref href] at h
    cases h

theorem sameFaults_replaceResult (hfault : context.storeFault = none)
    (request : ReplaceMetadata) :
    SameFaults (replaceResult context store request)
      ((Request.replace request).checkArguments context.now) := by
  refine .bind fun _ _ => .bind_left fun _ hcheck fault hrefused => ?_
  have := (sameFaults_replaceFields hfault _ _ fault).1 hrefused
  rw [hcheck] at this
  cases this

theorem sameFaults_registerResult (hfault : context.storeFault = none)
    (request : RegisterSchema) :
    SameFaults (registerResult context store request)
      ((Request.register request).checkArguments context.now) := by
  refine .bind fun conversion _ => .trans (.bind_left fun _ _ fault h => ?_)
    (sameFaults_replaceFields hfault _ _)
  cases h

theorem sameFaults_grantResult (hfault : context.storeFault = none) (request : GrantAccess) :
    SameFaults (grantResult context store request (FieldRef.distinct request.records))
      ((Request.grant request).checkArguments context.now) := by
  refine .bind fun _ _ => ?_
  dsimp only
  split
  · intro fault
    change Except.error _ = _ ↔ _
    simp
  · refine .bind fun _ _ => .bind fun period _ => ?_
    refine .trans (.bind_left fun grant _ => ?_) (.symm (.map _))
    exact access_bind_ne_invalidArgument hfault _ fun _ => exists_missing_of_grant

theorem sameFaults_decideResult (hfault : context.storeFault = none) (request : DecideAccess) :
    SameFaults (decideResult context store request (FieldRef.distinct request.requiredFields))
      ((Request.decide request).checkArguments context.now) :=
  .bind fun _ _ => .bind_left fun _ _ =>
    access_bind_ne_invalidArgument hfault _ fun _ => exists_missing_of_getAll

namespace Call

/-- **Arguments are checked before the store is asked.** While the store works, a call refuses its
arguments exactly when the check does, and for the same fault. -/
theorem sameFaults (call : Call) (store : Store) (hfault : call.context.storeFault = none) :
    SameFaults (call.answer store).result (call.request.checkArguments call.context.now) := by
  obtain ⟨context, request⟩ := call
  cases request with
  | register request =>
    refine .trans (.map _) ?_
    rw [result_register]
    exact .trans (.map _) (sameFaults_registerResult hfault request)
  | replace request =>
    refine .trans (.map _) ?_
    rw [result_replace]
    exact .trans (.map _) (sameFaults_replaceResult hfault request)
  | grant request =>
    refine .trans (.map _) ?_
    rw [result_grant]
    exact .trans (.map _) (sameFaults_grantResult hfault request)
  | decide request =>
    refine .trans (.map _) ?_
    rw [result_decide]
    exact sameFaults_decideResult hfault request

/-- A call that fails leaves the store as it was. -/
theorem store_of_error {call : Call} {store : Store} {error : PolicyError}
    (h : (call.answer store).result = .error error) : (call.answer store).store = store := by
  rcases call.fails_or_changes store with ⟨_, -, hstore⟩ | ⟨_, _, hresult, -⟩
  · exact hstore
  · rw [h] at hresult
    cases hresult

/-- A call in place that fails has changed nothing by then. -/
theorem leavesNoTrace (call : Call) : call.inPlace.LeavesNoTrace := by
  intro store after error h
  obtain ⟨herror, rfl⟩ := Prod.mk.inj ((call.run_inPlace store).symm.trans h)
  exact store_of_error herror

end Call

section Stores

variable {context : Context} {store : Store} {error : PolicyError}

theorem store_register {request : RegisterSchema}
    (h : (register context store request).result = .error error) :
    (register context store request).store = store :=
  @Call.store_of_error ⟨context, .register request⟩ store error
    (by simp [Call.answer, Answer.map, h, Except.map])

theorem store_replace {request : ReplaceMetadata}
    (h : (replace context store request).result = .error error) :
    (replace context store request).store = store :=
  @Call.store_of_error ⟨context, .replace request⟩ store error
    (by simp [Call.answer, Answer.map, h, Except.map])

end Stores

/-- A decision leaves the store as it was. -/
theorem store_decide (context : Context) (store : Store) (request : DecideAccess) :
    (decide context store request).store = store := by
  simp only [decide]
  cases decideResult context store request (FieldRef.distinct request.requiredFields) <;> rfl

/-- A decision in place leaves the store as it was, whatever comes of it. -/
theorem eq_of_decide_inPlace {context : Context} {request : DecideAccess} {store after : Store}
    {result : Except PolicyError Reply}
    (h : (Call.inPlace ⟨context, .decide request⟩).run.run store = (result, after)) :
    after = store := by
  obtain ⟨-, rfl⟩ := Prod.mk.inj ((Call.run_inPlace ⟨context, .decide request⟩ store).symm.trans h)
  exact store_decide context store request

end Service

namespace Http

/-- A call that is answered with an error status has failed. -/
theorem store_ofCall {α : Type} {trace : String} {status : Nat} (hstatus : status < 400)
    {write : α → Json} {answer : Service.Answer α} {store : Store}
    (hfailed : ∀ error, answer.result = .error error → answer.store = store)
    (h : 400 ≤ (ofCall trace status write answer).response.status) :
    (ofCall trace status write answer).store = store := by
  cases hresult : answer.result with
  | error error => exact hfailed error hresult
  | ok value =>
    simp only [ofCall, ofResult, hresult, success, Response.json] at h
    omega

theorem Endpoint.status_lt (endpoint : Endpoint) : endpoint.status < 400 := by
  cases endpoint <;> decide

/-- **Failed requests.** A request that is answered with an error status changes nothing, whatever
its path, method, headers and body are. -/
theorem store_handle (context : Context) (store : Store) (request : Request)
    (h : 400 ≤ (handle context store request).response.status) :
    (handle context store request).store = store := by
  rcases request.asks_or_idle with ⟨endpoint, reading, hasks⟩ | hidle
  · rw [hasks.handle_eq] at h ⊢
    cases reading with
    | ok body => exact store_ofCall endpoint.status_lt (fun _ => Service.Call.store_of_error) h
    | error fault =>
      -- Whether a decision has been asked for or not, no call is made.
      rw [Endpoint.answer]
      split <;> rfl
  · obtain ⟨response, hresponse⟩ := hidle context.uptimeSeconds
    rw [hresponse context store rfl]

/-- A request in place that is answered with an error status has changed nothing. -/
theorem eq_of_handleInPlace {context : Context} {request : Request} {store after : Store}
    {response : Response} (h : (handleInPlace context request).run store = (response, after))
    (hstatus : 400 ≤ response.status) : after = store := by
  obtain ⟨rfl, rfl⟩ := Prod.mk.inj ((run_handleInPlace context store request).symm.trans h)
  exact store_handle context store request hstatus

end Http

/-- **Failures leave no trace.** The calls and the requests over HTTP are carried out in place, on
one store that every step changes for good, and come to what the calls come to that return a store.
A call that fails, a decision, and a request that is answered with an error status leave the store
as it was; and whether a call refuses its arguments, and why, does not depend on the store, as long
as it works. -/
theorem failed_calls :
    (∀ (call : Service.Call) (store : Store),
      call.inPlace.run.run store = ((call.answer store).result, (call.answer store).store)) ∧
    (∀ call : Service.Call, call.inPlace.LeavesNoTrace) ∧
    (∀ (context : Service.Context) (request : DecideAccess) (store after : Store)
      (result : Except PolicyError Service.Reply),
      (Service.Call.inPlace ⟨context, .decide request⟩).run.run store = (result, after) →
        after = store) ∧
    (∀ (context : Http.Context) (store : Store) (request : Http.Request),
      (Http.handleInPlace context request).run store =
        ((Http.handle context store request).response,
          (Http.handle context store request).store)) ∧
    (∀ (context : Http.Context) (request : Http.Request) (store after : Store)
      (response : Http.Response),
      (Http.handleInPlace context request).run store = (response, after) →
        400 ≤ response.status → after = store) ∧
    (∀ (call : Service.Call) (store : Store) (error : PolicyError),
      (call.answer store).result = .error error → (call.answer store).store = store) ∧
    (∀ (context : Service.Context) (store : Store) (request : DecideAccess),
      (Service.decide context store request).store = store) ∧
    (∀ (context : Http.Context) (store : Store) (request : Http.Request),
      400 ≤ (Http.handle context store request).response.status →
        (Http.handle context store request).store = store) ∧
    ∀ (request : Service.Request) (context context' : Service.Context) (store store' : Store),
      context.storeFault = none → context'.storeFault = none → context.now = context'.now →
        Service.SameFaults (Service.Call.answer store ⟨context, request⟩).result
          (Service.Call.answer store' ⟨context', request⟩).result := by
  refine ⟨Service.Call.run_inPlace, Service.Call.leavesNoTrace,
    fun _ _ _ _ _ => Service.eq_of_decide_inPlace, Http.run_handleInPlace,
    fun _ _ _ _ _ => Http.eq_of_handleInPlace, fun _ _ _ => Service.Call.store_of_error,
    Service.store_decide, Http.store_handle, ?_⟩
  intro request context context' store store' hfault hfault' hnow
  have hleft := Service.Call.sameFaults ⟨context, request⟩ store hfault
  have hright := Service.Call.sameFaults ⟨context', request⟩ store' hfault'
  rw [← hnow] at hright
  exact hleft.trans hright.symm

/-- A grant of an absent field behind one that is there, and a body that is not announced, after a
run; and a period that ends too late, asked of the store after the run and of the empty one. -/
theorem failed_calls_readdition :
    let store := (Service.run Service.readdition).store
    let absent : Service.Call :=
      ⟨Service.onDay 4, .grant ⟨"portal", "30d", [⟨"people", "photo"⟩, ⟨"people", "age"⟩]⟩⟩
    let context : Http.Context :=
      { now := absent.context.now, fresh := absent.context.fresh, trace := "" }
    let unannounced : Http.Request := { method := "POST", target := "/policy/metadata" }
    let tooLong : Service.Request := .grant ⟨"portal", "9999y", [⟨"people", "photo"⟩]⟩
    (absent.answer store).result = .error (.notFound (.field ⟨"people", "age"⟩)) ∧
      (absent.answer store).store = store ∧
      absent.inPlace.run.run store =
        (.error (.notFound (.field ⟨"people", "age"⟩)), store) ∧
      (Http.handle context store unannounced).response.status = 400 ∧
      (Http.handle context store unannounced).store = store ∧
      (∃ response, response.status = 400 ∧
        (Http.handleInPlace context unannounced).run store = (response, store)) ∧
      (Service.Call.answer store ⟨Service.onDay 4, tooLong⟩).result =
        (Service.Call.answer ∅ ⟨Service.onDay 4, tooLong⟩).result ∧
      Service.SameFaults (Service.Call.answer store ⟨Service.onDay 4, tooLong⟩).result
        (Service.Call.answer ∅ ⟨Service.onDay 4, tooLong⟩).result := by
  intro store absent context unannounced tooLong
  obtain ⟨hrun, htraceless, -, hanswer, hanswered, hcall, -, hrequest, hsame⟩ := failed_calls
  have habsent : (absent.answer store).result = .error (.notFound (.field ⟨"people", "age"⟩)) := by
    decide +kernel
  have hfails : absent.inPlace.run.run store =
      (.error (.notFound (.field ⟨"people", "age"⟩)), (absent.answer store).store) :=
    (hrun absent store).trans (Prod.ext habsent rfl)
  have hstatus : (Http.handle context store unannounced).response.status = 400 := by
    decide +kernel
  have hresponse := hanswer context store unannounced
  have hkept := hanswered _ _ _ _ _ hresponse (by omega)
  rw [hkept] at hresponse
  rw [htraceless absent _ _ _ hfails] at hfails
  exact ⟨habsent, hcall absent store _ habsent, hfails, hstatus,
    hrequest context store unannounced (by omega), ⟨_, hstatus, hresponse⟩, by decide +kernel,
    hsame tooLong _ _ store ∅ rfl rfl rfl⟩

end FieldAccess
