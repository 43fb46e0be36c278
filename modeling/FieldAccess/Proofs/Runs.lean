import FieldAccess.Proofs.StoreUpdates
import Mathlib.Data.List.Induction
import FieldAccess.Service.Call

/-!
# Runs of the service

The four calls as one kind of step, and what a sequence of them leaves behind: the store, and a log
of what was done to it. A call either fails and leaves the store as it was, or has one effect that
its request and the time of the call determine.

## Main definitions

* `Service.Call` – a request and its circumstances.
* `Service.Effect` – what a successful call has done.
* `Service.Changes` – how an effect changes a store.
* `Service.run` – the store and the log after some calls.

## Main statements

* `Service.Call.fails_or_changes` – what a call can do to a store.
* `Service.run_induction` – what holds at the start and is kept by every call holds after a run.
-/

namespace FieldAccess.Service

/-- A request to the service. -/
inductive Request where
  | register (request : RegisterSchema)
  | replace (request : ReplaceMetadata)
  | grant (request : GrantAccess)
  | decide (request : DecideAccess)

/-- What a request is answered with. -/
inductive Reply where
  | registered (schema : RegisteredSchema)
  | replaced (rows : List FieldPolicy)
  | granted (fields : List GrantedField)
  | decided (decision : Decision)
  deriving DecidableEq

/-- A request and its circumstances. -/
structure Call where
  context : Context
  request : Request

/-- The answer with its value carried over. -/
def Answer.map {α β : Type} (f : α → β) (answer : Answer α) : Answer β where
  result := answer.result.map f
  store := answer.store
  events := answer.events
  measurements := answer.measurements

/-- What a successful call has done. -/
inductive Effect where
  /-- The fields of a schema were replaced by those that the records describe. -/
  | submitted (schemaId : String) (records : List FieldRecord)
  /-- An application was granted access to fields. -/
  | granted (application : String) (refs : List FieldRef) (grant : Grant)
  /-- A decision was made, which changes nothing. -/
  | decided

namespace Call

/-- What comes of a call. -/
def answer (store : Store) (call : Call) : Answer Reply :=
  match call.request with
  | .register request => (register call.context store request).map .registered
  | .replace request => (replace call.context store request).map .replaced
  | .grant request => (grant call.context store request).map .granted
  | .decide request => (decide call.context store request).map .decided

/-- What a call does if it succeeds. It is determined by the request and the time of the call. -/
def effect? (call : Call) : Option Effect :=
  match call.request with
  | .register request =>
    request.convert.toOption.map fun conversion => .submitted request.schemaId conversion.records
  | .replace request => some (.submitted request.schemaId request.records)
  | .grant request => do
    let period ← GrantPeriod.ofName? request.grantDuration
    let grant ← (period.startingAt call.context.now).toOption
    return .granted request.applicationId request.records grant
  | .decide _ => some .decided

end Call

/-- How an effect changes a store at a time. -/
inductive Changes (context : Context) (store : Store) : Effect → Store → Prop where
  | submitted {schemaId : String} {records : List FieldRecord} {rows : List FieldPolicy}
      {after : Store} (hschema : Text.isBlankText schemaId = false)
      (hok : store.replaceSchema context.fresh context.now schemaId records = .ok (rows, after)) :
      Changes context store (.submitted schemaId records) after
  | granted {application : String} {refs : List FieldRef} {period : GrantPeriod} {grant : Grant}
      {rows : List FieldPolicy} {after : Store}
      (happlication : Text.isBlankText application = false)
      (hgrant : period.startingAt context.now = .ok grant)
      (hok : store.grant application (FieldRef.distinct refs) grant = .ok (rows, after)) :
      Changes context store (.granted application refs grant) after
  | decided : Changes context store .decided store

theorem exists_of_isOk {α : Type} {result : Except PolicyError α} (h : result.isOk = true) :
    ∃ a, result = .ok a := by
  cases result with
  | error error => cases h
  | ok a => exact ⟨a, rfl⟩

theorem toOption_eq_some_iff {α : Type} {result : Except PolicyError α} {a : α} :
    result.toOption = some a ↔ result = .ok a := by
  cases result <;> simp [Except.toOption]

/-- A value comes out of two steps when the first gives one and the second makes it of that. -/
theorem bind_eq_ok_iff {α β : Type} {x : Except PolicyError α} {f : α → Except PolicyError β}
    {b : β} : (x >>= f) = .ok b ↔ ∃ a, x = .ok a ∧ f a = .ok b := by
  cases x with
  | error error =>
    constructor
    · intro h
      cases h
    · rintro ⟨a, h, -⟩
      cases h
  | ok a => exact ⟨fun h => ⟨a, rfl, h⟩, by rintro ⟨_, h, hf⟩; cases h; exact hf⟩

theorem requireNonBlank_eq_ok_iff {value name : String} :
    requireNonBlank value name = .ok () ↔ Text.isBlankText value = false := by
  unfold requireNonBlank
  cases Text.isBlankText value <;> simp

/-- A list of references is accepted when none of them has a blank part. -/
theorem requireRefsFrom_eq_ok_iff {name : String} {index : Nat} {refs : List FieldRef} :
    requireRefsFrom name index refs = .ok () ↔
      ∀ ref ∈ refs, Text.isBlankText ref.schemaId = false ∧
        Text.isBlankText ref.fieldName = false := by
  induction refs generalizing index with
  | nil => simp [requireRefsFrom]
  | cons ref rest ih =>
    rw [requireRefsFrom, bind_eq_ok_iff]
    simp only [List.mem_cons, forall_eq_or_imp]
    constructor
    · rintro ⟨_, hschema, h⟩
      obtain ⟨_, hname, h⟩ := bind_eq_ok_iff.1 h
      exact ⟨⟨requireNonBlank_eq_ok_iff.1 hschema, requireNonBlank_eq_ok_iff.1 hname⟩, ih.1 h⟩
    · rintro ⟨⟨hschema, hname⟩, h⟩
      exact ⟨(), requireNonBlank_eq_ok_iff.2 hschema, bind_eq_ok_iff.2
        ⟨(), requireNonBlank_eq_ok_iff.2 hname, ih.2 h⟩⟩

/-- An access to the store succeeds when the store does, and none of its errors is provoked. -/
theorem Context.access_eq_ok_iff {α : Type} {context : Context} {result : Except StoreError α}
    {a : α} : context.access result = .ok a ↔ context.storeFault = none ∧ result = .ok a := by
  unfold Context.access
  cases context.storeFault with
  | some error => simp
  | none => cases result <;> simp [Except.mapError]

section Results

variable (context : Context) (store : Store)

theorem result_register (request : RegisterSchema) :
    (register context store request).result =
      (registerResult context store request).map (·.1) := by
  simp only [register]
  cases registerResult context store request <;> rfl

theorem result_replace (request : ReplaceMetadata) :
    (replace context store request).result = (replaceResult context store request).map (·.1) := by
  simp only [replace]
  cases replaceResult context store request <;> rfl

theorem result_grant (request : GrantAccess) :
    (grant context store request).result =
      (grantResult context store request (FieldRef.distinct request.records)).map
        (·.1.fields) := by
  simp only [grant]
  cases grantResult context store request (FieldRef.distinct request.records) <;> rfl

theorem result_decide (request : DecideAccess) :
    (decide context store request).result =
      decideResult context store request (FieldRef.distinct request.requiredFields) := by
  simp only [decide]
  cases decideResult context store request (FieldRef.distinct request.requiredFields) <;> rfl

end Results

/-- A successful replacement has changed the store. -/
theorem changes_of_replaceResult {context : Context} {store after : Store}
    {request : ReplaceMetadata} {rows : List FieldPolicy}
    (h : replaceResult context store request = .ok (rows, after)) :
    Changes context store (.submitted request.schemaId request.records) after := by
  obtain ⟨_, hschema, h⟩ := bind_eq_ok_iff.1 h
  obtain ⟨_, -, h⟩ := bind_eq_ok_iff.1 h
  exact .submitted (requireNonBlank_eq_ok_iff.1 hschema) (Context.access_eq_ok_iff.1 h).2

/-- A request that is converted names its schema. -/
theorem isBlankText_of_convert {request : RegisterSchema} {conversion : Schema.Conversion}
    (h : request.convert = .ok conversion) : Text.isBlankText request.schemaId = false := by
  obtain ⟨_, hschema, -⟩ := bind_eq_ok_iff.1 h
  exact requireNonBlank_eq_ok_iff.1 hschema

/-- A successful registration has replaced the fields of its schema by those of its document. -/
theorem changes_of_registerResult {context : Context} {store after : Store}
    {request : RegisterSchema} {registered : RegisteredSchema}
    (h : registerResult context store request = .ok (registered, after)) :
    ∃ conversion, request.convert = .ok conversion ∧
      Changes context store (.submitted request.schemaId conversion.records) after := by
  obtain ⟨conversion, hconvert, h⟩ := bind_eq_ok_iff.1 h
  obtain ⟨⟨rows, after'⟩, hrows, h⟩ := bind_eq_ok_iff.1 h
  obtain ⟨-, rfl⟩ := Prod.mk.inj (Except.ok.inj h)
  exact ⟨conversion, hconvert,
    .submitted (isBlankText_of_convert hconvert) (Context.access_eq_ok_iff.1 hrows).2⟩

theorem periodOf_eq_ok_iff {text : String} {period : GrantPeriod} :
    periodOf text = .ok period ↔ GrantPeriod.ofName? text = some period := by
  unfold periodOf
  cases GrantPeriod.ofName? text <;> simp

/-- A successful grant has changed the rows that it names. -/
theorem changes_of_grantResult {context : Context} {store after : Store} {request : GrantAccess}
    {granting : Granting}
    (h : grantResult context store request (FieldRef.distinct request.records) =
      .ok (granting, after)) :
    ∃ period grant, GrantPeriod.ofName? request.grantDuration = some period ∧
      period.startingAt context.now = .ok grant ∧
      Changes context store (.granted request.applicationId request.records grant) after := by
  obtain ⟨_, happlication, h⟩ := bind_eq_ok_iff.1 h
  dsimp only at h
  split at h
  · obtain ⟨_, h, -⟩ := bind_eq_ok_iff.1 h
    cases h
  obtain ⟨_, -, h⟩ := bind_eq_ok_iff.1 h
  obtain ⟨period, hperiod, h⟩ := bind_eq_ok_iff.1 h
  obtain ⟨grant, hgrant, h⟩ := bind_eq_ok_iff.1 h
  obtain ⟨⟨rows, after'⟩, hrows, h⟩ := bind_eq_ok_iff.1 h
  obtain ⟨-, rfl⟩ := Prod.mk.inj (Except.ok.inj h)
  exact ⟨period, grant, periodOf_eq_ok_iff.1 hperiod, hgrant,
    .granted (requireNonBlank_eq_ok_iff.1 happlication) hgrant (Context.access_eq_ok_iff.1 hrows).2⟩

namespace Call

/-- **Step.** A call fails and leaves the store as it was, or it has its effect. -/
theorem fails_or_changes (call : Call) (store : Store) :
    (∃ error, (call.answer store).result = .error error ∧ (call.answer store).store = store) ∨
      ∃ reply effect, (call.answer store).result = .ok reply ∧ call.effect? = some effect ∧
        Changes call.context store effect (call.answer store).store := by
  obtain ⟨context, request⟩ := call
  cases request with
  | register request =>
    simp only [answer, register]
    cases h : registerResult context store request with
    | error error => exact .inl ⟨error, rfl, rfl⟩
    | ok pair =>
      obtain ⟨registered, after⟩ := pair
      obtain ⟨conversion, hconvert, hchanges⟩ := changes_of_registerResult h
      exact .inr ⟨_, _, rfl, by simp [effect?, hconvert, Except.toOption], hchanges⟩
  | replace request =>
    simp only [answer, replace]
    cases h : replaceResult context store request with
    | error error => exact .inl ⟨error, rfl, rfl⟩
    | ok pair => exact .inr ⟨_, _, rfl, rfl, changes_of_replaceResult h⟩
  | grant request =>
    simp only [answer, grant]
    cases h : grantResult context store request (FieldRef.distinct request.records) with
    | error error => exact .inl ⟨error, rfl, rfl⟩
    | ok pair =>
      obtain ⟨granting, after⟩ := pair
      obtain ⟨period, entry, hperiod, hentry, hchanges⟩ := changes_of_grantResult h
      exact .inr ⟨_, _, rfl, by simp [effect?, hperiod, hentry, Except.toOption], hchanges⟩
  | decide request =>
    simp only [answer, decide]
    cases decideResult context store request (FieldRef.distinct request.requiredFields) with
    | error error => exact .inl ⟨error, rfl, rfl⟩
    | ok decision => exact .inr ⟨_, _, rfl, rfl, .decided⟩

end Call

/-- A store, and what was done to it, the latest first. -/
structure State where
  store : Store := ∅
  log : List Effect := []

/-- The state after one more call. Only successful calls are logged. -/
def State.next (state : State) (call : Call) : State :=
  let answer := call.answer state.store
  { store := answer.store
    log := match answer.result with
      | .ok _ => call.effect?.toList ++ state.log
      | .error _ => state.log }

/-- The state after some calls, one after another, beginning with the empty store. -/
def run (calls : List Call) : State := calls.foldl State.next {}

@[simp] theorem run_nil : run [] = {} := rfl

theorem run_append_singleton (calls : List Call) (call : Call) :
    run (calls ++ [call]) = (run calls).next call := by
  simp [run]

/-- A call leaves the state as it was, or logs the effect by which it has changed the store. -/
theorem State.next_cases (state : State) (call : Call) :
    state.next call = state ∨
      ∃ reply effect after, (call.answer state.store).result = .ok reply ∧
        call.effect? = some effect ∧ Changes call.context state.store effect after ∧
        state.next call = { store := after, log := effect :: state.log } := by
  rcases call.fails_or_changes state.store with
    ⟨error, hresult, hstore⟩ | ⟨reply, effect, hresult, heffect, hchanges⟩
  · left
    simp only [next, hresult, hstore]
  · right
    refine ⟨reply, effect, _, hresult, heffect, hchanges, ?_⟩
    simp [next, hresult, heffect]

/-- **Induction along a run.** What holds at the start, and is kept by calls that fail and by every
effect that a call can have, holds after every run. -/
theorem run_induction {P : List Call → State → Prop} (nil : P [] {})
    (failed : ∀ calls call, P calls (run calls) → P (calls ++ [call]) (run calls))
    (changed : ∀ calls (call : Call) reply effect after, P calls (run calls) →
      (call.answer (run calls).store).result = .ok reply → call.effect? = some effect →
      Changes call.context (run calls).store effect after →
      P (calls ++ [call]) { store := after, log := effect :: (run calls).log })
    (calls : List Call) : P calls (run calls) := by
  induction calls using List.reverseRecOn with
  | nil => exact nil
  | append_singleton calls call ih =>
    rw [run_append_singleton]
    rcases (run calls).next_cases call with
      hsame | ⟨reply, effect, after, hresult, heffect, hchanges, hnext⟩
    · rw [hsame]
      exact failed calls call ih
    · rw [hnext]
      exact changed calls call reply effect after ih hresult heffect hchanges

theorem isSome_january (day : Fin 31) : (Date.ofParts? 1970 1 (day.val + 1)).isSome = true := by
  revert day
  decide

/-- The circumstances of a call at the beginning of a day of January 1970, with identifiers of its
own. -/
def onDay (day : Fin 31) : Context where
  trace := "run"
  now := .midnight ((Date.ofParts? 1970 1 (day.val + 1)).get (isSome_january day))
  fresh n := ⟨BitVec.ofNat 128 (100 * day.val + n)⟩

/-- A run in which two fields are granted, and one of them is left out and described again. -/
def readdition : List Call :=
  let photo : FieldRecord := { fieldName := "photo", isOwner := false, owner := some .citizen }
  let name : FieldRecord := { fieldName := "name", isOwner := true }
  [⟨onDay 0, .replace ⟨"people", [photo, name]⟩⟩,
    ⟨onDay 1, .grant ⟨"portal", "30d", [⟨"people", "photo"⟩, ⟨"people", "name"⟩]⟩⟩,
    ⟨onDay 2, .replace ⟨"people", [photo]⟩⟩,
    ⟨onDay 3, .replace ⟨"people", [name, photo]⟩⟩]

end FieldAccess.Service
