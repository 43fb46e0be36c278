import FieldAccess.Proofs.Identifiers
import FieldAccess.Proofs.Replay
import FieldAccess.Proofs.StoreInvariant

/-!
# Independent calls

Calls that name different fields do not notice each other: a call finds the same in stores that
agree on the fields it names, and leaves all other fields alone. So their order is of no account.

## Main definitions

* `Service.Request.Touches` – the fields that a request names.
* `Service.inTurn` – what comes of two calls, one after the other.

## Main statements

* `Service.Call.answer_congr` – a call finds and does the same where stores agree.
* `Service.Call.getElem?_answer_of_not_touches` – a call leaves the fields alone that it does not
  name.
* `Service.inTurn_swap` – calls that name different fields may change places.
-/

namespace FieldAccess

namespace Store

variable {store store' : Store}

/-- Stores that agree on a field do so after the same rows were entered in both. -/
theorem getElem?_insertRows_congr {ref : FieldRef} (hsame : store[ref]? = store'[ref]?)
    (rows : List FieldPolicy) : (store.insertRows rows)[ref]? = (store'.insertRows rows)[ref]? := by
  unfold insertRows
  induction rows generalizing store store' with
  | nil => exact hsame
  | cons row rest ih =>
    refine ih ?_
    simp only [Std.ExtTreeMap.getElem?_insert, hsame]

/-- The plan for a schema is determined by what keyed stores say about its fields. -/
theorem Keyed.plan_congr (hkeyed : store.Keyed) (hkeyed' : store'.Keyed) {schemaId : String}
    (hsame : ∀ ref : FieldRef, ref.schemaId = schemaId → store[ref]? = store'[ref]?)
    (fresh : Nat → Uuid) (records : List FieldRecord) (now : Instant) :
    Replacement.plan fresh schemaId (store.ofSchema schemaId) records now =
      Replacement.plan fresh schemaId (store'.ofSchema schemaId) records now := by
  have hstored : Replacement.storedOf schemaId (store.ofSchema schemaId) =
      Replacement.storedOf schemaId (store'.ofSchema schemaId) := by
    refine Std.ExtTreeMap.ext_getElem? fun name => ?_
    rw [hkeyed.getElem?_storedOf, hkeyed'.getElem?_storedOf, hsame _ rfl]
  cases hcheck : checkRecords records with
  | error error => rw [Replacement.plan_eq_error _ hcheck, Replacement.plan_eq_error _ hcheck]
  | ok _ =>
    rw [Replacement.plan_eq_ok _ hcheck, Replacement.plan_eq_ok _ hcheck, Replacement.ofRecords,
      Replacement.ofRecords, hstored]

/-- The first absent field is the same in stores that have the same fields. -/
theorem find?_absent_congr (refs : List FieldRef)
    (hsame : ∀ ref ∈ refs, store.contains ref = store'.contains ref) :
    (refs.find? fun ref => !store.contains ref) = refs.find? fun ref => !store'.contains ref := by
  induction refs with
  | nil => rfl
  | cons ref rest ih =>
    have hrest := ih fun r hr => hsame r (by simp [hr])
    rw [List.find?_cons, List.find?_cons, hsame ref (by simp), hrest]

theorem getAll_congr {refs : List FieldRef} (hsame : ∀ ref ∈ refs, store[ref]? = store'[ref]?) :
    store.getAll refs = store'.getAll refs := by
  induction refs with
  | nil => rfl
  | cons ref rest ih =>
    rw [getAll, getAll, get, get, hsame ref (by simp), ih fun r hr => hsame r (by simp [hr])]

end Store

namespace Service

/-- What is answered about a field to which access was granted. -/
def grantedRef (entry : Grant) (ref : FieldRef) : GrantedField where
  fieldName := ref.fieldName
  schemaId := ref.schemaId
  expiresAt := entry.expiresAt
  updatedAt := entry.updatedAt

/-- After a grant to fields that are all there, the answer names these fields in their order. -/
theorem grantedFields_grantEach {store : Store} (hkeyed : store.Keyed) (application : String)
    (entry : Grant) {refs : List FieldRef} (hall : ∀ ref ∈ refs, store[ref]?.isSome) :
    (Store.grantEach application entry store refs).1.map (grantedField entry) =
      refs.map (grantedRef entry) := by
  induction refs generalizing store with
  | nil => rfl
  | cons ref rest ih =>
    obtain ⟨row, hrow⟩ := Option.isSome_iff_exists.1 (hall ref (by simp))
    have hname : grantedField entry (row.grant application entry) = grantedRef entry ref := by
      rw [← hkeyed ref row hrow]
      rfl
    -- The later fields are looked up in a store in which this one has changed.
    have hkeyed' : Store.Keyed (store.insert ref (row.grant application entry)) := by
      intro other found hfound
      rw [Std.ExtTreeMap.getElem?_insert] at hfound
      split at hfound
      · rename_i hsame
        obtain rfl := Std.LawfulEqCmp.eq_of_compare hsame
        obtain rfl := Option.some.inj hfound
        exact hkeyed ref row hrow
      · exact hkeyed other found hfound
    have hrest := ih hkeyed' (fun r hr => by
      rw [Std.ExtTreeMap.getElem?_insert]
      split
      · rfl
      · exact hall r (by simp [hr]))
    simp only [Store.grantEach, hrow, List.map_cons, hrest, hname]

/-- What a grant comes to on a keyed store: it fails at the first absent field, or it is answered
with all the fields. -/
theorem Access.run_grant {store : Store} (hkeyed : store.Keyed) (context : Context)
    (application : String) (refs : List FieldRef) (entry : Grant) :
    Access.run context store (.grant application refs entry) =
      match refs.find? fun ref => !store.contains ref with
      | some ref => .error (Store.missing ref)
      | none => .ok (.granted (refs.map (grantedRef entry)),
          (Store.grantEach application entry store refs).2) := by
  rw [Access.run, Store.grant]
  cases hfind : refs.find? fun ref => !store.contains ref with
  | some ref => rfl
  | none =>
    have hall : ∀ ref ∈ refs, store[ref]?.isSome := by
      intro ref href
      have hmem := Store.find?_absent_eq_none_iff.1 hfind ref href
      exact Std.ExtTreeMap.mem_iff_isSome_getElem?.1 hmem
    simp only [Except.map, grantedFields_grantEach hkeyed application entry hall]

/-- The fields that an access names. A submission names all fields of its schema. -/
def Access.Touches : Access → FieldRef → Prop
  | submit schemaId _ _, ref => ref.schemaId = schemaId
  | grant _ refs _, ref => ref ∈ refs
  | look _ refs, ref => ref ∈ refs

/-- What comes of the same access to two stores that it cannot tell apart: the same error, or the
same reply and stores that agree wherever the former stores do. -/
inductive Parallel {ε : Type} (store store' : Store) :
    Except ε (Reply × Store) → Except ε (Reply × Store) → Prop where
  | failed (error : ε) : Parallel store store' (.error error) (.error error)
  | succeeded (reply : Reply) {after after' : Store}
      (hsame : ∀ ref : FieldRef, store[ref]? = store'[ref]? → after[ref]? = after'[ref]?) :
      Parallel store store' (.ok (reply, after)) (.ok (reply, after'))

section Accesses

variable {store store' : Store} {context : Context}

/-- **Locality.** An access comes to the same in keyed stores that agree on the fields it names. -/
theorem Access.run_parallel (hkeyed : store.Keyed) (hkeyed' : store'.Keyed) (access : Access)
    (hsame : ∀ ref, access.Touches ref → store[ref]? = store'[ref]?) :
    Parallel store store' (access.run context store) (access.run context store') := by
  cases access with
  | submit schemaId records conversion =>
    -- One plan is carried out on both stores, row by row.
    simp only [run, Store.replaceSchema,
      hkeyed.plan_congr hkeyed' hsame context.fresh records context.now]
    cases Replacement.plan context.fresh schemaId (store'.ofSchema schemaId) records
        context.now with
    | error error => exact .failed _
    | ok plan =>
      refine .succeeded _ fun ref href => Store.getElem?_insertRows_congr ?_ _
      rw [Store.getElem?_eraseRows, Store.getElem?_eraseRows, href]
  | grant application refs entry =>
    have hcontains : ∀ ref ∈ refs, store.contains ref = store'.contains ref := by
      intro ref href
      rw [Std.ExtTreeMap.contains_eq_isSome_getElem?, Std.ExtTreeMap.contains_eq_isSome_getElem?,
        hsame ref href]
    rw [run_grant hkeyed, run_grant hkeyed', Store.find?_absent_congr refs hcontains]
    cases refs.find? fun ref => !store'.contains ref with
    | some ref => exact .failed _
    | none =>
      refine .succeeded _ fun ref href => ?_
      rw [Store.getElem?_grantEach, Store.getElem?_grantEach, href]
  | look application refs =>
    rw [run, run, Store.getAll_congr hsame]
    cases store'.getAll refs with
    | error error => exact .failed _
    | ok rows => exact .succeeded _ fun ref href => href

theorem Parallel.access {x y : Except StoreError (Reply × Store)} (h : Parallel store store' x y) :
    Parallel store store' (context.access x) (context.access y) := by
  unfold Context.access
  cases context.storeFault with
  | some error => exact .failed _
  | none =>
    cases h with
    | failed error => exact .failed _
    | succeeded reply hsame => exact .succeeded reply hsame

end Accesses

/-- The fields that a request names. A submission names all fields of its schema. -/
def Request.Touches : Request → FieldRef → Prop
  | register request, ref => ref.schemaId = request.schemaId
  | replace request, ref => ref.schemaId = request.schemaId
  | grant request, ref => ref ∈ request.records
  | decide request, ref => ref ∈ request.requiredFields

theorem Request.schemaId_of_touches {request : Request} {schemaId : String}
    (hschema : request.schemaId? = some schemaId) {ref : FieldRef} (href : request.Touches ref) :
    ref.schemaId = schemaId := by
  cases request with
  | register request => exact href.trans (Option.some.inj hschema)
  | replace request => exact href.trans (Option.some.inj hschema)
  | grant request => cases hschema
  | decide request => cases hschema

/-- A grant whose arguments are in order asks for an entry that its period and the time make. -/
theorem Request.access_grant {request : GrantAccess} {now : Instant} {access : Access}
    (haccess : (Request.grant request).access now = .ok access) :
    ∃ period entry, GrantPeriod.ofName? request.grantDuration = some period ∧
      period.startingAt now = .ok entry ∧
      access = .grant request.applicationId (FieldRef.distinct request.records) entry := by
  obtain ⟨_, -, haccess⟩ := bind_eq_ok_iff.1 haccess
  dsimp only at haccess
  split at haccess
  · obtain ⟨_, haccess, -⟩ := bind_eq_ok_iff.1 haccess
    cases haccess
  obtain ⟨_, -, haccess⟩ := bind_eq_ok_iff.1 haccess
  obtain ⟨period, hperiod, haccess⟩ := bind_eq_ok_iff.1 haccess
  obtain ⟨entry, hentry, haccess⟩ := bind_eq_ok_iff.1 haccess
  obtain rfl := Except.ok.inj haccess
  exact ⟨period, entry, periodOf_eq_ok_iff.1 hperiod, hentry, rfl⟩

/-- The access of a request names fields that the request names. -/
theorem Request.touches_of_access {request : Request} {now : Instant} {access : Access}
    (haccess : request.access now = .ok access) {ref : FieldRef} (href : access.Touches ref) :
    request.Touches ref := by
  cases request with
  | register request =>
    rw [Request.access] at haccess
    cases hconvert : request.convert with
    | error error =>
      rw [hconvert] at haccess
      cases haccess
    | ok conversion =>
      rw [hconvert] at haccess
      obtain rfl := Except.ok.inj haccess
      exact href
  | replace request =>
    obtain ⟨_, -, haccess⟩ := bind_eq_ok_iff.1 haccess
    obtain ⟨_, -, haccess⟩ := bind_eq_ok_iff.1 haccess
    obtain rfl := Except.ok.inj haccess
    exact href
  | grant request =>
    obtain ⟨_, _, -, -, rfl⟩ := access_grant haccess
    exact FieldRef.mem_distinct.1 href
  | decide request =>
    obtain ⟨_, -, haccess⟩ := bind_eq_ok_iff.1 haccess
    obtain ⟨_, -, haccess⟩ := bind_eq_ok_iff.1 haccess
    obtain rfl := Except.ok.inj haccess
    exact FieldRef.mem_distinct.1 href

namespace Call

variable {store store' : Store} {call : Call}

theorem outcome_parallel (hkeyed : store.Keyed) (hkeyed' : store'.Keyed)
    (hsame : ∀ ref, call.request.Touches ref → store[ref]? = store'[ref]?) :
    Parallel store store' (call.outcome store) (call.outcome store') := by
  rw [outcome, outcome]
  cases haccess : call.request.access call.context.now with
  | error error => exact .failed _
  | ok access =>
    refine (access.run_parallel hkeyed hkeyed' fun ref href => ?_).access
    exact hsame ref (Request.touches_of_access haccess href)

/-- **A call does not notice other fields.** On keyed stores that agree on the fields it names it
has the same result, and the stores after it agree wherever those before it do. -/
theorem answer_congr (hkeyed : store.Keyed) (hkeyed' : store'.Keyed)
    (hsame : ∀ ref, call.request.Touches ref → store[ref]? = store'[ref]?) :
    (call.answer store).result = (call.answer store').result ∧
      ∀ ref : FieldRef, store[ref]? = store'[ref]? →
        (call.answer store).store[ref]? = (call.answer store').store[ref]? := by
  have houtcome := outcome_parallel hkeyed hkeyed' hsame
  rw [(call.answer_eq_outcome store).1, (call.answer_eq_outcome store).2,
    (call.answer_eq_outcome store').1, (call.answer_eq_outcome store').2]
  generalize call.outcome store = x at houtcome ⊢
  generalize call.outcome store' = y at houtcome ⊢
  cases houtcome with
  | failed error => exact ⟨rfl, fun ref href => href⟩
  | succeeded reply hafter => exact ⟨rfl, hafter⟩

theorem keyed_answer (hkeyed : store.Keyed) (call : Call) : (call.answer store).store.Keyed := by
  rcases call.fails_or_changes store with ⟨_, -, hstore⟩ | ⟨_, _, -, -, hchanges⟩
  · rwa [hstore]
  · exact hchanges.keyed hkeyed

/-- **Frame.** A call leaves the fields alone that it does not name. -/
theorem getElem?_answer_of_not_touches (hkeyed : store.Keyed) {ref : FieldRef}
    (href : ¬call.request.Touches ref) : (call.answer store).store[ref]? = store[ref]? := by
  rcases call.fails_or_changes store with ⟨_, -, hstore⟩ | ⟨_, effect, -, heffect, hchanges⟩
  · rw [hstore]
  · obtain ⟨context, request⟩ := call
    generalize (answer store _).store = after at hchanges ⊢
    cases request with
    | register request =>
      obtain ⟨conversion, -, rfl⟩ := Option.map_eq_some_iff.1 heffect
      cases hchanges with
      | submitted _ hok => exact (hkeyed.replaced_of_replaceSchema hok).2.other ref href
    | replace request =>
      obtain rfl := Option.some.inj heffect
      cases hchanges with
      | submitted _ hok => exact (hkeyed.replaced_of_replaceSchema hok).2.other ref href
    | grant request =>
      obtain ⟨_, -, heffect⟩ := Option.bind_eq_some_iff.1 heffect
      obtain ⟨_, -, heffect⟩ := Option.bind_eq_some_iff.1 heffect
      obtain rfl := Option.some.inj heffect
      cases hchanges with
      | granted _ _ hok =>
        rw [(Store.getElem?_of_grant hok).2 ref, if_neg (mt FieldRef.mem_distinct.1 href)]
    | decide request =>
      obtain rfl := Option.some.inj heffect
      cases hchanges
      rfl

end Call

/-- What comes of two calls, one after the other: both results, and the store after them. -/
structure Turns where
  first : Except PolicyError Reply
  second : Except PolicyError Reply
  store : Store

/-- What comes of two calls, one after the other. -/
def inTurn (store : Store) (first second : Call) : Turns :=
  let earlier := first.answer store
  let later := second.answer earlier.store
  ⟨earlier.result, later.result, later.store⟩

/-- The results in the other order. -/
def Turns.swap (turns : Turns) : Turns := ⟨turns.second, turns.first, turns.store⟩

/-- The results and the store without identifiers. -/
def Turns.anonymous (turns : Turns) : Turns :=
  ⟨turns.first.map Reply.anonymous, turns.second.map Reply.anonymous, turns.store.anonymous⟩

theorem inTurn_anonymous {first first' second second' : Call} (hfirst : first.Alike first')
    (hsecond : second.Alike second') (store : Store) :
    (inTurn store first second).anonymous = (inTurn store first' second').anonymous := by
  obtain ⟨hearlier, hstore⟩ := hfirst.answer_anonymous (Eq.refl store.anonymous)
  obtain ⟨hlater, hafter⟩ := hsecond.answer_anonymous hstore
  simp only [Turns.anonymous, inTurn, hearlier, hlater, hafter]

/-- **Independence.** Calls that name different fields have the same results, and leave the same
store, in both orders. -/
theorem inTurn_swap {store : Store} (hkeyed : store.Keyed) {first second : Call}
    (hdisjoint : ∀ ref, first.request.Touches ref → ¬second.request.Touches ref) :
    inTurn store first second = (inTurn store second first).swap := by
  -- Each call finds the fields it names as if the other one had not been made.
  have hfirst := first.answer_congr (second.keyed_answer hkeyed) hkeyed fun ref href =>
    Call.getElem?_answer_of_not_touches hkeyed (hdisjoint ref href)
  have hsecond := second.answer_congr (first.keyed_answer hkeyed) hkeyed fun ref href =>
    Call.getElem?_answer_of_not_touches hkeyed fun hother => hdisjoint ref hother href
  have hstore : (second.answer (first.answer store).store).store =
      (first.answer (second.answer store).store).store := by
    refine Std.ExtTreeMap.ext_getElem? fun ref => ?_
    by_cases href : first.request.Touches ref
    · have hother := hdisjoint ref href
      rw [Call.getElem?_answer_of_not_touches (first.keyed_answer hkeyed) hother,
        hfirst.2 ref (Call.getElem?_answer_of_not_touches hkeyed hother)]
    · rw [Call.getElem?_answer_of_not_touches (second.keyed_answer hkeyed) href,
        hsecond.2 ref (Call.getElem?_answer_of_not_touches hkeyed href)]
  simp only [inTurn, Turns.swap, hfirst.1, hsecond.1, hstore]

end Service

end FieldAccess
