import FieldAccess.Proofs.FailedCalls
import FieldAccess.Proofs.Independence

/-!
# The order of writes

Each application has an entry of its own on every allow-list, so that grants to different
applications may be made in any order, even where they name the same fields. Of grants to one
application the later one counts. Submissions of one schema do not meet what is done to others.

## Main definitions

* `FieldPolicy.undated` – a row without the time of its latest change.
* `Store.grantAt` – the entry of an application on the allow-list of a field.

## Main statements

* `Service.grants_commute` – grants to different applications, or to different fields.
* `Service.grantAt_later` – grants to one application.
* `Service.independent_writes_commute` – writes after a run.
-/

namespace FieldAccess

namespace FieldPolicy

/-- The row without the time of its latest change. -/
def undated (row : FieldPolicy) : FieldPolicy := { row with updatedAt := row.createdAt }

/-- Grants to different applications may change places, but for the time of the latest change. -/
theorem undated_grant_grant (row : FieldPolicy) {application other : String}
    (hne : application ≠ other) (entry entry' : Grant) :
    ((row.grant application entry).grant other entry').undated =
      ((row.grant other entry').grant application entry).undated := by
  have hlist : (row.allowList.insert application entry).insert other entry' =
      (row.allowList.insert other entry').insert application entry := by
    refine Std.ExtTreeMap.ext_getElem? fun name => ?_
    simp only [Std.ExtTreeMap.getElem?_insert]
    by_cases hname : name = application
    · subst hname
      simp [hne.symm]
    · have hname' : ¬application = name := fun h => hname h.symm
      simp [hname']
  simp only [undated, grant, hlist]

end FieldPolicy

/-- The entry of an application on the allow-list of a field. -/
def Store.grantAt (store : Store) (ref : FieldRef) (application : String) : Option Grant :=
  store[ref]?.bind fun row => row.allowList[application]?

namespace Service

namespace Call

variable {store store' : Store} {call : Call} {request : GrantAccess}

/-- The result of a grant depends on nothing but which fields there are. -/
theorem result_grant_congr (hrequest : call.request = .grant request) (hkeyed : store.Keyed)
    (hkeyed' : store'.Keyed) (hsame : ∀ ref : FieldRef, store.contains ref = store'.contains ref) :
    (call.answer store).result = (call.answer store').result := by
  rw [(call.answer_eq_outcome store).1, (call.answer_eq_outcome store').1, outcome, outcome,
    hrequest]
  cases haccess : (Request.grant request).access call.context.now with
  | error error => rfl
  | ok access =>
    obtain ⟨_, entry, -, -, rfl⟩ := Request.access_grant haccess
    have hfind := Store.find?_absent_congr (FieldRef.distinct request.records)
      fun ref _ => hsame ref
    change (call.context.access _).map _ = (call.context.access _).map _
    rw [Access.run_grant hkeyed, Access.run_grant hkeyed', hfind]
    unfold Context.access
    cases call.context.storeFault with
    | some error => rfl
    | none =>
      cases (FieldRef.distinct request.records).find? fun ref => !store'.contains ref with
      | some ref => rfl
      | none => rfl

/-- A grant that succeeds enters a grant, which its period and its time determine, for each field
that it names. All of them are there. -/
theorem answer_grant_of_ok {reply : Reply} (hrequest : call.request = .grant request)
    (hok : (call.answer store).result = .ok reply) :
    ∃ period entry, GrantPeriod.ofName? request.grantDuration = some period ∧
      period.startingAt call.context.now = .ok entry ∧ (∀ ref ∈ request.records, ref ∈ store) ∧
      ∀ ref : FieldRef, (call.answer store).store[ref]? =
        if ref ∈ request.records then store[ref]?.map (·.grant request.applicationId entry)
        else store[ref]? := by
  rcases call.fails_or_changes store with ⟨_, hresult, -⟩ | ⟨_, effect, -, heffect, hchanges⟩
  · rw [hok] at hresult
    cases hresult
  · rw [effect?, hrequest] at heffect
    obtain ⟨period, hperiod, heffect⟩ := Option.bind_eq_some_iff.1 heffect
    obtain ⟨entry, hentry, heffect⟩ := Option.bind_eq_some_iff.1 heffect
    obtain rfl := Option.some.inj heffect
    generalize (call.answer store).store = after at hchanges
    cases hchanges with
    | granted _ _ hstored =>
      obtain ⟨hall, hafter⟩ := Store.getElem?_of_grant hstored
      refine ⟨period, entry, hperiod, toOption_eq_some_iff.1 hentry, fun ref href => ?_,
        fun ref => ?_⟩
      · exact hall ref (FieldRef.mem_distinct.2 href)
      · simpa only [FieldRef.mem_distinct] using hafter ref

/-- **A grant is one change for each field.** In all stores with the same fields a grant has the
same result and changes each row in the same way: it leaves it alone or enters the same grant. -/
theorem grant_uniform (hrequest : call.request = .grant request) (hkeyed : store.Keyed) :
    ∃ change : FieldRef → FieldPolicy → FieldPolicy,
      (∀ ref, change ref = id ∨ ref ∈ request.records ∧
        ∃ entry, change ref = (·.grant request.applicationId entry)) ∧
      ∀ store' : Store, store'.Keyed →
        (∀ ref : FieldRef, store'.contains ref = store.contains ref) →
        (call.answer store').result = (call.answer store).result ∧
          ∀ ref : FieldRef, (call.answer store').store[ref]? = store'[ref]?.map (change ref) := by
  cases hresult : (call.answer store).result with
  | error error =>
    -- Whether a grant fails is decided by which fields there are, so it fails everywhere.
    refine ⟨fun _ => id, fun _ => .inl rfl, fun store' hkeyed' hsame => ?_⟩
    have hresult' := (result_grant_congr hrequest hkeyed' hkeyed hsame).trans hresult
    refine ⟨hresult', fun ref => ?_⟩
    rw [store_of_error hresult', Option.map_id_fun, id]
  | ok reply =>
    obtain ⟨period, entry, hperiod, hentry, -, -⟩ := answer_grant_of_ok hrequest hresult
    refine ⟨fun ref => if ref ∈ request.records then (·.grant request.applicationId entry) else id,
      fun ref => ?_, fun store' hkeyed' hsame => ?_⟩
    · by_cases href : ref ∈ request.records
      · exact .inr ⟨href, entry, if_pos href⟩
      · exact .inl (if_neg href)
    · have hresult' := (result_grant_congr hrequest hkeyed' hkeyed hsame).trans hresult
      obtain ⟨period', entry', hperiod', hentry', -, hafter⟩ :=
        answer_grant_of_ok hrequest hresult'
      obtain rfl := Option.some.inj (hperiod.symm.trans hperiod')
      obtain rfl := Except.ok.inj (hentry.symm.trans hentry')
      refine ⟨hresult', fun ref => ?_⟩
      rw [hafter ref]
      by_cases href : ref ∈ request.records
      · simp only [if_pos href]
      · simp only [if_neg href, Option.map_id_fun, id]

/-- A grant leaves the fields there that are there, and adds none. -/
theorem contains_answer_grant (hrequest : call.request = .grant request) (store : Store)
    (ref : FieldRef) : (call.answer store).store.contains ref = store.contains ref := by
  cases hresult : (call.answer store).result with
  | error error => rw [store_of_error hresult]
  | ok reply =>
    obtain ⟨_, _, -, -, -, hafter⟩ := answer_grant_of_ok hrequest hresult
    rw [Std.ExtTreeMap.contains_eq_isSome_getElem?, Std.ExtTreeMap.contains_eq_isSome_getElem?,
      hafter ref]
    split <;> simp

end Call

section Grants

variable {store : Store} {first second : Call} {request request' : GrantAccess}

/-- **Grants in either order.** Grants to different applications, or to different fields, have the
same results in both orders. The stores they leave differ at most in the times of the latest changes
of rows that both name. -/
theorem grants_commute (hkeyed : store.Keyed) (hfirst : first.request = .grant request)
    (hsecond : second.request = .grant request')
    (hapart : request.applicationId ≠ request'.applicationId ∨
      ∀ ref ∈ request.records, ref ∉ request'.records) :
    let turns := inTurn store first second
    let swapped := inTurn store second first
    turns.first = swapped.second ∧ turns.second = swapped.first ∧
      ∀ ref : FieldRef,
        turns.store[ref]?.map FieldPolicy.undated = swapped.store[ref]?.map FieldPolicy.undated ∧
          (¬(ref ∈ request.records ∧ ref ∈ request'.records) →
            turns.store[ref]? = swapped.store[ref]?) := by
  intro turns swapped
  obtain ⟨change, hchange, huniform⟩ := Call.grant_uniform hfirst hkeyed
  obtain ⟨change', hchange', huniform'⟩ := Call.grant_uniform hsecond hkeyed
  have hbefore := huniform store hkeyed fun _ => rfl
  have hbefore' := huniform' store hkeyed fun _ => rfl
  have hafter := huniform _ (second.keyed_answer hkeyed) (Call.contains_answer_grant hsecond store)
  have hafter' := huniform' _ (first.keyed_answer hkeyed) (Call.contains_answer_grant hfirst store)
  refine ⟨hafter.1.symm, hafter'.1, fun ref => ?_⟩
  have hturns : turns.store[ref]? = store[ref]?.map fun row => change' ref (change ref row) := by
    refine (hafter'.2 ref).trans ?_
    rw [hbefore.2 ref, Option.map_map, Function.comp_def]
  have hswapped : swapped.store[ref]? =
      store[ref]?.map fun row => change ref (change' ref row) := by
    refine (hafter.2 ref).trans ?_
    rw [hbefore'.2 ref, Option.map_map, Function.comp_def]
  rw [hturns, hswapped]
  -- Only where both enter a grant, and then for different applications, does the order show.
  rcases hchange ref with hsame | ⟨href, entry, hentry⟩
  · simp [hsame]
  · rcases hchange' ref with hsame' | ⟨href', entry', hentry'⟩
    · simp [hsame']
    · have hne : request.applicationId ≠ request'.applicationId :=
        hapart.resolve_right fun hdisjoint => hdisjoint ref href href'
      refine ⟨?_, fun hnot => absurd ⟨href, href'⟩ hnot⟩
      rw [hentry, hentry', Option.map_map, Option.map_map]
      exact congrArg (Option.map · _)
        (funext fun row => FieldPolicy.undated_grant_grant row hne entry entry')

/-- A successful grant enters its grant for its application and leaves the other applications as
they were. -/
theorem grantAt_answer {reply : Reply} (hrequest : first.request = .grant request)
    (hok : (first.answer store).result = .ok reply) :
    ∃ period entry, GrantPeriod.ofName? request.grantDuration = some period ∧
      period.startingAt first.context.now = .ok entry ∧
      ∀ (ref : FieldRef) (application : String),
        (first.answer store).store.grantAt ref application =
          if application = request.applicationId ∧ ref ∈ request.records then some entry
          else store.grantAt ref application := by
  obtain ⟨period, entry, hperiod, hentry, hall, hafter⟩ := Call.answer_grant_of_ok hrequest hok
  refine ⟨period, entry, hperiod, hentry, fun ref application => ?_⟩
  rw [Store.grantAt, hafter ref]
  by_cases href : ref ∈ request.records
  · obtain ⟨row, hrow⟩ :=
      Option.isSome_iff_exists.1 (Std.ExtTreeMap.mem_iff_isSome_getElem?.1 (hall ref href))
    rw [if_pos href, Store.grantAt, hrow, Option.map_some, Option.bind_some, Option.bind_some,
      FieldPolicy.grant, Std.ExtTreeMap.getElem?_insert]
    by_cases happlication : application = request.applicationId
    · subst happlication
      simp [href]
    · have hother : ¬request.applicationId = application := fun h => happlication h.symm
      simp [happlication, hother]
  · rw [if_neg href, if_neg fun h => href h.2]
    rfl

/-- **The later grant counts.** After two successful grants to one application the entries on the
fields of the later one are its own, and the entries of other applications are as they were. -/
theorem grantAt_later {reply reply' : Reply} (hfirst : first.request = .grant request)
    (hsecond : second.request = .grant request')
    (hsame : request.applicationId = request'.applicationId)
    (hok : (inTurn store first second).first = .ok reply)
    (hok' : (inTurn store first second).second = .ok reply') :
    ∃ period entry, GrantPeriod.ofName? request'.grantDuration = some period ∧
      period.startingAt second.context.now = .ok entry ∧
      (∀ ref ∈ request'.records,
        (inTurn store first second).store.grantAt ref request'.applicationId = some entry) ∧
      ∀ (ref : FieldRef) (application : String), application ≠ request'.applicationId →
        (inTurn store first second).store.grantAt ref application =
          store.grantAt ref application := by
  obtain ⟨_, _, -, -, hearlier⟩ := grantAt_answer hfirst hok
  obtain ⟨period, entry, hperiod, hentry, hlater⟩ := grantAt_answer hsecond hok'
  refine ⟨period, entry, hperiod, hentry, fun ref href => ?_, fun ref application hother => ?_⟩
  · exact (hlater ref request'.applicationId).trans (if_pos ⟨rfl, href⟩)
  · calc (inTurn store first second).store.grantAt ref application
        = (first.answer store).store.grantAt ref application :=
          (hlater ref application).trans (if_neg fun h => hother h.1)
      _ = store.grantAt ref application :=
          (hearlier ref application).trans (if_neg fun h => hother (h.1.trans hsame))

end Grants

/-- **Independent writes commute.** After any run, of two calls in either order: (a) grants to
different applications or to different fields have the same results, and leave stores that differ at
most in the times of the latest changes of rows that both name; (b) a submission of a schema and a
call that names no field of this schema have the same results and leave the same store, and the same
but for identifiers where other ones are drawn; (c) of two successful grants to one application the
later one determines the entries on its fields, and other applications keep theirs. -/
theorem independent_writes_commute (calls : List Call) (first second : Call) :
    let store := (run calls).store
    let turns := inTurn store first second
    let swapped := inTurn store second first
    (∀ request request', first.request = .grant request → second.request = .grant request' →
      (request.applicationId ≠ request'.applicationId ∨
        ∀ ref ∈ request.records, ref ∉ request'.records) →
      turns.first = swapped.second ∧ turns.second = swapped.first ∧
        ∀ ref : FieldRef,
          turns.store[ref]?.map FieldPolicy.undated =
            swapped.store[ref]?.map FieldPolicy.undated ∧
          (¬(ref ∈ request.records ∧ ref ∈ request'.records) →
            turns.store[ref]? = swapped.store[ref]?)) ∧
    (∀ schemaId, first.request.schemaId? = some schemaId →
      (∀ ref, second.request.Touches ref → ref.schemaId ≠ schemaId) →
      turns = swapped.swap ∧ ∀ first' second', first.Alike first' → second.Alike second' →
        turns.anonymous = (inTurn store second' first').swap.anonymous) ∧
    (∀ request request' reply reply', first.request = .grant request →
      second.request = .grant request' → request.applicationId = request'.applicationId →
      turns.first = .ok reply → turns.second = .ok reply' →
      ∃ period entry, GrantPeriod.ofName? request'.grantDuration = some period ∧
        period.startingAt second.context.now = .ok entry ∧
        (∀ ref ∈ request'.records,
          turns.store.grantAt ref request'.applicationId = some entry) ∧
        ∀ (ref : FieldRef) (application : String), application ≠ request'.applicationId →
          turns.store.grantAt ref application = store.grantAt ref application) := by
  intro store turns swapped
  have hkeyed : store.Keyed := (mirrors_run calls).keyed
  refine ⟨fun request request' hfirst hsecond hapart => grants_commute hkeyed hfirst hsecond hapart,
    fun schemaId hschema hother => ?_, fun request request' reply reply' hfirst hsecond hsame hok
      hok' => grantAt_later hfirst hsecond hsame hok hok'⟩
  have hdisjoint : ∀ ref, first.request.Touches ref → ¬second.request.Touches ref :=
    fun ref href href' => hother ref href' (Request.schemaId_of_touches hschema href)
  have hswap : turns = swapped.swap := inTurn_swap hkeyed hdisjoint
  refine ⟨hswap, fun first' second' hfirst hsecond => ?_⟩
  rw [hswap]
  exact congrArg Turns.swap (inTurn_anonymous hsecond hfirst store)

/-- A portal and a bank are granted access to the same field, another schema is submitted, and the
portal is granted access again, for a longer period. -/
theorem independent_writes_commute_people :
    let calls : List Call :=
      [⟨onDay 0, .replace ⟨"people", [{ fieldName := "name", isOwner := true }]⟩⟩]
    let grant (day : Fin 31) (application period : String) : Call :=
      ⟨onDay day, .grant ⟨application, period, [⟨"people", "name"⟩]⟩⟩
    let portal := grant 1 "portal" "30d"
    let bank := grant 2 "bank" "30d"
    let renewal := grant 3 "portal" "365d"
    let cars : Call := ⟨onDay 4, .replace ⟨"cars", [{ fieldName := "plate", isOwner := true }]⟩⟩
    let store := (run calls).store
    (inTurn store portal bank).second = (inTurn store bank portal).first ∧
      inTurn store cars portal = (inTurn store portal cars).swap ∧
      (inTurn store portal renewal).store.grantAt ⟨"people", "name"⟩ "portal" =
        (GrantPeriod.year.startingAt renewal.context.now).toOption := by
  intro calls grant portal bank renewal cars store
  obtain ⟨reply, hreply⟩ := exists_of_isOk
    (by decide +kernel : (inTurn store portal renewal).first.isOk = true)
  obtain ⟨reply', hreply'⟩ := exists_of_isOk
    (by decide +kernel : (inTurn store portal renewal).second.isOk = true)
  obtain ⟨period, entry, hperiod, hentry, hlater, -⟩ :=
    (independent_writes_commute calls portal renewal).2.2 _ _ reply reply' rfl rfl rfl
      hreply hreply'
  refine ⟨((independent_writes_commute calls portal bank).1 _ _ rfl rfl (.inl (by decide))).2.1,
    ((independent_writes_commute calls cars portal).2.1 "cars" rfl fun ref href => ?_).1, ?_⟩
  · obtain rfl := List.mem_singleton.1 href
    decide
  · obtain rfl : GrantPeriod.year = period := Option.some.inj ((by decide : _ = _).trans hperiod)
    rw [hentry]
    exact hlater _ (List.mem_singleton.2 rfl)

end Service

end FieldAccess
