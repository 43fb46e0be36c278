import FieldAccess.Proofs.Runs
import FieldAccess.Proofs.TimeOrder

/-!
# What holds of every stored row

Rows that a run leaves behind are in order: they have names, they name an owner exactly for the
fields that the provider does not own, and no two of them share an identifier. If the clock never
goes back, the times of a row and of its grants follow one another as they should.

## Main definitions

* `Store.Sound` – rows are stored under their references and follow the rule of ownership.
* `Store.DistinctIds` – no two rows share an identifier.
* `Store.Timely` – the times of rows and grants are in order.
* `Service.drawn` – the identifiers that a run has used for new fields.

## Main statements

* `Service.store_invariant_run` – all of this holds after every run.
-/

namespace FieldAccess

/-- A row has names, and an owner exactly if the provider does not own the field. Its grants are
given to applications with names, and end after they have begun. -/
structure FieldPolicy.Sound (row : FieldPolicy) : Prop where
  schemaId : Text.isBlankText row.schemaId = false
  fieldName : Text.isBlankText row.fieldName = false
  owner : row.owner = none ↔ row.isOwner = true
  grants : ∀ (application : String) (grant : Grant), row.allowList[application]? = some grant →
    Text.isBlankText application = false ∧ grant.updatedAt < grant.expiresAt

/-- The times of a row are in order: its grants are not older than the row, and the row has not
been updated for the last time before them. -/
structure FieldPolicy.Timely (row : FieldPolicy) : Prop where
  createdAt_le : row.createdAt ≤ row.updatedAt
  grants : ∀ (application : String) (grant : Grant), row.allowList[application]? = some grant →
    row.createdAt ≤ grant.updatedAt ∧ grant.updatedAt ≤ row.updatedAt

namespace Store

/-- Every row is stored under the reference of its field, and is sound. -/
structure Sound (store : Store) : Prop where
  keyed : store.Keyed
  row : ∀ (ref : FieldRef) (row : FieldPolicy), store[ref]? = some row → row.Sound

/-- No two rows share an identifier. -/
def DistinctIds (store : Store) : Prop :=
  ∀ (ref other : FieldRef) (row row' : FieldPolicy), store[ref]? = some row →
    store[other]? = some row' → row.id = row'.id → ref = other

/-- The records of a batch whose fields are not there. -/
def absentRecords (store : Store) (schemaId : String) (records : List FieldRecord) :
    List FieldRecord :=
  records.filter fun record => !store.contains ⟨schemaId, record.fieldName⟩

/-- The times of every row are in order. -/
def Timely (store : Store) : Prop :=
  ∀ (ref : FieldRef) (row : FieldPolicy), store[ref]? = some row → row.Timely

end Store

namespace FieldPolicy

variable {row : FieldPolicy} {record : FieldRecord} {now : Instant}

theorem owner_eq_none_iff (hcheck : row.record.check = .ok ()) :
    row.owner = none ↔ row.isOwner = true := by
  have howner : row.isOwner = row.owner.isNone := (FieldRecord.check_eq_ok_iff.1 hcheck).2
  rw [howner, Option.isNone_iff_eq_none]

/-- A grant is the new one of its application, or was there before. -/
theorem getElem?_allowList_grant {application app : String} {grant entry : Grant}
    (h : (row.grant application grant).allowList[app]? = some entry) :
    (app = application ∧ entry = grant) ∨ row.allowList[app]? = some entry := by
  rw [FieldPolicy.grant, Std.ExtTreeMap.getElem?_insert] at h
  split at h
  · rename_i hsame
    exact .inl ⟨(Std.LawfulEqCmp.eq_of_compare hsame).symm, (Option.some.inj h).symm⟩
  · exact .inr h

theorem Sound.submit (h : row.Sound) (hname : row.fieldName = record.fieldName)
    (hcheck : record.check = .ok ()) : (row.submit record now).Sound := by
  obtain ⟨hschema, hfield⟩ := FieldRef.mk.inj (ref_submit row record now)
  refine ⟨hschema ▸ h.schemaId, hfield ▸ h.fieldName, ?_, ?_⟩
  · exact owner_eq_none_iff (by rw [record_submit now hname]; exact hcheck)
  · rw [allowList_submit]
    exact h.grants

theorem sound_introduce (id : Uuid) {schemaId : String} (now : Instant)
    (hschema : Text.isBlankText schemaId = false) (hcheck : record.check = .ok ()) :
    (introduce id schemaId record now).Sound := by
  refine ⟨hschema, (FieldRecord.check_eq_ok_iff.1 hcheck).1, owner_eq_none_iff hcheck, ?_⟩
  intro application grant hgrant
  simp [introduce] at hgrant

theorem Sound.grant {application : String} {grant : Grant} (h : row.Sound)
    (happlication : Text.isBlankText application = false)
    (hlt : grant.updatedAt < grant.expiresAt) : (row.grant application grant).Sound := by
  refine ⟨h.schemaId, h.fieldName, h.owner, ?_⟩
  intro app entry hentry
  rcases getElem?_allowList_grant hentry with ⟨rfl, rfl⟩ | hold
  · exact ⟨happlication, hlt⟩
  · exact h.grants app entry hold

theorem updatedAt_submit_le (hnow : row.updatedAt ≤ now) :
    (row.submit record now).updatedAt ≤ now := by
  unfold submit
  split
  · exact hnow
  · exact le_rfl

theorem Timely.submit (h : row.Timely) (hnow : row.updatedAt ≤ now) :
    (row.submit record now).Timely := by
  unfold FieldPolicy.submit
  split
  · exact h
  · refine ⟨h.createdAt_le.trans hnow, fun application grant hgrant => ?_⟩
    obtain ⟨hcreated, hupdated⟩ := h.grants application grant hgrant
    exact ⟨hcreated, hupdated.trans hnow⟩

theorem timely_introduce (id : Uuid) (schemaId : String) (record : FieldRecord) (now : Instant) :
    (introduce id schemaId record now).Timely := by
  refine ⟨le_rfl, fun application grant hgrant => ?_⟩
  simp [introduce] at hgrant

theorem Timely.grant {application : String} {grant : Grant} (h : row.Timely)
    (hnow : row.updatedAt ≤ grant.updatedAt) : (row.grant application grant).Timely := by
  refine ⟨h.createdAt_le.trans hnow, fun app entry hentry => ?_⟩
  rcases getElem?_allowList_grant hentry with ⟨rfl, rfl⟩ | hold
  · exact ⟨h.createdAt_le.trans hnow, le_rfl⟩
  · obtain ⟨hcreated, hupdated⟩ := h.grants app entry hold
    exact ⟨hcreated, hupdated.trans hnow⟩

end FieldPolicy

namespace Service

variable {context : Context} {store after : Store} {effect : Effect}

/-- Every effect keeps a store keyed. -/
theorem Changes.keyed (hchanges : Changes context store effect after) (hkeyed : store.Keyed) :
    after.Keyed := by
  cases hchanges with
  | submitted _ hok => exact (hkeyed.replaced_of_replaceSchema hok).2.keyed hkeyed
  | granted _ _ hok => exact hkeyed.grant hok
  | decided => exact hkeyed

/-- Where a row comes from that is there after an effect: it was there before, or a record or a
grant has changed it, or it is new. -/
theorem Changes.origin (hchanges : Changes context store effect after) (hkeyed : store.Keyed)
    {ref : FieldRef} {row : FieldPolicy} (hrow : after[ref]? = some row) :
    store[ref]? = some row ∨
      (∃ old record, store[ref]? = some old ∧ record.check = .ok () ∧
        old.fieldName = record.fieldName ∧ row = old.submit record context.now) ∨
      (∃ record, record.check = .ok () ∧ Text.isBlankText ref.schemaId = false ∧
        row = .introduce row.id ref.schemaId record context.now) ∨
      (∃ old application grant, store[ref]? = some old ∧
        Text.isBlankText application = false ∧ grant.updatedAt = context.now ∧
        grant.updatedAt < grant.expiresAt ∧ row = old.grant application grant) := by
  cases hchanges with
  | submitted hschema hok =>
    obtain ⟨hcheck, hreplaced⟩ := hkeyed.replaced_of_replaceSchema hok
    have hrecords := (checkRecords_eq_ok_iff.1 hcheck).1
    rcases hreplaced.origin hrow with
      ⟨-, hold⟩ | ⟨record, hrecord, rfl, ⟨old, hold, rfl⟩ | ⟨-, hnew⟩⟩
    · exact .inl hold
    · have hname := (FieldRef.mk.inj (hkeyed _ _ hold)).2
      exact .inr (.inl ⟨old, record, hold, hrecords record hrecord, hname, rfl⟩)
    · exact .inr (.inr (.inl ⟨record, hrecords record hrecord, hschema, hnew⟩))
  | @granted application refs period grant rows _ happlication hgrant hok =>
    rw [(Store.getElem?_of_grant hok).2 ref] at hrow
    split at hrow
    · obtain ⟨old, hold, rfl⟩ := Option.map_eq_some_iff.1 hrow
      obtain ⟨hnow, hlt⟩ := GrantPeriod.startingAt_eq_ok hgrant
      exact .inr (.inr (.inr ⟨old, application, grant, hold, happlication, hnow, hlt, rfl⟩))
    · exact .inl hrow
  | decided => exact .inl hrow

/-- Every effect keeps a store sound. -/
theorem Changes.sound (hchanges : Changes context store effect after) (h : store.Sound) :
    after.Sound := by
  refine ⟨hchanges.keyed h.keyed, fun ref row hrow => ?_⟩
  rcases hchanges.origin h.keyed hrow with
    hold | ⟨old, record, hold, hcheck, hname, rfl⟩ | ⟨record, hcheck, hschema, hnew⟩ |
      ⟨old, application, grant, hold, happlication, -, hlt, rfl⟩
  · exact h.row ref row hold
  · exact (h.row ref old hold).submit hname hcheck
  · rw [hnew]
    exact FieldPolicy.sound_introduce row.id context.now hschema hcheck
  · exact (h.row ref old hold).grant happlication hlt

/-- An effect keeps the times of rows in order, if no row is newer than the effect; and no row is
newer than the effect afterwards. -/
theorem Changes.timely (hchanges : Changes context store effect after) (hkeyed : store.Keyed)
    (h : store.Timely)
    (hnow : ∀ (ref : FieldRef) (row : FieldPolicy), store[ref]? = some row →
      row.updatedAt ≤ context.now) :
    after.Timely ∧ ∀ (ref : FieldRef) (row : FieldPolicy), after[ref]? = some row →
      row.updatedAt ≤ context.now := by
  have hrow : ∀ (ref : FieldRef) (row : FieldPolicy), after[ref]? = some row →
      row.Timely ∧ row.updatedAt ≤ context.now := by
    intro ref row hrow
    rcases hchanges.origin hkeyed hrow with
      hold | ⟨old, record, hold, -, -, rfl⟩ | ⟨record, -, -, hnew⟩ |
        ⟨old, application, grant, hold, -, hgrant, -, rfl⟩
    · exact ⟨h ref row hold, hnow ref row hold⟩
    · exact ⟨(h ref old hold).submit (hnow ref old hold),
        FieldPolicy.updatedAt_submit_le (hnow ref old hold)⟩
    · rw [hnew]
      exact ⟨FieldPolicy.timely_introduce row.id ref.schemaId record context.now, le_rfl⟩
    · refine ⟨(h ref old hold).grant (hgrant ▸ hnow ref old hold), ?_⟩
      exact hgrant.le
  exact ⟨fun ref row h => (hrow ref row h).1, fun ref row h => (hrow ref row h).2⟩

/-- The store after every run is sound. -/
theorem sound_run (calls : List Call) : (run calls).store.Sound := by
  refine run_induction (P := fun _ state => state.store.Sound) ?_ (fun _ _ h => h)
    (fun _ _ _ _ _ h _ _ hchanges => hchanges.sound h) calls
  exact ⟨Store.keyed_empty, fun ref row hrow => by simp at hrow⟩

/-- The clock never goes back during a run. -/
def ClockAdvances (calls : List Call) : Prop :=
  calls.Pairwise fun earlier later => earlier.context.now ≤ later.context.now

instance (calls : List Call) : Decidable (ClockAdvances calls) :=
  inferInstanceAs (Decidable (calls.Pairwise _))

/-- If the clock never goes back, the times of rows are in order after every run, and no row is
newer than a time before which all calls were made. -/
theorem timely_run (calls : List Call) : ClockAdvances calls →
    (run calls).store.Timely ∧
      ∀ now : Instant, (∀ call ∈ calls, call.context.now ≤ now) →
        ∀ (ref : FieldRef) (row : FieldPolicy), (run calls).store[ref]? = some row →
          row.updatedAt ≤ now := by
  refine run_induction (P := fun calls state => ClockAdvances calls → state.store.Timely ∧
    ∀ now : Instant, (∀ call ∈ calls, call.context.now ≤ now) →
      ∀ (ref : FieldRef) (row : FieldPolicy), state.store[ref]? = some row →
        row.updatedAt ≤ now) ?_ ?_ ?_ calls
  · intro _
    refine ⟨fun ref row hrow => ?_, fun now _ ref row hrow => ?_⟩
    · simp at hrow
    · simp at hrow
  · intro calls call ih hclock
    obtain ⟨htimely, hbound⟩ := ih (List.pairwise_append.1 hclock).1
    exact ⟨htimely, fun now hnow => hbound now fun c hc => hnow c (by simp [hc])⟩
  · intro calls call _ effect after ih _ _ hchanges hclock
    obtain ⟨hclock, -, hlast⟩ := List.pairwise_append.1 hclock
    obtain ⟨htimely, hbound⟩ := ih hclock
    have hnow := hbound call.context.now fun c hc => hlast c hc call (by simp)
    obtain ⟨htimely', hbound'⟩ := hchanges.timely (sound_run calls).keyed htimely hnow
    refine ⟨htimely', fun now hall ref row hrow => (hbound' ref row hrow).trans ?_⟩
    exact hall call (by simp)

/-- The identifiers that an effect uses: one for each field that it creates. -/
def Effect.drawn (context : Context) (store : Store) : Effect → List Uuid
  | submitted schemaId records =>
    (List.range (store.absentRecords schemaId records).length).map context.fresh
  | _ => []

/-- The identifiers that a call uses. A call that fails uses none. -/
def Call.drawn (store : Store) (call : Call) : List Uuid :=
  match (call.answer store).result, call.effect? with
  | .ok _, some effect => effect.drawn call.context store
  | _, _ => []

/-- The identifiers that calls use, one after another. -/
def drawnFrom (state : State) : List Call → List Uuid
  | [] => []
  | call :: rest => call.drawn state.store ++ drawnFrom (state.next call) rest

/-- The identifiers that a run uses. -/
def drawn (calls : List Call) : List Uuid := drawnFrom {} calls

theorem drawn_append_singleton (calls : List Call) (call : Call) :
    drawn (calls ++ [call]) = drawn calls ++ call.drawn (run calls).store := by
  have hfrom : ∀ state, drawnFrom state (calls ++ [call]) =
      drawnFrom state calls ++ call.drawn (calls.foldl State.next state).store := by
    induction calls with
    | nil => simp [drawnFrom]
    | cons head rest ih => simp [drawnFrom, ih, List.append_assoc]
  exact hfrom {}

/-- The rows that a batch adds to a keyed store have the identifiers drawn for them. -/
theorem ids_inserted (hkeyed : store.Keyed) (schemaId : String) (records : List FieldRecord) :
    (Replacement.ofRecords context.fresh schemaId (store.ofSchema schemaId) records
        context.now).inserted.map (·.id) =
      (Effect.submitted schemaId records).drawn context store := by
  rw [Replacement.ids_inserted_ofRecords, Effect.drawn, Store.absentRecords]
  simp only [hkeyed.getElem?_storedOf, Std.ExtTreeMap.contains_eq_isSome_getElem?,
    Option.not_isSome]

/-- After an effect a row has the identifier that the row of its field had, or it is one of the new
rows, which have the identifiers drawn. -/
theorem Changes.id_origin (hchanges : Changes context store effect after)
    (hkeyed : store.Keyed) :
    ∃ inserted : List FieldPolicy, inserted.map (·.id) = effect.drawn context store ∧
      ∀ (ref : FieldRef) (row : FieldPolicy), after[ref]? = some row →
        (∃ old, store[ref]? = some old ∧ old.id = row.id) ∨ row ∈ inserted := by
  cases hchanges with
  | @submitted schemaId records _ _ _ hok =>
    refine ⟨_, ids_inserted hkeyed schemaId records, fun ref row hrow => ?_⟩
    rcases (hkeyed.replaced_of_replaceSchema hok).2.origin hrow with
      ⟨-, hold⟩ | ⟨record, -, -, ⟨old, hold, rfl⟩ | ⟨hnew, -⟩⟩
    · exact .inl ⟨row, hold, rfl⟩
    · exact .inl ⟨old, hold, (FieldPolicy.id_submit old record context.now).symm⟩
    · exact .inr hnew
  | granted _ _ hok =>
    refine ⟨[], rfl, fun ref row hrow => .inl ?_⟩
    rw [(Store.getElem?_of_grant hok).2 ref] at hrow
    split at hrow
    · obtain ⟨old, hold, rfl⟩ := Option.map_eq_some_iff.1 hrow
      exact ⟨old, hold, rfl⟩
    · exact ⟨row, hrow, rfl⟩
  | decided => exact ⟨[], rfl, fun ref row hrow => .inl ⟨row, hrow, rfl⟩⟩

/-- The identifiers of stored rows are among some that were drawn. -/
def IdsAmong (store : Store) (ids : List Uuid) : Prop :=
  ∀ (ref : FieldRef) (row : FieldPolicy), store[ref]? = some row → row.id ∈ ids

/-- An effect keeps identifiers distinct, if those that it draws are new. -/
theorem Changes.distinctIds (hchanges : Changes context store effect after)
    (hkeyed : store.Keyed) {ids : List Uuid} (hamong : IdsAmong store ids)
    (hdistinct : store.DistinctIds) (hnodup : (ids ++ effect.drawn context store).Nodup) :
    IdsAmong after (ids ++ effect.drawn context store) ∧ after.DistinctIds := by
  obtain ⟨inserted, hinserted, horigin⟩ := hchanges.id_origin hkeyed
  rw [← hinserted] at hnodup ⊢
  obtain ⟨-, hnew, hdisjoint⟩ := List.nodup_append.1 hnodup
  refine ⟨fun ref row hrow => ?_, fun ref other row row' hrow hrow' hid => ?_⟩
  · rw [List.mem_append]
    rcases horigin ref row hrow with ⟨old, hold, hsame⟩ | hin
    · exact .inl (hsame ▸ hamong ref old hold)
    · exact .inr (List.mem_map.2 ⟨row, hin, rfl⟩)
  · -- A new identifier is none of the old ones, and belongs to one new row only.
    rcases horigin ref row hrow with ⟨old, hold, hsame⟩ | hin
    · rcases horigin other row' hrow' with ⟨old', hold', hsame'⟩ | hin'
      · exact hdistinct ref other old old' hold hold' (by rw [hsame, hsame', hid])
      · exact absurd (hsame.trans hid)
          (hdisjoint _ (hamong ref old hold) _ (List.mem_map.2 ⟨row', hin', rfl⟩))
    · rcases horigin other row' hrow' with ⟨old', hold', hsame'⟩ | hin'
      · exact absurd (hsame'.trans hid.symm)
          (hdisjoint _ (hamong other old' hold') _ (List.mem_map.2 ⟨row, hin, rfl⟩))
      · have hkeyed' := hchanges.keyed hkeyed
        rw [← hkeyed' ref row hrow, ← hkeyed' other row' hrow',
          List.inj_on_of_nodup_map hnew hin hin' hid]

/-- If the identifiers that a run draws are distinct, those of the rows are. -/
theorem distinctIds_run (calls : List Call) : (drawn calls).Nodup →
    IdsAmong (run calls).store (drawn calls) ∧ (run calls).store.DistinctIds := by
  refine run_induction (P := fun calls state => (drawn calls).Nodup →
    IdsAmong state.store (drawn calls) ∧ state.store.DistinctIds) ?_ ?_ ?_ calls
  · intro _
    refine ⟨fun ref row hrow => ?_, fun ref other row row' hrow => ?_⟩
    · simp at hrow
    · simp at hrow
  · intro calls call ih hnodup
    rw [drawn_append_singleton] at hnodup ⊢
    obtain ⟨hamong, hdistinct⟩ := ih (List.nodup_append.1 hnodup).1
    exact ⟨fun ref row hrow => List.mem_append_left _ (hamong ref row hrow), hdistinct⟩
  · intro calls call _ effect after ih hresult heffect hchanges hnodup
    have hdrawn : call.drawn (run calls).store = effect.drawn call.context (run calls).store := by
      simp only [Call.drawn, hresult, heffect]
    rw [drawn_append_singleton, hdrawn] at hnodup ⊢
    obtain ⟨hamong, hdistinct⟩ := ih (List.nodup_append.1 hnodup).1
    exact hchanges.distinctIds (sound_run calls).keyed hamong hdistinct hnodup

/-- **The store invariant.** After every run the rows are sound; they have distinct identifiers if
those that were drawn are distinct; and if the clock never goes back their times are in order. -/
theorem store_invariant_run (calls : List Call) :
    (run calls).store.Sound ∧ ((drawn calls).Nodup → (run calls).store.DistinctIds) ∧
      (ClockAdvances calls → (run calls).store.Timely) :=
  ⟨sound_run calls, fun hdrawn => (distinctIds_run calls hdrawn).2,
    fun hclock => (timely_run calls hclock).1⟩

theorem store_invariant_run_readdition :
    (drawn readdition).Nodup ∧ ClockAdvances readdition ∧ (run readdition).store.Sound ∧
      (run readdition).store.DistinctIds ∧ (run readdition).store.Timely := by
  have hdrawn : (drawn readdition).Nodup := by decide +kernel
  have hclock : ClockAdvances readdition := by decide +kernel
  obtain ⟨hsound, hids, htimely⟩ := store_invariant_run readdition
  exact ⟨hdrawn, hclock, hsound, hids hdrawn, htimely hclock⟩

end Service

end FieldAccess
