import FieldAccess.Proofs.Runs

/-!
# Decisions and the log

A decision depends on nothing but what was done before: the latest submission of the schema of each
field, and the grants to the field that no later submission has put an end to by leaving the field
out. The store is a summary of the log that answers exactly these two questions.

## Main definitions

* `Service.latestRecords?`, `Service.latestRecord?` – what the latest submission of a schema says.
* `Service.liveGrants` – the grants to a field that are still live, the latest first.
* `Service.Mirrors` – a store that answers as a log does.
* `Service.DeterminedBy` – the answer to a request for a decision that a log prescribes.

## Main statements

* `Service.mirrors_run` – the store after a run mirrors its log.
* `Service.decide_determined_by_log` – every decision is the one that the log prescribes.
-/

namespace FieldAccess

/-- The reference of a field in a decision. -/
def DecisionField.ref (field : DecisionField) : FieldRef := ⟨field.schemaId, field.fieldName⟩

/-- The owner has to consent to the access to a restricted field that the provider does not own. -/
def FieldRecord.NeedsConsent (record : FieldRecord) : Prop :=
  record.isOwner = false ∧ record.accessControl = .restricted

instance (record : FieldRecord) : Decidable record.NeedsConsent :=
  inferInstanceAs (Decidable (_ ∧ _))

namespace Service

namespace Effect

/-- The records of a submission of a schema. -/
def recordsOf? (schemaId : String) : Effect → Option (List FieldRecord)
  | submitted id records => if id = schemaId then some records else none
  | _ => none

/-- Whether an effect is a submission of the schema of a field that leaves the field out. -/
def omits (ref : FieldRef) : Effect → Bool
  | submitted id records =>
    id == ref.schemaId && !(records.map (·.fieldName)).contains ref.fieldName
  | _ => false

/-- The grant that an effect gives an application to a field. -/
def grantOf? (application : String) (ref : FieldRef) : Effect → Option Grant
  | granted app refs grant => if app = application ∧ ref ∈ refs then some grant else none
  | _ => none

end Effect

/-- The records of the latest submission of a schema. -/
def latestRecords? (log : List Effect) (schemaId : String) : Option (List FieldRecord) :=
  log.findSome? (Effect.recordsOf? schemaId)

/-- What the latest submission of its schema says about a field. -/
def latestRecord? (log : List Effect) (ref : FieldRef) : Option FieldRecord :=
  (latestRecords? log ref.schemaId).bind fun records =>
    records.find? fun record => record.fieldName == ref.fieldName

/-- The grants of an application to a field after which no submission has left the field out, the
latest first. -/
def liveGrants (log : List Effect) (application : String) (ref : FieldRef) : List Grant :=
  (log.takeWhile fun effect => !effect.omits ref).filterMap (Effect.grantOf? application ref)

/-- The outcome for a field that a log prescribes. -/
def prescribedOutcome (log : List Effect) (application : String) (now : Instant)
    (ref : FieldRef) : Outcome :=
  match (liveGrants log application ref).head? with
  | none => .unauthorized
  | some grant =>
    if grant.expiresAt < now then .expired
    else
      match latestRecord? log ref with
      | some record => if record.NeedsConsent then .consentRequired else .authorized
      | none => .authorized

/-- What a decision says about a field that the latest submission of its schema describes. -/
def prescribedField? (log : List Effect) (ref : FieldRef) : Option DecisionField :=
  (latestRecord? log ref).map fun record =>
    { fieldName := ref.fieldName
      schemaId := ref.schemaId
      displayName := record.displayName
      description := record.description
      owner := record.owner }

/-- The fields of an outcome, in the order of the request. -/
def prescribedFields (log : List Effect) (application : String) (now : Instant)
    (outcome : Outcome) (refs : List FieldRef) : List DecisionField :=
  (refs.filter fun ref => prescribedOutcome log application now ref == outcome).filterMap
    (prescribedField? log)

/-- The decision that a log prescribes. -/
def prescribedDecision (log : List Effect) (application : String) (now : Instant)
    (refs : List FieldRef) : Decision :=
  let fields (outcome : Outcome) := prescribedFields log application now outcome refs
  { appAuthorized := (fields .unauthorized).isEmpty
    unauthorizedFields := fields .unauthorized
    appAccessExpired := !(fields .expired).isEmpty
    expiredFields := fields .expired
    appRequiresOwnerConsent := !(fields .consentRequired).isEmpty
    consentRequiredFields := fields .consentRequired }

/-- The answer that a log prescribes to the question whether an application may access fields. -/
structure DeterminedBy (log : List Effect) (application : String) (now : Instant)
    (refs : List FieldRef) (result : Except PolicyError Decision) : Prop where
  succeeds_iff : (∃ decision, result = .ok decision) ↔
    ∀ ref ∈ refs, (latestRecord? log ref).isSome
  fails : ∀ ref,
    (FieldRef.distinct refs).find? (fun ref => (latestRecord? log ref).isNone) = some ref →
      result = .error (.notFound (.field ref))
  decision : ∀ decision, result = .ok decision →
    decision = prescribedDecision log application now (FieldRef.distinct refs)
  unauthorized : ∀ decision, result = .ok decision → ∀ ref ∈ refs,
    (ref ∈ decision.unauthorizedFields.map DecisionField.ref ↔
      liveGrants log application ref = [])
  expired : ∀ decision, result = .ok decision → ∀ ref ∈ refs,
    (ref ∈ decision.expiredFields.map DecisionField.ref ↔
      ∃ grant, (liveGrants log application ref).head? = some grant ∧ grant.expiresAt < now)
  consentRequired : ∀ decision, result = .ok decision → ∀ ref ∈ refs,
    (ref ∈ decision.consentRequiredFields.map DecisionField.ref ↔
      ∃ grant, (liveGrants log application ref).head? = some grant ∧ ¬ grant.expiresAt < now ∧
        ∃ record, latestRecord? log ref = some record ∧ record.NeedsConsent)

/-- A store that answers as a log does: a field is there as the latest submission of its schema
describes it, and an application is on its allow-list with the latest live grant. -/
structure Mirrors (store : Store) (log : List Effect) : Prop where
  keyed : store.Keyed
  records : ∀ ref : FieldRef, store[ref]?.map FieldPolicy.record = latestRecord? log ref
  grants : ∀ (ref : FieldRef) (application : String),
    (store[ref]?.bind fun row => row.allowList[application]?) =
      (liveGrants log application ref).head?

theorem mirrors_empty : Mirrors ∅ [] where
  keyed := Store.keyed_empty
  records ref := by simp [latestRecord?, latestRecords?]
  grants ref application := by simp [liveGrants]

section Steps

variable {store after : Store} {log : List Effect}

theorem latestRecord?_submitted (schemaId : String) (records : List FieldRecord)
    (log : List Effect) (ref : FieldRef) :
    latestRecord? (.submitted schemaId records :: log) ref =
      if schemaId = ref.schemaId then
        records.find? fun record => record.fieldName == ref.fieldName
      else latestRecord? log ref := by
  unfold latestRecord? latestRecords?
  rw [List.findSome?_cons, Effect.recordsOf?]
  by_cases hschema : schemaId = ref.schemaId
  · rw [if_pos hschema, if_pos hschema]
    rfl
  · rw [if_neg hschema, if_neg hschema]

@[simp] theorem latestRecord?_granted (application : String) (refs : List FieldRef) (grant : Grant)
    (log : List Effect) (ref : FieldRef) :
    latestRecord? (.granted application refs grant :: log) ref = latestRecord? log ref := rfl

theorem liveGrants_submitted (schemaId : String) (records : List FieldRecord) (log : List Effect)
    (application : String) (ref : FieldRef) :
    liveGrants (.submitted schemaId records :: log) application ref =
      if schemaId = ref.schemaId ∧ ref.fieldName ∉ records.map (·.fieldName) then []
      else liveGrants log application ref := by
  unfold liveGrants
  rw [List.takeWhile_cons]
  by_cases homits : schemaId = ref.schemaId ∧ ref.fieldName ∉ records.map (·.fieldName)
  · rw [if_pos homits, if_neg]
    · rfl
    · simpa [Effect.omits] using homits
  · rw [if_neg homits, if_pos]
    · rfl
    · simpa [Effect.omits, -not_and, not_and_or] using homits

theorem liveGrants_granted (app : String) (refs : List FieldRef) (grant : Grant)
    (log : List Effect) (application : String) (ref : FieldRef) :
    liveGrants (.granted app refs grant :: log) application ref =
      if app = application ∧ ref ∈ refs then grant :: liveGrants log application ref
      else liveGrants log application ref := by
  unfold liveGrants
  have hkeep : (!Effect.omits ref (.granted app refs grant)) = true := rfl
  rw [List.takeWhile_cons, if_pos hkeep, List.filterMap_cons, Effect.grantOf?]
  by_cases hgrant : app = application ∧ ref ∈ refs
  · rw [if_pos hgrant, if_pos hgrant]
  · rw [if_neg hgrant, if_neg hgrant]

/-- A record of a batch without repeated names is the one that its name finds. -/
theorem find?_fieldName {records : List FieldRecord} {record : FieldRecord}
    (hnodup : (records.map (·.fieldName)).Nodup) (hrecord : record ∈ records) :
    (records.find? fun r => r.fieldName == record.fieldName) = some record := by
  induction records with
  | nil => simp at hrecord
  | cons head rest ih =>
    rw [List.map_cons, List.nodup_cons] at hnodup
    rcases List.mem_cons.1 hrecord with rfl | hrest
    · simp
    · have hne : head.fieldName ≠ record.fieldName := fun h =>
        hnodup.1 (List.mem_map.2 ⟨record, hrest, h.symm⟩)
      simp [hne, ih hnodup.2 hrest]

/-- A submission is mirrored by the store that it leaves behind. -/
theorem Mirrors.submitted {schemaId : String} {records : List FieldRecord} {now : Instant}
    {inserted : List FieldPolicy} (h : Mirrors store log)
    (hnodup : (records.map (·.fieldName)).Nodup)
    (hreplaced : store.Replaced after schemaId records now inserted) :
    Mirrors after (.submitted schemaId records :: log) where
  keyed := hreplaced.keyed h.keyed
  records ref := by
    rw [latestRecord?_submitted]
    by_cases hschema : schemaId = ref.schemaId
    · subst hschema
      rw [if_pos rfl]
      by_cases hname : ref.fieldName ∈ records.map (·.fieldName)
      · obtain ⟨record, hrecord, hsame⟩ := List.mem_map.1 hname
        -- The row was continued or begun, and describes what the record does in both cases.
        obtain ⟨row, hrow, hdescribes, -⟩ := hreplaced.exists_row h.keyed hrecord
        rw [hsame] at hrow
        rw [hrow, ← hsame, find?_fieldName hnodup hrecord, Option.map_some, hdescribes]
      · rw [hreplaced.omitted _ hname, Option.map_none, eq_comm, List.find?_eq_none]
        intro record hrecord hsame
        exact hname (List.mem_map.2 ⟨record, hrecord, by simpa using hsame⟩)
    · rw [if_neg hschema, hreplaced.other ref (Ne.symm hschema), h.records]
  grants ref application := by
    rw [liveGrants_submitted]
    by_cases hschema : schemaId = ref.schemaId
    · subst hschema
      by_cases hname : ref.fieldName ∈ records.map (·.fieldName)
      · rw [if_neg fun homits => homits.2 hname]
        obtain ⟨record, hrecord, hsame⟩ := List.mem_map.1 hname
        obtain ⟨row, hrow, -, hallowed⟩ := hreplaced.exists_row h.keyed hrecord
        rw [hsame] at hrow hallowed
        rw [hrow, Option.bind_some, hallowed, h.grants]
      · -- The row is gone, and with it its grants: none of them is live behind this submission.
        rw [hreplaced.omitted _ hname, if_pos ⟨rfl, hname⟩]
        rfl
    · rw [if_neg fun homits => hschema homits.1, hreplaced.other ref (Ne.symm hschema), h.grants]

/-- A grant is mirrored by the store that it leaves behind. -/
theorem Mirrors.granted {application : String} {refs : List FieldRef} {grant : Grant}
    (h : Mirrors store log) (hkeyed : after.Keyed) (hmem : ∀ ref ∈ refs, ref ∈ store)
    (hafter : ∀ ref : FieldRef, after[ref]? =
      if ref ∈ refs then store[ref]?.map (·.grant application grant) else store[ref]?) :
    Mirrors after (.granted application refs grant :: log) where
  keyed := hkeyed
  records ref := by
    rw [latestRecord?_granted, ← h.records, hafter]
    split
    · rw [Option.map_map]
      rfl
    · rfl
  grants ref app := by
    rw [liveGrants_granted, hafter]
    by_cases href : ref ∈ refs
    · obtain ⟨row, hrow⟩ := Option.isSome_iff_exists.1
        (Std.ExtTreeMap.mem_iff_isSome_getElem?.1 (hmem ref href))
      have hlive := h.grants ref app
      rw [hrow, Option.bind_some] at hlive
      rw [if_pos href, hrow, Option.map_some, Option.bind_some, FieldPolicy.grant,
        Std.ExtTreeMap.getElem?_insert, hlive]
      by_cases happ : application = app
      · simp [happ, href]
      · simp [happ]
    · rw [if_neg href, if_neg fun hgrant => href hgrant.2, h.grants]

end Steps

/-- Every effect is mirrored by the store that it leaves behind. -/
theorem Mirrors.changed {context : Context} {store after : Store} {log : List Effect}
    {effect : Effect} (h : Mirrors store log) (hchanges : Changes context store effect after) :
    Mirrors after (effect :: log) := by
  cases hchanges with
  | submitted _ hok =>
    obtain ⟨hcheck, hreplaced⟩ := h.keyed.replaced_of_replaceSchema hok
    exact h.submitted (checkRecords_eq_ok_iff.1 hcheck).2 hreplaced
  | granted _ _ hok =>
    obtain ⟨hmem, hafter⟩ := Store.getElem?_of_grant hok
    refine h.granted (h.keyed.grant hok) (fun ref href => hmem ref (FieldRef.mem_distinct.2 href))
      fun ref => ?_
    rw [hafter]
    simp only [FieldRef.mem_distinct]
  | decided =>
    exact ⟨h.keyed, h.records, h.grants⟩

/-- **The store mirrors the log** after every run. -/
theorem mirrors_run (calls : List Call) : Mirrors (run calls).store (run calls).log :=
  run_induction (P := fun _ state => Mirrors state.store state.log) mirrors_empty
    (fun _ _ h => h) (fun _ _ _ _ _ h _ _ hchanges => h.changed hchanges) calls

section Decisions

variable {store : Store} {log : List Effect}

/-- The row of a field has the outcome that the mirrored log prescribes. -/
theorem Mirrors.outcome (h : Mirrors store log) {ref : FieldRef} {row : FieldPolicy}
    (hrow : store[ref]? = some row) (application : String) (now : Instant) :
    row.outcome application now = prescribedOutcome log application now ref := by
  have hlive := h.grants ref application
  have hrecord := h.records ref
  rw [hrow, Option.bind_some] at hlive
  rw [hrow, Option.map_some] at hrecord
  rw [FieldPolicy.outcome, prescribedOutcome, ← hlive, ← hrecord]
  cases row.allowList[application]? with
  | none => rfl
  | some grant =>
    simp only [Grant.isExpiredAt, decide_eq_true_eq, FieldPolicy.needsConsent,
      FieldRecord.NeedsConsent, FieldPolicy.record, Bool.and_eq_true, Bool.not_eq_true',
      beq_iff_eq]
    rfl

theorem Mirrors.prescribedField? (h : Mirrors store log) {ref : FieldRef} {row : FieldPolicy}
    (hrow : store[ref]? = some row) :
    Service.prescribedField? log ref = some row.decisionField := by
  have hrecord := h.records ref
  rw [hrow, Option.map_some] at hrecord
  rw [Service.prescribedField?, ← hrecord, ← h.keyed ref row hrow]
  rfl

/-- The fields of an outcome are those that the mirrored log prescribes. -/
theorem Mirrors.withOutcome (h : Mirrors store log) (application : String) (now : Instant)
    (outcome : Outcome) {refs : List FieldRef} (hall : ∀ ref ∈ refs, store[ref]?.isSome) :
    Decision.withOutcome application now outcome (refs.filterMap fun ref => store[ref]?) =
      prescribedFields log application now outcome refs := by
  induction refs with
  | nil => rfl
  | cons ref rest ih =>
    obtain ⟨row, hrow⟩ := Option.isSome_iff_exists.1 (hall ref (by simp))
    have hrest := ih fun r hr => hall r (by simp [hr])
    simp only [Decision.withOutcome, prescribedFields] at hrest ⊢
    rw [List.filterMap_cons, hrow]
    simp only [List.filter_cons, h.outcome hrow]
    split
    · rw [List.map_cons, hrest, List.filterMap_cons, h.prescribedField? hrow]
    · exact hrest

theorem Mirrors.evaluate (h : Mirrors store log) (application : String) (now : Instant)
    {refs : List FieldRef} (hall : ∀ ref ∈ refs, store[ref]?.isSome) :
    Decision.evaluate application (refs.filterMap fun ref => store[ref]?) now =
      prescribedDecision log application now refs := by
  simp only [Decision.evaluate, prescribedDecision, h.withOutcome application now _ hall]

/-- A field of a request is listed under its outcome and no other. -/
theorem mem_prescribedFields {application : String} {now : Instant} {outcome : Outcome}
    {refs : List FieldRef} {ref : FieldRef} (href : ref ∈ refs)
    (hrecord : (latestRecord? log ref).isSome) :
    ref ∈ (prescribedFields log application now outcome refs).map DecisionField.ref ↔
      prescribedOutcome log application now ref = outcome := by
  simp only [prescribedFields, List.mem_map, List.mem_filterMap, List.mem_filter, beq_iff_eq,
    Service.prescribedField?, Option.map_eq_some_iff]
  constructor
  · rintro ⟨_, ⟨other, ⟨-, houtcome⟩, _, -, rfl⟩, rfl⟩
    exact houtcome
  · intro houtcome
    obtain ⟨record, hrecord⟩ := Option.isSome_iff_exists.1 hrecord
    exact ⟨_, ⟨ref, ⟨href, houtcome⟩, record, hrecord, rfl⟩, rfl⟩

theorem prescribedOutcome_eq_unauthorized_iff {application : String} {now : Instant}
    {ref : FieldRef} :
    prescribedOutcome log application now ref = .unauthorized ↔
      liveGrants log application ref = [] := by
  unfold prescribedOutcome
  cases liveGrants log application ref with
  | nil => simp
  | cons grant older =>
    simp only [List.head?_cons, reduceCtorEq, iff_false]
    split
    · simp
    · split
      · split <;> simp
      · simp

theorem prescribedOutcome_eq_expired_iff {application : String} {now : Instant} {ref : FieldRef} :
    prescribedOutcome log application now ref = .expired ↔
      ∃ grant, (liveGrants log application ref).head? = some grant ∧ grant.expiresAt < now := by
  unfold prescribedOutcome
  cases (liveGrants log application ref).head? with
  | none => simp
  | some grant =>
    by_cases hexpired : grant.expiresAt < now
    · simp [hexpired]
    · simp only [hexpired, if_false, Option.some.injEq, exists_eq_left', iff_false]
      split
      · split <;> simp
      · simp

theorem prescribedOutcome_eq_consentRequired_iff {application : String} {now : Instant}
    {ref : FieldRef} :
    prescribedOutcome log application now ref = .consentRequired ↔
      ∃ grant, (liveGrants log application ref).head? = some grant ∧ ¬ grant.expiresAt < now ∧
        ∃ record, latestRecord? log ref = some record ∧ record.NeedsConsent := by
  unfold prescribedOutcome
  cases (liveGrants log application ref).head? with
  | none => simp
  | some grant =>
    by_cases hexpired : grant.expiresAt < now
    · simp [hexpired]
    · simp only [hexpired, if_false, Option.some.injEq, exists_eq_left', not_false_eq_true,
        true_and]
      cases latestRecord? log ref with
      | none => simp
      | some record =>
        by_cases hconsent : record.NeedsConsent
        · simp [hconsent]
        · simp [hconsent]

/-- The result of a decision whose arguments are in order, while the store works. -/
theorem decide_result {context : Context} {request : DecideAccess}
    (hfault : context.storeFault = none)
    (happlication : Text.isBlankText request.applicationId = false)
    (hrefs : ∀ ref ∈ request.requiredFields, Text.isBlankText ref.schemaId = false ∧
      Text.isBlankText ref.fieldName = false) :
    (decide context store request).result =
      ((store.getAll (FieldRef.distinct request.requiredFields)).mapError PolicyError.ofStore).map
        fun rows => Decision.evaluate request.applicationId rows context.now := by
  have hdistinct : requireRefs (FieldRef.distinct request.requiredFields) "requiredFields" =
      .ok () :=
    requireRefsFrom_eq_ok_iff.2 fun ref href => hrefs ref (FieldRef.mem_distinct.1 href)
  simp only [result_decide, decideResult, requireNonBlank_eq_ok_iff.2 happlication, hdistinct,
    Context.access, hfault]
  cases store.getAll (FieldRef.distinct request.requiredFields) with
  | error error => rfl
  | ok rows => rfl

/-- If one of the fields is not described, not all of them are. -/
theorem not_forall_isSome_latestRecord? {refs : List FieldRef} {ref : FieldRef}
    (hfirst : (FieldRef.distinct refs).find? (fun ref => (latestRecord? log ref).isNone) =
      some ref) : ¬ ∀ ref ∈ refs, (latestRecord? log ref).isSome := by
  intro hall
  have habsent := List.find?_some hfirst
  have hpresent := hall ref (FieldRef.mem_distinct.1 (List.mem_of_find?_eq_some hfirst))
  rw [Option.isSome_iff_ne_none] at hpresent
  exact hpresent (Option.isNone_iff_eq_none.1 habsent)

/-- The prescribed decision is determined by the log, if all fields are described. -/
theorem determinedBy_prescribedDecision {application : String} {now : Instant}
    {refs : List FieldRef} (hall : ∀ ref ∈ refs, (latestRecord? log ref).isSome) :
    DeterminedBy log application now refs
      (.ok (prescribedDecision log application now (FieldRef.distinct refs))) where
  succeeds_iff := ⟨fun _ => hall, fun _ => ⟨_, rfl⟩⟩
  fails _ hfirst := absurd hall (not_forall_isSome_latestRecord? hfirst)
  decision _ h := (Except.ok.inj h).symm
  unauthorized decision h ref href := by
    obtain rfl := Except.ok.inj h
    rw [← @prescribedOutcome_eq_unauthorized_iff log application now ref]
    exact mem_prescribedFields (FieldRef.mem_distinct.2 href) (hall ref href)
  expired decision h ref href := by
    obtain rfl := Except.ok.inj h
    rw [← prescribedOutcome_eq_expired_iff]
    exact mem_prescribedFields (FieldRef.mem_distinct.2 href) (hall ref href)
  consentRequired decision h ref href := by
    obtain rfl := Except.ok.inj h
    rw [← prescribedOutcome_eq_consentRequired_iff]
    exact mem_prescribedFields (FieldRef.mem_distinct.2 href) (hall ref href)

/-- The error of the first field that is not described is determined by the log. -/
theorem determinedBy_notFound {application : String} {now : Instant} {refs : List FieldRef}
    {ref : FieldRef}
    (hfirst : (FieldRef.distinct refs).find? (fun ref => (latestRecord? log ref).isNone) =
      some ref) :
    DeterminedBy log application now refs (.error (.notFound (.field ref))) where
  succeeds_iff := by
    constructor
    · rintro ⟨_, h⟩
      cases h
    · intro hall
      exact absurd hall (not_forall_isSome_latestRecord? hfirst)
  fails other hother := by
    rw [hfirst] at hother
    rw [Option.some.inj hother]
  decision _ h := by cases h
  unauthorized _ h := by cases h
  expired _ h := by cases h
  consentRequired _ h := by cases h

end Decisions

/-- **Decisions are determined by the log.** After every run, a request for a decision whose
arguments are in order succeeds exactly if the latest submissions describe all fields that it names,
fails at the first one that they do not describe, and otherwise puts every field where the live
grants and the latest submissions say. -/
theorem decide_determined_by_log (calls : List Call) (context : Context) (request : DecideAccess)
    (hfault : context.storeFault = none)
    (happlication : Text.isBlankText request.applicationId = false)
    (hrefs : ∀ ref ∈ request.requiredFields, Text.isBlankText ref.schemaId = false ∧
      Text.isBlankText ref.fieldName = false) :
    DeterminedBy (run calls).log request.applicationId context.now request.requiredFields
      (decide context (run calls).store request).result := by
  have hmirrors := mirrors_run calls
  have hresult := @decide_result (run calls).store context request hfault happlication hrefs
  generalize (run calls).store = store at hmirrors hresult
  generalize (run calls).log = log at hmirrors
  have hsame : ∀ ref : FieldRef, store[ref]?.isNone = (latestRecord? log ref).isNone := by
    intro ref
    rw [← hmirrors.records, Option.isNone_map]
  rw [hresult]
  cases hfirst : (FieldRef.distinct request.requiredFields).find? fun ref =>
      (latestRecord? log ref).isNone with
  | none =>
    have hall : ∀ ref ∈ FieldRef.distinct request.requiredFields, store[ref]?.isSome := by
      intro ref href
      have := List.find?_eq_none.1 hfirst ref href
      rw [← hsame] at this
      simpa [Option.isSome_iff_ne_none] using this
    rw [Store.getAll_eq_ok hall]
    simp only [Except.mapError, Except.map]
    rw [hmirrors.evaluate _ _ hall]
    refine determinedBy_prescribedDecision fun ref href => ?_
    have := hall ref (FieldRef.mem_distinct.2 href)
    rwa [← Option.isSome_map, hmirrors.records] at this
  | some ref =>
    have hfirst' : (FieldRef.distinct request.requiredFields).find?
        (fun ref => store[ref]?.isNone) = some ref := by
      simpa only [hsame] using hfirst
    rw [Store.getAll_eq_error hfirst']
    exact determinedBy_notFound hfirst

/-- A grant does not come back with a field that was left out and described again. -/
theorem decide_determined_by_log_readdition :
    ∃ decision,
      (decide (onDay 4) (run readdition).store
        ⟨"portal", [⟨"people", "name"⟩, ⟨"people", "photo"⟩, ⟨"people", "name"⟩]⟩).result =
          .ok decision ∧
        decision.unauthorizedFields.map DecisionField.ref = [⟨"people", "name"⟩] ∧
        decision.consentRequiredFields.map DecisionField.ref = [⟨"people", "photo"⟩] := by
  have h := decide_determined_by_log readdition (onDay 4)
    ⟨"portal", [⟨"people", "name"⟩, ⟨"people", "photo"⟩, ⟨"people", "name"⟩]⟩ rfl (by decide)
    (by decide)
  obtain ⟨decision, hdecision⟩ := h.succeeds_iff.2 (by decide +kernel)
  refine ⟨decision, hdecision, ?_⟩
  rw [h.decision decision hdecision]
  decide +kernel

end Service

end FieldAccess
