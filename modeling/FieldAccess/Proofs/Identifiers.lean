import FieldAccess.Proofs.Accesses

/-!
# Identifiers of rows

The identifiers of new rows are drawn, so that the same calls, made twice, leave rows with different
identifiers behind. Nothing else depends on the identifiers: what is left of stores and replies
without them is determined by the requests and the clock.

## Main definitions

* `FieldPolicy.anonymous`, `Store.anonymous`, `Service.Reply.anonymous` – what is left without
  identifiers.
* `Service.Call.Alike` – calls that differ in nothing but their traces and the identifiers that they
  draw.

## Main statements

* `Store.replaceSchema_anonymous` – replacements do not depend on identifiers.
* `Service.Call.Alike.answer_anonymous` – alike calls on stores that differ in identifiers only.
-/

namespace FieldAccess

section Maps

variable {α β : Type} {cmp : α → α → Ordering} [Std.TransCmp cmp] [Std.LawfulEqCmp cmp]

/-- A function of the values may be applied before or after an entry. -/
theorem insert_map (f : β → β) (map : Std.ExtTreeMap α β cmp) (key : α) (value : β) :
    (map.map fun _ => f).insert key (f value) = (map.insert key value).map fun _ => f := by
  refine Std.ExtTreeMap.ext_getElem? fun k => ?_
  simp only [Std.ExtTreeMap.getElem?_map, Std.ExtTreeMap.getElem?_insert]
  split <;> rfl

/-- A function of the values that keeps their keys may be applied before or after they are all
entered. -/
theorem foldl_insert_map (key : β → α) (f : β → β) (hkey : ∀ b, key (f b) = key b)
    (map : Std.ExtTreeMap α β cmp) (rows : List β) :
    (rows.map f).foldl (fun map row => map.insert (key row) row) (map.map fun _ => f) =
      (rows.foldl (fun map row => map.insert (key row) row) map).map fun _ => f := by
  induction rows generalizing map with
  | nil => rfl
  | cons row rest ih =>
    rw [List.map_cons, List.foldl_cons, List.foldl_cons, hkey, insert_map, ih]

end Maps

namespace FieldPolicy

/-- The row without its identifier. -/
def anonymous (row : FieldPolicy) : FieldPolicy := { row with id := default }

@[simp] theorem ref_anonymous (row : FieldPolicy) : row.anonymous.ref = row.ref := rfl

@[simp] theorem agrees_anonymous (row : FieldPolicy) (record : FieldRecord) :
    row.anonymous.agrees record = row.agrees record := rfl

theorem anonymous_submit (row : FieldPolicy) (record : FieldRecord) (now : Instant) :
    (row.submit record now).anonymous = row.anonymous.submit record now := by
  unfold submit
  split
  · rename_i hagrees
    rw [if_pos (by simpa using hagrees)]
  · rename_i hagrees
    rw [if_neg (by simpa using hagrees)]
    rfl

end FieldPolicy

namespace Replacement

/-- The replacement without identifiers. -/
def anonymous (plan : Replacement) : Replacement where
  kept := plan.kept.map (Prod.map id FieldPolicy.anonymous)
  deleted := plan.deleted.map FieldPolicy.anonymous

theorem rows_anonymous (plan : Replacement) :
    plan.anonymous.rows = plan.rows.map FieldPolicy.anonymous := by
  simp [rows, anonymous, Function.comp_def]

theorem storedOf_anonymous (schemaId : String) (existing : List FieldPolicy) :
    storedOf schemaId (existing.map FieldPolicy.anonymous) =
      (storedOf schemaId existing).map fun _ => FieldPolicy.anonymous := by
  have hfilter : (existing.map FieldPolicy.anonymous).filter (·.schemaId == schemaId) =
      (existing.filter (·.schemaId == schemaId)).map FieldPolicy.anonymous := by
    rw [List.filter_map]
    rfl
  rw [storedOf, storedOf, byName, byName, hfilter]
  exact foldl_insert_map FieldPolicy.fieldName FieldPolicy.anonymous (fun _ => rfl)
    (∅ : Std.ExtTreeMap String FieldPolicy) _

/-- The fates of records do not depend on identifiers, neither on stored nor on supplied ones. -/
theorem fates_anonymous (schemaId : String) (stored : Std.ExtTreeMap String FieldPolicy)
    (now : Instant) (fresh fresh' : Nat → Uuid) (records : List FieldRecord) :
    (fates schemaId (stored.map fun _ => FieldPolicy.anonymous) now fresh' records).map
        (Prod.map id FieldPolicy.anonymous) =
      (fates schemaId stored now fresh records).map (Prod.map id FieldPolicy.anonymous) := by
  induction records generalizing fresh fresh' with
  | nil => rfl
  | cons record rest ih =>
    simp only [fates, Std.ExtTreeMap.getElem?_map]
    cases stored[record.fieldName]? with
    | none =>
      simp only [Option.map_none, List.map_cons, ih (fun n => fresh (n + 1))]
      rfl
    | some row =>
      simp only [Option.map_some, List.map_cons, ih fresh, Prod.map_apply,
        FieldPolicy.anonymous_submit]
      rfl

theorem ofRecords_anonymous (fresh fresh' : Nat → Uuid) (schemaId : String)
    (existing : List FieldPolicy) (records : List FieldRecord) (now : Instant) :
    (ofRecords fresh' schemaId (existing.map FieldPolicy.anonymous) records now).anonymous =
      (ofRecords fresh schemaId existing records now).anonymous := by
  simp only [ofRecords, anonymous, storedOf_anonymous, Std.ExtTreeMap.toList_map, List.filter_map,
    List.map_map]
  rw [fates_anonymous schemaId _ now fresh fresh']
  rfl

end Replacement

namespace Store

/-- The store without identifiers. -/
def anonymous (store : Store) : Store := store.map fun _ => FieldPolicy.anonymous

theorem anonymous_anonymous (store : Store) : store.anonymous.anonymous = store.anonymous := by
  rw [anonymous, anonymous, Std.ExtTreeMap.map_map]
  rfl

theorem getElem?_anonymous (store : Store) (ref : FieldRef) :
    store.anonymous[ref]? = store[ref]?.map FieldPolicy.anonymous :=
  Std.ExtTreeMap.getElem?_map

theorem contains_anonymous (store : Store) (ref : FieldRef) :
    store.anonymous.contains ref = store.contains ref :=
  Std.ExtTreeMap.contains_map

theorem ofSchema_anonymous (store : Store) (schemaId : String) :
    store.anonymous.ofSchema schemaId = (store.ofSchema schemaId).map FieldPolicy.anonymous := by
  simp only [ofSchema, anonymous, Std.ExtTreeMap.toList_map, List.map_map, List.filter_map]
  rfl

theorem insertRows_anonymous (store : Store) (rows : List FieldPolicy) :
    store.anonymous.insertRows (rows.map FieldPolicy.anonymous) =
      (store.insertRows rows).anonymous :=
  foldl_insert_map FieldPolicy.ref FieldPolicy.anonymous FieldPolicy.ref_anonymous store rows

theorem eraseRows_anonymous (store : Store) (rows : List FieldPolicy) :
    store.anonymous.eraseRows (rows.map FieldPolicy.anonymous) =
      (store.eraseRows rows).anonymous := by
  refine Std.ExtTreeMap.ext_getElem? fun ref => ?_
  rw [getElem?_eraseRows, getElem?_anonymous, getElem?_anonymous, getElem?_eraseRows, List.map_map]
  change (if ref ∈ rows.map FieldPolicy.ref then _ else _) = _
  split <;> rfl

/-- **Replacements do not depend on identifiers**, neither on stored nor on supplied ones. -/
theorem replaceSchema_anonymous (store : Store) (fresh fresh' : Nat → Uuid) (now : Instant)
    (schemaId : String) (records : List FieldRecord) :
    (store.anonymous.replaceSchema fresh' now schemaId records).map
        (Prod.map (List.map FieldPolicy.anonymous) anonymous) =
      (store.replaceSchema fresh now schemaId records).map
        (Prod.map (List.map FieldPolicy.anonymous) anonymous) := by
  unfold replaceSchema
  cases hcheck : checkRecords records with
  | error error => rw [Replacement.plan_eq_error _ hcheck, Replacement.plan_eq_error _ hcheck]
  | ok _ =>
    rw [Replacement.plan_eq_ok _ hcheck, Replacement.plan_eq_ok _ hcheck, ofSchema_anonymous]
    -- Without identifiers both plans are one, and the store is changed by nothing but the plan.
    have hplan := Replacement.ofRecords_anonymous fresh fresh' schemaId (store.ofSchema schemaId)
      records now
    generalize Replacement.ofRecords fresh' _ _ _ _ = plan' at hplan ⊢
    generalize Replacement.ofRecords fresh _ _ _ _ = plan at hplan ⊢
    have hrows : plan'.rows.map FieldPolicy.anonymous = plan.rows.map FieldPolicy.anonymous := by
      rw [← Replacement.rows_anonymous, hplan, Replacement.rows_anonymous]
    have hdeleted : plan'.deleted.map FieldPolicy.anonymous =
        plan.deleted.map FieldPolicy.anonymous := congrArg Replacement.deleted hplan
    simp only [Except.map, Prod.map_apply, ← insertRows_anonymous, ← eraseRows_anonymous, hrows,
      hdeleted, anonymous_anonymous]

theorem grantEach_anonymous (application : String) (entry : Grant) (store : Store)
    (refs : List FieldRef) :
    grantEach application entry store.anonymous refs =
      Prod.map (List.map FieldPolicy.anonymous) anonymous
        (grantEach application entry store refs) := by
  induction refs generalizing store with
  | nil => rfl
  | cons ref rest ih =>
    rw [grantEach, grantEach, getElem?_anonymous]
    cases store[ref]? with
    | none => exact ih store
    | some row =>
      have hinsert : store.anonymous.insert ref (row.anonymous.grant application entry) =
          anonymous (store.insert ref (row.grant application entry)) :=
        insert_map FieldPolicy.anonymous store ref (row.grant application entry)
      simp only [Option.map_some, hinsert, ih]
      rfl

/-- Grants do not depend on identifiers. -/
theorem grant_anonymous (store : Store) (application : String) (refs : List FieldRef)
    (entry : Grant) :
    store.anonymous.grant application refs entry =
      (store.grant application refs entry).map
        (Prod.map (List.map FieldPolicy.anonymous) anonymous) := by
  simp only [grant, contains_anonymous, grantEach_anonymous]
  split <;> rfl

/-- What is looked up does not depend on identifiers. -/
theorem getAll_anonymous (store : Store) (refs : List FieldRef) :
    store.anonymous.getAll refs = (store.getAll refs).map (List.map FieldPolicy.anonymous) := by
  induction refs with
  | nil => rfl
  | cons ref rest ih =>
    rw [getAll, getAll, ih, get, get, getElem?_anonymous]
    cases store[ref]? with
    | none => rfl
    | some row => cases store.getAll rest <;> rfl

end Store

theorem Decision.evaluate_anonymous (application : String) (rows : List FieldPolicy)
    (now : Instant) :
    evaluate application (rows.map FieldPolicy.anonymous) now =
      evaluate application rows now := by
  have hwithOutcome (outcome : Outcome) :
      withOutcome application now outcome (rows.map FieldPolicy.anonymous) =
        withOutcome application now outcome rows := by
    simp only [withOutcome, List.filter_map, List.map_map]
    rfl
  simp only [evaluate, hwithOutcome]

namespace Service

/-- The reply without the identifiers of its rows. -/
def Reply.anonymous : Reply → Reply
  | registered schema =>
    registered { schema with records := schema.records.map FieldPolicy.anonymous }
  | replaced rows => replaced (rows.map FieldPolicy.anonymous)
  | granted fields => granted fields
  | decided decision => decided decision

theorem anonymous_submissionReply (rows : List FieldPolicy)
    (conversion : Option Schema.Conversion) :
    (submissionReply rows conversion).anonymous =
      submissionReply (rows.map FieldPolicy.anonymous) conversion := by
  cases conversion <;> rfl

/-- Calls that differ in nothing but their traces and the identifiers that they draw. -/
structure Call.Alike (call call' : Call) : Prop where
  request : call.request = call'.request
  now : call.context.now = call'.context.now
  storeFault : call.context.storeFault = call'.context.storeFault

/-- An access to the store without its identifiers comes to what the access to the store comes to,
whichever identifiers are drawn. -/
theorem Access.run_anonymous {context context' : Context} (hnow : context.now = context'.now)
    (store : Store) (access : Access) :
    (access.run context' store.anonymous).map (Prod.map Reply.anonymous Store.anonymous) =
      (access.run context store).map (Prod.map Reply.anonymous Store.anonymous) := by
  cases access with
  | submit schemaId records conversion =>
    have hreply (reply : List FieldPolicy × Store → Reply × Store)
        (hforget : ∀ replaced, Prod.map Reply.anonymous Store.anonymous (reply replaced) =
          reply (Prod.map (List.map FieldPolicy.anonymous) Store.anonymous replaced))
        (result : Except StoreError (List FieldPolicy × Store)) :
        (result.map reply).map (Prod.map Reply.anonymous Store.anonymous) =
          (result.map (Prod.map (List.map FieldPolicy.anonymous) Store.anonymous)).map reply := by
      cases result with
      | error error => rfl
      | ok replaced => exact congrArg Except.ok (hforget replaced)
    rw [run, run, hreply, hreply, hnow, store.replaceSchema_anonymous context.fresh] <;>
      exact fun replaced => Prod.ext (anonymous_submissionReply _ _) rfl
  | grant application refs entry =>
    simp only [run, Store.grant_anonymous]
    cases store.grant application refs entry with
    | error error => rfl
    | ok granted =>
      simp only [Except.map, Prod.map, Store.anonymous_anonymous, List.map_map]
      rfl
  | look application refs =>
    simp only [run, Store.getAll_anonymous, hnow]
    cases store.getAll refs with
    | error error => rfl
    | ok rows =>
      simp only [Except.map, Decision.evaluate_anonymous, Prod.map_apply,
        Store.anonymous_anonymous]

theorem Call.Alike.outcome_anonymous {call call' : Call} (halike : call.Alike call')
    {store store' : Store} (hstore : store.anonymous = store'.anonymous) :
    (call.outcome store).map (Prod.map Reply.anonymous Store.anonymous) =
      (call'.outcome store').map (Prod.map Reply.anonymous Store.anonymous) := by
  rw [outcome, outcome, halike.request, halike.now]
  cases call'.request.access call'.context.now with
  | error error => rfl
  | ok access =>
    have hrun : Prod.map Reply.anonymous Store.anonymous <$> access.run call.context store =
        Prod.map Reply.anonymous Store.anonymous <$> access.run call'.context store' := by
      -- Both accesses are compared with one to the store without identifiers.
      refine (Access.run_anonymous rfl store access).symm.trans ?_
      rw [hstore]
      exact Access.run_anonymous halike.now.symm store' access
    change _ <$> call.context.access _ = _ <$> call'.context.access _
    rw [← Context.access_map, ← Context.access_map, hrun, Context.access, Context.access,
      halike.storeFault]

/-- **Nothing but identifiers depends on identifiers.** Alike calls on stores that differ in the
identifiers of their rows only have results, and leave stores, that differ in identifiers only. -/
theorem Call.Alike.answer_anonymous {call call' : Call} (halike : call.Alike call')
    {store store' : Store} (hstore : store.anonymous = store'.anonymous) :
    (call.answer store).result.map Reply.anonymous =
        (call'.answer store').result.map Reply.anonymous ∧
      (call.answer store).store.anonymous = (call'.answer store').store.anonymous := by
  have houtcome := halike.outcome_anonymous hstore
  rw [(call.answer_eq_outcome store).1, (call.answer_eq_outcome store).2,
    (call'.answer_eq_outcome store').1, (call'.answer_eq_outcome store').2]
  cases hleft : call.outcome store with
  | error error =>
    cases hright : call'.outcome store' with
    | error error' =>
      rw [hleft, hright] at houtcome
      obtain rfl := Except.error.inj houtcome
      exact ⟨rfl, hstore⟩
    | ok outcome' =>
      rw [hleft, hright] at houtcome
      cases houtcome
  | ok outcome =>
    cases hright : call'.outcome store' with
    | error error' =>
      rw [hleft, hright] at houtcome
      cases houtcome
    | ok outcome' =>
      rw [hleft, hright] at houtcome
      obtain ⟨hreply, hafter⟩ := Prod.mk.inj (Except.ok.inj houtcome)
      exact ⟨congrArg Except.ok hreply, hafter⟩

end Service

end FieldAccess
