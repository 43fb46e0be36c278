import FieldAccess.Proofs.Runs

/-!
# Grants to a batch of fields

A grant names fields of any schemas, some of them perhaps more than once. The fields are looked for
before any row is changed, so that an absent one stops the whole batch. Otherwise the rows are
changed one after another; a row that is named again is granted the same access again, which changes
nothing, so every returned row is the one that is stored in the end.

A grant that fails returns no store, and so could not tell of rows that it had changed before. The
same steps on a store in place could; they leave the former store behind when they fail.

## Main definitions

* `FieldPolicy.GrantedFrom` – what a grant changes of a row, and what it leaves alone.
* `Store.leftBy` – the store that a write leaves behind.
* `Store.grantInPlace` – a batch as steps that change the store one after another.

## Main statements

* `Store.run_grantInPlace` – a batch in place leaves the store that a grant returns, or the old one.
* `Store.forall₂_grantEach` – the returned rows are those stored at the end of the batch.
* `Store.grant_of_first_absent` – a batch fails at the first of its fields that is absent.
* `Store.grant_changes_listed_rows` – a batch changes the rows it names and nothing else, or
  nothing.
-/

namespace FieldAccess

/-- A row in which an application was granted access: its entry is the grant, the row was updated
with the grant, and the entries of other applications and all other parts are those of `old`. -/
structure FieldPolicy.GrantedFrom (application : String) (entry : Grant) (old row : FieldPolicy) :
    Prop where
  entered : row.allowList[application]? = some entry
  others : ∀ other : String, other ≠ application → row.allowList[other]? = old.allowList[other]?
  updatedAt : row.updatedAt = entry.updatedAt
  rest : { row with allowList := old.allowList, updatedAt := old.updatedAt } = old

theorem FieldPolicy.grantedFrom_grant (row : FieldPolicy) (application : String) (entry : Grant) :
    GrantedFrom application entry row (row.grant application entry) where
  entered := by simp [FieldPolicy.grant]
  others := by
    intro other hne
    have hne' : ¬application = other := fun h => hne h.symm
    simp [FieldPolicy.grant, Std.ExtTreeMap.getElem?_insert, hne']
  updatedAt := rfl
  rest := rfl

namespace Store

variable {store : Store} {application : String} {refs : List FieldRef} {entry : Grant}

/-- The store that a write leaves behind: the new one, or the former one if the write fails. -/
def leftBy {ε α : Type} (store : Store) : Except ε (α × Store) → Store
  | .ok (_, after) => after
  | .error _ => store

/-- Grants an application access to a field in place. Without the field nothing is changed. -/
def grantRow (application : String) (entry : Grant) (ref : FieldRef) :
    StateM Store (Option FieldPolicy) := do
  match (← getThe Store)[ref]? with
  | none => return none
  | some row =>
    let row := row.grant application entry
    modify (·.insert ref row)
    return some row

/-- A batch in place: what it has changed by the time it fails stays changed. -/
def grantInPlace (application : String) (refs : List FieldRef) (entry : Grant) :
    StateM Store (Except StoreError (List FieldPolicy)) := do
  let store ← getThe Store
  match refs.find? fun ref => !store.contains ref with
  | some ref => return .error (missing ref)
  | none => return .ok (← refs.filterMapM (grantRow application entry))

theorem run_grantRow_of_none {ref : FieldRef} (hrow : store[ref]? = none) :
    (grantRow application entry ref).run store = (none, store) := by
  simp only [grantRow, monadStateOf_get_eq_get, StateT.run_bind, StateT.run_get, pure_bind, hrow]
  rfl

theorem run_grantRow_of_some {ref : FieldRef} {row : FieldPolicy} (hrow : store[ref]? = some row) :
    (grantRow application entry ref).run store =
      (some (row.grant application entry), store.insert ref (row.grant application entry)) := by
  simp only [grantRow, monadStateOf_get_eq_get, StateT.run_bind, StateT.run_get, pure_bind, hrow]
  rfl

theorem run_filterMapM_grantRow :
    (refs.filterMapM (grantRow application entry)).run store =
      grantEach application entry store refs := by
  induction refs generalizing store with
  | nil => rfl
  | cons head rest ih =>
    rw [List.filterMapM_cons, StateT.run_bind]
    cases hrow : store[head]? with
    | none =>
      rw [run_grantRow_of_none hrow]
      simp only [grantEach, hrow]
      exact ih
    | some row =>
      rw [run_grantRow_of_some hrow]
      simp only [grantEach, hrow, ← ih]
      rfl

/-- A batch in place fails, if at all, before it changes anything. -/
theorem run_grantInPlace :
    (grantInPlace application refs entry).run store =
      ((store.grant application refs entry).map (·.1),
        store.leftBy (store.grant application refs entry)) := by
  cases hfind : refs.find? fun ref => !store.contains ref with
  | none =>
    have hgrant : store.grant application refs entry =
        .ok (grantEach application entry store refs) := by
      simp only [grant, hfind]
    rw [hgrant, leftBy, ← run_filterMapM_grantRow]
    simp only [grantInPlace, monadStateOf_get_eq_get, StateT.run_bind, StateT.run_get, pure_bind,
      hfind]
    rfl
  | some ref =>
    have hgrant : store.grant application refs entry = .error (missing ref) := by
      simp only [grant, hfind]
    rw [hgrant, leftBy]
    simp only [grantInPlace, monadStateOf_get_eq_get, StateT.run_bind, StateT.run_get, pure_bind,
      hfind]
    rfl

/-- The rows that a batch returns are those that its fields have at the end. -/
theorem forall₂_grantEach (hall : ∀ ref ∈ refs, ref ∈ store) :
    List.Forall₂ (fun ref row => (grantEach application entry store refs).2[ref]? = some row) refs
      (grantEach application entry store refs).1 := by
  induction refs generalizing store with
  | nil => exact .nil
  | cons head rest ih =>
    obtain ⟨row, hrow⟩ := Option.isSome_iff_exists.1
      (Std.ExtTreeMap.mem_iff_isSome_getElem?.1 (hall head (by simp)))
    have hrest : ∀ ref ∈ rest, ref ∈ store.insert head (row.grant application entry) := by
      intro ref href
      rw [Std.ExtTreeMap.mem_insert]
      exact .inr (hall ref (by simp [href]))
    simp only [grantEach, hrow]
    refine .cons ?_ (ih hrest)
    -- If the field is named again, its row is granted the same access once more.
    rw [getElem?_grantEach, Std.ExtTreeMap.getElem?_insert_self]
    by_cases hagain : head ∈ rest
    · rw [if_pos hagain, Option.map_some, FieldPolicy.grant_grant]
    · rw [if_neg hagain]

/-- A batch fails at the first of its fields that is absent. -/
theorem grant_of_first_absent {before rest : List FieldRef} {ref : FieldRef}
    (hbefore : ∀ other ∈ before, other ∈ store) (habsent : ref ∉ store) :
    store.grant application (before ++ ref :: rest) entry = .error (missing ref) := by
  have hfind : (before ++ ref :: rest).find? (fun ref => !store.contains ref) = some ref := by
    rw [List.find?_eq_some_iff_append]
    refine ⟨not_contains_iff.2 habsent, before, rest, rfl, fun other hother => ?_⟩
    simpa using hbefore other hother
  rw [grant, hfind]

/-- If not all fields of a batch are there, one of them is the first that is absent. -/
theorem exists_first_absent (habsent : ∃ ref ∈ refs, ref ∉ store) :
    ∃ before ref rest, refs = before ++ ref :: rest ∧ (∀ other ∈ before, other ∈ store) ∧
      ref ∉ store := by
  cases hfind : refs.find? (fun ref => !store.contains ref) with
  | none =>
    obtain ⟨ref, href, hnot⟩ := habsent
    exact absurd (find?_absent_eq_none_iff.1 hfind ref href) hnot
  | some ref =>
    obtain ⟨hnot, before, rest, rfl, hbefore⟩ := List.find?_eq_some_iff_append.1 hfind
    refine ⟨before, ref, rest, rfl, fun other hother => ?_, not_contains_iff.1 hnot⟩
    simpa using hbefore other hother

theorem leftBy_grant_of_absent (habsent : ∃ ref ∈ refs, ref ∉ store) :
    store.leftBy (store.grant application refs entry) = store := by
  obtain ⟨before, ref, rest, rfl, hbefore, hnot⟩ := exists_first_absent habsent
  rw [grant_of_first_absent hbefore hnot, leftBy]

theorem leftBy_grant_of_forall_mem (hall : ∀ ref ∈ refs, ref ∈ store) :
    store.leftBy (store.grant application refs entry) =
      (grantEach application entry store refs).2 := by
  rw [grant_eq_ok_iff.2 ⟨hall, rfl⟩, leftBy]

/-- What a reference gives after a batch, whether it was carried out or not. -/
theorem getElem?_leftBy_grant (ref : FieldRef) :
    (store.leftBy (store.grant application refs entry))[ref]? = store[ref]? ∨
      ref ∈ refs ∧ (store.leftBy (store.grant application refs entry))[ref]? =
        store[ref]?.map (·.grant application entry) := by
  by_cases hall : ∀ ref ∈ refs, ref ∈ store
  · rw [leftBy_grant_of_forall_mem hall, getElem?_grantEach]
    by_cases href : ref ∈ refs
    · rw [if_pos href]
      exact .inr ⟨href, rfl⟩
    · rw [if_neg href]
      exact .inl rfl
  · rw [leftBy_grant_of_absent (by simpa using hall)]
    exact .inl rfl

/-- **Batches.** If a field of a batch is absent, the grant fails for the first such field and the
store is as it was. Otherwise it returns a row for each field named, which is the row stored
afterwards, and every such row has the grant and is the former row in everything else. In either
case the rows of other fields stay as they are, and no row comes or goes. A batch in place gives the
same, and so leaves no half of a failed batch behind. -/
theorem grant_changes_listed_rows (store : Store) (application : String) (refs : List FieldRef)
    (entry : Grant) :
    let outcome := store.grant application refs entry
    let after := store.leftBy outcome
    (grantInPlace application refs entry).run store = (outcome.map (·.1), after) ∧
    ((∃ ref ∈ refs, ref ∉ store) → ∃ before ref rest, refs = before ++ ref :: rest ∧
      (∀ other ∈ before, other ∈ store) ∧ ref ∉ store ∧
      outcome = .error (.notFound (.field ref)) ∧ after = store) ∧
    ((∀ ref ∈ refs, ref ∈ store) → ∃ rows, outcome = .ok (rows, after) ∧
      List.Forall₂ (fun ref row => after[ref]? = some row) refs rows ∧
      ∀ ref ∈ refs, ∃ old row, store[ref]? = some old ∧ after[ref]? = some row ∧
        FieldPolicy.GrantedFrom application entry old row) ∧
    (∀ ref : FieldRef, ref ∉ refs → after[ref]? = store[ref]?) ∧
    ∀ ref : FieldRef, ref ∈ after ↔ ref ∈ store := by
  intro outcome after
  refine ⟨run_grantInPlace, fun habsent => ?_, fun hall => ?_, fun ref hunlisted => ?_,
    fun ref => ?_⟩
  · obtain ⟨before, ref, rest, hrefs, hbefore, hnot⟩ := exists_first_absent habsent
    refine ⟨before, ref, rest, hrefs, hbefore, hnot, ?_, leftBy_grant_of_absent habsent⟩
    simp only [outcome, hrefs]
    exact grant_of_first_absent hbefore hnot
  · have hafter : after = (grantEach application entry store refs).2 :=
      leftBy_grant_of_forall_mem hall
    rw [hafter]
    refine ⟨_, grant_eq_ok_iff.2 ⟨hall, rfl⟩, forall₂_grantEach hall, fun ref href => ?_⟩
    obtain ⟨old, hold⟩ :=
      Option.isSome_iff_exists.1 (Std.ExtTreeMap.mem_iff_isSome_getElem?.1 (hall ref href))
    refine ⟨old, old.grant application entry, hold, ?_, old.grantedFrom_grant application entry⟩
    rw [getElem?_grantEach, if_pos href, hold, Option.map_some]
  · rcases getElem?_leftBy_grant ref with hsame | ⟨hlisted, -⟩
    · exact hsame
    · exact absurd hlisted hunlisted
  · rw [Std.ExtTreeMap.mem_iff_isSome_getElem?, Std.ExtTreeMap.mem_iff_isSome_getElem?]
    rcases getElem?_leftBy_grant ref with hsame | ⟨-, hgranted⟩
    · rw [hsame]
    · rw [hgranted, Option.isSome_map]

/-- A portal renews its access to a field that it names twice, beside a field of another schema; and
it asks for fields of which the second is absent. -/
theorem grant_changes_listed_rows_readdition :
    let store := (Service.run (Service.readdition ++
      [⟨Service.onDay 4, .replace ⟨"cars", [{ fieldName := "plate", isOwner := true }]⟩⟩])).store
    let entry : Grant := ⟨(Service.onDay 9).now, (Service.onDay 5).now⟩
    let photo : FieldRef := ⟨"people", "photo"⟩
    let plate : FieldRef := ⟨"cars", "plate"⟩
    let age : FieldRef := ⟨"people", "age"⟩
    (∀ ref ∈ [photo, plate, photo], ref ∈ store) ∧
      (∃ rows after, store.grant "portal" [photo, plate, photo] entry = .ok (rows, after) ∧
        List.Forall₂ (fun ref row => after[ref]? = some row) [photo, plate, photo] rows ∧
        after[(⟨"people", "name"⟩ : FieldRef)]? = store[(⟨"people", "name"⟩ : FieldRef)]?) ∧
      (∃ ref ∈ [photo, age, plate], ref ∉ store) ∧
      store.grant "portal" [photo, age, plate] entry = .error (.notFound (.field age)) ∧
      (grantInPlace "portal" [photo, age, plate] entry).run store =
        (.error (.notFound (.field age)), store) := by
  intro store entry photo plate age
  have hall : ∀ ref ∈ [photo, plate, photo], ref ∈ store := by decide +kernel
  have habsent : ∃ ref ∈ [photo, age, plate], ref ∉ store := ⟨age, by decide, by decide +kernel⟩
  obtain ⟨-, -, hgranted, hunlisted, -⟩ :=
    grant_changes_listed_rows store "portal" [photo, plate, photo] entry
  obtain ⟨rows, hrows, hstored, -⟩ := hgranted hall
  obtain ⟨hinPlace, hfails, -⟩ :=
    grant_changes_listed_rows store "portal" [photo, age, plate] entry
  obtain ⟨_, _, _, -, -, -, -, hleft⟩ := hfails habsent
  have hrefused : store.grant "portal" [photo, age, plate] entry =
      .error (.notFound (.field age)) := by
    decide +kernel
  rw [hleft, hrefused] at hinPlace
  exact ⟨hall, ⟨rows, _, hrows, hstored, hunlisted _ (by decide)⟩, habsent, hrefused, hinPlace⟩

end Store

end FieldAccess
