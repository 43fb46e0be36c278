import FieldAccess.Proofs.Runs

/-!
# Positions of references

Decisions and grants refuse references with a blank part and tell the position of the first of them.
The references are checked after repetitions have been left out, so that the position told is the
one among the references without repetitions. It is the position in the request as long as no
reference in front of the blank one occurs twice.

## Main definitions

* `FieldRef.blankPart?` – the part of a reference that is blank.
* `FirstBlank` – the first reference of a list with a blank part.

## Main statements

* `FieldRef.distinct_append_cons` – the position of a reference without repetitions.
* `requireRefsFrom_of_blank` – the check of references tells the first blank part.
* `Service.blank_part_position` – what is told of a request with a blank part.
-/

namespace FieldAccess

namespace FieldRef

/-- The part of a reference that is blank; if both are it is the schema. -/
def blankPart? (ref : FieldRef) : Option String :=
  if Text.isBlankText ref.schemaId then some "schemaId"
  else if Text.isBlankText ref.fieldName then some "fieldName"
  else none

/-- How a part of the reference at some position of a list is called. -/
def partName (list : String) (index : Nat) (part : String) : String := s!"{list}[{index}].{part}"

theorem partName_schemaId (list : String) (index : Nat) :
    s!"{list}[{index}].schemaId" = partName list index "schemaId" := by
  have hpart : toString "].schemaId" = "]." ++ "schemaId" := by decide
  rw [hpart, ← String.append_assoc]
  rfl

theorem partName_fieldName (list : String) (index : Nat) :
    s!"{list}[{index}].fieldName" = partName list index "fieldName" := by
  have hpart : toString "].fieldName" = "]." ++ "fieldName" := by decide
  rw [hpart, ← String.append_assoc]
  rfl

theorem blankPart?_eq_none_iff {ref : FieldRef} : ref.blankPart? = none ↔
    Text.isBlankText ref.schemaId = false ∧ Text.isBlankText ref.fieldName = false := by
  unfold blankPart?
  grind

theorem distinct_append_singleton (refs : List FieldRef) (ref : FieldRef) :
    distinct (refs ++ [ref]) = distinct refs ++ if ref ∈ refs then [] else [ref] := by
  have hrest : [ref].removeAll refs = if ref ∈ refs then [] else [ref] := by
    by_cases href : ref ∈ refs <;> simp [List.removeAll, href]
  rw [distinct, List.eraseDups_append, hrest, ← distinct]
  by_cases href : ref ∈ refs <;> simp [href, List.eraseDups_cons]

/-- A reference that occurs for the first time stands behind those in front of it, each counted
once. -/
theorem distinct_append_cons {before : List FieldRef} {ref : FieldRef} (hfirst : ref ∉ before)
    (after : List FieldRef) :
    ∃ rest, distinct (before ++ ref :: after) = distinct before ++ ref :: rest := by
  rw [List.append_cons, distinct, List.eraseDups_append, ← distinct, distinct_append_singleton,
    if_neg hfirst, List.append_assoc]
  exact ⟨_, rfl⟩

theorem length_distinct (refs : List FieldRef) : (distinct refs).length ≤ refs.length ∧
    ((distinct refs).length = refs.length ↔ refs.Nodup) := by
  induction refs using List.reverseRecOn with
  | nil => simp [distinct]
  | append_singleton refs ref ih =>
    obtain ⟨hle, heq⟩ := ih
    have hnodup : (refs ++ [ref]).Nodup ↔ refs.Nodup ∧ ref ∉ refs := by
      rw [List.nodup_append_comm, List.singleton_append, List.nodup_cons, and_comm]
    rw [distinct_append_singleton, hnodup, ← heq]
    by_cases href : ref ∈ refs
    · simp [href]
      omega
    · simp [href]
      omega

end FieldRef

section Checks

variable {name : String} {index : Nat} {ref : FieldRef}

theorem requireRefsFrom_cons_of_none (hgiven : ref.blankPart? = none) (rest : List FieldRef) :
    requireRefsFrom name index (ref :: rest) = requireRefsFrom name (index + 1) rest := by
  obtain ⟨hschema, hfield⟩ := FieldRef.blankPart?_eq_none_iff.1 hgiven
  rw [requireRefsFrom, Service.requireNonBlank_eq_ok_iff.2 hschema,
    Service.requireNonBlank_eq_ok_iff.2 hfield]
  rfl

theorem requireRefsFrom_cons_of_some {part : String} (hblank : ref.blankPart? = some part)
    (rest : List FieldRef) : requireRefsFrom name index (ref :: rest) =
      .error (.invalidArgument (.blank (FieldRef.partName name index part))) := by
  unfold FieldRef.blankPart? at hblank
  split at hblank
  · rename_i hschema
    obtain rfl := Option.some.inj hblank
    rw [requireRefsFrom, requireNonBlank, if_pos hschema, ← FieldRef.partName_schemaId]
    rfl
  · rename_i hschema
    split at hblank
    · rename_i hfield
      obtain rfl := Option.some.inj hblank
      rw [requireRefsFrom, requireNonBlank, if_neg hschema, requireNonBlank, if_pos hfield,
        ← FieldRef.partName_fieldName]
      rfl
    · cases hblank

/-- **Checks.** Behind references whose parts are given, the first one with a blank part is told by
its position. -/
theorem requireRefsFrom_of_blank {before : List FieldRef} {part : String}
    (hbefore : ∀ other ∈ before, other.blankPart? = none) (hblank : ref.blankPart? = some part)
    (after : List FieldRef) : requireRefsFrom name index (before ++ ref :: after) =
      .error (.invalidArgument
        (.blank (FieldRef.partName name (index + before.length) part))) := by
  induction before generalizing index with
  | nil => exact requireRefsFrom_cons_of_some hblank after
  | cons head rest ih =>
    rw [List.cons_append, requireRefsFrom_cons_of_none (hbefore head (by simp)),
      ih fun other hother => hbefore other (by simp [hother]), List.length_cons,
      Nat.add_right_comm, Nat.add_assoc]

end Checks

/-- The first reference of a list with a blank part stands at `index`. -/
structure FirstBlank (refs : List FieldRef) (index : Nat) (ref : FieldRef) (part : String) :
    Prop where
  stands : refs[index]? = some ref
  blank : ref.blankPart? = some part
  given : ∀ other ∈ refs.take index, other.blankPart? = none

theorem exists_firstBlank {refs : List FieldRef}
    (hblank : ∃ ref ∈ refs, ref.blankPart?.isSome = true) :
    ∃ index ref part, FirstBlank refs index ref part := by
  cases hfind : refs.find? fun ref => ref.blankPart?.isSome with
  | none =>
    obtain ⟨ref, href, hsome⟩ := hblank
    exact absurd hsome (List.find?_eq_none.1 hfind ref href)
  | some ref =>
    obtain ⟨hsome, before, after, rfl, hbefore⟩ := List.find?_eq_some_iff_append.1 hfind
    obtain ⟨part, hpart⟩ := Option.isSome_iff_exists.1 hsome
    refine ⟨before.length, ref, part, by simp, hpart, fun other hother => ?_⟩
    rw [List.take_left] at hother
    simpa using hbefore other hother

namespace FirstBlank

variable {refs : List FieldRef} {index : Nat} {ref : FieldRef} {part : String}

theorem eq_append (h : FirstBlank refs index ref part) :
    ∃ after, refs = refs.take index ++ ref :: after := by
  obtain ⟨hindex, href⟩ := List.getElem?_eq_some_iff.1 h.stands
  refine ⟨refs.drop (index + 1), ?_⟩
  rw [← href, ← List.drop_eq_getElem_cons hindex, List.take_append_drop]

theorem index_le (h : FirstBlank refs index ref part) {index' : Nat} {ref' : FieldRef}
    {part' : String} (h' : FirstBlank refs index' ref' part') : index ≤ index' := by
  by_contra hlt
  have hgiven := h.given ref' (List.mem_of_getElem? (i := index') (by
    rw [List.getElem?_take_of_lt (by omega), h'.stands]))
  rw [h'.blank] at hgiven
  cases hgiven

theorem unique (h : FirstBlank refs index ref part) {index' : Nat} {ref' : FieldRef}
    {part' : String} (h' : FirstBlank refs index' ref' part') :
    index = index' ∧ ref = ref' ∧ part = part' := by
  obtain rfl : index = index' := Nat.le_antisymm (h.index_le h') (h'.index_le h)
  obtain rfl : ref = ref' := Option.some.inj (h.stands.symm.trans h'.stands)
  exact ⟨rfl, rfl, Option.some.inj (h.blank.symm.trans h'.blank)⟩

/-- Without repetitions, the first blank reference is still the first one. -/
theorem distinct (h : FirstBlank refs index ref part) :
    FirstBlank (FieldRef.distinct refs) (FieldRef.distinct (refs.take index)).length ref part := by
  -- The references in front of it have no blank part, so that it is none of them.
  have hfirst : ref ∉ refs.take index := by
    intro hmem
    have hblank := h.blank
    rw [h.given ref hmem] at hblank
    cases hblank
  obtain ⟨after, hrefs⟩ := h.eq_append
  obtain ⟨rest, hdistinct⟩ := FieldRef.distinct_append_cons hfirst after
  rw [← hrefs] at hdistinct
  rw [hdistinct]
  refine ⟨by simp, h.blank, fun other hother => ?_⟩
  rw [List.take_left, FieldRef.mem_distinct] at hother
  exact h.given other hother

theorem length_take (h : FirstBlank refs index ref part) : (refs.take index).length = index := by
  obtain ⟨hindex, -⟩ := List.getElem?_eq_some_iff.1 h.stands
  exact List.length_take_of_le (Nat.le_of_lt hindex)

theorem requireRefs (h : FirstBlank refs index ref part) (name : String) :
    requireRefs refs name =
      .error (.invalidArgument (.blank (FieldRef.partName name index part))) := by
  obtain ⟨after, hrefs⟩ := h.eq_append
  rw [FieldAccess.requireRefs, hrefs, requireRefsFrom_of_blank h.given h.blank, h.length_take,
    Nat.zero_add]

end FirstBlank

namespace Service

/-- **Positions.** A decision or a grant for an application with references of which one has a blank
part is refused, whatever is stored and whether or not the store works. It tells the first such
reference, the part that is blank, and the position that the reference has when repetitions are left
out. This is its position in the request exactly if all references in front of it differ. -/
theorem blank_part_position (context : Context) (store : Store) {application : String}
    (happlication : Text.isBlankText application = false) (refs : List FieldRef)
    (hblank : ∃ ref ∈ refs, ref.blankPart?.isSome = true) :
    ∃ index ref part, FirstBlank refs index ref part ∧
      let position := (FieldRef.distinct (refs.take index)).length
      (decide context store ⟨application, refs⟩).result = .error (.invalidArgument
          (.blank (FieldRef.partName "requiredFields" position part))) ∧
        (∀ duration, (grant context store ⟨application, duration, refs⟩).result =
          .error (.invalidArgument (.blank (FieldRef.partName "records" position part)))) ∧
        (FieldRef.distinct refs)[position]? = some ref ∧ position ≤ index ∧
        (position = index ↔ (refs.take index).Nodup) := by
  obtain ⟨index, ref, part, hfirst⟩ := exists_firstBlank hblank
  have hdistinct := hfirst.distinct
  have hname : requireNonBlank application "applicationId" = .ok () :=
    requireNonBlank_eq_ok_iff.2 happlication
  obtain ⟨hle, heq⟩ := FieldRef.length_distinct (refs.take index)
  rw [hfirst.length_take] at hle heq
  refine ⟨index, ref, part, hfirst, ?_, fun duration => ?_, hdistinct.stands, hle, heq⟩
  · rw [result_decide, decideResult, hname, hdistinct.requireRefs]
    rfl
  · have hsome : (FieldRef.distinct refs).isEmpty = false := by
      rw [List.isEmpty_eq_false_iff_exists_mem]
      exact ⟨ref, List.mem_of_getElem? hdistinct.stands⟩
    rw [result_grant, grantResult, hname, hdistinct.requireRefs, hsome]
    rfl

/-- A reference is named twice in front of one without a field, which stands at position 2 and is
told to stand at position 1. -/
theorem blank_part_position_repeated :
    let name : FieldRef := ⟨"people", "name"⟩
    let refs : List FieldRef := [name, name, ⟨"people", " "⟩]
    Text.isBlankText "portal" = false ∧ (∃ ref ∈ refs, ref.blankPart?.isSome = true) ∧
      FirstBlank refs 2 ⟨"people", " "⟩ "fieldName" ∧
      (decide (onDay 4) ∅ ⟨"portal", refs⟩).result =
        .error (.invalidArgument (.blank "requiredFields[1].fieldName")) ∧
      (grant (onDay 4) ∅ ⟨"portal", "30d", refs⟩).result =
        .error (.invalidArgument (.blank "records[1].fieldName")) := by
  intro name refs
  have happlication : Text.isBlankText "portal" = false := by decide
  have hblank : ∃ ref ∈ refs, ref.blankPart?.isSome = true :=
    ⟨⟨"people", " "⟩, by decide, by decide⟩
  have hthird : FirstBlank refs 2 ⟨"people", " "⟩ "fieldName" := ⟨rfl, by decide, by decide⟩
  obtain ⟨index, ref, part, hfirst, hdecide, hgrant, -⟩ :=
    blank_part_position (onDay 4) ∅ happlication refs hblank
  obtain ⟨rfl, rfl, rfl⟩ := hthird.unique hfirst
  have hposition : (FieldRef.distinct (refs.take 2)).length = 1 := by decide
  have hdecided : FieldRef.partName "requiredFields" 1 "fieldName" =
    "requiredFields[1].fieldName" := by decide
  have hgranted : FieldRef.partName "records" 1 "fieldName" = "records[1].fieldName" := by decide
  rw [hposition, hdecided] at hdecide
  rw [hposition, hgranted] at hgrant
  exact ⟨happlication, hblank, hthird, hdecide, hgrant "30d"⟩

/-- What is told is not the position in the request, neither for a decision nor for a grant. -/
theorem not_blank_part_index :
    (¬ ∀ (context : Context) (store : Store) (application : String) (refs : List FieldRef)
        (index : Nat) (ref : FieldRef) (part : String), Text.isBlankText application = false →
      FirstBlank refs index ref part → (decide context store ⟨application, refs⟩).result =
        .error (.invalidArgument (.blank (FieldRef.partName "requiredFields" index part)))) ∧
    ¬ ∀ (context : Context) (store : Store) (application duration : String)
        (refs : List FieldRef) (index : Nat) (ref : FieldRef) (part : String),
      Text.isBlankText application = false → FirstBlank refs index ref part →
        (grant context store ⟨application, duration, refs⟩).result =
          .error (.invalidArgument (.blank (FieldRef.partName "records" index part))) := by
  let name : FieldRef := ⟨"people", "name"⟩
  have hthird : FirstBlank [name, name, ⟨"people", " "⟩] 2 ⟨"people", " "⟩ "fieldName" :=
    ⟨rfl, by decide, by decide⟩
  constructor
  · intro h
    have hresult := h (onDay 4) ∅ "portal" _ 2 _ _ (by decide) hthird
    revert hresult
    decide +kernel
  · intro h
    have hresult := h (onDay 4) ∅ "portal" "30d" _ 2 _ _ (by decide) hthird
    revert hresult
    decide +kernel

end Service

end FieldAccess
