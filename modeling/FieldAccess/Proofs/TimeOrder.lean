import Mathlib.Data.Int.Order.Basic
import Mathlib.Data.List.Lex
import FieldAccess.Policy.AllowList

/-!
# The order of time

Instants are ordered by their parts, from the year down. The order is linear, and a grant period,
which is counted in calendar months, always ends after it has begun.

## Main statements

* `Instant.lt_of_addMonths?` – calendar months later is later.
* `GrantPeriod.startingAt_eq_ok` – a grant begins when it is given and ends after that.
-/

namespace FieldAccess

namespace Date

theorem parts_of_ofParts? {year : Int} {month day : Nat} {date : Date}
    (h : ofParts? year month day = some date) :
    date.year = year ∧ date.month = month ∧ date.day = day := by
  unfold ofParts? at h
  split at h
  · obtain rfl := Option.some.inj h
    exact ⟨rfl, rfl, rfl⟩
  · cases h

/-- Adding months adds to the number of the month. -/
theorem monthIndex_addMonths? {date later : Date} {months : Nat}
    (h : date.addMonths? months = some later) :
    later.monthIndex = date.monthIndex + months := by
  obtain ⟨hyear, hmonth, -⟩ := parts_of_ofParts? h
  rw [monthIndex, hyear, hmonth]
  omega

end Date

namespace Instant

theorem parts_injective : Function.Injective parts := by
  rintro ⟨⟨_, _, _, _, _, _, _, _, _⟩, _, _, _, _, _⟩ ⟨⟨_, _, _, _, _, _, _, _, _⟩, _, _, _, _, _⟩ h
  simp only [parts, List.cons.injEq, Int.natCast_inj, and_true] at h
  obtain ⟨rfl, rfl, rfl, rfl, rfl⟩ := h
  rfl

theorem lt_iff_parts {s t : Instant} : s < t ↔ s.parts < t.parts := Iff.rfl

theorem le_iff_parts {s t : Instant} : s ≤ t ↔ s.parts ≤ t.parts := by
  change ¬ t.parts < s.parts ↔ _
  exact not_lt

instance : LinearOrder Instant where
  le_refl t := le_iff_parts.2 le_rfl
  le_trans s t u hst htu := le_iff_parts.2 ((le_iff_parts.1 hst).trans (le_iff_parts.1 htu))
  lt_iff_le_not_ge s t := by
    rw [lt_iff_parts, le_iff_parts, le_iff_parts]
    exact lt_iff_le_not_ge
  le_antisymm s t hst hts :=
    parts_injective (le_antisymm (le_iff_parts.1 hst) (le_iff_parts.1 hts))
  le_total s t := by
    rw [le_iff_parts, le_iff_parts]
    exact le_total s.parts t.parts
  toDecidableLE := inferInstance
  toDecidableLT := inferInstance
  toDecidableEq := inferInstance

/-- A date in a later month of the calendar is later, whatever the days are. -/
theorem lt_of_monthIndex_lt {s t : Instant} (h : s.date.monthIndex < t.date.monthIndex) :
    s < t := by
  have hs := s.date.month_le
  have ht := t.date.month_le
  have hs' := s.date.month_pos
  have ht' := t.date.month_pos
  unfold Date.monthIndex at h
  rw [lt_iff_parts, parts, parts]
  by_cases hyear : s.date.year = t.date.year
  · rw [hyear]
    refine List.Lex.cons (List.Lex.rel ?_)
    omega
  · refine List.Lex.rel ?_
    omega

/-- Calendar months later is later. -/
theorem lt_of_addMonths? {s t : Instant} {months : Nat} (hmonths : 0 < months)
    (h : s.addMonths? months = some t) : s < t := by
  obtain ⟨date, hdate, rfl⟩ := Option.map_eq_some_iff.1 h
  apply lt_of_monthIndex_lt
  change s.date.monthIndex < date.monthIndex
  rw [Date.monthIndex_addMonths? hdate]
  omega

end Instant

namespace GrantPeriod

theorem months_pos (period : GrantPeriod) : 0 < period.months := by
  cases period with
  | month => decide
  | year => decide

/-- A grant ends after it has begun, and begins when it is given. -/
theorem startingAt_eq_ok {period : GrantPeriod} {now : Instant} {grant : Grant}
    (h : period.startingAt now = .ok grant) :
    grant.updatedAt = now ∧ grant.updatedAt < grant.expiresAt := by
  unfold startingAt expiry at h
  cases hend : now.addMonths? period.months with
  | none =>
    rw [hend] at h
    cases h
  | some expiresAt =>
    rw [hend] at h
    obtain rfl := Except.ok.inj h
    exact ⟨rfl, Instant.lt_of_addMonths? period.months_pos hend⟩

end GrantPeriod

end FieldAccess
