import FieldAccess.Proofs.CalendarMonths
import FieldAccess.Proofs.GrantOrder

/-!
# Renewals

A renewal overwrites the entry of an application without comparing, so that the calendar alone
decides whether the access lasts longer. Adding months keeps the order of instants but for one case:
days that give way to the same last day of a shorter month. There only the time of day is left to
compare, and the later of two days may have the earlier one.

## Main definitions

* `Instant.CutShort` – the later of two instants falls behind when months are added to both.
* `Service.Call.Gives` – a successful grant to an application on a field.

## Main statements

* `Instant.addMonths?_lt_iff` – when adding months reverses the order of two instants.
* `Service.renewal_shortens_iff` – when a renewal makes the access of an application end earlier.
-/

namespace FieldAccess

namespace Date

variable {date later : Date}

theorem yearMonth_eq_iff :
    date.yearMonth = later.yearMonth ↔ date.monthIndex = later.monthIndex := by
  have hpos := date.month_pos
  have hle := date.month_le
  have hpos' := later.month_pos
  have hle' := later.month_le
  rw [yearMonth, yearMonth, Prod.mk.injEq, monthIndex, monthIndex]
  omega

end Date

namespace Instant

variable {s t u v : Instant} {months : Nat}

/-- The first time of day is before the second one. -/
def EarlierInDay (s t : Instant) : Prop :=
  s.second < t.second ∨ s.second = t.second ∧ s.nanos < t.nanos

instance (s t : Instant) : Decidable (s.EarlierInDay t) := inferInstanceAs (Decidable (_ ∨ _))

/-- Instants are compared month by month, then day by day, then by their times of day. -/
theorem lt_iff : s < t ↔ s.date.monthIndex < t.date.monthIndex ∨
    s.date.yearMonth = t.date.yearMonth ∧
      (s.date.day < t.date.day ∨ s.date.day = t.date.day ∧ s.EarlierInDay t) := by
  rcases lt_trichotomy s.date.monthIndex t.date.monthIndex with hlt | heq | hgt
  · exact iff_of_true (lt_of_monthIndex_lt hlt) (.inl hlt)
  · have hmonth := Date.yearMonth_eq_iff.2 heq
    obtain ⟨hyear, hmonth'⟩ := Prod.mk.inj hmonth
    rw [lt_iff_parts, parts, parts, hyear, hmonth']
    simp only [List.cons_lt_cons_iff, lt_irrefl, hmonth, heq, EarlierInDay]
    simp
  · have hne : s.date.yearMonth ≠ t.date.yearMonth :=
      fun h => hgt.ne' (Date.yearMonth_eq_iff.1 h)
    exact iff_of_false (not_lt.2 (lt_of_monthIndex_lt hgt).le) (by simp [hne, hgt.le])

/-- The second of two instants is on a later day of the same month, but at an earlier time of day,
and the month that comes `months` later ends on the day of the first one or before. -/
structure CutShort (months : Nat) (s t : Instant) : Prop where
  sameMonth : s.date.yearMonth = t.date.yearMonth
  day_lt : s.date.day < t.date.day
  length_le : daysInMonth (laterMonth months s.date.yearMonth).1
    (laterMonth months s.date.yearMonth).2 ≤ s.date.day
  earlier : t.EarlierInDay s

namespace IsMonthsLater

theorem daysInMonth_eq (h : s.IsMonthsLater months u) :
    daysInMonth (laterMonth months s.date.yearMonth).1 (laterMonth months s.date.yearMonth).2 =
      daysInMonth u.date.year u.date.month := by
  rw [← h.yearMonth, Date.yearMonth]

/-- The ends of two instants of one month are in one month, whose length bounds both days. -/
theorem day_of_sameMonth (hs : s.IsMonthsLater months u) (ht : t.IsMonthsLater months v)
    (hst : s.date.yearMonth = t.date.yearMonth) :
    v.date.yearMonth = u.date.yearMonth ∧
      v.date.day = min t.date.day (daysInMonth u.date.year u.date.month) := by
  have huv : v.date.yearMonth = u.date.yearMonth := by rw [hs.yearMonth, ht.yearMonth, hst]
  obtain ⟨hyear, hmonth⟩ := Prod.mk.inj huv
  refine ⟨huv, ?_⟩
  rw [ht.day, hyear, hmonth]

end IsMonthsLater

theorem monthIndex_addMonths? (h : s.addMonths? months = some t) :
    t.date.monthIndex = s.date.monthIndex + months := by
  obtain ⟨date, hdate, rfl⟩ := Option.map_eq_some_iff.1 h
  exact Date.monthIndex_addMonths? hdate

/-- **Order of ends.** Some months after the later of two instants it is earlier than as many months
after the other one exactly if its time of day is the earlier one and the days of both give way to
the same last day of a month. -/
theorem addMonths?_lt_iff (hle : s ≤ t) (hs : s.addMonths? months = some u)
    (ht : t.addMonths? months = some v) : v < u ↔ s.CutShort months t := by
  have hindex := monthIndex_addMonths? hs
  have hindex' := monthIndex_addMonths? ht
  have hlater := isMonthsLater_of_addMonths? hs
  have hlater' := isMonthsLater_of_addMonths? ht
  rw [← not_lt, lt_iff] at hle
  by_cases hsame : s.date.monthIndex = t.date.monthIndex
  · have hst := Date.yearMonth_eq_iff.2 hsame
    obtain ⟨huv, hday'⟩ := hlater.day_of_sameMonth hlater' hst
    have hday := hlater.day
    have hlength := hlater.daysInMonth_eq
    simp only [hsame, lt_irrefl, hst, true_and, false_or, EarlierInDay] at hle
    rw [lt_iff, Date.yearMonth_eq_iff.1 huv]
    simp only [lt_irrefl, huv, true_and, false_or, EarlierInDay, hlater.second, hlater.nanos,
      hlater'.second, hlater'.nanos]
    constructor
    · intro h
      exact ⟨hst, by omega, by omega, by unfold EarlierInDay; omega⟩
    · rintro ⟨-, hlt, hlast, hearlier⟩
      unfold EarlierInDay at hearlier
      omega
  · -- The ends are in different months, in the order of the months in which they begin.
    have hlt : u.date.monthIndex < v.date.monthIndex := by
      have hle' : ¬t.date.monthIndex < s.date.monthIndex := fun h => hle (.inl h)
      omega
    exact iff_of_false (lt_of_monthIndex_lt hlt).not_gt
      fun h => hsame (Date.yearMonth_eq_iff.1 h.sameMonth)

/-- Where the order is reversed, both ends are on the last day of a month. -/
theorem CutShort.date_eq (h : s.CutShort months t) (hs : s.addMonths? months = some u)
    (ht : t.addMonths? months = some v) :
    v.date = u.date ∧ u.date.day = daysInMonth u.date.year u.date.month := by
  have hlater := isMonthsLater_of_addMonths? hs
  obtain ⟨huv, hday'⟩ := hlater.day_of_sameMonth (isMonthsLater_of_addMonths? ht) h.sameMonth
  obtain ⟨hyear, hmonth⟩ := Prod.mk.inj huv
  have hday := hlater.day
  have hlength := hlater.daysInMonth_eq
  have hlast := h.length_le
  have hlt := h.day_lt
  exact ⟨Date.eq_of_parts hyear hmonth (by omega), by omega⟩

end Instant

/-- A grant ends the months of its period after it was given. -/
theorem GrantPeriod.addMonths?_of_startingAt {period : GrantPeriod} {now : Instant} {grant : Grant}
    (h : period.startingAt now = .ok grant) :
    now.addMonths? period.months = some grant.expiresAt := by
  unfold startingAt expiry at h
  cases hend : now.addMonths? period.months with
  | none =>
    rw [hend] at h
    cases h
  | some expiresAt =>
    rw [hend] at h
    obtain rfl := Except.ok.inj h
    rfl

namespace Service

/-- A call that succeeds in granting an application access to a field for a period. -/
structure Call.Gives (call : Call) (store : Store) (application : String) (ref : FieldRef)
    (period : GrantPeriod) : Prop where
  request : ∃ request, call.request = .grant request ∧ request.applicationId = application ∧
    ref ∈ request.records ∧ GrantPeriod.ofName? request.grantDuration = some period
  succeeds : (call.answer store).result.isOk = true

section Renewal

variable {application : String} {ref : FieldRef} {period : GrantPeriod}

/-- The entry that a grant leaves behind is its own. -/
theorem Call.Gives.grantAt {call : Call} {store : Store}
    (h : call.Gives store application ref period) :
    ∃ entry, period.startingAt call.context.now = .ok entry ∧
      (call.answer store).store.grantAt ref application = some entry := by
  obtain ⟨⟨request, hrequest, happlication, href, hperiod⟩, hok⟩ := h
  obtain ⟨reply, hreply⟩ := exists_of_isOk hok
  obtain ⟨period', entry, hperiod', hentry, hafter⟩ := grantAt_answer hrequest hreply
  obtain rfl : period = period' := Option.some.inj (hperiod.symm.trans hperiod')
  refine ⟨entry, hentry, ?_⟩
  rw [hafter, if_pos ⟨happlication.symm, href⟩]

/-- **Renewal.** A grant of a period and later its renewal, for the same period, are given to an
application on a field. Whatever is done in between, if the entry is still that of the grant, then
it ends earlier after the renewal exactly if the renewal is cut short by the calendar: in the month
of the grant, on a later day but at an earlier time of day, where both days give way to the same
last day of a month, on which both ends are. -/
theorem renewal_shortens_iff {calls between : List Call} {first second : Call}
    (hfirst : first.Gives (run calls).store application ref period)
    (hsecond : second.Gives (run (calls ++ first :: between)).store application ref period)
    (hkept : (run (calls ++ first :: between)).store.grantAt ref application =
      (run (calls ++ [first])).store.grantAt ref application)
    (hle : first.context.now ≤ second.context.now) :
    ∃ old new,
      (run (calls ++ first :: between)).store.grantAt ref application = some old ∧
      (run (calls ++ first :: between ++ [second])).store.grantAt ref application = some new ∧
      (new.expiresAt < old.expiresAt ↔
        first.context.now.CutShort period.months second.context.now) ∧
      (new.expiresAt < old.expiresAt → new.expiresAt.date = old.expiresAt.date) := by
  obtain ⟨old, hold, hentry⟩ := hfirst.grantAt
  obtain ⟨new, hnew, hentry'⟩ := hsecond.grantAt
  have hends := GrantPeriod.addMonths?_of_startingAt hold
  have hends' := GrantPeriod.addMonths?_of_startingAt hnew
  have hiff := Instant.addMonths?_lt_iff hle hends hends'
  refine ⟨old, new, ?_, ?_, hiff, fun hlt => ((hiff.1 hlt).date_eq hends hends').1⟩
  · rw [hkept, run_append_singleton]
    exact hentry
  · rw [run_append_singleton]
    exact hentry'

end Renewal

/-- The context of a call at noon of the same day. -/
def atNoon (context : Context) : Context :=
  { context with now := (Instant.ofParts? context.now.date 43200 0).getD context.now }

/-- A schema with one field is submitted. -/
def submitName (context : Context) : Call :=
  ⟨context, .replace ⟨"people", [{ fieldName := "name", isOwner := true }]⟩⟩

/-- The field is granted for a month. -/
def nameForMonth (context : Context) : Call :=
  ⟨context, .grant ⟨"portal", "30d", [⟨"people", "name"⟩]⟩⟩

theorem gives_atNoon :
    (nameForMonth (atNoon (onDay 29))).Gives (run [submitName (onDay 0)]).store "portal"
      ⟨"people", "name"⟩ .month where
  request := ⟨_, rfl, rfl, List.mem_singleton.2 rfl, by decide⟩
  succeeds := by decide +kernel

theorem gives_midnight :
    (nameForMonth (onDay 30)).Gives
      (run [submitName (onDay 0), nameForMonth (atNoon (onDay 29))]).store "portal"
        ⟨"people", "name"⟩ .month where
  request := ⟨_, rfl, rfl, List.mem_singleton.2 rfl, by decide⟩
  succeeds := by decide +kernel

/-- The grant of noon of the 30th of January ends half a day earlier after its renewal at the
midnight that follows. -/
theorem renewal_shortens_february :
    let first := nameForMonth (atNoon (onDay 29))
    let second := nameForMonth (onDay 30)
    let ref : FieldRef := ⟨"people", "name"⟩
    first.Gives (run [submitName (onDay 0)]).store "portal" ref .month ∧
      second.Gives (run [submitName (onDay 0), first]).store "portal" ref .month ∧
      ∃ old new,
        (run [submitName (onDay 0), first]).store.grantAt ref "portal" = some old ∧
        (run [submitName (onDay 0), first, second]).store.grantAt ref "portal" = some new ∧
        new.expiresAt < old.expiresAt ∧ new.expiresAt.date = old.expiresAt.date := by
  intro first second ref
  obtain ⟨old, new, hold, hnew, hshort, hdate⟩ :=
    @renewal_shortens_iff _ _ _ [submitName (onDay 0)] [] first second gives_atNoon gives_midnight
      rfl (by decide)
  have hcut : first.context.now.CutShort GrantPeriod.month.months second.context.now :=
    ⟨by decide, by decide, by decide, by decide⟩
  exact ⟨gives_atNoon, gives_midnight, old, new, hold, hnew, hshort.2 hcut, hdate (hshort.2 hcut)⟩

/-- A renewal does not always keep the end of the access that it renews. -/
theorem not_renewal_keeps_expiry :
    ¬∀ (calls : List Call) (first second : Call) (application : String) (ref : FieldRef)
      (period : GrantPeriod), first.Gives (run calls).store application ref period →
        second.Gives (run (calls ++ [first])).store application ref period →
        first.context.now ≤ second.context.now →
        ∃ old new, (run (calls ++ [first])).store.grantAt ref application = some old ∧
          (run (calls ++ [first] ++ [second])).store.grantAt ref application = some new ∧
          old.expiresAt ≤ new.expiresAt := by
  intro h
  let first := nameForMonth (atNoon (onDay 29))
  let second := nameForMonth (onDay 30)
  obtain ⟨old, new, hold, hnew, hle⟩ :=
    h [submitName (onDay 0)] first second _ _ _ gives_atNoon gives_midnight (by decide)
  have hlt : ((run ([submitName (onDay 0)] ++ [first])).store.grantAt
      ⟨"people", "name"⟩ "portal").bind (fun old =>
        ((run ([submitName (onDay 0)] ++ [first] ++ [second])).store.grantAt
          ⟨"people", "name"⟩ "portal").map
            fun new => Decidable.decide (new.expiresAt < old.expiresAt)) = some true := by
    decide +kernel
  rw [hold, hnew] at hlt
  exact hle (of_decide_eq_true (Option.some.inj hlt))

end Service

end FieldAccess
