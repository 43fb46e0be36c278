import FieldAccess.Proofs.TimeOrder
import Mathlib.Tactic.IntervalCases

/-!
# Months of the calendar

A grant ends a number of calendar months after it was given, at the same time of day. The day is the
same too, unless the month at the end is shorter: then it is the last day of that month. Counting
days instead, which go on one by one, a month later is 28 to 31 days later, and a year later is 365
or 366 days later.

## Main definitions

* `followingMonth`, `laterMonth` – the month after a month, and the one a number of months later.
* `daysOfMonths` – the number of days of consecutive months.
* `Instant.IsMonthsLater` – what an instant a number of months later is.

## Main statements

* `Date.after?_months` – consecutive months take as long as their days together.
* `expiry_is_calendar_arithmetic` – when a grant ends, and when it would not end at all.
-/

namespace FieldAccess

/-- The month after a month, which is given by its year and its number. -/
def followingMonth : Int × Nat → Int × Nat
  | (year, month) => if month = 12 then (year + 1, 1) else (year, month + 1)

/-- The month a number of months later. -/
def laterMonth : (months : Nat) → Int × Nat → Int × Nat
  | 0, month => month
  | months + 1, month => laterMonth months (followingMonth month)

/-- The number of days of consecutive months, of which the first is given. -/
def daysOfMonths : (months : Nat) → Int × Nat → Nat
  | 0, _ => 0
  | months + 1, month => daysInMonth month.1 month.2 + daysOfMonths months (followingMonth month)

theorem daysInMonth_le (year : Int) (month : Nat) : daysInMonth year month ≤ 31 := by
  unfold daysInMonth
  split
  · split <;> omega
  · split <;> omega

/-- The month that is found by counting the months since the beginning of the year 0. -/
theorem laterMonth_eq {year : Int} {month : Nat} (hpos : 1 ≤ month) (hle : month ≤ 12)
    (months : Nat) :
    laterMonth months (year, month) =
      ((year * 12 + (month - 1 : Nat) + months) / 12,
        ((year * 12 + (month - 1 : Nat) + months) % 12).toNat + 1) := by
  induction months generalizing year month with
  | zero =>
    rw [laterMonth, Prod.mk.injEq]
    omega
  | succ months ih =>
    -- Behind the last month of a year the division counts one year more.
    rw [laterMonth, followingMonth]
    split
    · rw [ih le_rfl (by omega), Prod.mk.injEq]
      omega
    · rw [ih (by omega) (by omega), Prod.mk.injEq]
      omega

theorem followingMonth_mem {month : Int × Nat} (hle : month.2 ≤ 12) :
    1 ≤ (followingMonth month).2 ∧ (followingMonth month).2 ≤ 12 := by
  rw [followingMonth]
  split <;> dsimp only <;> omega

theorem le_fst_followingMonth (month : Int × Nat) : month.1 ≤ (followingMonth month).1 := by
  rw [followingMonth]
  split <;> dsimp only <;> omega

theorem le_fst_laterMonth (months : Nat) (month : Int × Nat) :
    month.1 ≤ (laterMonth months month).1 := by
  induction months generalizing month with
  | zero => exact le_rfl
  | succ months ih => exact (le_fst_followingMonth month).trans (ih _)

theorem laterMonth_mem (months : Nat) {month : Int × Nat} (hpos : 1 ≤ month.2)
    (hle : month.2 ≤ 12) :
    1 ≤ (laterMonth months month).2 ∧ (laterMonth months month).2 ≤ 12 := by
  induction months generalizing month with
  | zero => exact ⟨hpos, hle⟩
  | succ months ih => exact ih (followingMonth_mem hle).1 (followingMonth_mem hle).2

theorem daysInMonth_le_daysOfMonths {months : Nat} (hmonths : 0 < months) (month : Int × Nat) :
    daysInMonth month.1 month.2 ≤ daysOfMonths months month := by
  obtain ⟨months, rfl⟩ := Nat.exists_eq_succ_of_ne_zero hmonths.ne'
  exact Nat.le_add_right _ _

/-- A year has 365 days, or 366 if a 29th of February is among them. -/
theorem daysOfMonths_year (year : Int) {month : Nat} (hpos : 1 ≤ month) (hle : month ≤ 12) :
    daysOfMonths 12 (year, month) =
      337 + daysInMonth (if month ≤ 2 then year else year + 1) 2 := by
  interval_cases month
  all_goals
    simp [daysOfMonths, followingMonth, daysInMonth]
  all_goals omega

namespace Date

variable {date later : Date}

/-- The month of a date. -/
def yearMonth (date : Date) : Int × Nat := (date.year, date.month)

theorem eq_of_parts (hyear : date.year = later.year) (hmonth : date.month = later.month)
    (hday : date.day = later.day) : date = later := by
  cases date
  cases later
  simp_all

theorem ofParts?_eq_some {year : Int} {month day : Nat} (hyear : later.year = year)
    (hmonth : later.month = month) (hday : later.day = day) :
    ofParts? year month day = some later := by
  subst hyear hmonth hday
  exact dif_pos ⟨later.minYear_le, later.le_maxYear, later.month_pos, later.month_le,
    later.day_pos, later.day_le⟩

theorem ofParts?_eq_none {year : Int} {month day : Nat} (hyear : maxYear < year) :
    ofParts? year month day = none :=
  dif_neg fun h => absurd h.2.1 (not_le.2 hyear)

/-- A month has all its days. -/
theorem exists_day (date : Date) {day : Nat} (hpos : 1 ≤ day)
    (hle : day ≤ daysInMonth date.year date.month) :
    ∃ other : Date, other.yearMonth = date.yearMonth ∧ other.day = day :=
  ⟨⟨date.year, date.month, day, date.minYear_le, date.le_maxYear, date.month_pos, date.month_le,
    hpos, hle⟩, rfl, rfl⟩

theorem exists_first (date : Date) : ∃ first : Date, first.yearMonth = date.yearMonth ∧
    first.day = 1 := by
  have hlength := le_daysInMonth date.year date.month
  exact date.exists_day le_rfl (by omega)

/-- There is a date in every month of the calendar: on the same day, or on the last one. -/
theorem exists_ofParts? {year : Int} {month : Nat} (hmin : minYear ≤ year) (hmax : year ≤ maxYear)
    (hpos : 1 ≤ month) (hle : month ≤ 12) (date : Date) :
    ∃ later : Date, ofParts? year month (min date.day (daysInMonth year month)) = some later := by
  have hday := date.day_pos
  have hlength := le_daysInMonth year month
  exact ⟨_, dif_pos ⟨hmin, hmax, hpos, hle, by omega, min_le_right _ _⟩⟩

/-- Months are added by counting them one by one. -/
theorem addMonths?_eq (date : Date) (months : Nat) :
    date.addMonths? months =
      ofParts? (laterMonth months date.yearMonth).1 (laterMonth months date.yearMonth).2
        (min date.day (daysInMonth (laterMonth months date.yearMonth).1
          (laterMonth months date.yearMonth).2)) := by
  rw [yearMonth, laterMonth_eq date.month_pos date.month_le]
  rfl

section Days

theorem after?_add (date : Date) (days more : Nat) :
    date.after? (days + more) = (date.after? days).bind (·.after? more) := by
  induction days generalizing date with
  | zero => rw [Nat.zero_add, after?, Option.bind_some]
  | succ days ih =>
    rw [Nat.succ_add, after?, after?, Option.bind_assoc]
    exact congrArg _ (funext ih)

/-- Days of a month go on one by one. -/
theorem after?_within {days : Nat} (hmonth : later.yearMonth = date.yearMonth)
    (hday : later.day = date.day + days) : date.after? days = some later := by
  rw [yearMonth, yearMonth, Prod.mk.injEq] at hmonth
  obtain ⟨hyear, hmonth⟩ := hmonth
  induction days generalizing date with
  | zero => exact congrArg some (eq_of_parts hyear.symm hmonth.symm (by omega))
  | succ days ih =>
    have hlength := later.day_le
    rw [hyear, hmonth] at hlength
    obtain ⟨next, hnext, hnextDay⟩ := date.exists_day (Nat.le_add_left 1 date.day) (by omega)
    obtain ⟨hnextYear, hnextMonth⟩ := Prod.mk.inj hnext
    have hstep : date.next? = some next := by
      rw [next?, if_pos (by omega), ofParts?_eq_some hnextYear hnextMonth hnextDay]
    rw [after?, hstep, Option.bind_some]
    exact ih (by omega) (hyear.trans hnextYear.symm) (hmonth.trans hnextMonth.symm)

/-- The day after the last one of a month is the first one of the following month. -/
theorem next?_last (hlast : date.day = daysInMonth date.year date.month)
    (hmonth : later.yearMonth = followingMonth date.yearMonth) (hday : later.day = 1) :
    date.next? = some later := by
  rw [yearMonth, yearMonth, followingMonth] at hmonth
  rw [next?, if_neg (by omega)]
  split at hmonth
  · obtain ⟨hyear, hmonth⟩ := Prod.mk.inj hmonth
    rw [if_neg (by omega)]
    exact ofParts?_eq_some hyear hmonth hday
  · obtain ⟨hyear, hmonth⟩ := Prod.mk.inj hmonth
    have hle := date.month_le
    rw [if_pos (by omega)]
    exact ofParts?_eq_some hyear hmonth hday

/-- A month is over after its days. -/
theorem after?_month (hfirst : date.day = 1)
    (hmonth : later.yearMonth = followingMonth date.yearMonth) (hday : later.day = 1) :
    date.after? (daysInMonth date.year date.month) = some later := by
  have hlength := le_daysInMonth date.year date.month
  obtain ⟨last, hlast, hlastDay⟩ := date.exists_day (by omega) le_rfl
  obtain ⟨hyear, hmonth'⟩ := Prod.mk.inj hlast
  have hsplit : daysInMonth date.year date.month =
      (daysInMonth date.year date.month - 1) + 1 := by omega
  have hlastDay' : last.day = daysInMonth last.year last.month := by rw [hlastDay, hyear, hmonth']
  rw [hsplit, after?_add, after?_within hlast (by omega), Option.bind_some, after?,
    next?_last hlastDay' (hlast ▸ hmonth) hday]
  rfl

/-- **Days of months.** Consecutive months are over after their days together. -/
theorem after?_months {months : Nat} (hfirst : date.day = 1)
    (hmonth : later.yearMonth = laterMonth months date.yearMonth) (hday : later.day = 1) :
    date.after? (daysOfMonths months date.yearMonth) = some later := by
  induction months generalizing date with
  | zero =>
    obtain ⟨hyear, hmonth⟩ := Prod.mk.inj hmonth
    exact congrArg some (eq_of_parts hyear.symm hmonth.symm (by omega))
  | succ months ih =>
    rw [laterMonth] at hmonth
    -- The calendar goes on to the last of the months, and so it does to the second.
    have hmax : (followingMonth date.yearMonth).1 ≤ maxYear := by
      have hlater : (laterMonth months (followingMonth date.yearMonth)).1 = later.year :=
        congrArg Prod.fst hmonth.symm
      exact (le_fst_laterMonth months _).trans (hlater ▸ later.le_maxYear)
    have hmin : minYear ≤ (followingMonth date.yearMonth).1 :=
      date.minYear_le.trans (le_fst_followingMonth _)
    obtain ⟨hpos, hle⟩ := @followingMonth_mem date.yearMonth date.month_le
    obtain ⟨within, hwithin⟩ := exists_ofParts? hmin hmax hpos hle date
    obtain ⟨hyear, hmonth', -⟩ := parts_of_ofParts? hwithin
    obtain ⟨next, hnext, hnextDay⟩ := within.exists_first
    have hnext' : next.yearMonth = followingMonth date.yearMonth :=
      hnext.trans (Prod.ext hyear hmonth')
    have hrest := ih hnextDay (hnext' ▸ hmonth)
    rw [daysOfMonths, after?_add, yearMonth, after?_month hfirst hnext' hnextDay, Option.bind_some]
    rwa [hnext'] at hrest

/-- The days up to the same day of a later month, or to its last day, are those of the months in
between, less the days by which it comes earlier in its month. -/
theorem after?_of_addMonths? {months : Nat} (hmonths : 0 < months)
    (h : date.addMonths? months = some later) :
    date.after? (daysOfMonths months date.yearMonth + later.day - date.day) = some later := by
  rw [addMonths?_eq] at h
  obtain ⟨hyear, hmonth, -⟩ := parts_of_ofParts? h
  have hpos := date.day_pos
  have hle := date.day_le
  have hlaterPos := later.day_pos
  obtain ⟨first, hfirst, hfirstDay⟩ := date.exists_first
  obtain ⟨last, hlast, hlastDay⟩ := later.exists_first
  have hdate : first.after? (date.day - 1) = some date := after?_within hfirst.symm (by omega)
  have hlater : first.after? (daysOfMonths months date.yearMonth + (later.day - 1)) =
      some later := by
    have hmonth' : last.yearMonth = laterMonth months first.yearMonth := by
      rw [hlast, hfirst]
      exact Prod.ext hyear hmonth
    have hmonths := after?_months hfirstDay hmonth' hlastDay
    rw [hfirst] at hmonths
    rw [after?_add, hmonths, Option.bind_some]
    exact after?_within hlast.symm (by omega)
  have hdays := daysInMonth_le_daysOfMonths hmonths date.yearMonth
  -- The days from the first one of the month up to the date are taken away again.
  have hsplit : daysOfMonths months date.yearMonth + (later.day - 1) =
      (date.day - 1) + (daysOfMonths months date.yearMonth + later.day - date.day) := by
    have hdays' : daysInMonth date.year date.month ≤ daysOfMonths months date.yearMonth := hdays
    omega
  rwa [hsplit, after?_add, hdate, Option.bind_some] at hlater

end Days

end Date

/-- What an instant a number of calendar months later is: the same time of day, on the same day of
the later month or on its last one. -/
structure Instant.IsMonthsLater (months : Nat) (t later : Instant) : Prop where
  yearMonth : later.date.yearMonth = laterMonth months t.date.yearMonth
  day : later.date.day = min t.date.day (daysInMonth later.date.year later.date.month)
  second : later.second = t.second
  nanos : later.nanos = t.nanos

theorem Instant.isMonthsLater_of_addMonths? {months : Nat} {t later : Instant}
    (h : t.addMonths? months = some later) : t.IsMonthsLater months later := by
  obtain ⟨date, hdate, rfl⟩ := Option.map_eq_some_iff.1 h
  rw [Date.addMonths?_eq] at hdate
  obtain ⟨hyear, hmonth, hday⟩ := Date.parts_of_ofParts? hdate
  rw [← hyear, ← hmonth] at hday
  exact ⟨Prod.ext hyear hmonth, hday, rfl, rfl⟩

namespace GrantPeriod

/-- The numbers of days that a period can take. -/
def Takes (days : Nat) : GrantPeriod → Prop
  | month => 28 ≤ days ∧ days ≤ 31
  | year => days = 365 ∨ days = 366

theorem takes_of_addMonths? {period : GrantPeriod} {date later : Date}
    (h : date.addMonths? period.months = some later) :
    period.Takes (daysOfMonths period.months date.yearMonth + later.day - date.day) := by
  rw [Date.addMonths?_eq] at h
  obtain ⟨-, -, hday⟩ := Date.parts_of_ofParts? h
  have hpos := date.day_pos
  have hle := date.day_le
  cases period with
  | month =>
    have hlength := le_daysInMonth date.year date.month
    have hlength' := daysInMonth_le date.year date.month
    have hnext := le_daysInMonth (followingMonth date.yearMonth).1 (followingMonth date.yearMonth).2
    have hdays : daysOfMonths 1 date.yearMonth = daysInMonth date.year date.month := rfl
    simp only [months, laterMonth] at hday
    rw [months, hdays, Takes]
    omega
  | year =>
    have hnext : laterMonth 12 date.yearMonth = (date.year + 1, date.month) := by
      rw [Date.yearMonth, laterMonth_eq date.month_pos date.month_le, Prod.mk.injEq]
      have := date.month_pos
      have := date.month_le
      omega
    have hdays : daysOfMonths 12 date.yearMonth = _ :=
      daysOfMonths_year date.year date.month_pos date.month_le
    have hfebruary : ∀ year, daysInMonth year 2 = 28 ∨ daysInMonth year 2 = 29 := by
      intro year
      rw [daysInMonth, if_pos rfl]
      split <;> simp
    simp only [months, hnext] at hday
    rw [months, hdays, Takes]
    by_cases hmonth : date.month = 2
    · -- Only the 29th of February can be missing a year later.
      rw [hmonth] at hle hday
      rw [hmonth, if_pos le_rfl]
      have hthis := hfebruary date.year
      have hthen := hfebruary (date.year + 1)
      omega
    · have hsame : daysInMonth (date.year + 1) date.month = daysInMonth date.year date.month := by
        rw [daysInMonth, daysInMonth, if_neg hmonth, if_neg hmonth]
      have hthen := hfebruary (if date.month ≤ 2 then date.year else date.year + 1)
      rw [hsame] at hday
      omega

/-- **Calendar arithmetic.** A grant ends a number of calendar months after it was given, unless the
calendar ends before. The end is later than the beginning, by as many days as the months have. -/
theorem expiry_is_calendar_arithmetic (period : GrantPeriod) (now : Instant) :
    let month := laterMonth period.months now.date.yearMonth
    (period.expiry now = .error (.invalidArgument (.overflow period now)) ↔ maxYear < month.1) ∧
    (month.1 ≤ maxYear → ∃ expiresAt, period.expiry now = .ok expiresAt ∧
      now.IsMonthsLater period.months expiresAt ∧ now < expiresAt ∧
      ∃ days, now.date.after? days = some expiresAt.date ∧ period.Takes days) := by
  intro month
  have hexpiry : month.1 ≤ maxYear → ∃ expiresAt, period.expiry now = .ok expiresAt ∧
      now.addMonths? period.months = some expiresAt := by
    intro hmax
    have hmin : minYear ≤ month.1 := now.date.minYear_le.trans (le_fst_laterMonth _ _)
    obtain ⟨hpos, hle⟩ := @laterMonth_mem period.months now.date.yearMonth now.date.month_pos
      now.date.month_le
    obtain ⟨date, hdate⟩ := Date.exists_ofParts? hmin hmax hpos hle now.date
    have hadd : now.addMonths? period.months = some { now with date } := by
      rw [Instant.addMonths?, Date.addMonths?_eq, hdate]
      rfl
    exact ⟨_, by rw [expiry, hadd], hadd⟩
  refine ⟨⟨fun herror => ?_, fun hmax => ?_⟩, fun hmax => ?_⟩
  · by_contra hmax
    obtain ⟨expiresAt, hok, -⟩ := hexpiry (not_lt.1 hmax)
    rw [hok] at herror
    cases herror
  · have hnone : now.addMonths? period.months = none := by
      rw [Instant.addMonths?, Date.addMonths?_eq, Date.ofParts?_eq_none hmax]
      rfl
    rw [expiry, hnone]
  · obtain ⟨expiresAt, hok, hadd⟩ := hexpiry hmax
    obtain ⟨date, hdate, hsame⟩ := Option.map_eq_some_iff.1 hadd
    refine ⟨expiresAt, hok, Instant.isMonthsLater_of_addMonths? hadd,
      Instant.lt_of_addMonths? period.months_pos hadd, _, ?_, takes_of_addMonths? hdate⟩
    rw [Date.after?_of_addMonths? period.months_pos hdate, ← hsame]

end GrantPeriod

/-- A day that a month does not have gives way to its last day, the 29th of February if there is
one. -/
example :
    ((Date.ofParts? 2024 1 31).bind (·.addMonths? 1)).map Date.day = some 29 ∧
      ((Date.ofParts? 2024 2 29).bind (·.addMonths? 12)).map Date.day = some 28 := by
  decide

end FieldAccess
