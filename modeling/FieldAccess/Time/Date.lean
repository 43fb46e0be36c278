/-!
# Dates

Dates of the Gregorian calendar, extended to all years from -262143 to 262142. A date is given by
its year, month and day.

## Main definitions

* `Date` – a date that exists.
* `Date.next?`, `Date.previous?` – the neighbours of a date.
* `Date.after?` – the date a number of days later.
* `Date.addMonths?` – the date a number of months later.
-/

namespace FieldAccess

/-- The first year with dates. -/
def minYear : Int := -262143

/-- The last year with dates. -/
def maxYear : Int := 262142

/-- Whether a year has a 29th of February. -/
def isLeapYear (year : Int) : Bool := year % 4 = 0 && (year % 100 ≠ 0 || year % 400 = 0)

/-- The number of days of a month. -/
def daysInMonth (year : Int) (month : Nat) : Nat :=
  if month = 2 then if isLeapYear year then 29 else 28
  else if month = 4 ∨ month = 6 ∨ month = 9 ∨ month = 11 then 30
  else 31

/-- Every month has 28 days or more. -/
theorem le_daysInMonth (year : Int) (month : Nat) : 28 ≤ daysInMonth year month := by
  unfold daysInMonth
  split
  · split <;> omega
  · split <;> omega

/-- A date of the calendar. -/
structure Date where
  year : Int
  month : Nat
  day : Nat
  minYear_le : minYear ≤ year
  le_maxYear : year ≤ maxYear
  month_pos : 1 ≤ month
  month_le : month ≤ 12
  day_pos : 1 ≤ day
  day_le : day ≤ daysInMonth year month
  deriving Repr, DecidableEq

namespace Date

/-- The date with the given parts, if there is one. -/
def ofParts? (year : Int) (month day : Nat) : Option Date :=
  if h : minYear ≤ year ∧ year ≤ maxYear ∧ 1 ≤ month ∧ month ≤ 12 ∧ 1 ≤ day ∧
      day ≤ daysInMonth year month then
    some ⟨year, month, day, h.1, h.2.1, h.2.2.1, h.2.2.2.1, h.2.2.2.2.1, h.2.2.2.2.2⟩
  else none

/-- The first day of the year 1970. -/
def epoch : Date :=
  ⟨1970, 1, 1, by decide, by decide, by decide, by decide, by decide, by decide⟩

instance : Inhabited Date := ⟨epoch⟩

/-- The day after, unless the date is the last one. -/
def next? (date : Date) : Option Date :=
  if date.day < daysInMonth date.year date.month then
    ofParts? date.year date.month (date.day + 1)
  else if date.month < 12 then ofParts? date.year (date.month + 1) 1
  else ofParts? (date.year + 1) 1 1

/-- The day before, unless the date is the first one. -/
def previous? (date : Date) : Option Date :=
  if 1 < date.day then ofParts? date.year date.month (date.day - 1)
  else if 1 < date.month then
    ofParts? date.year (date.month - 1) (daysInMonth date.year (date.month - 1))
  else ofParts? (date.year - 1) 12 31

/-- The date a number of days later, unless the calendar ends before. -/
def after? (date : Date) : (days : Nat) → Option Date
  | 0 => some date
  | days + 1 => date.next?.bind fun next => next.after? days

/-- The months since the beginning of the year 0. -/
def monthIndex (date : Date) : Int := date.year * 12 + (date.month - 1 : Nat)

/-- The date `months` months later. A day that the month does not have gives way to the last day of
the month. There is none after the last year. -/
def addMonths? (date : Date) (months : Nat) : Option Date :=
  let index := date.monthIndex + months
  let year := index / 12
  let month := (index % 12).toNat + 1
  ofParts? year month (min date.day (daysInMonth year month))

end Date

end FieldAccess
