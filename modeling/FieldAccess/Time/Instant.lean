import FieldAccess.Time.Date

/-!
# Instants

Points in time to the nanosecond, in universal time. An instant is a date and a time of day; inside
a leap second, which extends the last second of a minute, the nanoseconds go on past a full second.

## Main definitions

* `Instant` – a point in time.
* `Instant.sinceEpoch?` – the instants since the year 1970.
* `Instant.Before` – the order of time.
* `Instant.addMonths?` – the same time of day a number of months later.
-/

namespace FieldAccess

/-- A nanosecond count of a second and of the leap second that may follow it. -/
def nanosOfSecond : Nat := 1000000000

/-- The number of seconds of a day. -/
def secondsOfDay : Nat := 86400

/-- A point in time. -/
structure Instant where
  date : Date
  second : Nat
  nanos : Nat
  second_lt : second < secondsOfDay
  nanos_lt : nanos < 2 * nanosOfSecond
  leap : nanosOfSecond ≤ nanos → second % 60 = 59
  deriving Repr, DecidableEq

namespace Instant

/-- The instant with the given parts, if there is one. -/
def ofParts? (date : Date) (second nanos : Nat) : Option Instant :=
  if h : second < secondsOfDay ∧ nanos < 2 * nanosOfSecond ∧
      (nanosOfSecond ≤ nanos → second % 60 = 59) then
    some ⟨date, second, nanos, h.1, h.2.1, h.2.2⟩
  else none

/-- The midnight at which a date begins. -/
def midnight (date : Date) : Instant := ⟨date, 0, 0, by decide, by decide, by decide⟩

instance : Inhabited Instant := ⟨midnight default⟩

/-- The instant a number of seconds and nanoseconds after the beginning of the year 1970. -/
def sinceEpoch? (seconds nanos : Nat) : Option Instant := do
  let date ← Date.epoch.after? (seconds / secondsOfDay)
  ofParts? date (seconds % secondsOfDay) nanos

/-- The parts of an instant, from the year down to the nanosecond. -/
def parts (t : Instant) : List Int :=
  [t.date.year, t.date.month, t.date.day, t.second, t.nanos]

/-- The order of time. -/
def Before (s t : Instant) : Prop := s.parts < t.parts

instance : LT Instant := ⟨Before⟩

instance (s t : Instant) : Decidable (s < t) := inferInstanceAs (Decidable (s.parts < t.parts))

instance : LE Instant := ⟨fun s t => ¬ t < s⟩

instance (s t : Instant) : Decidable (s ≤ t) := inferInstanceAs (Decidable (¬ t < s))

/-- The same time of day `months` months later, unless the calendar ends before. -/
def addMonths? (t : Instant) (months : Nat) : Option Instant :=
  (t.date.addMonths? months).map fun date => { t with date }

/-- The hours, minutes and seconds of the time of day; in a leap second the seconds are sixty. -/
def clock (t : Instant) : Nat × Nat × Nat :=
  (t.second / 3600, t.second / 60 % 60, t.second % 60 + t.nanos / nanosOfSecond)

/-- The nanoseconds since the last full second. -/
def fraction (t : Instant) : Nat := t.nanos % nanosOfSecond

end Instant

end FieldAccess
