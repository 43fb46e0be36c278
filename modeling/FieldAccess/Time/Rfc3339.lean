import FieldAccess.Time.Instant
import FieldAccess.Text.Trim

/-!
# Instants as texts

Instants are written as RFC 3339 prescribes, in universal time: `2026-01-15T10:00:00Z`. The
fraction of the second has as few groups of three digits as are needed. Years outside of 0 to 9999
carry a sign.

Reading is more lenient than the standard: blanks may stand between the parts of a date and of a
time, a date and a time may be separated by a blank, the offset may be written without a colon or
as `UTC`, digits of the fraction past the ninth are ignored, and `:60` is the leap second of any
minute.

## Main definitions

* `Instant.toText`, `Instant.toMillisText` – the written forms.
* `Instant.display` – the form used in messages.
* `Instant.read` – reading of a text.
-/

namespace FieldAccess

namespace Instant

/-- A number with zeros in front up to `width` digits. -/
def padded (width n : Nat) : String :=
  let digits := (toString n).toList
  String.ofList (List.replicate (width - digits.length) '0' ++ digits)

/-- A year: four digits, with a sign when it is outside of 0 to 9999. -/
def yearText (year : Int) : String :=
  if 0 ≤ year then if year ≤ 9999 then padded 4 year.toNat else "+" ++ padded 4 year.toNat
  else "-" ++ padded 4 (-year).toNat

/-- A date. -/
def dateText (date : Date) : String :=
  s!"{yearText date.year}-{padded 2 date.month}-{padded 2 date.day}"

/-- A time of day to the second. -/
def clockText (t : Instant) : String :=
  let (hour, minute, second) := t.clock
  s!"{padded 2 hour}:{padded 2 minute}:{padded 2 second}"

/-- The fraction of the second: nothing when it is zero, else three, six or nine digits. -/
def fractionText (nanos : Nat) : String :=
  if nanos = 0 then ""
  else if nanos % 1000000 = 0 then "." ++ padded 3 (nanos / 1000000)
  else if nanos % 1000 = 0 then "." ++ padded 6 (nanos / 1000)
  else "." ++ padded 9 nanos

/-- The written form of an instant. -/
def toText (t : Instant) : String :=
  s!"{dateText t.date}T{t.clockText}{fractionText t.fraction}Z"

/-- The written form with exactly three digits of the fraction, the others cut off. -/
def toMillisText (t : Instant) : String :=
  s!"{dateText t.date}T{t.clockText}.{padded 3 (t.fraction / 1000000)}Z"

/-- The form of an instant in messages. -/
def display (t : Instant) : String :=
  s!"{dateText t.date} {t.clockText}{fractionText t.fraction} UTC"

/-- Why a text is not read as an instant. -/
inductive ReadError where
  | outOfRange
  | noSuchTime
  | invalid
  | tooShort
  | tooLong
  deriving Repr, DecidableEq

/-- The wording of a reading error. -/
def ReadError.message : ReadError → String
  | outOfRange => "input is out of range"
  | noSuchTime => "no possible date and time matching input"
  | invalid => "input contains invalid characters"
  | tooShort => "premature end of input"
  | tooLong => "trailing input"

namespace Reader

open Text

/-- Reading from the front of a text. -/
abbrev Step (α : Type) := List Char → Except ReadError (α × List Char)

/-- The largest number that a part may have before its range is looked at. -/
def maxNumber : Nat := Nat.pow 2 63 - 1

/-- Reads digits, at least one and at most `width`. -/
def number (width : Nat) : Step Nat := fun text =>
  match text with
  | [] => .error .tooShort
  | c :: _ =>
    if isDigit c then
      let digits := (text.take width).takeWhile isDigit
      let value := digits.foldl (fun n d => n * 10 + (d.toNat - '0'.toNat)) 0
      if maxNumber < value then .error .outOfRange
      else .ok (value, text.drop digits.length)
    else .error .invalid

/-- Reads a number in the given range, after blanks. -/
def part (low high : Nat) : Step Nat := fun text => do
  let (value, rest) ← number 2 (trimStart text)
  if low ≤ value && value ≤ high then .ok (value, rest) else .error .outOfRange

/-- Reads a sign character, after blanks. -/
def separator (sign : Char) : Step Unit := fun text =>
  match trimStart text with
  | [] => .error .tooShort
  | c :: rest => if c = sign then .ok ((), rest) else .error .invalid

/-- Reads a year: up to four digits, or any number of digits after a sign. -/
def year : Step Int := fun text => do
  let (value, rest) ← match trimStart text with
    | '-' :: rest => do
      let (n, after) ← number rest.length rest
      pure (-(n : Int), after)
    | '+' :: rest => do
      let (n, after) ← number rest.length rest
      pure ((n : Int), after)
    | rest => do
      let (n, after) ← number 4 rest
      pure ((n : Int), after)
  if -(Nat.pow 2 31 : Nat) ≤ value && value < Nat.pow 2 31 then .ok (value, rest)
  else .error .outOfRange

/-- Reads the character between the date and the time. -/
def dateEnd : Step Unit := fun text =>
  match text with
  | 't' :: rest | 'T' :: rest | ' ' :: rest => .ok ((), rest)
  | [] => .error .tooShort
  | _ => .error .invalid

/-- Reads the fraction of a second in nanoseconds, when there is one. -/
def nanoseconds : Step Nat := fun text =>
  match text with
  | '.' :: rest => do
    let (value, after) ← number 9 rest
    let size := rest.length - after.length
    .ok (value * Nat.pow 10 (9 - size), after.dropWhile isDigit)
  | rest => .ok (0, rest)

/-- Whether less than two bytes of UTF-8 are left. -/
def isAlmostEmpty (text : List Char) : Bool :=
  match text with
  | [] => true
  | [c] => c.toNat < 0x80
  | _ => false

/-- Reads two digits, the first of them at most `first`. -/
def twoDigits (first : Char) : Step Nat := fun text =>
  if isAlmostEmpty text then .error .tooShort
  else
    match text with
    | a :: b :: rest =>
      if isDigit a && isDigit b then
        if a ≤ first then
          .ok ((a.toNat - '0'.toNat) * 10 + (b.toNat - '0'.toNat), rest)
        else .error .outOfRange
      else .error .invalid
    | _ => .error .invalid

/-- Reads the sign of an offset: whether it is negative. -/
def offsetSign : Step Bool := fun text =>
  match text with
  | [] => .error .tooShort
  | c :: rest =>
    if c = '+' then .ok (false, rest)
    else if c = '-' || c.toNat = 0x2212 then .ok (true, rest)
    else .error .invalid

/-- Whether a text starts with the letters `UTC` in any case. -/
def startsWithUtc (text : List Char) : Bool :=
  match text with
  | u :: t :: c :: _ =>
    (u = 'U' || u = 'u') && (t = 'T' || t = 't') && (c = 'C' || c = 'c')
  | _ => false

/-- Reads an offset from universal time, in seconds. -/
def offset : Step Int := fun text =>
  match text with
  | 'Z' :: rest | 'z' :: rest => .ok (0, rest)
  | text =>
    if startsWithUtc text then .ok (0, text.drop 3)
    else do
      let (negative, rest) ← offsetSign text
      let (hours, rest) ← twoDigits '9' rest
      let rest := rest.dropWhile fun c => c == ':' || isBlank c
      let (minutes, rest) ← twoDigits '5' rest
      let seconds : Int := hours * 3600 + minutes * 60
      .ok (if negative then -seconds else seconds, rest)

/-- The instant of a local date and time with an offset. -/
def universal (date : Date) (second nanos : Nat) (offset : Int) : Except ReadError Instant :=
  if offset ≤ -86400 || 86400 ≤ offset then .error .outOfRange
  else
    let shifted := (second : Int) - offset
    let day := if shifted < 0 then date.previous?
      else if (secondsOfDay : Int) ≤ shifted then date.next? else some date
    match day.bind fun date => ofParts? date (shifted % secondsOfDay).toNat nanos with
    | some t => .ok t
    | none => .error .noSuchTime

end Reader

open Reader in
/-- Reads an instant. -/
def read (text : String) : Except ReadError Instant := do
  let (year, rest) ← year text.toList
  let (_, rest) ← separator '-' rest
  let (month, rest) ← part 1 12 rest
  let (_, rest) ← separator '-' rest
  let (day, rest) ← part 1 31 rest
  let (_, rest) ← dateEnd rest
  let (hour, rest) ← part 0 23 rest
  let (_, rest) ← separator ':' rest
  let (minute, rest) ← part 0 59 rest
  let (_, rest) ← separator ':' rest
  let (second, rest) ← part 0 60 rest
  let (nanos, rest) ← nanoseconds rest
  let (offset, rest) ← offset (Text.trimStart rest)
  if (Text.trimStart rest).isEmpty then
    match Date.ofParts? year month day with
    | none => .error .outOfRange
    | some date =>
      let (second, nanos) := if second = 60 then (59, nanos + nanosOfSecond) else (second, nanos)
      universal date (hour * 3600 + minute * 60 + second) nanos offset
  else .error .tooLong

end Instant

end FieldAccess
