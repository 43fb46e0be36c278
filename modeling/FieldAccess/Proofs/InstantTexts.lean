import Mathlib.Algebra.Group.Nat.Defs
import FieldAccess.Time.Rfc3339

/-!
# Instants from their texts

The written form of an instant is read as this instant, to the nanosecond and for all years: each
part of the text is read up to the character behind it, where no further digit can follow.

## Main definitions

* `Instant.Writes` – digits that write a number.

## Main statements

* `Instant.Writes.number_eq` – digits are read up to their end.
* `Instant.nanoseconds_fractionText` – a fraction is read, whatever its number of digits.
* `Instant.read_toText` – an instant is read from its text.
-/

namespace FieldAccess.Instant

open Text Reader

/-- Digits that write a number. -/
structure Writes (digits : List Char) (n : Nat) : Prop where
  ne_nil : digits ≠ []
  isDigit : ∀ c ∈ digits, isDigit c = true
  value : Nat.ofDigitChars 10 digits 0 = n

section Numbers

theorem toNat_of_isDigit {c : Char} (h : isDigit c = true) : 48 ≤ c.toNat ∧ c.toNat ≤ 57 := by
  simp only [Text.isDigit, Bool.and_eq_true, decide_eq_true_eq] at h
  exact h

theorem isBlank_of_isDigit {c : Char} (h : isDigit c = true) : isBlank c = false := by
  have hrange := toNat_of_isDigit h
  simp only [isBlank]
  rw [if_pos (by omega)]
  simp only [Bool.or_eq_false_iff, Bool.and_eq_false_iff, decide_eq_false_iff_not,
    beq_eq_false_iff_ne]
  omega

theorem le_maxNumber {n : Nat} (hn : n < 10 ^ 18) : n ≤ maxNumber := by
  have hmax : maxNumber = 9223372036854775807 := rfl
  omega

theorem toList_padded (width n : Nat) :
    (padded width n).toList =
      List.replicate (width - (Nat.toDigits 10 n).length) '0' ++ Nat.toDigits 10 n := by
  simp [padded]

/-- Zeros in front do not change what digits write. -/
theorem writes_padded (width n : Nat) : Writes (padded width n).toList n where
  ne_nil := by simp [toList_padded]
  isDigit c hc := by
    rw [toList_padded, List.mem_append] at hc
    rcases hc with hzero | hdigit
    · rw [List.eq_of_mem_replicate hzero]
      rfl
    · have h := Nat.isDigit_of_mem_toDigits (by decide) (by decide) hdigit
      simp only [Char.isDigit, Bool.and_eq_true, decide_eq_true_eq] at h
      simp only [Text.isDigit, Bool.and_eq_true, decide_eq_true_eq]
      exact h
  value := by
    rw [toList_padded, Nat.ofDigitChars_append, Nat.ofDigitChars_replicate_zero, Nat.mul_zero,
      Nat.ofDigitChars_ten_toDigits]

/-- A number that has at most `width` digits is written with `width` digits. -/
theorem length_padded {width n : Nat} (hwidth : 0 < width) (hn : n < 10 ^ width) :
    (padded width n).toList.length = width := by
  have hdigits := (Nat.length_toDigits_le_iff (by decide) hwidth).2 hn
  rw [toList_padded, List.length_append, List.length_replicate]
  omega

namespace Writes

variable {digits rest : List Char} {n : Nat}

/-- Digits write the number that they have digit by digit. -/
theorem of_foldl (hne : digits ≠ []) (hdigits : ∀ c ∈ digits, Text.isDigit c = true) :
    Writes digits (digits.foldl (fun n d => n * 10 + (d.toNat - '0'.toNat)) 0) where
  ne_nil := hne
  isDigit := hdigits
  value := by
    rw [Nat.ofDigitChars_eq_foldl]
    simp only [Nat.mul_comm]

theorem exists_cons (h : Writes digits n) :
    ∃ c more, digits = c :: more ∧ Text.isDigit c = true := by
  cases digits with
  | nil => exact absurd rfl h.ne_nil
  | cons c more => exact ⟨c, more, rfl, h.isDigit c List.mem_cons_self⟩

/-- The number digit by digit. -/
theorem foldl_eq (h : Writes digits n) :
    digits.foldl (fun n d => n * 10 + (d.toNat - '0'.toNat)) 0 = n :=
  (of_foldl h.ne_nil h.isDigit).value.symm.trans h.value

/-- There are no blanks in front of digits. -/
theorem trimStart_append (h : Writes digits n) (rest : List Char) :
    trimStart (digits ++ rest) = digits ++ rest := by
  obtain ⟨c, more, rfl, hc⟩ := h.exists_cons
  rw [trimStart, List.cons_append, List.dropWhile_cons_of_neg]
  rw [isBlank_of_isDigit hc]
  decide

/-- **Numbers.** Digits are read up to their end, if there are as many as may be read or no further
one follows. -/
theorem number_eq (h : Writes digits n) {width : Nat} (hlength : digits.length ≤ width)
    (hend : digits.length = width ∨ ∀ c ∈ rest.head?, Text.isDigit c = false)
    (hn : n < 10 ^ 18) : number width (digits ++ rest) = .ok (n, rest) := by
  -- Either nothing more may be read behind the digits, or what stands there ends the number.
  have hbehind : (rest.take (width - digits.length)).takeWhile Text.isDigit = [] := by
    rcases hend with hfull | hother
    · rw [hfull, Nat.sub_self, List.take_zero, List.takeWhile_nil]
    · cases rest with
      | nil => simp
      | cons c rest =>
        cases width - digits.length with
        | zero => simp
        | succ k => simp [hother c rfl]
  have htaken : ((digits ++ rest).take width).takeWhile Text.isDigit = digits := by
    rw [List.take_append, List.take_of_length_le hlength, List.takeWhile_append_of_pos h.isDigit,
      hbehind, List.append_nil]
  obtain ⟨c, more, hdigits, hc⟩ := h.exists_cons
  have hstart : digits ++ rest = c :: (more ++ rest) := by rw [hdigits, List.cons_append]
  have hmax := le_maxNumber hn
  rw [hstart]
  simp only [number, hc, if_true]
  rw [← hstart, htaken, h.foldl_eq, if_neg (by omega), List.drop_left]

end Writes

end Numbers

section Dates

theorem part_padded {low high n : Nat} (hn : n < 100) (hlow : low ≤ n) (hhigh : n ≤ high)
    (rest : List Char) : part low high ((padded 2 n).toList ++ rest) = .ok (n, rest) := by
  have hwrites := writes_padded 2 n
  have hlength := length_padded (by decide : 0 < 2) hn
  rw [part, hwrites.trimStart_append,
    hwrites.number_eq (Nat.le_of_eq hlength) (.inl hlength) (by omega)]
  change (if (decide (low ≤ n) && decide (n ≤ high)) = true then _ else _) = _
  rw [if_pos (by simp [hlow, hhigh])]

theorem separator_hyphen (rest : List Char) : separator '-' ('-' :: rest) = .ok ((), rest) := rfl

theorem separator_colon (rest : List Char) : separator ':' (':' :: rest) = .ok ((), rest) := rfl

section Years

variable {text digits after : List Char} {n : Nat}

/-- The bound of years, made a variable so that nothing is computed with it. -/
theorem exists_bound : ∃ bound, Nat.pow 2 31 = bound ∧ 1000000 ≤ bound := ⟨_, rfl, by decide⟩

theorem year_of_sign {sign : Char} {y : Int} (hsign : sign = '-' ∧ y = -n ∨ sign = '+' ∧ y = n)
    (hstart : trimStart text = sign :: digits)
    (hread : number digits.length digits = .ok (n, after)) (hn : n < 1000000) :
    year text = .ok (y, after) := by
  obtain ⟨bound, hpow, hbound⟩ := exists_bound
  rw [year, hstart, hpow]
  rcases hsign with ⟨rfl, rfl⟩ | ⟨rfl, rfl⟩
  all_goals
    simp only [hread, bind, Except.bind, pure, Except.pure]
    rw [if_pos]
    rw [Bool.and_eq_true, decide_eq_true_eq, decide_eq_true_eq]
    omega

theorem year_of_digit {c : Char} (hc : isDigit c = true) (hstart : trimStart text = c :: digits)
    (hread : number 4 (c :: digits) = .ok (n, after)) (hn : n < 1000000) :
    year text = .ok (n, after) := by
  have hrange := toNat_of_isDigit hc
  obtain ⟨bound, hpow, hbound⟩ := exists_bound
  rw [year, hstart, hpow]
  split
  · rename_i hsign
    rw [(List.cons.inj hsign).1] at hrange
    exact absurd hrange.1 (by decide)
  · rename_i hsign
    rw [(List.cons.inj hsign).1] at hrange
    exact absurd hrange.1 (by decide)
  simp only [hread, bind, Except.bind, pure, Except.pure]
  rw [if_pos]
  rw [Bool.and_eq_true, decide_eq_true_eq, decide_eq_true_eq]
  omega

end Years

/-- **Years.** A year is read with its sign, up to a hyphen. -/
theorem year_yearText {y : Int} (hlow : minYear ≤ y) (hhigh : y ≤ maxYear) (rest : List Char) :
    year ((yearText y).toList ++ '-' :: rest) = .ok (y, '-' :: rest) := by
  simp only [minYear, maxYear] at hlow hhigh
  -- Behind a sign any number of digits may be read, so that the hyphen has to end them.
  have hsigned (n : Nat) (hn : n < 10 ^ 18) :
      number ((padded 4 n).toList ++ '-' :: rest).length ((padded 4 n).toList ++ '-' :: rest) =
        .ok (n, '-' :: rest) := by
    refine (writes_padded 4 n).number_eq (by simp) (.inr ?_) hn
    intro c hc
    obtain rfl := Option.some.inj hc
    rfl
  by_cases hneg : y < 0
  · have htext : (yearText y).toList = '-' :: (padded 4 (-y).toNat).toList := by
      rw [yearText, if_neg (by omega)]
      simp
    exact year_of_sign (.inl ⟨rfl, by omega⟩) (by rw [htext]; rfl)
      (hsigned (-y).toNat (by omega)) (by omega)
  by_cases hlong : 9999 < y
  · have htext : (yearText y).toList = '+' :: (padded 4 y.toNat).toList := by
      rw [yearText, if_pos (by omega), if_neg (by omega)]
      simp
    exact year_of_sign (.inr ⟨rfl, by omega⟩) (by rw [htext]; rfl)
      (hsigned y.toNat (by omega)) (by omega)
  · have htext : (yearText y).toList = (padded 4 y.toNat).toList := by
      rw [yearText, if_pos (by omega), if_pos (by omega)]
    have hwrites := writes_padded 4 y.toNat
    have hlength := @length_padded 4 y.toNat (by decide) (by omega)
    have hnumber : number 4 ((padded 4 y.toNat).toList ++ '-' :: rest) =
        .ok (y.toNat, '-' :: rest) :=
      hwrites.number_eq (Nat.le_of_eq hlength) (.inl hlength) (by omega)
    have htrim := hwrites.trimStart_append ('-' :: rest)
    obtain ⟨c, more, hdigits, hc⟩ := hwrites.exists_cons
    rw [hdigits, List.cons_append] at hnumber htrim
    have hread := year_of_digit hc htrim hnumber (by omega)
    rwa [Int.toNat_of_nonneg (by omega), ← List.cons_append, ← hdigits, ← htext] at hread

end Dates

section Fractions

theorem nanoseconds_padded {width n : Nat} (hwidth : 0 < width) (hle : width ≤ 9)
    (hn : n < 10 ^ width) (rest : List Char) :
    nanoseconds ('.' :: ((padded width n).toList ++ 'Z' :: rest)) =
      .ok (n * 10 ^ (9 - width), 'Z' :: rest) := by
  have hlength := length_padded hwidth hn
  have hpow : 10 ^ width ≤ 10 ^ 9 := Nat.pow_le_pow_right (by decide) hle
  have hread : number 9 ((padded width n).toList ++ 'Z' :: rest) = .ok (n, 'Z' :: rest) := by
    refine (writes_padded width n).number_eq (by omega) (.inr ?_) (by omega)
    intro c hc
    obtain rfl := Option.some.inj hc
    rfl
  have hsize : ((padded width n).toList ++ 'Z' :: rest).length - ('Z' :: rest).length = width := by
    rw [List.length_append, Nat.add_sub_cancel, hlength]
  rw [nanoseconds]
  simp only [hread]
  change Except.ok (n * Nat.pow 10 (9 - (_ - _)), _) = _
  rw [hsize]
  rfl

/-- **Fractions.** The digits of a fraction are read, however many of them are left out. -/
theorem nanoseconds_fractionText {nanos : Nat} (hnanos : nanos < nanosOfSecond)
    (rest : List Char) :
    nanoseconds ((fractionText nanos).toList ++ 'Z' :: rest) = .ok (nanos, 'Z' :: rest) := by
  simp only [nanosOfSecond] at hnanos
  unfold fractionText
  by_cases hzero : nanos = 0
  · rw [if_pos hzero, hzero]
    rfl
  rw [if_neg hzero]
  -- Three digits are written, or six, or nine: as many triples as are not zero at the end.
  by_cases hmillis : nanos % 1000000 = 0
  · have hread := @nanoseconds_padded 3 (nanos / 1000000) (by decide) (by decide) (by omega) rest
    rw [if_pos hmillis]
    simpa [Nat.div_mul_cancel (Nat.dvd_of_mod_eq_zero hmillis)] using hread
  rw [if_neg hmillis]
  by_cases hmicros : nanos % 1000 = 0
  · have hread := @nanoseconds_padded 6 (nanos / 1000) (by decide) (by decide) (by omega) rest
    rw [if_pos hmicros]
    simpa [Nat.div_mul_cancel (Nat.dvd_of_mod_eq_zero hmicros)] using hread
  · have hread := @nanoseconds_padded 9 nanos (by decide) (by decide) (by omega) rest
    rw [if_neg hmicros]
    simpa using hread

end Fractions

section Texts

variable (t : Instant)

theorem toList_toText : t.toText.toList =
    (yearText t.date.year).toList ++ '-' :: ((padded 2 t.date.month).toList ++
      '-' :: ((padded 2 t.date.day).toList ++ 'T' :: ((padded 2 t.clock.1).toList ++
        ':' :: ((padded 2 t.clock.2.1).toList ++ ':' :: ((padded 2 t.clock.2.2).toList ++
          ((fractionText t.fraction).toList ++ ['Z'])))))) := by
  have htext : t.toText = yearText t.date.year ++ "-" ++ padded 2 t.date.month ++ "-" ++
      padded 2 t.date.day ++ "T" ++ (padded 2 t.clock.1 ++ ":" ++ padded 2 t.clock.2.1 ++ ":" ++
        padded 2 t.clock.2.2) ++ fractionText t.fraction ++ "Z" := rfl
  simp [htext]

theorem day_le : t.date.day ≤ 31 := by
  have hday := t.date.day_le
  have hdays : daysInMonth t.date.year t.date.month ≤ 31 := by
    unfold daysInMonth
    split
    · split <;> omega
    · split <;> omega
  omega

theorem ofParts?_date : Date.ofParts? t.date.year t.date.month t.date.day = some t.date :=
  dif_pos ⟨t.date.minYear_le, t.date.le_maxYear, t.date.month_pos, t.date.month_le, t.date.day_pos,
    t.date.day_le⟩

theorem universal_zero : universal t.date t.second t.nanos 0 = .ok t := by
  have hsecond := t.second_lt
  have hday : ¬ ((t.second : Int) - 0 < 0) := by omega
  have hnext : ¬ ((secondsOfDay : Int) ≤ (t.second : Int) - 0) := by omega
  have hmod : (((t.second : Int) - 0) % secondsOfDay).toNat = t.second := by
    rw [Int.sub_zero, Int.emod_eq_of_lt (by omega) (by omega), Int.toNat_natCast]
  have hparts : ofParts? t.date t.second t.nanos = some t :=
    dif_pos ⟨t.second_lt, t.nanos_lt, t.leap⟩
  rw [universal, if_neg (by decide)]
  simp only [if_neg hday, if_neg hnext, hmod, Option.bind_some, hparts]

/-- The clock and the fraction give the second and its nanoseconds, in a leap second too. -/
theorem clock_eq {time : Nat × Nat} (htime : time = if t.clock.2.2 = 60
      then (59, t.fraction + nanosOfSecond) else (t.clock.2.2, t.fraction)) :
    t.clock.1 * 3600 + t.clock.2.1 * 60 + time.1 = t.second ∧ time.2 = t.nanos := by
  have hnanos := t.nanos_lt
  have hleap := t.leap
  have hseconds : t.clock.2.2 = t.second % 60 + t.nanos / nanosOfSecond := rfl
  have hfraction : t.fraction = t.nanos % nanosOfSecond := rfl
  have hhours : t.clock.1 = t.second / 3600 := rfl
  have hminutes : t.clock.2.1 = t.second / 60 % 60 := rfl
  simp only [nanosOfSecond] at *
  -- A leap second goes on after the 59th, and is written as the 60th.
  by_cases hlong : 1000000000 ≤ t.nanos
  · have hlast := hleap hlong
    rw [if_pos (by omega)] at htime
    rw [htime]
    omega
  · rw [if_neg (by omega)] at htime
    rw [htime]
    omega

/-- **Instants.** An instant is read from its text. -/
theorem read_toText : read t.toText = .ok t := by
  have hmonth := t.date.month_le
  have hday := t.day_le
  have hfraction : t.fraction < nanosOfSecond := Nat.mod_lt _ (by decide)
  have hclock : t.clock.1 ≤ 23 ∧ t.clock.2.1 ≤ 59 ∧ t.clock.2.2 ≤ 60 := by
    have hsecond := t.second_lt
    have hnanos := t.nanos_lt
    have hleap := t.leap
    simp only [clock, secondsOfDay, nanosOfSecond] at *
    omega
  have hoffset : offset (Text.trimStart ['Z']) = .ok (0, []) := rfl
  obtain ⟨htime, hrest⟩ := t.clock_eq rfl
  rw [read, toList_toText, year_yearText t.date.minYear_le t.date.le_maxYear]
  simp only [bind, Except.bind, separator_hyphen, separator_colon,
    part_padded (by omega : t.date.month < 100) t.date.month_pos hmonth,
    part_padded (by omega : t.date.day < 100) t.date.day_pos hday, dateEnd,
    part_padded (by omega : t.clock.1 < 100) (Nat.zero_le _) hclock.1,
    part_padded (by omega : t.clock.2.1 < 100) (Nat.zero_le _) hclock.2.1,
    part_padded (by omega : t.clock.2.2 < 100) (Nat.zero_le _) hclock.2.2,
    nanoseconds_fractionText hfraction, hoffset, ofParts?_date, htime, hrest, universal_zero]
  exact if_pos rfl

end Texts

end FieldAccess.Instant
