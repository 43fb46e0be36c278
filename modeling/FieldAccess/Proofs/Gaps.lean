import FieldAccess.Proofs.Texts
import FieldAccess.Yaml.Writer
import Mathlib.Data.List.Chain

/-!
# Gaps in a YAML text

How a place moves through a text, and what is read of blanks and line ends. The place behind
characters that end no line is known by their number; behind the end of a line, only the line and
the column are.

## Main definitions

* `StopsGap` – a text that does not go on with a gap.

## Main statements

* `Cursor.laterBreaks_eq` – line ends are read up to the next line that is not empty.
* `Cursor.gap_spaces`, `Cursor.gap_breaks` – the gaps inside a line and at its end.
-/

namespace FieldAccess.Yaml

/-! ### Places -/

@[simp]
theorem length_spaces (n : Nat) : (spaces n).length = n := List.length_replicate

theorem getLast?_spaces_succ (n : Nat) : (spaces (n + 1)).getLast? = some ' ' := by
  rw [spaces, List.getLast?_replicate]
  rfl

/-- A text that does not go on with a blank or the end of a line. -/
def StopsGap (rest : List Char) : Prop := ∀ d ∈ rest.head?, isGap d = false

/-- What begins a gap does not stop one. -/
theorem not_stopsGap {d : Char} (hd : isGap d = true) (rest : List Char) : ¬StopsGap (d :: rest) :=
  fun h => by
    rw [h d rfl] at hd
    cases hd

theorem StopsGap.append_cons {d : Char} {written : List Char} (h : StopsGap written)
    (hd : isGap d = false) (rest : List Char) : StopsGap (written ++ d :: rest) := by
  cases written with
  | nil =>
    intro e he
    cases he
    exact hd
  | cons e written => exact h

theorem hasNeighbours_eq_false_iff {first second : Char → Bool} {text : List Char} :
    hasNeighbours first second text = false ↔
      text.IsChain fun c d => first c = true → second d = false := by
  induction text with
  | nil => simp [hasNeighbours]
  | cons c text ih =>
    cases text with
    | nil => simp [hasNeighbours]
    | cons d text => simp [hasNeighbours, List.isChain_cons_cons, ih]

/-- A text starts with a run of spaces, after which something else follows. -/
theorem exists_spaces (text : List Char) :
    ∃ n rest, text = spaces n ++ rest ∧ ∀ d ∈ rest.head?, d ≠ ' ' := by
  obtain ⟨front, rest, rfl, hfront, hrest⟩ := Text.exists_span (fun d => decide (d = ' ')) text
  refine ⟨front.length, rest, ?_, fun d hd => by simpa using hrest d hd⟩
  rw [spaces, ← List.eq_replicate_of_mem fun d hd => by simpa using hfront d hd]

namespace Cursor

variable {c : Cursor} {d : Char} {front rest : List Char}

@[simp]
theorem rest_advance (c : Cursor) (n : Nat) : (c.advance n).rest = c.rest.drop n := rfl

@[simp]
theorem line_advance (c : Cursor) (n : Nat) : (c.advance n).line = c.line := rfl

@[simp]
theorem column_advance (c : Cursor) (n : Nat) : (c.advance n).column = c.column + n := rfl

@[simp]
theorem index_advance (c : Cursor) (n : Nat) : (c.advance n).index = c.index + n := rfl

@[simp]
theorem advance_zero (c : Cursor) : c.advance 0 = c := rfl

theorem advance_advance (c : Cursor) (m n : Nat) : (c.advance m).advance n = c.advance (m + n) := by
  simp only [advance, List.drop_drop, Nat.add_assoc]

theorem rest_advance_length (h : c.rest = front ++ rest) :
    (c.advance front.length).rest = rest := by
  rw [rest_advance, h, List.drop_left]

theorem next_eq_advance (h : c.rest = d :: rest) (hd : isBreak d = false) :
    c.next = c.advance 1 := by
  rw [next, h]
  split
  · rename_i heq
    cases heq
  · rename_i heq
    cases heq
    cases hd
  · rename_i heq
    cases heq
    rw [hd]
    simp [advance, h]

theorem next_of_isBreak (h : c.rest = d :: rest) (hd : isBreak d = true) (hreturn : d ≠ '\r') :
    c.next = { rest, index := c.index + 1, line := c.line + 1 } := by
  rw [next, h]
  split
  · rename_i heq
    cases heq
  · rename_i heq
    cases heq
    exact absurd rfl hreturn
  · rename_i heq
    cases heq
    rw [hd]
    rfl

/-- Documents start and end at the start of a line. -/
theorem atDocumentMarker_of_column (h : c.column ≠ 0) : c.atDocumentMarker = false := by
  simp [atDocumentMarker, atMarker, h]

/-! ### Gaps -/

theorem laterBreaks_of_stopsGap (h : StopsGap c.rest) (limit : Nat) (gap : Gap) :
    laterBreaks limit c gap = (gap, c) := by
  cases limit with
  | zero => rfl
  | succ limit =>
    rw [laterBreaks]
    cases hrest : c.rest with
    | nil => rfl
    | cons d rest =>
      have hd : isGap d = false := h d (by rw [hrest]; rfl)
      obtain ⟨⟨hspace, htab⟩, hbreak⟩ : (d ≠ ' ' ∧ d ≠ '\t') ∧ isBreak d = false := by
        simpa [isGap, isBlank] using hd
      simp [hspace, htab, hbreak]

theorem laterBreaks_spaces {n : Nat} (hstop : StopsGap rest) {limit : Nat} (hlimit : n ≤ limit)
    (h : c.rest = spaces n ++ rest) (gap : Gap) : laterBreaks limit c gap = (gap, c.advance n) := by
  induction n generalizing c limit with
  | zero =>
    have hrest : c.rest = rest := h
    exact laterBreaks_of_stopsGap (hrest ▸ hstop) limit gap
  | succ n ih =>
    obtain ⟨limit, rfl⟩ : ∃ m, limit = m + 1 := ⟨limit - 1, by omega⟩
    have hcons : c.rest = ' ' :: (spaces n ++ rest) := h
    have hnext : c.next = c.advance 1 := next_eq_advance hcons (by decide)
    have hafter : (c.advance 1).rest = spaces n ++ rest := by rw [rest_advance, hcons]; rfl
    rw [laterBreaks, hcons]
    simp only [show isBreak ' ' = false from by decide, show ¬(' ' = '\t') from by decide]
    simp only [Bool.false_eq_true, if_false, if_true, hnext]
    rw [ih (by omega) hafter, advance_advance, Nat.add_comm]

/-- **Line ends.** Line ends are read up to the next line that is not empty. -/
theorem laterBreaks_eq {breaks : List Char} {n : Nat}
    (hbreaks : ∀ d ∈ breaks, isBreak d = true ∧ d ≠ '\r') (hstop : StopsGap rest) {limit : Nat}
    (h : c.rest = breaks ++ (spaces n ++ rest)) (hlimit : c.rest.length ≤ limit) (gap : Gap) :
    ∃ after, laterBreaks limit c gap =
        ({ gap with breaks := gap.breaks ++ breaks.map breakText }, after) ∧
      after.rest = rest ∧ after.line = c.line + breaks.length ∧
      after.column = (if breaks.isEmpty then c.column else 0) + n := by
  induction breaks generalizing c limit gap with
  | nil =>
    have hspaces : c.rest = spaces n ++ rest := h
    have hlength : c.rest.length = n + rest.length := by simp [h]
    refine ⟨c.advance n, ?_, ?_, rfl, rfl⟩
    · rw [laterBreaks_spaces hstop (by omega) h, List.map_nil, List.append_nil]
    · have hrest := rest_advance_length hspaces
      rwa [length_spaces] at hrest
  | cons d breaks ih =>
    obtain ⟨hd, hreturn⟩ := hbreaks d List.mem_cons_self
    have hcons : c.rest = d :: (breaks ++ (spaces n ++ rest)) := h
    have hnext := next_of_isBreak hcons hd hreturn
    have hlength : c.rest.length = (breaks ++ (spaces n ++ rest)).length + 1 := by rw [hcons]; rfl
    obtain ⟨limit, rfl⟩ : ∃ m, limit = m + 1 := ⟨limit - 1, by omega⟩
    have hnextRest : c.next.rest = breaks ++ (spaces n ++ rest) := by rw [hnext]
    have hnextLine : c.next.line = c.line + 1 := by rw [hnext]
    have hnextColumn : c.next.column = 0 := by rw [hnext]
    have hnextLimit : c.next.rest.length ≤ limit := by
      rw [hnextRest]
      omega
    obtain ⟨after, hafter, hrest, hline, hcolumn⟩ :=
      ih (fun e he => hbreaks e (List.mem_cons_of_mem _ he)) hnextRest hnextLimit
        { gap with breaks := gap.breaks ++ [breakText d] }
    refine ⟨after, ?_, hrest, ?_, ?_⟩
    · rw [laterBreaks, hcons]
      simp only [hd, if_true]
      rw [hafter, List.append_assoc]
      rfl
    · rw [hline, hnextLine, List.length_cons]
      omega
    · rw [hcolumn, hnextColumn]
      simp

/-- A run of spaces is a gap that stands for itself. -/
theorem gap_spaces {n : Nat} (hstop : StopsGap rest) (h : c.rest = spaces n ++ rest) :
    c.gap = ({ blanks := spaces n }, c.advance n) := by
  have hblanks : c.rest.takeWhile isBlank = spaces n := by
    have hrest : rest.takeWhile isBlank = [] := by
      cases rest with
      | nil => rfl
      | cons d rest =>
        have hd : isGap d = false := hstop d rfl
        have hblank : isBlank d = false := by
          simp only [isGap, Bool.or_eq_false_iff] at hd
          exact hd.1
        simp [hblank]
    rw [h, List.takeWhile_append_of_pos, hrest, List.append_nil]
    intro d hd
    rw [List.eq_of_mem_replicate hd]
    rfl
  have hafter : StopsGap (c.advance n).rest := by
    have hrest := rest_advance_length h
    rw [length_spaces] at hrest
    rwa [hrest]
  simp only [gap, hblanks, length_spaces]
  exact laterBreaks_of_stopsGap hafter _ _

/-- The gap at the end of a line reaches up to the next line that is not empty. -/
theorem gap_breaks {breaks : List Char} {n : Nat} (hne : breaks ≠ [])
    (hbreaks : ∀ d ∈ breaks, isBreak d = true ∧ d ≠ '\r') (hstop : StopsGap rest)
    (h : c.rest = breaks ++ (spaces n ++ rest)) :
    ∃ after, c.gap = ({ breaks := breaks.map breakText }, after) ∧ after.rest = rest ∧
      after.line = c.line + breaks.length ∧ after.column = n := by
  obtain ⟨d, more, rfl⟩ := List.exists_cons_of_ne_nil hne
  have hblanks : c.rest.takeWhile isBlank = [] := by
    have hd : isBlank d = false := by
      have hbreak := (hbreaks d List.mem_cons_self).1
      cases hblank : isBlank d with
      | false => rfl
      | true =>
        simp only [isBlank, Bool.or_eq_true, decide_eq_true_eq] at hblank
        rcases hblank with rfl | rfl <;> cases hbreak
    rw [h, List.cons_append, List.takeWhile_cons_of_neg (by simp [hd])]
  obtain ⟨after, hafter, hrest, hline, hcolumn⟩ :=
    laterBreaks_eq hbreaks hstop h (Nat.le_refl _) { blanks := [] }
  refine ⟨after, ?_, hrest, hline, ?_⟩
  · simp only [gap, hblanks]
    exact hafter
  · simpa using hcolumn

end Cursor

end FieldAccess.Yaml
