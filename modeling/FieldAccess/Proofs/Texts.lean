import Mathlib.Data.List.DropRight
import Mathlib.Data.List.TakeDrop
import Mathlib.Data.List.TakeWhile
import FieldAccess.Text.Trim

/-!
# Laws of texts

How trimming, splitting into lines and reading of a prefix act on texts that are put together.

## Main definitions

* `BeginsSolid`, `EndsSolid` – a text whose first or last character is no blank.

## Main statements

* `trim_indented` – trimming removes an indentation and nothing else.
* `lines_flatMap` – a text that is written line by line has these lines.
* `exists_span` – a text is split where a condition ends to hold.
-/

namespace FieldAccess.Text

/-- A property of all ASCII characters is checked for each of them. -/
theorem forall_ascii {P : Char → Prop} (h : ∀ n : Fin 128, P (Char.ofNat n)) {c : Char}
    (hc : c.toNat < 128) : P c := by
  simpa using h ⟨c.toNat, hc⟩

/-- A property of all control characters and of the space is checked for each of them. -/
theorem forall_le_space {P : Char → Prop} (h : ∀ n : Fin 33, P (Char.ofNat n)) {c : Char}
    (hc : c.toNat ≤ 0x20) : P c := by
  simpa using h ⟨c.toNat, by omega⟩

/-- The codes of the blanks. -/
def blankCodes : List Nat :=
  [9, 10, 11, 12, 13, 32, 0x85, 0xa0, 0x1680, 0x2000, 0x2001, 0x2002, 0x2003, 0x2004, 0x2005,
    0x2006, 0x2007, 0x2008, 0x2009, 0x200a, 0x2028, 0x2029, 0x202f, 0x205f, 0x3000]

theorem mem_blankCodes {c : Char} (h : isBlank c = true) : c.toNat ∈ blankCodes := by
  simp only [isBlank] at h
  simp only [blankCodes, List.mem_cons, List.not_mem_nil, or_false]
  split at h
  all_goals
    simp only [Bool.or_eq_true, Bool.and_eq_true, decide_eq_true_eq, beq_iff_eq] at h
    omega

/-- A blank belongs to no word. -/
theorem isWord_of_isBlank {c : Char} (h : isBlank c = true) : isWord c = false := by
  have hall : ∀ code ∈ blankCodes, isWord (Char.ofNat code) = false := by decide +kernel
  simpa using hall _ (mem_blankCodes h)

section Prefixes

variable {pattern text rest : List Char}

theorem afterPrefix?_eq_some_iff :
    afterPrefix? pattern text = some rest ↔ text = pattern ++ rest := by
  induction pattern generalizing text with
  | nil => simp [afterPrefix?]
  | cons p pattern ih =>
    cases text with
    | nil => simp [afterPrefix?]
    | cons c text =>
      by_cases hp : p = c
      · simp [afterPrefix?, hp, ih]
      · simp [afterPrefix?, hp, Ne.symm hp]

@[simp] theorem afterPrefix?_append : afterPrefix? pattern (pattern ++ rest) = some rest :=
  afterPrefix?_eq_some_iff.2 rfl

theorem afterPrefix?_cons_of_ne {p c : Char} (h : p ≠ c) :
    afterPrefix? (p :: pattern) (c :: text) = none := by
  simp [afterPrefix?, h]

/-- What stands behind a character belongs to no prefix without this character. -/
theorem afterPrefix?_append_cons {c : Char} (hpattern : c ∉ pattern) (text : List Char) :
    afterPrefix? pattern (text ++ c :: rest) =
      (afterPrefix? pattern text).map (· ++ c :: rest) := by
  induction pattern generalizing text with
  | nil => rfl
  | cons p pattern ih =>
    rw [List.mem_cons, not_or] at hpattern
    cases text with
    | nil => exact afterPrefix?_cons_of_ne (Ne.symm hpattern.1)
    | cons d text =>
      rw [List.cons_append, afterPrefix?, afterPrefix?]
      split
      · exact ih hpattern.2 text
      · rfl

end Prefixes

section Words

variable {p : Char → Bool} {text : List Char}

theorem dropWhile_append_of_ne_nil (h : text.dropWhile p ≠ []) (rest : List Char) :
    (text ++ rest).dropWhile p = text.dropWhile p ++ rest := by
  rw [List.dropWhile_append, if_neg (by simpa using h)]

theorem takeWhile_append_of_ne_nil (h : text.dropWhile p ≠ []) (rest : List Char) :
    (text ++ rest).takeWhile p = text.takeWhile p := by
  induction text with
  | nil => exact absurd rfl h
  | cons c text ih =>
    by_cases hc : p c = true
    · rw [List.dropWhile_cons_of_pos hc] at h
      rw [List.cons_append, List.takeWhile_cons_of_pos hc, List.takeWhile_cons_of_pos hc, ih h]
    · rw [List.cons_append, List.takeWhile_cons_of_neg hc, List.takeWhile_cons_of_neg hc]

/-- A text is split at the last of its characters that satisfy a condition. -/
theorem exists_last (h : ∃ c ∈ text, p c = true) :
    ∃ before c after, text = before ++ c :: after ∧ p c = true ∧ ∀ d ∈ after, p d = false := by
  induction text with
  | nil => simp at h
  | cons c text ih =>
    by_cases hlater : ∃ d ∈ text, p d = true
    · obtain ⟨before, d, after, rfl, hd⟩ := ih hlater
      exact ⟨c :: before, d, after, rfl, hd⟩
    · have hfirst : p c = true := by
        obtain ⟨d, hd, hpd⟩ := h
        rcases List.mem_cons.1 hd with rfl | hd
        · exact hpd
        · exact absurd ⟨d, hd, hpd⟩ hlater
      exact ⟨[], c, text, rfl, hfirst, by simpa using hlater⟩

end Words

theorem isBlank_of_mem_spaces {count : Nat} {c : Char} (hc : c ∈ List.replicate count ' ') :
    isBlank c = true := by
  rw [List.eq_of_mem_replicate hc]
  rfl

/-- A text whose first character is no blank. -/
def BeginsSolid (text : List Char) : Prop := ∃ c rest, text = c :: rest ∧ isBlank c = false

/-- A text whose last character is no blank. -/
def EndsSolid (text : List Char) : Prop := ∃ front c, text = front ++ [c] ∧ isBlank c = false

section Trimming

variable {text rest : List Char}

theorem BeginsSolid.append (h : BeginsSolid text) : BeginsSolid (text ++ rest) := by
  obtain ⟨c, tail, rfl, hc⟩ := h
  exact ⟨c, tail ++ rest, rfl, hc⟩

theorem EndsSolid.append (h : EndsSolid rest) (text : List Char) : EndsSolid (text ++ rest) := by
  obtain ⟨front, c, rfl, hc⟩ := h
  exact ⟨text ++ front, c, by simp, hc⟩

/-- Text that is appended piece by piece ends solid if it did before and every piece does. -/
theorem EndsSolid.flatMap {α : Type} {f : α → List Char} (h : EndsSolid text) {items : List α}
    (hitems : ∀ item ∈ items, EndsSolid (f item)) : EndsSolid (text ++ items.flatMap f) := by
  induction items generalizing text with
  | nil => simpa using h
  | cons item items ih =>
    rw [List.flatMap_cons, ← List.append_assoc]
    exact ih ((hitems item (by simp)).append text) fun other hother =>
      hitems other (by simp [hother])

theorem trimStart_cons_of_not_blank {c : Char} (h : isBlank c = false) :
    trimStart (c :: text) = c :: text := by
  simp [trimStart, h]

theorem BeginsSolid.trimStart (h : BeginsSolid text) : trimStart text = text := by
  obtain ⟨c, rest, rfl, hc⟩ := h
  exact trimStart_cons_of_not_blank hc

theorem EndsSolid.trimEnd (h : EndsSolid text) : trimEnd text = text := by
  obtain ⟨front, c, rfl, hc⟩ := h
  simp [Text.trimEnd, hc]

theorem trimStart_append_of_blank {blanks : List Char} (h : ∀ c ∈ blanks, isBlank c = true) :
    trimStart (blanks ++ text) = trimStart text := by
  simp only [trimStart]
  exact List.dropWhile_append_of_pos h

theorem trimEnd_append_of_blank {blanks : List Char} (h : ∀ c ∈ blanks, isBlank c = true) :
    trimEnd (text ++ blanks) = trimEnd text := by
  simp only [trimEnd, List.reverse_append]
  rw [List.dropWhile_append_of_pos fun c hc => h c (List.mem_reverse.1 hc)]

theorem trimStart_append (h : Text.trimStart text ≠ []) (rest : List Char) :
    Text.trimStart (text ++ rest) = Text.trimStart text ++ rest :=
  dropWhile_append_of_ne_nil h rest

theorem trimStart_eq_nil_iff : trimStart text = [] ↔ ∀ c ∈ text, isBlank c = true :=
  List.dropWhile_eq_nil_iff

theorem trimEnd_eq_nil_iff : trimEnd text = [] ↔ ∀ c ∈ text, isBlank c = true := by
  rw [trimEnd, List.reverse_eq_nil_iff, List.dropWhile_eq_nil_iff]
  simp only [List.mem_reverse]

/-- Nothing is left of a text exactly if it is blank. -/
theorem trim_eq_nil_iff : trim text = [] ↔ ∀ c ∈ text, isBlank c = true := by
  rw [trim, trimEnd_eq_nil_iff]
  constructor
  · intro hstart
    -- What is left at the start would begin with a character that is no blank.
    have hnil : trimStart text = [] := by
      by_contra hne
      have hhead : isBlank ((trimStart text).head hne) = false :=
        List.head_dropWhile_not isBlank hne
      rw [hstart _ (List.head_mem hne)] at hhead
      cases hhead
    exact trimStart_eq_nil_iff.1 hnil
  · intro hall c hc
    exact hall c ((List.dropWhile_suffix _).subset hc)

theorem trimmed_eq_empty_iff {s : String} : trimmed s = "" ↔ isBlankText s = true := by
  have hlist : trimmed s = "" ↔ trim s.toList = [] := by
    rw [trimmed, ← String.toList_inj, String.toList_ofList, String.toList_empty]
  rw [hlist, trim_eq_nil_iff, isBlankText, List.all_eq_true]

/-- Trimming keeps a first character that is no blank. -/
theorem trimEnd_cons_of_not_blank {c : Char} (h : isBlank c = false) :
    trimEnd (c :: text) = c :: trimEnd text := by
  simp only [trimEnd, List.reverse_cons, List.dropWhile_append]
  split
  · rename_i hnil
    rw [List.isEmpty_iff] at hnil
    simp [hnil, h]
  · simp

theorem trim_of_blank_append {blanks : List Char} (h : ∀ c ∈ blanks, isBlank c = true) :
    trim (blanks ++ text) = trim text := by
  rw [trim, trim, trimStart_append_of_blank h]

theorem trim_cons_of_blank {c : Char} (h : isBlank c = true) : trim (c :: text) = trim text :=
  trim_of_blank_append fun d hd => by rwa [List.mem_singleton.1 hd]

theorem trim_append_of_blank {blanks : List Char} (h : ∀ c ∈ blanks, isBlank c = true) :
    trim (text ++ blanks) = trim text := by
  by_cases hstart : Text.trimStart text = []
  · have hblank : ∀ c ∈ text, isBlank c = true := trimStart_eq_nil_iff.1 hstart
    rw [trim_of_blank_append hblank, trim_eq_nil_iff.2 hblank, trim_eq_nil_iff.2 h]
  · have happend : Text.trimStart (text ++ blanks) = Text.trimStart text ++ blanks := by
      simp only [Text.trimStart] at hstart ⊢
      simp [List.dropWhile_append, hstart]
    rw [trim, trim, happend, trimEnd_append_of_blank h]

/-- A text is what trimming leaves of it, with blanks behind. -/
theorem exists_trimEnd (text : List Char) :
    ∃ blanks, text = Text.trimEnd text ++ blanks ∧ ∀ c ∈ blanks, isBlank c = true := by
  refine ⟨(text.reverse.takeWhile isBlank).reverse, ?_, fun c hc => ?_⟩
  · rw [Text.trimEnd, ← List.reverse_append, List.takeWhile_append_dropWhile, List.reverse_reverse]
  · exact List.mem_takeWhile_imp (List.mem_reverse.1 hc)

theorem trimEnd_isPrefix (text : List Char) : Text.trimEnd text <+: text := by
  obtain ⟨blanks, htext, -⟩ := exists_trimEnd text
  exact ⟨blanks, htext.symm⟩

theorem trim_subset (text : List Char) : trim text ⊆ text := fun _ hc =>
  (List.dropWhile_suffix isBlank).subset ((trimEnd_isPrefix _).subset hc)

/-- A text is what trimming leaves of it, with blanks on both sides. -/
theorem exists_trim (text : List Char) :
    ∃ front back, text = front ++ trim text ++ back ∧ (∀ c ∈ front, isBlank c = true) ∧
      ∀ c ∈ back, isBlank c = true := by
  obtain ⟨back, hend, hback⟩ := exists_trimEnd (Text.trimStart text)
  refine ⟨text.takeWhile isBlank, back, ?_, fun c hc => List.mem_takeWhile_imp hc, hback⟩
  rw [trim, List.append_assoc, ← hend, Text.trimStart, List.takeWhile_append_dropWhile]

theorem beginsSolid_of_trimStart (h : Text.trimStart text = text) (hne : text ≠ []) :
    BeginsSolid text := by
  cases text with
  | nil => exact absurd rfl hne
  | cons c rest =>
    have hhead := List.dropWhile_eq_self_iff.1 h (by simp)
    exact ⟨c, rest, rfl, by simpa using hhead⟩

theorem BeginsSolid.endsSolid (h : BeginsSolid text.reverse) : EndsSolid text := by
  obtain ⟨c, rest, hreverse, hc⟩ := h
  refine ⟨rest.reverse, c, ?_, hc⟩
  rw [← List.reverse_cons, ← hreverse, List.reverse_reverse]

/-- A text without blanks at its ends begins and ends solid. -/
theorem solid_of_trim (h : trim text = text) (hne : text ≠ []) :
    BeginsSolid text ∧ EndsSolid text := by
  have hsuffix : Text.trimStart text <:+ text := List.dropWhile_suffix _
  have hlength : (trim text).length ≤ (Text.trimStart text).length := by
    rw [trim, Text.trimEnd, List.length_reverse]
    exact (List.dropWhile_suffix _).length_le.trans_eq List.length_reverse
  have hstart : Text.trimStart text = text :=
    hsuffix.eq_of_length_le (by rwa [h] at hlength)
  have hend : Text.trimStart text.reverse = text.reverse := by
    rw [trim, hstart, Text.trimEnd] at h
    rw [← List.reverse_inj, List.reverse_reverse]
    exact h
  exact ⟨beginsSolid_of_trimStart hstart hne,
    (beginsSolid_of_trimStart hend (by simpa using hne)).endsSolid⟩

theorem trimEnd_append (h : Text.trimEnd rest ≠ []) (text : List Char) :
    Text.trimEnd (text ++ rest) = text ++ Text.trimEnd rest := by
  have hdrop : rest.reverse.dropWhile isBlank ≠ [] := by simpa [Text.trimEnd] using h
  rw [Text.trimEnd, Text.trimEnd, List.reverse_append, List.dropWhile_append,
    if_neg (by simpa using hdrop), List.reverse_append, List.reverse_reverse]

theorem EndsSolid.trimEnd_append (h : EndsSolid text) (rest : List Char) :
    Text.trimEnd (text ++ rest) = text ++ Text.trimEnd rest := by
  by_cases hrest : Text.trimEnd rest = []
  · rw [trimEnd_append_of_blank (trimEnd_eq_nil_iff.1 hrest), h.trimEnd, hrest, List.append_nil]
  · exact Text.trimEnd_append hrest text

/-- The end of a text without blanks behind it has none behind it. -/
theorem trimEnd_of_suffix (h : Text.trimEnd text = text) (hsuffix : rest <:+ text) :
    Text.trimEnd rest = rest := by
  obtain ⟨front, rfl⟩ := hsuffix
  by_cases hrest : Text.trimEnd rest = []
  · -- Blanks at the end would not be left of the text.
    obtain ⟨blanks, hfront, -⟩ := exists_trimEnd front
    rw [trimEnd_append_of_blank (trimEnd_eq_nil_iff.1 hrest)] at h
    have hlength := congrArg List.length h
    have hlength' := congrArg List.length hfront
    rw [List.length_append] at hlength hlength'
    rw [hrest, List.eq_nil_of_length_eq_zero (by omega : rest.length = 0)]
  · exact List.append_cancel_left ((Text.trimEnd_append hrest front).symm.trans h)

/-- A text without blanks at its end is trimmed at its start only. -/
theorem trim_of_trimEnd (h : Text.trimEnd text = text) : trim text = Text.trimStart text :=
  trimEnd_of_suffix h (List.dropWhile_suffix _)

theorem trim_trim (text : List Char) : trim (trim text) = trim text := by
  obtain ⟨front, back, htext, hfront, hback⟩ := exists_trim text
  conv => rhs; rw [htext, trim_append_of_blank hback, trim_of_blank_append hfront]

theorem trimStart_trimStart (text : List Char) :
    Text.trimStart (Text.trimStart text) = Text.trimStart text :=
  List.dropWhile_idempotent _ _

theorem trimStart_trim (text : List Char) : Text.trimStart (trim text) = trim text := by
  by_cases hnil : trim text = []
  · rw [hnil]
    rfl
  · exact (solid_of_trim (trim_trim text) hnil).1.trimStart

theorem trimEnd_trim (text : List Char) : Text.trimEnd (trim text) = trim text := by
  by_cases hnil : trim text = []
  · rw [hnil]
    rfl
  · exact (solid_of_trim (trim_trim text) hnil).2.trimEnd

/-- It does not matter at which end a text is trimmed first. -/
theorem trimStart_trimEnd (text : List Char) : Text.trimStart (Text.trimEnd text) = trim text := by
  obtain ⟨blanks, htext, hblanks⟩ := exists_trimEnd text
  have hend : Text.trimEnd (Text.trimEnd text) = Text.trimEnd text :=
    List.rdropWhile_idempotent isBlank text
  conv => rhs; rw [htext, trim_append_of_blank hblanks, trim_of_trimEnd hend]

theorem trim_of_solid (hbegins : BeginsSolid text) (hends : EndsSolid text) : trim text = text := by
  rw [trim, hbegins.trimStart, hends.trimEnd]

/-- **Indentation.** Trimming removes the blanks in front of a text that begins and ends solid, and
nothing else. -/
theorem trim_indented {blanks : List Char} (hblanks : ∀ c ∈ blanks, isBlank c = true)
    (hbegins : BeginsSolid text) (hends : EndsSolid text) : trim (blanks ++ text) = text := by
  rw [trim_of_blank_append hblanks, trim_of_solid hbegins hends]

end Trimming

section Lines

variable {line rest : List Char}

theorem linesFrom_append (hline : '\n' ∉ line) (read : List Char) :
    linesFrom read (line ++ '\n' :: rest) =
      withoutReturn (read.reverse ++ line) :: linesFrom [] rest := by
  induction line generalizing read with
  | nil => simp [linesFrom]
  | cons c line ih =>
    rw [List.mem_cons, not_or] at hline
    obtain ⟨hc, hline⟩ := hline
    rw [List.cons_append, linesFrom, ih hline]
    · simp
    · exact fun h => hc h.symm

/-- A line that is read as it is written. -/
structure IsLine (line : List Char) : Prop where
  noFeed : '\n' ∉ line
  noReturn : line.getLast? ≠ some '\r'

theorem isLine_indented (hfeed : '\n' ∉ line) (hends : EndsSolid line) (indentation : Nat) :
    IsLine (List.replicate indentation ' ' ++ line) where
  noFeed := by simp [hfeed]
  noReturn := by
    obtain ⟨front, c, rfl, hc⟩ := hends
    rw [← List.append_assoc, List.getLast?_concat]
    rintro h
    rw [Option.some.inj h] at hc
    cases hc

theorem lines_append (hline : IsLine line) : lines (line ++ '\n' :: rest) = line :: lines rest := by
  rw [lines, linesFrom_append hline.noFeed, List.reverse_nil, List.nil_append, withoutReturn,
    if_neg hline.noReturn, lines]

/-- A text that is written line by line has these lines. -/
theorem lines_flatMap {written : List (List Char)} (h : ∀ line ∈ written, IsLine line) :
    lines (written.flatMap (· ++ ['\n']) ++ rest) = written ++ lines rest := by
  induction written with
  | nil => rfl
  | cons line written ih =>
    have hrest := ih fun other hother => h other (by simp [hother])
    rw [List.flatMap_cons, List.append_assoc, List.append_assoc, List.singleton_append,
      lines_append (h line (by simp)), hrest, List.cons_append]

/-- A carriage return at the end of a line is trimmed. -/
theorem trim_withoutReturn (line : List Char) : trim (withoutReturn line) = trim line := by
  rw [withoutReturn]
  split
  · rename_i hlast
    obtain ⟨front, hfront⟩ := List.getLast?_eq_some_iff.1 hlast
    have hreturn : ∀ c ∈ ['\r'], isBlank c = true := List.forall_mem_singleton.2 rfl
    rw [hfront, List.dropLast_concat, trim_append_of_blank hreturn]
  · rfl

/-- What lines say stands between line feeds, if neither an empty line nor a carriage return at the
end of a line says anything. -/
theorem filterMap_lines {α : Type} {f : List Char → Option α} (hnil : f [] = none)
    (hreturn : ∀ line, f (withoutReturn line) = f line) (text : List Char) :
    (lines text).filterMap f = (text.splitOn '\n').filterMap f := by
  have hread : ∀ read, '\n' ∉ read →
      (linesFrom read text).filterMap f = ((read.reverse ++ text).splitOn '\n').filterMap f := by
    intro read hfeed
    fun_induction linesFrom read text with
    | case1 read hempty =>
      obtain rfl : read = [] := by simpa using hempty
      exact (List.filterMap_cons_none hnil).symm
    | case2 read hempty =>
      rw [List.append_nil, List.splitOn_eq_singleton (by simpa using hfeed)]
    | case3 read text ih =>
      rw [List.splitOn_append_cons_self, List.splitOn_eq_singleton (by simpa using hfeed),
        List.singleton_append, List.filterMap_cons, List.filterMap_cons, hreturn, ih (by simp)]
      rfl
    | case4 read c text hc ih =>
      rw [ih (by simpa [hfeed, eq_comm] using hc)]
      simp
  exact hread [] (by simp)

/-- Lines that are put one after another, the last ones in any way. -/
theorem joined_append {written rest : List (List Char)} (hrest : rest ≠ []) :
    joined ['\n'] (written ++ rest) = written.flatMap (· ++ ['\n']) ++ joined ['\n'] rest := by
  induction written with
  | nil => rfl
  | cons line written ih =>
    rw [List.cons_append, List.flatMap_cons, List.append_assoc, ← ih]
    cases hmore : written ++ rest with
    | nil => exact absurd (List.append_eq_nil_iff.1 hmore).2 hrest
    | cons next more => rfl

theorem joined_append_of_ne_nil {front rest : List (List Char)} (hfront : front ≠ [])
    (hrest : rest ≠ []) :
    joined ['\n'] (front ++ rest) = joined ['\n'] front ++ '\n' :: joined ['\n'] rest := by
  obtain ⟨above, line, rfl⟩ : ∃ above line, front = above ++ [line] :=
    ⟨_, _, (List.dropLast_concat_getLast hfront).symm⟩
  rw [joined_append hrest, joined_append (List.cons_ne_nil _ _)]
  simp [joined]

/-- The first line of a text begins with the first character of the text. -/
theorem exists_lines_cons {c : Char} (hfeed : c ≠ '\n') (hreturn : c ≠ '\r') (text : List Char) :
    ∃ line rest, lines (c :: text) = (c :: line) :: rest := by
  have hread : ∀ read, ∃ line rest, linesFrom (read ++ [c]) text = (c :: line) :: rest := by
    induction text with
    | nil =>
      intro read
      exact ⟨read.reverse, [], by simp [linesFrom]⟩
    | cons d text ih =>
      intro read
      by_cases hd : d = '\n'
      · subst hd
        rw [linesFrom, List.reverse_append, List.reverse_singleton, List.singleton_append,
          withoutReturn]
        -- The carriage return that is removed is not the first character.
        cases hline : read.reverse with
        | nil => exact ⟨[], _, by rw [if_neg (by simpa using hreturn)]⟩
        | cons next line =>
          split
          · exact ⟨(next :: line).dropLast, _, by rw [List.dropLast_cons_cons]⟩
          · exact ⟨next :: line, _, rfl⟩
      · rw [linesFrom]
        · exact ih (d :: read)
        · exact hd
  rw [lines, linesFrom]
  · exact hread []
  · exact hfeed

end Lines

section Spans

variable {p : Char → Bool} {front back : List Char}

theorem span_append (hfront : ∀ c ∈ front, p c = true) (hback : ∀ c ∈ back.head?, p c = false) :
    (front ++ back).span p = (front, back) := by
  have hnone : back.takeWhile p = [] ∧ back.dropWhile p = back := by
    cases back with
    | nil => exact ⟨rfl, rfl⟩
    | cons c back =>
      have hc : ¬ p c = true := by simp [hback c rfl]
      exact ⟨List.takeWhile_cons_of_neg hc, List.dropWhile_cons_of_neg hc⟩
  rw [List.span_eq_takeWhile_dropWhile, List.takeWhile_append_of_pos hfront,
    List.dropWhile_append_of_pos hfront, hnone.1, hnone.2, List.append_nil]

/-- Every text is split where a condition ends to hold. -/
theorem exists_span (p : Char → Bool) (text : List Char) : ∃ front back,
    text = front ++ back ∧ (∀ c ∈ front, p c = true) ∧ ∀ c ∈ back.head?, p c = false := by
  refine ⟨text.takeWhile p, text.dropWhile p, List.takeWhile_append_dropWhile.symm,
    fun c hc => List.mem_takeWhile_imp hc, fun c hc => ?_⟩
  have hhead := List.head?_dropWhile_not p text
  rw [Option.mem_def.1 hc] at hhead
  simpa using hhead

end Spans

end FieldAccess.Text
