import FieldAccess.Proofs.Cleaning

/-!
# Texts that are cleaned by themselves

Behind a text that ends outside of block strings, of strings and of comments, cleaning goes on as at
the beginning of a document: what is left of the text does not depend on what follows it, and the
other way round. Only the blanks between the two belong to both, since they are removed at the end
of a line.

## Main definitions

* `Settled` – a text that ends outside of block strings, of strings and of comments.
* `IsMark` – a character that is neither a blank nor begins a string or a comment.
* `IsGap` – blanks and comments.

## Main statements

* `Settled.rowText_append` – a row goes on behind a settled text.
* `Settled.clean_append` – a settled text and what follows it are cleaned one after the other.
* `Settled.clean_append_gap` – the same, with a gap between the two.
-/

namespace FieldAccess.Schema

open Text

/-- The end of a text stands outside of block strings, of strings and of comments. -/
structure Settled (text : List Char) : Prop where
  closed : openBehind false (text.splitOn '\n') = false
  noComment : beforeComment? .outside (lastOutside false (text.splitOn '\n')) = none
  outside : QuoteState.behind .outside (lastOutside false (text.splitOn '\n')) = .outside

instance (text : List Char) : Decidable (Settled text) :=
  decidable_of_iff (_ ∧ _ ∧ _)
    ⟨fun h => ⟨h.1, h.2.1, h.2.2⟩, fun h => ⟨h.closed, h.noComment, h.outside⟩⟩

/-- A character that cleaning takes for what it is: neither a blank nor the beginning of a string or
of a comment. -/
def IsMark (c : Char) : Prop := isBlank c = false ∧ c ≠ '"' ∧ c ≠ '#'

instance (c : Char) : Decidable (IsMark c) := inferInstanceAs (Decidable (_ ∧ _))

/-- What may stand between two marks: blanks, and comments in which all block strings end. -/
inductive IsGap : List Char → Prop
  | nil : IsGap []
  | blank {c : Char} {gap : List Char} (hc : isBlank c = true) (h : IsGap gap) : IsGap (c :: gap)
  | comment {text gap : List Char} (hfeed : '\n' ∉ text)
    (hblock : (outsideBlocks false false text).2 = false) (h : IsGap gap) :
    IsGap ('#' :: (text ++ '\n' :: gap))

section Marks

variable {c : Char} {rest : List Char}

theorem IsMark.ne_feed (h : IsMark c) : c ≠ '\n' := by
  rintro rfl
  exact absurd h.1 (by decide)

theorem IsMark.exists_splitOn (h : IsMark c) (rest : List Char) :
    ∃ row below, (c :: rest).splitOn '\n' = (c :: row) :: below := by
  obtain ⟨row, below, hrest⟩ := exists_splitOn_cons rest
  refine ⟨row, below, ?_⟩
  have hrows : ([c] ++ rest).splitOn '\n' = ([c] ++ row) :: below :=
    splitOn_row_append (by simpa using h.ne_feed.symm) hrest
  exact hrows

/-- A row that begins with a mark is cut off at its end only. -/
theorem IsMark.rowText_cons (h : IsMark c) (row : List Char) :
    uncommented (outsideBlocks false false (c :: row)).1 =
        c :: (uncommented (outsideBlocks false false (c :: row)).1).tail ∧
      rowText false (c :: row) =
        trimEnd (uncommented (outsideBlocks false false (c :: row)).1) := by
  obtain ⟨hblank, hquote, hsign⟩ := h
  obtain ⟨text, htext⟩ :
      ∃ text, uncommented (outsideBlocks false false (c :: row)).1 = c :: text := by
    rw [outsideBlocks_outside fun _ hc => absurd hc hquote, uncommented, beforeComment?,
      if_neg fun hc => hsign hc.1]
    cases beforeComment? (QuoteState.after c .outside) (outsideBlocks false false row).1 with
    | none => exact ⟨_, rfl⟩
    | some before => exact ⟨before, rfl⟩
  rw [rowText_eq, htext]
  refine ⟨rfl, ?_⟩
  rw [trim, trimStart_cons_of_not_blank hblank, trimEnd_cons_of_not_blank hblank,
    withoutDescription_of_ne hquote]

theorem IsMark.exists_rowText_cons (h : IsMark c) (row : List Char) :
    ∃ text, rowText false (c :: row) = c :: text := by
  obtain ⟨huncommented, hrow⟩ := h.rowText_cons row
  rw [hrow, huncommented, trimEnd_cons_of_not_blank h.1]
  exact ⟨_, rfl⟩

/-- What is left of a text that begins with a mark begins with it. -/
theorem IsMark.exists_clean_cons (h : IsMark c) (rest : List Char) :
    ∃ text, clean (c :: rest) = c :: text := by
  obtain ⟨row, below, hrows⟩ := h.exists_splitOn rest
  obtain ⟨text, htext⟩ := h.exists_rowText_cons row
  rw [clean_eq, hrows, cleanLines_cons, htext]
  cases cleanLines (outsideBlocks false false (c :: row)).2 below with
  | nil => exact ⟨text, rfl⟩
  | cons next more => exact ⟨_, rfl⟩

end Marks

section Rows

variable {inBlock : Bool} {row : List Char}

/-- A description that does not end leaves a string open. -/
theorem behind_of_afterString? {escaped : Bool} {text : List Char}
    (h : afterString? escaped text = none) :
    QuoteState.behind (if escaped then .escaped else .inside) text ≠ .outside := by
  induction text generalizing escaped with
  | nil => cases escaped <;> simp [QuoteState.behind]
  | cons c text ih =>
    rw [afterString?] at h
    cases escaped with
    | true => exact ih h
    | false =>
      rw [if_neg (by decide)] at h
      change QuoteState.behind (QuoteState.after c .inside) text ≠ .outside
      rw [QuoteState.after]
      split at h
      · rename_i hbackslash
        rw [if_pos hbackslash]
        exact ih h
      · rename_i hbackslash
        split at h
        · cases h
        · rename_i hquote
          rw [if_neg hbackslash, if_neg hquote]
          exact ih h

/-- A description of which nothing is left ends where the text does. -/
theorem withoutDescription_append_of_nil {text : List Char} (hne : text ≠ [])
    (hstate : QuoteState.behind .outside text = .outside) (h : withoutDescription text = [])
    (rest : List Char) : withoutDescription (text ++ rest) = trimStart rest := by
  cases text with
  | nil => exact absurd rfl hne
  | cons c text =>
    have hc : c = '"' := by
      by_contra hc
      rw [withoutDescription_of_ne hc] at h
      cases h
    subst hc
    cases hafter : afterString? false text with
    | none => exact absurd hstate (behind_of_afterString? hafter)
    | some behind =>
      simp only [withoutDescription, hafter] at h
      rw [List.cons_append, withoutDescription, afterString?_append hafter]
      exact trimStart_append_of_blank (trimStart_eq_nil_iff.1 h)

/-- **Rows.** A row goes on behind a text that ends outside of strings and comments. There may be
blanks between the two if something is left of the text. -/
theorem rowText_append (hclosed : (outsideBlocks inBlock false row).2 = false)
    (hcomment : beforeComment? .outside (outsideBlocks inBlock false row).1 = none)
    (hstate : QuoteState.behind .outside (outsideBlocks inBlock false row).1 = .outside) :
    ∃ blanks, (∀ c ∈ blanks, isBlank c = true) ∧ (rowText inBlock row = [] → blanks = []) ∧
      ∀ c more, IsMark c → rowText inBlock (row ++ c :: more) =
        rowText inBlock row ++ (blanks ++ rowText false (c :: more)) := by
  have hrow : rowText inBlock row =
      withoutDescription (trim (outsideBlocks inBlock false row).1) := by
    rw [rowText_eq, uncommented, hcomment, Option.getD_none]
  have hmore : ∀ c more, IsMark c → rowText inBlock (row ++ c :: more) =
      withoutDescription (trim ((outsideBlocks inBlock false row).1 ++
        uncommented (outsideBlocks false false (c :: more)).1)) := by
    intro c more hc
    rw [rowText_eq, outsideBlocks_append hc.2.1, hclosed, uncommented, beforeComment?_append,
      hcomment, hstate, uncommented]
    cases beforeComment? .outside (outsideBlocks false false (c :: more)).1 <;> rfl
  generalize (outsideBlocks inBlock false row).1 = text at hrow hmore hstate
  obtain ⟨front, back, htext, hfront, hback⟩ := exists_trim text
  have hstate' : QuoteState.behind .outside (trim text) = .outside := by
    rw [htext, List.append_assoc, QuoteState.behind_append,
      QuoteState.behind_outside (notMem_blanks hfront (by decide))] at hstate
    have htrim := behind_trimEnd hstate
    rwa [trimEnd_append_of_blank hback, trimEnd_trim] at htrim
  -- What follows begins with a mark, so it is trimmed at its end only.
  have hsolid : ∀ c more, IsMark c →
      trim (text ++ uncommented (outsideBlocks false false (c :: more)).1) =
        if trim text = [] then rowText false (c :: more)
        else trim text ++ (back ++ rowText false (c :: more)) := by
    intro c more hc
    obtain ⟨huncommented, hkept⟩ := hc.rowText_cons more
    have hnext : rowText false (c :: more) ≠ [] := by
      obtain ⟨_, hcons⟩ := hc.exists_rowText_cons more
      rw [hcons]
      exact List.cons_ne_nil _ _
    rw [hkept] at hnext ⊢
    split
    · rename_i hnil
      rw [trim_of_blank_append (trim_eq_nil_iff.1 hnil), trim, huncommented,
        trimStart_cons_of_not_blank hc.1]
    · rename_i hne
      have hbegins := (solid_of_trim (trim_trim text) hne).1
      conv => lhs; rw [htext, List.append_assoc, List.append_assoc]
      rw [trim_of_blank_append hfront, trim, hbegins.append.trimStart, ← List.append_assoc,
        trimEnd_append hnext, List.append_assoc]
  by_cases hleft : withoutDescription (trim text) = []
  · refine ⟨[], List.forall_mem_nil _, fun _ => rfl, fun c more hc => ?_⟩
    obtain ⟨rest, hnext⟩ := hc.exists_rowText_cons more
    rw [hmore c more hc, hsolid c more hc, hrow, hleft, List.nil_append, List.nil_append]
    split
    · rw [hnext, withoutDescription_of_ne hc.2.1]
    · rename_i hne
      rw [withoutDescription_append_of_nil hne hstate' hleft, trimStart_append_of_blank hback,
        hnext, trimStart_cons_of_not_blank hc.1]
  · refine ⟨back, hback, fun hnil => absurd (hrow.symm.trans hnil) hleft, fun c more hc => ?_⟩
    have hne : trim text ≠ [] := by
      intro hnil
      rw [hnil] at hleft
      exact hleft rfl
    rw [hmore c more hc, hsolid c more hc, if_neg hne, withoutDescription_append hleft, hrow]

end Rows

namespace Settled

variable {text gap row : List Char} {above : List (List Char)}

theorem iff_row (hrows : text.splitOn '\n' = above ++ [row]) :
    Settled text ↔ (outsideBlocks (openBehind false above) false row).2 = false ∧
      beforeComment? .outside (outsideBlocks (openBehind false above) false row).1 = none ∧
      QuoteState.behind .outside (outsideBlocks (openBehind false above) false row).1 =
        .outside := by
  have hclosed : openBehind false (text.splitOn '\n') =
      (outsideBlocks (openBehind false above) false row).2 := by
    rw [hrows, openBehind_append]
    rfl
  have hlast : lastOutside false (text.splitOn '\n') =
      (outsideBlocks (openBehind false above) false row).1 := by
    rw [hrows, lastOutside_append]
  rw [← hclosed, ← hlast]
  exact ⟨fun h => ⟨h.closed, h.noComment, h.outside⟩, fun h => ⟨h.1, h.2.1, h.2.2⟩⟩

/-- A row without quotes and comment signs is settled. -/
theorem of_notMem (hfeed : '\n' ∉ text) (hquote : '"' ∉ text) (hsign : '#' ∉ text) :
    Settled text := by
  have hrows : text.splitOn '\n' = [] ++ [text] := List.splitOn_eq_singleton hfeed
  have hkept : outsideBlocks (openBehind false []) false text = (text, false) :=
    (KeepsBlocks.plain hquote).closed
  refine (iff_row hrows).2 ?_
  rw [hkept]
  exact ⟨rfl, beforeComment?_of_notMem hsign _, QuoteState.behind_outside hquote⟩

/-- A row without quotes and comment signs is left as it is if it begins and ends solid. -/
theorem clean_of_notMem (hfeed : '\n' ∉ text) (hquote : '"' ∉ text) (hsign : '#' ∉ text)
    (hbegins : BeginsSolid text) (hends : EndsSolid text) : clean text = text := by
  have hkept : outsideBlocks false false text = (text, false) := (KeepsBlocks.plain hquote).closed
  rw [clean_row hfeed, rowText_eq, hkept, uncommented, beforeComment?_of_notMem hsign,
    Option.getD_none, trim_of_solid hbegins hends]
  obtain ⟨c, rest, rfl, -⟩ := hbegins
  rw [List.mem_cons, not_or] at hquote
  exact withoutDescription_of_ne (Ne.symm hquote.1) rest

/-- **Settled texts.** What follows a settled text is cleaned by itself. -/
theorem clean_append (h : Settled text) :
    ∃ blanks, (∀ c ∈ blanks, isBlank c = true) ∧ ∀ c rest, IsMark c →
      clean (text ++ c :: rest) = clean text ++ (blanks ++ clean (c :: rest)) := by
  obtain ⟨above, row, hrows⟩ := exists_splitOn_concat text
  obtain ⟨hclosed, hcomment, hstate⟩ := (iff_row hrows).1 h
  obtain ⟨back, hback, hnil, hrow⟩ := rowText_append hclosed hcomment hstate
  have htext : clean text = joined ['\n'] (cleanLines false above ++
      if (rowText (openBehind false above) row).isEmpty then []
      else [rowText (openBehind false above) row]) := by
    rw [clean_eq, hrows, cleanLines_append, cleanLines_cons, cleanLines, List.append_nil]
  -- The row on which the text ends goes on with the first row of what follows.
  have hcleaned : ∀ c rest, IsMark c → ∃ next below,
      clean (c :: rest) = joined ['\n'] (next :: below) ∧
      clean (text ++ c :: rest) = joined ['\n'] (cleanLines false above ++
        (rowText (openBehind false above) row ++ (back ++ next)) :: below) := by
    intro c rest hc
    obtain ⟨next, below, hbelow⟩ := hc.exists_splitOn rest
    obtain ⟨left, hleft⟩ := hc.exists_rowText_cons next
    have hopen : (outsideBlocks (openBehind false above) false (row ++ c :: next)).2 =
        (outsideBlocks false false (c :: next)).2 := by
      rw [outsideBlocks_append hc.2.1, hclosed]
    refine ⟨rowText false (c :: next), cleanLines (outsideBlocks false false (c :: next)).2 below,
      ?_, ?_⟩
    · rw [clean_eq, hbelow, cleanLines_cons, hleft]
      rfl
    · rw [clean_eq, splitOn_append hrows hbelow, cleanLines_append, cleanLines_cons, hopen,
        hrow c next hc, hleft]
      simp
  rw [htext]
  by_cases hleft : rowText (openBehind false above) row = []
  · rw [hleft, hnil hleft] at hcleaned
    rw [hleft, List.isEmpty_nil, if_pos rfl, List.append_nil]
    by_cases habove : cleanLines false above = []
    · refine ⟨[], List.forall_mem_nil _, fun c rest hc => ?_⟩
      obtain ⟨next, below, hnext, hclean⟩ := hcleaned c rest hc
      rw [hclean, hnext, habove]
      rfl
    · -- The end of the line above is left between the two.
      refine ⟨['\n'], List.all_eq_true.1 rfl, fun c rest hc => ?_⟩
      obtain ⟨next, below, hnext, hclean⟩ := hcleaned c rest hc
      rw [hclean, hnext]
      exact joined_append_of_ne_nil habove (List.cons_ne_nil next below)
  · refine ⟨back, hback, fun c rest hc => ?_⟩
    obtain ⟨next, below, hnext, hclean⟩ := hcleaned c rest hc
    rw [hclean, hnext, if_neg (by simpa using hleft), joined_append (List.cons_ne_nil _ _),
      joined_append (List.cons_ne_nil _ _)]
    cases below <;> simp [joined]

theorem append_blank (h : Settled text) {c : Char} (hc : isBlank c = true) :
    Settled (text ++ [c]) ∧ clean (text ++ [c]) = clean text := by
  obtain ⟨above, row, hrows⟩ := exists_splitOn_concat text
  by_cases hfeed : c = '\n'
  · subst hfeed
    have hrows' : (text ++ ['\n']).splitOn '\n' = text.splitOn '\n' ++ [[]] :=
      List.splitOn_append_cons_self text []
    constructor
    · refine (iff_row hrows').2 ?_
      rw [outsideBlocks_nil, h.closed]
      exact ⟨rfl, rfl, rfl⟩
    · rw [clean_eq, clean_eq, hrows', cleanLines_append, cleanLines_empty, cleanLines,
        List.append_nil]
  · obtain ⟨hclosed, hcomment, hstate⟩ := (iff_row hrows).1 h
    -- Any other blank becomes the last character of the row, from which it is trimmed.
    have hquote : c ≠ '"' := by
      rintro rfl
      exact absurd hc (by decide)
    have hsign : '#' ∉ [c] := by
      rw [List.mem_singleton]
      rintro rfl
      exact absurd hc (by decide)
    have hrows' : (text ++ [c]).splitOn '\n' = above ++ [row ++ [c]] :=
      splitOn_append hrows (List.splitOn_eq_singleton (by simpa using Ne.symm hfeed))
    have hkept : outsideBlocks false false [c] = ([c], false) :=
      (KeepsBlocks.singleton hquote).closed
    have houtside := outsideBlocks_append hquote (openBehind false above) false row []
    rw [hclosed, hkept] at houtside
    constructor
    · refine (iff_row hrows').2 ?_
      rw [houtside, beforeComment?_append, hcomment, hstate, beforeComment?_of_notMem hsign,
        QuoteState.behind_append, hstate]
      exact ⟨rfl, rfl, QuoteState.behind_outside (by simpa using hquote.symm)⟩
    · have hrow : rowText (openBehind false above) (row ++ [c]) =
          rowText (openBehind false above) row := by
        rw [rowText, rowText, houtside, trim_append_of_blank (by simpa using hc)]
      rw [clean_eq, clean_eq, hrows, hrows', cleanLines_append, cleanLines_append, cleanLines_cons,
        cleanLines_cons, hrow]
      rfl

/-- A comment behind a settled text is removed together with the end of its line. -/
theorem append_comment (h : Settled text) {comment : List Char} (hfeed : '\n' ∉ comment)
    (hblock : (outsideBlocks false false comment).2 = false) :
    Settled (text ++ '#' :: (comment ++ ['\n'])) ∧
      clean (text ++ '#' :: (comment ++ ['\n'])) = clean text := by
  obtain ⟨above, row, hrows⟩ := exists_splitOn_concat text
  obtain ⟨hclosed, hcomment, hstate⟩ := (iff_row hrows).1 h
  have hrows' : (text ++ '#' :: (comment ++ ['\n'])).splitOn '\n' =
      (above ++ [row ++ '#' :: comment]) ++ [[]] := by
    have hline : '\n' ∉ '#' :: comment := by simpa using hfeed
    have htext : text ++ '#' :: (comment ++ ['\n']) =
        text ++ '#' :: comment ++ '\n' :: [] := by
      simp
    rw [htext, List.splitOn_append_cons_self,
      splitOn_append hrows (List.splitOn_eq_singleton hline)]
    simp
  have hsign : outsideBlocks false false ('#' :: comment) =
      ('#' :: (outsideBlocks false false comment).1, (outsideBlocks false false comment).2) := rfl
  have houtside := outsideBlocks_append (by decide : '#' ≠ '"') (openBehind false above) false row
    comment
  rw [hclosed, hsign, hblock] at houtside
  have hopen : openBehind false (above ++ [row ++ '#' :: comment]) = false := by
    rw [openBehind_append]
    exact congrArg Prod.snd houtside
  constructor
  · refine (iff_row hrows').2 ?_
    rw [hopen]
    exact ⟨rfl, rfl, rfl⟩
  · have hrow : rowText (openBehind false above) (row ++ '#' :: comment) =
        rowText (openBehind false above) row := by
      have hbefore : beforeComment? .outside ('#' :: (outsideBlocks false false comment).1) =
          some [] := rfl
      rw [rowText_eq, rowText_eq, houtside, uncommented, uncommented, beforeComment?_append,
        hcomment, hstate, hbefore]
      simp
    rw [clean_eq, clean_eq, hrows, hrows', cleanLines_append, hopen, cleanLines_empty,
      cleanLines_append, cleanLines_append, cleanLines_cons, cleanLines_cons, hrow]
    simp [cleanLines]

theorem append_gap (h : Settled text) (hgap : IsGap gap) :
    Settled (text ++ gap) ∧ clean (text ++ gap) = clean text := by
  induction hgap generalizing text with
  | nil => simpa using h
  | blank hc _ ih =>
    obtain ⟨hsettled, hclean⟩ := h.append_blank hc
    have hrest := ih hsettled
    rw [List.append_assoc, List.singleton_append] at hrest
    rwa [← hclean]
  | comment hfeed hblock _ ih =>
    obtain ⟨hsettled, hclean⟩ := h.append_comment hfeed hblock
    have hrest := ih hsettled
    rw [← hclean]
    simpa using hrest

/-- What follows a gap behind a settled text is cleaned by itself. -/
theorem clean_append_gap (h : Settled text) (hgap : IsGap gap) :
    ∃ blanks, (∀ c ∈ blanks, isBlank c = true) ∧ ∀ c rest, IsMark c →
      clean (text ++ (gap ++ c :: rest)) = clean text ++ (blanks ++ clean (c :: rest)) := by
  obtain ⟨hsettled, hclean⟩ := h.append_gap hgap
  obtain ⟨blanks, hblanks, happend⟩ := hsettled.clean_append
  refine ⟨blanks, hblanks, fun c rest hc => ?_⟩
  rw [← List.append_assoc, happend c rest hc, hclean]

end Settled

end FieldAccess.Schema
