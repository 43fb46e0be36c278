import FieldAccess.Proofs.Texts
import FieldAccess.Proofs.Shielding
import FieldAccess.Schema.Document

/-!
# Cleaning row by row

A document is cleaned one row at a time. The rows above matter for what a row says only in so far as
they leave a block string open, and a carriage return at the end of a row does not matter at all. A
text that is put into a document therefore changes the rows it stands on, and those below only
through the block string that it opens or closes.

## Main definitions

* `rowText` – what is left of a row.
* `openBehind` – whether a block string is open behind rows.
* `uncommented` – a row up to its comment.
* `inBlockString`, `beginsText` – where the end of a text stands.
* `ReadAlike` – documents with the same fields and the same types that could not be read.

## Main statements

* `cleanLines_append` – rows are cleaned one after another.
* `clean_eq` – a document is what its rows say.
* `rowText_eq` – blanks and comments do not matter for what a row says.
-/

namespace FieldAccess.Schema

open Text

section Rows

variable {front behind row row' : List Char} {above below : List (List Char)}

/-- Two texts one behind the other share a row: the last of the first and the first of the
second. -/
theorem splitOn_append (hfront : front.splitOn '\n' = above ++ [row])
    (hbehind : behind.splitOn '\n' = row' :: below) :
    (front ++ behind).splitOn '\n' = above ++ (row ++ row') :: below := by
  induction front generalizing above row with
  | nil =>
    obtain ⟨rfl, rfl⟩ : above = [] ∧ row = [] := by
      simpa [List.append_eq_cons_iff] using hfront.symm
    exact hbehind
  | cons c front ih =>
    obtain ⟨first, others, hsplit⟩ := List.exists_cons_of_ne_nil (List.splitOn_ne_nil '\n' front)
    rw [List.splitOn_cons_eq_if_modifyHead] at hfront
    rw [List.cons_append, List.splitOn_cons_eq_if_modifyHead]
    split
    · rename_i hc
      rw [if_pos hc] at hfront
      cases above with
      | nil => simp [hsplit] at hfront
      | cons next above =>
        obtain ⟨rfl, hrest⟩ := List.cons.inj hfront
        rw [ih hrest]
        rfl
    · rename_i hc
      rw [if_neg hc, hsplit, List.modifyHead_cons] at hfront
      cases above with
      | nil =>
        obtain ⟨rfl, rfl⟩ := List.cons.inj hfront
        have hrow : front.splitOn '\n' = [] ++ [first] := hsplit
        rw [ih hrow]
        rfl
      | cons next above =>
        obtain ⟨rfl, hrest⟩ := List.cons.inj hfront
        have hrows : front.splitOn '\n' = first :: above ++ [row] := by
          rw [hsplit, hrest]
          rfl
        rw [ih hrows]
        rfl

theorem splitOn_row_append (hfront : '\n' ∉ front) (hbehind : behind.splitOn '\n' = row' :: below) :
    (front ++ behind).splitOn '\n' = (front ++ row') :: below := by
  have hrow : front.splitOn '\n' = [] ++ [front] := List.splitOn_eq_singleton hfront
  exact splitOn_append hrow hbehind

theorem exists_splitOn_concat (text : List Char) :
    ∃ above row, text.splitOn '\n' = above ++ [row] :=
  ⟨_, _, (List.dropLast_concat_getLast (List.splitOn_ne_nil '\n' text)).symm⟩

theorem exists_splitOn_cons (text : List Char) :
    ∃ row below, text.splitOn '\n' = row :: below :=
  List.exists_cons_of_ne_nil (List.splitOn_ne_nil '\n' text)

theorem head?_of_splitOn {text : List Char} (h : text.splitOn '\n' = row :: below) :
    ∀ c ∈ row.head?, c ∈ text.head? := by
  cases text with
  | nil =>
    obtain ⟨rfl, -⟩ := List.cons.inj (h : [[]] = row :: below)
    nofun
  | cons d text =>
    rw [List.splitOn_cons_eq_if_modifyHead] at h
    split at h
    · obtain ⟨rfl, -⟩ := List.cons.inj h
      nofun
    · obtain ⟨first, others, hsplit⟩ := List.exists_cons_of_ne_nil (List.splitOn_ne_nil '\n' text)
      rw [hsplit, List.modifyHead_cons] at h
      obtain ⟨rfl, -⟩ := List.cons.inj h
      exact fun c hc => hc

end Rows

section BlockStrings

variable {c : Char} {text rest : List Char}

@[simp] theorem outsideBlocks_nil (inBlock escaped : Bool) :
    outsideBlocks inBlock escaped [] = ([], inBlock) := by
  rw [outsideBlocks]

theorem outsideBlocks_opening (escaped : Bool) (rest : List Char) :
    outsideBlocks false escaped ('"' :: '"' :: '"' :: rest) =
      (' ' :: (outsideBlocks true false rest).1, (outsideBlocks true false rest).2) := by
  rw [outsideBlocks, if_neg (by decide)]

theorem outsideBlocks_closing (escaped : Bool) (rest : List Char) :
    outsideBlocks true escaped ('"' :: '"' :: '"' :: rest) = outsideBlocks escaped false rest := by
  rw [outsideBlocks, if_pos rfl]

/-- A character that does not begin three quotes is kept outside of block strings. -/
theorem outsideBlocks_outside (h : ∀ more, c = '"' → rest ≠ '"' :: '"' :: more)
    (escaped : Bool) :
    outsideBlocks false escaped (c :: rest) =
      (c :: (outsideBlocks false false rest).1, (outsideBlocks false false rest).2) := by
  rw [outsideBlocks, if_neg (by decide)]
  exact h

/-- A character that does not begin three quotes is dropped inside of block strings. -/
theorem outsideBlocks_inside (h : ∀ more, c = '"' → rest ≠ '"' :: '"' :: more)
    (escaped : Bool) :
    outsideBlocks true escaped (c :: rest) = outsideBlocks true (c == '\\') rest := by
  rw [outsideBlocks, if_pos rfl]
  exact h

/-- Three quotes do not reach up to a character that is none. -/
theorem ne_quotes_append {d : Char} (hc : c ≠ '"')
    (h : ∀ more, d = '"' → text ≠ '"' :: '"' :: more) :
    ∀ more, d = '"' → text ++ c :: rest ≠ '"' :: '"' :: more := by
  intro more hd hmore
  match text, h with
  | [], _ => exact hc (List.cons.inj hmore).1
  | [_], _ => exact hc (List.cons.inj (List.cons.inj hmore).2).1
  | first :: second :: text, h =>
    obtain ⟨rfl, htext⟩ := List.cons.inj hmore
    obtain ⟨rfl, -⟩ := List.cons.inj htext
    exact h text hd rfl

/-- What stands behind a character that is no quote is read for itself. -/
theorem outsideBlocks_append (hc : c ≠ '"') (inBlock escaped : Bool) (text rest : List Char) :
    outsideBlocks inBlock escaped (text ++ c :: rest) =
      ((outsideBlocks inBlock escaped text).1 ++
          (outsideBlocks (outsideBlocks inBlock escaped text).2 false (c :: rest)).1,
        (outsideBlocks (outsideBlocks inBlock escaped text).2 false (c :: rest)).2) := by
  fun_induction outsideBlocks inBlock escaped text with
  | case1 inBlock escaped =>
    -- Whether a backslash stands in front of the character matters for quotes only.
    have hfirst : ∀ more, c = '"' → rest ≠ '"' :: '"' :: more := fun _ h => absurd h hc
    cases inBlock <;> simp [outsideBlocks_outside hfirst, outsideBlocks_inside hfirst]
  | case2 escaped text ih =>
    rw [← ih]
    exact outsideBlocks_closing escaped _
  | case3 inBlock escaped text hinBlock kept open? houtside ih =>
    obtain rfl : inBlock = false := by simpa using hinBlock
    simp only [List.cons_append, outsideBlocks_opening, ih, houtside]
  | case4 escaped d text hquotes ih =>
    rw [List.cons_append, outsideBlocks_inside (ne_quotes_append hc hquotes), ih]
  | case5 inBlock escaped d text hquotes hinBlock kept open? houtside ih =>
    obtain rfl : inBlock = false := by simpa using hinBlock
    rw [List.cons_append, outsideBlocks_outside (ne_quotes_append hc hquotes), ih, houtside]
    rfl

/-- What stands behind the end of a block string is read for itself, and so is what stands behind
blanks. -/
theorem outsideBlocks_append_of_blank {inBlock escaped : Bool}
    (hblank : ∀ c ∈ (outsideBlocks inBlock escaped text).1, isBlank c = true)
    (hclosed : (outsideBlocks inBlock escaped text).2 = false) (rest : List Char) :
    outsideBlocks inBlock escaped (text ++ rest) =
      ((outsideBlocks inBlock escaped text).1 ++ (outsideBlocks false false rest).1,
        (outsideBlocks false false rest).2) := by
  fun_induction outsideBlocks inBlock escaped text with
  | case1 inBlock escaped =>
    obtain rfl : inBlock = false := hclosed
    cases escaped <;> unfold outsideBlocks <;> rfl
  | case2 escaped text ih => exact (outsideBlocks_closing escaped _).trans (ih hblank hclosed)
  | case3 inBlock escaped text hinBlock kept open? houtside ih =>
    obtain rfl : inBlock = false := by simpa using hinBlock
    rw [houtside] at ih
    rw [List.cons_append, List.cons_append, List.cons_append, outsideBlocks_opening,
      ih (fun c hc => hblank c (by simp [hc])) hclosed]
    rfl
  | case4 escaped d text hquotes ih =>
    -- Fewer than three quotes at the end of a block string would leave it open.
    have hquotes' : ∀ more, d = '"' → text ++ rest ≠ '"' :: '"' :: more := by
      rintro more rfl hmore
      match text, hclosed, hquotes with
      | [], hclosed, _ => cases hclosed
      | [_], hclosed, _ =>
        obtain ⟨rfl, -⟩ := List.cons.inj hmore
        cases hclosed
      | first :: second :: text, _, hquotes =>
        obtain ⟨rfl, htext⟩ := List.cons.inj hmore
        obtain ⟨rfl, -⟩ := List.cons.inj htext
        exact hquotes text rfl rfl
    rw [List.cons_append, outsideBlocks_inside hquotes', ih hblank hclosed]
  | case5 inBlock escaped d text hquotes hinBlock kept open? houtside ih =>
    obtain rfl : inBlock = false := by simpa using hinBlock
    rw [houtside] at ih
    have hd : d ≠ '"' := by
      rintro rfl
      cases hblank '"' (by simp)
    rw [List.cons_append, outsideBlocks_outside fun _ h => absurd h hd,
      ih (fun c hc => hblank c (by simp [hc])) hclosed]
    rfl

/-- What lies outside of block strings has been there, or stands for one. -/
theorem mem_outsideBlocks {inBlock escaped : Bool}
    (h : c ∈ (outsideBlocks inBlock escaped text).1) : c = ' ' ∨ c ∈ text := by
  fun_induction outsideBlocks inBlock escaped text with
  | case1 => cases h
  | case2 escaped text ih => exact (ih h).imp_right (by simp +contextual)
  | case3 inBlock escaped text hinBlock kept open? houtside ih =>
    rw [houtside] at ih
    exact (List.mem_cons.1 h).elim .inl fun h => (ih h).imp_right (by simp +contextual)
  | case4 escaped d text hquotes ih => exact (ih h).imp_right (by simp +contextual)
  | case5 inBlock escaped d text hquotes hinBlock kept open? houtside ih =>
    rw [houtside] at ih
    rcases List.mem_cons.1 h with rfl | h
    · exact .inr List.mem_cons_self
    · exact (ih h).imp_right fun h => List.mem_cons_of_mem _ h

end BlockStrings

section Comments

variable {state : QuoteState} {text rest : List Char}

/-- The state behind a text. -/
def QuoteState.behind (state : QuoteState) (text : List Char) : QuoteState :=
  text.foldl (fun state c => state.after c) state

theorem QuoteState.behind_append (state : QuoteState) (text rest : List Char) :
    state.behind (text ++ rest) = (state.behind text).behind rest :=
  List.foldl_append

/-- A text without quotes neither begins nor ends a string. -/
theorem QuoteState.behind_outside (h : '"' ∉ text) : behind .outside text = .outside := by
  induction text with
  | nil => rfl
  | cons c text ih =>
    rw [List.mem_cons, not_or] at h
    change behind (after c .outside) text = .outside
    rw [after, if_neg (Ne.symm h.1), ih h.2]

/-- Blanks do not end a string. -/
theorem ne_outside_behind_blanks {blanks : List Char} (hblanks : ∀ c ∈ blanks, isBlank c = true)
    (hstate : state ≠ .outside) : state.behind blanks ≠ .outside := by
  induction blanks generalizing state with
  | nil => exact hstate
  | cons c blanks ih =>
    refine ih (fun d hd => hblanks d (by simp [hd])) ?_
    have hquote : c ≠ '"' := by
      rintro rfl
      exact absurd (hblanks '"' (by simp)) (by decide)
    cases state with
    | outside => exact absurd rfl hstate
    | inside =>
      simp only [QuoteState.after, if_neg hquote]
      split <;> simp
    | escaped => simp [QuoteState.after]

/-- A text that ends outside of strings does so without the blanks at its end. -/
theorem behind_trimEnd (h : state.behind text = .outside) :
    state.behind (trimEnd text) = .outside := by
  obtain ⟨blanks, htext, hblanks⟩ := exists_trimEnd text
  rw [htext, QuoteState.behind_append] at h
  by_contra hstate
  exact ne_outside_behind_blanks hblanks hstate h

/-- A comment is looked for behind a text if there is none in it. -/
theorem beforeComment?_append (state : QuoteState) (text rest : List Char) :
    beforeComment? state (text ++ rest) =
      (beforeComment? state text).or
        ((beforeComment? (state.behind text) rest).map (text ++ ·)) := by
  induction text generalizing state with
  | nil => simp [beforeComment?, QuoteState.behind]
  | cons c text ih =>
    rw [List.cons_append, beforeComment?, beforeComment?]
    split
    · rfl
    · rw [ih, Option.map_or, Option.map_map]
      rfl

theorem beforeComment?_of_notMem (h : '#' ∉ text) (state : QuoteState) :
    beforeComment? state text = none := by
  induction text generalizing state with
  | nil => rfl
  | cons c text ih =>
    rw [List.mem_cons, not_or] at h
    rw [beforeComment?, if_neg fun hsign => h.1 hsign.1.symm, ih h.2]
    rfl

/-- A text goes on behind what stands in front of its comment. -/
theorem exists_of_beforeComment? {before : List Char}
    (h : beforeComment? state text = some before) :
    ∃ comment, text = before ++ '#' :: comment := by
  induction text generalizing state before with
  | nil => cases h
  | cons c text ih =>
    rw [beforeComment?] at h
    split at h
    · rename_i hsign
      exact ⟨text, by rw [← Option.some.inj h, hsign.1]; rfl⟩
    · obtain ⟨more, hmore, rfl⟩ := Option.map_eq_some_iff.1 h
      obtain ⟨comment, rfl⟩ := ih hmore
      exact ⟨comment, rfl⟩

/-- A row up to its comment. -/
def uncommented (text : List Char) : List Char := (beforeComment? .outside text).getD text

theorem notMem_blanks {blanks : List Char} (h : ∀ c ∈ blanks, isBlank c = true) {c : Char}
    (hc : isBlank c = false) : c ∉ blanks := by
  intro hmem
  rw [h c hmem] at hc
  cases hc

/-- It does not matter whether blanks or the comment are removed first. -/
theorem withoutComment_trim (text : List Char) :
    withoutComment (trim text) = trim (uncommented text) := by
  obtain ⟨front, back, htext, hfront, hback⟩ := exists_trim text
  have hlead : Shielded (· == '#') .outside front := .plain fun c hc => by
    refine ⟨beq_false_of_ne ?_, ?_⟩
    all_goals
      rintro rfl
      exact notMem_blanks hfront (by decide) hc
  -- Blanks hold no comment sign, so the comment is that of the trimmed text.
  have hsame : beforeComment? .outside text =
      (beforeComment? .outside (trim text)).map (front ++ ·) := by
    conv => lhs; rw [htext, List.append_assoc]
    rw [hlead.beforeComment?_append rfl, beforeComment?_append,
      beforeComment?_of_notMem (notMem_blanks hback (by decide))]
    simp
  rw [uncommented, withoutComment, hsame]
  cases hbefore : beforeComment? .outside (trim text) with
  | none => rfl
  | some before =>
    have hstart : trimStart before = before := by
      cases before with
      | nil => rfl
      | cons c before =>
        obtain ⟨comment, hcomment⟩ := exists_of_beforeComment? hbefore
        obtain ⟨d, more, hd, hsolid⟩ :=
          (solid_of_trim (trim_trim text) (by simp [hcomment])).1
        rw [hcomment, List.cons_append] at hd
        obtain ⟨rfl, -⟩ := List.cons.inj hd
        exact trimStart_cons_of_not_blank hsolid
    simp only [Option.map_some, Option.getD_some]
    rw [trim_of_blank_append hfront, trim, hstart]

end Comments

section Descriptions

variable {c : Char} {text behind : List Char}

theorem afterString?_append {escaped : Bool} (h : afterString? escaped text = some behind)
    (rest : List Char) : afterString? escaped (text ++ rest) = some (behind ++ rest) := by
  induction text generalizing escaped with
  | nil => cases h
  | cons c text ih =>
    rw [afterString?] at h
    rw [List.cons_append, afterString?]
    split at h
    · rename_i hescaped
      rw [if_pos hescaped, ih h]
    · rename_i hescaped
      rw [if_neg hescaped]
      split at h
      · rename_i hc
        rw [if_pos hc, ih h]
      · rename_i hc
        rw [if_neg hc]
        split at h
        · rename_i hquote
          rw [if_pos hquote, Option.some.inj h]
        · rename_i hquote
          rw [if_neg hquote, ih h]

theorem suffix_of_afterString? {escaped : Bool} (h : afterString? escaped text = some behind) :
    behind <:+ text := by
  induction text generalizing escaped with
  | nil => cases h
  | cons c text ih =>
    refine .trans ?_ (List.suffix_cons c text)
    rw [afterString?] at h
    split at h
    · exact ih h
    · split at h
      · exact ih h
      · split at h
        · exact (Option.some.inj h) ▸ List.suffix_rfl
        · exact ih h

theorem withoutDescription_suffix (text : List Char) : withoutDescription text <:+ text := by
  unfold withoutDescription
  split
  · rename_i rest
    split
    · rename_i behind hbehind
      exact (List.dropWhile_suffix _).trans
        ((suffix_of_afterString? hbehind).trans (List.suffix_cons _ _))
    · exact List.nil_suffix
  · exact List.suffix_rfl

theorem trimStart_withoutDescription (h : trimStart text = text) :
    trimStart (withoutDescription text) = withoutDescription text := by
  unfold withoutDescription
  split
  · split
    · exact trimStart_trimStart _
    · rfl
  · exact h

theorem withoutDescription_of_ne (hc : c ≠ '"') (text : List Char) :
    withoutDescription (c :: text) = c :: text := by
  rw [withoutDescription]
  exact fun _ h => hc (List.cons.inj h).1

/-- A description is removed in front of any text. -/
theorem withoutDescription_append (h : withoutDescription text ≠ []) (rest : List Char) :
    withoutDescription (text ++ rest) = withoutDescription text ++ rest := by
  cases text with
  | nil => exact absurd rfl h
  | cons c text =>
    by_cases hc : c = '"'
    · subst hc
      rw [List.cons_append]
      simp only [withoutDescription] at h ⊢
      cases hafter : afterString? false text with
      | none => simp [hafter] at h
      | some behind =>
        rw [hafter] at h
        rw [afterString?_append hafter]
        exact trimStart_append h rest
    · rw [List.cons_append, withoutDescription_of_ne hc, withoutDescription_of_ne hc,
        List.cons_append]

end Descriptions

section Cleaning

variable {inBlock : Bool} {row : List Char}

/-- What is left of a row. -/
def rowText (inBlock : Bool) (row : List Char) : List Char :=
  withoutDescription (withoutComment (trim (outsideBlocks inBlock false row).1))

/-- Whether a block string is open behind rows. -/
def openBehind (inBlock : Bool) (rows : List (List Char)) : Bool :=
  rows.foldl (fun open? row => (outsideBlocks open? false row).2) inBlock

@[simp] theorem openBehind_cons (inBlock : Bool) (row : List Char) (rows : List (List Char)) :
    openBehind inBlock (row :: rows) = openBehind (outsideBlocks inBlock false row).2 rows := rfl

theorem KeepsBlocks.closed (h : KeepsBlocks row) :
    outsideBlocks false false row = (row, false) := by
  have hrow := h []
  rwa [List.append_nil, outsideBlocks_nil, List.append_nil] at hrow

theorem openBehind_of_keepsBlocks {rows : List (List Char)} (h : ∀ row ∈ rows, KeepsBlocks row) :
    openBehind false rows = false := by
  induction rows with
  | nil => rfl
  | cons row rows ih =>
    rw [openBehind_cons, (h row (by simp)).closed]
    exact ih fun other hother => h other (by simp [hother])

theorem openBehind_append (inBlock : Bool) (above below : List (List Char)) :
    openBehind inBlock (above ++ below) = openBehind (openBehind inBlock above) below :=
  List.foldl_append

theorem cleanLines_cons (inBlock : Bool) (row : List Char) (rows : List (List Char)) :
    cleanLines inBlock (row :: rows) =
      (if (rowText inBlock row).isEmpty then [] else [rowText inBlock row]) ++
        cleanLines (outsideBlocks inBlock false row).2 rows := by
  change (if (rowText inBlock row).isEmpty then cleanLines (outsideBlocks inBlock false row).2 rows
    else rowText inBlock row :: cleanLines (outsideBlocks inBlock false row).2 rows) = _
  by_cases hempty : (rowText inBlock row).isEmpty
  · rw [if_pos hempty, if_pos hempty, List.nil_append]
  · rw [if_neg hempty, if_neg hempty, List.singleton_append]

/-- Rows are cleaned one after another. -/
theorem cleanLines_append (inBlock : Bool) (above below : List (List Char)) :
    cleanLines inBlock (above ++ below) =
      cleanLines inBlock above ++ cleanLines (openBehind inBlock above) below := by
  induction above generalizing inBlock with
  | nil => rfl
  | cons row above ih =>
    rw [List.cons_append, cleanLines_cons, cleanLines_cons, ih, List.append_assoc]
    rfl

/-- What a row says is what stands in front of its comment, without the blanks around it and
without a description. -/
theorem rowText_eq (inBlock : Bool) (row : List Char) :
    rowText inBlock row =
      withoutDescription (trim (uncommented (outsideBlocks inBlock false row).1)) := by
  rw [rowText, withoutComment_trim]

theorem mem_rowText {c : Char} (h : c ∈ rowText inBlock row) : c = ' ' ∨ c ∈ row := by
  rw [rowText_eq] at h
  have huncommented : uncommented (outsideBlocks inBlock false row).1 ⊆
      (outsideBlocks inBlock false row).1 := by
    rw [uncommented]
    cases hbefore : beforeComment? .outside (outsideBlocks inBlock false row).1 with
    | none => exact List.Subset.refl _
    | some before =>
      obtain ⟨comment, hcomment⟩ := exists_of_beforeComment? hbefore
      rw [hcomment]
      exact List.subset_append_left _ _
  exact mem_outsideBlocks
    (huncommented (trim_subset _ ((withoutDescription_suffix _).subset h)))

theorem trim_rowText (inBlock : Bool) (row : List Char) :
    trim (rowText inBlock row) = rowText inBlock row := by
  rw [rowText_eq]
  generalize uncommented (outsideBlocks inBlock false row).1 = text
  have hend : trimEnd (withoutDescription (trim text)) = withoutDescription (trim text) :=
    trimEnd_of_suffix (trimEnd_trim text) (withoutDescription_suffix _)
  rw [trim_of_trimEnd hend, trimStart_withoutDescription (trimStart_trim text)]

/-- Rows are exchangeable if the same is left of them and they leave the same block strings open. -/
theorem cleanLines_congr {inBlock' : Bool} {row' : List Char}
    (htext : rowText inBlock row = rowText inBlock' row')
    (hopen : (outsideBlocks inBlock false row).2 = (outsideBlocks inBlock' false row').2)
    (rows : List (List Char)) :
    cleanLines inBlock (row :: rows) = cleanLines inBlock' (row' :: rows) := by
  rw [cleanLines_cons, cleanLines_cons, htext, hopen]

/-- A carriage return at the end of a row does not open or close a block string, and is trimmed. -/
theorem cleanLines_return (inBlock : Bool) (row : List Char) (rows : List (List Char)) :
    cleanLines inBlock ((row ++ ['\r']) :: rows) = cleanLines inBlock (row :: rows) := by
  have hreturn : ∀ open?, ∃ blanks, (∀ c ∈ blanks, isBlank c = true) ∧
      outsideBlocks open? false ['\r'] = (blanks, open?) := by
    intro open?
    cases open?
    · exact ⟨['\r'], List.forall_mem_singleton.2 rfl, by decide⟩
    · exact ⟨[], nofun, by decide⟩
  obtain ⟨blanks, hblanks, houtside⟩ := hreturn (outsideBlocks inBlock false row).2
  have hrow := outsideBlocks_append (by decide : '\r' ≠ '"') inBlock false row []
  rw [houtside] at hrow
  refine cleanLines_congr ?_ (by rw [hrow]) rows
  rw [rowText, rowText, hrow, trim_append_of_blank hblanks]

/-- Blanks and block strings in front of a row say nothing. -/
theorem cleanLines_blank {front : List Char}
    (hblank : ∀ c ∈ (outsideBlocks inBlock false front).1, isBlank c = true)
    (hclosed : (outsideBlocks inBlock false front).2 = false) (row : List Char)
    (rows : List (List Char)) :
    cleanLines inBlock ((front ++ row) :: rows) = cleanLines false (row :: rows) := by
  have hrow := outsideBlocks_append_of_blank hblank hclosed row
  refine cleanLines_congr ?_ (by rw [hrow]) rows
  rw [rowText, rowText, hrow, trim_of_blank_append hblank]

/-- Behind three quotes a row is read as inside of a block string. -/
theorem cleanLines_opening (row : List Char) (rows : List (List Char)) :
    cleanLines false (('"' :: '"' :: '"' :: row) :: rows) = cleanLines true (row :: rows) := by
  have hrow := outsideBlocks_opening false row
  refine cleanLines_congr ?_ (by rw [hrow]) rows
  rw [rowText, rowText, hrow, trim_cons_of_blank rfl]

theorem cleanLines_empty (inBlock : Bool) (rows : List (List Char)) :
    cleanLines inBlock ([] :: rows) = cleanLines inBlock rows := by
  rw [cleanLines_cons, outsideBlocks_nil]
  rfl

theorem cleanLines_linesFrom (inBlock : Bool) (read text : List Char) (hread : '\n' ∉ read) :
    cleanLines inBlock (linesFrom read text) =
      cleanLines inBlock ((read.reverse ++ text).splitOn '\n') := by
  fun_induction linesFrom read text generalizing inBlock with
  | case1 read hempty =>
    obtain rfl : read = [] := by simpa using hempty
    exact (cleanLines_empty inBlock []).symm
  | case2 read hempty =>
    rw [List.append_nil, List.splitOn_eq_singleton (by simpa using hread)]
  | case3 read text ih =>
    have hreturn : ∀ rows, cleanLines inBlock (withoutReturn read.reverse :: rows) =
        cleanLines inBlock (read.reverse :: rows) := by
      intro rows
      rw [withoutReturn]
      split
      · rename_i hlast
        obtain ⟨front, hfront⟩ := List.getLast?_eq_some_iff.1 hlast
        rw [hfront, List.dropLast_concat, cleanLines_return]
      · rfl
    rw [hreturn, List.splitOn_append_cons_self, List.splitOn_eq_singleton (by simpa using hread),
      List.singleton_append, cleanLines_cons, cleanLines_cons, ih _ (by simp)]
    rfl
  | case4 read c text hc ih =>
    rw [ih inBlock (by simpa [hread, eq_comm] using hc)]
    simp

/-- A document is what its rows say. -/
theorem clean_eq (document : List Char) :
    clean document = joined ['\n'] (cleanLines false (document.splitOn '\n')) := by
  rw [clean, lines, cleanLines_linesFrom false [] document (by simp)]
  rfl

theorem clean_row (hfeed : '\n' ∉ row) : clean row = rowText false row := by
  rw [clean_eq, List.splitOn_eq_singleton hfeed, cleanLines_cons, cleanLines, List.append_nil]
  split
  · rename_i hempty
    exact (List.isEmpty_iff.1 hempty).symm
  · rfl

end Cleaning

section Places

/-- Whether the end of a text stands inside of a block string. -/
def inBlockString (text : String) : Bool := openBehind false (text.toList.splitOn '\n')

/-- What the last of some rows holds outside of block strings. -/
def lastOutside (inBlock : Bool) : List (List Char) → List Char
  | [] => []
  | [row] => (outsideBlocks inBlock false row).1
  | row :: rows => lastOutside (outsideBlocks inBlock false row).2 rows

theorem lastOutside_append (inBlock : Bool) (above : List (List Char)) (row : List Char) :
    lastOutside inBlock (above ++ [row]) =
      (outsideBlocks (openBehind inBlock above) false row).1 := by
  induction above generalizing inBlock with
  | nil => rfl
  | cons first above ih =>
    rw [openBehind_cons, ← ih, List.cons_append]
    cases above <;> rfl

/-- Whether nothing but blanks and block strings stands on the line that a text ends with. -/
def beginsText (text : String) : Bool := (lastOutside false (text.toList.splitOn '\n')).all isBlank

/-- A line that begins has said nothing. -/
theorem beginsText_feed (text : String) : beginsText (text ++ "\n") = true := by
  have hrows : (text ++ "\n").toList.splitOn '\n' = text.toList.splitOn '\n' ++ [[]] := by
    rw [String.toList_append]
    exact List.splitOn_append_cons_self _ []
  rw [beginsText, hrows, lastOutside_append, outsideBlocks_nil, List.all_nil]

/-- What stands where a line begins to say something is cleaned by itself. -/
theorem exists_clean_append {before : String} (hbegins : beginsText before = true)
    (hblock : inBlockString before = false) :
    ∃ above, ∀ after, clean (before.toList ++ after) =
      joined ['\n'] (cleanLines false above ++ cleanLines false (after.splitOn '\n')) := by
  obtain ⟨above, front, habove⟩ := exists_splitOn_concat before.toList
  refine ⟨above, fun after => ?_⟩
  obtain ⟨row, below, hrows⟩ := exists_splitOn_cons after
  rw [beginsText, habove, lastOutside_append, List.all_eq_true] at hbegins
  rw [inBlockString, habove, openBehind_append] at hblock
  rw [clean_eq, splitOn_append habove hrows, hrows, cleanLines_append,
    cleanLines_blank hbegins hblock]

/-- Documents with the same fields and the same types that could not be read. -/
def ReadAlike (document other : String) : Prop :=
  parse document = parse other ∧ unreadTypes document = unreadTypes other

theorem readAlike_of_clean {document other : String}
    (h : clean document.toList = clean other.toList) : ReadAlike document other := by
  constructor
  · rw [parse, h, parse]
  · rw [unreadTypes, h, unreadTypes]

end Places

end FieldAccess.Schema
