import FieldAccess.Proofs.QuotedScalars

/-!
# Blocks of lines

A text of several lines is read back from the block that it is written as. The lines of a block are
deeper than the collection around it, so that the block ends with the first line that is not; what
becomes of the line ends at the end of the text is told by a sign in front of the block.

## Main definitions

* `chompingOf` – what becomes of the line ends at the end of a text.
* `Cursor.AtLine` – what may come behind the line ends and the spaces inside a block.

## Main statements

* `Cursor.blockLines_eq` – the lines of a block are read back.
* `Cursor.block_eq` – a block of lines is read back.
-/

namespace FieldAccess.Yaml

section Lines

variable {text front more : List Char} {d : Char}

/-- The line ends of a text that is written as itself stand for themselves. -/
theorem breakText_of_isPrintable (hbreak : isBreak d = true) (hprintable : isPrintable d = true) :
    d ≠ '\r' ∧ breakText d = d := by
  by_cases hfeed : d = '\n'
  · subst hfeed
    decide
  · have hd := isBreak_of_isSeparator (isSeparator_of_isBreak hbreak hprintable hfeed)
    exact ⟨hd.2.1, hd.2.2.2⟩

/-- What becomes of the line ends at the end of a text. -/
def chompingOf (text : List Char) : Cursor.Chomping :=
  match text.reverse with
  | [] => .strip
  | [c] => if isBreak c then .keep else .strip
  | c :: d :: _ => if !isBreak c then .strip else if isBreak d then .keep else .clip

/-- The sign for what becomes of the line ends. -/
def chompingSigns : Cursor.Chomping → List Char
  | .strip => ['-']
  | .clip => []
  | .keep => ['+']

theorem blockSigns_eq (text : List Char) :
    blockSigns text = (if text.head?.any fun c => c = ' ' || isBreak c then ['2'] else []) ++
      chompingSigns (chompingOf text) := by
  rw [blockSigns, chompingOf]
  refine congrArg (HAppend.hAppend _) ?_
  match text.reverse with
  | [] => rfl
  | [c] => cases hc : isBreak c <;> simp [hc, chompingSigns]
  | c :: d :: _ =>
    cases hc : isBreak c <;> cases hd : isBreak d <;> simp [hc, hd, chompingSigns]

/-- Only the end of a text tells what becomes of its line ends. -/
theorem chompingOf_append (hmore : more ≠ []) (hstart : ∀ d ∈ more.head?, isBreak d = false) :
    chompingOf (front ++ more) = chompingOf more := by
  rw [chompingOf, chompingOf, List.reverse_append]
  match h : more.reverse with
  | [] => exact absurd (List.reverse_eq_nil_iff.1 h) hmore
  | [c] =>
    have hc : isBreak c = false := by
      have hsingle : more = [c] := by rw [← List.reverse_reverse more, h]; rfl
      exact hstart c (by rw [hsingle]; rfl)
    cases hfront : front.reverse <;> simp [hc]
  | c :: d :: _ => rfl

/-- The line ends behind a text that does not end with one are left out. -/
theorem chompingOf_line (htext : ∀ d ∈ text, isBreak d = false) : chompingOf text = .strip := by
  have hmem : ∀ d ∈ text.reverse, isBreak d = false := fun d hd => htext d (List.mem_reverse.1 hd)
  rw [chompingOf]
  match h : text.reverse with
  | [] => rfl
  | [c] => simp [hmem c (by simp [h])]
  | c :: d :: _ => simp [hmem c (by simp [h])]

/-- A single line end behind a text is left. -/
theorem chompingOf_single (hfront : ∀ d ∈ front, isBreak d = false) (hne : front ≠ [])
    (hd : isBreak d = true) : chompingOf (front ++ [d]) = .clip := by
  have hmem : ∀ d ∈ front.reverse, isBreak d = false := fun d hd =>
    hfront d (List.mem_reverse.1 hd)
  rw [chompingOf, List.reverse_append]
  match h : front.reverse with
  | [] => exact absurd (List.reverse_eq_nil_iff.1 h) hne
  | e :: _ => simp [hd, hmem e (by simp [h])]

/-- Several line ends, or those of a text that consists of them, are kept. -/
theorem chompingOf_several {breaks : List Char} (hbreaks : ∀ d ∈ breaks, isBreak d = true)
    (hseveral : breaks.length ≠ 1 ∨ front = []) (hne : breaks ≠ []) :
    chompingOf (front ++ breaks) = .keep := by
  have hmem : ∀ d ∈ breaks.reverse, isBreak d = true := fun d hd =>
    hbreaks d (List.mem_reverse.1 hd)
  rw [chompingOf, List.reverse_append]
  match h : breaks.reverse with
  | [] => exact absurd (List.reverse_eq_nil_iff.1 h) hne
  | [c] =>
    have hlength : breaks.length = 1 := by rw [← List.length_reverse, h]; rfl
    obtain rfl := hseveral.resolve_left fun hmany => hmany hlength
    simp [hmem c (by simp [h])]
  | c :: d :: _ => simp [hmem c (by simp [h]), hmem d (by simp [h])]

/-- The end of the last line of a block, unless the text ends with one. -/
def blockTail (text : List Char) : List Char := if text.getLast?.any isBreak then [] else ['\n']

theorem blockTail_append (hmore : more ≠ []) : blockTail (front ++ more) = blockTail more := by
  rw [blockTail, blockTail, List.getLast?_append_of_ne_nil _ hmore]

theorem blockTail_line (htext : ∀ d ∈ text, isBreak d = false) : blockTail text = ['\n'] := by
  have hlast : text.getLast?.any isBreak = false := by
    cases hlast : text.getLast? with
    | none => rfl
    | some d => exact htext d (List.mem_of_getLast? hlast)
  rw [blockTail, hlast]
  rfl

theorem blockTail_breaks (htext : ∀ d ∈ text, isBreak d = true) (hne : text ≠ []) :
    blockTail text = [] := by
  obtain ⟨d, hlast⟩ := Option.isSome_iff_exists.1 (List.getLast?_isSome.2 hne)
  rw [blockTail, hlast, Option.any_some, htext d (List.mem_of_getLast? hlast)]
  rfl

/-- A line that goes on starts with spaces. -/
theorem indented_next {n : Nat} (htext : ∀ d ∈ text.head?, isBreak d = false) :
    indented n true text = if text = [] then [] else spaces n ++ indented n false text := by
  split
  · rename_i hnil
    rw [hnil]
    rfl
  · exact indented_fresh ‹_› htext

/-- A text that does not start with a line end starts with a line and the line ends behind it. -/
theorem exists_line (hne : text ≠ []) (hstart : ∀ d ∈ text.head?, isBreak d = false) :
    ∃ line breaks more, text = line ++ (breaks ++ more) ∧ line ≠ [] ∧
      (∀ d ∈ line, isBreak d = false) ∧ (∀ d ∈ breaks, isBreak d = true) ∧
      (∀ d ∈ more.head?, isBreak d = false) ∧ (more ≠ [] → breaks ≠ []) := by
  obtain ⟨line, behind, rfl, hline, hbehind⟩ := Text.exists_span (fun d => !isBreak d) text
  obtain ⟨breaks, more, rfl, hbreaks, hmore⟩ := Text.exists_span isBreak behind
  refine ⟨line, breaks, more, rfl, ?_, fun d hd => by simpa using hline d hd, hbreaks, hmore, ?_⟩
  · rintro rfl
    obtain ⟨d, tail, hcons⟩ := List.exists_cons_of_ne_nil hne
    have hhead : d ∈ (breaks ++ more).head? := by
      rw [← List.nil_append (breaks ++ more), hcons]
      rfl
    have hbreak := hbehind d hhead
    rw [hstart d hhead] at hbreak
    cases hbreak
  · rintro hmoreNe rfl
    obtain ⟨d, tail, rfl⟩ := List.exists_cons_of_ne_nil hmoreNe
    have hbreak := hbehind d rfl
    rw [hmore d rfl] at hbreak
    cases hbreak

/-- The first line is written as it is, and a later one behind spaces. -/
theorem indented_lines {n : Nat} {line breaks : List Char} (hline : ∀ d ∈ line, isBreak d = false)
    (hbreaks : ∀ d ∈ breaks, isBreak d = true) (hmore : ∀ d ∈ more.head?, isBreak d = false)
    (hsome : more ≠ [] → breaks ≠ []) :
    indented n false (line ++ (breaks ++ more)) =
      line ++ (breaks ++ if more = [] then [] else spaces n ++ indented n false more) := by
  cases breaks with
  | nil =>
    have hnil : more = [] := by simpa using hsome
    subst hnil
    rw [indented_line hline]
    simp [indented]
  | cons d breaks =>
    rw [indented_line hline, indented_breaks (List.cons_ne_nil d breaks) hbreaks,
      indented_next hmore]

end Lines

namespace Cursor

variable {c : Cursor} {start : Mark} {limit ind n : Nat} {chomping : Chomping}
  {line leading empty breaks rest : List Char} {blank : Bool}

/-- What may come behind the line ends and `n` spaces inside a block whose lines are indented by
`ind`: the next line, or a line that is not deep enough. -/
inductive AtLine (ind : Nat) : Nat → List Char → Prop
  | line {d : Char} {rest : List Char} (hd : isBreak d = false) : AtLine ind ind (d :: rest)
  | shallow {n : Nat} {rest : List Char} (hn : n < ind) (hstop : StopsGap rest) : AtLine ind n rest

/-- The spaces at the start of a line are read up to the column of the lines. -/
theorem min_spaces (h : AtLine ind n rest) :
    min ((spaces n ++ rest).takeWhile (· = ' ')).length ind = n := by
  have hlength : ((spaces n ++ rest).takeWhile (· = ' ')).length =
      n + (rest.takeWhile (· = ' ')).length := by
    rw [List.takeWhile_append_of_pos, List.length_append, length_spaces]
    intro d hd
    rw [List.eq_of_mem_replicate hd]
    rfl
  cases h with
  | line hd => omega
  | shallow hn hstop =>
    have hnil : rest.takeWhile (· = ' ') = [] := by
      cases rest with
      | nil => rfl
      | cons d rest =>
        have hd := hstop d rfl
        simp only [isGap, isBlank, Bool.or_eq_false_iff, decide_eq_false_iff_not] at hd
        simp [hd.1.1]
    rw [hlength, hnil]
    exact Nat.min_eq_left (Nat.le_of_lt hn)

theorem emptyLines_of_atLine (h : AtLine ind n rest) (hcolumn : c.column = 0)
    (hrest : c.rest = spaces n ++ rest) (hlimit : c.rest.length ≤ limit) :
    emptyLines start (some ind) limit c = .ok ([], n, c.advance n) := by
  have hafter := rest_advance_length hrest
  rw [length_spaces] at hafter
  cases limit with
  | zero =>
    have hlength : c.rest.length = n + rest.length := by simp [hrest]
    obtain rfl : n = 0 := by omega
    rw [emptyLines, hcolumn, advance_zero]
  | succ limit =>
    have hmin := min_spaces h
    simp only [emptyLines, hrest, hcolumn, Nat.sub_zero, hmin]
    rw [hafter]
    cases h with
    | line hd => simp [hd, hcolumn]
    | shallow hn hstop =>
      cases rest with
      | nil => simp [hcolumn]
      | cons d rest =>
        have hd := hstop d rfl
        simp only [isGap, isBlank, Bool.or_eq_false_iff, decide_eq_false_iff_not] at hd
        simp [hd.1.2, hd.2, hcolumn]

/-- **Empty lines.** The line ends up to the next line are read. -/
theorem emptyLines_eq (start : Mark)
    (hbreaks : ∀ d ∈ breaks, isBreak d = true ∧ d ≠ '\r' ∧ breakText d = d)
    (h : AtLine ind n rest) (hcolumn : c.column = 0)
    (hrest : c.rest = breaks ++ (spaces n ++ rest)) (hlimit : c.rest.length ≤ limit) :
    ∃ widest after, emptyLines start (some ind) limit c = .ok (breaks, widest, after) ∧
      after.rest = rest ∧ after.column = n ∧ c.line ≤ after.line := by
  induction breaks generalizing c limit with
  | nil =>
    have hspaces : c.rest = spaces n ++ rest := hrest
    refine ⟨n, c.advance n, emptyLines_of_atLine h hcolumn hspaces hlimit, ?_, ?_, Nat.le_refl _⟩
    · have hafter := rest_advance_length hspaces
      rwa [length_spaces] at hafter
    · rw [column_advance, hcolumn, Nat.zero_add]
  | cons d breaks ih =>
    obtain ⟨hd, hreturn, htext⟩ := hbreaks d List.mem_cons_self
    have hcons : c.rest = d :: (breaks ++ (spaces n ++ rest)) := hrest
    have hnext := next_of_isBreak hcons hd hreturn
    have hlength : c.rest.length = (breaks ++ (spaces n ++ rest)).length + 1 := by rw [hcons]; rfl
    obtain ⟨limit, rfl⟩ : ∃ m, limit = m + 1 := ⟨limit - 1, by omega⟩
    have hnextRest : c.next.rest = breaks ++ (spaces n ++ rest) := by rw [hnext]
    have hnextLine : c.next.line = c.line + 1 := by rw [hnext]
    have hnextColumn : c.next.column = 0 := by rw [hnext]
    have hshort : c.next.rest.length ≤ limit := by
      rw [hnextRest]
      omega
    obtain ⟨widest, after, hread, hafter, hafterColumn, hline⟩ :=
      ih (fun e he => hbreaks e (List.mem_cons_of_mem _ he)) hnextColumn hnextRest hshort
    have hspace : ¬d = ' ' := by
      rintro rfl
      cases hd
    have htab : ¬d = '\t' := by
      rintro rfl
      cases hd
    refine ⟨max c.column widest, after, ?_, hafter, hafterColumn, by omega⟩
    simp [emptyLines, hcons, hspace, htab, hd, hread, htext, bind, Except.bind, pure, Except.pure]

/-- A line of a block is read together with the line ends behind it. -/
theorem blockLines_line (start : Mark) (hline : ∀ d ∈ line, isBreak d = false) (hne : line ≠ [])
    (hend : ∀ d ∈ breaks, isBreak d = true ∧ d ≠ '\r' ∧ breakText d = d) {d : Char}
    (hd : isBreak d = true ∧ d ≠ '\r' ∧ breakText d = d) (h : AtLine ind n rest)
    (hcolumn : c.column = ind) (hrest : c.rest = line ++ d :: (breaks ++ (spaces n ++ rest))) :
    ∃ next, next.rest = rest ∧ next.column = n ∧ c.line < next.line ∧
      blockLines start false chomping ind (limit + 1) leading empty blank c =
        (blockLines start false chomping ind limit [d] breaks c.atBlank next).map
          fun (text, last) => (leading ++ empty ++ line ++ text, last) := by
  obtain ⟨hbreak, hreturn, htext⟩ := hd
  have htake : (c.rest.takeWhile fun d => !isBreak d) = line := by
    rw [hrest, List.takeWhile_append_of_pos fun d hd => by simp [hline d hd]]
    simp [hbreak]
  have hafter : (c.advance line.length).rest = d :: (breaks ++ (spaces n ++ rest)) :=
    rest_advance_length hrest
  have hnext := next_of_isBreak hafter hbreak hreturn
  have hnextRest : (c.advance line.length).next.rest = breaks ++ (spaces n ++ rest) := by rw [hnext]
  have hnextLine : (c.advance line.length).next.line = c.line + 1 := by rw [hnext]; rfl
  have hnextColumn : (c.advance line.length).next.column = 0 := by rw [hnext]
  obtain ⟨widest, next, hread, hlast, hlastColumn, hlastLine⟩ :=
    emptyLines_eq start hend h hnextColumn hnextRest
      (show _ ≤ (d :: (breaks ++ (spaces n ++ rest))).length by rw [hnextRest]; exact Nat.le_succ _)
  have hsome : c.rest.isEmpty = false := by
    obtain ⟨e, line, rfl⟩ := List.exists_cons_of_ne_nil hne
    rw [hrest]
    rfl
  refine ⟨next, hlast, hlastColumn, by omega, ?_⟩
  conv_lhs => unfold blockLines
  simp only [hcolumn, hsome, htake, hafter, hread, List.head?_cons, Option.map_some, htext,
    Option.toList_some, decide_true, Bool.not_false, Bool.and_self, if_true, Bool.false_and, bind,
    Except.bind, pure, Except.pure, Bool.false_eq_true, if_false]
  cases blockLines start false chomping ind limit [d] breaks c.atBlank next <;> rfl

/-- A block ends where a line is not as deep as the others. -/
theorem blockLines_end (hcolumn : c.column ≠ ind) :
    blockLines start false chomping ind (limit + 1) leading empty blank c =
      .ok (match chomping with
        | .strip => []
        | .clip => leading
        | .keep => leading ++ empty, c) := by
  conv_lhs => unfold blockLines
  simp only [hcolumn, decide_false, Bool.false_and, Bool.false_eq_true, if_false]
  cases chomping <;> rfl

/-- The last line of a block is read, and of the line ends behind it what the text has of them. -/
theorem blockLines_last (start : Mark) (hline : ∀ d ∈ line, isBreak d = false) (hne : line ≠ [])
    (hbreaks : ∀ d ∈ breaks, isBreak d = true ∧ d ≠ '\r' ∧ breakText d = d) (hn : n < ind)
    (hstop : StopsGap rest) (hcolumn : c.column = ind)
    (h : c.rest = line ++ (breaks ++ (blockTail (line ++ breaks) ++ (spaces n ++ rest)))) :
    ∃ after, blockLines start false (chompingOf (line ++ breaks)) ind (limit + 2) leading empty
        blank c = .ok (leading ++ empty ++ (line ++ breaks), after) ∧
      after.rest = rest ∧ after.column = n ∧ c.line < after.line := by
  have hother : n ≠ ind := Nat.ne_of_lt hn
  have hshallow : AtLine ind n rest := .shallow hn hstop
  cases breaks with
  | nil =>
    rw [List.append_nil] at h ⊢
    have hrest : c.rest = line ++ '\n' :: ([] ++ (spaces n ++ rest)) := by
      rw [h, blockTail_line hline]
      rfl
    obtain ⟨next, hnextRest, hnextColumn, hnextLine, hread⟩ :=
      blockLines_line start hline hne hbreaks (by decide) hshallow hcolumn hrest
    refine ⟨next, ?_, hnextRest, hnextColumn, hnextLine⟩
    rw [hread, chompingOf_line hline, blockLines_end (hnextColumn ▸ hother)]
    simp [Except.map]
  | cons d breaks =>
    have hd := hbreaks d List.mem_cons_self
    have hall : ∀ e ∈ d :: breaks, isBreak e = true := fun e he => (hbreaks e he).1
    have hrest : c.rest = line ++ d :: (breaks ++ (spaces n ++ rest)) := by
      rw [h, blockTail_append (List.cons_ne_nil d breaks),
        blockTail_breaks hall (List.cons_ne_nil d breaks)]
      rfl
    obtain ⟨next, hnextRest, hnextColumn, hnextLine, hread⟩ :=
      blockLines_line start hline hne (fun e he => hbreaks e (List.mem_cons_of_mem _ he)) hd
        hshallow hcolumn hrest
    refine ⟨next, ?_, hnextRest, hnextColumn, hnextLine⟩
    rw [hread, blockLines_end (hnextColumn ▸ hother)]
    cases breaks with
    | nil =>
      rw [chompingOf_single hline hne hd.1]
      simp [Except.map]
    | cons e breaks =>
      rw [chompingOf_several hall (.inl (by simp)) (List.cons_ne_nil _ _)]
      simp [Except.map]

/-- **Lines of a block.** The lines of a text are read back. -/
theorem blockLines_eq {text : List Char} (hne : text ≠ [])
    (hstart : ∀ d ∈ text.head?, isBreak d = false) (hprintable : ∀ d ∈ text, isPrintable d = true)
    (hn : n < ind) (hstop : StopsGap rest) (hcolumn : c.column = ind)
    (h : c.rest = indented ind false text ++ (blockTail text ++ (spaces n ++ rest)))
    (hlimit : c.rest.length < limit) :
    ∃ after, blockLines start false (chompingOf text) ind limit leading empty blank c =
        .ok (leading ++ empty ++ text, after) ∧
      after.rest = rest ∧ after.column = n ∧ c.line < after.line := by
  induction hlength : text.length using Nat.strongRecOn
    generalizing text c limit leading empty blank with
  | ind length ih =>
    obtain ⟨line, breaks, more, rfl, hlineNe, hline, hbreaks, hmore, hsome⟩ :=
      exists_line hne hstart
    have hends : ∀ d ∈ breaks, isBreak d = true ∧ d ≠ '\r' ∧ breakText d = d := fun d hd =>
      ⟨hbreaks d hd, breakText_of_isPrintable (hbreaks d hd) (hprintable d (by simp [hd]))⟩
    rw [indented_lines hline hbreaks hmore hsome] at h
    have hpos := List.length_pos_iff.2 hlineNe
    have hlong : line.length ≤ c.rest.length := by
      rw [h]
      simp
    obtain ⟨limit, rfl⟩ : ∃ m, limit = m + 2 := ⟨limit - 2, by omega⟩
    cases more with
    | nil =>
      rw [List.append_nil] at h ⊢
      exact blockLines_last start hline hlineNe hends hn hstop hcolumn (by simpa using h)
    | cons e more =>
      obtain ⟨d, breaks, rfl⟩ := List.exists_cons_of_ne_nil (hsome (List.cons_ne_nil e more))
      have hmoreNe := List.cons_ne_nil e more
      have hsplit : line ++ (d :: breaks ++ e :: more) = (line ++ d :: breaks) ++ e :: more := by
        simp
      rw [hsplit] at h hlength hprintable ⊢
      rw [blockTail_append hmoreNe, if_neg hmoreNe] at h
      have hrest : c.rest = line ++ d :: (breaks ++ (spaces ind ++
          (indented ind false (e :: more) ++
            (blockTail (e :: more) ++ (spaces n ++ rest))))) := by
        simp [h]
      have hatLine : AtLine ind ind
          (indented ind false (e :: more) ++ (blockTail (e :: more) ++ (spaces n ++ rest))) := by
        rw [indented, if_neg (by simp [hmore e rfl])]
        exact .line (hmore e rfl)
      obtain ⟨next, hnextRest, hnextColumn, hnextLine, hread⟩ :=
        blockLines_line start hline hlineNe (fun e he => hends e (List.mem_cons_of_mem _ he))
          (hends d List.mem_cons_self) hatLine hcolumn hrest
      have hshort : next.rest.length < limit + 1 := by
        have hsum : c.rest.length =
            line.length + (breaks.length + (ind + next.rest.length) + 1) := by
          rw [hrest, hnextRest]
          simp
        omega
      have hless : (e :: more).length < length := by
        rw [← hlength, List.length_append, List.length_append]
        omega
      obtain ⟨after, hmoreRead, hafter, hafterColumn, hafterLine⟩ :=
        ih _ hless hmoreNe hmore (fun f hf => hprintable f (List.mem_append_right _ hf))
          hnextColumn hnextRest hshort rfl
      refine ⟨after, ?_, hafter, hafterColumn, by omega⟩
      rw [hread, chompingOf_append hmoreNe hmore, hmoreRead]
      simp [Except.map]

/-- The signs in front of a block are read. -/
theorem header_eq (start : Mark) (chomping : Chomping) (deep : Bool)
    (h : c.rest = (if deep then ['2'] else []) ++ (chompingSigns chomping ++ '\n' :: rest)) :
    ∃ after, header start c = .ok ({ chomping, depth := if deep then some 2 else none }, after) ∧
      after.rest = '\n' :: rest ∧ after.line = c.line := by
  obtain ⟨chars, index, line, column⟩ := c
  cases h
  have hminus : isBreak '-' = false := by decide
  have hplus : isBreak '+' = false := by decide
  have htwo : isBreak '2' = false := by decide
  cases deep <;> cases chomping <;>
    simp [header, withChomping, withDepth, chomping?, chompingSigns, next, hminus, hplus, htwo,
      Text.isDigit, bind, Except.bind, pure, Except.pure]

/-- Whether the first line of a block would not show how deep its lines are. -/
def hidesDepth (text : List Char) : Bool := text.head?.any fun c => c = ' ' || isBreak c

/-- The first line of a block tells how deep its lines are, if that is not given. -/
theorem emptyLines_none {d : Char} (start : Mark) (hd : isGap d = false) (hcolumn : c.column = 0)
    (hrest : c.rest = spaces n ++ d :: rest) :
    emptyLines start none c.rest.length c = .ok ([], n, c.advance n) := by
  obtain ⟨limit, hlimit⟩ : ∃ m, c.rest.length = m + 1 := ⟨n + rest.length, by simp [hrest]; omega⟩
  simp only [isGap, isBlank, Bool.or_eq_false_iff, decide_eq_false_iff_not] at hd
  have hspaces : (c.rest.takeWhile (· = ' ')).length = n := by
    rw [hrest, List.takeWhile_append_of_pos, List.length_append, length_spaces]
    · simp [hd.1.1]
    · intro e he
      rw [List.eq_of_mem_replicate he]
      rfl
  have hafter : c.rest.drop n = d :: rest := by
    have hafter := rest_advance_length hrest
    rwa [length_spaces] at hafter
  rw [hlimit, emptyLines]
  simp [hspaces, hafter, hd.1.2, hd.2, hcolumn]

/-- The start of a block is read up to its first line that is not empty. -/
theorem emptyLines_start {text : List Char} (start : Mark)
    (hprintable : ∀ d ∈ breaks ++ text, isPrintable d = true)
    (hbreaks : ∀ d ∈ breaks, isBreak d = true) (hne : breaks ++ text ≠ [])
    (h : AtLine ind n rest) (hmatch : text ≠ [] → n = ind ∧ rest.head? = text.head?)
    (hcolumn : c.column = 0) (hrest : c.rest = breaks ++ (spaces n ++ rest)) :
    ∃ widest next, emptyLines start (if hidesDepth (breaks ++ text) then some ind else none)
        c.rest.length c = .ok (breaks, widest, next) ∧
      (hidesDepth (breaks ++ text) = false → widest = ind) ∧ next.rest = rest ∧
      next.column = n ∧ c.line ≤ next.line := by
  cases hdepth : hidesDepth (breaks ++ text) with
  | true =>
    have hends : ∀ d ∈ breaks, isBreak d = true ∧ d ≠ '\r' ∧ breakText d = d := fun d hd =>
      ⟨hbreaks d hd, breakText_of_isPrintable (hbreaks d hd) (hprintable d (by simp [hd]))⟩
    obtain ⟨widest, next, hread, hnext⟩ := emptyLines_eq start hends h hcolumn hrest (Nat.le_refl _)
    exact ⟨widest, next, hread, nofun, hnext⟩
  | false =>
    -- The first line starts with a sign, so that the spaces in front of it tell the depth.
    cases breaks with
    | cons d breaks =>
      rw [hidesDepth] at hdepth
      simp [hbreaks d List.mem_cons_self] at hdepth
    | nil =>
      obtain ⟨d, more, rfl⟩ := List.exists_cons_of_ne_nil hne
      obtain ⟨rfl, hhead⟩ := hmatch (List.cons_ne_nil d more)
      obtain ⟨hspace, hbreak⟩ : d ≠ ' ' ∧ isBreak d = false := by simpa [hidesDepth] using hdepth
      obtain ⟨tail, rfl⟩ : ∃ tail, rest = d :: tail := by
        cases rest with
        | nil => cases hhead
        | cons e tail =>
          cases hhead
          exact ⟨tail, rfl⟩
      have hd := isGap_of_isPrintable (hprintable d (by simp)) hspace hbreak
      rw [List.nil_append] at hrest
      refine ⟨n, c.advance n, emptyLines_none start hd hcolumn hrest, fun _ => rfl, ?_, ?_,
        Nat.le_refl _⟩
      · have hafter := rest_advance_length hrest
        rwa [length_spaces] at hafter
      · rw [column_advance, hcolumn, Nat.zero_add]

/-- Behind the signs in front of a block its lines start; they are two columns deeper than the
collection around them. -/
theorem exists_first {text written : List Char} (parent : Nat)
    (h : c.rest = '|' :: (blockSigns text ++ '\n' :: written)) :
    ∃ first : Cursor, first.rest = written ∧ first.column = 0 ∧ first.line = c.line + 1 ∧
      ∀ {breaks : List Char} {widest : Nat} {next : Cursor},
        emptyLines c.mark (if hidesDepth text then some (parent + 2) else none) first.rest.length
          first = .ok (breaks, widest, next) →
        (hidesDepth text = false → widest = parent + 2) →
          c.block false parent = blockLines c.mark false (chompingOf text) (parent + 2)
            (next.rest.length + 1) [] breaks false next := by
  obtain ⟨behind, hheader, hbehind, hbehindLine⟩ : ∃ behind, header c.mark c.next =
      .ok ({ chomping := chompingOf text
             depth := if hidesDepth text then some 2 else none }, behind) ∧
        behind.rest = '\n' :: written ∧ behind.line = c.next.line := by
    refine header_eq c.mark _ _ ?_
    rw [next_eq_advance h (by decide), rest_advance, h, blockSigns_eq, List.append_assoc]
    rfl
  have hline : c.next.line = c.line := by rw [next_eq_advance h (by decide), line_advance]
  have hnext := next_of_isBreak hbehind (by decide) (by decide)
  have hlineEnd : behind.lineEnd .block c.mark = .ok behind.next := by
    simp [lineEnd, skipWhile, hbehind, isBlank, startsBreak, isBreak]
  have hgiven : (if hidesDepth text then some 2 else none).map
      (fun depth => (max (parent : Int) 0).toNat + depth) =
        if hidesDepth text then some (parent + 2) else none := by
    split
    · simp
    · rfl
  refine ⟨behind.next, by rw [hnext], by rw [hnext], by rw [hnext, hbehindLine, hline], ?_⟩
  intro breaks widest next hread hwidest
  have hdepth : (if hidesDepth text then some (parent + 2) else none).getD
      (max (max widest 1) ((parent : Int) + 1).toNat) = parent + 2 := by
    split
    · rfl
    · rename_i hshown
      have hwidest := hwidest (by simpa using hshown)
      simp only [Option.getD_none]
      omega
  simp only [block, hheader, hlineEnd, hgiven, hread, hdepth, bind, Except.bind]

/-- **Blocks.** A text of several lines is read back from the block that it is written as. -/
theorem block_eq {parent : Nat} {text : List Char} (hne : text ≠ [])
    (hprintable : ∀ d ∈ text, isPrintable d = true) (hn : n < parent + 2) (hstop : StopsGap rest)
    (h : c.rest = '|' :: (blockSigns text ++ '\n' :: (indented (parent + 2) true text ++
      (blockTail text ++ (spaces n ++ rest))))) :
    ∃ after, c.block false parent = .ok (text, after) ∧ after.rest = rest ∧ after.column = n ∧
      c.line < after.line := by
  obtain ⟨first, hfirst, hfirstColumn, hfirstLine, hblock⟩ := exists_first parent h
  obtain ⟨breaks, more, rfl, hbreaks, hmore⟩ := Text.exists_span isBreak text
  have hwritten : indented (parent + 2) true (breaks ++ more) =
      breaks ++ if more = [] then []
        else spaces (parent + 2) ++ indented (parent + 2) false more := by
    cases breaks with
    | nil => exact indented_next hmore
    | cons d breaks => rw [indented_breaks (List.cons_ne_nil d breaks) hbreaks, indented_next hmore]
  rw [hwritten] at hfirst
  cases more with
  | nil =>
    rw [List.append_nil] at hne hprintable hfirst hblock ⊢
    rw [blockTail_breaks hbreaks hne] at hfirst
    have hstart : breaks ++ [] ≠ [] := by simpa using hne
    obtain ⟨widest, next, hread, hwidest, hafter, hafterColumn, hafterLine⟩ :=
      emptyLines_start c.mark (by simpa using hprintable) hbreaks hstart (.shallow hn hstop)
        (fun hmore => absurd rfl hmore) hfirstColumn (by simpa using hfirst)
    rw [List.append_nil] at hread hwidest
    have hend : next.column ≠ parent + 2 := by omega
    refine ⟨next, ?_, hafter, hafterColumn, by omega⟩
    rw [hblock hread hwidest, blockLines_end hend, ← List.nil_append breaks,
      chompingOf_several hbreaks (.inr rfl) hne]
    simp
  | cons d more =>
    have hd := hmore d rfl
    have hindented : indented (parent + 2) false (d :: more) =
        d :: indented (parent + 2) false more := by
      rw [indented, if_neg (by simp [hd])]
      rfl
    rw [if_neg (List.cons_ne_nil d more), blockTail_append (List.cons_ne_nil d more)] at hfirst
    have hline : AtLine (parent + 2) (parent + 2) (indented (parent + 2) false (d :: more) ++
        (blockTail (d :: more) ++ (spaces n ++ rest))) := by
      rw [hindented]
      exact .line hd
    obtain ⟨widest, next, hread, hwidest, hafter, hafterColumn, hafterLine⟩ :=
      emptyLines_start c.mark hprintable hbreaks hne hline
        (fun _ => ⟨rfl, by rw [hindented]; rfl⟩) hfirstColumn (by simpa using hfirst)
    obtain ⟨after, hlines, hrest, hcolumn, hlast⟩ :=
      blockLines_eq (List.cons_ne_nil d more) hmore
        (fun e he => hprintable e (List.mem_append_right _ he)) hn hstop hafterColumn hafter
        (Nat.lt_succ_self _)
    refine ⟨after, ?_, hrest, hcolumn, by omega⟩
    rw [hblock hread hwidest, chompingOf_append (List.cons_ne_nil d more) hmore, hlines]
    rfl

end Cursor

end FieldAccess.Yaml
