import FieldAccess.Proofs.TokenSteps

/-!
# Tokens of written values

The text that describes a table of texts, natural numbers and tables has the tokens of the table,
whatever is written of its texts: each scalar gives one token, and the columns of the lines tell
where the tables inside it end.

## Main definitions

* `IsWritten` – texts, natural numbers and tables of them.
* `valueTokens`, `entryTokens` – the tokens of a value and of entries.

## Main statements

* `Scan.startsAt_entries` – entries in lines are read.
* `Token.ofText_encode` – the tokens of the text that describes a table.
-/

namespace FieldAccess.Yaml

/-- Texts, natural numbers and tables of them. -/
inductive IsWritten : Json → Prop
  | text (s : String) : IsWritten (.text s)
  | natural (n : Nat) : IsWritten (.integer n)
  | table {entries : List (String × Json)} (h : ∀ entry ∈ entries, IsWritten entry.2) :
      IsWritten (.table entries)

mutual

/-- The tokens of a value. -/
def valueTokens : Json → List Token
  | .text s => [.scalar (styleOf s) s]
  | .integer n => [.scalar .plain (toString n)]
  | .table [] => [.flowMappingStart, .flowMappingEnd]
  | .table entries => .blockMappingStart :: (entryTokens entries ++ [.blockEnd])
  | _ => []

/-- The tokens of entries. -/
def entryTokens : List (String × Json) → List Token
  | [] => []
  | (key, value) :: rest =>
    .key :: .scalar (styleOf key) key :: .value :: (valueTokens value ++ entryTokens rest)

end

/-! ### Lines -/

/-- A key up to the colon behind it, without the spaces at the start of its line. -/
def keyLine (column : Nat) (key : String) : List Char :=
  if isSimpleKey key then scalarText (styleOf key) key.toList
  else '?' :: ' ' :: (scalarLines (column + 2) (styleOf key) key.toList ++ spaces column)

theorem keyText_eq (column : Nat) (key : String) :
    keyText column (.scalar none (styleOf key) key) = spaces column ++ keyLine column key := by
  rw [keyText, keyLine]
  split
  · rfl
  · simp

/-- The first entry in lines, without the spaces at the start of its line. -/
theorem entryLines_cons (column : Nat) (key : String) (value : Json)
    (entries : List (String × Json)) (rest : List Char) :
    entryLines column (Node.ofEntries ((key, value) :: entries)) ++ rest =
      spaces column ++ (keyLine column key ++ ':' :: (afterSign column (Node.ofValue value) ++
        (entryLines column (Node.ofEntries entries) ++ rest))) := by
  simp [Node.ofEntries, entryLines, keyText_eq]

theorem startsToken_keyLine (column : Nat) (key : String) (rest : List Char) :
    StartsToken (keyLine column key ++ rest) := by
  rw [keyLine]
  split
  · exact (Scan.startsToken_scalar (fits_styleOf key) column rest).2
  · intro d hd
    cases hd
    decide

theorem length_entryLines_cons (column : Nat) (key : String) (value : Json)
    (entries : List (String × Json)) :
    (entryLines column (Node.ofEntries ((key, value) :: entries))).length =
      column + (keyLine column key).length + 1 + (afterSign column (Node.ofValue value)).length +
        (entryLines column (Node.ofEntries entries)).length := by
  have hlines := congrArg List.length (entryLines_cons column key value entries [])
  simp only [List.append_nil, List.length_append, length_spaces, List.length_cons] at hlines
  omega

theorem startsBlank_afterSign (column : Nat) (node : Node) (rest : List Char) :
    startsBlank (afterSign column node ++ rest) = true := by
  unfold afterSign
  split <;> rfl

/-! ### Characters -/

theorem isPrintable_spaces (n : Nat) : ∀ e ∈ spaces n, isPrintable e = true := fun e he => by
  rw [List.eq_of_mem_replicate he]
  decide

theorem isPrintable_keyLine (column : Nat) (key : String) :
    ∀ e ∈ keyLine column key, isPrintable e = true := by
  have hfits := fits_styleOf key
  intro e he
  rw [keyLine] at he
  split at he
  · rename_i hsimple
    exact isPrintable_of_isInline
      ((scalarText_inline hfits (isBreak_of_isSimpleKey hsimple)).1 e he)
  · simp only [List.mem_cons, List.mem_append] at he
    rcases he with rfl | rfl | he | he
    · decide
    · decide
    · exact isPrintable_scalarLines hfits _ e he
    · exact isPrintable_spaces _ e he

theorem isPrintable_entryLines {column : Nat} {entries : List (String × Json)}
    (h : ∀ entry ∈ entries, ∀ column,
      ∀ e ∈ afterSign column (Node.ofValue entry.2), isPrintable e = true) :
    ∀ e ∈ entryLines column (Node.ofEntries entries), isPrintable e = true := by
  induction entries with
  | nil => simp [Node.ofEntries, entryLines]
  | cons entry entries ih =>
    obtain ⟨key, value⟩ := entry
    have hlines := entryLines_cons column key value entries []
    rw [List.append_nil, List.append_nil] at hlines
    intro e he
    rw [hlines] at he
    simp only [List.mem_append, List.mem_cons] at he
    rcases he with he | he | rfl | he | he
    · exact isPrintable_spaces _ e he
    · exact isPrintable_keyLine _ _ e he
    · decide
    · exact h _ List.mem_cons_self _ e he
    · exact ih (fun entry hentry => h entry (List.mem_cons_of_mem _ hentry)) e he

/-- Only characters that may stand in a text are written of a value. -/
theorem isPrintable_afterSign {value : Json} (h : IsWritten value) (column : Nat) :
    ∀ e ∈ afterSign column (Node.ofValue value), isPrintable e = true := by
  have hspace : isPrintable ' ' = true := by decide
  induction h generalizing column with
  | text text =>
    intro e he
    rw [Node.ofValue, afterSign, List.mem_cons] at he
    exact he.elim (fun he => he ▸ hspace) (isPrintable_scalarLines (fits_styleOf text) _ e)
  | natural n =>
    intro e he
    have hfits : Fits .plain (toString (n : Int)).toList := by
      rw [toList_toString]
      exact fits_toDigits n
    rw [Node.ofValue, afterSign, List.mem_cons] at he
    exact he.elim (fun he => he ▸ hspace) (isPrintable_scalarLines hfits _ e)
  | @table entries h ih =>
    cases entries with
    | nil =>
      simp only [Node.ofValue, Node.ofEntries, afterSign]
      exact List.all_eq_true.1 (by decide)
    | cons entry entries =>
      have hfeed : isPrintable '\n' = true := by decide
      intro e he
      have hwritten : afterSign column (Node.ofValue (.table (entry :: entries))) =
          '\n' :: entryLines (column + 2) (Node.ofEntries (entry :: entries)) := by
        simp [Node.ofValue, Node.ofEntries, afterSign]
      rw [hwritten, List.mem_cons] at he
      exact he.elim (fun he => he ▸ hfeed) (isPrintable_entryLines ih e)

namespace Scan

variable {s : Scan} {column m n : Nat} {outer columns : List Nat} {expected : List Token}
  {rest : List Char}

/-! ### Empty tables -/

/-- A scan right behind an opening brace, in front of which a key may have been expected. -/
def inBraces (c : Cursor) (pending : Option PendingKey) (columns : List Nat)
    (queue : List (Token × Mark)) (delivered : Nat) : Scan :=
  { cursor := c, outer := [pending], columns, queue, delivered }

section Braces

variable {c : Cursor} {pending : Option PendingKey} {queue : List (Token × Mark)} {delivered : Nat}

theorem dropStale_inBraces (hfresh : ∀ key ∈ pending, isStale c key = false) :
    (inBraces c pending columns queue delivered).dropStale =
      .ok (inBraces c pending columns queue delivered) := by
  cases pending with
  | none => rfl
  | some key =>
    have hkey := hfresh key rfl
    simp [inBraces, dropStale, freshen, hkey, bind, Except.bind, pure, Except.pure]

/-- A closing brace right behind an opening one. -/
theorem advance_inBraces (hfresh : ∀ key ∈ pending, isStale c key = false)
    (h : c.rest = '\x7d' :: rest) :
    (inBraces c pending columns queue delivered).advance =
      .ok (push { cursor := c.advance 1, pending, columns, keyAllowed := false, queue, delivered }
        .flowMappingEnd c.mark) := by
  have hstarts : StartsToken c.rest := fun d hd => by
    rw [h] at hd
    cases hd
    decide
  have hskip : skipToToken c.rest.length (inBraces c pending columns queue delivered) =
      inBraces c pending columns queue delivered :=
    skipToToken_spaces (m := 0) hstarts rfl (Nat.le_refl _)
  have htoken := token_closeBrace (s := inBraces c pending columns queue delivered) h
  change (dropStale (skipToToken c.rest.length _) >>= fun _ => _) = _
  rw [hskip, dropStale_inBraces hfresh, ← Cursor.next_eq_advance h (by decide)]
  exact htoken

/-- Behind a closing brace, what waits is given, and then what follows the line. -/
theorem gives_closed {place : Mark} (hafter : c.rest = '\n' :: (spaces m ++ rest))
    (hpending : ∀ key ∈ pending, key.required = false ∧ key.line ≤ c.line)
    (hsolid : ∀ first ∈ queue, first.1 ≠ .streamEnd) (hrest : StartsToken rest)
    (hstart : StartsAt (around columns m) m rest expected n) :
    Gives (push { cursor := c, pending, columns, keyAllowed := false, queue, delivered }
        .flowMappingEnd place)
      (queue.map Prod.fst ++ .flowMappingEnd :: (closings columns m ++ expected))
      (n + (closings columns m).length + queue.length + 2) := by
  have hpauses : Pauses
      (push { cursor := c, pending, columns, keyAllowed := false, queue, delivered }
        .flowMappingEnd place) m rest := by
    refine ⟨rfl, fun first hfirst => ?_, _, .nextLine hafter, fun key hkey => ?_⟩
    · rcases List.mem_append.1 hfirst with hfirst | hfirst
      · exact hsolid first hfirst
      · rw [List.mem_singleton.1 hfirst]
        exact Token.noConfusion
    · exact ⟨(hpending key hkey).1, Nat.lt_succ_of_le (hpending key hkey).2⟩
  have hgives := hpauses.gives hrest hstart
  simp only [push, List.map_append, List.map_cons, List.map_nil, List.append_assoc,
    List.cons_append, List.nil_append, List.length_append, List.length_cons,
    List.length_nil] at hgives
  exact hgives.mono (by omega)

end Braces

/-- Empty brackets behind a sign, and what follows them. -/
theorem BehindSign.gives_braces
    (h : s.BehindSign column outer (' ' :: '\x7b' :: '\x7d' :: '\n' :: (spaces m ++ rest)))
    (hrest : StartsToken rest) (hstart : StartsAt (around (column :: outer) m) m rest expected n) :
    s.Gives (.flowMappingStart :: .flowMappingEnd :: (closings (column :: outer) m ++ expected))
      (n + (closings (column :: outer) m).length + 5) := by
  have hopenStarts : StartsToken ('\x7b' :: '\x7d' :: '\n' :: (spaces m ++ rest)) := fun d hd => by
    cases hd
    decide
  obtain ⟨next, hnext, hadvance⟩ := h.advance_eq hopenStarts
  obtain ⟨pending, hsave, hpending⟩ := hnext.savePending_eq
  have hcloseRest : (next.cursor.advance 1).rest = '\x7d' :: '\n' :: (spaces m ++ rest) := by
    rw [Cursor.rest_advance, hnext.rest]
    rfl
  have hopen : next.token = .ok (inBraces (next.cursor.advance 1) pending (column :: outer)
      [(.flowMappingStart, next.cursor.mark)] next.delivered) := by
    rw [token_openBrace hnext.rest, openFlow, hsave]
    simp [inBraces, push, hnext.columns, hnext.brackets, hnext.queue,
      Cursor.next_eq_advance hnext.rest (by decide), bind, Except.bind, pure, Except.pure]
  have hfresh : ∀ key ∈ pending, isStale (next.cursor.advance 1) key = false := by
    intro key hkey
    simp [(hpending key hkey).1, isStale, keyHere]
  have hafter : ((next.cursor.advance 1).advance 1).rest = '\n' :: (spaces m ++ rest) := by
    rw [Cursor.rest_advance, hcloseRest]
    rfl
  have hline : ∀ key ∈ pending,
      key.required = false ∧ key.line ≤ ((next.cursor.advance 1).advance 1).line := fun key hkey =>
    ⟨(hpending key hkey).2, (hpending key hkey).1 ▸ Nat.le_refl next.cursor.line⟩
  refine gives_of_advance h.queue (hadvance.trans hopen) ?_
  cases pending with
  | none =>
    -- Without a key before it the opening brace is given at once.
    have hlast : Gives (inBraces (next.cursor.advance 1) none (column :: outer) []
        (next.delivered + 1)) _ _ :=
      gives_of_advance rfl (advance_inBraces hfresh hcloseRest)
        (gives_closed hafter hline (by simp) hrest hstart)
    have hqueue : (inBraces (next.cursor.advance 1) none (column :: outer)
        [(.flowMappingStart, next.cursor.mark)] next.delivered).queue =
          (.flowMappingStart, next.cursor.mark) :: [] := rfl
    exact gives_of_first hqueue (by simp) (dropStale_inBraces hfresh) rfl hlast
  | some key =>
    have hheld : (inBraces (next.cursor.advance 1) (some key) (column :: outer)
        [(.flowMappingStart, next.cursor.mark)] next.delivered).isHeld = true := by
      simp [inBraces, isHeld, (hpending key rfl).1, keyHere, hnext.queue]
    have hsolid : ∀ first ∈ [(Token.flowMappingStart, next.cursor.mark)],
        first.1 ≠ .streamEnd := by simp
    exact gives_of_held (List.cons_ne_nil _ _) (dropStale_inBraces hfresh) hheld
      (advance_inBraces hfresh hcloseRest) (gives_closed hafter hline hsolid hrest hstart)

/-! ### Entries -/

theorem startsAt_key {key : String} {after : List Char}
    (hcolumns : ∀ top ∈ columns.head?, top ≤ column)
    (hafter : startsBlank after = true)
    (hnext : ∀ next : Scan, next.BehindSign column (outside columns column) after →
      next.Gives expected n) :
    StartsAt columns column (keyLine column key ++ ':' :: after)
      (opening columns column ++ .key :: .scalar (styleOf key) key :: .value :: expected)
      (n + 6) := by
  have hfits := fits_styleOf key
  rw [keyLine]
  split
  · rename_i hsimple
    exact (startsAt_simpleKey hcolumns hfits hsimple hafter hnext).mono (by omega)
  · have hmarked := startsAt_markedKey hcolumns hfits hafter hnext
    simpa using hmarked

/-- A value behind a sign gives its tokens and the ends of the collections that end behind it. -/
def GivesValue (value : Json) : Prop :=
  ∀ ⦃s : Scan⦄ ⦃column m n : Nat⦄ ⦃outer : List Nat⦄ ⦃expected : List Token⦄ ⦃rest : List Char⦄,
    s.BehindSign column outer (afterSign column (Node.ofValue value) ++ (spaces m ++ rest)) →
      m ≤ column → StartsToken rest →
        StartsAt (around (column :: outer) m) m rest expected n →
          s.Gives (valueTokens value ++ (closings (column :: outer) m ++ expected))
            (n + (closings (column :: outer) m).length +
              8 * (afterSign column (Node.ofValue value)).length)

/-- An entry, and what follows it. -/
theorem startsAt_entry (key : String) {value : Json} (hvalue : GivesValue value)
    (hcolumns : ∀ top ∈ columns.head?, top ≤ column) (hm : m ≤ column) (hrest : StartsToken rest)
    (hstart : StartsAt (around (column :: outside columns column) m) m rest expected n) :
    StartsAt columns column
      (keyLine column key ++ ':' :: (afterSign column (Node.ofValue value) ++ (spaces m ++ rest)))
      (opening columns column ++ .key :: .scalar (styleOf key) key :: .value ::
        (valueTokens value ++ (closings (column :: outside columns column) m ++ expected)))
      (n + (closings (column :: outside columns column) m).length +
        8 * (afterSign column (Node.ofValue value)).length + 6) :=
  startsAt_key hcolumns (startsBlank_afterSign _ _ _) fun _ hnext => hvalue hnext hm hrest hstart

/-- **Entries.** Entries in lines give their tokens and the ends of the collections that end behind
them. -/
theorem startsAt_entries {entries : List (String × Json)} {key : String} {value : Json}
    (h : ∀ entry ∈ (key, value) :: entries, GivesValue entry.2)
    (hcolumns : ∀ top ∈ columns.head?, top ≤ column) (hm : m ≤ column) (hrest : StartsToken rest)
    (hstart : StartsAt (around (column :: outside columns column) m) m rest expected n) :
    StartsAt columns column
      (keyLine column key ++ ':' :: (afterSign column (Node.ofValue value) ++
        (entryLines column (Node.ofEntries entries) ++ (spaces m ++ rest))))
      (opening columns column ++ (entryTokens ((key, value) :: entries) ++
        (closings (column :: outside columns column) m ++ expected)))
      (n + (closings (column :: outside columns column) m).length +
        8 * (entryLines column (Node.ofEntries ((key, value) :: entries))).length) := by
  have hvalue : GivesValue value := h _ List.mem_cons_self
  induction entries generalizing key value columns with
  | nil =>
    have hlines : entryLines column (Node.ofEntries []) = [] := by
      simp [Node.ofEntries, entryLines]
    have htokens : entryTokens [(key, value)] =
        .key :: .scalar (styleOf key) key :: .value :: valueTokens value := by simp [entryTokens]
    rw [htokens, length_entryLines_cons, hlines]
    exact (startsAt_entry key hvalue hcolumns hm hrest hstart).mono (by omega)
  | cons entry entries ih =>
    obtain ⟨nextKey, nextValue⟩ := entry
    have hlater : ∀ entry ∈ (nextKey, nextValue) :: entries, GivesValue entry.2 :=
      fun entry hentry => h entry (List.mem_cons_of_mem _ hentry)
    -- The collection is open when the next entry starts, at the same column.
    have hopen : ∀ top ∈ (column :: outside columns column).head?, top ≤ column := by simp
    have houtside : outside (column :: outside columns column) column = outside columns column := by
      simp [outside]
    have hopening : opening (column :: outside columns column) column = [] := by simp [opening]
    have hnext := ih hlater hopen (houtside.symm ▸ hstart) (hlater _ List.mem_cons_self)
    rw [houtside, hopening, List.nil_append] at hnext
    have haround : around (column :: outside columns column) column =
        column :: outside columns column := around_of_le (Nat.le_refl column)
    have hentry := startsAt_entry key hvalue hcolumns (Nat.le_refl column)
      (startsToken_keyLine column nextKey _) (by rw [haround]; exact hnext)
    rw [closings_of_le (Nat.le_refl column), List.nil_append, List.length_nil] at hentry
    have htokens : ∀ more, entryTokens ((key, value) :: (nextKey, nextValue) :: entries) ++ more =
        .key :: .scalar (styleOf key) key :: .value ::
          (valueTokens value ++ (entryTokens ((nextKey, nextValue) :: entries) ++ more)) := by
      simp [entryTokens]
    rw [htokens, length_entryLines_cons, entryLines_cons]
    exact hentry.mono (by omega)

/-- A table behind a sign starts on the next line, deeper than the collection around it. -/
theorem givesValue_table {entries : List (String × Json)} {key : String} {value : Json}
    (h : ∀ entry ∈ (key, value) :: entries, GivesValue entry.2) :
    GivesValue (.table ((key, value) :: entries)) := by
  intro s column m n outer expected rest hbehind hm hrest hstart
  have hwritten : afterSign column (Node.ofValue (.table ((key, value) :: entries))) =
      '\n' :: entryLines (column + 2) (Node.ofEntries ((key, value) :: entries)) := by
    simp [Node.ofValue, Node.ofEntries, afterSign]
  have htokens : valueTokens (.table ((key, value) :: entries)) =
      .blockMappingStart :: (entryTokens ((key, value) :: entries) ++ [.blockEnd]) := rfl
  have hdeeper : m < column + 2 := by omega
  have hother : column ≠ column + 2 := by omega
  have houtside : outside (column :: outer) (column + 2) = column :: outer := by simp [outside]
  have hopening : opening (column :: outer) (column + 2) = [.blockMappingStart] := by simp [opening]
  have hopen : ∀ top ∈ (column :: outer).head?, top ≤ column + 2 := by simp
  have hentries := startsAt_entries h hopen (Nat.le_of_lt hdeeper) hrest
    (by rw [houtside, around_of_lt hdeeper]; exact hstart)
  rw [houtside, hopening, closings_of_lt hdeeper] at hentries
  have hcursor := hbehind.rest
  rw [hwritten, List.cons_append, entryLines_cons] at hcursor
  have hpauses : s.Pauses (column + 2) _ :=
    ⟨hbehind.brackets, by simp [hbehind.queue], _, .nextLine hcursor, by simp [hbehind.pending]⟩
  have hle : column ≤ column + 2 := by omega
  have hgives := hpauses.gives (startsToken_keyLine _ _ _)
    (by rw [hbehind.columns, around_of_le hle]; exact hentries)
  rw [hbehind.queue, hbehind.columns, closings_of_le hle] at hgives
  rw [htokens, hwritten]
  simp only [List.map_nil, List.nil_append, List.cons_append, List.append_assoc, List.length_nil,
    List.length_cons] at hgives ⊢
  exact hgives.mono (by omega)

/-- **Values.** Texts, natural numbers and tables give their tokens. -/
theorem givesValue_of_isWritten {value : Json} (h : IsWritten value) : GivesValue value := by
  induction h with
  | text text =>
    intro s column m n outer expected rest hbehind hm hrest hstart
    have hwritten : afterSign column (Node.ofValue (.text text)) =
        ' ' :: scalarLines (column + 2) (styleOf text) text.toList := by
      simp [Node.ofValue, afterSign]
    rw [hwritten] at hbehind ⊢
    refine (hbehind.gives_scalar (fits_styleOf text) hm hrest hstart).mono ?_
    rw [List.length_cons]
    omega
  | natural value =>
    intro s column m n outer expected rest hbehind hm hrest hstart
    have hwritten : afterSign column (Node.ofValue (.integer value)) =
        ' ' :: scalarLines (column + 2) .plain (toString (value : Int)).toList := by
      simp [Node.ofValue, afterSign]
    have hfits : Fits .plain (toString (value : Int)).toList := by
      rw [toList_toString]
      exact fits_toDigits value
    rw [hwritten] at hbehind ⊢
    refine (hbehind.gives_scalar hfits hm hrest hstart).mono ?_
    rw [List.length_cons]
    omega
  | @table entries h ih =>
    cases entries with
    | nil =>
      intro s column m n outer expected rest hbehind hm hrest hstart
      have hwritten : afterSign column (Node.ofValue (.table [])) =
          [' ', '\x7b', '\x7d', '\n'] := by
        simp [Node.ofValue, Node.ofEntries, afterSign]
      rw [hwritten] at hbehind ⊢
      refine (hbehind.gives_braces hrest hstart).mono ?_
      simp only [List.length_cons, List.length_nil]
      omega
    | cons entry entries => exact givesValue_table ih

/-- At the end of the text the last collection is closed. -/
theorem startsAt_end : StartsAt [0] 0 [] [.blockEnd, .streamEnd] 2 := by
  intro c queue delivered hrest hcolumn hsolid
  refine ⟨{ cursor := c, keyAllowed := false, delivered
            queue := (queue ++ [(.blockEnd, c.mark)]) ++ [(.streamEnd, c.mark)] }, ?_, ?_⟩
  · simp [token, hrest, hcolumn, Cursor.atMarker, streamEnd, closeColumns, inFlow, dropPending,
      push, bind, Except.bind, pure, Except.pure]
  · have hlast : Gives { cursor := c, keyAllowed := false, queue := [(.streamEnd, c.mark)]
                         delivered := delivered + (queue ++ [(Token.blockEnd, c.mark)]).length }
        [.streamEnd] 1 := by
      intro limit hlimit
      obtain ⟨limit, rfl⟩ : ∃ m, limit = m + 1 := ⟨limit - 1, by omega⟩
      simp [tokens, dropStale, freshen, isHeld, bind, Except.bind, pure, Except.pure]
    have hgives := gives_front (s := { cursor := c, keyAllowed := false, delivered
                                       queue := (queue ++ [(.blockEnd, c.mark)]) ++
                                         [(.streamEnd, c.mark)] }) rfl rfl (by simp) ?_ hlast
    · simp only [List.map_append, List.map_cons, List.map_nil, List.append_assoc, List.cons_append,
        List.nil_append, List.length_append, List.length_cons, List.length_nil] at hgives ⊢
      exact hgives.mono (by omega)
    · intro first hfirst
      rcases List.mem_append.1 hfirst with hfirst | hfirst
      · exact hsolid first hfirst
      · rw [List.mem_singleton.1 hfirst]
        exact Token.noConfusion

end Scan

/-! ### Texts -/

/-- **Tokens of written tables.** The text that describes a table has the tokens of the table. -/
theorem Token.ofText_encode {entries : List (String × Json)} (hne : entries ≠ [])
    (h : ∀ entry ∈ entries, IsWritten entry.2) :
    (Token.ofText (encode (.table entries))).1.map Prod.fst =
        valueTokens (.table entries) ++ [.streamEnd] ∧
      (Token.ofText (encode (.table entries))).2 = none := by
  obtain ⟨⟨key, value⟩, entries, rfl⟩ := List.exists_cons_of_ne_nil hne
  have htext : (encode (.table ((key, value) :: entries))).toList =
      entryLines 0 (Node.ofEntries ((key, value) :: entries)) := by
    simp [encode, Node.ofValue, Node.ofEntries, Node.render]
  have hallowed : (entryLines 0 (Node.ofEntries ((key, value) :: entries))).takeWhile isAllowed =
      entryLines 0 (Node.ofEntries ((key, value) :: entries)) := by
    refine List.takeWhile_eq_self_iff.2 fun e he => isAllowed_of_isPrintable ?_
    exact isPrintable_entryLines
      (fun entry hentry column => isPrintable_afterSign (h _ hentry) column) e he
  have hopen : ∀ top ∈ ([] : List Nat).head?, top ≤ 0 := by simp
  have hend : StartsToken [] := by simp [StartsToken]
  have hentries := Scan.startsAt_entries
    (fun entry hentry => Scan.givesValue_of_isWritten (h entry hentry)) hopen (Nat.le_refl 0) hend
    Scan.startsAt_end
  have hbody := entryLines_cons 0 key value entries []
  rw [List.append_nil] at hbody
  have hleads := Scan.Leads.here
    (c := { rest := entryLines 0 (Node.ofEntries ((key, value) :: entries)) }) (m := 0) hbody
  have hpauses : Scan.Pauses
      { cursor := { rest := entryLines 0 (Node.ofEntries ((key, value) :: entries)) } } 0 _ :=
    ⟨rfl, by simp, 0, hleads, by simp⟩
  have hgives := hpauses.gives (startsToken_keyLine _ _ _) hentries
  have htokens : valueTokens (.table ((key, value) :: entries)) =
      .blockMappingStart :: (entryTokens ((key, value) :: entries) ++ [.blockEnd]) := rfl
  have hread := hgives (8 * (entryLines 0 (Node.ofEntries ((key, value) :: entries))).length + 8)
    (by simp [Scan.closings]; omega)
  rw [Token.ofText, htext]
  simp only [hallowed, if_true]
  rw [hread.1, htokens]
  exact ⟨by simp [Scan.closings, Scan.opening], hread.2⟩

end FieldAccess.Yaml
