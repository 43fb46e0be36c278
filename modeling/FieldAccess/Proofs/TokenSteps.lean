import FieldAccess.Proofs.TokenRuns
import FieldAccess.Proofs.WrittenScalars

/-!
# Single tokens of written text

Which token comes next is seen from the first character. A scalar behind a sign is read up to the
next line; a key is known by the colon behind it, on its own line or, behind a question mark, on
another one.

## Main definitions

* `Scan.BehindSign` – a scan behind the sign in front of a value or a key.

## Main statements

* `Scan.BehindSign.scalar` – the scalar behind a sign.
* `Scan.startsAt_simpleKey`, `Scan.startsAt_markedKey` – the two ways of writing a key.
-/

namespace FieldAccess.Yaml.Scan

variable {s : Scan} {style : ScalarStyle} {text rest : List Char}

/-! ### The first character -/

theorem token_doubleQuote (h : s.cursor.rest = '"' :: rest) :
    s.token = s.quoted '"' .doubleQuoted := by
  simp [token, h, Cursor.atMarker]

theorem token_singleQuote (h : s.cursor.rest = '\'' :: rest) :
    s.token = s.quoted '\'' .singleQuoted := by
  simp [token, h, Cursor.atMarker]

theorem token_bar (houter : s.outer = []) (h : s.cursor.rest = '|' :: rest) :
    s.token = s.block .literal := by
  simp [token, h, Cursor.atMarker, inFlow, houter]

theorem token_question (h : s.cursor.rest = '?' :: ' ' :: rest) : s.token = s.key := by
  simp [token, h, Cursor.atMarker, startsBlank, isBlank]

theorem token_colon (hrest : startsBlank rest = true) (h : s.cursor.rest = ':' :: rest) :
    s.token = s.value := by
  simp [token, h, Cursor.atMarker, hrest]

theorem token_openBrace (h : s.cursor.rest = '\x7b' :: rest) :
    s.token = s.openFlow .flowMappingStart := by
  simp [token, h, Cursor.atMarker]

theorem token_closeBrace (h : s.cursor.rest = '\x7d' :: rest) :
    s.token = s.closeFlow .flowMappingEnd := by
  simp [token, h, Cursor.atMarker]

/-- What can be written without quotes starts with no sign. -/
theorem startsWithSign_cons {d : Char} (h : startsWithSign (d :: text) = false) :
    (Cursor.isFlowSign d || "#&*!|>'\"%@".toList.contains d || d.toNat = 0x60 ||
      ((d = '?' || d = ':' || d = '-') && startsBlank text)) = false := by
  unfold startsWithSign at h
  split at h
  · cases h
  · cases h
  · rename_i heq
    cases heq
    exact h
  · rename_i heq
    cases heq

/-- The first character of a plain scalar, and what follows it: it is no sign, unless the sign is
one that counts only in front of a blank. -/
structure BeginsPlain (d : Char) (more : List Char) : Prop where
  gap : isGap d = false
  flow : Cursor.isFlowSign d = false
  signs : "#&*!|>'\"%@".toList.contains d = false
  tick : d.toNat ≠ 0x60
  followed : ∀ sign, sign = '?' ∨ sign = ':' ∨ sign = '-' → ¬(d = sign ∧ startsBlank more = true)

theorem beginsPlain_of_plainText {d : Char} (htext : PlainText (d :: text)) (rest : List Char) :
    BeginsPlain d (text ++ rest) := by
  have hsign : startsWithSign (d :: text) = false := by
    have hplain := htext.isPlain
    simp only [isPlain, Bool.not_eq_true', Bool.or_eq_false_iff] at hplain
    exact hplain.1.1.2
  have hfirst := startsWithSign_cons hsign
  simp only [Bool.or_eq_false_iff, decide_eq_false_iff_not] at hfirst
  obtain ⟨⟨⟨hflow, hsigns⟩, htick⟩, halone⟩ := hfirst
  refine ⟨htext.words.stopsGap rest d rfl, hflow, hsigns, htick, ?_⟩
  rintro sign hsign ⟨rfl, hblank⟩
  have hmore : startsBlank text = false := by
    rcases hsign with rfl | rfl | rfl <;> simpa using halone
  rw [startsBlank_append hmore rest] at hblank
  cases hblank

theorem BeginsPlain.startsPlain {d : Char} {more : List Char} (h : BeginsPlain d more) :
    startsPlain false (d :: more) = true := by
  have hblank : isBlank d = false ∧ isBreak d = false := by simpa [isGap] using h.gap
  rw [Scan.startsPlain]
  split
  · rename_i hd
    have hitem := h.followed '-' (.inr (.inr rfl))
    cases more with
    | nil => rfl
    | cons e after =>
      have he : ¬(isBlank e = true ∨ isBreak e = true) := by
        simpa [startsBlank, hd] using hitem
      simpa using fun he' => he (.inl he')
  split
  · rename_i hd
    rcases (by simpa using hd : d = '?' ∨ d = ':') with rfl | rfl
    · simpa using h.followed '?' (.inl rfl)
    · simpa using h.followed ':' (.inr (.inl rfl))
  · simp only [h.flow, h.signs, h.tick, hblank, decide_false, Bool.or_false, Bool.not_false]

theorem token_plain (houter : s.outer = []) (htext : PlainText text)
    (hrest : ∀ d ∈ rest.head?, d ≠ '-' ∧ d ≠ '.') (h : s.cursor.rest = text ++ rest) :
    s.token = s.plain := by
  have hhyphen := Cursor.atMarker_of_plainText htext (.inl rfl) (fun d hd => (hrest d hd).1) h
  have hpoint := Cursor.atMarker_of_plainText htext (.inr rfl) (fun d hd => (hrest d hd).2) h
  obtain ⟨d, more, rfl⟩ := List.exists_cons_of_ne_nil htext.ne_nil
  have hbegins := beginsPlain_of_plainText htext rest
  have hcons : s.cursor.rest = d :: (more ++ rest) := h
  have hinFlow : s.inFlow = false := by rw [inFlow, houter]; rfl
  have hbracket : ∀ sign, Cursor.isFlowSign sign = true → d.toNat ≠ sign.toNat ∧ d ≠ sign := by
    intro sign hsign
    have hne : d ≠ sign := by
      rintro rfl
      rw [hbegins.flow] at hsign
      cases hsign
    exact ⟨fun hsame => hne (Char.toNat_inj.1 hsame), hne⟩
  have hopen : d.toNat ≠ 0x7b := (hbracket '\x7b' (by decide)).1
  have hclose : d.toNat ≠ 0x7d := (hbracket '\x7d' (by decide)).1
  have hsome : ∀ sign, "#&*!|>'\"%@".toList.contains sign = true → d ≠ sign := by
    rintro sign hsign rfl
    rw [hbegins.signs] at hsign
    cases hsign
  simp [token, hcons, hhyphen, hpoint, hopen, hclose, hinFlow, hbegins.startsPlain,
    hbegins.followed '?' (.inl rfl), hbegins.followed ':' (.inr (.inl rfl)),
    hbegins.followed '-' (.inr (.inr rfl)), (hbracket '[' (by decide)).2,
    (hbracket ']' (by decide)).2, (hbracket ',' (by decide)).2, hsome '%' (by decide),
    hsome '*' (by decide), hsome '&' (by decide), hsome '!' (by decide), hsome '|' (by decide),
    hsome '>' (by decide), hsome '\'' (by decide), hsome '"' (by decide)]

/-! ### Scalars behind a sign -/

/-- A scan outside of brackets behind the sign in front of a value or a key, in the collection at a
column. -/
structure BehindSign (s : Scan) (column : Nat) (outer : List Nat) (text : List Char) : Prop where
  rest : s.cursor.rest = text
  deep : column < s.cursor.column
  columns : s.columns = column :: outer
  brackets : s.outer = []
  pending : s.pending = none
  queue : s.queue = []

/-- The scalar that is written in a way starts with a sign of its own. -/
theorem startsToken_scalar (h : Fits style text) (indent : Nat) (rest : List Char) :
    StartsToken (scalarLines indent style text ++ rest) ∧
      StartsToken (scalarText style text ++ rest) := by
  have hsign : ∀ d ∈ ['\'', '"', '|'], isGap d = false ∧ d ≠ '#' ∧ d ≠ '\ufeff' :=
    List.forall_mem_cons.2 ⟨by decide,
      List.forall_mem_cons.2 ⟨by decide, List.forall_mem_singleton.2 (by decide)⟩⟩
  have hdouble : ∀ rest, StartsToken (doubleQuoted text ++ rest) := fun rest d hd => by
    cases hd
    exact hsign _ (by simp)
  have hsingle : ∀ indent rest, StartsToken (singleQuoted indent text ++ rest) :=
    fun indent rest d hd => by
      cases hd
      exact hsign _ (by simp)
  have happend : ∀ front : List Char, StartsToken (front ++ (['\n'] ++ rest)) →
      StartsToken (front ++ ['\n'] ++ rest) := fun front hfront => by
    rwa [List.append_assoc]
  cases h with
  | plain h =>
    obtain ⟨c, more, rfl⟩ := List.exists_cons_of_ne_nil h.ne_nil
    have hc : isGap c = false ∧ c ≠ '#' ∧ c ≠ '\ufeff' := by
      refine ⟨h.words.stopsGap [] c rfl, (h.words.head c rfl).2, ?_⟩
      rintro rfl
      have hplain := h.isPlain
      simp [isPlain, needsEscapes, show isSpecial '\ufeff' = true from by decide] at hplain
    have hstart : ∀ rest, StartsToken (c :: more ++ rest) := fun rest d hd => by
      cases hd
      exact hc
    exact ⟨happend _ (hstart _), hstart _⟩
  | singleQuoted => exact ⟨happend _ (hsingle _ _), hsingle _ _⟩
  | doubleQuoted => exact ⟨happend _ (hdouble _), hdouble _⟩
  | literal =>
    refine ⟨fun d hd => ?_, hdouble _⟩
    cases hd
    exact hsign _ (by simp)

/-- The node that starts here, when it may be a key. -/
def keyHere (s : Scan) : PendingKey where
  token := s.delivered + s.queue.length
  required := !s.inFlow && s.indent = s.cursor.column
  index := s.cursor.index
  line := s.cursor.line
  column := s.cursor.column

theorem savePending_eq (hpending : s.pending = none) :
    s.savePending = .ok { s with
      pending := if s.keyAllowed then some s.keyHere else s.pending } := by
  obtain ⟨cursor, pending, outer, columns, keyAllowed, queue, delivered⟩ := s
  cases hpending
  cases keyAllowed <;> rfl

namespace BehindSign

variable {column n : Nat} {outer : List Nat}

/-- A node behind a sign need not be a key. -/
theorem savePending_eq (h : s.BehindSign column outer text) :
    ∃ pending, s.savePending = .ok { s with pending } ∧
      ∀ key ∈ pending, key = s.keyHere ∧ key.required = false := by
  refine ⟨_, Scan.savePending_eq h.pending, fun key hkey => ?_⟩
  split at hkey
  · cases hkey
    have hother : s.indent ≠ s.cursor.column := by
      have hdeep := h.deep
      rw [indent, h.columns]
      dsimp only
      omega
    exact ⟨rfl, by simp [keyHere, hother]⟩
  · rw [h.pending] at hkey
    cases hkey

/-- The next token behind a sign and a space. -/
theorem advance_eq (h : s.BehindSign column outer (' ' :: rest)) (hrest : StartsToken rest) :
    ∃ next : Scan, next.BehindSign column outer rest ∧ s.advance = next.token := by
  have hspaces : s.cursor.rest = spaces 1 ++ rest := h.rest
  have hafter := Cursor.rest_advance_length hspaces
  rw [length_spaces] at hafter
  have hnext : BehindSign { s with cursor := s.cursor.advance 1 } column outer rest :=
    ⟨hafter, Nat.lt_succ_of_lt h.deep, h.columns, h.brackets, h.pending, h.queue⟩
  have hfresh := dropStale_of_fresh (s := { s with cursor := s.cursor.advance 1 }) h.brackets
    fun key hkey => by
      rw [h.pending] at hkey
      cases hkey
  have hclose := closeColumns_of_le (s := { s with cursor := s.cursor.advance 1 }) h.brackets
    fun top htop => by
      rw [h.columns] at htop
      cases htop
      exact Nat.le_of_lt hnext.deep
  refine ⟨_, hnext, ?_⟩
  simp only [advance, skipToToken_spaces hrest hspaces (Nat.le_refl _), hfresh, bind, Except.bind]
  exact congrArg token hclose

/-- A scan that has read a scalar behind a sign and pauses in front of what follows it. -/
structure ReadsScalar (t : Scan) (columns : List Nat) (style : ScalarStyle) (text : String)
    (n : Nat) (rest : List Char) : Prop where
  pauses : t.Pauses n rest
  columns : t.columns = columns
  queue : t.queue.map Prod.fst = [.scalar style text]

/-- A scan pauses behind a scalar that leads to a later line. -/
theorem readsScalar {pending : Option PendingKey} {after : Cursor} {allowed : Bool} {line : Nat}
    (h : s.BehindSign column outer text)
    (hpending : ∀ key ∈ pending, key = s.keyHere ∧ key.required = false)
    (hleads : Leads after allowed line n rest) (hline : s.cursor.line < line)
    (style : ScalarStyle) (read : String) :
    ReadsScalar (push { s with pending, cursor := after, keyAllowed := allowed }
      (.scalar style read) s.cursor.mark) (column :: outer) style read n rest where
  pauses :=
    { outer := h.brackets
      solid := by simp [push, h.queue]
      leads := ⟨line, hleads, fun key hkey =>
        ⟨(hpending key hkey).2, (hpending key hkey).1 ▸ hline⟩⟩ }
  columns := h.columns
  queue := by simp [push, h.queue]

theorem plain_eq {text : String}
    (h : s.BehindSign column outer (text.toList ++ '\n' :: (spaces n ++ rest)))
    (htext : PlainText text.toList) (hn : n ≤ column) (hrest : StopsGap rest) :
    ∃ t, s.plain = .ok t ∧ ReadsScalar t (column :: outer) .plain text n rest := by
  obtain ⟨pending, hsave, hpending⟩ := h.savePending_eq
  have hdeep := h.deep
  have hflow : s.inFlow = false := by rw [inFlow, h.brackets]; rfl
  have hindent : s.indent = column := by rw [indent, h.columns]
  have hshallow : (n : Int) < column + 1 := by omega
  obtain ⟨after, hend, hafter, hline, hcolumn⟩ :=
    Cursor.EndsPlain.of_line hrest hshallow (Cursor.rest_advance_length h.rest)
  have hread := Cursor.plain_eq htext (by omega) h.rest hend
  have hleads : Leads after true after.line n rest := by
    have hhere : Leads after true after.line (after.column + 0) rest := .here hafter
    rwa [hcolumn, Nat.add_zero] at hhere
  have hnext : s.cursor.line < after.line := hline ▸ Nat.lt_succ_self s.cursor.line
  refine ⟨_, ?_, h.readsScalar hpending hleads hnext .plain text⟩
  rw [plain, hsave]
  change (s.cursor.plain s.inFlow (s.indent + 1) >>= fun _ => _) = _
  rw [hflow, hindent, hread]
  simp [bind, Except.bind, pure, Except.pure]

theorem quoted_eq {text : String} {quote : Char} {written : List Char}
    (h : s.BehindSign column outer
      (quote :: (written ++ quote :: ('\n' :: (spaces n ++ rest)))))
    (hquoted : Quoted quote (column + 2) written text.toList) (hquote : isGap quote = false)
    (style : ScalarStyle) :
    ∃ t, s.quoted quote style = .ok t ∧ ReadsScalar t (column :: outer) style text n rest := by
  obtain ⟨pending, hsave, hpending⟩ := h.savePending_eq
  have hstop : quote = '\'' → ('\n' :: (spaces n ++ rest)).head? ≠ some '\'' := by simp
  obtain ⟨after, hread, hafter, hline, -⟩ :=
    Cursor.quoted_eq hquoted (Nat.succ_ne_zero _) hquote hstop h.rest
  have hleads : Leads after false (after.line + 1) n rest := .nextLine hafter
  refine ⟨_, ?_, h.readsScalar hpending hleads (Nat.lt_succ_of_le hline) style text⟩
  rw [quoted, hsave]
  change (s.cursor.quoted quote >>= fun _ => _) = _
  rw [hread]
  simp [bind, Except.bind, pure, Except.pure]

theorem block_eq {text : String}
    (h : s.BehindSign column outer ('|' :: (blockSigns text.toList ++ '\n' ::
      (indented (column + 2) true text.toList ++ (blockTail text.toList ++ (spaces n ++ rest))))))
    (hne : text.toList ≠ []) (hprintable : ∀ d ∈ text.toList, isPrintable d = true)
    (hn : n ≤ column) (hrest : StopsGap rest) :
    ∃ t, s.block .literal = .ok t ∧ ReadsScalar t (column :: outer) .literal text n rest := by
  have hshallow : n < column + 2 := by omega
  obtain ⟨after, hread, hafter, hcolumn, hline⟩ :=
    Cursor.block_eq hne hprintable hshallow hrest h.rest
  have hindent : s.indent = column := by rw [indent, h.columns]
  have hleads : Leads after true after.line n rest := by
    have hhere : Leads after true after.line (after.column + 0) rest := .here hafter
    rwa [hcolumn, Nat.add_zero] at hhere
  have hnone : ∀ key ∈ s.pending, key = s.keyHere ∧ key.required = false := by simp [h.pending]
  have hdrop : s.dropPending = .ok s := by rw [dropPending, h.pending]
  refine ⟨_, ?_, h.readsScalar hnone hleads hline .literal text⟩
  rw [block, hdrop]
  change (s.cursor.block false s.indent >>= fun _ => _) = _
  rw [hindent, hread]
  simp [bind, Except.bind, pure, Except.pure]

/-- **Scalars.** The scalar behind a sign is read, and the scan pauses in front of what follows. -/
theorem scalar {text : String}
    (h : s.BehindSign column outer
      (' ' :: (scalarLines (column + 2) style text.toList ++ (spaces n ++ rest))))
    (hfits : Fits style text.toList) (hn : n ≤ column) (hrest : StopsGap rest) :
    ∃ t, s.advance = .ok t ∧ ReadsScalar t (column :: outer) style text n rest := by
  obtain ⟨next, hnext, hadvance⟩ := h.advance_eq (startsToken_scalar hfits _ _).1
  rw [hadvance]
  cases hfits with
  | plain htext =>
    have hline : scalarLines (column + 2) .plain text.toList ++ (spaces n ++ rest) =
        text.toList ++ '\n' :: (spaces n ++ rest) := by simp [scalarLines]
    rw [hline] at hnext
    have hstart : ∀ d ∈ ('\n' :: (spaces n ++ rest)).head?, d ≠ '-' ∧ d ≠ '.' := by simp
    rw [token_plain hnext.brackets htext hstart hnext.rest]
    exact hnext.plain_eq htext hn hrest
  | singleQuoted hseparated =>
    have hline : scalarLines (column + 2) .singleQuoted text.toList ++ (spaces n ++ rest) =
        '\'' :: (singleBody (column + 2) text.toList ++ '\'' :: ('\n' :: (spaces n ++ rest))) := by
      simp [scalarLines, singleQuoted_eq]
    rw [hline] at hnext
    rw [token_singleQuote hnext.rest]
    exact hnext.quoted_eq (quoted_singleBody hseparated _) (by decide) _
  | doubleQuoted =>
    have hline : scalarLines (column + 2) .doubleQuoted text.toList ++ (spaces n ++ rest) =
        '"' :: (text.toList.flatMap escaped ++ '"' :: ('\n' :: (spaces n ++ rest))) := by
      simp [scalarLines, doubleQuoted]
    rw [hline] at hnext
    rw [token_doubleQuote hnext.rest]
    exact hnext.quoted_eq (quoted_doubleQuoted _ _) (by decide) _
  | literal hfeed hprintable =>
    have hline : scalarLines (column + 2) .literal text.toList ++ (spaces n ++ rest) =
        '|' :: (blockSigns text.toList ++ '\n' :: (indented (column + 2) true text.toList ++
          (blockTail text.toList ++ (spaces n ++ rest)))) := by
      simp [scalarLines, blockTail]
    rw [hline] at hnext
    rw [token_bar hnext.brackets hnext.rest]
    exact hnext.block_eq (List.ne_nil_of_mem hfeed) hprintable hn hrest

end BehindSign

/-! ### Keys -/

section Keys

variable {column n : Nat} {columns outer : List Nat} {expected : List Token} {after : List Char}
  {key : String}

/-- The token in front of an entry at a column, unless the collection there is open already. -/
def opening (columns : List Nat) (column : Nat) : List Token :=
  if columns.head? = some column then [] else [.blockMappingStart]

/-- The collections around the one at a column. -/
def outside (columns : List Nat) (column : Nat) : List Nat :=
  if columns.head? = some column then columns.tail else columns

/-- The tokens that wait behind a sign are given at once. -/
theorem BehindSign.gives_waiting
    (h : BehindSign { s with queue := [], delivered := s.delivered + s.queue.length } column outer
      text)
    (hsolid : .streamEnd ∉ s.queue.map Prod.fst)
    (hgives : ∀ next : Scan, next.BehindSign column outer text → next.Gives expected n) :
    s.Gives (s.queue.map Prod.fst ++ expected) (n + (s.queue.map Prod.fst).length) := by
  have hpending : s.pending = none := h.pending
  rw [List.length_map]
  refine gives_front (List.append_nil s.queue).symm h.brackets (fun key hkey => ?_)
    (fun first hfirst hend => hsolid (hend ▸ List.mem_map_of_mem hfirst)) (hgives _ h)
  rw [hpending] at hkey
  cases hkey

/-- The scan behind a scalar on one line, in front of which a key may be. -/
def behindKey (s : Scan) (style : ScalarStyle) (key : String) : Scan :=
  push { s with
    pending := some s.keyHere
    cursor := s.cursor.advance (scalarText style key.toList).length
    keyAllowed := false } (.scalar style key) s.cursor.mark

/-- A key between quotes is read up to the colon. -/
theorem quoted_key {quote : Char} {written : List Char}
    (hsave : s.savePending = .ok { s with pending := some s.keyHere })
    (hquoted : Quoted quote 1 written key.toList) (hquote : isGap quote = false)
    (hline : ∀ d ∈ written, isBreak d = false)
    (hwritten : scalarText style key.toList = quote :: (written ++ [quote]))
    (h : s.cursor.rest = scalarText style key.toList ++ ':' :: after) :
    s.quoted quote style = .ok (s.behindKey style key) := by
  have hrest : s.cursor.rest = quote :: (written ++ quote :: (':' :: after)) := by
    rw [h, hwritten]
    simp
  have hstop : quote = '\'' → (':' :: after).head? ≠ some '\'' := by simp
  obtain ⟨last, hread, -, -, hlast⟩ := Cursor.quoted_eq hquoted (by decide) hquote hstop hrest
  have hlength : (scalarText style key.toList).length = written.length + 2 := by
    simp [hwritten]
  rw [quoted, hsave, behindKey, hlength, ← hlast hline]
  change (s.cursor.quoted quote >>= fun _ => _) = _
  rw [hread]
  simp [bind, Except.bind, pure, Except.pure]

/-- A key on one line is read up to the colon. -/
theorem token_key (houter : s.outer = []) (hpending : s.pending = none)
    (hallowed : s.keyAllowed = true) (hcolumns : ∀ top ∈ s.columns.head?, top ≤ s.cursor.column)
    (hfits : Fits style key.toList) (hline : ∀ d ∈ key.toList, isBreak d = false)
    (hafter : startsBlank after = true)
    (h : s.cursor.rest = scalarText style key.toList ++ ':' :: after) :
    s.token = .ok (s.behindKey style key) := by
  have hsave : s.savePending = .ok { s with pending := some s.keyHere } := by
    rw [savePending_eq hpending, hallowed]
    rfl
  have hinline : ∀ {quote : Char} {written : List Char},
      scalarText style key.toList = quote :: (written ++ [quote]) →
        ∀ d ∈ written, isBreak d = false := fun hwritten d hd =>
    isBreak_of_isInline ((scalarText_inline hfits hline).1 d (by simp [hwritten, hd]))
  cases hfits with
  | plain htext =>
    have hflow : s.inFlow = false := by rw [inFlow, houter]; rfl
    have hcolon : (s.cursor.advance key.toList.length).rest = ':' :: after :=
      Cursor.rest_advance_length h
    have hindent : s.indent + 1 ≤ s.cursor.column + 1 := by
      rw [indent]
      split
      · omega
      · rename_i top columns hsome
        have htop := hcolumns top (by rw [hsome]; rfl)
        omega
    have hstart : ∀ d ∈ (':' :: after).head?, d ≠ '-' ∧ d ≠ '.' := by simp
    rw [token_plain houter htext hstart h, plain, hsave]
    change (s.cursor.plain s.inFlow (s.indent + 1) >>= fun _ => _) = _
    rw [hflow, Cursor.plain_eq htext hindent h (.colon hcolon hafter)]
    simp [behindKey, scalarText, bind, Except.bind, pure, Except.pure]
  | singleQuoted hseparated =>
    have hwritten : scalarText .singleQuoted key.toList =
        '\'' :: (singleBody 1 key.toList ++ ['\'']) := by
      rw [scalarText, singleQuoted_eq, singleBody_inline hline, singleBody_inline hline]
    have hquote : s.cursor.rest = '\'' :: (singleBody 1 key.toList ++ ['\''] ++ ':' :: after) := by
      rw [h, hwritten]
      rfl
    rw [token_singleQuote hquote]
    exact quoted_key hsave (quoted_singleBody hseparated 1) (by decide) (hinline hwritten) hwritten
      h
  | doubleQuoted =>
    rw [token_doubleQuote h]
    exact quoted_key hsave (quoted_doubleQuoted 1 _) (by decide) (hinline rfl) rfl h
  | literal hfeed =>
    have hbreak := hline '\n' hfeed
    cases hbreak

/-- The collection at a column is opened unless it is open already. Its token comes in front of
those that wait behind a key, and otherwise behind all. -/
theorem openColumn_eq (houter : s.outer = []) (hcolumns : ∀ top ∈ s.columns.head?, top ≤ column)
    (place : Mark) :
    (∃ queue, s.openColumn column (some s.delivered) .blockMappingStart place =
        { s with columns := column :: outside s.columns column, queue } ∧
      queue.map Prod.fst = opening s.columns column ++ s.queue.map Prod.fst) ∧
    ∃ queue, s.openColumn column none .blockMappingStart place =
        { s with columns := column :: outside s.columns column, queue } ∧
      queue.map Prod.fst = s.queue.map Prod.fst ++ opening s.columns column := by
  obtain ⟨cursor, pending, outer, columns, keyAllowed, queue, delivered⟩ := s
  cases houter
  cases columns with
  | nil =>
    have hbelow : ¬(column : Int) ≤ -1 := by omega
    exact ⟨⟨_, by simp [openColumn, inFlow, indent, hbelow, insertBefore, outside]; rfl,
      by simp [opening]⟩, _, by simp [openColumn, inFlow, indent, hbelow, push, outside]; rfl,
      by simp [opening]⟩
  | cons top columns =>
    by_cases htop : top = column
    · subst htop
      exact ⟨⟨queue, by simp [openColumn, indent, outside], by simp [opening]⟩, queue,
        by simp [openColumn, indent, outside], by simp [opening]⟩
    · have hle : top ≤ column := hcolumns top rfl
      have hbelow : ¬(column : Int) ≤ top := by omega
      exact ⟨⟨_, by simp [openColumn, inFlow, indent, hbelow, insertBefore, outside, htop]; rfl,
        by simp [opening, htop]⟩, _,
        by simp [openColumn, inFlow, indent, hbelow, push, outside, htop]; rfl,
        by simp [opening, htop]⟩

/-- The colon behind a key that waits. -/
theorem value_of_key {pending : PendingKey} (houter : s.outer = [])
    (hcolumns : ∀ top ∈ s.columns.head?, top ≤ pending.column)
    (hpending : s.pending = some pending) (htoken : pending.token = s.delivered)
    (hdeep : pending.column ≤ s.cursor.column) (h : s.cursor.rest = ':' :: after) :
    ∃ t, s.value = .ok t ∧ t.queue.map Prod.fst =
        opening s.columns pending.column ++ .key :: (s.queue.map Prod.fst ++ [.value]) ∧
      BehindSign { t with queue := [], delivered := t.delivered + t.queue.length } pending.column
        (outside s.columns pending.column) after := by
  obtain ⟨cursor, pending', outer', columns', keyAllowed, queue, delivered⟩ := s
  cases houter
  cases hpending
  cases htoken
  have hnext := Cursor.next_eq_advance h (by decide)
  have hafter : (cursor.advance 1).rest = after := by
    rw [Cursor.rest_advance, h]
    rfl
  obtain ⟨opened, hopen, hnames⟩ := (openColumn_eq
    (s := { cursor, pending := some pending, columns := columns', keyAllowed
            queue := (.key, ⟨pending.line, pending.column⟩) :: queue, delivered := pending.token })
    rfl hcolumns ⟨pending.line, pending.column⟩).1
  refine ⟨push { cursor := cursor.next, columns := pending.column :: outside columns' pending.column
                 keyAllowed := false, queue := opened, delivered := pending.token }
    .value cursor.mark, ?_, ?_, ?_⟩
  · simp only [value, insertBefore, Nat.sub_self, List.take_zero, List.drop_zero, List.nil_append,
      hopen]
  · simp [push, hnames]
  · exact ⟨hnext ▸ hafter, by rw [hnext]; exact Nat.lt_succ_of_le hdeep, rfl, rfl, rfl, rfl⟩

theorem length_opening_le (columns : List Nat) (column : Nat) :
    (opening columns column).length ≤ 1 := by
  rw [opening]
  split <;> simp

theorem streamEnd_notMem_opening (columns : List Nat) (column : Nat) :
    .streamEnd ∉ opening columns column := by
  rw [opening]
  split <;> simp

theorem startsToken_colon (after : List Char) : StartsToken (':' :: after) := fun d hd => by
  cases hd
  decide

/-- A place from which the next token is not separated. -/
theorem advance_of_startsToken (houter : s.outer = []) (hrest : StartsToken s.cursor.rest)
    (hfresh : ∀ key ∈ s.pending, isStale s.cursor key = false)
    (hcolumns : ∀ top ∈ s.columns.head?, top ≤ s.cursor.column) : s.advance = s.token := by
  have hskip : skipToToken s.cursor.rest.length s = s := skipToToken_spaces (m := 0) hrest rfl
    (Nat.le_refl _)
  simp only [advance, hskip, dropStale_of_fresh houter hfresh, bind, Except.bind,
    closeColumns_of_le houter hcolumns]

/-- **Keys on one line.** A key is known by the colon behind it. -/
theorem startsAt_simpleKey (hcolumns : ∀ top ∈ columns.head?, top ≤ column)
    (hfits : Fits style key.toList) (hsimple : isSimpleKey key = true)
    (hafter : startsBlank after = true)
    (hnext : ∀ next : Scan, next.BehindSign column (outside columns column) after →
      next.Gives expected n) :
    StartsAt columns column (scalarText style key.toList ++ ':' :: after)
      (opening columns column ++ .key :: .scalar style key :: .value :: expected) (n + 5) := by
  intro c queue delivered hrest hcolumn hsolid
  subst hcolumn
  have hline := isBreak_of_isSimpleKey hsimple
  have hlength := length_scalarText_lt hfits hsimple
  refine ⟨_, token_key rfl rfl rfl hcolumns hfits hline hafter hrest, ?_⟩
  have hfresh : isStale (c.advance (scalarText style key.toList).length)
      (keyHere { cursor := c, columns, queue, delivered }) = false := by
    have hnear : ¬c.index + 1024 < c.index + (scalarText style key.toList).length := by omega
    simpa [isStale, keyHere] using hnear
  have hcolon : (c.advance (scalarText style key.toList).length).rest = ':' :: after :=
    Cursor.rest_advance_length hrest
  refine gives_front (rfl : _ = queue ++ [(Token.scalar style key, c.mark)]) rfl
    (fun key hkey => ?_) hsolid ?_
  · cases hkey
    exact ⟨hfresh, Nat.le_refl _⟩
  -- Now only the key waits, and it is given when the colon is read.
  have hfreshKey : ∀ waiting ∈ some (keyHere { cursor := c, columns, queue, delivered }),
      isStale (c.advance (scalarText style key.toList).length) waiting = false := by
    rintro waiting hwaiting
    cases hwaiting
    exact hfresh
  have hdeep : ∀ top ∈ columns.head?,
      top ≤ (c.advance (scalarText style key.toList).length).column := fun top htop =>
    Nat.le_trans (hcolumns top htop) (Nat.le_add_right _ _)
  obtain ⟨t, hvalue, hnames, hbehind⟩ := value_of_key
    (s := { cursor := c.advance (scalarText style key.toList).length
            pending := some (keyHere { cursor := c, columns, queue, delivered }), columns
            keyAllowed := false, queue := [(.scalar style key, c.mark)]
            delivered := delivered + queue.length }) rfl hcolumns rfl rfl (Nat.le_add_right _ _)
    hcolon
  have hadvance := advance_of_startsToken
    (s := { cursor := c.advance (scalarText style key.toList).length
            pending := some (keyHere { cursor := c, columns, queue, delivered }), columns
            keyAllowed := false, queue := [(.scalar style key, c.mark)]
            delivered := delivered + queue.length }) rfl (hcolon ▸ startsToken_colon after)
    hfreshKey hdeep
  rw [token_colon hafter hcolon, hvalue] at hadvance
  replace hnames : t.queue.map Prod.fst =
      opening columns c.column ++ [.key, .scalar style key, .value] := hnames
  have hsolidNames : .streamEnd ∉ t.queue.map Prod.fst := by
    rw [hnames]
    simpa using streamEnd_notMem_opening columns c.column
  have hgives := hbehind.gives_waiting hsolidNames hnext
  have hshort := length_opening_le columns c.column
  rw [hnames] at hgives
  have hheld := gives_of_held (List.cons_ne_nil _ _) (dropStale_of_fresh rfl hfreshKey)
    (by simp [isHeld, keyHere]) hadvance hgives
  simp only [List.append_assoc, List.cons_append, List.nil_append, List.length_append,
    List.length_cons, List.length_nil] at hheld
  exact hheld.mono (by omega)

theorem notMem_of_solid {queue : List (Token × Mark)}
    (hsolid : ∀ first ∈ queue, first.1 ≠ .streamEnd) : .streamEnd ∉ queue.map Prod.fst := by
  intro hend
  obtain ⟨first, hfirst, hname⟩ := List.mem_map.1 hend
  exact hsolid first hfirst hname

/-- The colon on a line of its own. -/
theorem startsAt_colon (hafter : startsBlank after = true)
    (hnext : ∀ next : Scan, next.BehindSign column outer after → next.Gives expected n) :
    StartsAt (column :: outer) column (':' :: after) (.value :: expected) (n + 1) := by
  intro c queue delivered hrest hcolumn hsolid
  subst hcolumn
  have hnextCursor := Cursor.next_eq_advance hrest (by decide)
  have hnextRest : (c.advance 1).rest = after := by
    rw [Cursor.rest_advance, hrest]
    rfl
  refine ⟨push { cursor := c.advance 1, columns := c.column :: outer, queue, delivered } .value
    c.mark, ?_, ?_⟩
  · rw [token_colon hafter hrest]
    simp [value, requireKeyAllowed, openColumn, indent, inFlow, hnextCursor, bind, Except.bind,
      pure, Except.pure]
  · have hsolidNames : Token.streamEnd ∉ (queue ++ [(Token.value, c.mark)]).map Prod.fst := by
      simpa using notMem_of_solid hsolid
    have hgives := BehindSign.gives_waiting
      (s := push { cursor := c.advance 1, columns := c.column :: outer, queue, delivered } .value
        c.mark) ⟨hnextRest, Nat.lt_succ_self _, rfl, rfl, rfl, rfl⟩ hsolidNames hnext
    simp only [push, List.map_append, List.map_cons, List.map_nil, List.append_assoc,
      List.cons_append, List.nil_append, List.length_append, List.length_map, List.length_cons,
      List.length_nil] at hgives
    exact hgives.mono (by omega)

/-- The scalar behind a sign, and what follows it. -/
theorem BehindSign.gives_scalar {rest : List Char} {m : Nat}
    (h : s.BehindSign column outer
      (' ' :: (scalarLines (column + 2) style key.toList ++ (spaces m ++ rest))))
    (hfits : Fits style key.toList) (hm : m ≤ column) (hrest : StartsToken rest)
    (hstart : StartsAt (around (column :: outer) m) m rest expected n) :
    s.Gives (.scalar style key :: (closings (column :: outer) m ++ expected))
      (n + (closings (column :: outer) m).length + 3) := by
  obtain ⟨t, hadvance, hread⟩ := h.scalar hfits hm hrest.stopsGap
  rw [← hread.columns] at hstart ⊢
  have hgives := hread.pauses.gives hrest hstart
  have hlength : t.queue.length = 1 := by rw [← List.length_map, hread.queue]; rfl
  rw [hread.queue, hlength] at hgives
  exact gives_of_advance h.queue hadvance hgives

/-- **Keys on lines of their own.** Behind a question mark, the colon stands on another line. -/
theorem startsAt_markedKey (hcolumns : ∀ top ∈ columns.head?, top ≤ column)
    (hfits : Fits style key.toList) (hafter : startsBlank after = true)
    (hnext : ∀ next : Scan, next.BehindSign column (outside columns column) after →
      next.Gives expected n) :
    StartsAt columns column ('?' :: ' ' :: (scalarLines (column + 2) style key.toList ++
        (spaces column ++ ':' :: after)))
      (opening columns column ++ .key :: .scalar style key :: .value :: expected) (n + 6) := by
  intro c queue delivered hrest hcolumn hsolid
  subst hcolumn
  have hnextCursor := Cursor.next_eq_advance hrest (by decide)
  have hnextRest : (c.advance 1).rest = ' ' :: (scalarLines (c.column + 2) style key.toList ++
      (spaces c.column ++ ':' :: after)) := by
    rw [Cursor.rest_advance, hrest]
    rfl
  obtain ⟨opened, hopen, hnames⟩ := (openColumn_eq (s := { cursor := c, columns, queue, delivered })
    rfl hcolumns c.mark).2
  refine ⟨push { cursor := c.advance 1, columns := c.column :: outside columns c.column
                 queue := opened, delivered } .key c.mark, ?_, ?_⟩
  · rw [token_question hrest]
    simp [Scan.key, requireKeyAllowed, inFlow, hopen, dropPending, hnextCursor, bind, Except.bind,
      pure, Except.pure]
  · have hsolidNames : Token.streamEnd ∉ (opened ++ [(Token.key, c.mark)]).map Prod.fst := by
      rw [List.map_append, hnames]
      simpa using And.intro (notMem_of_solid hsolid) (streamEnd_notMem_opening columns c.column)
    have hgives := BehindSign.gives_waiting
      (s := push { cursor := c.advance 1, columns := c.column :: outside columns c.column
                   queue := opened, delivered } .key c.mark)
      ⟨hnextRest, Nat.lt_succ_self _, rfl, rfl, rfl, rfl⟩ hsolidNames
      fun next hbehind => hbehind.gives_scalar hfits (Nat.le_refl _) (startsToken_colon after)
        ((around_of_le (Nat.le_refl c.column)).symm ▸ startsAt_colon hafter hnext)
    have hshort := length_opening_le columns c.column
    rw [closings_of_le (Nat.le_refl _)] at hgives
    simp only [push, List.map_append, hnames, List.map_cons, List.map_nil, List.append_assoc,
      List.cons_append, List.nil_append, List.length_append, List.length_map, List.length_cons,
      List.length_nil] at hgives
    exact hgives.mono (by omega)

end Keys

end FieldAccess.Yaml.Scan
