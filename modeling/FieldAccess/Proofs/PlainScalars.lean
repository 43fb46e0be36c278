import FieldAccess.Proofs.Gaps

/-!
# Plain scalars

A text that is written without quotes is read word by word, up to the colon behind a key or to the
end of its line. Where it goes on over the spaces between its words, neither a comment nor a colon
at the end of a word stands in the way.

## Main definitions

* `PlainText` – a text that can be written without quotes.
* `Cursor.EndsPlain` – what may come behind such a text.

## Main statements

* `Cursor.plain_eq` – a plain scalar is read up to its end.
-/

namespace FieldAccess.Yaml

/-- A text that can be written without quotes. -/
structure PlainText (text : List Char) : Prop where
  ne_nil : text ≠ []
  isPlain : isPlain text = true

/-- Words with spaces between them, none of which ends with a colon or starts with the sign of a
comment. -/
structure Words (text : List Char) : Prop where
  ne_nil : text ≠ []
  solid : ∀ d ∈ text, isGap d = true → d = ' '
  head : ∀ d ∈ text.head?, d ≠ ' ' ∧ d ≠ '#'
  last : text.getLast? ≠ some ' '
  colon : holdsColon text = false
  comment : text.IsChain fun c d => isGap c = true → d ≠ '#'

/-- A word in front of what follows it: it is not taken for a comment, and no colon ends it. -/
structure IsWord (word rest : List Char) : Prop where
  ne_nil : word ≠ []
  solid : ∀ d ∈ word, isGap d = false
  comment : ∀ d ∈ word.head?, d ≠ '#'
  colon : ∀ front behind, word = front ++ ':' :: behind → startsBlank (behind ++ rest) = false

theorem holdsColon_append {front text : List Char} (h : holdsColon (front ++ text) = false) :
    holdsColon text = false := by
  induction front with
  | nil => exact h
  | cons d front ih =>
    rw [List.cons_append] at h
    refine ih ?_
    unfold holdsColon at h
    split at h
    · rename_i heq
      cases heq
      simp only [Bool.or_eq_false_iff] at h
      exact h.2
    · rename_i heq
      cases heq
      exact h
    · rename_i heq
      cases heq

/-- A colon inside a word is followed by another character of the word. -/
theorem startsBlank_of_holdsColon {front behind : List Char}
    (h : holdsColon (front ++ ':' :: behind) = false) : startsBlank behind = false := by
  have hcolon := holdsColon_append h
  rw [holdsColon, Bool.or_eq_false_iff] at hcolon
  exact hcolon.1

theorem startsBlank_append {front : List Char} (h : startsBlank front = false) (rest : List Char) :
    startsBlank (front ++ rest) = false := by
  cases front with
  | nil => cases h
  | cons d front => exact h

theorem PlainText.words {text : List Char} (h : PlainText text) : Words text := by
  obtain ⟨c, rest, rfl⟩ := List.exists_cons_of_ne_nil h.ne_nil
  have hplain := h.isPlain
  simp only [Yaml.isPlain, Bool.not_eq_true', Bool.or_eq_false_iff, decide_eq_false_iff_not,
    needsEscapes, hasNeighbours_eq_false_iff] at hplain
  obtain ⟨⟨⟨⟨⟨⟨hbreak, hfirst⟩, hlast⟩, ⟨hspecial, -⟩, -⟩, hsign⟩, hcolon⟩, hcomment⟩ := hplain
  refine ⟨List.cons_ne_nil _ _, fun d hd hgap => ?_, fun d hd => ?_, hlast, ?_, ?_⟩
  · have hprintable : isSpecial d = false := by
      simpa using List.any_eq_false.1 hspecial d hd
    have hline : isBreak d = false := by
      simpa using List.any_eq_false.1 hbreak d hd
    simp only [isGap, hline, Bool.or_false, isBlank, Bool.or_eq_true, decide_eq_true_eq] at hgap
    rcases hgap with rfl | rfl
    · rfl
    · exact absurd hprintable (by decide)
  · cases hd
    refine ⟨fun hspace => hfirst (congrArg some hspace), ?_⟩
    rintro rfl
    exact absurd hsign (by simp [startsWithSign])
  · by_cases hc : c = ':'
    · subst hc
      have hnext : startsBlank rest = false := by
        simpa [startsWithSign, Cursor.isFlowSign] using hsign
      rw [holdsColon, hnext]
      exact hcolon
    · rw [holdsColon]
      · exact hcolon
      · exact hc
  · simpa using hcomment

namespace Words

variable {text word more : List Char} {n : Nat}

/-- What is no space is no gap. -/
theorem isGap_eq (h : Words text) {d : Char} (hd : d ∈ text) (hspace : d ≠ ' ') :
    isGap d = false := by
  cases hgap : isGap d with
  | false => rfl
  | true => exact absurd (h.solid d hd hgap) hspace

theorem stopsGap (h : Words text) (rest : List Char) : StopsGap (text ++ rest) := by
  obtain ⟨d, tail, rfl⟩ := List.exists_cons_of_ne_nil h.ne_nil
  intro e he
  cases he
  exact h.isGap_eq List.mem_cons_self (h.head d rfl).1

/-- The first word, the spaces behind it, and the words behind these. -/
theorem exists_word (h : Words text) : ∃ word n more, text = word ++ (spaces n ++ more) ∧
    word ≠ [] ∧ (∀ d ∈ word, d ≠ ' ') ∧ (∀ d ∈ more.head?, d ≠ ' ') ∧ (n = 0 → more = []) := by
  obtain ⟨word, behind, rfl, hword, hbehind⟩ := Text.exists_span (fun d => decide (d ≠ ' ')) text
  obtain ⟨n, more, rfl, hmore⟩ := exists_spaces behind
  refine ⟨word, n, more, rfl, ?_, fun d hd => by simpa using hword d hd, hmore, ?_⟩
  · rintro rfl
    obtain ⟨d, tail, hcons⟩ := List.exists_cons_of_ne_nil h.ne_nil
    have hhead : d ∈ (spaces n ++ more).head? := by
      rw [← List.nil_append (spaces n ++ more), hcons]
      rfl
    exact (h.head d hhead).1 (by simpa using hbehind d hhead)
  · rintro rfl
    cases more with
    | nil => rfl
    | cons d more => exact absurd (by simpa using hbehind d rfl) (hmore d rfl)

theorem isWord (h : Words (word ++ (spaces n ++ more))) (hne : word ≠ [])
    (hword : ∀ d ∈ word, d ≠ ' ') (rest : List Char) :
    IsWord word (spaces n ++ (more ++ rest)) := by
  refine ⟨hne, fun d hd => h.isGap_eq (List.mem_append_left _ hd) (hword d hd), fun d hd => ?_,
    fun front after hfront => ?_⟩
  · refine (h.head d ?_).2
    obtain ⟨e, tail, rfl⟩ := List.exists_cons_of_ne_nil hne
    exact hd
  · have hcolon := h.colon
    rw [hfront, List.append_assoc, List.cons_append] at hcolon
    have hblank := startsBlank_append (startsBlank_of_holdsColon hcolon) rest
    rwa [List.append_assoc, List.append_assoc] at hblank

/-- Behind spaces more words follow. -/
theorem behind_spaces (h : Words (word ++ (spaces (n + 1) ++ more)))
    (hmore : ∀ d ∈ more.head?, d ≠ ' ') : Words more := by
  have hlast := h.last
  rw [← List.append_assoc] at hlast
  have hne : more ≠ [] := by
    rintro rfl
    refine hlast ?_
    have hspaces : spaces (n + 1) ≠ [] := List.cons_ne_nil ' ' _
    rw [List.append_nil, List.getLast?_append_of_ne_nil _ hspaces, getLast?_spaces_succ]
  obtain ⟨-, hchain, -⟩ := List.isChain_append.1 h.comment
  obtain ⟨-, hmoreChain, hjoin⟩ := List.isChain_append.1 hchain
  have hspace : ' ' ∈ (spaces (n + 1)).getLast? := getLast?_spaces_succ n
  refine ⟨hne, fun d hd => h.solid d (by simp [hd]), fun d hd => ⟨hmore d hd, ?_⟩, ?_,
    holdsColon_append (holdsColon_append h.colon), hmoreChain⟩
  · exact hjoin ' ' hspace d hd (by decide)
  · rwa [List.getLast?_append_of_ne_nil _ hne] at hlast

end Words

namespace Cursor

variable {c : Cursor} {d : Char} {start : Mark} {limit : Nat} {word rest : List Char}

theorem goesOn_cons (hd : isGap d = false) (hcolon : d = ':' → startsBlank rest = false) :
    goesOn false (d :: rest) = true := by
  have hend : (decide (d = ':') && startsBlank rest) = false := by
    by_cases hd : d = ':'
    · rw [hcolon hd, Bool.and_false]
    · rw [decide_eq_false hd, Bool.false_and]
  simp only [isGap] at hd
  simp only [goesOn, hd, hend, Bool.false_and, Bool.or_false, Bool.not_false]

/-- A word is read up to its end. -/
theorem plainRun_eq (hword : ∀ d ∈ word, isGap d = false)
    (hcolon : ∀ front behind, word = front ++ ':' :: behind → startsBlank (behind ++ rest) = false)
    (hstop : goesOn false rest = false) (h : c.rest = word ++ rest) (hlimit : word.length ≤ limit) :
    plainRun false start limit c = .ok (word, c.advance word.length) := by
  induction word generalizing c limit with
  | nil =>
    have hrest : c.rest = rest := h
    cases limit with
    | zero => rfl
    | succ limit =>
      rw [plainRun, hrest, hstop]
      rfl
  | cons d word ih =>
    rw [List.length_cons] at hlimit
    obtain ⟨limit, rfl⟩ : ∃ m, limit = m + 1 := ⟨limit - 1, by omega⟩
    have hd := hword d List.mem_cons_self
    have hbreak : isBreak d = false := by
      simp only [isGap, Bool.or_eq_false_iff] at hd
      exact hd.2
    have hgoes : goesOn false (d :: (word ++ rest)) = true :=
      goesOn_cons hd fun hd => hcolon [] word (by rw [hd]; rfl)
    have hnext := next_eq_advance h hbreak
    have hafter : (c.advance 1).rest = word ++ rest := by
      rw [rest_advance, h]
      rfl
    have hshort : word.length ≤ limit := by omega
    have hrun := ih (fun e he => hword e (List.mem_cons_of_mem _ he))
      (fun front behind hword => hcolon (d :: front) behind (by rw [hword]; rfl)) hafter hshort
    rw [plainRun, h]
    simp only [List.cons_append, hgoes, Bool.false_and, Bool.not_true, Bool.false_eq_true, if_false,
      hnext]
    rw [hrun, advance_advance, Nat.add_comm 1]
    rfl

/-- What may come behind a plain scalar: a colon and a blank, or the end of the line and a line that
is not deep enough. The last part tells whether the line has ended. -/
inductive EndsPlain (indent : Int) (c : Cursor) : Cursor → Bool → Prop
  | colon {rest : List Char} (h : c.rest = ':' :: rest) (hblank : startsBlank rest = true) :
      EndsPlain indent c c false
  | line {n : Nat} {rest : List Char} {after : Cursor} (h : c.rest = '\n' :: (spaces n ++ rest))
      (hindent : (after.column : Int) < indent)
      (hgap : c.gap = ({ breaks := ['\n'] }, after)) : EndsPlain indent c after true

/-- The end of the line behind a plain scalar. -/
theorem EndsPlain.of_line {indent : Int} {n : Nat} (hstop : StopsGap rest) (hn : (n : Int) < indent)
    (h : c.rest = '\n' :: (spaces n ++ rest)) :
    ∃ after, EndsPlain indent c after true ∧ after.rest = rest ∧ after.line = c.line + 1 ∧
      after.column = n := by
  have hbreaks : ∀ d ∈ ['\n'], isBreak d = true ∧ d ≠ '\r' :=
    List.forall_mem_singleton.2 (by decide)
  obtain ⟨after, hgap, hrest, hline, hcolumn⟩ :=
    gap_breaks (List.cons_ne_nil _ _) hbreaks hstop h
  exact ⟨after, .line h (by rw [hcolumn]; exact hn) hgap, hrest, hline, hcolumn⟩

theorem EndsPlain.goesOn_eq {indent : Int} {after : Cursor} {ended : Bool}
    (h : EndsPlain indent c after ended) : goesOn false c.rest = false := by
  cases h with
  | colon h hblank => rw [h, goesOn, hblank]; rfl
  | line h hindent hgap => rw [h]; rfl

/-- What is read of a plain scalar behind a word. -/
def behindWord (indent : Int) (start : Mark) (limit : Nat) (read : List Char) (c : Cursor) :
    Except SyntaxFault (List Char × Cursor × Bool) :=
  if !c.rest.head?.any isGap then .ok (read, c, false)
  else
    match c.gap.1.tabs.find? fun tab => (tab.column : Int) < indent with
    | some tab => .error (.broken .shallowTab tab (some (.plain, start)))
    | none =>
      if (c.gap.2.column : Int) < indent then .ok (read, c.gap.2, !c.gap.1.breaks.isEmpty)
      else
        (plainFrom false indent start limit c.gap.1 c.gap.2).map fun (more, last, ended) =>
          (read ++ more, last, ended)

theorem plainFrom_word {indent : Int} {pending : Gap} (hword : IsWord word rest)
    (hmarker : c.atDocumentMarker = false) (hstop : goesOn false rest = false)
    (h : c.rest = word ++ rest) (hpending : pending.breaks = []) :
    plainFrom false indent start (limit + 1) pending c =
      behindWord indent start limit (pending.blanks ++ word) (c.advance word.length) := by
  have hrun : plainRun false start c.rest.length c = .ok (word, c.advance word.length) :=
    plainRun_eq hword.solid hword.colon hstop h (by simp [h])
  obtain ⟨d, more, hcons⟩ := List.exists_cons_of_ne_nil hword.ne_nil
  have hcomment : c.rest.head? ≠ some '#' := by
    rw [h, hcons]
    exact fun heq => hword.comment d (by rw [hcons]; rfl) (Option.some.inj heq)
  have hnone : word.isEmpty = false := by rw [hcons]; rfl
  have hpendingText : pending.text = pending.blanks := by rw [Gap.text, hpending]
  rw [plainFrom, behindWord]
  simp only [hmarker, hcomment, decide_false, Bool.or_false, Bool.false_eq_true, if_false, hrun,
    bind, Except.bind, pure, Except.pure, hnone, hpendingText]
  cases hrest : (c.advance word.length).rest with
  | nil => rfl
  | cons d rest =>
    simp only [List.head?_cons, Option.any_some, isGap]
    by_cases hgap : (isBlank d || isBreak d) = true
    · simp only [hgap, Bool.not_true, Bool.false_eq_true, if_false]
      cases htab : (c.advance word.length).gap.1.tabs.find? fun tab =>
          decide ((tab.column : Int) < indent) with
      | some tab => rfl
      | none =>
        simp only [Bool.not_false, Bool.true_and, decide_eq_true_eq]
        split
        · rfl
        · cases plainFrom false indent start limit _ _ <;> rfl
    · rw [Bool.not_eq_true] at hgap
      simp only [hgap, Bool.not_false, if_true]

theorem behindWord_of_ends {indent : Int} {after : Cursor} {ended : Bool}
    (h : EndsPlain indent c after ended) (read : List Char) :
    behindWord indent start limit read c = .ok (read, after, ended) := by
  cases h with
  | colon h hblank => rw [behindWord, h]; rfl
  | line h hindent hgap =>
    rw [behindWord, h, hgap]
    exact if_pos hindent

/-- A plain scalar goes on behind spaces. -/
theorem behindWord_spaces {indent : Int} {n : Nat} (hn : n ≠ 0) (hstop : StopsGap rest)
    (h : c.rest = spaces n ++ rest) (hindent : indent ≤ c.column + n) (read : List Char) :
    behindWord indent start limit read c =
      (plainFrom false indent start limit { blanks := spaces n } (c.advance n)).map
        fun (more, last, ended) => (read ++ more, last, ended) := by
  obtain ⟨m, rfl⟩ : ∃ m, n = m + 1 := ⟨n - 1, by omega⟩
  have hdeep : ¬((c.advance (m + 1)).column : Int) < indent := by
    rw [column_advance]
    omega
  rw [behindWord, gap_spaces hstop h, h]
  exact if_neg hdeep

/-- **Plain scalars.** Words are read up to what may come behind them. -/
theorem plainFrom_eq {indent : Int} {text : List Char} {after : Cursor} {ended : Bool}
    {pending : Gap} (htext : Words text) (hmarker : c.atDocumentMarker = false)
    (hindent : indent ≤ c.column + 1) (h : c.rest = text ++ rest)
    (hend : EndsPlain indent (c.advance text.length) after ended) (hpending : pending.breaks = [])
    (hlimit : text.length ≤ limit) :
    plainFrom false indent start limit pending c = .ok (pending.blanks ++ text, after, ended) := by
  induction hlength : text.length using Nat.strongRecOn generalizing text c limit pending with
  | ind length ih =>
    obtain ⟨word, n, more, rfl, hne, hword, hmore, hnone⟩ := htext.exists_word
    have hsplit : c.rest = word ++ (spaces n ++ (more ++ rest)) := by simp [h]
    have hsum : length = word.length + (n + more.length) := by simp [← hlength]
    have hpos := List.length_pos_iff.2 hne
    obtain ⟨limit, rfl⟩ : ∃ m, limit = m + 1 := ⟨limit - 1, by omega⟩
    have hisWord := htext.isWord hne hword rest
    cases n with
    | zero =>
      -- A word that is not followed by a space is the last one.
      obtain rfl := hnone rfl
      have hwordText : word ++ (spaces 0 ++ []) = word := List.append_nil word
      rw [hwordText] at hend ⊢
      rw [plainFrom_word hisWord hmarker _ hsplit hpending, behindWord_of_ends hend]
      have hrest := rest_advance_length hsplit
      have hstop := hend.goesOn_eq
      rwa [hrest] at hstop
    | succ n =>
      have hmoreWords := htext.behind_spaces hmore
      have hafter : (c.advance word.length).rest = spaces (n + 1) ++ (more ++ rest) :=
        rest_advance_length hsplit
      have hmoreRest := rest_advance_length hafter
      rw [length_spaces] at hmoreRest
      have hcolumn : ((c.advance word.length).advance (n + 1)).column ≠ 0 := by
        simp only [column_advance]
        omega
      have hdeep : indent ≤ (c.advance word.length).column + (n + 1 : Nat) := by
        rw [column_advance]
        omega
      rw [plainFrom_word hisWord hmarker rfl hsplit hpending,
        behindWord_spaces (Nat.succ_ne_zero n) (hmoreWords.stopsGap rest) hafter hdeep,
        ih more.length (by omega) hmoreWords (atDocumentMarker_of_column hcolumn) _ hmoreRest _ rfl
          _ rfl]
      · simp [Except.map]
      · simp only [column_advance]
        omega
      · rw [advance_advance, advance_advance]
        convert hend using 2
        simp [Nat.add_assoc]
      · omega

/-- A text that can be written without quotes is no marker of a document. -/
theorem atMarker_of_plainText {text : List Char} {sign : Char} (htext : PlainText text)
    (hsign : sign = '-' ∨ sign = '.') (hrest : ∀ d ∈ rest.head?, d ≠ sign)
    (h : c.rest = text ++ rest) : c.atMarker sign = false := by
  have hstart : startsWithSign text = false := by
    have hplain := htext.isPlain
    simp only [Yaml.isPlain, Bool.not_eq_true', Bool.or_eq_false_iff] at hplain
    exact hplain.1.1.2
  have htake : c.rest.take 3 ≠ [sign, sign, sign] := by
    intro htake
    rw [h] at htake
    match text, htext.ne_nil with
    | [a], _ =>
      cases rest with
      | nil => cases htake
      | cons d rest =>
        obtain ⟨-, rfl, -⟩ : a = sign ∧ d = sign ∧ rest.take 1 = [sign] := by simpa using htake
        exact hrest d rfl rfl
    | [a, b], _ =>
      cases rest with
      | nil => cases htake
      | cons d rest =>
        obtain ⟨-, -, rfl⟩ : a = sign ∧ b = sign ∧ d = sign := by simpa using htake
        exact hrest d rfl rfl
    | a :: b :: e :: _, _ =>
      obtain ⟨rfl, rfl, rfl⟩ : a = sign ∧ b = sign ∧ e = sign := by simpa using htake
      rcases hsign with rfl | rfl <;> simp [startsWithSign] at hstart
  simp [atMarker, htake]

/-- A plain scalar is read up to its end. -/
theorem plain_eq {indent : Int} {text : List Char} {after : Cursor} {ended : Bool}
    (htext : PlainText text) (hindent : indent ≤ c.column + 1) (h : c.rest = text ++ rest)
    (hend : EndsPlain indent (c.advance text.length) after ended) :
    c.plain false indent = .ok (text, after, ended) := by
  have hrest : (c.advance text.length).rest = rest := rest_advance_length h
  have hmarker : c.atDocumentMarker = false := by
    have hsigns : ∀ sign, sign = '-' ∨ sign = '.' → ∀ d ∈ rest.head?, d ≠ sign := by
      rintro sign hsign d hd rfl
      cases hend with
      | colon h hblank =>
        rw [← hrest, h] at hd
        cases hd
        revert hsign
        decide
      | line h hindent hgap =>
        rw [← hrest, h] at hd
        cases hd
        revert hsign
        decide
    rw [atDocumentMarker, atMarker_of_plainText htext (.inl rfl) (hsigns _ (.inl rfl)) h,
      atMarker_of_plainText htext (.inr rfl) (hsigns _ (.inr rfl)) h]
    rfl
  have hlimit : text.length ≤ c.rest.length + 1 := by
    rw [h, List.length_append]
    omega
  exact plainFrom_eq htext.words hmarker hindent h hend rfl hlimit

end Cursor

end FieldAccess.Yaml
