import Mathlib.Data.Nat.Find
import FieldAccess.Proofs.Cleaning
import FieldAccess.Proofs.TypeBlocks

/-!
# Closing delimiters

The search for a closing delimiter keeps a depth and the state with respect to strings. What it
finds is said here without either: the first place at which the closing delimiters outside of
strings outnumber the opening ones. The text in front of that place closes all that it opens, and
nothing else. The bodies of the types of a document are such texts, one behind the other.

## Main definitions

* `occurrences` – how often a character stands outside of strings.
* `ExceedsAt`, `FirstExcess` – a place at which a closing delimiter is one too many, and the first.
* `BalancedDelimiters` – a text whose delimiters outside of strings close each other.
* `TypeBlock.LiesAt` – the body of a block starts at a place of the document.

## Main statements

* `length_splitClosingFrom_eq_some_iff` – the search ends at the first place that exceeds.
* `FirstExcess.balanced` – the text in front of that place is balanced.
* `exists_placed_typeBlocksFrom` – the blocks stand one behind the other.
* `closing_delimiter_exact` – the search and the blocks of a document.
-/

namespace FieldAccess.Schema

open Text

/-- The characters of a text that stand outside of strings, without the quotes around those. -/
def unquoted : QuoteState → List Char → List Char
  | _, [] => []
  | state, c :: rest =>
    (if state = .outside ∧ c ≠ '"' then [c] else []) ++ unquoted (state.after c) rest

/-- How often a character stands outside of strings in a text. -/
def occurrences (c : Char) (state : QuoteState) (text : List Char) : Nat :=
  (unquoted state text).count c

/-- At a place of a text a closing delimiter stands outside of strings, and up to it there are more
closing delimiters than opening ones, where `depth` more are open in front of the text. -/
structure ExceedsAt (opening closing : Char) (depth : Nat) (state : QuoteState) (text : List Char)
    (place : Nat) : Prop where
  isClosing : text[place]? = some closing
  isOutside : state.behind (text.take place) = .outside
  exceeds : depth + occurrences opening state (text.take (place + 1)) <
    occurrences closing state (text.take (place + 1))

/-- The first place of that kind. -/
structure FirstExcess (opening closing : Char) (depth : Nat) (state : QuoteState)
    (text : List Char) (place : Nat) : Prop where
  exceedsAt : ExceedsAt opening closing depth state text place
  first : ∀ earlier < place, ¬ExceedsAt opening closing depth state text earlier

/-- A text that ends outside of strings and whose delimiters close each other: there are as many of
both kinds, and never more closing ones on the way. -/
structure BalancedDelimiters (opening closing : Char) (text : List Char) : Prop where
  isOutside : QuoteState.behind .outside text = .outside
  same : occurrences closing .outside text = occurrences opening .outside text
  le : ∀ front, front <+: text →
    occurrences closing .outside front ≤ occurrences opening .outside front

section Search

variable {opening closing c : Char} {depth depth' place : Nat} {state state' : QuoteState}
  {text rest body after : List Char}

theorem occurrences_cons (delimiter c : Char) (state : QuoteState) (rest : List Char) :
    occurrences delimiter state (c :: rest) =
      (if state = .outside ∧ c ≠ '"' ∧ c = delimiter then 1 else 0) +
        occurrences delimiter (state.after c) rest := by
  rw [occurrences, unquoted, List.count_append, occurrences]
  by_cases houtside : state = .outside ∧ c ≠ '"'
  · rw [if_pos houtside]
    by_cases hc : c = delimiter
    · rw [if_pos ⟨houtside.1, houtside.2, hc⟩, hc, List.count_singleton_self]
    · rw [if_neg fun h => hc h.2.2, List.count_singleton, if_neg (by simpa using hc)]
  · have hne : ¬(state = .outside ∧ c ≠ '"' ∧ c = delimiter) := fun h => houtside ⟨h.1, h.2.1⟩
    rw [if_neg houtside, if_neg hne, List.count_nil]

theorem occurrences_append (delimiter : Char) (state : QuoteState) (text rest : List Char) :
    occurrences delimiter state (text ++ rest) =
      occurrences delimiter state text + occurrences delimiter (state.behind text) rest := by
  induction text generalizing state with
  | nil => simp [occurrences, unquoted, QuoteState.behind]
  | cons c text ih =>
    rw [List.cons_append, occurrences_cons, ih, occurrences_cons, Nat.add_assoc]
    rfl

theorem occurrences_singleton (delimiter c : Char) (state : QuoteState) :
    occurrences delimiter state [c] =
      if state = .outside ∧ c ≠ '"' ∧ c = delimiter then 1 else 0 := by
  rw [occurrences_cons]
  rfl

/-- The first character is one too many if it is a closing delimiter and nothing is open. -/
theorem exceedsAt_zero_iff :
    ExceedsAt opening closing depth state (c :: rest) 0 ↔
      (state = .outside ∧ c ≠ '"' ∧ c = closing) ∧ c ≠ opening ∧ depth = 0 := by
  have htake : (c :: rest).take (0 + 1) = [c] := rfl
  constructor
  · rintro ⟨hclosing, houtside, hexceeds⟩
    rw [htake, occurrences_singleton, occurrences_singleton] at hexceeds
    split at hexceeds
    · split at hexceeds <;> omega
    · rename_i hopening
      split at hexceeds
      · rename_i h
        exact ⟨h, fun heq => hopening ⟨h.1, h.2.1, heq⟩, by omega⟩
      · omega
  · rintro ⟨⟨rfl, hquote, rfl⟩, hne, rfl⟩
    refine ⟨rfl, rfl, ?_⟩
    rw [htake, occurrences_singleton, occurrences_singleton, if_neg fun h => hne h.2.2,
      if_pos ⟨rfl, hquote, rfl⟩]
    exact Nat.one_pos

/-- Behind the first character the depth and the state are others. -/
theorem exceedsAt_succ_iff
    (h : depth' + (if state = .outside ∧ c ≠ '"' ∧ c = closing then 1 else 0) =
      depth + if state = .outside ∧ c ≠ '"' ∧ c = opening then 1 else 0) :
    ExceedsAt opening closing depth state (c :: rest) (place + 1) ↔
      ExceedsAt opening closing depth' (state.after c) rest place := by
  have hexceeds : depth + occurrences opening state ((c :: rest).take (place + 1 + 1)) <
        occurrences closing state ((c :: rest).take (place + 1 + 1)) ↔
      depth' + occurrences opening (state.after c) (rest.take (place + 1)) <
        occurrences closing (state.after c) (rest.take (place + 1)) := by
    rw [List.take_succ_cons, occurrences_cons, occurrences_cons]
    omega
  constructor
  · rintro ⟨hclosing, houtside, hexceeds'⟩
    exact ⟨hclosing, houtside, hexceeds.1 hexceeds'⟩
  · rintro ⟨hclosing, houtside, hexceeds'⟩
    exact ⟨hclosing, houtside, hexceeds.2 hexceeds'⟩

theorem firstExcess_zero_iff :
    FirstExcess opening closing depth state text 0 ↔ ExceedsAt opening closing depth state text 0 :=
  ⟨fun h => h.exceedsAt, fun h => ⟨h, fun _ hlt => absurd hlt (Nat.not_lt_zero _)⟩⟩

theorem firstExcess_succ_iff
    (hzero : ¬ExceedsAt opening closing depth state (c :: rest) 0)
    (hsucc : ∀ place, ExceedsAt opening closing depth state (c :: rest) (place + 1) ↔
      ExceedsAt opening closing depth' state' rest place) :
    FirstExcess opening closing depth state (c :: rest) (place + 1) ↔
      FirstExcess opening closing depth' state' rest place := by
  constructor
  · rintro ⟨hexceeds, hfirst⟩
    exact ⟨(hsucc place).1 hexceeds,
      fun earlier hlt h => hfirst (earlier + 1) (by omega) ((hsucc earlier).2 h)⟩
  · rintro ⟨hexceeds, hfirst⟩
    refine ⟨(hsucc place).2 hexceeds, fun earlier hlt h => ?_⟩
    cases earlier with
    | zero => exact hzero h
    | succ earlier => exact hfirst earlier (by omega) ((hsucc earlier).1 h)

/-- **The search.** It ends at the first place at which a closing delimiter is one too many. -/
theorem length_splitClosingFrom_eq_some_iff (hne : opening ≠ closing) :
    (splitClosingFrom opening closing depth state text).map (fun parts => parts.1.length) =
        some place ↔
      FirstExcess opening closing depth state text place := by
  -- The depth and the state say all about the characters that are already passed.
  induction text generalizing depth state place with
  | nil =>
    refine iff_of_false (by simp [splitClosingFrom]) fun h => ?_
    simpa using h.exceedsAt.isClosing
  | cons c rest ih =>
    have step : ∀ {depth' : Nat},
        depth' + (if state = .outside ∧ c ≠ '"' ∧ c = closing then 1 else 0) =
          depth + (if state = .outside ∧ c ≠ '"' ∧ c = opening then 1 else 0) →
        ¬ExceedsAt opening closing depth state (c :: rest) 0 →
        (((splitClosingFrom opening closing depth' (state.after c) rest).map (prepend c)).map
            (fun parts => parts.1.length) = some place ↔
          FirstExcess opening closing depth state (c :: rest) place) := by
      intro depth' hdepth hzero
      have hlength : ((splitClosingFrom opening closing depth' (state.after c) rest).map
            (prepend c)).map (fun parts => parts.1.length) =
          ((splitClosingFrom opening closing depth' (state.after c) rest).map
            fun parts => parts.1.length).map (· + 1) := by
        rw [Option.map_map, Option.map_map]
        rfl
      rw [hlength]
      cases place with
      | zero =>
        refine iff_of_false ?_ fun h => hzero h.exceedsAt
        simp
      | succ place =>
        rw [firstExcess_succ_iff hzero fun place => exceedsAt_succ_iff hdepth, ← ih]
        simp
    have hafter : ∀ {delimiter}, state = .outside ∧ c ≠ '"' ∧ c = delimiter →
        state.after c = .outside := by
      rintro delimiter ⟨rfl, hquote, -⟩
      exact if_neg hquote
    unfold splitClosingFrom
    by_cases hopening : state = .outside ∧ c ≠ '"' ∧ c = opening
    · have hclosing : ¬(state = .outside ∧ c ≠ '"' ∧ c = closing) := fun h =>
        hne (hopening.2.2.symm.trans h.2.2)
      rw [if_pos hopening, ← hafter hopening]
      exact step (by rw [if_pos hopening, if_neg hclosing]) fun h =>
        hclosing (exceedsAt_zero_iff.1 h).1
    · rw [if_neg hopening]
      by_cases hclosing : state = .outside ∧ c ≠ '"' ∧ c = closing
      · rw [if_pos hclosing]
        cases depth with
        | zero =>
          have hzero : ExceedsAt opening closing 0 state (c :: rest) 0 :=
            exceedsAt_zero_iff.2 ⟨hclosing, fun h => hne (h.symm.trans hclosing.2.2), rfl⟩
          cases place with
          | zero => exact iff_of_true rfl (firstExcess_zero_iff.2 hzero)
          | succ place =>
            exact iff_of_false (by simp) fun h => h.first 0 (Nat.succ_pos _) hzero
        | succ depth =>
          dsimp only
          rw [← hafter hclosing]
          refine step (by rw [if_neg hopening, if_pos hclosing]) fun h => ?_
          exact absurd (exceedsAt_zero_iff.1 h).2.2 (Nat.succ_ne_zero _)
      · rw [if_neg hclosing]
        refine step (by rw [if_neg hopening, if_neg hclosing]) fun h => ?_
        exact hclosing (exceedsAt_zero_iff.1 h).1

/-- The text in front of the delimiter and the text behind it. -/
theorem splitClosing?_eq_some_iff (hne : opening ≠ closing) :
    splitClosing? opening closing text = some (body, after) ↔
      text = body ++ closing :: after ∧
        FirstExcess opening closing 0 .outside text body.length := by
  rw [splitClosing?, ← length_splitClosingFrom_eq_some_iff hne]
  constructor
  · intro h
    exact ⟨eq_append_of_splitClosingFrom h, by rw [h, Option.map_some]⟩
  · rintro ⟨htext, h⟩
    obtain ⟨⟨body', after'⟩, hfound, hlength⟩ := Option.map_eq_some_iff.1 h
    obtain ⟨rfl, hafter⟩ :=
      List.append_inj (htext.symm.trans (eq_append_of_splitClosingFrom hfound)) hlength.symm
    rw [hfound, (List.cons.inj hafter).2]

theorem splitClosing?_eq_none_iff (hne : opening ≠ closing) :
    splitClosing? opening closing text = none ↔
      ∀ place, ¬ExceedsAt opening closing 0 .outside text place := by
  classical
  have hfirst : (∃ place, ExceedsAt opening closing 0 .outside text place) ↔
      ∃ place, FirstExcess opening closing 0 .outside text place := by
    refine ⟨fun h => ?_, fun ⟨place, h⟩ => ⟨place, h.exceedsAt⟩⟩
    exact ⟨Nat.find h, Nat.find_spec h, fun earlier hlt => Nat.find_min h hlt⟩
  rw [← not_exists, hfirst]
  simp only [← length_splitClosingFrom_eq_some_iff hne, splitClosing?]
  cases splitClosingFrom opening closing 0 .outside text <;> simp

theorem occurrences_take_succ (delimiter : Char) {n : Nat} (hn : n < text.length) :
    occurrences delimiter .outside (text.take (n + 1)) =
      occurrences delimiter .outside (text.take n) +
        if QuoteState.behind .outside (text.take n) = .outside ∧ text[n] ≠ '"' ∧
          text[n] = delimiter then 1 else 0 := by
  rw [List.take_succ_eq_append_getElem hn, occurrences_append, occurrences_singleton]

/-- Up to the first place that exceeds, what is closed was open. -/
theorem FirstExcess.occurrences_le (h : FirstExcess opening closing 0 .outside text place) {n : Nat}
    (hn : n ≤ place) :
    occurrences closing .outside (text.take n) ≤ occurrences opening .outside (text.take n) := by
  have hlength : place < text.length := (List.getElem?_eq_some_iff.1 h.exceedsAt.isClosing).1
  induction n with
  | zero => exact le_rfl
  | succ n ih =>
    have hlt : n < text.length := by omega
    by_cases hclosing : QuoteState.behind .outside (text.take n) = .outside ∧ text[n] ≠ '"' ∧
        text[n] = closing
    · by_contra hexceeds
      -- The delimiter would be one too many before the first one that is.
      refine h.first n hn ⟨?_, hclosing.1, by omega⟩
      rw [List.getElem?_eq_getElem hlt, hclosing.2.2]
    · have hle := ih (by omega)
      rw [occurrences_take_succ closing hlt, if_neg hclosing, occurrences_take_succ opening hlt]
      omega

/-- What stands in front of the first closing delimiter that is one too many is balanced. -/
theorem FirstExcess.balanced (h : FirstExcess opening closing 0 .outside text place) :
    BalancedDelimiters opening closing (text.take place) where
  isOutside := h.exceedsAt.isOutside
  same := by
    have hlength : place < text.length := (List.getElem?_eq_some_iff.1 h.exceedsAt.isClosing).1
    have hexceeds := h.exceedsAt.exceeds
    have hle := h.occurrences_le le_rfl
    rw [occurrences_take_succ closing hlength, occurrences_take_succ opening hlength] at hexceeds
    split at hexceeds <;> split at hexceeds <;> omega
  le front hfront := by
    rw [List.prefix_iff_eq_take.1 hfront, List.take_take]
    exact h.occurrences_le (min_le_right _ _)

end Search

/-- A block of a document whose body starts at a place: a header ends in front of it, with the
opening brace, and behind the body its closing brace follows. -/
structure TypeBlock.LiesAt (document : List Char) (start : Nat) (block : TypeBlock) : Prop where
  header : header? (document.drop block.position) = some (block.name, document.drop start)
  position_lt : block.position < start
  opened : document[start - 1]? = some '\x7b'
  closed : document.drop start =
    block.body ++ '\x7d' :: document.drop (start + block.body.length + 1)
  balanced : BalancedDelimiters '\x7b' '\x7d' block.body

section Blocks

variable {document name rest body after : List Char} {position start : Nat}

/-- **One round.** The next block starts behind the place where the search for it begins, and the
search for the one after it begins behind its closing brace. -/
theorem liesAt_of_findHeader?
    (hheader : findHeader? position false (document.drop position) = some (start, name, rest))
    (hsplit : splitClosing? '\x7b' '\x7d' rest = some (body, after)) :
    let block : TypeBlock := { position := start, name, body }
    let bodyStart := document.length - rest.length
    position ≤ start ∧ block.LiesAt document bodyStart ∧
      position + ((document.drop position).length - after.length) =
        bodyStart + body.length + 1 ∧
      after = document.drop (bodyStart + body.length + 1) := by
  intro block bodyStart
  obtain ⟨distance, hstart, hfound⟩ := header?_of_findHeader? hheader
  rw [List.drop_drop, ← hstart] at hfound
  have hopened : '\x7b' :: rest <:+ document.drop start := suffix_of_header? hfound
  have hrest : '\x7b' :: rest <:+ document := hopened.trans (List.drop_suffix _ _)
  have hlength := hopened.length_le
  rw [List.length_cons, List.length_drop] at hlength
  have hdrop : document.drop bodyStart = rest :=
    (List.suffix_iff_eq_drop.1 ((List.suffix_cons _ _).trans hrest)).symm
  have htext : rest = body ++ '\x7d' :: after := eq_append_of_splitClosingFrom hsplit
  have hafter : after = document.drop (bodyStart + body.length + 1) := by
    rw [Nat.add_assoc, ← List.drop_drop, hdrop, htext, List.drop_append]
    simp
  have hparts : rest.length = body.length + (after.length + 1) := by
    rw [htext, List.length_append, List.length_cons]
  have hbalanced : BalancedDelimiters '\x7b' '\x7d' body := by
    have hfirst := ((splitClosing?_eq_some_iff (by decide)).1 hsplit).2.balanced
    rwa [htext, List.take_left] at hfirst
  refine ⟨by omega, ⟨?_, ?_, ?_, ?_, hbalanced⟩, ?_, hafter⟩
  · rw [hdrop]
    exact hfound
  · change start < document.length - rest.length
    omega
  · have hdrop' := List.suffix_iff_eq_drop.1 hrest
    rw [List.length_cons, ← Nat.sub_sub] at hdrop'
    rw [← List.head?_drop, ← hdrop', List.head?_cons]
  · change document.drop bodyStart = body ++ '\x7d' :: document.drop (bodyStart + body.length + 1)
    rw [hdrop, ← hafter, htext]
  · rw [List.length_drop]
    omega

/-- **All rounds.** Each block begins behind the closing brace of the one before. -/
theorem exists_placed_typeBlocksFrom (document : List Char) (fuel position : Nat) :
    ∃ placed : List (Nat × TypeBlock),
      placed.map Prod.snd = typeBlocksFrom fuel position (document.drop position) ∧
        (∀ entry ∈ placed, position ≤ entry.2.position ∧ entry.2.LiesAt document entry.1) ∧
        placed.Pairwise fun earlier later =>
          earlier.1 + earlier.2.body.length < later.2.position := by
  induction fuel generalizing position with
  | zero => exact ⟨[], rfl, by simp, .nil⟩
  | succ fuel ih =>
    unfold typeBlocksFrom
    cases hheader : findHeader? position false (document.drop position) with
    | none => exact ⟨[], rfl, by simp, .nil⟩
    | some found =>
      obtain ⟨start, name, rest⟩ := found
      dsimp only
      cases hsplit : splitClosing? '\x7b' '\x7d' rest with
      | none => exact ⟨[], rfl, by simp, .nil⟩
      | some parts =>
        obtain ⟨body, after⟩ := parts
        obtain ⟨hposition, hlies, hnext, hafter⟩ := liesAt_of_findHeader? hheader hsplit
        dsimp only
        rw [hnext, hafter]
        obtain ⟨placed, hblocks, hplaced, hordered⟩ :=
          ih (document.length - rest.length + body.length + 1)
        have hlt := hlies.position_lt
        refine ⟨(document.length - rest.length, { position := start, name, body }) :: placed,
          by rw [List.map_cons, hblocks], ?_, List.pairwise_cons.2 ⟨?_, hordered⟩⟩
        · intro entry hentry
          rcases List.mem_cons.1 hentry with rfl | hmem
          · exact ⟨hposition, hlies⟩
          · have hbehind := (hplaced entry hmem).1
            exact ⟨by omega, (hplaced entry hmem).2⟩
        · intro later hlater
          exact (hplaced later hlater).1

end Blocks

/-- **Closing delimiters.** For two different delimiters and every text: the search splits the text
at the first place at which a closing delimiter outside of strings makes the closing ones more than
the opening ones, it fails only if there is no such place, and the text in front of the place is
balanced. In every document the bodies of the blocks stand one behind the other, each of them
balanced, behind the brace of its header and in front of its closing brace; and the search for
blocks ends after as many rounds as there are closing braces, since each round passes one. -/
theorem closing_delimiter_exact {opening closing : Char} (hne : opening ≠ closing)
    (text document : List Char) :
    (∀ body after, splitClosing? opening closing text = some (body, after) ↔
        text = body ++ closing :: after ∧
          FirstExcess opening closing 0 .outside text body.length) ∧
      (splitClosing? opening closing text = none ↔
        ∀ place, ¬ExceedsAt opening closing 0 .outside text place) ∧
      (∀ body after, splitClosing? opening closing text = some (body, after) →
        BalancedDelimiters opening closing body) ∧
      (∃ placed : List (Nat × TypeBlock), placed.map Prod.snd = typeBlocks document ∧
        (∀ entry ∈ placed, entry.2.LiesAt document entry.1) ∧
        placed.Pairwise fun earlier later =>
          earlier.1 + earlier.2.body.length < later.2.position) ∧
      ∀ fuel, document.count '\x7d' ≤ fuel →
        typeBlocksFrom fuel 0 document = typeBlocks document := by
  refine ⟨fun body after => splitClosing?_eq_some_iff hne, splitClosing?_eq_none_iff hne,
    fun body after hfound => ?_, ?_, fun fuel hfuel => typeBlocksFrom_zero hfuel⟩
  · obtain ⟨htext, hfirst⟩ := (splitClosing?_eq_some_iff hne).1 hfound
    have hbalanced := hfirst.balanced
    rwa [htext, List.take_left] at hbalanced
  · obtain ⟨placed, hblocks, hplaced, hordered⟩ :=
      exists_placed_typeBlocksFrom document document.length 0
    exact ⟨placed, hblocks, fun entry hentry => (hplaced entry hentry).2, hordered⟩

/-- Parentheses and braces inside of strings are passed over. -/
theorem closing_delimiter_exact_description :
    let line := "value: \"Photo :) \\\" (JPEG)\") @owner".toList
    let document := "type A \x7b\na: S @description(value: \"\x7d\")\n\x7d\ntype B \x7b \x7d".toList
    '(' ≠ ')' ∧
      splitClosing? '(' ')' line =
        some ("value: \"Photo :) \\\" (JPEG)\"".toList, " @owner".toList) ∧
      BalancedDelimiters '(' ')' "value: \"Photo :) \\\" (JPEG)\"".toList ∧
      (typeBlocks document).length = 2 ∧ typeBlocksFrom 3 0 document = typeBlocks document := by
  intro line document
  have hsplit : splitClosing? '(' ')' line =
      some ("value: \"Photo :) \\\" (JPEG)\"".toList, " @owner".toList) := by decide +kernel
  obtain ⟨-, -, hbalanced, -, hrounds⟩ :=
    closing_delimiter_exact (by decide : '(' ≠ ')') line document
  exact ⟨by decide, hsplit, hbalanced _ _ hsplit, by decide +kernel,
    hrounds 3 (by decide +kernel)⟩

end FieldAccess.Schema
