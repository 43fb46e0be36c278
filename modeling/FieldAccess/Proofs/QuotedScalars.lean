import FieldAccess.Proofs.Gaps

/-!
# Quoted scalars

A text is read back from its quotes. What stands between them is made of runs of spaces, of line
ends that stand for themselves, with the spaces at the start of the line behind them, and of signs,
each of which stands for one character: the character itself, a quote that is written twice, or a
backslash with a letter or with the number of the character.

## Main definitions

* `Sign`, `Quoted` – what is written between quotes, with the text that it stands for.
* `Separated` – texts that single quotes can hold.

## Main statements

* `Cursor.quoted_eq` – what is written between quotes is read back.
* `quoted_doubleQuoted`, `quoted_singleBody` – texts are written between both kinds of quotes.
-/

namespace FieldAccess.Yaml

/-! ### What is written between quotes -/

/-- Signs between quotes, each with the character that it stands for. -/
inductive Sign (quote : Char) : List Char → Char → Prop
  | char {d : Char} (hgap : isGap d = false) (hquote : d ≠ quote)
      (hescape : quote = '"' → d ≠ '\\') : Sign quote [d] d
  | doubled (hquote : quote = '\'') : Sign quote ['\'', '\''] '\''
  | letter {letter d : Char} (hquote : quote = '"') (hbreak : isBreak letter = false)
      (hcode : Cursor.codeLength? letter = none) (hletter : Cursor.escaped? letter = some d) :
      Sign quote ['\\', letter] d
  | code {letter d : Char} {digits : List Char} (hquote : quote = '"')
      (hbreak : isBreak letter = false) (hcode : Cursor.codeLength? letter = some digits.length)
      (hdigits : ∀ rest, Cursor.codeChar digits.length (digits ++ rest) = .ok d) :
      Sign quote ('\\' :: letter :: digits) d

/-- The line ends that stand for themselves. -/
def isSeparator (d : Char) : Bool := d = '\u2028' || d = '\u2029'

/-- What is written between quotes, in lines with `indent` spaces at their start, and the text that
it stands for. -/
inductive Quoted (quote : Char) (indent : Nat) : List Char → List Char → Prop
  | nil : Quoted quote indent [] []
  | sign {seq written text : List Char} {d : Char} (hsign : Sign quote seq d)
      (h : Quoted quote indent written text) : Quoted quote indent (seq ++ written) (d :: text)
  | spaces {n : Nat} {written text : List Char} (hn : n ≠ 0) (hstop : StopsGap written)
      (h : Quoted quote indent written text) :
      Quoted quote indent (spaces n ++ written) (spaces n ++ text)
  | breaks {breaks written text : List Char} (hne : breaks ≠ [])
      (hbreaks : ∀ d ∈ breaks, isSeparator d = true) (hstop : StopsGap written)
      (h : Quoted quote indent written text) :
      Quoted quote indent (breaks ++ (Yaml.spaces indent ++ written)) (breaks ++ text)

theorem Sign.length_pos {quote d : Char} {seq : List Char} (h : Sign quote seq d) :
    0 < seq.length := by
  cases h <;> exact Nat.succ_pos _

theorem isBreak_of_isSeparator {d : Char} (h : isSeparator d = true) :
    isBreak d = true ∧ d ≠ '\r' ∧ d ≠ '\n' ∧ breakText d = d := by
  simp only [isSeparator, Bool.or_eq_true, decide_eq_true_eq] at h
  rcases h with rfl | rfl <;> decide

/-- Line ends that stand for themselves are read as what they are. -/
theorem text_separators {breaks : List Char} (hne : breaks ≠ [])
    (hbreaks : ∀ d ∈ breaks, isSeparator d = true) :
    ({ breaks := breaks.map breakText } : Gap).text = breaks := by
  have hmap : breaks.map breakText = breaks :=
    (List.map_congr_left fun d hd => (isBreak_of_isSeparator (hbreaks d hd)).2.2.2).trans
      (List.map_id breaks)
  obtain ⟨d, more, rfl⟩ := List.exists_cons_of_ne_nil hne
  have hd := (isBreak_of_isSeparator (hbreaks d List.mem_cons_self)).2.2.1
  rw [hmap, Gap.text]
  split
  · rename_i heq
    cases heq
  · rename_i heq
    cases heq
    exact absurd rfl hd
  · rename_i heq
    cases heq
    exact absurd rfl hd
  · rfl

namespace Cursor

variable {c : Cursor} {quote d : Char} {start : Mark} {limit : Nat} {seq rest : List Char}

/-- A sign is read as the character that it stands for. -/
theorem quotedFrom_sign (hsign : Sign quote seq d) (hcolumn : c.column ≠ 0)
    (h : c.rest = seq ++ rest) :
    quotedFrom quote start (limit + 1) c =
      (quotedFrom quote start limit (c.advance seq.length)).map fun (text, last) =>
        (d :: text, last) := by
  have hmap : ∀ (d : Char) (result : Except SyntaxFault (List Char × Cursor)),
      (result >>= fun (text, last) => pure (d :: text, last)) =
        result.map fun (text, last) => (d :: text, last) := fun d result => by
    cases result <;> rfl
  rw [quotedFrom, atDocumentMarker_of_column hcolumn, if_neg (by decide), h]
  cases hsign with
  | char hgap hquote hescape =>
    have hbreak : isBreak d = false := by
      simp only [isGap, Bool.or_eq_false_iff] at hgap
      exact hgap.2
    have hdoubled : ¬(quote = '\'' ∧ d = '\'') := by
      rintro ⟨rfl, rfl⟩
      exact hquote rfl
    have hletter : ¬(quote = '"' ∧ d = '\\') := fun hboth => hescape hboth.1 hboth.2
    rw [← hmap]
    simp only [isGap] at hgap
    simp [hgap, hquote, hdoubled, hletter, next_eq_advance h hbreak]
  | doubled hquote =>
    rw [← hmap]
    simp [hquote, isBlank, isBreak]
  | letter hquote hbreak hcode hletter =>
    rw [← hmap]
    simp [hquote, hbreak, hcode, hletter, isBlank, show isBreak '\\' = false from by decide]
  | code hquote hbreak hcode hdigits =>
    rw [← hmap]
    simp [hquote, hbreak, hcode, hdigits, isBlank, show isBreak '\\' = false from by decide,
      Nat.add_comm 2]

/-- A gap between quotes is read as what it stands for. -/
theorem quotedFrom_gap {gap : Gap} {after : Cursor} (hcolumn : c.column ≠ 0)
    (hstop : ¬StopsGap c.rest) (hgap : c.gap = (gap, after)) :
    quotedFrom quote start (limit + 1) c =
      (quotedFrom quote start limit after).map fun (text, last) => (gap.text ++ text, last) := by
  obtain ⟨d, hd, hdgap⟩ : ∃ d ∈ c.rest.head?, isGap d = true := by
    simpa [StopsGap] using hstop
  obtain ⟨rest, hrest⟩ : ∃ rest, c.rest = d :: rest := by
    cases hrest : c.rest with
    | nil =>
      rw [hrest] at hd
      cases hd
    | cons e rest =>
      rw [hrest] at hd
      cases hd
      exact ⟨rest, rfl⟩
  simp only [isGap] at hdgap
  rw [quotedFrom, atDocumentMarker_of_column hcolumn, if_neg (by decide), hrest]
  simp only [hdgap, if_true, hgap]
  cases quotedFrom quote start limit after <;> rfl

/-- **Quoted scalars.** What is written between quotes is read as the text that it stands for. -/
theorem quotedFrom_eq {indent : Nat} {written text : List Char}
    (h : Quoted quote indent written text) (hindent : indent ≠ 0)
    (hquote : isGap quote = false) (hstop : quote = '\'' → rest.head? ≠ some '\'')
    (hcolumn : c.column ≠ 0) (hrest : c.rest = written ++ quote :: rest)
    (hlimit : written.length < limit) :
    ∃ after, quotedFrom quote start limit c = .ok (text, after) ∧ after.rest = rest ∧
      c.line ≤ after.line ∧
      ((∀ d ∈ written, isBreak d = false) → after = c.advance (written.length + 1)) := by
  induction h generalizing c limit with
  | nil =>
    obtain ⟨limit, rfl⟩ : ∃ m, limit = m + 1 := ⟨limit - 1, by omega⟩
    have hbreak : isBreak quote = false := by
      simp only [isGap, Bool.or_eq_false_iff] at hquote
      exact hquote.2
    have hnext := next_eq_advance hrest hbreak
    have hdoubled : ¬(quote = '\'' ∧ rest.head? = some '\'') := fun hboth => hstop hboth.1 hboth.2
    simp only [isGap] at hquote
    refine ⟨c.next, ?_, ?_, ?_, fun _ => hnext⟩
    · rw [quotedFrom, atDocumentMarker_of_column hcolumn, if_neg (by decide), hrest]
      simp [hquote, hdoubled]
    · rw [hnext, rest_advance, hrest]
      rfl
    · rw [hnext]
      exact Nat.le_refl _
  | @sign seq written text d hsign h ih =>
    have hpos := hsign.length_pos
    have hlength : (seq ++ written).length = seq.length + written.length := List.length_append
    obtain ⟨limit, rfl⟩ : ∃ m, limit = m + 1 := ⟨limit - 1, by omega⟩
    have hless : written.length < limit := by omega
    have hsplit : c.rest = seq ++ (written ++ quote :: rest) := by rw [hrest, List.append_assoc]
    have hnext : (c.advance seq.length).column ≠ 0 := by
      rw [column_advance]
      omega
    obtain ⟨after, hread, hafter, hline, hmoved⟩ := ih hnext (rest_advance_length hsplit) hless
    refine ⟨after, ?_, hafter, hline, fun hbreaks => ?_⟩
    · rw [quotedFrom_sign hsign hcolumn hsplit, hread]
      rfl
    · rw [hmoved fun d hd => hbreaks d (List.mem_append_right _ hd), advance_advance, hlength,
        Nat.add_assoc]
  | @spaces n written text hn hstop h ih =>
    have hlength : (spaces n ++ written).length = n + written.length := by simp
    obtain ⟨limit, rfl⟩ : ∃ m, limit = m + 1 := ⟨limit - 1, by omega⟩
    have hless : written.length < limit := by omega
    have hsplit : c.rest = spaces n ++ (written ++ quote :: rest) := by
      rw [hrest, List.append_assoc]
    have hspaces := rest_advance_length hsplit
    rw [length_spaces] at hspaces
    have hnext : (c.advance n).column ≠ 0 := by
      rw [column_advance]
      omega
    have hgap : ¬StopsGap c.rest := by
      obtain ⟨m, rfl⟩ : ∃ m, n = m + 1 := ⟨n - 1, by omega⟩
      rw [hsplit]
      exact not_stopsGap (by decide) _
    obtain ⟨after, hread, hafter, hline, hmoved⟩ := ih hnext hspaces hless
    refine ⟨after, ?_, hafter, hline, fun hbreaks => ?_⟩
    · rw [quotedFrom_gap hcolumn hgap
        (gap_spaces (StopsGap.append_cons hstop hquote rest) hsplit), hread]
      rfl
    · rw [hmoved fun d hd => hbreaks d (List.mem_append_right _ hd), advance_advance, hlength,
        Nat.add_assoc]
  | @breaks breaks written text hne hbreaks hstop h ih =>
    have hlength : (breaks ++ (spaces indent ++ written)).length =
        breaks.length + (indent + written.length) := by simp
    obtain ⟨limit, rfl⟩ : ∃ m, limit = m + 1 := ⟨limit - 1, by omega⟩
    have hless : written.length < limit := by omega
    have hsplit : c.rest = breaks ++ (spaces indent ++ (written ++ quote :: rest)) := by
      rw [hrest, List.append_assoc, List.append_assoc]
    have hends : ∀ d ∈ breaks, isBreak d = true ∧ d ≠ '\r' := fun d hd =>
      have hd := isBreak_of_isSeparator (hbreaks d hd)
      ⟨hd.1, hd.2.1⟩
    obtain ⟨d, more, hcons⟩ := List.exists_cons_of_ne_nil hne
    have hd := (hends d (hcons ▸ List.mem_cons_self)).1
    have hgap : ¬StopsGap c.rest := by
      rw [hsplit, hcons]
      exact not_stopsGap (by simp [isGap, hd]) _
    obtain ⟨next, hnext, hnextRest, hnextLine, hnextColumn⟩ :=
      gap_breaks hne hends (StopsGap.append_cons hstop hquote rest) hsplit
    obtain ⟨after, hread, hafter, hline, -⟩ := ih (hnextColumn ▸ hindent) hnextRest hless
    refine ⟨after, ?_, hafter, by omega, fun hnone => ?_⟩
    · rw [quotedFrom_gap hcolumn hgap hnext, hread, text_separators hne hbreaks]
      rfl
    · rw [hnone d (by simp [hcons])] at hd
      cases hd

/-- A quoted scalar is read up to its closing quote. -/
theorem quoted_eq {indent : Nat} {written text : List Char} (h : Quoted quote indent written text)
    (hindent : indent ≠ 0) (hquote : isGap quote = false)
    (hstop : quote = '\'' → rest.head? ≠ some '\'')
    (hrest : c.rest = quote :: (written ++ quote :: rest)) :
    ∃ after, c.quoted quote = .ok (text, after) ∧ after.rest = rest ∧ c.line ≤ after.line ∧
      ((∀ d ∈ written, isBreak d = false) → after = c.advance (written.length + 2)) := by
  have hbreak : isBreak quote = false := by
    simp only [isGap, Bool.or_eq_false_iff] at hquote
    exact hquote.2
  have hnext := next_eq_advance hrest hbreak
  have hnextRest : (c.advance 1).rest = written ++ quote :: rest := by
    rw [rest_advance, hrest]
    rfl
  have hlimit : written.length < c.rest.length := by
    simp only [hrest, List.length_cons, List.length_append]
    omega
  obtain ⟨after, hread, hafter, hline, hmoved⟩ :=
    quotedFrom_eq h hindent hquote hstop (Nat.succ_ne_zero c.column) hnextRest
      hlimit
  refine ⟨after, ?_, hafter, hline, fun hnone => ?_⟩
  · rw [quoted, hnext, hread]
  · rw [hmoved hnone, advance_advance, Nat.add_comm 1, Nat.add_assoc]

end Cursor

/-! ### Writing between double quotes -/

section Codes

theorem hexNumber?_append (front digits : List Char) :
    Cursor.hexNumber? (front ++ digits) = (Cursor.hexNumber? front).bind fun value =>
      digits.foldlM (fun n d => do return n * 16 + (← Json.Reader.hexValue? d)) value :=
  List.foldlM_append

/-- The digits of a number are read back. -/
theorem hexNumber?_toDigits (n : Nat) :
    Cursor.hexNumber? ((Nat.toDigits 16 n).map Char.toUpper) = some n := by
  have hdigit : ∀ d < 16, Json.Reader.hexValue? (Nat.digitChar d).toUpper = some d := by decide
  induction n using Nat.strongRecOn with
  | ind n ih =>
    rcases Nat.lt_or_ge n 16 with hlt | hge
    · rw [Nat.toDigits_of_lt_base hlt]
      simp [Cursor.hexNumber?, hdigit n hlt]
    · have hless : n / 16 < n := Nat.div_lt_self (by omega) (by decide)
      have hlast : n % 16 < 16 := Nat.mod_lt n (by decide)
      rw [Nat.toDigits_of_base_le (by decide) hge, List.map_append, hexNumber?_append, ih _ hless]
      simp only [Option.bind_some, List.map_cons, List.map_nil, List.foldlM_cons, List.foldlM_nil,
        hdigit _ hlast]
      exact congrArg some (Nat.div_add_mod' n 16)

theorem hexNumber?_hexCode (width n : Nat) : Cursor.hexNumber? (hexCode width n) = some n := by
  have hzeros : ∀ k, Cursor.hexNumber? (List.replicate k '0') = some 0 := by
    intro k
    induction k with
    | zero => rfl
    | succ k ih => exact ih
  rw [hexCode, hexNumber?_append, hzeros]
  exact hexNumber?_toDigits n

theorem length_hexCode {width n : Nat} (hwidth : 0 < width) (hn : n < Nat.pow 16 width) :
    (hexCode width n).length = width := by
  have hdigits := (Nat.length_toDigits_le_iff (by decide) hwidth).2 hn
  rw [hexCode, List.length_append, List.length_replicate, List.length_map]
  omega

theorem codeChar_hexCode {width : Nat} {d : Char} (hwidth : 0 < width)
    (hd : d.toNat < Nat.pow 16 width) (rest : List Char) :
    Cursor.codeChar width (hexCode width d.toNat ++ rest) = .ok d := by
  have hlength := length_hexCode hwidth hd
  have htake : (hexCode width d.toNat ++ rest).take width = hexCode width d.toNat := by
    rw [List.take_append_of_le_length (Nat.le_of_eq hlength.symm), List.take_of_length_le]
    exact Nat.le_of_eq hlength
  have hvalid : d.toNat < 0xd800 ∨ 0xe000 ≤ d.toNat ∧ d.toNat ≤ 0x10ffff := by
    have h := d.valid
    simp only [UInt32.isValidChar, Nat.isValidChar] at h
    change d.val.toNat < 0xd800 ∨ 0xe000 ≤ d.val.toNat ∧ d.val.toNat ≤ 0x10ffff
    omega
  rw [Cursor.codeChar]
  simp only [htake, hexNumber?_hexCode, hlength, Nat.lt_irrefl, if_false]
  rw [if_pos (by simpa using hvalid), Char.ofNat_toNat]

end Codes

/-- The letters that stand for characters after a backslash. -/
def escapes : List (Char × Char) :=
  [('0', Char.ofNat 0), ('a', Char.ofNat 7), ('b', Char.ofNat 8), ('t', '\t'), ('n', '\n'),
    ('v', Char.ofNat 11), ('f', Char.ofNat 12), ('r', '\r'), ('e', Char.ofNat 27), ('"', '"'),
    ('\\', '\\'), ('N', '\u0085'), ('L', '\u2028'), ('P', '\u2029')]

theorem mem_escapes {d letter : Char} (h : escapeLetter? d = some letter) :
    (letter, d) ∈ escapes := by
  have hchoice : ∀ {p : Prop} [Decidable p] {l : Char} {others : Option Char},
      (if p then some l else others) = some letter → p ∧ l = letter ∨ others = some letter := by
    intro p _ l others h
    by_cases hp : p
    · rw [if_pos hp] at h
      exact .inl ⟨hp, Option.some.inj h⟩
    · rw [if_neg hp] at h
      exact .inr h
  have hletter : ∀ code : Nat, d.toNat = code → (letter, Char.ofNat code) ∈ escapes →
      (letter, d) ∈ escapes := by
    rintro code rfl hmem
    rwa [Char.ofNat_toNat] at hmem
  rw [escapeLetter?] at h
  iterate 9
    rcases hchoice h with ⟨hn, rfl⟩ | h
    · exact hletter _ hn (by decide)
  rcases hchoice h with ⟨hsame, rfl⟩ | h
  · rcases (by simpa using hsame : d = '"' ∨ d = '\\') with rfl | rfl <;> decide
  iterate 3
    rcases hchoice h with ⟨hn, rfl⟩ | h
    · exact hletter _ hn (by decide)
  cases h

theorem sign_of_escapeLetter {d letter : Char} (h : escapeLetter? d = some letter) :
    Sign '"' ['\\', letter] d := by
  have hall : ∀ pair ∈ escapes, isBreak pair.1 = false ∧ Cursor.codeLength? pair.1 = none ∧
      Cursor.escaped? pair.1 = some pair.2 := by decide
  obtain ⟨hbreak, hcode, hescaped⟩ := hall _ (mem_escapes h)
  exact .letter rfl hbreak hcode hescaped

/-- A character other than a space is written as a sign. -/
theorem sign_escaped {d : Char} (hd : d ≠ ' ') : Sign '"' (escaped d) d := by
  rw [escaped]
  split
  · exact sign_of_escapeLetter ‹_›
  · rename_i hnone
    have hne : ∀ e, (escapeLetter? e).isSome = true → d ≠ e := by
      rintro e he rfl
      rw [hnone] at he
      cases he
    have hgap : isGap d = false := by
      simp only [isGap, isBlank, isBreak, Bool.or_eq_false_iff, decide_eq_false_iff_not]
      exact ⟨⟨hd, hne _ (by decide)⟩, ⟨⟨⟨hne _ (by decide), hne _ (by decide)⟩, hne _ (by decide)⟩,
        hne _ (by decide)⟩, hne _ (by decide)⟩
    have hcode : ∀ (width : Nat) (letter : Char), 0 < width → d.toNat < 16 ^ width →
        isBreak letter = false → Cursor.codeLength? letter = some width →
          Sign '"' ('\\' :: letter :: hexCode width d.toNat) d := by
      intro width letter hwidth hnumber hbreak hletter
      have hlength := length_hexCode hwidth hnumber
      refine .code rfl hbreak (hletter.trans (congrArg some hlength.symm)) fun rest => ?_
      rw [hlength]
      exact codeChar_hexCode hwidth hnumber rest
    dsimp only
    split
    · exact .char hgap (hne _ (by decide)) fun _ => hne _ (by decide)
    split
    · exact hcode 2 'x' (by decide) (by omega) (by decide) (by decide)
    split
    · exact hcode 4 'u' (by decide) (by omega) (by decide) (by decide)
    · have hnumber : d.toNat < 16 ^ 8 := by
        have hvalid := d.valid
        simp only [UInt32.isValidChar, Nat.isValidChar] at hvalid
        change d.val.toNat < _
        omega
      exact hcode 8 'U' (by decide) hnumber (by decide) (by decide)

theorem Sign.stopsGap {quote d : Char} {seq : List Char} (h : Sign quote seq d)
    (rest : List Char) : StopsGap (seq ++ rest) := by
  cases h with
  | char hgap hquote hescape =>
    intro e he
    cases he
    exact hgap
  | doubled | letter | code =>
    intro e he
    cases he
    decide

/-- **Double quotes.** Every text can be written between double quotes. -/
theorem quoted_doubleQuoted (indent : Nat) (text : List Char) :
    Quoted '"' indent (text.flatMap escaped) text := by
  induction h : text.length using Nat.strongRecOn generalizing text with
  | ind length ih =>
    obtain ⟨n, rest, rfl, hrest⟩ := exists_spaces text
    have hspace : escaped ' ' = [' '] := by decide
    cases n with
    | zero =>
      cases rest with
      | nil => exact .nil
      | cons d rest =>
        rw [List.length_append, List.length_cons] at h
        exact .sign (sign_escaped (hrest d rfl)) (ih _ (by omega) rest rfl)
    | succ n =>
      have hwritten : (spaces (n + 1) ++ rest).flatMap escaped =
          spaces (n + 1) ++ rest.flatMap escaped := by
        rw [List.flatMap_append, spaces, List.flatMap_replicate, hspace,
          List.flatten_replicate_singleton]
      have hstop : StopsGap (rest.flatMap escaped) := by
        cases rest with
        | nil =>
          intro d hd
          cases hd
        | cons d rest => exact (sign_escaped (hrest d rfl)).stopsGap _
      rw [List.length_append, length_spaces] at h
      rw [hwritten]
      exact .spaces (Nat.succ_ne_zero n) hstop (ih _ (by omega) rest rfl)

/-! ### Writing between single quotes -/

section Lines

variable {n : Nat} {line breaks rest : List Char}

theorem indented_breaks (hne : breaks ≠ []) (hbreaks : ∀ d ∈ breaks, isBreak d = true)
    (fresh : Bool) : indented n fresh (breaks ++ rest) = breaks ++ indented n true rest := by
  induction breaks generalizing fresh with
  | nil => exact absurd rfl hne
  | cons d breaks ih =>
    have hd := hbreaks d List.mem_cons_self
    rw [List.cons_append, indented, if_pos hd]
    cases breaks with
    | nil => rfl
    | cons e breaks =>
      rw [ih (List.cons_ne_nil _ _) (fun e he => hbreaks e (List.mem_cons_of_mem _ he))]
      rfl

theorem indented_line (hline : ∀ d ∈ line, isBreak d = false) :
    indented n false (line ++ rest) = line ++ indented n false rest := by
  induction line with
  | nil => rfl
  | cons d line ih =>
    have hd : ¬isBreak d = true := by simp [hline d List.mem_cons_self]
    rw [List.cons_append, indented, if_neg hd, ih fun e he => hline e (List.mem_cons_of_mem _ he)]
    rfl

/-- A line that is not empty starts with spaces. -/
theorem indented_fresh (hne : rest ≠ []) (hrest : ∀ d ∈ rest.head?, isBreak d = false) :
    indented n true rest = spaces n ++ indented n false rest := by
  obtain ⟨d, more, rfl⟩ := List.exists_cons_of_ne_nil hne
  have hd : ¬isBreak d = true := by simp [hrest d rfl]
  simp only [indented, if_neg hd, if_true, Bool.false_eq_true, if_false, List.nil_append]

end Lines

/-- A character between single quotes, where a single quote is written twice. -/
def doubled (d : Char) : List Char := if d = '\'' then ['\'', '\''] else [d]

/-- What is written of a text between single quotes. -/
def singleBody (indent : Nat) (text : List Char) : List Char :=
  indented indent false (text.flatMap doubled) ++
    if text.getLast?.any isBreak then spaces indent else []

theorem singleQuoted_eq (indent : Nat) (text : List Char) :
    singleQuoted indent text = '\'' :: (singleBody indent text ++ ['\'']) := rfl

section Singles

variable {indent : Nat} {front breaks text : List Char} {d : Char}

theorem sign_doubled (hd : isGap d = false) : Sign '\'' (doubled d) d := by
  rw [doubled]
  split
  · rename_i hquote
    rw [hquote]
    exact .doubled rfl
  · rename_i hquote
    exact .char hd hquote nofun

theorem isBreak_doubled (hd : isBreak d = false) : ∀ e ∈ doubled d, isBreak e = false := by
  rw [doubled]
  split
  · simp [show isBreak '\'' = false from by decide]
  · simpa using hd

theorem singleBody_append (hfront : ∀ d ∈ front, isBreak d = false) :
    singleBody indent (front ++ text) = front.flatMap doubled ++ singleBody indent text := by
  have hdoubled : ∀ d ∈ front.flatMap doubled, isBreak d = false := by
    intro d hd
    obtain ⟨e, he, hd⟩ := List.mem_flatMap.1 hd
    exact isBreak_doubled (hfront e he) d hd
  have hlast : (front ++ text).getLast?.any isBreak = text.getLast?.any isBreak := by
    cases text with
    | nil =>
      rw [List.append_nil]
      cases hlast : front.getLast? with
      | none => rfl
      | some d => exact hfront d (List.mem_of_getLast? hlast)
    | cons d text => rw [List.getLast?_append_of_ne_nil _ (List.cons_ne_nil d text)]
  rw [singleBody, hlast, List.flatMap_append, indented_line hdoubled, List.append_assoc]
  rfl

theorem singleBody_inline (htext : ∀ d ∈ text, isBreak d = false) :
    singleBody indent text = text.flatMap doubled := by
  have hbody : singleBody indent (text ++ []) = text.flatMap doubled ++ [] :=
    singleBody_append htext
  rwa [List.append_nil, List.append_nil] at hbody

theorem singleBody_breaks (hne : breaks ≠ []) (hbreaks : ∀ d ∈ breaks, isBreak d = true)
    (htext : ∀ d ∈ text.head?, isBreak d = false) :
    singleBody indent (breaks ++ text) = breaks ++ (spaces indent ++ singleBody indent text) := by
  have hdoubled : breaks.flatMap doubled = breaks := by
    refine (List.flatMap_congr fun d hd => ?_).trans (List.flatMap_singleton' breaks)
    rw [doubled, if_neg]
    rintro rfl
    cases hbreaks '\'' hd
  have hhead : ∀ d ∈ (text.flatMap doubled).head?, isBreak d = false := by
    intro d hd
    cases text with
    | nil => cases hd
    | cons e text =>
      refine isBreak_doubled (htext e rfl) d ?_
      have hhead : (doubled e ++ text.flatMap doubled).head? = (doubled e).head? := by
        rw [doubled]
        split <;> rfl
      exact List.mem_of_mem_head? (hhead ▸ hd)
  rw [singleBody, List.flatMap_append, hdoubled, indented_breaks hne hbreaks, List.append_assoc]
  refine congrArg (breaks ++ ·) ?_
  cases text with
  | nil =>
    -- Spaces of the last line are written although no character follows.
    obtain ⟨d, hd⟩ := List.getLast?_isSome.2 hne |> Option.isSome_iff_exists.1
    have hbreak : isBreak d = true := hbreaks d (List.mem_of_getLast? hd)
    simp [hd, hbreak, indented, singleBody]
  | cons d text =>
    have hdoubledNe : (d :: text).flatMap doubled ≠ [] := by
      rw [List.flatMap_cons, doubled]
      split <;> exact List.cons_ne_nil _ _
    rw [indented_fresh hdoubledNe hhead, List.getLast?_append_of_ne_nil _ (List.cons_ne_nil d text),
      List.append_assoc]
    rfl

theorem isSeparator_of_isBreak (hbreak : isBreak d = true) (hprintable : isPrintable d = true)
    (hfeed : d ≠ '\n') : isSeparator d = true := by
  simp only [isBreak, Bool.or_eq_true, decide_eq_true_eq] at hbreak
  rcases hbreak with (((rfl | rfl) | rfl) | rfl) | rfl
  · exact absurd rfl hfeed
  · exact absurd hprintable (by decide)
  · exact absurd hprintable (by decide)
  · decide
  · decide

theorem isGap_of_isPrintable (hprintable : isPrintable d = true) (hspace : d ≠ ' ')
    (hbreak : isBreak d = false) : isGap d = false := by
  have htab : d ≠ '\t' := by
    rintro rfl
    exact absurd hprintable (by decide)
  simp [isGap, isBlank, hspace, htab, hbreak]

theorem stopsGap_singleBody (htext : ∀ d ∈ text.head?, isGap d = false) :
    StopsGap (singleBody indent text) := by
  cases text with
  | nil => exact nofun
  | cons d text =>
    have hd := htext d rfl
    have hbreak : ∀ e ∈ [d], isBreak e = false := by
      simp only [isGap, Bool.or_eq_false_iff] at hd
      simpa using hd.2
    have hbody : singleBody indent (d :: text) = [d].flatMap doubled ++ singleBody indent text :=
      singleBody_append hbreak
    rw [hbody, List.flatMap_singleton]
    exact (sign_doubled hd).stopsGap _

/-- A text in which no space stands beside the end of a line, and every end of a line stands for
itself. -/
structure Separated (text : List Char) : Prop where
  printable : ∀ d ∈ text, isPrintable d = true ∧ d ≠ '\n'
  behind : hasNeighbours isBreak (· = ' ') text = false
  before : hasNeighbours (· = ' ') isBreak text = false

namespace Separated

theorem of_append (front : List Char) (h : Separated (front ++ text)) : Separated text where
  printable d hd := h.printable d (List.mem_append_right _ hd)
  behind := hasNeighbours_eq_false_iff.2
    (List.isChain_append.1 (hasNeighbours_eq_false_iff.1 h.behind)).2.1
  before := hasNeighbours_eq_false_iff.2
    (List.isChain_append.1 (hasNeighbours_eq_false_iff.1 h.before)).2.1

theorem isGap_eq (h : Separated text) (hd : d ∈ text.head?) (hspace : d ≠ ' ')
    (hbreak : isBreak d = false) : isGap d = false :=
  isGap_of_isPrintable (h.printable d (List.mem_of_mem_head? hd)).1 hspace hbreak

/-- Spaces inside a line are written as they are. -/
theorem quoted_spaces {n : Nat} (h : Separated (spaces (n + 1) ++ text))
    (htext : ∀ d ∈ text.head?, d ≠ ' ')
    (hquoted : Quoted '\'' indent (singleBody indent text) text) :
    Quoted '\'' indent (singleBody indent (spaces (n + 1) ++ text)) (spaces (n + 1) ++ text) := by
  obtain ⟨-, -, hjoin⟩ := List.isChain_append.1 (hasNeighbours_eq_false_iff.1 h.before)
  have hspaces : ∀ d ∈ spaces (n + 1), isBreak d = false := fun d hd => by
    rw [List.eq_of_mem_replicate hd]
    decide
  have hdoubled : (spaces (n + 1)).flatMap doubled = spaces (n + 1) := by
    rw [spaces, List.flatMap_replicate]
    exact List.flatten_replicate_singleton
  have hstop : StopsGap (singleBody indent text) := stopsGap_singleBody fun d hd =>
    (h.of_append _).isGap_eq hd (htext d hd) (hjoin ' ' (getLast?_spaces_succ n) d hd (by decide))
  rw [singleBody_append hspaces, hdoubled]
  exact .spaces (Nat.succ_ne_zero n) hstop hquoted

/-- The ends of lines are written as they are, with the spaces of the next line behind them. -/
theorem quoted_breaks (h : Separated (breaks ++ text)) (hne : breaks ≠ [])
    (hbreaks : ∀ d ∈ breaks, isBreak d = true) (htext : ∀ d ∈ text.head?, isBreak d = false)
    (hquoted : Quoted '\'' indent (singleBody indent text) text) :
    Quoted '\'' indent (singleBody indent (breaks ++ text)) (breaks ++ text) := by
  obtain ⟨-, -, hjoin⟩ := List.isChain_append.1 (hasNeighbours_eq_false_iff.1 h.behind)
  obtain ⟨last, hlast⟩ := Option.isSome_iff_exists.1 (List.getLast?_isSome.2 hne)
  have hspace : ∀ d ∈ text.head?, d ≠ ' ' := fun d hd => by
    simpa using hjoin last hlast d hd (hbreaks last (List.mem_of_getLast? hlast))
  have hstop : StopsGap (singleBody indent text) := stopsGap_singleBody fun d hd =>
    (h.of_append _).isGap_eq hd (hspace d hd) (htext d hd)
  have hseparators : ∀ d ∈ breaks, isSeparator d = true := fun d hd =>
    have hprintable := h.printable d (List.mem_append_left _ hd)
    isSeparator_of_isBreak (hbreaks d hd) hprintable.1 hprintable.2
  rw [singleBody_breaks hne hbreaks htext]
  exact .breaks hne hseparators hstop hquoted

/-- A character inside a line is written as it is, or twice. -/
theorem quoted_cons (h : Separated (d :: text)) (hspace : d ≠ ' ') (hbreak : isBreak d = false)
    (hquoted : Quoted '\'' indent (singleBody indent text) text) :
    Quoted '\'' indent (singleBody indent (d :: text)) (d :: text) := by
  have hline : ∀ e ∈ [d], isBreak e = false := by simpa using hbreak
  have hbody : singleBody indent (d :: text) = [d].flatMap doubled ++ singleBody indent text :=
    singleBody_append hline
  rw [hbody, List.flatMap_singleton]
  exact .sign (sign_doubled (h.isGap_eq rfl hspace hbreak)) hquoted

end Separated

/-- **Single quotes.** A text in which no space stands beside the end of a line can be written
between single quotes. -/
theorem quoted_singleBody (hseparated : Separated text) (indent : Nat) :
    Quoted '\'' indent (singleBody indent text) text := by
  induction h : text.length using Nat.strongRecOn generalizing text with
  | ind length ih =>
    obtain ⟨n, rest, rfl, hrest⟩ := exists_spaces text
    cases n with
    | succ n =>
      rw [List.length_append, length_spaces] at h
      exact hseparated.quoted_spaces hrest (ih _ (by omega) (hseparated.of_append _) rfl)
    | zero =>
      have hnil : spaces 0 ++ rest = rest := List.nil_append rest
      rw [hnil] at h hseparated ⊢
      obtain ⟨breaks, text, rfl, hbreaks, htext⟩ := Text.exists_span isBreak rest
      cases breaks with
      | cons d breaks =>
        rw [List.length_append, List.length_cons] at h
        exact hseparated.quoted_breaks (List.cons_ne_nil d breaks) hbreaks htext
          (ih _ (by omega) (hseparated.of_append _) rfl)
      | nil =>
        cases text with
        | nil => exact .nil
        | cons d text =>
          rw [List.nil_append, List.length_cons] at h
          have htail : Separated text := hseparated.of_append [d]
          exact hseparated.quoted_cons (hrest d rfl) (htext d rfl) (ih _ (by omega) htail rfl)

end Singles

end FieldAccess.Yaml
