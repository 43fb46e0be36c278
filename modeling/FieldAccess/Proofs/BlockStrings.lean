import FieldAccess.Proofs.Cleaning

/-!
# Block strings

A block string in front of a line says nothing, whatever it holds: braces, comment signs, quotes and
line ends stand in it as in any text. Three quotes in it have to be escaped, and it must not end in
a quote or a backslash, since these would belong to the quotes that end it.

## Main definitions

* `QuotesEscaped` – three quotes stand in a text only behind a backslash.

## Main statements

* `cleanLines_blockString` – a block string is passed over row by row.
* `blockString_readAlike` – a block string in front of a line says nothing.
-/

namespace FieldAccess.Schema

open Text

/-- Three quotes in a row stand in a text only directly behind a backslash. For those that the text
begins with, `escaped` tells whether a backslash stands in front of the text. -/
def QuotesEscaped (escaped : Bool) : List Char → Prop
  | [] => True
  | c :: text =>
    (['"', '"', '"'] <+: c :: text → escaped = true) ∧ QuotesEscaped (c == '\\') text

instance QuotesEscaped.decidable :
    (escaped : Bool) → (text : List Char) → Decidable (QuotesEscaped escaped text)
  | _, [] => .isTrue trivial
  | _, c :: text =>
    have := QuotesEscaped.decidable (c == '\\') text
    inferInstanceAs (Decidable (_ ∧ _))

/-- A text that ends neither in a quote nor in a backslash. -/
def EndsPlain (text : List Char) : Prop := ∀ c ∈ text.getLast?, c ≠ '"' ∧ c ≠ '\\'

instance (text : List Char) : Decidable (EndsPlain text) :=
  match hlast : text.getLast? with
  | none => .isTrue (by simp [EndsPlain, hlast])
  | some c => decidable_of_iff (c ≠ '"' ∧ c ≠ '\\') (by simp [EndsPlain, hlast])

section Contents

variable {escaped : Bool} {c : Char} {text rest : List Char}

/-- Three quotes in a row are behind a backslash, and those after them are not. -/
theorem QuotesEscaped.quotes (h : QuotesEscaped escaped ('"' :: '"' :: '"' :: text)) :
    escaped = true ∧ QuotesEscaped false text :=
  ⟨h.1 ⟨text, rfl⟩, h.2.2.2⟩

theorem QuotesEscaped.of_append (h : QuotesEscaped escaped (text ++ rest)) :
    QuotesEscaped escaped text := by
  induction text generalizing escaped with
  | nil => trivial
  | cons c text ih => exact ⟨fun hquotes => h.1 (hquotes.trans ⟨rest, rfl⟩), ih h.2⟩

/-- Behind the end of a line nothing is escaped from in front of it. -/
theorem QuotesEscaped.of_append_feed (h : QuotesEscaped escaped (text ++ '\n' :: rest)) :
    QuotesEscaped false rest := by
  induction text generalizing escaped with
  | nil => exact h.2
  | cons c text ih => exact ih h.2

theorem EndsPlain.tail (h : EndsPlain (c :: text)) : EndsPlain text := by
  intro d hd
  refine h d ?_
  rw [List.getLast?_cons, Option.mem_def.1 hd]
  rfl

theorem EndsPlain.of_append_cons (h : EndsPlain (text ++ c :: rest)) : EndsPlain rest := by
  induction text with
  | nil => exact h.tail
  | cons d text ih => exact ih h.tail

end Contents

section Scanning

variable {escaped : Bool} {text : List Char}

/-- A row of a block string without quotes that end it is dropped. -/
theorem QuotesEscaped.outsideBlocks_eq (h : QuotesEscaped escaped text) :
    outsideBlocks true escaped text = ([], true) := by
  generalize hinBlock : true = inBlock
  fun_induction outsideBlocks inBlock escaped text with
  | case1 => rfl
  | case2 escaped text ih =>
    obtain ⟨rfl, hrest⟩ := h.quotes
    exact ih hrest rfl
  | case4 escaped c text hquotes ih => exact ih h.2 rfl
  | case3 | case5 => simp_all

/-- The quotes behind the content of a block string end it. -/
theorem QuotesEscaped.outsideBlocks_append (h : QuotesEscaped escaped text) (hend : EndsPlain text)
    (hescaped : text = [] → escaped = false) (rest : List Char) :
    outsideBlocks true escaped (text ++ '"' :: '"' :: '"' :: rest) =
      outsideBlocks false false rest := by
  generalize hinBlock : true = inBlock
  fun_induction outsideBlocks inBlock escaped text with
  | case1 inBlock escaped =>
    subst hinBlock
    rw [List.nil_append, outsideBlocks_closing, hescaped rfl]
  | case2 escaped text ih =>
    obtain ⟨rfl, hrest⟩ := h.quotes
    exact (outsideBlocks_closing true _).trans (ih hrest hend.tail.tail.tail (fun _ => rfl) rfl)
  | case4 escaped c text hquotes ih =>
    -- No quotes at the end of the content join those that end the block string.
    have hquotes' : ∀ more, c = '"' → text ++ '"' :: '"' :: '"' :: rest ≠ '"' :: '"' :: more := by
      rintro more rfl hmore
      obtain _ | ⟨d, _ | ⟨e, text⟩⟩ := text
      · exact (hend '"' rfl).1 rfl
      · exact (hend d rfl).1 (List.cons.inj hmore).1
      · obtain ⟨rfl, htext⟩ := List.cons.inj hmore
        obtain ⟨rfl, -⟩ := List.cons.inj htext
        exact hquotes text rfl rfl
    rw [List.cons_append, outsideBlocks_inside hquotes']
    refine ih h.2 hend.tail (fun hnil => ?_) rfl
    subst hnil
    exact beq_false_of_ne (hend c rfl).2
  | case3 | case5 => simp_all

end Scanning

section Documents

/-- The rows of a block string are passed over, up to the quotes that end it. -/
theorem cleanLines_content {content : List Char} (h : QuotesEscaped false content)
    (hend : EndsPlain content) (after : List Char) :
    cleanLines true ((content ++ '"' :: '"' :: '"' :: after).splitOn '\n') =
      cleanLines false (after.splitOn '\n') := by
  by_cases hfeed : '\n' ∈ content
  · obtain ⟨row, rest, rfl, hrow⟩ := List.eq_append_cons_of_mem hfeed
    have hdropped : rowText true row = [] := by
      rw [rowText, h.of_append.outsideBlocks_eq]
      rfl
    rw [List.append_assoc, List.cons_append, List.splitOn_append_cons_self,
      List.splitOn_eq_singleton hrow, List.singleton_append, cleanLines_cons, hdropped,
      h.of_append.outsideBlocks_eq]
    exact cleanLines_content h.of_append_feed hend.of_append_cons after
  · obtain ⟨row, below, hrows⟩ := exists_splitOn_cons after
    have hquotes : '\n' ∉ content ++ ['"', '"', '"'] := by simp [hfeed]
    have hrow := h.outsideBlocks_append hend (fun _ => rfl) row
    have hsplit := splitOn_row_append hquotes hrows
    rw [List.append_assoc, List.append_assoc] at hsplit
    rw [hrows]
    refine (congrArg _ hsplit).trans (cleanLines_congr ?_ ?_ below)
    · exact congrArg (fun outside => withoutDescription (withoutComment (trim outside.1))) hrow
    · exact congrArg Prod.snd hrow
termination_by content.length

/-- A block string is passed over where a line begins. -/
theorem cleanLines_blockString {content : List Char} (h : QuotesEscaped false content)
    (hend : EndsPlain content) (after : List Char) :
    cleanLines false
        ((['"', '"', '"'] ++ content ++ ['"', '"', '"'] ++ after).splitOn '\n') =
      cleanLines false (after.splitOn '\n') := by
  obtain ⟨row, below, hrows⟩ := exists_splitOn_cons (content ++ '"' :: '"' :: '"' :: after)
  have hquotes : '\n' ∉ ['"', '"', '"'] := by decide
  have hsplit := splitOn_row_append hquotes hrows
  calc
    cleanLines false ((['"', '"', '"'] ++ content ++ ['"', '"', '"'] ++ after).splitOn '\n')
      = cleanLines false (('"' :: '"' :: '"' :: row) :: below) := by
        rw [List.append_assoc, List.append_assoc]
        exact congrArg _ hsplit
    _ = cleanLines true ((content ++ '"' :: '"' :: '"' :: after).splitOn '\n') := by
        rw [cleanLines_opening, hrows]
    _ = cleanLines false (after.splitOn '\n') := cleanLines_content h hend after

end Documents

/-- **Block strings.** A block string in front of a line says nothing, be it on the line or on lines
of its own. -/
theorem blockString_readAlike (before after content : String) (hbegins : beginsText before = true)
    (hblock : inBlockString before = false) (hquotes : QuotesEscaped false content.toList)
    (hend : EndsPlain content.toList) {gap : String} (hgap : gap ∈ ["", "\n", "\r\n"]) :
    ReadAlike (before ++ ("\"\"\"" ++ content ++ "\"\"\"" ++ gap) ++ after) (before ++ after) := by
  obtain ⟨above, hclean⟩ := exists_clean_append hbegins hblock
  have hgap' : cleanLines false ((gap.toList ++ after.toList).splitOn '\n') =
      cleanLines false (after.toList.splitOn '\n') := by
    simp only [List.mem_cons, List.not_mem_nil, or_false] at hgap
    rcases hgap with rfl | rfl | rfl
    · rfl
    · exact (congrArg _ (List.splitOn_append_cons_self [] _)).trans (cleanLines_empty false _)
    · exact (congrArg _ (List.splitOn_append_cons_self ['\r'] _)).trans
        ((cleanLines_return false [] _).trans (cleanLines_empty false _))
  refine readAlike_of_clean ?_
  calc
    clean (before ++ ("\"\"\"" ++ content ++ "\"\"\"" ++ gap) ++ after).toList
      = clean (before.toList ++
          (['"', '"', '"'] ++ content.toList ++ ['"', '"', '"'] ++
            (gap.toList ++ after.toList))) := by
        simp
    _ = clean (before.toList ++ after.toList) := by
        rw [hclean, hclean, cleanLines_blockString hquotes hend, hgap']
    _ = clean (before ++ after).toList := by simp

/-- A block string that holds quotes, escaped ones, a comment and the end of a type. -/
theorem blockString_readAlike_type :
    let before := "type P \x7b\n"
    let content := "\"a\" \x7d # b\r\ntype Q \x7b c: S \\\"\"\" \x7d\n\"\" "
    let after := "\"d\" e: S\n\x7d"
    beginsText before = true ∧ inBlockString before = false ∧
      QuotesEscaped false content.toList ∧ EndsPlain content.toList ∧
        ReadAlike (before ++ ("\"\"\"" ++ content ++ "\"\"\"" ++ "") ++ after) (before ++ after) :=
  have hbegins : beginsText "type P \x7b\n" = true := beginsText_feed "type P \x7b"
  have hblock : inBlockString "type P \x7b\n" = false := by decide +kernel
  have hquotes : QuotesEscaped false
      "\"a\" \x7d # b\r\ntype Q \x7b c: S \\\"\"\" \x7d\n\"\" ".toList := by decide +kernel
  have hend : EndsPlain
      "\"a\" \x7d # b\r\ntype Q \x7b c: S \\\"\"\" \x7d\n\"\" ".toList := by decide +kernel
  ⟨hbegins, hblock, hquotes, hend,
    blockString_readAlike _ "\"d\" e: S\n\x7d" _ hbegins hblock hquotes hend (by decide)⟩

end FieldAccess.Schema
