import FieldAccess.Proofs.Cleaning
import FieldAccess.Schema.Document

/-!
# Comments

A comment at the end of a line, or on a line of its own, says nothing. The exception are three
quotes in it: block strings are removed before comments are, so a comment that begins a block string
and does not end it is read as if it were the beginning of that block string.

## Main definitions

* `inString` – whether the end of a text stands inside of a string.
* `CommentAt` – the ways to put a comment between two texts.
* `mark` – what a comment is read as.

## Main statements

* `comment_readAlike` – a comment is read as nothing, or as the quotes that begin a block string.
* `not_readAlike_comment` – a comment can take the rest of a document with it.
-/

namespace FieldAccess.Schema

open Text

/-- Whether the end of a row stands inside of a string, and not in a comment. -/
def endsInString (row : List Char) : Bool :=
  (beforeComment? .outside row).isNone && QuoteState.behind .outside row != .outside

/-- Whether the end of a text stands inside of a string of its last row. -/
def inString (text : String) : Bool :=
  endsInString (lastOutside false (text.toList.splitOn '\n'))

/-- Whether a text begins with the end of a line. -/
def beginsWithLineEnd : List Char → Bool
  | [] => true
  | '\n' :: _ => true
  | '\r' :: '\n' :: _ => true
  | _ => false

section Rows

variable {text inserted row row' : List Char} {above below : List (List Char)}

/-- A text behind which a line ends has at most a carriage return in its first row. -/
theorem exists_splitOn_of_lineEnd (h : beginsWithLineEnd text = true) :
    ∃ row below, text.splitOn '\n' = row :: below ∧ (row = [] ∨ row = ['\r']) := by
  fun_cases beginsWithLineEnd text with
  | case1 => exact ⟨[], [], rfl, .inl rfl⟩
  | case2 rest => exact ⟨[], _, List.splitOn_append_cons_self [] rest, .inl rfl⟩
  | case3 rest => exact ⟨['\r'], _, List.splitOn_append_cons_self ['\r'] rest, .inr rfl⟩
  | case4 => simp_all [beginsWithLineEnd]

/-- What is put at the end of a line belongs to the row that ends there. -/
theorem clean_insert {before after : List Char} (habove : before.splitOn '\n' = above ++ [row])
    (hbelow : after.splitOn '\n' = row' :: below) (hreturn : row' = [] ∨ row' = ['\r'])
    (hfeed : '\n' ∉ inserted) :
    clean (before ++ inserted ++ after) = joined ['\n'] (cleanLines false above ++
      cleanLines (openBehind false above) ((row ++ inserted) :: below)) := by
  have hrows := splitOn_append (splitOn_append habove (List.splitOn_eq_singleton hfeed)) hbelow
  rw [clean_eq, hrows, cleanLines_append]
  rcases hreturn with rfl | rfl
  · rw [List.append_nil]
  · rw [cleanLines_return]

/-- A line that is put behind the end of a line is a row of its own. -/
theorem clean_insertLine {before after : List Char} (habove : before.splitOn '\n' = above ++ [row])
    (hbelow : after.splitOn '\n' = row' :: below) (hreturn : row' = [] ∨ row' = ['\r'])
    (hfeed : '\n' ∉ inserted) :
    clean (before ++ '\n' :: inserted ++ after) = joined ['\n'] (cleanLines false above ++
      cleanLines (openBehind false above) (row :: inserted :: below)) := by
  have hline : (before ++ ['\n']).splitOn '\n' = (above ++ [row]) ++ [[]] := by
    rw [List.splitOn_append_cons_self, habove]
    rfl
  have hinsert := clean_insert hline hbelow hreturn hfeed
  rw [List.append_assoc before, List.singleton_append] at hinsert
  rw [hinsert, ← cleanLines_append, ← cleanLines_append, List.append_assoc]
  rfl

end Rows

section Comments

variable {inBlock : Bool} {row : List Char}

/-- A comment is not looked for behind another one, and ends where the text in front of it does. -/
theorem trim_uncommented_comment (hstring : endsInString row = false) (comment : List Char) :
    trim (uncommented (row ++ ' ' :: '#' :: comment)) = trim (uncommented row) := by
  rw [uncommented, uncommented, beforeComment?_append]
  cases hbefore : beforeComment? .outside row with
  | some before => rfl
  | none =>
    have hstate : QuoteState.behind .outside row = .outside := by
      simpa [endsInString, hbefore] using hstring
    have hsign : beforeComment? .outside (' ' :: '#' :: comment) = some [' '] := rfl
    rw [hstate, hsign]
    exact trim_append_of_blank fun _ => @isBlank_of_mem_spaces 1 _

/-- A comment at the end of a row leaves the row as it is, but for a block string that it begins. -/
theorem cleanLines_comment (hblock : (outsideBlocks inBlock false row).2 = false)
    (hstring : endsInString (outsideBlocks inBlock false row).1 = false) (comment : List Char)
    (rows : List (List Char)) :
    cleanLines inBlock ((row ++ ' ' :: '#' :: ' ' :: comment) :: rows) =
      cleanLines inBlock [row] ++ cleanLines (outsideBlocks false false comment).2 rows := by
  have hcomment : outsideBlocks false false (' ' :: '#' :: ' ' :: comment) =
      (' ' :: '#' :: ' ' :: (outsideBlocks false false comment).1,
        (outsideBlocks false false comment).2) := rfl
  have hrow := outsideBlocks_append (by decide : ' ' ≠ '"') inBlock false row
    ('#' :: ' ' :: comment)
  rw [hblock, hcomment] at hrow
  have htext : rowText inBlock (row ++ ' ' :: '#' :: ' ' :: comment) = rowText inBlock row := by
    rw [rowText_eq, rowText_eq, hrow, trim_uncommented_comment hstring]
  rw [cleanLines_cons, cleanLines_cons, htext, hrow, cleanLines, List.append_nil]

/-- A row that is a comment says nothing, but may begin a block string. -/
theorem cleanLines_ownComment (comment : List Char) (rows : List (List Char)) :
    cleanLines false (('#' :: ' ' :: comment) :: rows) =
      cleanLines (outsideBlocks false false comment).2 rows := by
  have hcomment : outsideBlocks false false ('#' :: ' ' :: comment) =
      ('#' :: ' ' :: (outsideBlocks false false comment).1,
        (outsideBlocks false false comment).2) := rfl
  have htext : rowText false ('#' :: ' ' :: comment) = [] := by
    rw [rowText_eq, hcomment]
    rfl
  rw [cleanLines_cons, htext, hcomment]
  rfl

/-- Three quotes at the end of a row leave the row as it is, and begin a block string. -/
theorem cleanLines_quotes (hblock : (outsideBlocks inBlock false row).2 = false)
    (rows : List (List Char)) :
    cleanLines inBlock ((row ++ [' ', '"', '"', '"']) :: rows) =
      cleanLines inBlock [row] ++ cleanLines true rows := by
  have hrow := outsideBlocks_append (by decide : ' ' ≠ '"') inBlock false row ['"', '"', '"']
  rw [hblock] at hrow
  change _ = (_ ++ [' ', ' '], true) at hrow
  have hblanks : ∀ c ∈ [' ', ' '], isBlank c = true := fun _ => @isBlank_of_mem_spaces 2 _
  have htext : rowText inBlock (row ++ [' ', '"', '"', '"']) = rowText inBlock row := by
    rw [rowText, hrow, rowText, trim_append_of_blank hblanks]
  rw [cleanLines_cons, cleanLines_cons, htext, hrow, cleanLines, List.append_nil]

end Comments

/-- The comment is put behind a line, as a line below it, or as a line of its own in front of
one. Behind a line that ends inside of a string it would belong to the string. -/
inductive CommentAt (before after comment : String) : String → Prop where
  | behind (hend : beginsWithLineEnd after.toList = true) (hstring : inString before = false) :
      CommentAt before after comment (" # " ++ comment)
  | below (hend : beginsWithLineEnd after.toList = true) :
      CommentAt before after comment ("\n# " ++ comment)
  | above (hbegins : beginsText before = true) :
      CommentAt before after comment ("# " ++ comment ++ "\n")

/-- What a comment is read as: nothing, or the quotes of a block string that it leaves open. -/
def mark (comment : String) : String := if inBlockString comment then " \"\"\"" else ""

section Marks

variable {before after comment : String} {row row' : List Char} {above below : List (List Char)}

theorem inBlockString_eq (hfeed : '\n' ∉ comment.toList) :
    inBlockString comment = (outsideBlocks false false comment.toList).2 := by
  rw [inBlockString, List.splitOn_eq_singleton hfeed]
  rfl

theorem not_mem_mark (comment : String) : '\n' ∉ (mark comment).toList := by
  rw [mark]
  split <;> decide

/-- At the end of a row a mark leaves the row as it is. -/
theorem cleanLines_mark {inBlock : Bool} (hblock : (outsideBlocks inBlock false row).2 = false)
    (comment : String) (rows : List (List Char)) :
    cleanLines inBlock ((row ++ (mark comment).toList) :: rows) =
      cleanLines inBlock [row] ++ cleanLines (inBlockString comment) rows := by
  rw [mark]
  cases inBlockString comment
  · rw [if_neg (by decide), String.toList_empty, List.append_nil, cleanLines_cons, cleanLines_cons,
      hblock, cleanLines, List.append_nil]
  · exact cleanLines_quotes hblock rows

/-- At the beginning of a row a mark is all that is read of the comment. -/
theorem cleanLines_mark_append (comment : String) (row : List Char) (rows : List (List Char)) :
    cleanLines false (((mark comment).toList ++ row) :: rows) =
      cleanLines (inBlockString comment) (row :: rows) := by
  rw [mark]
  cases inBlockString comment
  · rfl
  · have hspace : ∀ c ∈ (outsideBlocks false false [' ']).1, isBlank c = true :=
      List.all_eq_true.1 (by decide)
    exact (cleanLines_blank hspace rfl _ rows).trans (cleanLines_opening row rows)

/-- A mark at the end of a line belongs to the row that ends there. -/
theorem clean_mark (hopen : (outsideBlocks (openBehind false above) false row).2 = false)
    (habove : before.toList.splitOn '\n' = above ++ [row])
    (hbelow : after.toList.splitOn '\n' = row' :: below) (hreturn : row' = [] ∨ row' = ['\r'])
    (comment : String) :
    clean (before ++ mark comment ++ after).toList = joined ['\n'] (cleanLines false above ++
      (cleanLines (openBehind false above) [row] ++ cleanLines (inBlockString comment) below)) := by
  rw [String.toList_append, String.toList_append,
    clean_insert habove hbelow hreturn (not_mem_mark comment), cleanLines_mark hopen]

theorem clean_commentAbove (hbegins : beginsText before = true)
    (hblock : inBlockString before = false) (hfeed : '\n' ∉ comment.toList) (after : String) :
    clean (before ++ ("# " ++ comment ++ "\n") ++ after).toList =
      clean (before ++ mark comment ++ after).toList := by
  obtain ⟨above, hclean⟩ := exists_clean_append hbegins hblock
  obtain ⟨row', below, hbelow⟩ := exists_splitOn_cons after.toList
  have hmark : ((mark comment).toList ++ after.toList).splitOn '\n' =
      ((mark comment).toList ++ row') :: below :=
    splitOn_row_append (not_mem_mark comment) hbelow
  have hcomment : ('#' :: ' ' :: comment.toList ++ '\n' :: after.toList).splitOn '\n' =
      ('#' :: ' ' :: comment.toList) :: row' :: below := by
    rw [List.splitOn_append_cons_self, List.splitOn_eq_singleton (by simp [hfeed]), hbelow]
    rfl
  calc
    clean (before ++ ("# " ++ comment ++ "\n") ++ after).toList
      = clean (before.toList ++ ('#' :: ' ' :: comment.toList ++ '\n' :: after.toList)) := by simp
    _ = joined ['\n'] (cleanLines false above ++
          cleanLines (inBlockString comment) (row' :: below)) := by
        rw [hclean, hcomment, cleanLines_ownComment, inBlockString_eq hfeed]
    _ = clean (before.toList ++ ((mark comment).toList ++ after.toList)) := by
        rw [hclean, hmark, cleanLines_mark_append]
    _ = clean (before ++ mark comment ++ after).toList := by simp

end Marks

/-- **Comments.** Outside of block strings and of strings a comment is read as nothing if every
block string that begins in it ends in it. Otherwise it is read as the quotes that begin one. -/
theorem comment_readAlike (before after comment inserted : String)
    (hblock : inBlockString before = false) (hfeed : '\n' ∉ comment.toList)
    (hinserted : CommentAt before after comment inserted) :
    ReadAlike (before ++ inserted ++ after) (before ++ mark comment ++ after) := by
  refine readAlike_of_clean ?_
  -- The comment is put behind the last row of what stands in front of it.
  obtain ⟨above, row, habove⟩ := exists_splitOn_concat before.toList
  have hopen : (outsideBlocks (openBehind false above) false row).2 = false := by
    rwa [inBlockString, habove, openBehind_append] at hblock
  cases hinserted with
  | behind hend hstring =>
    obtain ⟨row', below, hbelow, hreturn⟩ := exists_splitOn_of_lineEnd hend
    have hstring' : endsInString (outsideBlocks (openBehind false above) false row).1 = false := by
      rwa [inString, habove, lastOutside_append] at hstring
    have hrow : '\n' ∉ ' ' :: '#' :: ' ' :: comment.toList := by simp [hfeed]
    have hinsert := clean_insert habove hbelow hreturn hrow
    rw [clean_mark hopen habove hbelow hreturn, inBlockString_eq hfeed,
      ← cleanLines_comment hopen hstring', ← hinsert]
    simp
  | below hend =>
    obtain ⟨row', below, hbelow, hreturn⟩ := exists_splitOn_of_lineEnd hend
    have hline : '\n' ∉ '#' :: ' ' :: comment.toList := by simp [hfeed]
    have hinsert := clean_insertLine habove hbelow hreturn hline
    rw [cleanLines_cons, hopen, cleanLines_ownComment] at hinsert
    rw [clean_mark hopen habove hbelow hreturn, inBlockString_eq hfeed, cleanLines_cons, cleanLines,
      List.append_nil, ← hinsert]
    simp
  | above hbegins => exact clean_commentAbove hbegins hblock hfeed after

/-- A comment that looks like annotations and like the end of a type is read as nothing. -/
theorem comment_readAlike_annotation :
    let before := "type P \x7b\n  a: S @owner(value: \"x # y\")"
    let after := "\r\n  b: S\n\x7d"
    let comment := "\x7d type Q \x7b \"@isOwner(value: true) \"\"\"x\"\"\""
    inBlockString before = false ∧ inString before = false ∧
      ReadAlike (before ++ (" # " ++ comment) ++ after) (before ++ after) :=
  ⟨by decide +kernel, by decide +kernel,
    comment_readAlike "type P \x7b\n  a: S @owner(value: \"x # y\")" "\r\n  b: S\n\x7d"
      "\x7d type Q \x7b \"@isOwner(value: true) \"\"\"x\"\"\"" _ (by decide +kernel) (by decide)
      (.behind (by decide) (by decide +kernel))⟩

/-- **Comments are not transparent.** A comment that begins a block string takes the rest of the
document with it. -/
theorem not_readAlike_comment :
    let before := "type P \x7b\n  a: S"
    let after := "\n  b: S\n\x7d"
    beginsWithLineEnd after.toList = true ∧ inBlockString before = false ∧
      inString before = false ∧ (parse (before ++ after)).map (·.name) = ["a", "b"] ∧
      parse (before ++ " # \"\"\"" ++ after) = [] ∧
      unreadTypes (before ++ " # \"\"\"" ++ after) = ["P"] := by
  decide +kernel

end FieldAccess.Schema
