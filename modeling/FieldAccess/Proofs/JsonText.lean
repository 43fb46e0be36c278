import FieldAccess.Json.Reader
import FieldAccess.Json.Writer
import FieldAccess.Proofs.Texts

/-!
# Reading written JSON

A written value without numbers is read as the document of this value, whatever follows it and
however its parts are set apart by blanks. Where a number stands, what follows it could belong to
it, so that there the text after the value would have to be looked at.

## Main definitions

* `Json.numberFree` – values in which there is no number.
* `Json.Layout` – the blanks between the parts of a value; the compact layout has none.

## Main statements

* `Json.Reader.stringFrom_quoted` – a quoted text is read as the text.
* `Json.Reader.valueFrom_chars` – a value in any layout is read as its document.
* `Json.ofText_indented`, `Json.ofText_compact` – the same for whole texts.
-/

namespace FieldAccess.Json

mutual

/-- Whether there is no number in a value. -/
def numberFree : Json → Bool
  | .integer _ => false
  | .decimal _ => false
  | .list items => numberFreeItems items
  | .table entries => numberFreeEntries entries
  | _ => true

/-- Whether there is no number in some items. -/
def numberFreeItems : List Json → Bool
  | [] => true
  | item :: rest => numberFree item && numberFreeItems rest

/-- Whether there is no number in some entries. -/
def numberFreeEntries : List (String × Json) → Bool
  | [] => true
  | (_, value) :: rest => numberFree value && numberFreeEntries rest

end

/-- The blanks between the parts of a value: those in front of items, entries and closing brackets
some levels down, and those between a key and its value. -/
structure Layout where
  lineBreak : (depth : Nat) → List Char
  gap : List Char
  lineBreak_blank : ∀ depth, ∀ c ∈ lineBreak depth, Reader.isBlank c = true
  gap_blank : ∀ c ∈ gap, Reader.isBlank c = true

namespace Layout

mutual

/-- The characters of a value `depth` levels down. -/
def chars (layout : Layout) (depth : Nat) : Json → List Char
  | .list [] => ['[', ']']
  | .list items => '[' :: layout.items depth items
  | .table [] => ['\x7b', '\x7d']
  | .table entries => '\x7b' :: layout.entries depth entries
  | value => value.compactChars

/-- The items of an array that lies `depth` levels down, and its closing bracket. -/
def items (layout : Layout) (depth : Nat) : List Json → List Char
  | [] => layout.lineBreak depth ++ [']']
  | [item] =>
    layout.lineBreak (depth + 1) ++ layout.chars (depth + 1) item ++ layout.lineBreak depth ++ [']']
  | item :: rest =>
    layout.lineBreak (depth + 1) ++ layout.chars (depth + 1) item ++ ',' :: layout.items depth rest

/-- The entries of an object that lies `depth` levels down, and its closing brace. -/
def entries (layout : Layout) (depth : Nat) : List (String × Json) → List Char
  | [] => layout.lineBreak depth ++ ['\x7d']
  | [(key, value)] =>
    layout.lineBreak (depth + 1) ++ quotedChars key ++
      ':' :: (layout.gap ++ layout.chars (depth + 1) value) ++ layout.lineBreak depth ++ ['\x7d']
  | (key, value) :: rest =>
    layout.lineBreak (depth + 1) ++ quotedChars key ++
      ':' :: (layout.gap ++ layout.chars (depth + 1) value) ++ ',' :: layout.entries depth rest

end

/-- The layout without blanks. -/
def compact : Layout where
  lineBreak _ := []
  gap := []
  lineBreak_blank _ _ hc := nomatch hc
  gap_blank _ hc := nomatch hc

/-- The layout with a line for every item and entry. -/
def indented : Layout where
  lineBreak := newLine
  gap := [' ']
  lineBreak_blank depth c hc := by
    rcases List.mem_cons.1 hc with rfl | hc
    · rfl
    · rw [List.eq_of_mem_replicate hc]
      rfl
  gap_blank c hc := by
    rw [List.mem_singleton.1 hc]
    rfl

@[simp] theorem lineBreak_compact (depth : Nat) : compact.lineBreak depth = [] := rfl

@[simp] theorem gap_compact : compact.gap = [] := rfl

@[simp] theorem lineBreak_indented (depth : Nat) : indented.lineBreak depth = newLine depth := rfl

@[simp] theorem gap_indented : indented.gap = [' '] := rfl

mutual

theorem chars_compact : ∀ (value : Json) (depth : Nat),
    compact.chars depth value = value.compactChars
  | .null, _ | .flag _, _ | .integer _, _ | .decimal _, _ | .text _, _ => rfl
  | .list [], _ | .table [], _ => rfl
  | .list (item :: items), depth => congrArg ('[' :: ·) (items_compact (item :: items) depth)
  | .table (entry :: entries), depth =>
    congrArg ('\x7b' :: ·) (entries_compact (entry :: entries) depth)

theorem items_compact : ∀ (items : List Json) (depth : Nat),
    compact.items depth items = compactItems items
  | [], _ => rfl
  | [item], depth => by
    simp [Layout.items, compactItems, chars_compact item]
  | item :: next :: items, depth => by
    simp [Layout.items, compactItems, chars_compact item, items_compact (next :: items)]

theorem entries_compact : ∀ (entries : List (String × Json)) (depth : Nat),
    compact.entries depth entries = compactEntries entries
  | [], _ => rfl
  | [(key, value)], depth => by
    simp [Layout.entries, compactEntries, chars_compact value]
  | (key, value) :: next :: entries, depth => by
    simp [Layout.entries, compactEntries, chars_compact value, entries_compact (next :: entries)]

end

mutual

theorem chars_indented : ∀ (value : Json) (depth : Nat),
    indented.chars depth value = value.indentedChars depth
  | .null, _ | .flag _, _ | .integer _, _ | .decimal _, _ | .text _, _ => rfl
  | .list [], _ | .table [], _ => rfl
  | .list (item :: items), depth => congrArg ('[' :: ·) (items_indented (item :: items) depth)
  | .table (entry :: entries), depth =>
    congrArg ('\x7b' :: ·) (entries_indented (entry :: entries) depth)

theorem items_indented : ∀ (items : List Json) (depth : Nat),
    indented.items depth items = indentedItems depth items
  | [], _ => rfl
  | [item], depth => by
    simp [Layout.items, indentedItems, chars_indented item]
  | item :: next :: items, depth => by
    simp [Layout.items, indentedItems, chars_indented item, items_indented (next :: items)]

theorem entries_indented : ∀ (entries : List (String × Json)) (depth : Nat),
    indented.entries depth entries = indentedEntries depth entries
  | [], _ => rfl
  | [(key, value)], depth => by
    simp [Layout.entries, indentedEntries, chars_indented value]
  | (key, value) :: next :: entries, depth => by
    simp [Layout.entries, indentedEntries, chars_indented value, entries_indented (next :: entries)]

end

end Layout

namespace Reader

section Strings

variable {done rest : List Char}

/-- A character in front of which there is a backslash, and which is no `u`, is read as what it
stands for. -/
theorem stringFrom_backslash {letter c : Char} (hletter : letter ≠ 'u')
    (hescaped : escaped? letter = some c) :
    stringFrom done none ('\\' :: letter :: rest) = stringFrom (c :: done) none rest := by
  rw [stringFrom, hescaped]
  · exact fun _ _ _ _ _ h _ => hletter h
  · exact hletter

/-- A character that is neither a quote nor a backslash nor a control character is read as it
is. -/
theorem stringFrom_plain {c : Char} (hquote : c ≠ '"') (hbackslash : c ≠ '\\')
    (hplain : 0x20 ≤ c.toNat) :
    stringFrom done none (c :: rest) = stringFrom (c :: done) none rest := by
  rw [stringFrom, if_neg (by omega)]
  · exact hquote
  · exact fun _ _ _ _ _ h => absurd h hbackslash
  · exact fun _ h => absurd h hbackslash
  · exact fun h => absurd h hbackslash
  · exact fun _ _ h => absurd h hbackslash

/-- The number of a control character in four digits. -/
theorem hex4?_control (n : Fin 32) :
    hex4? '0' '0' (hexDigit (n.val / 16)) (hexDigit (n.val % 16)) = some n.val := by
  revert n
  decide

/-- A character is read as it was written. -/
theorem stringFrom_escapeChar (c : Char) :
    stringFrom done none (escapeChar c ++ rest) = stringFrom (c :: done) none rest := by
  unfold escapeChar
  by_cases hquote : c = '"'
  · rw [if_pos hquote]
    exact stringFrom_backslash (by decide) (by rw [hquote]; rfl)
  rw [if_neg hquote]
  by_cases hbackslash : c = '\\'
  · rw [if_pos hbackslash]
    exact stringFrom_backslash (by decide) (by rw [hbackslash]; rfl)
  rw [if_neg hbackslash]
  by_cases hplain : 0x20 ≤ c.toNat
  · rw [if_pos hplain]
    exact stringFrom_plain hquote hbackslash hplain
  rw [if_neg hplain]
  by_cases hfeed : c = '\n'
  · rw [if_pos hfeed]
    exact stringFrom_backslash (by decide) (by rw [hfeed]; rfl)
  rw [if_neg hfeed]
  by_cases hreturn : c = '\r'
  · rw [if_pos hreturn]
    exact stringFrom_backslash (by decide) (by rw [hreturn]; rfl)
  rw [if_neg hreturn]
  by_cases htab : c = '\t'
  · rw [if_pos htab]
    exact stringFrom_backslash (by decide) (by rw [htab]; rfl)
  rw [if_neg htab]
  by_cases hback : c.toNat = 8
  · rw [if_pos hback]
    exact stringFrom_backslash (by decide) (by rw [← Char.ofNat_toNat c, hback]; rfl)
  rw [if_neg hback]
  by_cases hform : c.toNat = 12
  · rw [if_pos hform]
    exact stringFrom_backslash (by decide) (by rw [← Char.ofNat_toNat c, hform]; rfl)
  rw [if_neg hform]
  -- Any other control character is written by its number.
  have hcontrol := hex4?_control ⟨c.toNat, by omega⟩
  have hsurrogate : isSurrogate c.toNat = false := by
    simp only [isSurrogate, Bool.and_eq_false_iff, decide_eq_false_iff_not]
    omega
  simp only [List.cons_append, List.nil_append]
  rw [stringFrom, hcontrol]
  simp [hsurrogate]

theorem stringFrom_flatMap (text : List Char) :
    stringFrom done none (text.flatMap escapeChar ++ '"' :: rest) =
      .ok (.ok (String.ofList (done.reverse ++ text)), rest) := by
  induction text generalizing done with
  | nil => simp [stringFrom]
  | cons c text ih =>
    rw [List.flatMap_cons, List.append_assoc, stringFrom_escapeChar, ih]
    simp

/-- **Quoted texts.** What is written between quotes is read as the text, up to the quote behind
it. -/
theorem stringFrom_quoted (s : String) :
    stringFrom [] none (s.toList.flatMap escapeChar ++ '"' :: rest) = .ok (.ok s, rest) := by
  simpa using @stringFrom_flatMap [] rest s.toList

end Strings

section Values

variable (layout : Layout)

theorem skipBlanks_append {blanks : List Char} (hblanks : ∀ c ∈ blanks, isBlank c = true)
    (rest : List Char) : skipBlanks (blanks ++ rest) = skipBlanks rest :=
  List.dropWhile_append_of_pos hblanks

theorem skipBlanks_lineBreak (depth : Nat) (rest : List Char) :
    skipBlanks (layout.lineBreak depth ++ rest) = skipBlanks rest :=
  skipBlanks_append (layout.lineBreak_blank depth) rest

theorem skipBlanks_cons {c : Char} (hc : isBlank c = false) (rest : List Char) :
    skipBlanks (c :: rest) = c :: rest := by
  simp [skipBlanks, hc]

/-- A written value without numbers begins with a character that is no blank and closes nothing. -/
theorem exists_chars {value : Json} (hvalue : value.numberFree = true) (depth : Nat) :
    ∃ c rest, layout.chars depth value = c :: rest ∧ isBlank c = false ∧ c ≠ ']' ∧ c ≠ '\x7d' := by
  cases value with
  | null => exact ⟨'n', _, rfl, by decide⟩
  | flag value => cases value <;> exact ⟨_, _, rfl, by decide⟩
  | integer n => cases hvalue
  | decimal digits => cases hvalue
  | text s => exact ⟨'"', _, rfl, by decide⟩
  | list items => cases items <;> exact ⟨'[', _, rfl, by decide⟩
  | table entries => cases entries <;> exact ⟨'\x7b', _, rfl, by decide⟩

/-- In front of a written value nothing is skipped. -/
theorem skipBlanks_chars {value : Json} (hvalue : value.numberFree = true) (depth : Nat)
    (rest : List Char) :
    skipBlanks (layout.chars depth value ++ rest) = layout.chars depth value ++ rest := by
  obtain ⟨c, more, hchars, hblank, -⟩ := exists_chars layout hvalue depth
  rw [hchars, List.cons_append, skipBlanks_cons hblank]

/-- The first item of an array is found behind the blanks in front of it. -/
theorem exists_skipBlanks_items {item : Json} (hfree : item.numberFree = true) (items : List Json)
    (depth : Nat) (rest : List Char) :
    ∃ c more, skipBlanks (layout.items depth (item :: items) ++ rest) = c :: more ∧ c ≠ ']' := by
  obtain ⟨c, more, hchars, hblank, hne, -⟩ := exists_chars layout hfree (depth + 1)
  obtain ⟨behind, hbehind⟩ : ∃ behind, layout.items depth (item :: items) ++ rest =
      layout.lineBreak (depth + 1) ++ (layout.chars (depth + 1) item ++ behind) := by
    cases items <;> simp [Layout.items]
  refine ⟨c, more ++ behind, ?_, hne⟩
  rw [hbehind, skipBlanks_lineBreak, hchars, List.cons_append, skipBlanks_cons hblank]

/-- The first entry of an object is found behind the blanks in front of it. -/
theorem exists_skipBlanks_entries (entry : String × Json) (entries : List (String × Json))
    (depth : Nat) (rest : List Char) :
    ∃ more, skipBlanks (layout.entries depth (entry :: entries) ++ rest) = '"' :: more := by
  obtain ⟨behind, hbehind⟩ : ∃ behind, layout.entries depth (entry :: entries) ++ rest =
      layout.lineBreak (depth + 1) ++ '"' :: behind := by
    cases entries <;> simp [Layout.entries, quotedChars]
  exact ⟨behind, by rw [hbehind, skipBlanks_lineBreak, skipBlanks_cons rfl]⟩

section Steps

variable {fuel : Nat} {input after more rest : List Char}

/-- An array is read behind its bracket, if it does not end there. -/
theorem valueFrom_list {items : List Document} (hinput : skipBlanks input = '[' :: after) {c : Char}
    (hafter : skipBlanks after = c :: more) (hne : c ≠ ']')
    (hitems : itemsFrom fuel (c :: more) = (items, .ok rest)) :
    valueFrom (fuel + 1) input = (.list items none, .ok rest) := by
  rw [valueFrom, hinput]
  simp only [hafter]
  split
  · rename_i hclosing
    exact absurd (List.cons.inj hclosing).1 hne
  · rename_i hempty
    cases hempty
  · rw [hitems]
    rfl

/-- An object is read behind its brace, if it does not end there. -/
theorem valueFrom_table {entries : List (String × Document)}
    (hinput : skipBlanks input = '\x7b' :: after) (hafter : skipBlanks after = '"' :: more)
    (hentries : entriesFrom fuel ('"' :: more) = ⟨entries, none, none, .ok rest⟩) :
    valueFrom (fuel + 1) input = (.table entries none none, .ok rest) := by
  rw [valueFrom, hinput]
  simp only [hafter]
  exact congrArg EntriesReading.toValue hentries

/-- The last item stands in front of the closing bracket. -/
theorem itemsFrom_last {item : Document} (hitem : valueFrom fuel input = (item, .ok after))
    (hafter : skipBlanks after = ']' :: rest) :
    itemsFrom (fuel + 1) input = ([item], .ok rest) := by
  rw [itemsFrom, hitem]
  simp only [hafter]

/-- Behind an item and a comma there are the other items. -/
theorem itemsFrom_more {item : Document} {items : List Document}
    (hitem : valueFrom fuel input = (item, .ok after)) (hafter : skipBlanks after = ',' :: more)
    {c : Char} {next : List Char} (hmore : skipBlanks more = c :: next) (hne : c ≠ ']')
    (hitems : itemsFrom fuel (c :: next) = (items, .ok rest)) :
    itemsFrom (fuel + 1) input = (item :: items, .ok rest) := by
  rw [itemsFrom, hitem]
  simp only [hafter, hmore]
  split
  · rename_i hclosing
    exact absurd (List.cons.inj hclosing).1 hne
  · rename_i hempty
    cases hempty
  · rw [hitems]

variable {key : String} {value : Document} {behind : List Char}

/-- The last entry stands in front of the closing brace. -/
theorem entriesFrom_last
    (hinput : skipBlanks input = '"' :: (key.toList.flatMap escapeChar ++ '"' :: ':' :: behind))
    (hvalue : valueFrom fuel behind = (value, .ok after))
    (hafter : skipBlanks after = '\x7d' :: rest) :
    entriesFrom (fuel + 1) input = ⟨[(key, value)], none, none, .ok rest⟩ := by
  rw [entriesFrom, hinput]
  simp only [stringFrom_quoted, skipBlanks_cons (by decide : isBlank ':' = false), hvalue, hafter]
  rfl

/-- Behind an entry and a comma there are the other entries. -/
theorem entriesFrom_more {entries : List (String × Document)}
    (hinput : skipBlanks input = '"' :: (key.toList.flatMap escapeChar ++ '"' :: ':' :: behind))
    (hvalue : valueFrom fuel behind = (value, .ok after))
    (hafter : skipBlanks after = ',' :: more) {next : List Char}
    (hmore : skipBlanks more = '"' :: next)
    (hentries : entriesFrom fuel ('"' :: next) = ⟨entries, none, none, .ok rest⟩) :
    entriesFrom (fuel + 1) input = ⟨(key, value) :: entries, none, none, .ok rest⟩ := by
  rw [entriesFrom, hinput]
  simp only [stringFrom_quoted, skipBlanks_cons (by decide : isBlank ':' = false), hvalue, hafter,
    hmore]
  exact congrArg (EntriesReading.after (.ok key) value) hentries

end Steps

-- The inductions follow the value. Fuel is used up by nesting and by neighbours alike, so it is
-- bounded by the length of the written text and not by the depth of the value.
mutual

/-- **Written values.** A value without numbers is read, in any layout, as its document, up to what
follows it. -/
theorem valueFrom_chars : ∀ (value : Json) (depth fuel : Nat) (input rest : List Char),
    value.numberFree = true → (layout.chars depth value).length < fuel →
      skipBlanks input = layout.chars depth value ++ rest →
        valueFrom fuel input = (Document.ofValue value, .ok rest)
  | .null, depth, fuel + 1, input, rest, _, _, hinput => by
    rw [valueFrom, hinput]
    rfl
  | .flag true, depth, fuel + 1, input, rest, _, _, hinput => by
    rw [valueFrom, hinput]
    rfl
  | .flag false, depth, fuel + 1, input, rest, _, _, hinput => by
    rw [valueFrom, hinput]
    rfl
  | .text s, depth, fuel + 1, input, rest, _, _, hinput => by
    have hchars : layout.chars depth (.text s) ++ rest =
        '"' :: (s.toList.flatMap escapeChar ++ '"' :: rest) := by
      simp [Layout.chars, compactChars, quotedChars]
    rw [valueFrom, hinput, hchars]
    simp only [stringFrom_quoted, Document.ofValue]
  | .list [], depth, fuel + 1, input, rest, _, _, hinput => by
    rw [valueFrom, hinput]
    rfl
  | .list (item :: items), depth, fuel + 1, input, rest, hfree, hfuel, hinput => by
    have hitem : item.numberFree = true := (Bool.and_eq_true_iff.1 hfree).1
    have hread := itemsFrom_items (item :: items) depth fuel rest (List.cons_ne_nil _ _) hfree
      (by simpa [Layout.chars] using hfuel)
    obtain ⟨c, more, hstart, hne⟩ := exists_skipBlanks_items layout hitem items depth rest
    rw [hstart] at hread
    exact valueFrom_list hinput hstart hne hread
  | .table [], depth, fuel + 1, input, rest, _, _, hinput => by
    rw [valueFrom, hinput]
    rfl
  | .table (entry :: entries), depth, fuel + 1, input, rest, hfree, hfuel, hinput => by
    have hread := entriesFrom_entries (entry :: entries) depth fuel rest (List.cons_ne_nil _ _)
      hfree (by simpa [Layout.chars] using hfuel)
    obtain ⟨more, hstart⟩ := exists_skipBlanks_entries layout entry entries depth rest
    rw [hstart] at hread
    exact valueFrom_table hinput hstart hread

/-- Written items are read as their documents, up to the closing bracket. -/
theorem itemsFrom_items : ∀ (items : List Json) (depth fuel : Nat) (rest : List Char),
    items ≠ [] → numberFreeItems items = true → (layout.items depth items).length < fuel →
      itemsFrom fuel (skipBlanks (layout.items depth items ++ rest)) =
        (Document.ofValues items, .ok rest)
  | [], _, _, _, hne, _, _ => absurd rfl hne
  | [item], depth, fuel + 1, rest, _, hfree, hfuel => by
    have hitem : item.numberFree = true := (Bool.and_eq_true_iff.1 hfree).1
    have hchars : layout.items depth [item] ++ rest = layout.lineBreak (depth + 1) ++
        (layout.chars (depth + 1) item ++ (layout.lineBreak depth ++ ']' :: rest)) := by
      simp [Layout.items]
    have hread := valueFrom_chars item (depth + 1) fuel _ (layout.lineBreak depth ++ ']' :: rest)
      hitem (by simp [Layout.items] at hfuel; omega) (skipBlanks_chars layout hitem _ _)
    rw [hchars, skipBlanks_lineBreak, skipBlanks_chars layout hitem]
    refine itemsFrom_last hread ?_
    rw [skipBlanks_lineBreak, skipBlanks_cons rfl]
  | item :: next :: items, depth, fuel + 1, rest, _, hfree, hfuel => by
    obtain ⟨hitem, hrest⟩ := Bool.and_eq_true_iff.1 hfree
    have hnext : next.numberFree = true := (Bool.and_eq_true_iff.1 hrest).1
    have hchars : layout.items depth (item :: next :: items) ++ rest =
        layout.lineBreak (depth + 1) ++ (layout.chars (depth + 1) item ++
          ',' :: (layout.items depth (next :: items) ++ rest)) := by
      simp [Layout.items]
    have hlength : (layout.chars (depth + 1) item).length < fuel ∧
        (layout.items depth (next :: items)).length < fuel := by
      simp [Layout.items] at hfuel
      omega
    have hread := valueFrom_chars item (depth + 1) fuel _
      (',' :: (layout.items depth (next :: items) ++ rest)) hitem hlength.1
      (skipBlanks_chars layout hitem _ _)
    have hothers := itemsFrom_items (next :: items) depth fuel rest (List.cons_ne_nil _ _) hrest
      hlength.2
    obtain ⟨c, more, hstart, hne⟩ := exists_skipBlanks_items layout hnext items depth rest
    rw [hstart] at hothers
    rw [hchars, skipBlanks_lineBreak, skipBlanks_chars layout hitem]
    exact itemsFrom_more hread (skipBlanks_cons rfl _) hstart hne hothers

/-- Written entries are read as their documents, up to the closing brace. -/
theorem entriesFrom_entries : ∀ (entries : List (String × Json)) (depth fuel : Nat)
    (rest : List Char), entries ≠ [] → numberFreeEntries entries = true →
      (layout.entries depth entries).length < fuel →
        entriesFrom fuel (skipBlanks (layout.entries depth entries ++ rest)) =
          ⟨Document.ofEntries entries, none, none, .ok rest⟩
  | [], _, _, _, hne, _, _ => absurd rfl hne
  | [(key, value)], depth, fuel + 1, rest, _, hfree, hfuel => by
    have hvalue : value.numberFree = true := (Bool.and_eq_true_iff.1 hfree).1
    let behind := layout.lineBreak depth ++ '\x7d' :: rest
    have hchars : layout.entries depth [(key, value)] ++ rest = layout.lineBreak (depth + 1) ++
        '"' :: (key.toList.flatMap escapeChar ++ '"' :: ':' ::
          (layout.gap ++ (layout.chars (depth + 1) value ++ behind))) := by
      simp [Layout.entries, quotedChars, behind]
    have hread := valueFrom_chars value (depth + 1) fuel
      (layout.gap ++ (layout.chars (depth + 1) value ++ behind)) behind hvalue
      (by simp [Layout.entries] at hfuel; omega)
      (by rw [skipBlanks_append layout.gap_blank, skipBlanks_chars layout hvalue])
    rw [hchars, skipBlanks_lineBreak]
    refine entriesFrom_last rfl hread ?_
    rw [skipBlanks_lineBreak, skipBlanks_cons rfl]
  | (key, value) :: next :: entries, depth, fuel + 1, rest, _, hfree, hfuel => by
    obtain ⟨hvalue, hrest⟩ := Bool.and_eq_true_iff.1 hfree
    let behind := ',' :: (layout.entries depth (next :: entries) ++ rest)
    have hchars : layout.entries depth ((key, value) :: next :: entries) ++ rest =
        layout.lineBreak (depth + 1) ++ '"' :: (key.toList.flatMap escapeChar ++ '"' :: ':' ::
          (layout.gap ++ (layout.chars (depth + 1) value ++ behind))) := by
      simp [Layout.entries, quotedChars, behind]
    have hlength : (layout.chars (depth + 1) value).length < fuel ∧
        (layout.entries depth (next :: entries)).length < fuel := by
      simp [Layout.entries] at hfuel
      omega
    have hread := valueFrom_chars value (depth + 1) fuel
      (layout.gap ++ (layout.chars (depth + 1) value ++ behind)) behind hvalue hlength.1
      (by rw [skipBlanks_append layout.gap_blank, skipBlanks_chars layout hvalue])
    have hothers := entriesFrom_entries (next :: entries) depth fuel rest (List.cons_ne_nil _ _)
      hrest hlength.2
    obtain ⟨more, hstart⟩ := exists_skipBlanks_entries layout next entries depth rest
    rw [hstart] at hothers
    rw [hchars, skipBlanks_lineBreak]
    exact entriesFrom_more rfl hread (skipBlanks_cons rfl _) hstart hothers

end

end Values

end Reader

/-- A text in any layout, with nothing but blanks behind it, is read as the document of its
value. -/
theorem ofText_chars (layout : Layout) {value : Json} (hvalue : value.numberFree = true)
    (blanks : List Char) (hblanks : ∀ c ∈ blanks, Reader.isBlank c = true) {text : String}
    (htext : text.toList = layout.chars 0 value ++ blanks) :
    Document.ofText text = (Document.ofValue value, none) := by
  have hread := Reader.valueFrom_chars layout value 0
    ((layout.chars 0 value ++ blanks).length + 2) (layout.chars 0 value ++ blanks) blanks hvalue
    (by simp; omega) (Reader.skipBlanks_chars layout hvalue 0 _)
  have hend : Reader.skipBlanks blanks = [] := by
    rw [← List.append_nil blanks, Reader.skipBlanks_append hblanks]
    rfl
  rw [Document.ofText, htext]
  simp only [hread, hend]
  rfl

/-- **Written texts.** The text of a value without numbers, and the end of its line, are read as the
document of the value, with nothing behind it. -/
theorem ofText_indented {value : Json} (hvalue : value.numberFree = true) :
    Document.ofText (value.indented ++ "\n") = (Document.ofValue value, none) :=
  ofText_chars .indented hvalue ['\n'] (fun _ hc => List.mem_singleton.1 hc ▸ rfl)
    (by simp [indented, Layout.chars_indented])

/-- The compact text of a value without numbers is read as its document. -/
theorem ofText_compact {value : Json} (hvalue : value.numberFree = true) :
    Document.ofText value.compact = (Document.ofValue value, none) :=
  ofText_chars .compact hvalue [] nofun (by simp [compact, Layout.chars_compact])

end FieldAccess.Json
