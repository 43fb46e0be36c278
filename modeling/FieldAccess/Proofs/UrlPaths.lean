import FieldAccess.Net.Url
import FieldAccess.Proofs.Texts

/-!
# Paths of addresses

What the path of an address says when it goes on behind a slash. The points in it stand for the
same places then, and so the part of it that comes first is kept, whatever follows.

## Main definitions

* `Url.pass` – the segments after one more segment of a path that goes on.
* `Url.kept` – the segments of a path that goes on.

## Main statements

* `Url.readPath_append` – a path that goes on.
* `Url.exists_readPath_slashes` – a path that ends in slashes.
* `Url.rdropWhile_pathText_iff` – whether a path without the slashes at its end is what is kept.
* `Url.readPath_append_blanks` – a path that goes on behind blanks.
-/

namespace FieldAccess

namespace Text

variable {isSeparator : Char → Bool}

theorem splitOn_ne_nil (text : List Char) : splitOn isSeparator text ≠ [] := by
  cases text with
  | nil => exact List.cons_ne_nil _ _
  | cons c text =>
    rw [splitOn]
    split
    · exact List.cons_ne_nil _ _
    · split <;> exact List.cons_ne_nil _ _

theorem splitOn_append_cons {c : Char} (hc : isSeparator c = true) (front back : List Char) :
    splitOn isSeparator (front ++ c :: back) =
      splitOn isSeparator front ++ splitOn isSeparator back := by
  induction front with
  | nil => simp only [List.nil_append, splitOn, hc, if_true, List.cons_append]
  | cons d front ih =>
    simp only [List.cons_append, splitOn, ih]
    split
    · rfl
    · cases hfront : splitOn isSeparator front with
      | nil => exact absurd hfront (splitOn_ne_nil front)
      | cons part parts => rfl

theorem splitOn_of_none {text : List Char} (h : ∀ c ∈ text, isSeparator c = false) :
    splitOn isSeparator text = [text] := by
  induction text with
  | nil => rfl
  | cons c text ih =>
    rw [List.forall_mem_cons] at h
    rw [splitOn, if_neg (by simp [h.1]), ih h.2]

theorem separator_of_mem_splitOn {text part : List Char} (h : part ∈ splitOn isSeparator text) :
    ∀ c ∈ part, isSeparator c = false := by
  induction text generalizing part with
  | nil =>
    obtain rfl := List.mem_singleton.1 h
    exact fun _ hc => absurd hc List.not_mem_nil
  | cons c text ih =>
    rw [splitOn] at h
    split at h
    · rcases List.mem_cons.1 h with rfl | h
      · exact fun _ hc => absurd hc List.not_mem_nil
      · exact ih h
    · rename_i hc
      split at h
      · rename_i hnil
        exact absurd hnil (splitOn_ne_nil text)
      · rename_i first parts hparts
        rcases List.mem_cons.1 h with rfl | h
        · rw [List.forall_mem_cons]
          exact ⟨by simpa using hc, ih (hparts ▸ List.mem_cons_self)⟩
        · exact ih (hparts ▸ List.mem_cons_of_mem first h)

theorem splitOn_replicate {c : Char} (hc : isSeparator c = true) (count : Nat) :
    splitOn isSeparator (List.replicate count c) = List.replicate (count + 1) [] := by
  induction count with
  | zero => rfl
  | succ count ih => rw [List.replicate_succ, splitOn, if_pos hc, ih]; rfl

end Text

namespace Net.Url

open Text

/-! ### Points -/

/-- A segment that does not consist of points. -/
def IsName (segment : List Char) : Prop := isDoubleDot segment = false ∧ isSingleDot segment = false

/-- The segments, in reverse, after one more segment of a path that goes on. -/
def pass (done : List (List Char)) (segment : List Char) : List (List Char) :=
  if isDoubleDot segment then leaveLast done
  else if isSingleDot segment then done
  else segment :: done

theorem resolveDots_append {rest : List (List Char)} (hrest : rest ≠ [])
    (done segments : List (List Char)) :
    resolveDots done (segments ++ rest) = resolveDots (segments.foldl pass done) rest := by
  induction segments generalizing done with
  | nil => rfl
  | cons segment segments ih =>
    have hgoes : (segments ++ rest).isEmpty = false := by
      rw [List.isEmpty_eq_false_iff]
      exact List.append_ne_nil_of_right_ne_nil segments hrest
    simp only [List.cons_append, resolveDots, hgoes, List.foldl_cons, pass, Bool.false_eq_true,
      if_false, ih]
    split
    · rfl
    · split <;> rfl

theorem resolveDots_names {names : List (List Char)} (h : ∀ name ∈ names, IsName name)
    (done : List (List Char)) : resolveDots done names = done.reverse ++ names := by
  induction names generalizing done with
  | nil => simp [resolveDots]
  | cons name names ih =>
    rw [List.forall_mem_cons] at h
    rw [resolveDots, if_neg (by simp [h.1.1]), if_neg (by simp [h.1.2]), ih h.2]
    simp

/-- Points at the end of a path stand for an empty segment. -/
theorem resolveDots_singleton (done : List (List Char)) (segment : List Char) :
    resolveDots done [segment] = (pass done segment).reverse ++
      if isDoubleDot segment || isSingleDot segment then [[]] else [] := by
  simp only [resolveDots, List.isEmpty_nil, if_true, pass]
  by_cases hdouble : isDoubleDot segment = true
  · simp [hdouble]
  · by_cases hsingle : isSingleDot segment = true
    · simp [hdouble, hsingle]
    · simp [hdouble, hsingle]

/-! ### Segments -/

/-- The segments of a path as they are written. -/
def writtenSegments (text : List Char) : List (List Char) :=
  (splitOn (isSlash .network) text).map (encodeMarks pathMarks)

theorem writtenSegments_ne_nil (text : List Char) : writtenSegments text ≠ [] := by
  simp [writtenSegments, splitOn_ne_nil]

theorem writtenSegments_append {slash : Char} (hslash : isSlash .network slash = true)
    (text more : List Char) :
    writtenSegments (text ++ slash :: more) = writtenSegments text ++ writtenSegments more := by
  rw [writtenSegments, splitOn_append_cons hslash, List.map_append]
  rfl

theorem writtenSegments_of_none {text : List Char} (h : ∀ c ∈ text, isSlash .network c = false) :
    writtenSegments text = [encodeMarks pathMarks text] := by
  rw [writtenSegments, splitOn_of_none h, List.map_singleton]

theorem writtenSegments_slashes (count : Nat) :
    writtenSegments (List.replicate count '/') = List.replicate (count + 1) [] := by
  rw [writtenSegments, splitOn_replicate (by decide), List.map_replicate]
  rfl

/-- The segments of a path that goes on behind another slash. -/
def kept : List Char → List (List Char)
  | [] => []
  | _ :: text => ((writtenSegments text).foldl pass []).reverse

variable {path : List Char}

/-- **Paths that go on.** What follows behind a slash does not change what is kept before it. -/
theorem readPath_append (hpath : ∀ c ∈ path.head?, isSlash .network c = true) {slash : Char}
    (hslash : isSlash .network slash = true) (more : List Char) :
    readPath .network (path ++ slash :: more) =
      .hierarchical (resolveDots (kept path).reverse (writtenSegments more)) := by
  have hread : ∀ text, readSegments .network text =
      .hierarchical (resolveDots [] (writtenSegments text)) := fun text => by
    simp [readSegments, writtenSegments]
  cases path with
  | nil =>
    rw [List.nil_append, readPath, if_pos hslash, hread]
    rfl
  | cons c text =>
    rw [List.cons_append, readPath, if_pos (hpath c rfl), hread, writtenSegments_append hslash,
      resolveDots_append (writtenSegments_ne_nil more), kept, List.reverse_reverse]

/-- Names behind a path are its last segments. -/
theorem readPath_append_names (hpath : ∀ c ∈ path.head?, isSlash .network c = true)
    {more : List Char} (hmore : ∀ segment ∈ writtenSegments more, IsName segment) :
    readPath .network (path ++ '/' :: more) =
      .hierarchical (kept path ++ writtenSegments more) := by
  rw [readPath_append hpath (by decide), resolveDots_names hmore, List.reverse_reverse]

/-- Slashes behind a path are empty segments at its end. -/
theorem exists_readPath_slashes (hpath : ∀ c ∈ path.head?, isSlash .network c = true)
    (count : Nat) : ∃ slashes,
      readPath .network (path ++ List.replicate count '/') =
        .hierarchical (kept path ++ List.replicate slashes []) := by
  cases count with
  | zero =>
    rw [List.replicate_zero, List.append_nil]
    cases path with
    | nil => exact ⟨1, rfl⟩
    | cons c text =>
      -- Without a further slash, points at the end stand for an empty segment.
      obtain ⟨before, last, hsegments⟩ :=
        (List.eq_nil_or_concat' (writtenSegments text)).resolve_left (writtenSegments_ne_nil text)
      have hread : readPath .network ([] ++ c :: text) =
          .hierarchical (resolveDots (kept []).reverse (writtenSegments text)) :=
        readPath_append (by simp) (hpath c rfl) text
      have hkept : kept (c :: text) = (pass (before.foldl pass []) last).reverse := by
        rw [kept, hsegments, List.foldl_append]
        rfl
      rw [List.nil_append, hsegments, resolveDots_append (List.cons_ne_nil _ _),
        resolveDots_singleton] at hread
      rw [hread, hkept]
      split
      · exact ⟨1, rfl⟩
      · exact ⟨0, rfl⟩
  | succ count =>
    refine ⟨count + 1, ?_⟩
    have hnames : ∀ segment ∈ writtenSegments (List.replicate count '/'), IsName segment := by
      intro segment hsegment
      rw [writtenSegments_slashes, List.mem_replicate] at hsegment
      rw [hsegment.2]
      constructor <;> decide
    rw [List.replicate_succ, readPath_append_names hpath hnames, writtenSegments_slashes]

/-! ### Written paths -/

theorem utf8Bytes_lt (c : Char) : ∀ byte ∈ utf8Bytes c, byte < 256 := by
  have hc : c.toNat < 0x110000 := by
    rcases c.valid with h | h
    · exact Nat.lt_trans h (by decide)
    · exact h.2
  simp only [utf8Bytes]
  split
  · simp only [List.mem_singleton]
    omega
  · split
    · simp only [List.mem_cons, List.not_mem_nil, or_false]
      omega
    · split <;> simp only [List.mem_cons, List.not_mem_nil, or_false] <;> omega

/-- The encoding of characters writes no slashes. -/
theorem slash_notMem_encodeMarks {text : List Char} (h : '/' ∉ text) (marks : List Char) :
    '/' ∉ encodeMarks marks text := by
  have hbytes : ∀ byte : Fin 256, '/' ∉ encodedByte byte := by decide +kernel
  intro hslash
  obtain ⟨c, hc, hslash⟩ := List.mem_flatMap.1 hslash
  split at hslash
  · obtain ⟨byte, hbyte, hslash⟩ := List.mem_flatMap.1 hslash
    exact hbytes ⟨byte, utf8Bytes_lt c byte hbyte⟩ hslash
  · rw [List.mem_singleton.1 hslash] at h
    exact h hc

theorem slash_notMem_of_mem_writtenSegments {text segment : List Char}
    (h : segment ∈ writtenSegments text) : '/' ∉ segment := by
  obtain ⟨part, hpart, rfl⟩ := List.mem_map.1 h
  refine slash_notMem_encodeMarks (fun hslash => ?_) pathMarks
  have hnone := separator_of_mem_splitOn hpart '/' hslash
  revert hnone
  decide

theorem mem_foldl_pass {segments done : List (List Char)} {segment : List Char}
    (h : segment ∈ segments.foldl pass done) : segment ∈ segments ∨ segment ∈ done := by
  induction segments generalizing done with
  | nil => exact .inr h
  | cons first segments ih =>
    rcases ih h with hrest | hdone
    · exact .inl (List.mem_cons_of_mem first hrest)
    · rw [pass] at hdone
      split at hdone
      · cases done with
        | nil => cases hdone
        | cons last before =>
          rw [leaveLast] at hdone
          split at hdone
          · exact .inr hdone
          · exact .inr (List.mem_cons_of_mem last hdone)
      · split at hdone
        · exact .inr hdone
        · rcases List.mem_cons.1 hdone with rfl | hdone
          · exact .inl List.mem_cons_self
          · exact .inr hdone

theorem slash_notMem_kept {segment : List Char} (h : segment ∈ kept path) : '/' ∉ segment := by
  cases path with
  | nil => cases h
  | cons c text =>
    rcases mem_foldl_pass (List.mem_reverse.1 h) with hwritten | hnil
    · exact slash_notMem_of_mem_writtenSegments hwritten
    · cases hnil

theorem pathText_append (front back : List (List Char)) :
    pathText (.hierarchical (front ++ back)) =
      pathText (.hierarchical front) ++ pathText (.hierarchical back) :=
  List.flatMap_append

theorem pathText_slashes (count : Nat) :
    pathText (.hierarchical (List.replicate count [])) = List.replicate count '/' := by
  simp [pathText, List.flatMap_replicate]

/-- The text of a path without the slashes at its end is that of what is kept of it, unless this
ends in a slash, too. -/
theorem rdropWhile_pathText_iff (path : List Char) (count : Nat) :
    (pathText (.hierarchical (kept path ++ List.replicate count []))).rdropWhile (· == '/') =
      pathText (.hierarchical (kept path)) ↔ (kept path).getLast? ≠ some [] := by
  have hslashes : ∀ text : List Char, (text ++ List.replicate count '/').rdropWhile (· == '/') =
      text.rdropWhile (· == '/') := by
    intro text
    induction count with
    | zero => simp
    | succ count ih =>
      rw [List.replicate_succ', ← List.append_assoc, List.rdropWhile_concat_pos _ _ _ rfl, ih]
  rw [pathText_append, pathText_slashes, hslashes, List.rdropWhile_eq_self_iff]
  rcases List.eq_nil_or_concat' (kept path) with hnil | ⟨before, last, hlast⟩
  · simp [hnil, pathText]
  · have hmem : last ∈ kept path := by
      rw [hlast]
      simp
    have hslash := slash_notMem_kept hmem
    rw [hlast, List.getLast?_concat, pathText_append]
    rcases List.eq_nil_or_concat' last with rfl | ⟨name, c, rfl⟩
    · simp [pathText]
    · have hc : '/' ≠ c := fun h => hslash (by rw [h]; simp)
      simp [pathText, hc.symm]

/-! ### Blanks behind paths -/

/-- A segment does not consist of points if it ends in an encoded blank. -/
theorem isName_append_encodedByte (front : List Char) (byte : Fin 33) :
    IsName (front ++ encodedByte byte) := by
  -- Already the last three characters tell it from all ways to write points.
  have hends : ∀ written : String,
      ((encodedByte byte).map Char.toLower).reverse ≠ written.toList.reverse.take 3 →
        String.ofList ((front ++ encodedByte byte).map Char.toLower) ≠ written := by
    rintro _ hne rfl
    refine hne ?_
    rw [String.toList_ofList, List.map_append, List.reverse_append]
    exact (List.take_left' (by simp [encodedByte])).symm
  have hmarks : ∀ written ∈ ["..", "%2e.", ".%2e", "%2e%2e", ".", "%2e"], ∀ byte : Fin 33,
      ((encodedByte byte).map Char.toLower).reverse ≠ written.toList.reverse.take 3 := by
    decide +kernel
  have hnone : ∀ written ∈ ["..", "%2e.", ".%2e", "%2e%2e", ".", "%2e"],
      String.ofList ((front ++ encodedByte byte).map Char.toLower) ≠ written :=
    fun written hwritten => hends written (hmarks written hwritten byte)
  simp only [List.forall_mem_cons] at hnone
  obtain ⟨h1, h2, h3, h4, h5, h6, -⟩ := hnone
  constructor
  · simp only [isDoubleDot, List.contains_eq_mem, List.mem_cons, h1, h2, h3, h4, List.not_mem_nil,
      or_self, decide_false]
  · simp only [isSingleDot, List.contains_eq_mem, List.mem_cons, h5, h6, List.not_mem_nil,
      or_self, decide_false]

/-- With blanks at its end, a segment is a longer one that does not consist of points. -/
theorem encodeMarks_append_blanks {blanks : List Char} (hblanks : ∀ c ∈ blanks, c.toNat ≤ 0x20)
    (hsome : blanks ≠ []) (text : List Char) :
    IsName (encodeMarks pathMarks (text ++ blanks)) ∧
      (encodeMarks pathMarks text).length < (encodeMarks pathMarks (text ++ blanks)).length := by
  obtain ⟨before, blank, rfl⟩ := (List.eq_nil_or_concat' blanks).resolve_left hsome
  have hblank : blank.toNat ≤ 0x20 := hblanks blank (by simp)
  have hencoded : encodeMarks pathMarks [blank] = encodedByte blank.toNat :=
    forall_le_space (P := fun c => encodeMarks pathMarks [c] = encodedByte c.toNat)
      (by decide +kernel) hblank
  have happend : ∀ front back, encodeMarks pathMarks (front ++ back) =
      encodeMarks pathMarks front ++ encodeMarks pathMarks back :=
    fun _ _ => List.flatMap_append
  rw [happend, happend, hencoded]
  constructor
  · rw [← List.append_assoc]
    exact isName_append_encodedByte _ ⟨blank.toNat, Nat.lt_succ_of_le hblank⟩
  · simp [encodedByte]

theorem length_pathText_leaveLast (done : List (List Char)) :
    (pathText (.hierarchical (leaveLast done).reverse)).length ≤
      (pathText (.hierarchical done.reverse)).length := by
  cases done with
  | nil => exact Nat.le_refl _
  | cons last before =>
    rw [leaveLast]
    split
    · exact Nat.le_refl _
    · rw [List.reverse_cons, pathText_append, List.length_append]
      exact Nat.le_add_right _ _

/-- What points at the end of a path stand for is not longer than the points. -/
theorem length_pathText_resolveDots (done : List (List Char)) (segment : List Char) :
    (pathText (.hierarchical (resolveDots done [segment]))).length ≤
      (pathText (.hierarchical (done.reverse ++ [segment]))).length := by
  rw [resolveDots_singleton, pathText_append, pathText_append, pass]
  by_cases hdouble : isDoubleDot segment = true
  · simp only [hdouble, if_true, Bool.true_or, List.length_append]
    exact Nat.add_le_add (length_pathText_leaveLast done) (by simp [pathText])
  · by_cases hsingle : isSingleDot segment = true
    · simp [hdouble, hsingle, pathText]
    · simp [hdouble, hsingle, pathText]

/-- **Blanks behind paths.** Blanks between a path and names behind it lengthen what stands before
the names. -/
theorem readPath_append_blanks (hpath : ∀ c ∈ path.head?, isSlash .network c = true)
    (hnonempty : path ≠ []) {blanks : List Char} (hblanks : ∀ c ∈ blanks, c.toNat ≤ 0x20)
    (hsome : blanks ≠ []) {more : List Char}
    (hmore : ∀ segment ∈ writtenSegments more, IsName segment) :
    ∃ longer, readPath .network (path ++ blanks ++ '/' :: more) =
        .hierarchical (longer ++ writtenSegments more) ∧
      (pathText (readPath .network path)).length < (pathText (.hierarchical longer)).length := by
  -- The blanks belong to the last segment of the path.
  obtain ⟨front, slash, last, rfl, hslash, hlast⟩ : ∃ front slash last,
      path = front ++ slash :: last ∧ isSlash .network slash = true ∧
        ∀ c ∈ last, isSlash .network c = false := by
    obtain ⟨c, text, rfl⟩ := List.exists_cons_of_ne_nil hnonempty
    exact exists_last ⟨c, List.mem_cons_self, hpath c rfl⟩
  have hfront : ∀ c ∈ front.head?, isSlash .network c = true := by
    cases front with
    | nil => simp
    | cons c front => exact hpath
  have hnone : ∀ c ∈ last ++ blanks, isSlash .network c = false := by
    refine List.forall_mem_append.2 ⟨hlast, fun c hc => ?_⟩
    exact forall_le_space (P := fun c => isSlash .network c = false) (by decide +kernel)
      (hblanks c hc)
  obtain ⟨hname, hlonger⟩ := encodeMarks_append_blanks hblanks hsome last
  have hnames : ∀ segment ∈ writtenSegments (last ++ blanks) ++ writtenSegments more,
      IsName segment := by
    rw [writtenSegments_of_none hnone]
    exact List.forall_mem_cons.2 ⟨hname, hmore⟩
  have htext : front ++ slash :: last ++ blanks ++ '/' :: more =
      front ++ slash :: (last ++ blanks ++ '/' :: more) := by simp
  refine ⟨kept front ++ [encodeMarks pathMarks (last ++ blanks)], ?_, ?_⟩
  · rw [htext, readPath_append hfront hslash, writtenSegments_append (by decide),
      resolveDots_names hnames, List.reverse_reverse, writtenSegments_of_none hnone,
      List.append_assoc]
  · rw [readPath_append hfront hslash, writtenSegments_of_none hlast]
    refine Nat.lt_of_le_of_lt (length_pathText_resolveDots _ _) ?_
    rw [List.reverse_reverse, pathText_append, pathText_append]
    simpa [pathText] using hlonger

end Net.Url

end FieldAccess
