import FieldAccess.Proofs.Addresses

/-!
# Refused hosts

No host ends in a blank or in a control character. The last character of a name is kept by the
decoding of encoded bytes, by the images of characters and by the composition, and there it is
refused. In an address of version 6 the last character has to be a bracket, and in a port it has to
be a digit.

## Main statements

* `Domain.read?_append_blank` – no name ends in a blank.
* `Url.readBare_append_blank` – no authority ends in a blank.
-/

namespace FieldAccess

variable {blank : Char}

theorem blank_properties (h : blank.toNat ≤ 0x20) :
    Text.lowercaseChar blank = [blank] ∧ Net.Domain.isRefusedAscii blank = true ∧
      Net.hexValue? blank = none ∧ Text.isDigit blank = false ∧
      blank ∉ [':', '[', ']', '@', '\\'] :=
  Text.forall_le_space (P := fun c => Text.lowercaseChar c = [c] ∧
    Net.Domain.isRefusedAscii c = true ∧ Net.hexValue? c = none ∧ Text.isDigit c = false ∧
    c ∉ [':', '[', ']', '@', '\\']) (by decide +kernel) h

namespace Text

/-! ### Composition -/

theorem composite?_of_not_mark {c : Char} (h : c.toNat < 0x300) (base : Char) :
    composite? base c = none := by
  have hmarks : ∀ entry ∈ compositeTexts, 0x300 ≤ entry.1 := by decide +kernel
  have hhangul : hangulComposite? base.toNat c.toNat = none := by
    have hvowel : 0x300 ≤ hangulVowel := by decide
    have htrailing : 0x300 ≤ hangulTrailing := by decide
    rw [hangulComposite?, if_neg, if_neg]
    all_goals
      simp only [Bool.and_eq_true, decide_eq_true_eq]
      omega
  rw [composite?, hhangul]
  refine List.findSome?_eq_none_iff.2 fun entry hentry => ?_
  have hmark := hmarks entry hentry
  exact if_neg (by omega)

theorem combiningClass_of_not_mark {c : Char} (h : c.toNat < 0x300) : combiningClass c = 0 := by
  rw [combiningClass, if_pos h]

theorem decomposed_append {c : Char} (h : c.toNat < 0x80) (text : List Char) :
    decomposed (text ++ [c]) = decomposed text ++ [c] := by
  have hparts : parts mostMarks c = [c] := if_pos h
  have hclass : combiningClass c = 0 := combiningClass_of_not_mark (by omega)
  have hinsert : ∀ done, insertMark c 0 done = c :: done := by
    intro done
    cases done with
    | nil => rfl
    | cons d done => simp [insertMark]
  rw [decomposed, decomposed, List.flatMap_append, List.flatMap_singleton, hparts,
    List.foldl_append, List.foldl_cons, List.foldl_nil, hclass, hinsert, List.reverse_cons]

theorem mem_composeFrom_append {c : Char} (h : c.toNat < 0x300) (text : List Char) (base : Char)
    (marks : List Char) (order : Nat) : c ∈ composeFrom base marks order (text ++ [c]) := by
  induction text generalizing base marks order with
  | nil =>
    simp [composeFrom, composite?_of_not_mark h, combiningClass_of_not_mark h]
  | cons d text ih =>
    rw [List.cons_append, composeFrom]
    split
    · exact ih ..
    · split
      · exact List.mem_append_right _ (ih ..)
      · exact ih ..

/-- A character at the end of a text that is no mark stays there when the text is composed. -/
theorem mem_composed_append {c : Char} (h : c.toNat < 0x80) (text : List Char) :
    c ∈ composed (text ++ [c]) := by
  rw [composed, decomposed_append h]
  induction decomposed text with
  | nil =>
    simp [recomposed, composeFrom, combiningClass_of_not_mark (Nat.lt_trans h (by decide))]
  | cons d text ih =>
    rw [List.cons_append, recomposed]
    split
    · exact mem_composeFrom_append (by omega) text d [] 0
    · exact List.mem_cons_of_mem d ih

/-! ### Bytes -/

namespace Utf8

theorem continuing_le {bounds : Nat × Nat} (hbounds : 0x80 ≤ bounds.1) {byte : Nat}
    (hbyte : byte < 0x80) (count : Nat) (bytes : List Nat) :
    continuing bounds count (bytes ++ [byte]) ≤ bytes.length := by
  induction bytes generalizing bounds count with
  | nil =>
    cases count with
    | zero => exact Nat.le_refl _
    | succ count =>
      rw [List.nil_append, continuing, if_neg]
      · exact Nat.le_refl _
      · simp only [Bool.and_eq_true, decide_eq_true_eq]
        omega
  | cons first bytes ih =>
    cases count with
    | zero => exact Nat.zero_le _
    | succ count =>
      rw [List.cons_append, continuing]
      split
      · have hrest : continuing (0x80, 0xbf) count (bytes ++ [byte]) ≤ bytes.length :=
          ih (Nat.le_refl _) count
        rw [List.length_cons]
        omega
      · exact Nat.zero_le _

theorem le_secondBounds (first : Nat) : 0x80 ≤ (secondBounds first).1 := by
  rw [secondBounds]
  repeat' split
  all_goals decide

/-- A byte of ASCII at the end is the last character. -/
theorem decodeFrom_append {byte : Nat} (hbyte : byte < 0x80) {limit index : Nat} {bytes : List Nat}
    (hlimit : bytes.length < limit) {text : List Char}
    (h : decodeFrom limit index (bytes ++ [byte]) = .ok text) :
    ∃ front, text = front ++ [Char.ofNat byte] := by
  induction limit generalizing index bytes text with
  | zero => exact absurd hlimit (Nat.not_lt_zero _)
  | succ limit ih =>
    cases bytes with
    | nil =>
      have hstart : start byte [] = .char (Char.ofNat byte) 1 := by
        simp [start, followers?, hbyte, continuing, codePoint]
      have hrest : decodeFrom limit (index + 1) [] = .ok [] := by
        cases limit <;> rfl
      simp only [List.nil_append, decodeFrom, hstart, List.drop_nil, hrest] at h
      exact ⟨[], (Except.ok.inj h).symm⟩
    | cons first bytes =>
      rw [List.length_cons] at hlimit
      rw [List.cons_append, decodeFrom] at h
      split at h
      · rename_i c size hstart
        -- The last byte does not continue the first character.
        have hsize : size - 1 ≤ bytes.length := by
          rw [start] at hstart
          split at hstart
          · cases hstart
          · rename_i count _
            dsimp only at hstart
            split at hstart
            · rename_i hgood
              obtain ⟨-, rfl⟩ := Start.char.inj hstart
              have hle := continuing_le (le_secondBounds first) hbyte count bytes
              omega
            · split at hstart <;> cases hstart
        rw [List.drop_append_of_le_length hsize] at h
        cases hmore : decodeFrom limit (index + size) (bytes.drop (size - 1) ++ [byte]) with
        | error fault =>
          rw [hmore] at h
          cases h
        | ok more =>
          rw [hmore] at h
          obtain ⟨front, rfl⟩ := ih (by rw [List.length_drop]; omega) hmore
          exact ⟨c :: front, (Except.ok.inj h).symm⟩
      · cases h

end Utf8

end Text

namespace Net

open Text (exists_span span_append)

theorem utf8Bytes_of_ascii {c : Char} (h : c.toNat < 0x80) : utf8Bytes c = [c.toNat] := if_pos h

theorem decodedBytes_cons (c : Char) (text : List Char) :
    decodedBytes (c :: text) = utf8Bytes c ++ decodedBytes text ∨
      ∃ high low rest byte, text = high :: low :: rest ∧ hexByte? high low = some byte ∧
        decodedBytes (c :: text) = byte :: decodedBytes rest := by
  rw [decodedBytes.eq_def]
  split
  · rename_i heq
    cases heq
  · rename_i high low rest heq
    obtain ⟨rfl, rfl⟩ := List.cons.inj heq
    split
    · rename_i byte hbyte
      exact .inr ⟨high, low, rest, byte, rfl, hbyte, rfl⟩
    · exact .inl rfl
  · rename_i heq
    obtain ⟨rfl, rfl⟩ := List.cons.inj heq
    exact .inl rfl

/-- What is no digit at the end of a text belongs to no encoded byte. -/
theorem exists_decodedBytes_append (hblank : blank.toNat ≤ 0x20) (text : List Char) :
    ∃ front, decodedBytes (text ++ [blank]) = front ++ [blank.toNat] := by
  obtain ⟨-, -, hdigit, -, -⟩ := blank_properties hblank
  -- By induction on the length: an encoded byte takes three characters at once.
  induction hlength : text.length using Nat.strong_induction_on generalizing text with
  | _ length ih =>
    subst hlength
    cases text with
    | nil =>
      rcases decodedBytes_cons blank [] with hfirst | ⟨_, _, _, _, hnil, -⟩
      · refine ⟨[], ?_⟩
        rw [List.nil_append, hfirst, utf8Bytes_of_ascii (by omega), decodedBytes]
        rfl
      · cases hnil
    | cons c text =>
      rw [List.cons_append]
      rcases decodedBytes_cons c (text ++ [blank]) with
        hfirst | ⟨high, low, rest, byte, htext, hbyte, hrest⟩
      · obtain ⟨front, hfront⟩ := ih text.length (by simp) text rfl
        exact ⟨utf8Bytes c ++ front, by rw [hfirst, hfront, List.append_assoc]⟩
      · rcases text with _ | ⟨first, _ | ⟨second, more⟩⟩
        · cases htext
        · obtain ⟨rfl, rfl, -⟩ : first = high ∧ blank = low ∧ [] = rest := by simpa using htext
          simp [hexByte?, hdigit] at hbyte
        · obtain ⟨rfl, rfl, rfl⟩ : first = high ∧ second = low ∧ more ++ [blank] = rest := by
            simpa using htext
          obtain ⟨front, hfront⟩ := ih more.length (by simp; omega) more rfl
          exact ⟨byte :: front, by rw [hrest, hfront, List.cons_append]⟩

namespace Domain

/-- The image of a blank at the end of a name is the last one. -/
theorem exists_mapM_image?_append (hblank : blank.toNat ≤ 0x20) {name : List Char}
    {images : List (List Char)} (h : (name ++ [blank]).mapM image? = some images) :
    ∃ before, images = before ++ [[blank]] := by
  obtain ⟨hlower, -⟩ := blank_properties hblank
  have himage : image? blank = some [blank] := by
    rw [image?, if_pos (by omega), hlower]
  have hlast : [blank].mapM image? = some [[blank]] := by
    rw [List.mapM_cons, himage, List.mapM_nil]
    rfl
  rw [List.mapM_append, hlast] at h
  cases hname : name.mapM image? with
  | none =>
    rw [hname] at h
    cases h
  | some before =>
    rw [hname] at h
    exact ⟨before, (Option.some.inj h).symm⟩

theorem mapped?_append (hblank : blank.toNat ≤ 0x20) (name : List Char) :
    mapped? (name ++ [blank]) = none := by
  obtain ⟨-, hrefused, -⟩ := blank_properties hblank
  rw [mapped?]
  cases hname : (name ++ [blank]).mapM image? with
  | none => rfl
  | some images =>
    obtain ⟨before, rfl⟩ := exists_mapM_image?_append hblank hname
    have hflatten : (before ++ [[blank]]).flatten = before.flatten ++ [blank] := by simp
    have hany : (Text.composed (before ++ [[blank]]).flatten).any isRefusedAscii = true := by
      rw [hflatten]
      exact List.any_eq_true.2 ⟨blank, Text.mem_composed_append (by omega) _, hrefused⟩
    exact if_pos hany
/-- No name ends in a blank. -/
theorem read?_append_blank (hblank : blank.toNat ≤ 0x20) (name : List Char) :
    read? (name ++ [blank]) = none := by
  rw [read?, mapped?_append hblank]
  rfl

end Domain

theorem percentDecode?_append_blank (hblank : blank.toNat ≤ 0x20) (text : List Char) :
    (percentDecode? (text ++ [blank])).bind Domain.read? = none := by
  obtain ⟨front, hfront⟩ := exists_decodedBytes_append hblank text
  rw [percentDecode?, percentDecode, hfront, Text.Utf8.decode]
  cases hdecode : Text.Utf8.decodeFrom (front ++ [blank.toNat]).length 0
      (front ++ [blank.toNat]) with
  | error fault => rfl
  | ok name =>
    obtain ⟨before, rfl⟩ := Text.Utf8.decodeFrom_append (by omega) (by simp) hdecode
    rw [Char.ofNat_toNat]
    exact Domain.read?_append_blank hblank before

theorem Host.read_append_blank (hblank : blank.toNat ≤ 0x20) (text : List Char) :
    ∃ fault, Host.read (text ++ [blank]) = .error fault := by
  have hdecode := percentDecode?_append_blank hblank text
  rw [Host.read.eq_def]
  split
  · rename_i rest hbracket
    have hlast : rest.getLast? ≠ some ']' := by
      obtain ⟨-, -, -, -, hmarks⟩ := blank_properties hblank
      cases text with
      | nil =>
        obtain ⟨rfl, -⟩ := List.cons.inj hbracket
        simp at hmarks
      | cons c text =>
        have hrest : text ++ [blank] = rest := (List.cons.inj hbracket).2
        rw [← hrest, List.getLast?_concat]
        rintro ⟨⟩
        simp at hmarks
    exact ⟨.invalidV6, if_neg hlast⟩
  · rw [hdecode]
    exact ⟨.invalidDomain, rfl⟩

namespace Url

theorem readPort_append_blank (hblank : blank.toNat ≤ 0x20) (scheme : String) {text : List Char}
    (htext : '\\' ∉ text) : readPort scheme (text ++ [blank]) = .error .invalidPort := by
  obtain ⟨-, -, -, hdigit, hmarks⟩ := blank_properties hblank
  obtain ⟨digits, rest, rfl, hdigits, hrest⟩ := exists_span Text.isDigit text
  have hspan : (digits ++ rest ++ [blank]).span Text.isDigit = (digits, rest ++ [blank]) := by
    rw [List.append_assoc]
    refine span_append hdigits ?_
    cases rest with
    | nil => simpa using hdigit
    | cons c rest => exact hrest
  have hhead : (rest ++ [blank]).head? ≠ some '\\' := by
    cases rest with
    | nil =>
      rintro ⟨⟩
      simp at hmarks
    | cons c rest =>
      rintro ⟨⟩
      simp at htext
  rw [readPort, hspan]
  refine if_neg ?_
  rw [Bool.or_eq_true, decide_eq_true_eq, not_or]
  exact ⟨by simp, hhead⟩

theorem spanHost_append_blank (hblank : blank.toNat ≤ 0x20) (inBrackets : Bool) (text : List Char) :
    (∃ name, spanHost inBrackets (text ++ [blank]) = (name ++ [blank], [])) ∨
      ∃ name port, spanHost inBrackets (text ++ [blank]) = (name, ':' :: (port ++ [blank])) ∧
        ∀ c ∈ port, c ∈ text := by
  obtain ⟨-, -, -, -, hmarks⟩ := blank_properties hblank
  induction text generalizing inBrackets with
  | nil =>
    have hcolon : blank ≠ ':' := by
      rintro rfl
      simp at hmarks
    exact .inl ⟨[], by simp [spanHost, hcolon]⟩
  | cons c text ih =>
    by_cases hcolon : (c == ':' && !inBrackets) = true
    · refine .inr ⟨[], text, ?_, fun d hd => List.mem_cons_of_mem c hd⟩
      have hc : c = ':' := by simpa using (Bool.and_eq_true_iff.1 hcolon).1
      rw [List.cons_append, spanHost, if_pos hcolon, hc]
    · rw [List.cons_append, spanHost, if_neg hcolon]
      dsimp only
      rcases ih (if c == '[' then true else if c == ']' then false else inBrackets) with
        ⟨name, hspan⟩ | ⟨name, port, hspan, hport⟩
      · exact .inl ⟨c :: name, by rw [hspan, List.cons_append]⟩
      · exact .inr ⟨c :: name, port, by rw [hspan], fun d hd => List.mem_cons_of_mem c (hport d hd)⟩

theorem readHostAndPort_append_blank (hblank : blank.toNat ≤ 0x20) (scheme : String)
    {text : List Char} (htext : '\\' ∉ text) :
    ∃ fault, readHostAndPort scheme .network (text ++ [blank]) = .error fault := by
  rw [readHostAndPort_eq]
  split
  · exact ⟨.emptyHost, rfl⟩
  · rcases spanHost_append_blank hblank false text with
      ⟨name, hspan⟩ | ⟨name, port, hspan, hport⟩
    · obtain ⟨fault, hhost⟩ := Host.read_append_blank hblank name
      exact ⟨fault, by rw [hspan, hhost]; rfl⟩
    · rw [hspan]
      cases Host.read name with
      | error fault => exact ⟨fault, rfl⟩
      | ok host =>
        have hfault := readPort_append_blank hblank scheme fun h => htext (hport _ h)
        exact ⟨.invalidPort, by simp only [Except.bind, hfault]; rfl⟩

/-- **Refused hosts.** No authority ends in a blank. -/
theorem readBare_append_blank (hblank : blank.toNat ≤ 0x20) (scheme : String)
    {authority : List Char} (hauthority : '\\' ∉ authority) :
    ∃ fault, readBare scheme (authority ++ [blank]) = .error fault := by
  obtain ⟨-, -, -, -, hmarks⟩ := blank_properties hblank
  rw [readBare]
  split
  · obtain ⟨fault, hread⟩ := readHostAndPort_append_blank hblank scheme hauthority
    exact ⟨fault, by rw [hread]; rfl⟩
  · rename_i user hostText hsplit
    split
    · exact ⟨.emptyHost, rfl⟩
    · obtain ⟨host, rfl, hhost⟩ : ∃ host, hostText = host ++ [blank] ∧ '\\' ∉ host := by
        have hat : (blank != '@') = true := by
          rw [bne_iff_ne]
          rintro rfl
          simp at hmarks
        simp only [splitUser?] at hsplit
        split at hsplit
        · obtain ⟨-, rfl⟩ := Prod.mk.inj (Option.some.inj hsplit)
          rw [List.reverse_append, List.reverse_singleton, List.singleton_append,
            List.takeWhile_cons_of_pos (p := (· != '@')) hat, List.reverse_cons]
          refine ⟨_, rfl, fun hhost => hauthority ?_⟩
          exact List.mem_reverse.1 ((List.takeWhile_sublist _).subset (List.mem_reverse.1 hhost))
        · cases hsplit
      obtain ⟨fault, hread⟩ := readHostAndPort_append_blank hblank scheme hhost
      exact ⟨fault, by rw [hread]; rfl⟩

end Url

end Net

end FieldAccess
