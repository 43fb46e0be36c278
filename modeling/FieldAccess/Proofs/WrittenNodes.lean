import FieldAccess.Proofs.Depictions
import FieldAccess.Proofs.InstantTexts
import FieldAccess.Yaml.Source
import FieldAccess.Yaml.Writer

/-!
# Values as nodes of a document

The node that a value is written as shows it as what it is. A text is written without quotes only if
its spelling does not stand for anything else, so that no text is taken for an absent value; a
number is written with the digits that it is read from.

## Main definitions

* `Yaml.inDocument` – values as they are shown in a document.

## Main statements

* `Yaml.unsigned?_toString` – numbers are read from their digits.
* `Yaml.faithful_inDocument` – the nodes show what they are written for.
-/

namespace FieldAccess

open Format Text

namespace Yaml

section Digits

variable {digits : List Char} {n : Nat}

theorem hexValue?_of_isDigit {c : Char} (h : isDigit c = true) :
    Json.Reader.hexValue? c = some (c.toNat - '0'.toNat) := by
  have hrange : ('0' ≤ c && c ≤ '9') = true := by
    have hcode := Instant.toNat_of_isDigit h
    simp only [Bool.and_eq_true, decide_eq_true_eq, Char.le_def, UInt32.le_iff_toNat_le]
    exact hcode
  rw [Json.Reader.hexValue?, if_pos hrange]

theorem digitValue?_of_isDigit {c : Char} (h : isDigit c = true) :
    digitValue? 10 c = some (c.toNat - '0'.toNat) := by
  have hcode := Instant.toNat_of_isDigit h
  have hzero : '0'.toNat = 48 := rfl
  have hlt : c.toNat - '0'.toNat < 10 := by omega
  simp only [digitValue?, hexValue?_of_isDigit h, bind, Option.bind, if_pos hlt]
  rfl

/-- Digits are read as the number that they write. -/
theorem digitsValue?_of_writes (h : Instant.Writes digits n) : digitsValue? 10 digits = some n := by
  have hfold : ∀ (digits : List Char) (value : Nat), (∀ c ∈ digits, isDigit c = true) →
      digits.foldlM (fun n d => do return n * 10 + (← digitValue? 10 d)) value =
        some (digits.foldl (fun n d => n * 10 + (d.toNat - '0'.toNat)) value) := by
    intro digits
    induction digits with
    | nil => exact fun _ _ => rfl
    | cons d digits ih =>
      intro value hdigits
      rw [List.foldlM_cons, digitValue?_of_isDigit (hdigits d List.mem_cons_self)]
      exact ih _ fun c hc => hdigits c (List.mem_cons_of_mem _ hc)
  have hne : digits.isEmpty = false := by simpa using h.ne_nil
  rw [digitsValue?, hne]
  exact (hfold digits 0 h.isDigit).trans (congrArg some h.foldl_eq)

theorem writes_toDigits (n : Nat) : Instant.Writes (Nat.toDigits 10 n) n := by
  have h := Instant.writes_padded 0 n
  rwa [Instant.toList_padded, Nat.zero_sub, List.replicate_zero, List.nil_append] at h

/-- The digits of a number do not start with a needless zero. -/
theorem eq_nil_of_toDigits {rest : List Char} (h : Nat.toDigits 10 n = '0' :: rest) :
    rest = [] := by
  have hdigit : ∀ n < 10, Nat.digitChar n = '0' → n = 0 := by decide
  have hzero : ∀ n rest, Nat.toDigits 10 n = '0' :: rest → n = 0 := by
    intro n
    induction n using Nat.strongRecOn with
    | ind n ih =>
      intro rest h
      rcases Nat.lt_or_ge n 10 with hlt | hge
      · rw [Nat.toDigits_of_lt_base hlt] at h
        injection h with hchar
        exact hdigit n hlt hchar
      · have hless : n / 10 < n := Nat.div_lt_self (by omega) (by decide)
        rw [Nat.toDigits_of_base_le (by decide) hge] at h
        cases hmore : Nat.toDigits 10 (n / 10) with
        | nil => exact absurd hmore Nat.toDigits_ne_nil
        | cons d more =>
          rw [hmore, List.cons_append] at h
          injection h with hd
          have hquotient := ih _ hless more (hd ▸ hmore)
          omega
  rw [hzero n rest h] at h
  injection h with _ hrest
  exact hrest.symm

/-- A text that starts with none of the signs of a number, nor with a needless zero. -/
theorem isPadded_of_head {c : Char} {rest : List Char} (hminus : c ≠ '-') (hplus : c ≠ '+')
    (hzero : c = '0' → rest = []) : isPadded (c :: rest) = false := by
  unfold isPadded
  split
  · rename_i heq
    injection heq with hc
    exact absurd hc hminus
  · rename_i heq
    injection heq with hc
    exact absurd hc hplus
  · dsimp only
    split
    · rename_i heq
      injection heq with hc hrest
      rw [← hrest, hzero hc]
      rfl
    · rfl

theorem unsigned?_toDigits (n : Nat) : unsigned? (Nat.toDigits 10 n) = some n := by
  have hwrites := writes_toDigits n
  obtain ⟨c, more, hdigits, hc⟩ := hwrites.exists_cons
  have hplus : c ≠ '+' := by
    rintro rfl
    cases hc
  have hpadded : isPadded (Nat.toDigits 10 n) = false := by
    rw [hdigits]
    refine isPadded_of_head ?_ hplus fun hzero => eq_nil_of_toDigits (hzero ▸ hdigits)
    rintro rfl
    cases hc
  have hbased : basedValue? (Nat.toDigits 10 n) = none := by
    unfold basedValue?
    split
    · rename_i heq
      cases eq_nil_of_toDigits heq
    · rfl
  have hbare : bareValue? (Nat.toDigits 10 n) = some n := by
    rw [bareValue?, hbased, digitsValue?_of_writes hwrites]
    rfl
  rw [unsigned?, hpadded, if_neg (by decide)]
  · exact hbare
  · intro rest hsign
    rw [hdigits] at hsign
    injection hsign with hsign
    exact hplus hsign

theorem toList_toString (n : Nat) : (toString (n : Int)).toList = Nat.toDigits 10 n := by
  change (Nat.repr n).toList = _
  rw [Nat.toList_repr]

end Digits

/-! ### Nodes -/

/-- Values as they are shown in a document without anchors; `malformed` is the fault of its text. -/
def inDocument (malformed : Cause) : Depiction := ⟨source malformed [], Node.ofValue⟩

/-- A text that is written without quotes is read as a text. -/
theorem isSpelled_of_styleOf {text : String} (h : styleOf text = .plain) :
    isSpelled text = false := by
  simp only [styleOf] at h
  split at h
  · split at h <;> cases h
  · split at h
    · rename_i hplain
      exact (by simpa using hplain : isSpelled text = false ∧ _).1
    · split at h <;> cases h

/-- What is not spelled like anything else is no absent value. -/
theorem present_of_isSpelled {text : String} (h : isSpelled text = false) :
    (text.isEmpty || isNull text) = false := by
  cases habsent : text.isEmpty || isNull text with
  | false => rfl
  | true =>
    have hvalue : PlainValue.ofText text = .null := by rw [PlainValue.ofText, if_pos habsent]
    simp [isSpelled, hvalue] at h

/-- The absent values are spelled with other characters in front than a number. -/
theorem present_of_head {text : String} {c : Char} {rest : List Char}
    (htext : text.toList = c :: rest) (hc : c ∉ ['n', 'N', '~']) :
    (text.isEmpty || isNull text) = false := by
  have hne : ∀ other : String, other.toList.head? ≠ some c → text ≠ other := by
    rintro other hother rfl
    rw [htext] at hother
    exact hother rfl
  obtain ⟨hn, hN, hblank⟩ : c ≠ 'n' ∧ c ≠ 'N' ∧ c ≠ '~' := by simpa using hc
  have hempty : text ≠ "" := hne _ (by simp)
  have hnulls : text ∉ ["null", "Null", "NULL", "~"] := by
    simp only [List.mem_cons, List.not_mem_nil, or_false, not_or]
    refine ⟨hne _ ?_, hne _ ?_, hne _ ?_, hne _ ?_⟩ <;>
      simp [Ne.symm hn, Ne.symm hN, Ne.symm hblank]
  simpa [isNull] using And.intro hempty hnulls

theorem present_toString (n : Int) : ((toString n).isEmpty || isNull (toString n)) = false := by
  cases n with
  | ofNat n =>
    obtain ⟨c, rest, hdigits, hc⟩ := (writes_toDigits n).exists_cons
    refine present_of_head ((toList_toString n).trans hdigits) ?_
    simp only [List.mem_cons, List.not_mem_nil, or_false]
    rintro (rfl | rfl | rfl) <;> cases hc
  | negSucc n =>
    have htext : (toString (Int.negSucc n)).toList = '-' :: (Nat.repr (n + 1)).toList := by
      change ("-" ++ Nat.repr (n + 1)).toList = _
      rw [String.toList_append]
      rfl
    exact present_of_head htext (by decide)

theorem ofValues_eq_map (items : List Json) : Node.ofValues items = items.map Node.ofValue := by
  induction items with
  | nil => rfl
  | cons item rest ih => rw [List.map_cons, Node.ofValues, ih]

theorem entries_ofEntries (malformed : Cause) (expected : String) (entries : List (String × Json)) :
    Node.entries malformed [] expected true (Node.ofEntries entries) =
      ⟨(inDocument malformed).entries entries, none⟩ := by
  induction entries with
  | nil => rfl
  | cons entry rest ih =>
    simp only [Node.ofEntries, Node.entries, Node.resolve, ih]
    rfl

/-- **Nodes.** Values are shown as what they are. -/
theorem faithful_inDocument (malformed : Cause) : (inDocument malformed).Faithful where
  text _ _ := rfl
  flag b := by cases b <;> rfl
  natural bound name n h := by
    have hspelled : ((Node.ofValue (.integer n)).spells "int").bind
        (fun text => unsigned? text.toList) = some n := by
      change unsigned? (toString (n : Int)).toList = some n
      rw [toList_toString, unsigned?_toDigits]
    have hnode : (Node.ofValue (.integer n)).resolve [] = Node.ofValue (.integer n) := rfl
    simp only [inDocument, source, hnode, hspelled, if_pos h]
  list items := congrArg (fun items => Except.ok (Listing.mk items none)) (ofValues_eq_map items)
  table entries := congrArg Except.ok (entries_ofEntries malformed _ entries)
  record _ entries :=
    congrArg (fun entries => Except.ok (RecordView.named entries))
      (entries_ofEntries malformed _ entries)
  variant _ := rfl
  optional json hnull hdecimal := by
    cases json with
    | null => exact absurd rfl hnull
    | decimal digits => exact absurd rfl (hdecimal digits)
    | flag b => cases b <;> rfl
    | list | table => rfl
    | integer n =>
      change (Node.isAbsent none .plain (toString n) >>= fun absent => _) = _
      rw [Node.isAbsent, present_toString]
      rfl
    | text s =>
      change (Node.isAbsent none (styleOf s) s >>= fun absent => _) = _
      have habsent : Node.isAbsent none (styleOf s) s = .ok false := by
        rw [Node.isAbsent]
        split
        · rfl
        · rename_i hplain
          exact congrArg Except.ok (present_of_isSpelled (isSpelled_of_styleOf (not_not.1 hplain)))
      rw [habsent]
      rfl

end Yaml

end FieldAccess
