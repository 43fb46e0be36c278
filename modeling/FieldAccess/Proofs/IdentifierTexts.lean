import Mathlib.Algebra.Group.Nat.Defs
import FieldAccess.Policy.Uuid

/-!
# Identifiers from their texts

The written form of an identifier is read as this identifier: its 32 digits are found again between
the hyphens, and write the number of which they are the last digits.

## Main statements

* `Uuid.number?_hexDigits` – the last digits of a number write what is left of it.
* `Uuid.read_toText` – an identifier is read from its text.
-/

namespace FieldAccess.Uuid

section Digits

/-- What a written digit is read as, and what it is not. -/
theorem hexDigit_fin (d : Fin 16) :
    hexValue? (Json.hexDigit d) = some d.val ∧ Json.hexDigit d ≠ '-' ∧ Json.hexDigit d ≠ '\x7b' ∧
      (Json.hexDigit d).toLower ≠ 'u' := by
  revert d
  decide

theorem length_hexDigits (count n : Nat) : (hexDigits count n).length = count := by
  induction count generalizing n with
  | zero => rfl
  | succ count ih => rw [hexDigits, List.length_append, ih, List.length_singleton]

/-- All digits of a number are those of numbers below sixteen. -/
theorem exists_of_mem_hexDigits {count n : Nat} {c : Char} (hc : c ∈ hexDigits count n) :
    ∃ d : Fin 16, c = Json.hexDigit d := by
  induction count generalizing n with
  | zero => cases hc
  | succ count ih =>
    rw [hexDigits, List.mem_append, List.mem_singleton] at hc
    rcases hc with hc | rfl
    · exact ih hc
    · exact ⟨⟨n % 16, Nat.mod_lt n (by decide)⟩, rfl⟩

/-- **Digits.** The last digits of a number write what is left of it. -/
theorem number?_hexDigits (count n : Nat) :
    number? (hexDigits count n) = some (n % 16 ^ count) := by
  induction count generalizing n with
  | zero => simp [number?, hexDigits, Nat.mod_one]
  | succ count ih =>
    -- The last digit writes the remainder, and the digits in front of it write the quotient.
    have hlast := (hexDigit_fin ⟨n % 16, Nat.mod_lt n (by decide)⟩).1
    have hmod : n % 16 ^ (count + 1) = n / 16 % 16 ^ count * 16 + n % 16 := by
      rw [Nat.pow_succ, Nat.mul_comm, Nat.mod_mul]
      omega
    simp only [number?] at ih ⊢
    rw [hexDigits, List.foldlM_append, ih, hmod]
    simp only [List.foldlM_cons, List.foldlM_nil, hlast]
    rfl

end Digits

section Groups

theorem groups_of_notMem {part : List Char} (hpart : '-' ∉ part) : groups part = [part] := by
  induction part with
  | nil => rfl
  | cons c part ih =>
    obtain ⟨hc, hrest⟩ := List.ne_and_not_mem_of_not_mem_cons hpart
    rw [groups] at ih ⊢
    rw [List.foldr_cons, ih hrest, if_neg (Ne.symm hc)]

/-- A hyphen separates what is in front of it from the groups behind it. -/
theorem groups_append {part rest : List Char} (hpart : '-' ∉ part) :
    groups (part ++ '-' :: rest) = part :: groups rest := by
  induction part with
  | nil => rw [groups, List.nil_append, List.foldr_cons, if_pos rfl, groups]
  | cons c part ih =>
    obtain ⟨hc, hrest⟩ := List.ne_and_not_mem_of_not_mem_cons hpart
    rw [groups] at ih ⊢
    rw [List.cons_append, List.foldr_cons, ih hrest, if_neg (Ne.symm hc)]

end Groups

section Texts

variable (id : Uuid)

/-- A group of the digits of an identifier. -/
def group (start size : Nat) : List Char :=
  ((hexDigits 32 id.bits.toNat).drop start).take size

theorem notMem_group (start size : Nat) : '-' ∉ id.group start size := by
  intro hmem
  obtain ⟨d, hd⟩ := exists_of_mem_hexDigits (List.mem_of_mem_drop (List.mem_of_mem_take hmem))
  exact (hexDigit_fin d).2.1 hd.symm

theorem toList_toText : id.toText.toList =
    id.group 0 8 ++ '-' :: (id.group 8 4 ++ '-' :: (id.group 12 4 ++ '-' :: (id.group 16 4 ++
      '-' :: id.group 20 12))) := by
  have htext : id.toText = String.ofList (id.group 0 8) ++ "-" ++ String.ofList (id.group 8 4) ++
      "-" ++ String.ofList (id.group 12 4) ++ "-" ++ String.ofList (id.group 16 4) ++ "-" ++
        String.ofList (id.group 20 12) := rfl
  simp [htext]

theorem length_group {start size : Nat} (h : start + size ≤ 32) :
    (id.group start size).length = size := by
  rw [group, List.length_take, List.length_drop, length_hexDigits]
  omega

/-- The groups together are all digits. -/
theorem flatten_groups : [id.group 0 8, id.group 8 4, id.group 12 4, id.group 16 4,
    id.group 20 12].flatten = hexDigits 32 id.bits.toNat := by
  have hjoin (start size : Nat) : id.group start size ++ (hexDigits 32 id.bits.toNat).drop
      (start + size) = (hexDigits 32 id.bits.toNat).drop start := by
    rw [group, ← List.drop_drop, List.take_append_drop]
  have hlast : id.group 20 12 = (hexDigits 32 id.bits.toNat).drop 20 := by
    rw [group, List.take_of_length_le]
    simp [length_hexDigits]
  simp only [List.flatten_cons, List.flatten_nil, List.append_nil]
  rw [hlast, hjoin 16 4, hjoin 12 4, hjoin 8 4, hjoin 0 8, List.drop_zero]

theorem ofGroups?_toText : ofGroups? id.toText.toList = some id := by
  have hgroups : groups id.toText.toList =
      [id.group 0 8, id.group 8 4, id.group 12 4, id.group 16 4, id.group 20 12] := by
    rw [toList_toText, groups_append (id.notMem_group 0 8), groups_append (id.notMem_group 8 4),
      groups_append (id.notMem_group 12 4), groups_append (id.notMem_group 16 4),
      groups_of_notMem (id.notMem_group 20 12)]
  have hsizes : [id.group 0 8, id.group 8 4, id.group 12 4, id.group 16 4,
      id.group 20 12].map List.length = groupSizes := by
    simp [length_group, groupSizes]
  have hbits : id.bits.toNat % 16 ^ 32 = id.bits.toNat := Nat.mod_eq_of_lt id.bits.isLt
  simp only [ofGroups?]
  rw [hgroups, if_pos hsizes, flatten_groups, number?_hexDigits, hbits]
  simp

/-- A written identifier begins with a digit, and so with neither a brace nor `urn:uuid:`. -/
theorem unwrapped_toText : (unwrapped id.toText.toList).1 = id.toText.toList := by
  obtain ⟨c, more, hgroup⟩ := List.exists_cons_of_length_pos
    (show 0 < (id.group 0 8).length by rw [id.length_group (by decide)]; decide)
  have hmem : c ∈ id.group 0 8 := by
    rw [hgroup]
    exact List.mem_cons_self
  obtain ⟨d, hd⟩ := exists_of_mem_hexDigits (List.mem_of_mem_drop (List.mem_of_mem_take hmem))
  obtain ⟨-, -, hbrace, hletter⟩ := hexDigit_fin d
  rw [← hd] at hbrace hletter
  rw [toList_toText, hgroup, List.cons_append, unwrapped]
  · rw [if_neg]
    intro hprefix
    exact hletter (List.cons.inj hprefix).1
  · exact fun _ hstart => hbrace (List.cons.inj hstart).1

/-- **Identifiers.** An identifier is read from its text. -/
theorem read_toText : read id.toText = .ok id := by
  -- The hyphens keep the text from being taken for 32 digits without any.
  have hlength : id.toText.toList.length ≠ 32 := by
    rw [toList_toText]
    simp [length_group]
  have hread : ofText? id.toText.toList = some id := by
    rw [ofText?, if_neg hlength, unwrapped_toText, ofGroups?_toText]
  rw [read, hread]

end Texts

end FieldAccess.Uuid
