import FieldAccess.Proofs.StoreInvariant
import FieldAccess.Proofs.Texts
import FieldAccess.Schema.Document

/-!
# Fields as words

The reference of a stored field as one word. Its last colon separates the schema from the name, so
that the word leads back to the field exactly if there is no colon in the name. The names that are
derived from documents have none; one that has was submitted as a record.

## Main statements

* `FieldRef.ofWord?_append` – the reference that a word gives.
* `Schema.colon_notMem_path` – no field of a document has a path with a colon.
* `Service.stored_field_word` – which stored fields the words of their references lead back to.
-/

namespace FieldAccess

namespace Text

variable {separator : Char}

theorem splitLast?_eq_none {text : List Char} (h : separator ∉ text) :
    splitLast? separator text = none := by
  induction text with
  | nil => rfl
  | cons c text ih =>
    rw [List.mem_cons, not_or] at h
    simp only [splitLast?, ih h.2, if_neg (Ne.symm h.1)]

/-- A text is split at a separator behind which there is no other one. -/
theorem splitLast?_append {after : List Char} (h : separator ∉ after) (before : List Char) :
    splitLast? separator (before ++ separator :: after) = some (before, after) := by
  induction before with
  | nil => simp only [List.nil_append, splitLast?, splitLast?_eq_none h, if_true]
  | cons c before ih => simp only [List.cons_append, splitLast?, ih]

theorem colon_notMem_lowercaseChar {c : Char} (hc : isWord c = true) :
    ':' ∉ lowercaseChar c := by
  by_cases hascii : c.toNat < 0x80
  · exact forall_ascii (P := fun c => isWord c = true → ':' ∉ lowercaseChar c)
      (by decide +kernel) hascii hc
  · -- Beyond ASCII, no run of the table leads to a colon or in front of it.
    have hruns : ∀ run ∈ lowercaseRuns, 0x3a < (run.1 : Int) + run.2.2.2 := by decide +kernel
    have hbehind : ∀ {n : Nat}, 0x3a < n → ':' ≠ Char.ofNat n := by
      intro n hn hcolon
      by_cases hvalid : n.isValidChar
      · have hcode : (Char.ofNat n).toNat = n := by
          rw [Char.ofNat, dif_pos hvalid]
          rfl
        rw [← hcolon] at hcode
        exact absurd hcode (by change 0x3a ≠ n; omega)
      · have hnone : Char.ofNat n = Char.ofNat 0 := by
          rw [Char.ofNat, dif_neg hvalid]
          rfl
        rw [hnone] at hcolon
        exact absurd hcolon (by decide)
    rw [lowercaseChar, if_neg hascii]
    split
    · decide
    · split
      · rename_i offset hoffset
        obtain ⟨⟨first, last, stride, step⟩, hrun, rfl⟩ := Option.map_eq_some_iff.1 hoffset
        have hlow : 0x3a < (first : Int) + step := hruns _ (List.mem_of_find?_eq_some hrun)
        have hcovers := List.find?_some hrun
        simp only [Bool.and_eq_true, decide_eq_true_eq] at hcovers
        obtain ⟨⟨hfirst, -⟩, -⟩ := hcovers
        rw [List.mem_singleton]
        exact hbehind (by dsimp only; omega)
      · rw [List.mem_singleton]
        rintro rfl
        exact hascii (by decide)

/-- No word has a colon in lower case. -/
theorem colon_notMem_lowercase {text : List Char} (h : ∀ c ∈ text, isWord c = true) :
    ':' ∉ lowercase text := by
  have hfrom : ∀ before, ':' ∉ lowercaseFrom before text := by
    induction text with
    | nil => exact fun _ => List.not_mem_nil
    | cons c text ih =>
      intro before
      rw [lowercaseFrom, List.mem_append, not_or]
      refine ⟨?_, ih (fun d hd => h d (List.mem_cons_of_mem c hd)) (c :: before)⟩
      split
      · split <;> decide
      · exact colon_notMem_lowercaseChar (h c List.mem_cons_self)
  exact hfrom []

end Text

namespace FieldRef

theorem toList_word (ref : FieldRef) :
    ref.word.toList = ref.schemaId.toList ++ ':' :: ref.fieldName.toList := by
  simp [word]

/-- A word is split at its last colon. -/
theorem ofWord?_append {schemaId name : String} (hschema : schemaId ≠ "")
    (hname : ':' ∉ name.toList) :
    ofWord? (schemaId ++ ":" ++ name) = if name = "" then none else some ⟨schemaId, name⟩ := by
  have hsplit := Text.splitLast?_append hname schemaId.toList
  rw [← toList_word ⟨schemaId, name⟩] at hsplit
  simp only [word] at hsplit
  simp only [ofWord?, hsplit]
  simp [hschema]

end FieldRef

namespace Schema

open Text

/-- A name consists of the characters of words. -/
theorem isWord_of_word? {text name rest : List Char} (h : word? text = some (name, rest)) :
    ∀ c ∈ name, isWord c = true := by
  simp only [word?] at h
  split at h
  · cases h
  · obtain ⟨rfl, -⟩ := Prod.mk.inj (Option.some.inj h)
    exact fun c hc => List.mem_takeWhile_imp hc

theorem isWord_of_header? {text name body : List Char} (h : header? text = some (name, body)) :
    ∀ c ∈ name, isWord c = true := by
  simp only [header?] at h
  split at h
  · rename_i found rest hkeyword
    split at h
    · obtain ⟨rfl, -⟩ := Prod.mk.inj (Option.some.inj h)
      simp only [keyword?] at hkeyword
      split at hkeyword
      · obtain ⟨after, -, hword⟩ := Option.bind_eq_some_iff.1 hkeyword
        exact isWord_of_word? hword
      · cases hkeyword
    · cases h
  · cases h

theorem isWord_of_findHeader? {text name body : List Char} {position start : Nat} {inWord : Bool}
    (h : findHeader? position inWord text = some (start, name, body)) :
    ∀ c ∈ name, isWord c = true := by
  induction text generalizing position inWord with
  | nil => cases h
  | cons c text ih =>
    rw [findHeader?] at h
    split at h
    · rename_i found rest hheader
      obtain ⟨-, rfl, -⟩ := Option.some.inj h
      split at hheader
      · cases hheader
      · exact isWord_of_header? hheader
    · exact ih h

/-- The name of a type is a word. -/
theorem isWord_of_mem_typeBlocks {document : List Char} {block : TypeBlock}
    (h : block ∈ typeBlocks document) : ∀ c ∈ block.name, isWord c = true := by
  have hfrom : ∀ fuel position text, block ∈ typeBlocksFrom fuel position text →
      ∀ c ∈ block.name, isWord c = true := by
    intro fuel
    induction fuel with
    | zero => exact fun _ _ h => absurd h List.not_mem_nil
    | succ fuel ih =>
      intro position text h
      rw [typeBlocksFrom] at h
      split at h
      · cases h
      · rename_i start name rest hheader
        split at h
        · cases h
        · rcases List.mem_cons.1 h with rfl | hrest
          · exact isWord_of_findHeader? hheader
          · exact ih _ _ hrest
  exact hfrom _ _ _ h

/-- The name of a field is a word, and it belongs to the type whose lines are read. -/
theorem isWord_of_fieldLine? {parentType : String} {line : List Char} {field : FieldDirective}
    (h : fieldLine? parentType line = some field) :
    field.parentType = parentType ∧ ∀ c ∈ field.name.toList, isWord c = true := by
  obtain ⟨⟨name, fieldType⟩, hname, rfl⟩ := Option.map_eq_some_iff.1 h
  refine ⟨rfl, ?_⟩
  rw [String.toList_ofList]
  simp only [nameAndType?] at hname
  split at hname
  · cases hname
  · rename_i found rest hword
    split at hname
    · split at hname
      · cases hname
      · obtain ⟨rfl, -⟩ := Prod.mk.inj (Option.some.inj hname)
        exact isWord_of_word? hword
    · cases hname

/-- **Paths.** The path of a field of a document holds no colon. -/
theorem colon_notMem_path {document : String} {field : FieldDirective}
    (h : field ∈ parse document) : ':' ∉ field.path.toList := by
  obtain ⟨block, hblock, hfield⟩ := List.mem_flatMap.1 h
  simp only [TypeBlock.fields] at hfield
  split at hfield
  · cases hfield
  · obtain ⟨line, -, hline⟩ := List.mem_filterMap.1 hfield
    obtain ⟨hparent, hname⟩ := isWord_of_fieldLine? hline
    have htype : ':' ∉ lowercase field.parentType.toList := by
      rw [hparent, String.toList_ofList]
      exact colon_notMem_lowercase (isWord_of_mem_typeBlocks hblock)
    have hcolon : ':' ∉ field.name.toList := fun hmem =>
      absurd (hname ':' hmem) (by decide)
    simp only [FieldDirective.path, String.toList_append, String.toList_ofList, List.mem_append,
      not_or]
    exact ⟨⟨htype, by decide⟩, hcolon⟩

end Schema

/-- The records that are derived from a document have names without colons. -/
theorem RegisterSchema.colon_notMem_convert {request : RegisterSchema}
    {conversion : Schema.Conversion} (h : request.convert = .ok conversion) {record : FieldRecord}
    (hrecord : record ∈ conversion.records) : ':' ∉ record.fieldName.toList := by
  obtain ⟨_, -, h⟩ := Service.bind_eq_ok_iff.1 h
  obtain ⟨_, -, h⟩ := Service.bind_eq_ok_iff.1 h
  obtain ⟨_, -, h⟩ := Service.bind_eq_ok_iff.1 h
  split at h
  · cases h
  · obtain rfl := Except.ok.inj h
    obtain ⟨field, hfield, rfl⟩ := List.mem_map.1 hrecord
    exact Schema.colon_notMem_path hfield

namespace Service

variable {context : Context} {store after : Store} {effect : Effect}

/-- A field that is there after an effect was there before, or is one of those submitted. -/
theorem Changes.known_or_submitted (hchanges : Changes context store effect after)
    (hkeyed : store.Keyed) {ref : FieldRef} {row : FieldPolicy} (hrow : after[ref]? = some row) :
    (∃ old, store[ref]? = some old) ∨
      ∃ records, effect = .submitted ref.schemaId records ∧
        ∃ record ∈ records, record.fieldName = ref.fieldName := by
  cases hchanges with
  | @submitted schemaId records _ _ _ hok =>
    rcases (hkeyed.replaced_of_replaceSchema hok).2.origin hrow with
      ⟨-, hold⟩ | ⟨record, hrecord, rfl, -⟩
    · exact .inl ⟨row, hold⟩
    · exact .inr ⟨records, rfl, record, hrecord, rfl⟩
  | granted _ _ hok =>
    rw [(Store.getElem?_of_grant hok).2 ref] at hrow
    split at hrow
    · obtain ⟨old, hold, -⟩ := Option.map_eq_some_iff.1 hrow
      exact .inl ⟨old, hold⟩
    · exact .inl ⟨row, hrow⟩
  | decided => exact .inl ⟨row, hrow⟩

/-- A call submits records because they were given, or because they describe a document. -/
theorem Call.submitted_cases {call : Call} {schemaId : String} {records : List FieldRecord}
    (h : call.effect? = some (.submitted schemaId records)) :
    call.request = .replace ⟨schemaId, records⟩ ∨
      ∃ request conversion, call.request = .register request ∧
        request.convert = .ok conversion ∧ conversion.records = records := by
  obtain ⟨context, request⟩ := call
  cases request with
  | register request =>
    obtain ⟨conversion, hconvert, heffect⟩ := Option.map_eq_some_iff.1 h
    obtain ⟨-, rfl⟩ := Effect.submitted.inj heffect
    exact .inr ⟨request, conversion, rfl, toOption_eq_some_iff.1 hconvert, rfl⟩
  | replace request =>
    obtain ⟨rfl, rfl⟩ := Effect.submitted.inj (Option.some.inj h)
    exact .inl rfl
  | grant request =>
    obtain ⟨period, -, h⟩ := Option.bind_eq_some_iff.1 h
    obtain ⟨grant, -, h⟩ := Option.bind_eq_some_iff.1 h
    cases h
  | decide request => cases h

/-- A stored field with a colon in its name was described by a record of a replacement. -/
theorem replaced_of_colon (calls : List Call) :
    ∀ (ref : FieldRef) (row : FieldPolicy), (run calls).store[ref]? = some row →
      ':' ∈ ref.fieldName.toList →
        ∃ call ∈ calls, ∃ records, call.request = .replace ⟨ref.schemaId, records⟩ ∧
          ∃ record ∈ records, record.fieldName = ref.fieldName := by
  refine run_induction (P := fun calls state =>
    ∀ (ref : FieldRef) (row : FieldPolicy), state.store[ref]? = some row →
      ':' ∈ ref.fieldName.toList →
        ∃ call ∈ calls, ∃ records, call.request = .replace ⟨ref.schemaId, records⟩ ∧
          ∃ record ∈ records, record.fieldName = ref.fieldName) ?_ ?_ ?_ calls
  · intro ref row hrow
    simp at hrow
  · intro calls call ih ref row hrow hcolon
    obtain ⟨earlier, hearlier, hfound⟩ := ih ref row hrow hcolon
    exact ⟨earlier, List.mem_append_left _ hearlier, hfound⟩
  · intro calls call _ effect after ih _ heffect hchanges ref row hrow hcolon
    rcases hchanges.known_or_submitted (sound_run calls).keyed hrow with
      ⟨old, hold⟩ | ⟨records, rfl, record, hrecord, hname⟩
    · obtain ⟨earlier, hearlier, hfound⟩ := ih ref old hold hcolon
      exact ⟨earlier, List.mem_append_left _ hearlier, hfound⟩
    · rcases call.submitted_cases heffect with hreplace | ⟨request, conversion, -, hconvert, rfl⟩
      · exact ⟨call, by simp, records, hreplace, record, hrecord, hname⟩
      · rw [← hname] at hcolon
        exact absurd hcolon (RegisterSchema.colon_notMem_convert hconvert hrecord)

/-- **Stored fields as words.** After every run, the word of a stored field leads back to this field
exactly if there is no colon in its name. Otherwise it stands for the part of the name behind the
last colon, in a schema whose id reaches up to there, or for nothing if the name ends there; and the
name is then one that a replacement has submitted, and none that comes from a document. -/
theorem stored_field_word (calls : List Call) {ref : FieldRef} {row : FieldPolicy}
    (hrow : (run calls).store[ref]? = some row) :
    row.ref = ref ∧ (FieldRef.ofWord? row.ref.word = some ref ↔ ':' ∉ row.fieldName.toList) ∧
      (∀ front back : String, row.fieldName = front ++ ":" ++ back → ':' ∉ back.toList →
        FieldRef.ofWord? row.ref.word =
          if back = "" then none else some ⟨row.schemaId ++ ":" ++ front, back⟩) ∧
      (':' ∈ row.fieldName.toList →
        ∃ call ∈ calls, ∃ records, call.request = .replace ⟨row.schemaId, records⟩ ∧
          ∃ record ∈ records, record.fieldName = row.fieldName) := by
  have hsound := sound_run calls
  obtain rfl : row.ref = ref := hsound.keyed ref row hrow
  have hne : ∀ {text : String}, Text.isBlankText text = false → text ≠ "" := by
    rintro _ hblank rfl
    cases hblank
  have hschema : row.schemaId ≠ "" := hne (hsound.row _ _ hrow).schemaId
  have hname : row.fieldName ≠ "" := hne (hsound.row _ _ hrow).fieldName
  have hother : ∀ front back : String, row.fieldName = front ++ ":" ++ back → ':' ∉ back.toList →
      FieldRef.ofWord? row.ref.word =
        if back = "" then none else some ⟨row.schemaId ++ ":" ++ front, back⟩ := by
    intro front back hsplit hback
    have hword : row.ref.word = row.schemaId ++ ":" ++ front ++ ":" ++ back := by
      rw [FieldRef.word]
      change row.schemaId ++ ":" ++ row.fieldName = _
      rw [hsplit]
      simp only [String.append_assoc]
    rw [hword, FieldRef.ofWord?_append (by simp) hback]
  refine ⟨rfl, ⟨fun hback hcolon => ?_, fun hcolon => ?_⟩, hother,
    replaced_of_colon calls _ row hrow⟩
  · -- The schema that is read would reach up to the last colon of the name.
    obtain ⟨front, c, back, hsplit, hc, hlast⟩ :=
      Text.exists_last (p := (· == ':')) ⟨':', hcolon, rfl⟩
    obtain rfl := eq_of_beq hc
    have hread := hother (String.ofList front) (String.ofList back)
      (by rw [← String.toList_inj, hsplit]; simp)
      (by rw [String.toList_ofList]; exact fun hback => absurd (hlast ':' hback) (by decide))
    rw [hback] at hread
    split at hread
    · cases hread
    · have hsame := congrArg (fun ref => ref.schemaId.toList.length) (Option.some.inj hread)
      simp [FieldPolicy.ref] at hsame
  · have hword := FieldRef.ofWord?_append hschema hcolon
    rw [if_neg hname] at hword
    exact hword

/-- A schema whose only field has a name that ends in a colon. -/
def endingColon (context : Context) : List Call :=
  [⟨context, .replace ⟨"people", [{ fieldName := "nic:", isOwner := true }]⟩⟩]

theorem stored_field_word_endingColon :
    let calls := endingColon (onDay 0)
    let ref : FieldRef := ⟨"people", "nic:"⟩
    ∃ row, (run calls).store[ref]? = some row ∧ FieldRef.ofWord? row.ref.word = none := by
  intro calls ref
  have hstored : (run calls).store[ref]?.isSome = true := by decide +kernel
  obtain ⟨row, hrow⟩ := Option.isSome_iff_exists.1 hstored
  obtain ⟨href, -, hsplit, -⟩ := stored_field_word calls hrow
  exact ⟨row, hrow, hsplit "nic" "" (congrArg FieldRef.fieldName href) (by decide)⟩

/-- Replacements alone store fields that their words do not lead back to. -/
theorem not_stored_field_word :
    ¬ ∀ (calls : List Call) (ref : FieldRef) (row : FieldPolicy),
      (∀ call ∈ calls, (∃ request, call.request = .register request) ∨
        ∃ request, call.request = .replace request) →
      (run calls).store[ref]? = some row → FieldRef.ofWord? row.ref.word = some ref := by
  intro hall
  let calls := endingColon (onDay 0)
  let ref : FieldRef := ⟨"people", "nic:"⟩
  have hstored : ((run calls).store[ref]?.map fun row => FieldRef.ofWord? row.ref.word) =
      some none := by decide +kernel
  obtain ⟨row, hrow, hword⟩ := Option.map_eq_some_iff.1 hstored
  have hreplaced : ∀ call ∈ calls, (∃ request, call.request = .register request) ∨
      ∃ request, call.request = .replace request := by
    intro call hcall
    obtain rfl := List.mem_singleton.1 hcall
    exact .inr ⟨_, rfl⟩
  rw [hall calls ref row hreplaced hrow] at hword
  cases hword

end Service

end FieldAccess
