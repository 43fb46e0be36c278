import FieldAccess.Json.Source
import FieldAccess.Proofs.Depictions
import FieldAccess.Proofs.JsonText
import FieldAccess.Wire.Service

/-!
# Laws of codecs

What a codec writes it reads back from the text that is written for it. The law holds of the simple
codecs, and the codecs of sequences and records have it from those of their parts, as in every
depiction of values; in a text it is stated for values without numbers.

## Main definitions

* `Json.inText` – values as they are shown in a text.
* `Codec.ReadsBack` – a value that is read back as it was written.
* `Codec.Lawful` – a codec that reads what it writes.
* `Field.ReadsBack`, `Fields.ReadBack`, `Field.Lawful`, `Fields.Lawful` – the same for the fields of
  records.

## Main statements

* `Codec.readsBack_record`, `Codec.lawful_record` – the law for a record from those of its fields.
* `Codec.readsBack_table` – maps with distinct keys are read back.
* `Codec.Lawful.decode_indented`, `Codec.ReadsBack.decode_compact` – a value is read from the text
  that is written for it.
* `ReplaceMetadata.lawful_codec` – the codec of replacements is lawful.
-/

namespace FieldAccess

open Format

/-- Values as they are shown in a text. -/
def Json.inText : Depiction := ⟨textSource, Document.ofValue⟩

theorem Json.ofValues_eq_map (items : List Json) :
    Document.ofValues items = items.map Document.ofValue := by
  induction items with
  | nil => rfl
  | cons item rest ih => rw [List.map_cons, Document.ofValues, ih]

theorem Json.ofEntries_eq_map (entries : List (String × Json)) :
    Document.ofEntries entries = Json.inText.entries entries := by
  induction entries with
  | nil => rfl
  | cons entry rest ih =>
    rw [Document.ofEntries, ih]
    rfl

theorem Json.faithful_inText : Json.inText.Faithful where
  text _ _ := rfl
  flag _ := rfl
  natural bound name n h := by
    have hrange : (0 ≤ (n : Int) && (n : Int) ≤ bound) = true := by
      simpa using h
    change naturalOf bound name n = .ok n
    rw [naturalOf, if_pos hrange, Int.toNat_natCast]
  list items := congrArg (fun items => Except.ok (Listing.mk items none)) (ofValues_eq_map items)
  table entries :=
    congrArg (fun entries => Except.ok (Listing.mk entries none)) (ofEntries_eq_map entries)
  record _ entries :=
    congrArg (fun entries => Except.ok (RecordView.named ⟨entries, none⟩))
      (ofEntries_eq_map entries)
  variant _ := rfl
  optional json hnull _ := by
    cases json with
    | null => exact absurd rfl hnull
    | _ => rfl

namespace Format

/-- A value that is read back as it was written, without numbers. -/
structure Codec.ReadsBack {α : Type} (codec : Codec α) (value : α) : Prop where
  read_write : codec.read Json.textSource (Json.Document.ofValue (codec.write value)) = .ok value
  numberFree : (codec.write value).numberFree = true

/-- A codec that reads what it writes, and writes no numbers. -/
structure Codec.Lawful {α : Type} (codec : Codec α) : Prop where
  read_write : ∀ value,
    codec.read Json.textSource (Json.Document.ofValue (codec.write value)) = .ok value
  numberFree : ∀ value, (codec.write value).numberFree = true

theorem Codec.Lawful.readsBack {α : Type} {codec : Codec α} (h : codec.Lawful) (value : α) :
    codec.ReadsBack value :=
  ⟨h.read_write value, h.numberFree value⟩

theorem Codec.lawful_of_readsBack {α : Type} {codec : Codec α}
    (h : ∀ value, codec.ReadsBack value) : codec.Lawful :=
  ⟨fun value => (h value).read_write, fun value => (h value).numberFree⟩

/-- A value of a field that is read back as it was written, or that stands for its absence when it
is not written. -/
structure Field.ReadsBack {α : Type} (field : Field α) (value : α) : Prop where
  read_write : ∀ json, field.write value = some json →
    field.read Json.textSource (Json.Document.ofValue json) = .ok value ∧ json.numberFree = true
  absent : field.write value = none → field.absent = some value

/-- A field that reads what it writes, and that has the value which is not written when it is
absent. -/
structure Field.Lawful {α : Type} (field : Field α) : Prop where
  read_write : ∀ value json, field.write value = some json →
    field.read Json.textSource (Json.Document.ofValue json) = .ok value ∧ json.numberFree = true
  absent : ∀ value, field.write value = none → field.absent = some value

theorem Field.Lawful.readsBack {α : Type} {field : Field α} (h : field.Lawful) (value : α) :
    field.ReadsBack value :=
  ⟨h.read_write value, h.absent value⟩

theorem Field.ReadsBack.readsIn {α : Type} {field : Field α} {value : α}
    (h : field.ReadsBack value) : field.ReadsIn Json.inText value :=
  ⟨fun json hwrite => (h.read_write json hwrite).1, h.absent⟩

/-- Fields that are lawful. -/
def Fields.Lawful : {τ : Type} → Fields τ → Prop
  | _, nil => True
  | _, cons field rest => field.Lawful ∧ rest.Lawful

/-- Values of fields that are read back as they were written. -/
def Fields.ReadBack : {τ : Type} → Fields τ → τ → Prop
  | _, nil, () => True
  | _, cons field rest, (value, values) => field.ReadsBack value ∧ rest.ReadBack values

theorem Fields.Lawful.readBack : {τ : Type} → {fields : Fields τ} → fields.Lawful →
    (values : τ) → fields.ReadBack values
  | _, nil, _, () => trivial
  | _, cons _ _, h, (value, values) => ⟨h.1.readsBack value, h.2.readBack values⟩

theorem Fields.ReadBack.readIn : {τ : Type} → {fields : Fields τ} → {values : τ} →
    fields.ReadBack values → fields.ReadIn Json.inText values
  | _, nil, (), _ => trivial
  | _, cons _ _, (_, _), h => ⟨h.1.readsIn, Fields.ReadBack.readIn h.2⟩

namespace Codec

theorem lawful_text : Codec.text.Lawful where
  read_write _ := rfl
  numberFree _ := rfl

theorem lawful_flag : Codec.flag.Lawful where
  read_write _ := rfl
  numberFree _ := rfl

theorem ReadsBack.mapped {α β : Type} {codec : Codec β} {ofOther : β → α} {toOther : α → β}
    {value : α} (h : codec.ReadsBack (toOther value)) (hinverse : ofOther (toOther value) = value) :
    (codec.mapped ofOther toOther).ReadsBack value where
  read_write :=
    ReadsIn.mapped (show codec.ReadsIn Json.inText (toOther value) from h.read_write) hinverse
  numberFree := h.numberFree

theorem Lawful.mapped {α β : Type} {codec : Codec β} (h : codec.Lawful) {ofOther : β → α}
    {toOther : α → β} (hinverse : ∀ value, ofOther (toOther value) = value) :
    (codec.mapped ofOther toOther).Lawful :=
  lawful_of_readsBack fun value => (h.readsBack (toOther value)).mapped (hinverse value)

/-- A text is read back if it is understood as what it was written for. -/
theorem lawful_ofText {α : Type} {expected : String} {parse : String → Except String α}
    {render : α → String} (hparse : ∀ value, parse (render value) = .ok value) :
    (Codec.ofText expected parse render).Lawful where
  read_write value := by
    have htext : Json.textSource.text expected (Json.Document.ofValue (.text (render value))) =
        .ok (render value) := rfl
    simp only [Codec.ofText, htext, bind, Except.bind, hparse]
  numberFree _ := rfl

/-- A choice is lawful if each value is the first one with its name. -/
theorem lawful_choice {α : Type} {values : List α} {name : α → String}
    (hfind : ∀ value, values.find? (fun other => name other == name value) = some value) :
    (Codec.choice values name).Lawful where
  read_write value := readsIn_choice Json.faithful_inText (hfind value)
  numberFree _ := rfl

theorem numberFreeItems_map {α : Type} {item : Codec α} (h : item.Lawful) (values : List α) :
    Json.numberFreeItems (values.map item.write) = true := by
  induction values with
  | nil => rfl
  | cons value rest ih => rw [List.map_cons, Json.numberFreeItems, h.numberFree, ih, Bool.and_self]

theorem Lawful.list {α : Type} {item : Codec α} (h : item.Lawful) : (Codec.list item).Lawful where
  read_write _ := readsIn_list Json.faithful_inText fun value _ => h.read_write value
  numberFree values := numberFreeItems_map h values

section Tables

variable {α : Type} {value : Codec α}

theorem numberFreeEntries_map (h : value.Lawful) (entries : List (String × α)) :
    Json.numberFreeEntries (entries.map fun (key, v) => (key, value.write v)) = true := by
  induction entries with
  | nil => rfl
  | cons entry rest ih =>
    rw [List.map_cons, Json.numberFreeEntries, h.numberFree, ih, Bool.and_self]

/-- A map with distinct keys is read back. -/
theorem readsBack_table (h : value.Lawful) {entries : List (String × α)}
    (hkeys : (entries.map Prod.fst).Nodup) : (Codec.table value).ReadsBack entries where
  read_write := readsIn_table Json.faithful_inText (fun entry _ => h.read_write entry.2) hkeys
  numberFree := numberFreeEntries_map h entries

end Tables

end Codec

namespace Field

variable {α : Type} {name : String} {codec : Codec α}

theorem lawful_required (h : codec.Lawful) : (required name codec).Lawful where
  read_write value json hwrite := by
    obtain rfl := Option.some.inj hwrite
    exact ⟨h.read_write value, h.numberFree value⟩
  absent _ hwrite := by cases hwrite

theorem readsBack_withDefault {value : α} (h : codec.ReadsBack value) (default : α) :
    (withDefault name codec default).ReadsBack value where
  read_write json hwrite := by
    obtain rfl := Option.some.inj hwrite
    exact ⟨h.read_write, h.numberFree⟩
  absent hwrite := by cases hwrite

theorem lawful_withDefault (h : codec.Lawful) (default : α) :
    (withDefault name codec default).Lawful :=
  ⟨fun value => (readsBack_withDefault (h.readsBack value) default).read_write,
    fun value => (readsBack_withDefault (h.readsBack value) default).absent⟩

/-- A value that is not written as an absent one is there. -/
theorem optional_ofValue {json : Json} (hjson : json ≠ .null) :
    Json.textSource.optional (Json.Document.ofValue json) =
      .ok (some (Json.Document.ofValue json)) := by
  cases json with
  | null => exact absurd rfl hjson
  | _ => rfl

theorem lawful_optional (h : codec.Lawful) (hpresent : ∀ value, codec.write value ≠ .null) :
    (optional name codec).Lawful where
  read_write value json hwrite := by
    obtain ⟨inner, rfl, rfl⟩ := Option.map_eq_some_iff.1 hwrite
    refine ⟨?_, h.numberFree inner⟩
    simp only [optional, readOptional, optional_ofValue (hpresent inner)]
    change (codec.read Json.textSource (Json.Document.ofValue (codec.write inner)) >>=
      fun value => pure (some value)) = _
    rw [h.read_write]
    rfl
  absent value hwrite := by
    obtain rfl := Option.map_eq_none_iff.1 hwrite
    rfl

end Field

namespace Fields

theorem numberFreeEntries_entries : {τ : Type} → (fields : Fields τ) → (values : τ) →
    fields.ReadBack values → Json.numberFreeEntries (fields.entries values) = true
  | _, nil, (), _ => rfl
  | _, cons field rest, (value, values), hback => by
    obtain ⟨hfield, hrest⟩ := hback
    rw [entries]
    cases hwrite : field.write value with
    | none => exact numberFreeEntries_entries rest values hrest
    | some json =>
      rw [Json.numberFreeEntries, (hfield.read_write json hwrite).2,
        numberFreeEntries_entries rest values hrest, Bool.and_self]

end Fields

/-- A record is read back if its fields are and have different names. -/
theorem Codec.readsBack_record {α τ : Type} {name : String} {fields : Fields τ} {ofParts : τ → α}
    {parts : α → τ} {value : α} (hfields : fields.ReadBack (parts value))
    (hnames : fields.names.Nodup) (hinverse : ofParts (parts value) = value) :
    (Codec.record name fields ofParts parts).ReadsBack value where
  read_write := readsIn_record Json.faithful_inText hfields.readIn hnames hinverse
  numberFree := fields.numberFreeEntries_entries (parts value) hfields

/-- The codec of a record is lawful if its fields are and have different names. -/
theorem Codec.lawful_record {α τ : Type} {name : String} {fields : Fields τ} {ofParts : τ → α}
    {parts : α → τ} (hfields : fields.Lawful) (hnames : fields.names.Nodup)
    (hinverse : ∀ value, ofParts (parts value) = value) :
    (Codec.record name fields ofParts parts).Lawful :=
  lawful_of_readsBack fun value =>
    readsBack_record (hfields.readBack (parts value)) hnames (hinverse value)

theorem Codec.ReadsBack.decode_eq {α : Type} {codec : Codec α} {value : α}
    (h : codec.ReadsBack value) {text : String}
    (htext : Json.Document.ofText text = (Json.Document.ofValue (codec.write value), none)) :
    Json.decode codec text = .ok value := by
  rw [Json.decode, htext]
  change (codec.read Json.textSource (Json.Document.ofValue (codec.write value)) >>= fun value =>
    pure value) = _
  rw [h.read_write]
  rfl

/-- **Texts.** A value is read from the indented text that is written for it. -/
theorem Codec.Lawful.decode_indented {α : Type} {codec : Codec α} (h : codec.Lawful) (value : α) :
    Json.decode codec ((codec.write value).indented ++ "\n") = .ok value :=
  (h.readsBack value).decode_eq (Json.ofText_indented (h.numberFree value))

/-- A value is read from the compact text that is written for it. -/
theorem Codec.ReadsBack.decode_compact {α : Type} {codec : Codec α} {value : α}
    (h : codec.ReadsBack value) : Json.decode codec (codec.write value).compact = .ok value :=
  h.decode_eq (Json.ofText_compact h.numberFree)

end Format

theorem AccessControl.lawful_codec : AccessControl.codec.Lawful :=
  Codec.lawful_choice fun value => by cases value <;> decide

theorem Provenance.lawful_codec : Provenance.codec.Lawful :=
  Codec.lawful_choice fun value => by cases value <;> decide

theorem Owner.lawful_codec : Owner.codec.Lawful :=
  Codec.lawful_text.mapped fun _ => rfl

theorem FieldRecord.lawful_codec : FieldRecord.codec.Lawful :=
  Codec.lawful_record
    ⟨Field.lawful_required Codec.lawful_text,
      Field.lawful_optional Codec.lawful_text nofun,
      Field.lawful_optional Codec.lawful_text nofun,
      Field.lawful_withDefault Provenance.lawful_codec _,
      Field.lawful_required Codec.lawful_flag,
      Field.lawful_withDefault AccessControl.lawful_codec _,
      Field.lawful_optional Owner.lawful_codec nofun, trivial⟩
    (by simp [Fields.names]) fun _ => rfl

/-- Replacements are read from the documents that are written for them. -/
theorem ReplaceMetadata.lawful_codec : ReplaceMetadata.codec.Lawful :=
  Codec.lawful_record
    ⟨Field.lawful_required Codec.lawful_text,
      Field.lawful_required FieldRecord.lawful_codec.list, trivial⟩
    (by simp [Fields.names]) fun _ => rfl

end FieldAccess
