import FieldAccess.Http.Router
import FieldAccess.Proofs.Codecs
import FieldAccess.Proofs.IdentifierTexts
import FieldAccess.Proofs.InstantTexts

/-!
# Laws of the codecs of requests and answers

All that the service and its clients exchange is read back as it was written: instants to the
nanosecond, absent values, and whole allow-lists. The one condition is on registrations, whose
owners of fields are a map and so may name no field twice.

## Main statements

* `AllowList.lawful_codec`, `FieldPolicy.lawful_codec`, `Decision.lawful_codec` – the parts.
* `RegisterSchema.readsBack_codec` – registrations that name owners once are read back.
* `RegisteredSchema.lawful_codec`, `lawful_storedRecordsCodec`, `lawful_grantedRecordsCodec` – the
  answers.
-/

namespace FieldAccess

open Format

theorem Instant.lawful_codec : Instant.codec.Lawful :=
  Codec.lawful_ofText fun t => by rw [t.read_toText]; rfl

theorem Uuid.lawful_codec : Uuid.codec.Lawful :=
  Codec.lawful_ofText Uuid.read_toText

theorem FieldRef.lawful_codec : FieldRef.codec.Lawful :=
  Codec.lawful_record
    ⟨Field.lawful_required Codec.lawful_text, Field.lawful_required Codec.lawful_text, trivial⟩
    (by simp [Fields.names]) fun _ => rfl

theorem Grant.lawful_codec : Grant.codec.Lawful :=
  Codec.lawful_record
    ⟨Field.lawful_required Instant.lawful_codec, Field.lawful_required Instant.lawful_codec,
      trivial⟩
    (by simp [Fields.names]) fun _ => rfl

/-- **Allow-lists.** Whole allow-lists are read back. -/
theorem AllowList.lawful_codec : AllowList.codec.Lawful :=
  Codec.lawful_of_readsBack fun _ =>
    (Codec.readsBack_table Grant.lawful_codec (nodup_keys_of_perm (.refl _))).mapped
      (foldl_insert_of_perm (.refl _))

theorem FieldPolicy.lawful_codec : FieldPolicy.codec.Lawful :=
  Codec.lawful_record
    ⟨Field.lawful_required Uuid.lawful_codec,
      Field.lawful_required Codec.lawful_text,
      Field.lawful_required Codec.lawful_text,
      Field.lawful_optional Codec.lawful_text nofun,
      Field.lawful_optional Codec.lawful_text nofun,
      Field.lawful_required Provenance.lawful_codec,
      Field.lawful_required Codec.lawful_flag,
      Field.lawful_required AccessControl.lawful_codec,
      Field.lawful_required AllowList.lawful_codec,
      Field.lawful_optional Owner.lawful_codec nofun,
      Field.lawful_required Instant.lawful_codec,
      Field.lawful_required Instant.lawful_codec, trivial⟩
    (by simp [Fields.names]) fun _ => rfl

theorem DecisionField.lawful_codec : DecisionField.codec.Lawful :=
  Codec.lawful_record
    ⟨Field.lawful_required Codec.lawful_text,
      Field.lawful_required Codec.lawful_text,
      Field.lawful_optional Codec.lawful_text nofun,
      Field.lawful_optional Codec.lawful_text nofun,
      Field.lawful_optional Owner.lawful_codec nofun, trivial⟩
    (by simp [Fields.names]) fun _ => rfl

theorem Decision.lawful_codec : Decision.codec.Lawful :=
  Codec.lawful_record
    ⟨Field.lawful_required Codec.lawful_flag,
      Field.lawful_required DecisionField.lawful_codec.list,
      Field.lawful_required Codec.lawful_flag,
      Field.lawful_required DecisionField.lawful_codec.list,
      Field.lawful_required Codec.lawful_flag,
      Field.lawful_required DecisionField.lawful_codec.list, trivial⟩
    (by simp [Fields.names]) fun _ => rfl

theorem Schema.OwnerResolution.lawful_codec : Schema.OwnerResolution.codec.Lawful :=
  Codec.lawful_choice fun value => by cases value <;> decide

theorem Schema.ConvertedField.lawful_codec : Schema.ConvertedField.codec.Lawful :=
  Codec.lawful_record
    ⟨Field.lawful_required Codec.lawful_text,
      Field.lawful_required Schema.OwnerResolution.lawful_codec,
      Field.lawful_required Codec.lawful_flag, trivial⟩
    (by simp [Fields.names]) fun _ => rfl

theorem GrantedField.lawful_codec : GrantedField.codec.Lawful :=
  Codec.lawful_record
    ⟨Field.lawful_required Codec.lawful_text,
      Field.lawful_required Codec.lawful_text,
      Field.lawful_required Instant.lawful_codec,
      Field.lawful_required Instant.lawful_codec, trivial⟩
    (by simp [Fields.names]) fun _ => rfl

/-! ### Requests -/

theorem GrantAccess.lawful_codec : GrantAccess.codec.Lawful :=
  Codec.lawful_record
    ⟨Field.lawful_required Codec.lawful_text,
      Field.lawful_required Codec.lawful_text,
      Field.lawful_required FieldRef.lawful_codec.list, trivial⟩
    (by simp [Fields.names]) fun _ => rfl

theorem DecideAccess.lawful_codec : DecideAccess.codec.Lawful :=
  Codec.lawful_record
    ⟨Field.lawful_required Codec.lawful_text,
      Field.lawful_required FieldRef.lawful_codec.list, trivial⟩
    (by simp [Fields.names]) fun _ => rfl

/-- A registration that names the owner of no field twice is read back. -/
theorem RegisterSchema.readsBack_codec {request : RegisterSchema}
    (howners : (request.fieldOwners.map Prod.fst).Nodup) :
    RegisterSchema.codec.ReadsBack request :=
  Codec.readsBack_record
    ⟨(Field.lawful_required Codec.lawful_text).readsBack _,
      (Field.lawful_required Codec.lawful_text).readsBack _,
      (Field.lawful_required Codec.lawful_text).readsBack _,
      Field.readsBack_withDefault (Codec.readsBack_table Codec.lawful_text howners) _, trivial⟩
    (by simp [Fields.names]) rfl

/-! ### Answers -/

theorem RegisteredSchema.lawful_codec : RegisteredSchema.codec.Lawful :=
  Codec.lawful_record
    ⟨Field.lawful_required FieldPolicy.lawful_codec.list,
      Field.lawful_required Schema.ConvertedField.lawful_codec.list,
      Field.lawful_required Codec.lawful_text.list, trivial⟩
    (by simp [Fields.names]) fun _ => rfl

theorem lawful_storedRecordsCodec : storedRecordsCodec.Lawful :=
  Codec.lawful_record ⟨Field.lawful_required FieldPolicy.lawful_codec.list, trivial⟩
    (by simp [Fields.names]) fun _ => rfl

theorem lawful_grantedRecordsCodec : grantedRecordsCodec.Lawful :=
  Codec.lawful_record ⟨Field.lawful_required GrantedField.lawful_codec.list, trivial⟩
    (by simp [Fields.names]) fun _ => rfl

theorem Http.ErrorBody.lawful_codec : Http.ErrorBody.codec.Lawful :=
  Codec.lawful_record
    ⟨Field.lawful_required Codec.lawful_text, Field.lawful_required Codec.lawful_text, trivial⟩
    (by simp [Fields.names]) fun _ => rfl

end FieldAccess
