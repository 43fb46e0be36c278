import FieldAccess.CommandLine.Run
import FieldAccess.Proofs.Codecs
import FieldAccess.Proofs.FailedCalls
import FieldAccess.Proofs.Identifiers

/-!
# Conversion without a service

A schema document can be registered with the service, or it can be converted on the spot, printed,
and submitted as a replacement. Both ways come to the same. They check the records at different
places: a replacement looks at the batch before it asks the store, a registration leaves this to the
plan that the store makes, whose error is carried over into one of the store and back again.

## Main definitions

* `Schema.Conversion.printed` – the text that a conversion is printed as.

## Main statements

* `Service.registerResult_eq_map_replaceResult` – a registration is a replacement by the records of
  its document.
* `Service.offline_conversion_matches_registration` – the same over the printed text.
-/

namespace FieldAccess

open Format

/-- The text that a conversion is printed as: a replacement of the fields of a schema. -/
def Schema.Conversion.printed (conversion : Schema.Conversion) (schemaId : String) : String :=
  (ReplaceMetadata.codec.write ⟨schemaId, conversion.records⟩).indented ++ "\n"

theorem Schema.Conversion.decode_printed (conversion : Schema.Conversion) (schemaId : String) :
    Json.decode ReplaceMetadata.codec (conversion.printed schemaId) =
      .ok ⟨schemaId, conversion.records⟩ :=
  ReplaceMetadata.lawful_codec.decode_indented ⟨schemaId, conversion.records⟩

/-- The command shows the printed conversion, and the types that are passed over go to the log. -/
theorem CommandLine.output_convertSchema {machine : Machine} {source : SchemaFile}
    {request : RegisterSchema} {conversion : Schema.Conversion}
    (hrequest : source.request machine.files = .ok request)
    (hconvert : request.convert = .ok conversion) (filter : LogFilter) :
    (convertSchema filter machine source).output = conversion.printed request.schemaId ∧
      (convertSchema filter machine source).logged = (conversionRecords request).filter filter := by
  simp only [convertSchema, hrequest, hconvert, Ending.shown, and_true]
  exact String.empty_append

theorem FieldRecord.exists_fault_of_check {record : FieldRecord} {error : PolicyError}
    (h : record.check = .error error) : ∃ fault, error = .invalidArgument fault := by
  unfold check at h
  split at h
  · exact ⟨_, (Except.error.inj h).symm⟩
  · split at h
    · cases h
    · exact ⟨_, (Except.error.inj h).symm⟩

/-- A batch that is refused has a fault. -/
theorem exists_fault_of_checkRecords {records : List FieldRecord} {error : PolicyError}
    (h : checkRecords records = .error error) : ∃ fault, error = .invalidArgument fault := by
  obtain ⟨_, record, _, -, -, hcheck | ⟨-, -, herror⟩⟩ := checkRecords_eq_error_iff.1 h
  · exact record.exists_fault_of_check hcheck
  · exact ⟨_, herror⟩

namespace Service

variable {context context' : Context} {store : Store}

/-- A store that works reports the fault that the check of a batch finds as the same fault. -/
theorem replaceFields_eq_error (hworks : context.storeFault = none) (schemaId : String)
    {records : List FieldRecord} {error : PolicyError}
    (hcheck : checkRecords records = .error error) :
    replaceFields context store schemaId records = .error error := by
  obtain ⟨fault, rfl⟩ := exists_fault_of_checkRecords hcheck
  exact (sameFaults_replaceFields hworks schemaId records fault).2 hcheck

/-- While the store works, it makes no difference that a replacement checks its records first. -/
theorem replaceResult_eq_replaceFields (hworks : context.storeFault = none) {schemaId : String}
    (hschema : Text.isBlankText schemaId = false) (records : List FieldRecord) :
    replaceResult context store ⟨schemaId, records⟩ =
      replaceFields context store schemaId records := by
  have hname : requireNonBlank schemaId "schemaId" = .ok () := requireNonBlank_eq_ok_iff.2 hschema
  simp only [replaceResult, hname]
  -- The plan of the store checks the records in the same way.
  cases hcheck : checkRecords records with
  | error error => exact (replaceFields_eq_error hworks schemaId hcheck).symm
  | ok _ => rfl

/-- **Registrations are replacements.** What is registered is a replacement by the records of the
document, answered with what else the conversion tells. -/
theorem registerResult_eq_map_replaceResult (hworks : context.storeFault = none)
    {request : RegisterSchema} {conversion : Schema.Conversion}
    (hconvert : request.convert = .ok conversion) :
    registerResult context store request =
      (replaceResult context store ⟨request.schemaId, conversion.records⟩).map
        fun (rows, after) => (⟨rows, conversion.fields, conversion.unresolved⟩, after) := by
  rw [replaceResult_eq_replaceFields hworks (isBlankText_of_convert hconvert), registerResult,
    hconvert]
  change (replaceFields context store request.schemaId conversion.records >>= _) = _
  cases replaceFields context store request.schemaId conversion.records <;> rfl

/-- A registration and the replacement by its conversion, made alike, store the same rows and leave
the same store, or fail with the same error. -/
theorem register_eq_replace (store : Store) (hworks : context.storeFault = none)
    {request : RegisterSchema} {conversion : Schema.Conversion}
    (hconvert : request.convert = .ok conversion) :
    let registered := register context store request
    let replaced := replace context store ⟨request.schemaId, conversion.records⟩
    registered.result.map (·.records) = replaced.result ∧
      (∀ schema, registered.result = .ok schema → schema.fields = conversion.fields ∧
        schema.unresolvedOwnerFields = conversion.unresolved) ∧
      registered.store = replaced.store := by
  simp only [register, replace, registerResult_eq_map_replaceResult hworks hconvert]
  cases replaceResult context store ⟨request.schemaId, conversion.records⟩ with
  | error error => exact ⟨rfl, by rintro _ ⟨⟩, rfl⟩
  | ok replaced => exact ⟨rfl, fun schema hschema => Except.ok.inj hschema ▸ ⟨rfl, rfl⟩, rfl⟩

theorem error_of_map_eq {α β : Type} {x y : Except PolicyError α} {f : α → β}
    (hmap : x.map f = y.map f) {error : PolicyError} (hx : x = .error error) :
    y = .error error := by
  subst hx
  cases y with
  | error other => rw [Except.error.inj hmap]
  | ok a => cases hmap

theorem replace_congr (store : Store) (hnow : context.now = context'.now)
    (hfresh : context.fresh = context'.fresh) (hfault : context.storeFault = context'.storeFault)
    (request : ReplaceMetadata) :
    (replace context store request).result = (replace context' store request).result ∧
      (replace context store request).store = (replace context' store request).store := by
  have hsame : replaceResult context store request = replaceResult context' store request := by
    simp only [replaceResult, replaceFields, Context.access, hnow, hfresh, hfault]
  simp only [replace, hsame]
  cases replaceResult context' store request <;> exact ⟨rfl, rfl⟩

/-- Replacements that are made alike differ in nothing but identifiers. -/
theorem replace_anonymous (store : Store) (hnow : context.now = context'.now)
    (hfault : context.storeFault = context'.storeFault) (request : ReplaceMetadata) :
    (replace context store request).result.map (·.map FieldPolicy.anonymous) =
        (replace context' store request).result.map (·.map FieldPolicy.anonymous) ∧
      (replace context store request).store.anonymous =
        (replace context' store request).store.anonymous := by
  have halike : Call.Alike ⟨context, .replace request⟩ ⟨context', .replace request⟩ :=
    ⟨rfl, hnow, hfault⟩
  obtain ⟨hresult, hstore⟩ := halike.answer_anonymous (rfl : store.anonymous = store.anonymous)
  refine ⟨?_, hstore⟩
  simp only [Call.answer, Answer.map] at hresult
  cases hleft : (replace context store request).result <;>
    cases hright : (replace context' store request).result <;>
      simp_all [Except.map, Reply.anonymous]

/-- **Conversion without a service.** A schema document is registered with a store that works. If it
cannot be converted, the registration fails with the error of the conversion and leaves the store as
it was. If it can, the text that the conversion is printed as is read as a replacement, and making
this replacement at the same time on the same store instead comes to the same: the same rows in the
same order and the same store, or the same error and the store as it was. Rows and stores differ in
identifiers, and in these only if different ones are drawn for new rows. A registration that
succeeds tells the fields and the paths without an owner of the conversion. The command shows
nothing but the printed text; what it logs of the document are the types that are passed over. -/
theorem offline_conversion_matches_registration (store : Store) (context context' : Context)
    (request : RegisterSchema) (hnow : context.now = context'.now)
    (hworks : context.storeFault = none) (hworks' : context'.storeFault = none) :
    let registered := register context store request
    match request.convert with
    | .error error => registered.result = .error error ∧ registered.store = store
    | .ok conversion =>
      (∀ (machine : Machine) (source : CommandLine.SchemaFile) (filter : CommandLine.LogFilter),
        source.request machine.files = .ok request →
          let ending := CommandLine.convertSchema filter machine source
          ending.output = conversion.printed request.schemaId ∧
            ending.logged = (CommandLine.conversionRecords request).filter filter) ∧
      ∃ body, Json.decode ReplaceMetadata.codec (conversion.printed request.schemaId) = .ok body ∧
        let replaced := replace context' store body
        registered.result.map (·.records.map FieldPolicy.anonymous) =
          replaced.result.map (·.map FieldPolicy.anonymous) ∧
        registered.store.anonymous = replaced.store.anonymous ∧
        (context.fresh = context'.fresh →
          registered.result.map (·.records) = replaced.result ∧
            registered.store = replaced.store) ∧
        (∀ error, registered.result = .error error →
          registered.store = store ∧ replaced.store = store) ∧
        ∀ schema, registered.result = .ok schema →
          schema.fields = conversion.fields ∧
            schema.unresolvedOwnerFields = conversion.unresolved := by
  intro registered
  cases hconvert : request.convert with
  | error error =>
    have hresult : registerResult context store request = .error error := by
      rw [registerResult, hconvert]
      rfl
    simp only [registered, register, hresult, and_self]
  | ok conversion =>
    let body : ReplaceMetadata := ⟨request.schemaId, conversion.records⟩
    refine ⟨fun machine source filter hrequest =>
      CommandLine.output_convertSchema hrequest hconvert filter, body,
      conversion.decode_printed request.schemaId, ?_⟩
    -- The replacement is compared with the registration through the one that would draw the
    -- identifiers of the registration.
    have hfault : context.storeFault = context'.storeFault := hworks.trans hworks'.symm
    obtain ⟨hrows, hafter⟩ := replace_anonymous store hnow hfault body
    obtain ⟨hrecords, htold, hstore⟩ := register_eq_replace store hworks hconvert
    intro replaced
    refine ⟨?_, ?_, ?_, ?_, htold⟩
    · rw [← hrows, ← hrecords]
      cases registered.result <;> rfl
    · rw [← hafter, ← hstore]
    · intro hfresh
      obtain ⟨hsame, hsame'⟩ := replace_congr store hnow hfresh hfault body
      exact ⟨hrecords.trans hsame, hstore.trans hsame'⟩
    · intro error herror
      have halike : (replace context store body).result = .error error := by
        rw [← hrecords, herror]
        rfl
      exact ⟨store_register herror, store_replace (error_of_map_eq hrows halike)⟩

/-- A document that describes one of two stored fields and a new one, registered, and converted and
then submitted with other identifiers. -/
theorem offline_conversion_matches_registration_people :
    let store := (run [⟨onDay 0, .replace ⟨"people", [{ fieldName := "p.a", isOwner := true },
      { fieldName := "p.old", isOwner := true }]⟩⟩]).store
    let context := onDay 1
    let context' := { context with trace := "offline", fresh := fun n => context.fresh (n + 7) }
    let request : RegisterSchema :=
      { schemaId := "people", providerId := "registry",
        sdl := "type P \x7b\n a: T @isOwner(value: true)\n b: T @owner(value: \"citizen\")\n\x7d" }
    ∃ conversion body, request.convert = .ok conversion ∧
      Json.decode ReplaceMetadata.codec (conversion.printed "people") = .ok body ∧
      (register context store request).result.map (·.records.map FieldPolicy.anonymous) =
        (replace context' store body).result.map (·.map FieldPolicy.anonymous) ∧
      (register context store request).store.anonymous =
        (replace context' store body).store.anonymous ∧
      ((register context store request).result.map (·.records.map (·.fieldName))).toOption =
        some ["p.a", "p.b"] := by
  intro store context context' request
  have hmatches :=
    offline_conversion_matches_registration store context context' request rfl rfl rfl
  obtain ⟨conversion, hconvert⟩ := exists_of_isOk (by decide +kernel : request.convert.isOk = true)
  rw [hconvert] at hmatches
  obtain ⟨-, body, hbody, hrows, hstore, -⟩ := hmatches
  exact ⟨conversion, body, hconvert, hbody, hrows, hstore, by decide +kernel⟩

end Service

end FieldAccess
