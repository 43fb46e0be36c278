import FieldAccess.Proofs.Replacement
import FieldAccess.Proofs.Texts
import FieldAccess.Service.Request

/-!
# Owners of converted fields

The owner of a field is taken from the first of four sources that says anything: an owner named for
its path, one named by the field, the claim that the provider owns it, and last nothing at all. A
field without an owner is never the provider's. What is reported about the consent that a field
needs is what is found out later from the stored row.

A provider that is named as the owner of a field owns it only if its identity has no blanks at its
ends, because these are removed from the name of the owner and not from the identity.

## Main definitions

* `Given` – a text that is there and is not blank.
* `Converts` – what the conversion of a field comes to.

## Main statements

* `resolveOwner_cases` – the four ways in which an owner is found.
* `conversion_is_fail_safe` – the records of a list of fields, and whether they are in order.
* `named_provider_owns_field` – fields whose owner is named as the provider.
-/

namespace FieldAccess

/-- A word is read from its own spelling and from no other text. -/
theorem find?_name_eq_some_iff {α : Type} {words : List α} {name : α → String}
    (hfirst : ∀ word, words.find? (fun other => name other == name word) = some word) {word : α}
    {text : String} :
    words.find? (fun other => name other == text) = some word ↔ text = name word := by
  constructor
  · intro hfound
    have hname := List.find?_some hfound
    exact (beq_iff_eq.1 hname).symm
  · rintro rfl
    exact hfirst word

theorem AccessControl.ofName?_eq_some_iff {word : AccessControl} {text : String} :
    ofName? text = some word ↔ text = word.name :=
  find?_name_eq_some_iff fun word => by cases word <;> decide

theorem Provenance.ofName?_eq_some_iff {word : Provenance} {text : String} :
    ofName? text = some word ↔ text = word.name :=
  find?_name_eq_some_iff fun word => by cases word <;> decide

/-- A row that a record was submitted for needs consent if the record says so, whatever it said
before. -/
theorem FieldPolicy.needsConsent_submit (row : FieldPolicy) (record : FieldRecord) (now : Instant) :
    (row.submit record now).needsConsent =
      (record.accessControl == .restricted && !record.isOwner) := by
  rw [Bool.and_comm, submit]
  split
  · rename_i hagrees
    have hsame : row.isOwner = record.isOwner ∧ row.accessControl = record.accessControl := by
      simp only [agrees, Bool.and_eq_true, beq_iff_eq] at hagrees
      exact ⟨hagrees.1.1.2, hagrees.1.2⟩
    rw [needsConsent, hsame.1, hsame.2]
  · rfl

namespace Schema

/-- A text that is there and is not blank. -/
def Given (text : Option String) : Prop := ∃ s ∈ text, Text.isBlankText s = false

instance (text : Option String) : Decidable (Given text) :=
  inferInstanceAs (Decidable (∃ s ∈ text, Text.isBlankText s = false))

theorem nonBlank_of_given {text : String} (hgiven : Text.isBlankText text = false) :
    nonBlank (some text) = some (Text.trimmed text) := by
  have hne : Text.trimmed text ≠ "" := by
    intro hempty
    rw [Text.trimmed_eq_empty_iff.1 hempty] at hgiven
    cases hgiven
  simp [nonBlank, hne]

theorem nonBlank_of_not_given {text : Option String} (hnot : ¬Given text) :
    nonBlank text = none := by
  cases text with
  | none => rfl
  | some s =>
    have hblank : Text.isBlankText s = true := by
      by_contra hsome
      exact hnot ⟨s, rfl, by simpa using hsome⟩
    simp [nonBlank, Text.trimmed_eq_empty_iff.2 hblank]

variable (field : FieldDirective) (provider : String) (owners : FieldOwners)

/-- The four ways in which the owner of a field is found, of which exactly one applies. -/
theorem resolveOwner_cases :
    (∃ owner, owners.lookup field.path = some owner ∧ Text.isBlankText owner = false ∧
      resolveOwner field provider owners = (some (Text.trimmed owner), .overridden)) ∨
    (¬Given (owners.lookup field.path) ∧ ∃ owner, field.owner = some owner ∧
      Text.isBlankText owner = false ∧
      resolveOwner field provider owners = (some (Text.trimmed owner), .declared)) ∨
    (¬Given (owners.lookup field.path) ∧ ¬Given field.owner ∧ field.isOwner = true ∧
      resolveOwner field provider owners = (some provider, .provider)) ∨
    (¬Given (owners.lookup field.path) ∧ ¬Given field.owner ∧ field.isOwner = false ∧
      resolveOwner field provider owners = (none, .unresolved)) := by
  by_cases hnamed : Given (owners.lookup field.path)
  · obtain ⟨owner, howner, hgiven⟩ := hnamed
    refine .inl ⟨owner, howner, hgiven, ?_⟩
    rw [resolveOwner, howner, nonBlank_of_given hgiven]
  · have hoverride := nonBlank_of_not_given hnamed
    by_cases hdeclared : Given field.owner
    · obtain ⟨owner, howner, hgiven⟩ : ∃ owner, field.owner = some owner ∧
        Text.isBlankText owner = false := hdeclared
      refine .inr (.inl ⟨hnamed, owner, howner, hgiven, ?_⟩)
      simp only [resolveOwner, hoverride, howner, nonBlank_of_given hgiven]
    · have hannotation := nonBlank_of_not_given hdeclared
      cases hprovider : field.isOwner with
      | true =>
        refine .inr (.inr (.inl ⟨hnamed, hdeclared, rfl, ?_⟩))
        simp only [resolveOwner, hoverride, hannotation, hprovider, if_true]
      | false =>
        refine .inr (.inr (.inr ⟨hnamed, hdeclared, rfl, ?_⟩))
        simp [resolveOwner, hoverride, hannotation, hprovider]

/-- Only the exact word makes a field public. -/
theorem accessControl_toRecord :
    (toRecord field provider owners).accessControl = .unrestricted ↔
      field.accessControl = some "public" := by
  simp [toRecord, Option.getD_eq_iff, Option.bind_eq_some_iff, AccessControl.ofName?_eq_some_iff,
    AccessControl.name]

theorem source_toRecord :
    (toRecord field provider owners).source = .primary ↔ field.source = some "primary" := by
  simp [toRecord, Option.getD_eq_iff, Option.bind_eq_some_iff, Provenance.ofName?_eq_some_iff,
    Provenance.name]

/-- What the conversion of a field comes to: its record, and what is reported about it. -/
structure Converts (record : FieldRecord) (converted : ConvertedField) : Prop where
  recordName : record.fieldName = field.path
  convertedName : converted.fieldName = field.path
  overridden : converted.resolution = .overridden ↔ Given (owners.lookup field.path)
  declared : converted.resolution = .declared ↔
    ¬Given (owners.lookup field.path) ∧ Given field.owner
  provider : converted.resolution = .provider ↔
    ¬Given (owners.lookup field.path) ∧ ¬Given field.owner ∧ field.isOwner = true
  unresolved : converted.resolution = .unresolved ↔
    ¬Given (owners.lookup field.path) ∧ ¬Given field.owner ∧ field.isOwner = false
  /-- A field whose owner is not found is not the provider's, whoever the provider is. -/
  failSafe : converted.resolution = .unresolved →
    record.isOwner = false ∧ record.owner = some .unknown
  unrestricted : record.accessControl = .unrestricted ↔ field.accessControl = some "public"
  primary : record.source = .primary ↔ field.source = some "primary"
  check : record.check = .ok ()
  /-- A row that is made from the record needs consent as reported. -/
  created : ∀ id schemaId now, ∃ row, FieldPolicy.create id schemaId record now = .ok row ∧
    row.needsConsent = converted.consentRequired
  applied : ∀ (row : FieldPolicy) now, ∃ after changed,
    row.apply record now = .ok (after, changed) ∧ after.needsConsent = converted.consentRequired

/-- The path of a field has a point in it, so it is never blank. -/
theorem isBlankText_path : Text.isBlankText field.path = false := by
  have hpoint : '.' ∈ field.path.toList := by
    simp [FieldDirective.path, String.toList_append]
  rw [Text.isBlankText, ← Bool.not_eq_true, List.all_eq_true]
  intro hall
  exact absurd (hall '.' hpoint) (by decide)

/-- Converted records follow the rule of ownership. -/
theorem check_toRecord : (toRecord field provider owners).check = .ok () := by
  refine FieldRecord.check_eq_ok_iff.2 ⟨isBlankText_path field, ?_⟩
  simp only [toRecord]
  cases (resolveOwner field provider owners).1 == some provider <;> rfl

/-- Which source counts is decided by which of them say anything. -/
theorem resolution_toConverted :
    ((toConverted field provider owners).resolution = .overridden ↔
      Given (owners.lookup field.path)) ∧
    ((toConverted field provider owners).resolution = .declared ↔
      ¬Given (owners.lookup field.path) ∧ Given field.owner) ∧
    ((toConverted field provider owners).resolution = .provider ↔
      ¬Given (owners.lookup field.path) ∧ ¬Given field.owner ∧ field.isOwner = true) ∧
    ((toConverted field provider owners).resolution = .unresolved ↔
      ¬Given (owners.lookup field.path) ∧ ¬Given field.owner ∧ field.isOwner = false) := by
  simp only [toConverted]
  rcases resolveOwner_cases field provider owners with
    ⟨owner, howner, hgiven, hresolved⟩ | ⟨hunnamed, owner, howner, hgiven, hresolved⟩ |
      ⟨hunnamed, hundeclared, hprovider, hresolved⟩ | ⟨hunnamed, hundeclared, hprovider, hresolved⟩
  · have hnamed : Given (owners.lookup field.path) := ⟨owner, howner, hgiven⟩
    simp [hresolved, hnamed]
  · have hdeclared : Given field.owner := ⟨owner, howner, hgiven⟩
    simp [hresolved, hunnamed, hdeclared]
  · simp [hresolved, hunnamed, hundeclared, hprovider]
  · simp [hresolved, hunnamed, hundeclared, hprovider]

/-- Where no source says anything, the owner is unknown, even to a provider of that name. -/
theorem toRecord_of_unresolved
    (hunresolved : (toConverted field provider owners).resolution = .unresolved) :
    (toRecord field provider owners).isOwner = false ∧
      (toRecord field provider owners).owner = some .unknown := by
  have hnone : (resolveOwner field provider owners).1 = none := by
    simp only [toConverted] at hunresolved
    rcases resolveOwner_cases field provider owners with
      ⟨_, -, -, hresolved⟩ | ⟨-, _, -, -, hresolved⟩ | ⟨-, -, -, hresolved⟩ | ⟨-, -, -, hresolved⟩
    · simp [hresolved] at hunresolved
    · simp [hresolved] at hunresolved
    · simp [hresolved] at hunresolved
    · rw [hresolved]
  simp [toRecord, hnone]

theorem converts_convert :
    Converts field owners (toRecord field provider owners) (toConverted field provider owners) := by
  have hcheck := check_toRecord field provider owners
  obtain ⟨hoverridden, hdeclared, hprovider, hunresolved⟩ :=
    resolution_toConverted field provider owners
  exact {
    recordName := rfl
    convertedName := rfl
    overridden := hoverridden
    declared := hdeclared
    provider := hprovider
    unresolved := hunresolved
    failSafe := toRecord_of_unresolved field provider owners
    unrestricted := accessControl_toRecord field provider owners
    primary := source_toRecord field provider owners
    check := hcheck
    created := by
      intro id schemaId now
      refine ⟨_, FieldPolicy.create_eq id schemaId now hcheck, ?_⟩
      exact Bool.and_comm _ _
    applied := by
      intro row now
      exact ⟨_, _, FieldPolicy.apply_eq now hcheck, row.needsConsent_submit _ now⟩ }

/-- The record of a field whose owner was found names this owner, unless it is the provider. -/
theorem toRecord_of_resolved {owner : String}
    (hresolved : (resolveOwner field provider owners).1 = some owner) :
    (toRecord field provider owners).isOwner = decide (owner = provider) ∧
      (toRecord field provider owners).owner = if owner = provider then none else some ⟨owner⟩ := by
  by_cases hsame : owner = provider
  · simp [toRecord, hresolved, hsame]
  · simp [toRecord, hresolved, hsame]

/-- A provider that is named as the owner is found as the owner, without the blanks at the ends of
its identity. -/
theorem resolveOwner_of_named (hprovider : Text.isBlankText provider = false)
    (hnamed : owners.lookup field.path = some provider ∨
      ¬Given (owners.lookup field.path) ∧ field.owner = some provider) :
    (resolveOwner field provider owners).1 = some (Text.trimmed provider) := by
  rcases hnamed with hoverride | ⟨hunnamed, hdeclared⟩
  · rw [resolveOwner, hoverride, nonBlank_of_given hprovider]
  · simp only [resolveOwner, nonBlank_of_not_given hunnamed, hdeclared,
      nonBlank_of_given hprovider]

section Batches

variable {field provider owners} {fields : List FieldDirective}

theorem getElem?_convert {i : Nat} (hfield : fields[i]? = some field) :
    (convert fields provider owners).records[i]? = some (toRecord field provider owners) ∧
      (convert fields provider owners).fields[i]? = some (toConverted field provider owners) := by
  simp [convert, hfield]

theorem map_fieldName_convert :
    (convert fields provider owners).records.map (·.fieldName) = fields.map (·.path) := by
  rw [convert, List.map_map]
  rfl

/-- Converted records are refused only for a path that occurs twice. -/
theorem checkRecords_convert :
    checkRecords (convert fields provider owners).records = .ok () ↔
      (fields.map (·.path)).Nodup := by
  rw [checkRecords_eq_ok_iff, map_fieldName_convert]
  refine and_iff_right ?_
  intro record hrecord
  obtain ⟨field, -, rfl⟩ := List.mem_map.1 hrecord
  exact check_toRecord field provider owners

theorem checkRecords_convert_of_repeated (hrepeated : ¬(fields.map (·.path)).Nodup) :
    ∃ before path after, fields.map (·.path) = before ++ path :: after ∧ before.Nodup ∧
      path ∈ before ∧ checkRecords (convert fields provider owners).records =
        .error (.invalidArgument (.repeatedField path)) := by
  cases hcheck : checkRecords (convert fields provider owners).records with
  | ok _ => exact absurd (checkRecords_convert.1 hcheck) hrepeated
  | error error =>
    obtain ⟨before, record, after, hrecords, hbefore, hfault⟩ :=
      checkRecords_eq_error_iff.1 hcheck
    have hmem : record ∈ (convert fields provider owners).records := by
      rw [hrecords]
      simp
    obtain ⟨field, -, rfl⟩ := List.mem_map.1 hmem
    -- The record is in order by itself, so that its path must have occurred before.
    rcases hfault with hrefused | ⟨-, hname, rfl⟩
    · rw [check_toRecord] at hrefused
      cases hrefused
    · refine ⟨before.map (·.fieldName), field.path, after.map (·.fieldName), ?_, ?_, hname, rfl⟩
      · rw [← map_fieldName_convert, hrecords, List.map_append, List.map_cons]
        rfl
      · exact (checkRecords_eq_ok_iff.1 hbefore).2

end Batches

/-- **Conversion.** Each field has one record and one report, in the order of the fields, and both
are what the sources of its owner and its words for access and provenance make of it. Every record
is in order by itself, and the rows that come of it need consent exactly as reported. The records
are in order together unless a path occurs twice, and then they are refused for the first path that
does. -/
theorem conversion_is_fail_safe (fields : List FieldDirective) (provider : String)
    (owners : FieldOwners) :
    let conversion := convert fields provider owners
    conversion.records.length = fields.length ∧ conversion.fields.length = fields.length ∧
    (∀ (i : Nat) field, fields[i]? = some field → ∃ record converted,
      conversion.records[i]? = some record ∧ conversion.fields[i]? = some converted ∧
        Converts field owners record converted) ∧
    (checkRecords conversion.records = .ok () ↔ (fields.map (·.path)).Nodup) ∧
    (¬(fields.map (·.path)).Nodup → ∃ before path after,
      fields.map (·.path) = before ++ path :: after ∧ before.Nodup ∧ path ∈ before ∧
        checkRecords conversion.records = .error (.invalidArgument (.repeatedField path))) := by
  intro conversion
  refine ⟨List.length_map _, List.length_map _, fun i field hfield => ?_, checkRecords_convert,
    checkRecords_convert_of_repeated⟩
  obtain ⟨hrecord, hconverted⟩ := getElem?_convert hfield
  exact ⟨_, _, hrecord, hconverted, converts_convert field provider owners⟩

/-- A provider called `unknown` submits a field with an owner of its own, two fields that belong to
the provider, one of them by name, a field without an owner, and this field once more. -/
theorem conversion_is_fail_safe_unknown :
    let field (parentType name : String) : FieldDirective :=
      { name, fieldType := "String", parentType }
    let photo := field "Person" "photo"
    let fields := [field "Person" "nic",
      { field "Person" "name" with isOwner := true, owner := some " " },
      { field "Person" "address" with owner := some "unknown " }, photo, field "PERSON" "photo"]
    let owners : FieldOwners := [("person.nic", "citizen"), ("person.photo", "")]
    let conversion := convert fields "unknown" owners
    conversion.fields.map (·.resolution) =
        [.overridden, .provider, .declared, .unresolved, .unresolved] ∧
      (∃ record converted, conversion.records[3]? = some record ∧
        conversion.fields[3]? = some converted ∧ Converts photo owners record converted ∧
        record.isOwner = false ∧ record.owner = some .unknown) ∧
      ∃ before after, fields.map (·.path) = before ++ "person.photo" :: after ∧ before.Nodup ∧
        "person.photo" ∈ before ∧ checkRecords conversion.records =
          .error (.invalidArgument (.repeatedField "person.photo")) := by
  intro field photo fields owners conversion
  obtain ⟨-, -, heach, -, hrepeated⟩ := conversion_is_fail_safe fields "unknown" owners
  obtain ⟨record, converted, hrecord, hconverted, hconverts⟩ := heach 3 photo rfl
  have hresolutions : conversion.fields.map (·.resolution) =
      [.overridden, .provider, .declared, .unresolved, .unresolved] := by
    decide +kernel
  have hunresolved : converted.resolution = .unresolved := by
    have hfourth : conversion.fields[3]?.map (·.resolution) = some .unresolved := by
      rw [← List.getElem?_map, hresolutions]
      rfl
    rw [hconverted] at hfourth
    exact Option.some.inj hfourth
  have hdirect : checkRecords conversion.records =
      .error (.invalidArgument (.repeatedField "person.photo")) := by
    decide +kernel
  obtain ⟨before, path, after, hpaths, hbefore, hmem, hrefused⟩ := hrepeated (by decide +kernel)
  obtain rfl : "person.photo" = path := by
    simpa using hdirect.symm.trans hrefused
  exact ⟨hresolutions, ⟨record, converted, hrecord, hconverted, hconverts,
    hconverts.failSafe hunresolved⟩, ⟨before, after, hpaths, hbefore, hmem, hrefused⟩⟩

/-- **Providers that are named.** A field whose owner is named exactly as its provider belongs to
the provider if the identity has no blanks at its ends, and then needs no consent. Otherwise it
belongs to an owner with the identity between the blanks. -/
theorem named_provider_owns_field (fields : List FieldDirective) (provider : String)
    (owners : FieldOwners) (hprovider : Text.isBlankText provider = false) (i : Nat)
    (field : FieldDirective) (hfield : fields[i]? = some field)
    (hnamed : owners.lookup field.path = some provider ∨
      ¬Given (owners.lookup field.path) ∧ field.owner = some provider) :
    ∃ record converted, (convert fields provider owners).records[i]? = some record ∧
      (convert fields provider owners).fields[i]? = some converted ∧
      (Text.trimmed provider = provider →
        record.isOwner = true ∧ record.owner = none ∧ converted.consentRequired = false) ∧
      (Text.trimmed provider ≠ provider →
        record.isOwner = false ∧ record.owner = some ⟨Text.trimmed provider⟩ ∧
          converted.consentRequired = (record.accessControl == .restricted)) := by
  obtain ⟨hrecord, hconverted⟩ := getElem?_convert hfield
  have hresolved := resolveOwner_of_named field provider owners hprovider hnamed
  obtain ⟨hisOwner, howner⟩ := toRecord_of_resolved field provider owners hresolved
  refine ⟨_, _, hrecord, hconverted, fun hsame => ?_, fun hdiffers => ?_⟩
  · rw [if_pos hsame] at howner
    simp [toConverted, hisOwner, howner, hsame]
  · rw [if_neg hdiffers] at howner
    simp [toConverted, hisOwner, howner, hdiffers]

/-- A registry whose identity has a blank inside is named by a field, whose path is given a blank
owner. -/
theorem named_provider_owns_field_registry :
    let provider := "land registry"
    let field : FieldDirective :=
      { name := "plot", fieldType := "String", parentType := "Estate", owner := some provider }
    let owners : FieldOwners := [("person.nic", "citizen"), ("estate.plot", " ")]
    Text.isBlankText provider = false ∧ ¬Given (owners.lookup field.path) ∧
      ∃ record converted, (convert [field] provider owners).records[0]? = some record ∧
        (convert [field] provider owners).fields[0]? = some converted ∧
        record.isOwner = true ∧ record.owner = none ∧ converted.consentRequired = false := by
  intro provider field owners
  have hprovider : Text.isBlankText provider = false := by decide +kernel
  have hunnamed : ¬Given (owners.lookup field.path) := by decide +kernel
  obtain ⟨record, converted, hrecord, hconverted, howns, -⟩ :=
    named_provider_owns_field [field] provider owners hprovider 0 field rfl (.inr ⟨hunnamed, rfl⟩)
  exact ⟨hprovider, hunnamed, record, converted, hrecord, hconverted, howns (by decide +kernel)⟩

/-- A provider whose identity ends with a blank is named by a field exactly as it calls itself, and
does not own the field. -/
theorem named_provider_with_blank :
    let request : RegisterSchema :=
      { schemaId := "people", providerId := "drp ",
        sdl := "type Person \x7b\n  nic: String @owner(value: \"drp \")\n\x7d" }
    let field : FieldDirective :=
      { name := "nic", fieldType := "String", parentType := "Person",
        owner := some request.providerId }
    Text.isBlankText request.providerId = false ∧ request.fieldOwners.lookup field.path = none ∧
      parse request.sdl = [field] ∧
      ∃ record converted, request.convert = .ok ⟨[record], [converted]⟩ ∧
        record.isOwner = false ∧ record.owner = some ⟨"drp"⟩ ∧
        converted.consentRequired = true := by
  intro request field
  have hparsed : parse request.sdl = [field] := by decide +kernel
  have hconvert : request.convert =
      .ok ⟨[toRecord field request.providerId []], [toConverted field request.providerId []]⟩ := by
    have hchecked : requireNonBlank request.schemaId "schemaId" = .ok () ∧
        requireNonBlank request.providerId "providerId" = .ok () ∧
        requireNonBlank request.sdl "sdl" = .ok () := by
      decide +kernel
    simp only [RegisterSchema.convert, hchecked, hparsed]
    rfl
  exact ⟨by decide +kernel, rfl, hparsed, _, _, hconvert, by decide +kernel⟩

end Schema

end FieldAccess
