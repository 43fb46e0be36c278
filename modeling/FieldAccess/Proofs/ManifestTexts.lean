import FieldAccess.Manifest.Loading
import FieldAccess.Proofs.WrittenDocuments
import FieldAccess.Proofs.WrittenFiles
import FieldAccess.Proofs.WrittenNodes

/-!
# Manifests in files

A manifest is read back from the file that it is written to. An absent setting is not written, and
what is not written is read as absent; a block that is there is read with all its settings, so that
no default takes the place of one of them. The labels are read into the same map in whatever order
they are written. All that is written are texts, natural numbers and tables
of them, and a document of these is read as the node that it is written for.

## Main definitions

* `Format.Codec.Writable`, `Format.Fields.Writable` – codecs that write nothing else.

## Main statements

* `Manifest.readsIn_codec` – manifests are read back from the nodes that they are written as.
* `Manifest.ofText_toYaml` – the document of the text that a manifest is written as.
* `Manifest.read_of_written` – manifests are read back from the files that they are written to.
-/

namespace FieldAccess

open Format

/-! ### What is written -/

namespace Format

/-- A codec that writes texts, natural numbers and tables of them. -/
def Codec.Writable (codec : Codec α) : Prop := ∀ value, Yaml.IsWritten (codec.write value)

/-- A field that is left out or holds texts, natural numbers and tables of them. -/
def Field.Writable (field : Field α) : Prop :=
  ∀ value, ∀ json ∈ field.write value, Yaml.IsWritten json

/-- Fields that are left out or hold texts, natural numbers and tables of them. -/
def Fields.Writable : {τ : Type} → Fields τ → Prop
  | _, nil => True
  | _, cons field rest => field.Writable ∧ rest.Writable

namespace Codec

theorem writable_text : text.Writable := .text

theorem writable_natural (bound : Nat) (name : String) : (natural bound name).Writable := .natural

theorem writable_choice (values : List α) (name : α → String) : (choice values name).Writable :=
  fun value => .text (name value)

variable {codec : Codec α} (h : codec.Writable)
include h

theorem Writable.mapped (ofOther : α → β) (toOther : β → α) :
    (codec.mapped ofOther toOther).Writable :=
  fun value => h (toOther value)

theorem Writable.table : codec.table.Writable := by
  refine fun entries => .table fun entry hentry => ?_
  obtain ⟨⟨key, value⟩, -, rfl⟩ := List.mem_map.1 hentry
  exact h value

theorem Writable.required (name : String) : (Field.required name codec).Writable := by
  rintro value json hjson
  obtain rfl := Option.some.inj hjson
  exact h value

theorem Writable.withDefault (name : String) (default : α) :
    (Field.withDefault name codec default).Writable :=
  h.required name

theorem Writable.optional (name : String) : (Field.optional name codec).Writable := by
  rintro value json hjson
  obtain ⟨value, rfl, rfl⟩ := Option.map_eq_some_iff.1 hjson
  exact h value

theorem Writable.optionalByName (name : String) : (Field.optionalByName name codec).Writable :=
  h.optional name

end Codec

/-- The entries of a record are those of its fields. -/
theorem Fields.Writable.entries {τ : Type} {fields : Fields τ} (h : fields.Writable) (values : τ) :
    ∀ entry ∈ fields.entries values, Yaml.IsWritten entry.2 := by
  induction fields with
  | nil => exact nofun
  | cons field rest ih =>
    intro entry hentry
    rw [Fields.entries] at hentry
    split at hentry
    · next json hjson =>
      rcases List.mem_cons.1 hentry with rfl | hentry
      · exact h.1 values.1 json hjson
      · exact ih h.2 values.2 entry hentry
    · exact ih h.2 values.2 entry hentry

theorem Codec.writable_record {name : String} {fields : Fields τ} {ofParts : τ → α} {parts : α → τ}
    (h : fields.Writable) : (Codec.record name fields ofParts parts).Writable :=
  fun value => .table (h.entries (parts value))

end Format

variable {d : Depiction}

theorem readsIn_portCodec (hd : d.Faithful) (port : UInt16) : portCodec.ReadsIn d port :=
  (Codec.readsIn_natural hd (Nat.le_of_lt_succ port.toNat_lt) _).mapped UInt16.ofNat_toNat

theorem readsIn_connectionsCodec (hd : d.Faithful) (count : UInt32) :
    connectionsCodec.ReadsIn d count :=
  (Codec.readsIn_natural hd (Nat.le_of_lt_succ count.toNat_lt) _).mapped UInt32.ofNat_toNat

theorem readsIn_durationCodec (hd : d.Faithful) (duration : UInt64) :
    durationCodec.ReadsIn d duration :=
  (Codec.readsIn_natural hd (Nat.le_of_lt_succ duration.toNat_lt) _).mapped UInt64.ofNat_toNat

theorem readsIn_sizeCodec (hd : d.Faithful) (size : UInt64) : sizeCodec.ReadsIn d size :=
  (Codec.readsIn_natural hd (Nat.le_of_lt_succ size.toNat_lt) _).mapped UInt64.ofNat_toNat

/-- The labels of a map are read back in the order in which they are written. -/
theorem Metadata.readsIn_written (hd : d.Faithful) (order : LabelOrder) (metadata : Metadata) :
    Written.codec.ReadsIn d (metadata.written order) := by
  have hlabels : ∀ labels ∈ (metadata.written order).labels,
      (Codec.table Codec.text).ReadsIn d labels := by
    intro labels hmem
    obtain ⟨map, -, rfl⟩ := Option.map_eq_some_iff.1 hmem
    exact Codec.readsIn_table hd (fun entry _ => Codec.readsIn_text hd entry.2)
      (nodup_keys_of_perm (order.perm map.toList))
  exact Codec.readsIn_record hd
    ⟨Field.readsIn_required (Codec.readsIn_text hd _),
      Field.readsIn_optionalByName hd (fun version _ => Codec.readsIn_text hd version)
        fun _ => ⟨nofun, nofun⟩,
      Field.readsIn_optionalByName hd hlabels fun _ => ⟨nofun, nofun⟩, trivial⟩
    (by simp [Fields.names]) rfl

/-- The order in which the labels are written does not matter for what is said. -/
theorem Metadata.metadata_written (order : LabelOrder) (metadata : Metadata) :
    (metadata.written order).metadata = metadata := by
  obtain ⟨name, version, labels⟩ := metadata
  cases labels with
  | none => rfl
  | some map =>
    exact congrArg (fun map => Metadata.mk name version (some map))
      (foldl_insert_of_perm (order.perm map.toList))

theorem ServerSettings.readsIn_codec (hd : d.Faithful) (server : ServerSettings) :
    ServerSettings.codec.ReadsIn d server :=
  Codec.readsIn_record hd
    ⟨Field.readsIn_withDefault (Codec.readsIn_text hd _) _,
      Field.readsIn_withDefault (readsIn_portCodec hd _) _, trivial⟩
    (by simp [Fields.names]) rfl

theorem Backend.readsIn_codec (hd : d.Faithful) (backend : Backend) :
    Backend.codec.ReadsIn d backend :=
  Codec.readsIn_choice hd (by cases backend <;> decide)

theorem DatabaseSettings.readsIn_codec (hd : d.Faithful) (database : DatabaseSettings) :
    DatabaseSettings.codec.ReadsIn d database :=
  Codec.readsIn_record hd
    ⟨Field.readsIn_withDefault (Backend.readsIn_codec hd _) _,
      Field.readsIn_withDefault (Codec.readsIn_text hd _) _,
      Field.readsIn_withDefault (readsIn_portCodec hd _) _,
      Field.readsIn_withDefault (Codec.readsIn_text hd _) _,
      Field.readsIn_optional hd (fun password _ => Codec.readsIn_text hd password)
        fun _ => ⟨nofun, nofun⟩,
      Field.readsIn_withDefault (Codec.readsIn_text hd _) _,
      Field.readsIn_withDefault (Codec.readsIn_text hd _) _,
      Field.readsIn_withDefault (readsIn_connectionsCodec hd _) _,
      Field.readsIn_withDefault (readsIn_connectionsCodec hd _) _,
      Field.readsIn_withDefault (readsIn_durationCodec hd _) _,
      Field.readsIn_withDefault (readsIn_durationCodec hd _) _,
      Field.readsIn_withDefault (readsIn_durationCodec hd _) _, trivial⟩
    (by simp [Fields.names]) rfl

theorem AuditSettings.readsIn_codec (hd : d.Faithful) (audit : AuditSettings) :
    AuditSettings.codec.ReadsIn d audit :=
  Codec.readsIn_record hd
    ⟨Field.readsIn_optionalByName hd (fun endpoint _ => Codec.readsIn_text hd endpoint)
        fun _ => ⟨nofun, nofun⟩,
      Field.readsIn_withDefault (readsIn_durationCodec hd _) _,
      Field.readsIn_withDefault (readsIn_sizeCodec hd _) _,
      Field.readsIn_withDefault (Codec.readsIn_text hd _) _, trivial⟩
    (by simp [Fields.names]) rfl

theorem Observability.readsIn_codec (hd : d.Faithful) (observability : Observability) :
    Observability.codec.ReadsIn d observability :=
  Codec.readsIn_record hd
    ⟨Field.readsIn_withDefault (Codec.readsIn_text hd _) _,
      Field.readsIn_optionalByName hd (fun port _ => readsIn_portCodec hd port)
        fun _ => ⟨nofun, nofun⟩, trivial⟩
    (by simp [Fields.names]) rfl

theorem Spec.readsIn_codec (hd : d.Faithful) (spec : Spec) : Spec.codec.ReadsIn d spec :=
  Codec.readsIn_record hd
    ⟨Field.readsIn_withDefault (ServerSettings.readsIn_codec hd _) _,
      Field.readsIn_withDefault (DatabaseSettings.readsIn_codec hd _) _,
      Field.readsIn_optionalByName hd (fun audit _ => AuditSettings.readsIn_codec hd audit)
        fun _ => ⟨nofun, nofun⟩,
      Field.readsIn_optionalByName hd (fun shown _ => Observability.readsIn_codec hd shown)
        fun _ => ⟨nofun, nofun⟩, trivial⟩
    (by simp [Fields.names]) rfl

/-! ### The parts of a manifest as they are written -/

theorem writable_portCodec : portCodec.Writable := (Codec.writable_natural _ _).mapped _ _

theorem writable_connectionsCodec : connectionsCodec.Writable :=
  (Codec.writable_natural _ _).mapped _ _

theorem writable_durationCodec : durationCodec.Writable := (Codec.writable_natural _ _).mapped _ _

theorem writable_sizeCodec : sizeCodec.Writable := (Codec.writable_natural _ _).mapped _ _

theorem Metadata.Written.writable_codec : Metadata.Written.codec.Writable :=
  Codec.writable_record ⟨Codec.writable_text.required _, Codec.writable_text.optionalByName _,
    Codec.writable_text.table.optionalByName _, trivial⟩

theorem ServerSettings.writable_codec : ServerSettings.codec.Writable :=
  Codec.writable_record ⟨Codec.writable_text.withDefault _ _, writable_portCodec.withDefault _ _,
    trivial⟩

theorem Backend.writable_codec : Backend.codec.Writable := Codec.writable_choice _ _

theorem DatabaseSettings.writable_codec : DatabaseSettings.codec.Writable :=
  Codec.writable_record ⟨Backend.writable_codec.withDefault _ _,
    Codec.writable_text.withDefault _ _, writable_portCodec.withDefault _ _,
    Codec.writable_text.withDefault _ _, Codec.writable_text.optional _,
    Codec.writable_text.withDefault _ _, Codec.writable_text.withDefault _ _,
    writable_connectionsCodec.withDefault _ _, writable_connectionsCodec.withDefault _ _,
    writable_durationCodec.withDefault _ _, writable_durationCodec.withDefault _ _,
    writable_durationCodec.withDefault _ _, trivial⟩

theorem AuditSettings.writable_codec : AuditSettings.codec.Writable :=
  Codec.writable_record ⟨Codec.writable_text.optionalByName _,
    writable_durationCodec.withDefault _ _, writable_sizeCodec.withDefault _ _,
    Codec.writable_text.withDefault _ _, trivial⟩

theorem Observability.writable_codec : Observability.codec.Writable :=
  Codec.writable_record ⟨Codec.writable_text.withDefault _ _, writable_portCodec.optionalByName _,
    trivial⟩

theorem Spec.writable_codec : Spec.codec.Writable :=
  Codec.writable_record ⟨ServerSettings.writable_codec.withDefault _ _,
    DatabaseSettings.writable_codec.withDefault _ _, AuditSettings.writable_codec.optionalByName _,
    Observability.writable_codec.optionalByName _, trivial⟩

namespace Manifest

/-- Manifests are read back from every depiction that shows values as what they are. -/
theorem readsIn_codec (hd : d.Faithful) (order : LabelOrder) (manifest : Manifest) :
    (codec order).ReadsIn d manifest :=
  Codec.readsIn_record hd
    ⟨Field.readsIn_required (Codec.readsIn_text hd _),
      Field.readsIn_required (Codec.readsIn_text hd _),
      Field.readsIn_required (Metadata.readsIn_written hd order _),
      Field.readsIn_withDefault (Spec.readsIn_codec hd _) _, trivial⟩
    (by simp [Fields.names])
    (congrArg (fun metadata => { manifest with metadata }) (Metadata.metadata_written order _))

theorem writable_codec (order : LabelOrder) : (codec order).Writable :=
  Codec.writable_record ⟨Codec.writable_text.required _, Codec.writable_text.required _,
    Metadata.Written.writable_codec.required _, Spec.writable_codec.withDefault _ _, trivial⟩

/-- The document of the text that a manifest is written as shows the manifest. -/
theorem ofText_toYaml (order : LabelOrder) (manifest : Manifest) :
    Yaml.Document.ofText (manifest.toYaml order) =
      .ofNode (.ofValue ((codec order).write manifest)) := by
  have hwritten := writable_codec order manifest
  obtain ⟨entry, entries, hwrite⟩ : ∃ entry entries,
      (codec order).write manifest = .table (entry :: entries) := ⟨_, _, rfl⟩
  rw [toYaml, hwrite]
  rw [hwrite] at hwritten
  cases hwritten with
  | table hentries => exact Yaml.Document.ofText_encode (List.cons_ne_nil _ _) hentries

/-- A manifest is read from a text whose document shows the manifest. -/
theorem ofYaml_of_document {order : LabelOrder} {manifest : Manifest} {text : String}
    (hdocument : Yaml.Document.ofText text = .ofNode (.ofValue ((codec order).write manifest))) :
    ofYaml text = .ok manifest := by
  have hread := readsIn_codec (Yaml.faithful_inDocument
    (Yaml.Document.ofNode (.ofValue ((codec order).write manifest))).malformed) order manifest
  rw [ofYaml, Yaml.decode, hdocument, Yaml.Document.decode]
  -- The order is one of writing only.
  change ((codec order).read (Yaml.inDocument _).source
    ((Yaml.inDocument _).node ((codec order).write manifest)) >>= fun value => _) = _
  rw [hread]
  rfl

/-- **Written manifests.** A manifest is read back from the text that it is written as. -/
theorem ofYaml_toYaml (order : LabelOrder) (manifest : Manifest) :
    ofYaml (manifest.toYaml order) = .ok manifest :=
  ofYaml_of_document (ofText_toYaml order manifest)

/-- **Manifests in files.** A manifest is read back from every file that it is written to, in
whatever order its labels are written. -/
theorem read_of_written {files written : FileTree} {path : String} {order : LabelOrder}
    {manifest : Manifest} (hwrite : manifest.toFile files path order = .ok written) :
    ofFile written path = .ok manifest := by
  rw [toFile] at hwrite
  rw [ofFile, FileTree.read_of_write hwrite]
  exact congrArg (Except.mapError LoadCause.text) (ofYaml_toYaml order manifest)

/-- A name that looks like a missing value, labels that look like a flag and like a list, the last
one written first, a password of two lines, and a block of which nothing is given. -/
theorem read_of_written_registry :
    let files : FileTree :=
      { directory := ["srv"], files := [(["srv", "pdp.yaml"], some "kind: a")] }
    let manifest : Manifest := { standard "null" with
      metadata.version := some "1.0"
      metadata.labels := some (.ofList [("no", "- 0x1F"), ("", "# a: b")])
      spec.database.password := some " first\n\tlast\n"
      spec.audit := some {} }
    let order : LabelOrder := ⟨List.reverse, List.reverse_perm⟩
    let written : FileTree :=
      { files with files := [(["srv", "pdp.yaml"], some (manifest.toYaml order))] }
    manifest.toFile files "./pdp.yaml" order = .ok written ∧
      ofFile written "./pdp.yaml" = .ok manifest := by
  intro files manifest order written
  have hparts : FileTree.parts "./pdp.yaml" = [".", "pdp.yaml"] := by decide +kernel
  have hrelative : "./pdp.yaml".startsWith "/" = false := by decide +kernel
  have hname : FileTree.namesDirectory "./pdp.yaml" = false := by decide +kernel
  have hshort : ¬FileTree.maxNameSize < "pdp.yaml".utf8ByteSize := by decide +kernel
  have hplace : files.place "./pdp.yaml" = .ok (.file ["srv", "pdp.yaml"] (some "kind: a")) := by
    simp [FileTree.place, hparts, hrelative, files, FileTree.follow, hshort]
  have hwrite : manifest.toFile files "./pdp.yaml" order = .ok written := by
    simp [toFile, FileTree.write, hname, hplace, files]
    rfl
  exact ⟨hwrite, read_of_written hwrite⟩

end Manifest

end FieldAccess
