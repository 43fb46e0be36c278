import FieldAccess.Format.Codec
import Mathlib.Data.List.Nodup
import Std.Data.ExtTreeMap

/-!
# Codecs on depictions of values

A format shows values as the nodes of its documents. Where it shows texts as texts and tables as
tables, a codec reads from the node that it writes to, and the law of a codec follows from those of
its parts, whatever the format: in a record the entries are found by their names, and the fields
that are not written get the values that stand for their absence. Maps are written as lists of
entries, of which only those with distinct keys are read back.

## Main definitions

* `Depiction` – a kind of document with the nodes that values are shown as.
* `Depiction.Faithful` – a depiction that shows every value as what it is.
* `Codec.ReadsIn`, `Field.ReadsIn`, `Fields.ReadIn` – what is read back from a depiction.

## Main statements

* `Codec.readsIn_table` – lists of entries with distinct keys are read back.
* `foldl_insert_of_perm` – a map is made up of its entries, in whatever order.
* `Codec.readsIn_record` – the law for a record from those of its fields.
-/

namespace FieldAccess.Format

/-- A kind of document with the nodes that values are shown as. -/
structure Depiction where
  source : Source
  node : Json → source.Node

/-- The entries that the entries of a table are shown as. -/
def Depiction.entries (d : Depiction) (entries : List (String × Json)) :
    List (String × d.source.Node) :=
  entries.map fun (key, value) => (key, d.node value)

/-- A depiction that shows every value as what it is. How numbers with a fraction are shown is left
open. -/
structure Depiction.Faithful (d : Depiction) : Prop where
  text : ∀ expected s, d.source.text expected (d.node (.text s)) = .ok s
  flag : ∀ b, d.source.flag (d.node (.flag b)) = .ok b
  natural : ∀ bound name (n : Nat), n ≤ bound →
    d.source.natural bound name (d.node (.integer n)) = .ok n
  list : ∀ items, d.source.list (d.node (.list items)) = .ok ⟨items.map d.node, none⟩
  table : ∀ entries, d.source.table (d.node (.table entries)) = .ok ⟨d.entries entries, none⟩
  record : ∀ expected entries, d.source.record expected (d.node (.table entries)) =
    .ok (.named ⟨d.entries entries, none⟩)
  variant : ∀ name, d.source.variant (d.node (.text name)) = .ok { name }
  optional : ∀ json, json ≠ .null → (∀ digits, json ≠ .decimal digits) →
    d.source.optional (d.node json) = .ok (some (d.node json))

/-- A value that is read back as it was written. -/
def Codec.ReadsIn {α : Type} (d : Depiction) (codec : Codec α) (value : α) : Prop :=
  codec.read d.source (d.node (codec.write value)) = .ok value

/-- A value of a field that is read back as it was written, or that stands for its absence when it
is not written. -/
structure Field.ReadsIn {α : Type} (d : Depiction) (field : Field α) (value : α) : Prop where
  read_write : ∀ json, field.write value = some json →
    field.read d.source (d.node json) = .ok value
  absent : field.write value = none → field.absent = some value

/-- The names of fields. -/
def Fields.names : {τ : Type} → Fields τ → List String
  | _, nil => []
  | _, cons field rest => field.name :: rest.names

/-- Values of fields that are read back as they were written. -/
def Fields.ReadIn (d : Depiction) : {τ : Type} → Fields τ → τ → Prop
  | _, nil, () => True
  | _, cons field rest, (value, values) => field.ReadsIn d value ∧ rest.ReadIn d values

variable {d : Depiction}

namespace Codec

theorem readsIn_text (hd : d.Faithful) (s : String) : text.ReadsIn d s := hd.text _ s

theorem readsIn_natural (hd : d.Faithful) {bound n : Nat} (h : n ≤ bound) (name : String) :
    (natural bound name).ReadsIn d n :=
  hd.natural bound name n h

theorem ReadsIn.mapped {α β : Type} {codec : Codec β} {ofOther : β → α} {toOther : α → β}
    {value : α} (h : codec.ReadsIn d (toOther value)) (hinverse : ofOther (toOther value) = value) :
    (codec.mapped ofOther toOther).ReadsIn d value := by
  have hread : (codec.mapped ofOther toOther).read d.source
      (d.node ((codec.mapped ofOther toOther).write value)) =
        (Except.ok (toOther value)).map ofOther :=
    congrArg (Except.map ofOther) h
  rw [ReadsIn, hread, Except.map, hinverse]

/-- A value of a choice is read back if it is the first one with its name. -/
theorem readsIn_choice (hd : d.Faithful) {α : Type} {values : List α} {name : α → String}
    {value : α} (hfind : values.find? (fun other => name other == name value) = some value) :
    (choice values name).ReadsIn d value := by
  simp only [ReadsIn, choice, hd.variant, bind, Except.bind, hfind]

theorem readItems_map {α : Type} {item : Codec α} {values : List α}
    (h : ∀ value ∈ values, item.ReadsIn d value) (position : Nat) :
    readItems (item.read d.source) position ((values.map item.write).map d.node) = .ok values := by
  induction values generalizing position with
  | nil => rfl
  | cons value rest ih =>
    simp only [List.map_cons, readItems]
    rw [h value List.mem_cons_self, ih fun other hother => h other (List.mem_cons_of_mem _ hother)]
    rfl

theorem readsIn_list (hd : d.Faithful) {α : Type} {item : Codec α} {values : List α}
    (h : ∀ value ∈ values, item.ReadsIn d value) : (list item).ReadsIn d values := by
  simp only [ReadsIn, list, hd.list, bind, Except.bind, readItems_map h]
  rfl

section Tables

variable {α : Type} {value : Codec α}

theorem setEntry_of_notMem {key : String} {entries : List (String × α)}
    (hkey : key ∉ entries.map Prod.fst) (value : α) :
    setEntry key value entries = entries ++ [(key, value)] := by
  induction entries with
  | nil => rfl
  | cons entry rest ih =>
    obtain ⟨hne, hrest⟩ : key ≠ entry.1 ∧ key ∉ rest.map Prod.fst := by simpa using hkey
    rw [setEntry, if_neg (Ne.symm hne), ih hrest, List.cons_append]

/-- Entries with keys of their own are read behind those already there. -/
theorem readEntries_entries {done entries : List (String × α)}
    (h : ∀ entry ∈ entries, value.ReadsIn d entry.2)
    (hkeys : ((done ++ entries).map Prod.fst).Nodup) :
    readEntries (value.read d.source) done
      (d.entries (entries.map fun (key, v) => (key, value.write v))) = .ok (done ++ entries) := by
  induction entries generalizing done with
  | nil =>
    rw [List.append_nil]
    rfl
  | cons entry rest ih =>
    obtain ⟨key, v⟩ := entry
    have hnotMem : key ∉ done.map Prod.fst := by
      intro hmem
      rw [List.map_append, List.nodup_append] at hkeys
      exact hkeys.2.2 key hmem key (by simp) rfl
    have hread : value.read d.source (d.node (value.write v)) = .ok v :=
      h (key, v) List.mem_cons_self
    rw [List.append_cons] at hkeys ⊢
    simp only [Depiction.entries, List.map_cons, readEntries, hread]
    change readEntries _ (setEntry key v done) _ = _
    rw [setEntry_of_notMem hnotMem]
    exact ih (fun entry hentry => h entry (List.mem_cons_of_mem _ hentry)) hkeys

/-- A map with distinct keys is read back. -/
theorem readsIn_table (hd : d.Faithful) {entries : List (String × α)}
    (h : ∀ entry ∈ entries, value.ReadsIn d entry.2) (hkeys : (entries.map Prod.fst).Nodup) :
    (table value).ReadsIn d entries := by
  simp only [ReadsIn, table, hd.table, bind, Except.bind]
  rw [readEntries_entries h (by simpa using hkeys)]
  rfl

end Tables

end Codec

/-! ### Maps -/

section Maps

variable {α : Type}

/-- Entries of a map, in whatever order, have distinct keys. -/
theorem nodup_keys_of_perm {entries : List (String × α)} {map : Std.ExtTreeMap String α}
    (h : entries.Perm map.toList) : (entries.map Prod.fst).Nodup := by
  refine (h.map Prod.fst).nodup_iff.2 (List.pairwise_map.2 ?_)
  refine map.distinct_keys_toList.imp fun hne hsame => hne ?_
  rw [hsame]
  exact Std.ReflCmp.compare_self

theorem foldl_insert (entries : List (String × α)) (map : Std.ExtTreeMap String α) :
    entries.foldl (fun map (key, value) => map.insert key value) map = map.insertMany entries := by
  induction entries generalizing map with
  | nil => rw [List.foldl_nil, Std.ExtTreeMap.insertMany_nil]
  | cons entry rest ih => rw [List.foldl_cons, ih, Std.ExtTreeMap.insertMany_cons]

/-- The entries of a map, entered one after another in whatever order, give the map. -/
theorem foldl_insert_of_perm {entries : List (String × α)} {map : Std.ExtTreeMap String α}
    (h : entries.Perm map.toList) :
    entries.foldl (fun map (key, value) => map.insert key value) ∅ = map := by
  have hdistinct : entries.Pairwise fun a b => ¬compare a.1 b.1 = .eq := by
    refine h.symm.pairwise map.distinct_keys_toList fun hab hba => hab ?_
    rw [Std.LawfulEqCmp.eq_of_compare hba]
    exact Std.ReflCmp.compare_self
  refine (foldl_insert entries ∅).trans (Std.ExtTreeMap.ext_getElem? fun key => ?_)
  -- A key is in the list with its one value, or in neither the list nor the map.
  cases hvalue : map[key]? with
  | some value =>
    have hmem := h.mem_iff.2 (Std.ExtTreeMap.mem_toList_iff_getElem?_eq_some.2 hvalue)
    exact Std.ExtTreeMap.getElem?_insertMany_list_of_mem Std.ReflCmp.compare_self hdistinct hmem
  | none =>
    rw [Std.ExtTreeMap.getElem?_insertMany_list_of_contains_eq_false,
      Std.ExtTreeMap.getElem?_empty]
    have hkeys : ∀ key, key ∈ entries.map Prod.fst ↔ key ∈ map.keys := fun key => by
      rw [← Std.ExtTreeMap.map_fst_toList_eq_keys]
      exact (h.map Prod.fst).mem_iff
    simpa [hkeys] using hvalue

end Maps

namespace Field

variable {α : Type} {name : String} {codec : Codec α}

@[simp]
theorem name_required : (required name codec).name = name := rfl

@[simp]
theorem name_withDefault (default : α) : (withDefault name codec default).name = name := rfl

@[simp]
theorem name_optional : (optional name codec).name = name := rfl

@[simp]
theorem name_optionalByName : (optionalByName name codec).name = name := rfl

theorem readsIn_required {value : α} (h : codec.ReadsIn d value) :
    (required name codec).ReadsIn d value where
  read_write json hwrite := by
    obtain rfl := Option.some.inj hwrite
    exact h
  absent hwrite := by cases hwrite

theorem readsIn_withDefault {value : α} (h : codec.ReadsIn d value) (default : α) :
    (withDefault name codec default).ReadsIn d value where
  read_write json hwrite := by
    obtain rfl := Option.some.inj hwrite
    exact h
  absent hwrite := by cases hwrite

theorem readsIn_optional (hd : d.Faithful) {value : Option α}
    (h : ∀ inner ∈ value, codec.ReadsIn d inner)
    (hpresent : ∀ inner, codec.write inner ≠ .null ∧
      ∀ digits, codec.write inner ≠ .decimal digits) :
    (optional name codec).ReadsIn d value where
  read_write json hwrite := by
    obtain ⟨inner, rfl, rfl⟩ := Option.map_eq_some_iff.1 hwrite
    obtain ⟨hnull, hdecimal⟩ := hpresent inner
    have hread : codec.read d.source (d.node (codec.write inner)) = .ok inner := h inner rfl
    simp only [optional, readOptional, hd.optional _ hnull hdecimal, bind, Except.bind, hread]
    rfl
  absent hwrite := by
    obtain rfl := Option.map_eq_none_iff.1 hwrite
    rfl

theorem readsIn_optionalByName (hd : d.Faithful) {value : Option α}
    (h : ∀ inner ∈ value, codec.ReadsIn d inner)
    (hpresent : ∀ inner, codec.write inner ≠ .null ∧
      ∀ digits, codec.write inner ≠ .decimal digits) :
    (optionalByName name codec).ReadsIn d value := by
  have hoptional : (optional name codec).ReadsIn d value := readsIn_optional hd h hpresent
  exact ⟨hoptional.read_write, hoptional.absent⟩

end Field

namespace Fields

theorem fst_mem_names : {τ : Type} → (fields : Fields τ) → (values : τ) →
    ∀ entry ∈ fields.entries values, entry.1 ∈ fields.names
  | _, nil, (), _, hentry => by cases hentry
  | _, cons field rest, (value, values), entry, hentry => by
    rw [entries] at hentry
    split at hentry
    · rcases List.mem_cons.1 hentry with rfl | hrest
      · exact List.mem_cons_self
      · exact List.mem_cons_of_mem _ (fst_mem_names rest values entry hrest)
    · exact List.mem_cons_of_mem _ (fst_mem_names rest values entry hentry)

/-- Entries that do not name the first field are read into the slots of the others. -/
theorem putAll_cons {α τ : Type} {S : Source} {field : Field α} {rest : Fields τ}
    {entries : List (String × S.Node)} (hkeys : ∀ entry ∈ entries, field.name ≠ entry.1)
    (slot : Option α) (slots : rest.Slots) :
    (cons field rest).putAll S (slot, slots) entries =
      (rest.putAll S slots entries).map fun others => (slot, others) := by
  induction entries generalizing slots with
  | nil => rfl
  | cons entry entries ih =>
    obtain ⟨key, node⟩ := entry
    have hkey : field.name ≠ key := hkeys (key, node) (by simp)
    have hput : (cons field rest).put S key node (slot, slots) =
        (rest.put S key node slots).map fun others => (slot, others) := if_neg hkey
    change ((cons field rest).put S key node (slot, slots) >>= fun slots =>
        (cons field rest).putAll S slots entries) =
      (rest.put S key node slots >>= fun slots => rest.putAll S slots entries).map _
    rw [hput]
    cases rest.put S key node slots with
    | error fault => rfl
    | ok others => exact ih (fun entry hentry => hkeys entry (by simp [hentry])) others

/-- **Records.** What fields of different names write fills their slots, so that completing them
gives the values that were written. -/
theorem exists_putAll_entries : {τ : Type} → (fields : Fields τ) → (values : τ) →
    fields.ReadIn d values → fields.names.Nodup →
      ∃ slots, fields.putAll d.source fields.empty (d.entries (fields.entries values)) = .ok slots ∧
        fields.complete slots = .ok values
  | _, nil, (), _, _ => ⟨(), rfl, rfl⟩
  | _, cons field rest, (value, values), hback, hnames => by
    obtain ⟨hfield, hrest⟩ := hback
    obtain ⟨hname, hothers⟩ := List.nodup_cons.1 hnames
    obtain ⟨slots, hslots, hcomplete⟩ := exists_putAll_entries rest values hrest hothers
    have hkeys : ∀ entry ∈ d.entries (rest.entries values), field.name ≠ entry.1 := by
      intro entry hentry hsame
      obtain ⟨written, hmem, rfl⟩ := List.mem_map.1 hentry
      exact hname (hsame ▸ fst_mem_names rest values written hmem)
    have hread (slot : Option _) : (cons field rest).putAll d.source (slot, rest.empty)
        (d.entries (rest.entries values)) = .ok (slot, slots) := by
      rw [putAll_cons hkeys slot rest.empty, hslots]
      rfl
    cases hwrite : field.write value with
    | none =>
      -- The slot of a field that is left out stays empty, which stands for its value.
      refine ⟨(none, slots), ?_, ?_⟩
      · rw [entries, hwrite]
        exact hread none
      · simp only [complete, hfield.absent hwrite, hcomplete]
        rfl
    | some json =>
      -- The first entry fills the slot of the field, and no later one names it again.
      have hput : (cons field rest).put d.source field.name (d.node json) (none, rest.empty) =
          .ok (some value, rest.empty) := by
        refine (if_pos rfl).trans ?_
        change (Reading.under (.key field.name) (field.read d.source (d.node json))).map _ = _
        rw [hfield.read_write json hwrite]
        rfl
      refine ⟨(some value, slots), ?_, ?_⟩
      · rw [entries, hwrite]
        change ((cons field rest).put d.source field.name (d.node json) (none, rest.empty) >>=
          fun slots => (cons field rest).putAll d.source slots
            (d.entries (rest.entries values))) = _
        rw [hput]
        exact hread (some value)
      · simp only [complete, hcomplete]
        rfl

end Fields

/-- A record is read back if its fields are and have different names. -/
theorem Codec.readsIn_record (hd : d.Faithful) {α τ : Type} {name : String} {fields : Fields τ}
    {ofParts : τ → α} {parts : α → τ} {value : α} (hfields : fields.ReadIn d (parts value))
    (hnames : fields.names.Nodup) (hinverse : ofParts (parts value) = value) :
    (Codec.record name fields ofParts parts).ReadsIn d value := by
  obtain ⟨slots, hslots, hcomplete⟩ := fields.exists_putAll_entries (parts value) hfields hnames
  have hnamed : fields.readNamed d.source ⟨d.entries (fields.entries (parts value)), none⟩ =
      .ok (parts value) := by
    rw [Fields.readNamed, hslots]
    exact hcomplete
  simp only [ReadsIn, record, hd.record, bind, Except.bind, hnamed]
  exact congrArg Except.ok hinverse

end FieldAccess.Format
