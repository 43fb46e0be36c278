import FieldAccess.Manifest.Environment
import FieldAccess.Proofs.InstantTexts
import FieldAccess.Proofs.Texts

/-!
# Overrides of manifests

What the variables of an environment make of a manifest: each of them writes the setting that it
stands for and nothing else, and a port only if it is the number of one. What is reported names the
variables that are set, in their order, and warns of those whose value is not taken over. Since
every setting that is written is the same again the next time, overriding twice is overriding once.

## Main definitions

* `IsPort` – a text that is the number of a port.
* `Notice.subject?` – the variable that a notice is about.

## Main statements

* `portOf?_eq_some_iff` – the texts that are read as ports.
* `OverrideVariable.apply_eq` – what one variable writes.
* `Manifest.override_eq` – what all variables write.
* `Manifest.override_exact` – the settings, the notices, and overriding twice.
-/

namespace FieldAccess

/-- A text that is the number of a port: decimal digits, after a plus sign if there is one. -/
def IsPort (text : String) (port : UInt16) : Prop :=
  ∃ digits, (text.toList = digits ∨ text.toList = '+' :: digits) ∧
    Instant.Writes digits port.toNat

/-- Digits are read as a port if they write a number that is not too large. -/
theorem portOf_digits_eq_some_iff {digits : List Char} {port : UInt16} :
    (if !digits.isEmpty && digits.all Text.isDigit &&
        digits.foldl (fun n d => n * 10 + (d.toNat - '0'.toNat)) 0 < 65536 then
      some (digits.foldl (fun n d => n * 10 + (d.toNat - '0'.toNat)) 0).toUInt16 else none) =
        some port ↔ Instant.Writes digits port.toNat := by
  simp only [Option.ite_none_right_eq_some, Option.some.injEq, Bool.and_eq_true,
    Bool.not_eq_true', List.isEmpty_eq_false_iff, List.all_eq_true, decide_eq_true_eq]
  constructor
  · rintro ⟨⟨⟨hne, hdigits⟩, hlt⟩, rfl⟩
    have hwrites := Instant.Writes.of_foldl hne hdigits
    rwa [UInt16.toNat_ofNat_of_lt' hlt]
  · intro hwrites
    rw [hwrites.foldl_eq]
    exact ⟨⟨⟨hwrites.ne_nil, hwrites.isDigit⟩, port.toNat_lt⟩, UInt16.ofNat_toNat⟩

theorem portOf?_eq_some_iff {text : String} {port : UInt16} :
    portOf? text = some port ↔ IsPort text port := by
  have hplus : ∀ rest, ¬Instant.Writes ('+' :: rest) port.toNat := fun rest h => by
    have := h.isDigit '+' List.mem_cons_self
    revert this
    decide
  simp only [portOf?, portOf_digits_eq_some_iff, IsPort]
  split
  · rename_i rest htext
    rw [htext]
    constructor
    · exact fun h => ⟨rest, .inr rfl, h⟩
    · rintro ⟨digits, rfl | hrest, h⟩
      · exact absurd h (hplus rest)
      · rwa [(List.cons.inj hrest).2]
  · rename_i hother
    constructor
    · exact fun h => ⟨_, .inl rfl, h⟩
    · rintro ⟨digits, htext | htext, h⟩
      · rwa [htext]
      · exact absurd htext (hother digits)

/-- The variable that a notice is about. -/
def Notice.subject? : Notice → Option String
  | overridden name _ | overriddenSecretly name | ignored name _ => some name
  | explicitPath _ | discoveredPath _ | defaults => none

namespace OverrideVariable

/-- **One variable.** It writes its setting if it is set, and nothing else. -/
theorem apply_eq (env : Environment) (spec : Spec) (entry : OverrideVariable) :
    apply env spec entry = match entry with
      | databaseHost =>
        { spec with database.host := (env.get? entry.name).getD spec.database.host }
      | databasePort =>
        { spec with
          database.port := ((env.get? entry.name).bind portOf?).getD spec.database.port }
      | databaseUsername =>
        { spec with database.username := (env.get? entry.name).getD spec.database.username }
      | databasePassword =>
        { spec with database.password := (env.get? entry.name).or spec.database.password }
      | databaseName =>
        { spec with database.database := (env.get? entry.name).getD spec.database.database }
      | databaseSslMode =>
        { spec with database.sslMode := (env.get? entry.name).getD spec.database.sslMode }
      | auditServiceUrl =>
        { spec with audit := match env.get? entry.name with
            | some value =>
              some { spec.audit.getD {} with
                endpoint := if Text.isBlankText value then none else some value }
            | none => spec.audit }
      | serverPort =>
        { spec with
          server.port := ((env.get? entry.name).bind portOf?).getD spec.server.port } := by
  cases entry with
  | databasePort | serverPort =>
    simp only [apply, set]
    cases env.get? _ with
    | none => rfl
    | some value =>
      simp only [Option.bind_some]
      cases portOf? value <;> rfl
  | databaseHost | databaseUsername | databasePassword | databaseName | databaseSslMode
  | auditServiceUrl =>
    simp only [apply, set]
    cases env.get? _ <;> rfl

theorem subject?_notice (entry : OverrideVariable) (value : String) :
    (entry.notice value).subject? = some entry.name := by
  cases entry with
  | databasePort | serverPort =>
    simp only [notice, portNotice]
    split <;> rfl
  | databaseHost | databaseUsername | databasePassword | databaseName | databaseSslMode
  | auditServiceUrl => rfl

/-- **One notice.** It warns if the value should be a port and is none. -/
theorem level_notice_eq_warn_iff (entry : OverrideVariable) (value : String) :
    (entry.notice value).level = .warn ↔
      (entry = databasePort ∨ entry = serverPort) ∧ ∀ port, ¬IsPort value port := by
  have hport : (entry.portNotice value).level = .warn ↔ ∀ port, ¬IsPort value port := by
    simp only [portNotice, ← portOf?_eq_some_iff]
    cases portOf? value <;> simp [Notice.level]
  cases entry with
  | databasePort | serverPort => simpa [notice] using hport
  | databaseHost | databaseUsername | databasePassword | databaseName | databaseSslMode
  | auditServiceUrl => simp [notice, Notice.level]

/-- The notices are about the variables that are set, in their order. -/
theorem map_subject?_filterMap (env : Environment) (entries : List OverrideVariable) :
    (entries.filterMap (notice? env)).map Notice.subject? =
      ((entries.map name).filter fun name => (env.get? name).isSome).map some := by
  induction entries with
  | nil => rfl
  | cons entry rest ih =>
    rw [List.filterMap_cons, List.map_cons, List.filter_cons, notice?]
    cases env.get? entry.name with
    | none => simpa using ih
    | some value => simpa [subject?_notice] using ih

theorem mem_filterMap_notice?_iff {env : Environment} {entries : List OverrideVariable}
    {notice : Notice} :
    notice ∈ entries.filterMap (notice? env) ↔
      ∃ entry ∈ entries, ∃ value, env.get? entry.name = some value ∧
        entry.notice value = notice := by
  simp only [List.mem_filterMap, notice?, Option.map_eq_some_iff]

end OverrideVariable

/-- The settings in an environment, one by one: the value of the variable that stands for a setting
if it is set, and for a port only if it is the number of one. The address of the audit service makes
a block of its own where there is none. -/
def Spec.inEnvironment (spec : Spec) (env : Environment) : Spec where
  server := {
    host := spec.server.host
    port := ((env.get? "PDP_PORT").bind portOf?).getD spec.server.port }
  database := {
    backend := spec.database.backend
    host := (env.get? "PDP_DATABASE_HOST").getD spec.database.host
    port := ((env.get? "PDP_DATABASE_PORT").bind portOf?).getD spec.database.port
    username := (env.get? "PDP_DATABASE_USERNAME").getD spec.database.username
    password := (env.get? "PDP_DATABASE_PASSWORD").or spec.database.password
    database := (env.get? "PDP_DATABASE_NAME").getD spec.database.database
    sslMode := (env.get? "PDP_DATABASE_SSLMODE").getD spec.database.sslMode
    maxConnections := spec.database.maxConnections
    minConnections := spec.database.minConnections
    acquireTimeoutSecs := spec.database.acquireTimeoutSecs
    idleTimeoutSecs := spec.database.idleTimeoutSecs
    maxLifetimeSecs := spec.database.maxLifetimeSecs }
  audit :=
    match env.get? "PDP_AUDIT_SERVICE_URL" with
    | some value =>
      let settings := spec.audit.getD {}
      some {
        endpoint := if Text.trimmed value = "" then none else some value
        timeoutMs := settings.timeoutMs
        queueCapacity := settings.queueCapacity
        serviceName := settings.serviceName }
    | none => spec.audit
  observability := spec.observability

/-- Variables that are set give the same settings again. -/
theorem Spec.inEnvironment_inEnvironment (spec : Spec) (env : Environment) :
    (spec.inEnvironment env).inEnvironment env = spec.inEnvironment env := by
  have hkept : ∀ {α : Type} (value : Option α) (old : α),
      value.getD (value.getD old) = value.getD old := by
    intro α value old
    cases value <;> rfl
  have hor : ∀ {α : Type} (value old : Option α), value.or (value.or old) = value.or old := by
    intro α value old
    cases value <;> rfl
  simp only [Spec.inEnvironment, hkept, hor]
  cases env.get? "PDP_AUDIT_SERVICE_URL" <;> rfl

namespace Manifest

/-- **All variables.** Every setting that a variable stands for is that of the environment. -/
theorem override_eq (manifest : Manifest) (env : Environment) :
    manifest.override env = { manifest with spec := manifest.spec.inEnvironment env } := by
  simp only [override, OverrideVariable.all, List.foldl_cons, List.foldl_nil,
    OverrideVariable.apply_eq, OverrideVariable.name, ← Text.trimmed_eq_empty_iff]
  rfl

/-- **Overrides.** The settings of a manifest with the overrides of an environment are those in the
environment, and all else of the manifest is as before; a value is taken for a port if it is the
number of one. There is one notice for each variable that is set, in a fixed order, and it warns
exactly if the variable stands for a port and its value is no number of a port. Overriding the
result again gives the same manifest with the same notices. -/
theorem override_exact (manifest : Manifest) (env : Environment) :
    let overriding (manifest : Manifest) := (manifest.override env, overrideNotices env)
    let (result, notices) := overriding manifest
    result = { manifest with spec := manifest.spec.inEnvironment env } ∧
      (∀ text port, portOf? text = some port ↔ IsPort text port) ∧
      notices.map Notice.subject? =
        (["PDP_DATABASE_HOST", "PDP_DATABASE_PORT", "PDP_DATABASE_USERNAME",
          "PDP_DATABASE_PASSWORD", "PDP_DATABASE_NAME", "PDP_DATABASE_SSLMODE",
          "PDP_AUDIT_SERVICE_URL", "PDP_PORT"].filter fun name =>
            (env.get? name).isSome).map some ∧
      (∀ notice ∈ notices, notice.level = .warn ↔
        ∃ name ∈ ["PDP_DATABASE_PORT", "PDP_PORT"], ∃ value, notice.subject? = some name ∧
          env.get? name = some value ∧ ∀ port, ¬IsPort value port) ∧
      overriding result = (result, notices) := by
  intro overriding
  refine ⟨override_eq manifest env, fun text port => portOf?_eq_some_iff,
    OverrideVariable.map_subject?_filterMap env OverrideVariable.all, fun notice hnotice => ?_, ?_⟩
  · obtain ⟨entry, -, value, hvalue, rfl⟩ :=
      OverrideVariable.mem_filterMap_notice?_iff.1 hnotice
    rw [OverrideVariable.level_notice_eq_warn_iff]
    constructor
    · rintro ⟨hentry, hport⟩
      refine ⟨entry.name, ?_, value, entry.subject?_notice value, hvalue, hport⟩
      rcases hentry with rfl | rfl <;> decide
    · rintro ⟨name, hname, value', hvariable, hvalue', hport⟩
      rw [OverrideVariable.subject?_notice, Option.some.injEq] at hvariable
      rw [← hvariable, hvalue, Option.some.injEq] at hvalue'
      rw [← hvariable] at hname
      refine ⟨?_, hvalue' ▸ hport⟩
      revert hname
      cases entry <;> decide
  · simp only [overriding, override_eq, Spec.inEnvironment_inEnvironment]

/-- A port with a sign and a zero in front, a port with a blank in front, and a blank address. -/
theorem override_exact_registry :
    let env : Environment :=
      [("PDP_PORT", " 80"), ("PDP_DATABASE_PORT", "+05433"), ("PDP_AUDIT_SERVICE_URL", " ")]
    let manifest := standard "registry"
    Notice.ignored "PDP_PORT" " 80" ∈ overrideNotices env ∧
      (∃ name ∈ ["PDP_DATABASE_PORT", "PDP_PORT"], ∃ value, env.get? name = some value ∧
        ∀ port, ¬IsPort value port) ∧
      IsPort "+05433" 5433 ∧
      (manifest.override env).spec = { manifest.spec with
        database.port := 5433
        audit := some {} } ∧
      (manifest.override env).override env = manifest.override env := by
  intro env manifest
  obtain ⟨hresult, hport, -, hwarn, htwice⟩ := override_exact manifest env
  have hnotice : Notice.ignored "PDP_PORT" " 80" ∈ overrideNotices env := by decide +kernel
  obtain ⟨name, hname, value, -, hvalue, hnone⟩ := (hwarn _ hnotice).1 rfl
  refine ⟨hnotice, ⟨name, hname, value, hvalue, hnone⟩, (hport _ _).1 (by decide +kernel), ?_,
    congrArg Prod.fst htwice⟩
  rw [hresult]
  decide +kernel

end Manifest

end FieldAccess
