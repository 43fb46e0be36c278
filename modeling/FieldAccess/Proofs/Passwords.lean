import FieldAccess.Manifest.Check
import FieldAccess.Manifest.Loading
import FieldAccess.Proofs.Texts

/-!
# Passwords of databases

Where the password of the database comes from, and what depends on it. A password that an
environment variable gives takes the place of the one in the manifest, and is read as that one would
be: after `env:` it is the name of another variable. Nothing depends on the password apart from the
connection itself, so that nothing that is shown tells it.

## Main definitions

* `Environment.SameButPassword`, `Machine.SameButPassword` – environments and machines that differ
  in the password of the database at most.
* `Manifest.withoutPassword` – all of a manifest but the password.
* `Manifest.Shown`, `Manifest.shown` – what is shown of a manifest in an environment.

## Main statements

* `Manifest.password_override` – the password of a manifest after the overrides.
* `Manifest.password_of_variable` – the password that is used when a variable gives one.
* `Manifest.password_hidden` – nothing that is shown depends on the password.
-/

namespace FieldAccess

namespace Environment

/-- The value of a variable, if the environment begins with another variable or with this one. -/
theorem get?_cons {name key : String} (hname : '=' ∉ name.toList) (hkey : '=' ∉ key.toList)
    (value : String) (env : Environment) :
    get? ((key, value) :: env) name = if key = name then some value else get? env name := by
  -- Names are told from values by the first equals sign.
  have hbefore : ∀ {text : String} (rest : List Char), '=' ∉ text.toList →
      (text.toList ++ '=' :: rest).takeWhile (· != '=') = text.toList := by
    intro text rest htext
    have hall : ∀ c ∈ text.toList, (c != '=') = true := by
      intro c hc
      rw [bne_iff_ne]
      rintro rfl
      exact htext hc
    rw [List.takeWhile_append_of_pos hall]
    simp
  have hentry : ∀ rest, Text.afterPrefix? (name ++ "=").toList (key ++ "=" ++ value).toList =
      some rest ↔ key = name ∧ rest = value.toList := by
    intro rest
    rw [Text.afterPrefix?_eq_some_iff]
    simp only [String.toList_append, String.reduceToList, List.append_assoc, List.singleton_append]
    constructor
    · intro h
      have hsame := congrArg (List.takeWhile (· != '=')) h
      rw [hbefore _ hkey, hbefore _ hname, String.toList_inj] at hsame
      subst hsame
      exact ⟨rfl, ((List.cons.inj (List.append_cancel_left h)).2).symm⟩
    · rintro ⟨rfl, rfl⟩
      rfl
  rw [get?, List.findSome?_cons]
  dsimp only
  by_cases hsame : key = name
  · rw [if_pos hsame, (hentry value.toList).2 ⟨hsame, rfl⟩, Option.map_some, String.ofList_toList]
  · have hnone : Text.afterPrefix? (name ++ "=").toList (key ++ "=" ++ value).toList = none :=
      Option.eq_none_iff_forall_ne_some.2 fun rest h => hsame ((hentry rest).1 h).1
    rw [if_neg hsame, hnone, Option.map_none, get?]

theorem get?_append (front back : Environment) (name : String) :
    get? (front ++ back) name = (get? front name).or (get? back name) :=
  List.findSome?_append

/-- Environments in which all variables have the same values, but perhaps the one that gives the
password of the database. That one is set in both of them or in none. -/
structure SameButPassword (env env' : Environment) : Prop where
  others : ∀ name, '=' ∉ name.toList → name ≠ "PDP_DATABASE_PASSWORD" →
    env.get? name = env'.get? name
  isSome : (env.get? "PDP_DATABASE_PASSWORD").isSome = (env'.get? "PDP_DATABASE_PASSWORD").isSome

/-- Another value of the variable is such a difference. -/
theorem sameButPassword_append (front back : Environment) (value value' : String) :
    SameButPassword (front ++ ("PDP_DATABASE_PASSWORD", value) :: back)
      (front ++ ("PDP_DATABASE_PASSWORD", value') :: back) where
  others name hname hne := by
    rw [get?_append, get?_append, get?_cons hname (by decide), get?_cons hname (by decide),
      if_neg (Ne.symm hne), if_neg (Ne.symm hne)]
  isSome := by
    rw [get?_append, get?_append, get?_cons (by decide) (by decide),
      get?_cons (by decide) (by decide), if_pos rfl, if_pos rfl, Option.isSome_or, Option.isSome_or,
      Option.isSome_some, Option.isSome_some]

end Environment

namespace DatabaseSettings

variable {settings : DatabaseSettings} {password name : String}

theorem passwordVariable?_eq_some_iff :
    passwordVariable? password = some name ↔ password = "env:" ++ name := by
  rw [passwordVariable?, Option.map_eq_some_iff]
  constructor
  · rintro ⟨rest, hrest, rfl⟩
    rw [← String.toList_inj, Text.afterPrefix?_eq_some_iff.1 hrest]
    simp
  · rintro rfl
    exact ⟨name.toList, Text.afterPrefix?_eq_some_iff.2 (by simp), String.ofList_toList⟩

theorem resolvePassword_named (h : settings.password = some ("env:" ++ name))
    (env : Environment) : settings.resolvePassword env = env.get? name := by
  rw [resolvePassword, h]
  dsimp only
  rw [passwordVariable?_eq_some_iff.2 rfl]

theorem resolvePassword_literal (h : settings.password = some password)
    (hliteral : ∀ name, password ≠ "env:" ++ name) (env : Environment) :
    settings.resolvePassword env = some password := by
  have hnone : passwordVariable? password = none :=
    Option.eq_none_iff_forall_ne_some.2 fun name hname =>
      hliteral name (passwordVariable?_eq_some_iff.1 hname)
  rw [resolvePassword, h]
  dsimp only
  rw [hnone]

/-- All settings but the password. -/
def withoutPassword (settings : DatabaseSettings) : DatabaseSettings :=
  { settings with password := none }

theorem redactedUrl_withoutPassword (settings : DatabaseSettings) :
    settings.withoutPassword.redactedUrl = settings.redactedUrl := rfl

theorem storage_withoutPassword (settings : DatabaseSettings) :
    settings.withoutPassword.storage = settings.storage := rfl

end DatabaseSettings

/-- All of a connection but the password. -/
def Connection.withoutPassword (connection : Connection) : Connection :=
  { connection with password := none }

/-- Whether a connection can be made, and how, does not depend on the password. -/
theorem DatabaseSettings.connection_withoutPassword (settings : DatabaseSettings)
    (env env' : Environment) :
    (settings.connection env).map Connection.withoutPassword =
      settings.withoutPassword.connection env' := by
  simp only [connection, DatabaseSettings.withoutPassword]
  cases SslMode.ofText? settings.sslMode <;> rfl

/-- All settings of an instance but the password. -/
def Spec.withoutPassword (spec : Spec) : Spec :=
  { spec with database := spec.database.withoutPassword }

/-- All of a manifest but the password. -/
def Manifest.withoutPassword (manifest : Manifest) : Manifest :=
  { manifest with spec := manifest.spec.withoutPassword }

namespace OverrideVariable

/-- **One override.** Only the variable for the password changes the password. -/
theorem password_apply (env : Environment) (spec : Spec) (entry : OverrideVariable) :
    (apply env spec entry).database.password =
      if entry = databasePassword then
        (env.get? "PDP_DATABASE_PASSWORD").or spec.database.password
      else spec.database.password := by
  cases entry with
  | databasePassword =>
    simp only [apply, name, if_true]
    cases env.get? "PDP_DATABASE_PASSWORD" <;> rfl
  | databasePort | serverPort =>
    simp only [apply, set, reduceCtorEq, if_false]
    split
    · split <;> rfl
    · rfl
  | databaseHost | databaseUsername | databaseName | databaseSslMode | auditServiceUrl =>
    simp only [apply, set, reduceCtorEq, if_false]
    split <;> rfl

theorem password_foldl (env : Environment) (spec : Spec) (entries : List OverrideVariable) :
    (entries.foldl (apply env) spec).database.password =
      if databasePassword ∈ entries then
        (env.get? "PDP_DATABASE_PASSWORD").or spec.database.password
      else spec.database.password := by
  induction entries generalizing spec with
  | nil => rfl
  | cons entry rest ih =>
    rw [List.foldl_cons, ih, password_apply]
    by_cases hentry : entry = databasePassword
    · subst hentry
      simp only [List.mem_cons, true_or, if_true]
      -- A variable that is set gives the same password once more.
      cases env.get? "PDP_DATABASE_PASSWORD" <;> simp
    · simp only [List.mem_cons, Ne.symm hentry, false_or, if_neg hentry]

/-- What an override writes besides the password does not depend on the password. -/
theorem withoutPassword_set (spec : Spec) (value : String) (entry : OverrideVariable) :
    (entry.set spec value).withoutPassword =
      (entry.set spec.withoutPassword value).withoutPassword := by
  cases entry with
  | databasePort | serverPort =>
    simp only [set]
    split <;> rfl
  | databaseHost | databaseUsername | databasePassword | databaseName | databaseSslMode
  | auditServiceUrl => rfl

variable {env env' : Environment} {spec spec' : Spec}

/-- **One override, twice.** It makes no difference but in the password if there was none before. -/
theorem withoutPassword_apply (henv : env.SameButPassword env')
    (hspec : spec.withoutPassword = spec'.withoutPassword) (entry : OverrideVariable) :
    (apply env spec entry).withoutPassword = (apply env' spec' entry).withoutPassword := by
  by_cases hentry : entry = databasePassword
  · subst hentry
    have hkept : ∀ (env : Environment) (spec : Spec),
        (apply env spec databasePassword).withoutPassword = spec.withoutPassword := by
      intro env spec
      simp only [apply]
      split <;> rfl
    rw [hkept, hkept, hspec]
  · have hname : entry.name ≠ "PDP_DATABASE_PASSWORD" := by
      revert hentry
      cases entry <;> decide
    have hvalue := henv.others entry.name (by cases entry <;> decide) hname
    simp only [apply, hvalue]
    cases env'.get? entry.name with
    | none => exact hspec
    | some value =>
      dsimp only
      rw [withoutPassword_set, hspec, ← withoutPassword_set]

theorem withoutPassword_foldl (henv : env.SameButPassword env')
    (hspec : spec.withoutPassword = spec'.withoutPassword) (entries : List OverrideVariable) :
    (entries.foldl (apply env) spec).withoutPassword =
      (entries.foldl (apply env') spec').withoutPassword := by
  induction entries generalizing spec spec' with
  | nil => exact hspec
  | cons entry rest ih => exact ih (withoutPassword_apply henv hspec entry)

/-- The notice about the password says only that there is one. -/
theorem notice?_eq (henv : env.SameButPassword env') (entry : OverrideVariable) :
    notice? env entry = notice? env' entry := by
  by_cases hentry : entry = databasePassword
  · subst hentry
    have hset := henv.isSome
    simp only [notice?, name]
    cases hvalue : env.get? "PDP_DATABASE_PASSWORD" <;>
      cases hvalue' : env'.get? "PDP_DATABASE_PASSWORD" <;> simp_all [notice]
  · have hname : entry.name ≠ "PDP_DATABASE_PASSWORD" := by
      revert hentry
      cases entry <;> decide
    rw [notice?, notice?, henv.others entry.name (by cases entry <;> decide) hname]

end OverrideVariable

namespace Manifest

/-- **Overrides.** A password from the environment takes the place of the one in the manifest. -/
theorem password_override (manifest : Manifest) (env : Environment) :
    (manifest.override env).spec.database.password =
      (env.get? "PDP_DATABASE_PASSWORD").or manifest.spec.database.password := by
  rw [override, OverrideVariable.password_foldl, if_pos (by decide)]

/-- **Passwords from the environment.** The manifest that refers to the variable has the value of
the variable as its password. After the overrides, every manifest has it exactly if the value does
not refer to a variable, or to one of the same value: a value that refers to a variable is not used
itself, but what it refers to. -/
theorem password_of_variable {env : Environment} {value : String}
    (hvalue : env.get? "PDP_DATABASE_PASSWORD" = some value) (manifest : Manifest) :
    let database := (manifest.override env).spec.database
    DatabaseSettings.standard.resolvePassword env = some value ∧
      (database.resolvePassword env = some value ↔
        ∀ name, value = "env:" ++ name → env.get? name = some value) ∧
      ∀ name, value = "env:" ++ name → database.resolvePassword env = env.get? name := by
  intro database
  have hpassword : database.password = some value := by
    rw [password_override, hvalue, Option.some_or]
  have hnamed : ∀ name, value = "env:" ++ name → database.resolvePassword env = env.get? name :=
    fun name hname => DatabaseSettings.resolvePassword_named (hname ▸ hpassword) env
  refine ⟨?_, ⟨fun h name hname => ?_, fun h => ?_⟩, hnamed⟩
  · have hstandard : DatabaseSettings.standard.password =
        some ("env:" ++ "PDP_DATABASE_PASSWORD") := rfl
    rw [DatabaseSettings.resolvePassword_named hstandard, hvalue]
  · rw [← hnamed name hname, h]
  · by_cases hliteral : ∃ name, value = "env:" ++ name
    · obtain ⟨name, hname⟩ := hliteral
      rw [hnamed name hname, h name hname]
    · exact DatabaseSettings.resolvePassword_literal hpassword
        (fun name hname => hliteral ⟨name, hname⟩) env

/-- A password that refers to a variable, and one that does not. -/
theorem password_of_variable_token :
    let env : Environment := [("PDP_DATABASE_PASSWORD", "env:TOKEN"), ("TOKEN", "s3cret")]
    let plain : Environment := [("PDP_DATABASE_PASSWORD", "s3cret")]
    env.get? "PDP_DATABASE_PASSWORD" = some "env:TOKEN" ∧
      DatabaseSettings.standard.resolvePassword env = some "env:TOKEN" ∧
      ((standard "registry").override env).spec.database.resolvePassword env = some "s3cret" ∧
      plain.get? "PDP_DATABASE_PASSWORD" = some "s3cret" ∧
      ((standard "registry").override plain).spec.database.resolvePassword plain =
        some "s3cret" := by
  intro env plain
  have henv : env.get? "PDP_DATABASE_PASSWORD" = some "env:TOKEN" := by decide +kernel
  have hplain : plain.get? "PDP_DATABASE_PASSWORD" = some "s3cret" := by decide +kernel
  obtain ⟨hstandard, -, hnamed⟩ := password_of_variable henv (standard "registry")
  have htoken : env.get? "TOKEN" = some "s3cret" := by decide +kernel
  refine ⟨henv, hstandard, (hnamed "TOKEN" rfl).trans htoken, hplain, ?_⟩
  refine (password_of_variable hplain (standard "registry")).2.1.2 fun name hname => ?_
  have hfirst := congrArg (·.toList.head?) hname
  simp at hfirst

/-- Not every password that the environment gives is used. -/
theorem not_password_of_variable :
    ¬ ∀ (manifest : Manifest) (env : Environment) (value : String),
      env.get? "PDP_DATABASE_PASSWORD" = some value →
        (manifest.override env).spec.database.resolvePassword env = some value := by
  intro h
  have hpassword := h (standard "registry") [("PDP_DATABASE_PASSWORD", "env:secret")] "env:secret"
    (by decide +kernel)
  revert hpassword
  decide +kernel

/-- What is shown of a manifest. -/
structure Shown where
  /-- What is reported about the overrides. -/
  notices : List Notice
  /-- The first fault. -/
  checked : Except ManifestFault Unit
  /-- The address of the database. -/
  url : String
  storage : Storage
  /-- Why there are no policies without a connection. -/
  unavailable : Option String
  /-- How a connection is made, but for the password, or why none is made. -/
  connection : Except UnsupportedSslMode Connection

/-- What is shown of a manifest with the overrides of an environment. -/
def shown (manifest : Manifest) (env : Environment) : Shown :=
  let overridden := manifest.override env
  let database := overridden.spec.database
  { notices := overrideNotices env
    checked := overridden.check
    url := database.redactedUrl
    storage := database.storage
    unavailable := database.storage.unavailable?
    connection := (database.connection env).map Connection.withoutPassword }

variable {manifest manifest' : Manifest} {env env' : Environment}

theorem withoutPassword_override (henv : env.SameButPassword env')
    (hmanifest : manifest.withoutPassword = manifest'.withoutPassword) :
    (manifest.override env).withoutPassword = (manifest'.override env').withoutPassword := by
  obtain ⟨hversion, hkind, hmetadata, hspec⟩ := Manifest.mk.inj hmanifest
  have hoverridden :=
    OverrideVariable.withoutPassword_foldl henv hspec OverrideVariable.all
  simp only [Manifest.withoutPassword, override, Manifest.mk.injEq]
  exact ⟨hversion, hkind, hmetadata, hoverridden⟩

theorem overrideNotices_eq (henv : env.SameButPassword env') :
    overrideNotices env = overrideNotices env' :=
  List.filterMap_congr fun entry _ => OverrideVariable.notice?_eq henv entry

/-- The manifest without its password passes the same checks. -/
theorem check_withoutPassword (manifest : Manifest) :
    manifest.withoutPassword.check = manifest.check := rfl

theorem shown_eq (henv : env.SameButPassword env')
    (hmanifest : manifest.withoutPassword = manifest'.withoutPassword) :
    manifest.shown env = manifest'.shown env' := by
  have hoverridden := withoutPassword_override henv hmanifest
  have hdatabase : (manifest.override env).spec.database.withoutPassword =
      (manifest'.override env').spec.database.withoutPassword :=
    congrArg (fun manifest => manifest.spec.database) hoverridden
  have hchecked : (manifest.override env).check = (manifest'.override env').check := by
    rw [← check_withoutPassword, hoverridden, check_withoutPassword]
  have hurl : (manifest.override env).spec.database.redactedUrl =
      (manifest'.override env').spec.database.redactedUrl := by
    rw [← DatabaseSettings.redactedUrl_withoutPassword, hdatabase,
      DatabaseSettings.redactedUrl_withoutPassword]
  have hstorage : (manifest.override env).spec.database.storage =
      (manifest'.override env').spec.database.storage := by
    rw [← DatabaseSettings.storage_withoutPassword, hdatabase,
      DatabaseSettings.storage_withoutPassword]
  have hconnection := DatabaseSettings.connection_withoutPassword
    (manifest.override env).spec.database env env
  rw [hdatabase, ← DatabaseSettings.connection_withoutPassword _ env' env] at hconnection
  simp only [shown, Shown.mk.injEq]
  exact ⟨overrideNotices_eq henv, hchecked, hurl, hstorage, by rw [hstorage], hconnection⟩

end Manifest

theorem Manifest.find_some (machine : Machine) (path : String) :
    find machine (some path) =
      ((ofFile machine.files path).mapError (LoadFault.mk (some path))).map
        (·, .explicitPath path) := by
  rw [find]
  cases ofFile machine.files path <;> rfl

theorem Manifest.find_none {machine : Machine} {path : String}
    (h : machine.discover = some path) :
    find machine none =
      ((ofFile machine.files path).mapError (LoadFault.mk none)).map (·, .discoveredPath path) := by
  simp only [find, h]
  cases ofFile machine.files path <;> rfl

/-- Machines that differ in passwords of databases at most: in the variable for it, and in the
manifests that their files hold. -/
structure Machine.SameButPassword (machine machine' : Machine) : Prop where
  env : machine.env.SameButPassword machine'.env
  accountHome : machine.accountHome = machine'.accountHome
  hostName : machine.hostName = machine'.hostName
  places : ∀ path, machine.files.exists? path = machine'.files.exists? path
  manifests : ∀ path, (Manifest.ofFile machine.files path).map Manifest.withoutPassword =
    (Manifest.ofFile machine'.files path).map Manifest.withoutPassword

namespace Machine.SameButPassword

variable {machine machine' : Machine}

theorem discover (h : machine.SameButPassword machine') : machine.discover = machine'.discover := by
  have hplaces : machine.usualPlaces = machine'.usualPlaces := by
    rw [usualPlaces, usualPlaces, home?, home?, h.env.others "HOME" (by decide) (by decide),
      h.env.others "PDP_CONFIG_PATH" (by decide) (by decide), h.accountHome]
  rw [Machine.discover, Machine.discover, hplaces, funext h.places]

/-- The same manifest is found, but for the password, or none for the same reason. -/
theorem find (h : machine.SameButPassword machine') (asked : Option String) :
    (Manifest.find machine asked).map (Prod.map Manifest.withoutPassword id) =
      (Manifest.find machine' asked).map (Prod.map Manifest.withoutPassword id) := by
  have hread : ∀ path asked (notice : Notice),
      (((Manifest.ofFile machine.files path).mapError (LoadFault.mk asked)).map (·, notice)).map
          (Prod.map Manifest.withoutPassword id) =
        (((Manifest.ofFile machine'.files path).mapError (LoadFault.mk asked)).map (·, notice)).map
          (Prod.map Manifest.withoutPassword id) := by
    intro path asked notice
    have hmanifest := h.manifests path
    cases hread : Manifest.ofFile machine.files path <;>
      cases hread' : Manifest.ofFile machine'.files path <;>
      simp_all [Except.map, Except.mapError]
  cases asked with
  | some path => rw [Manifest.find_some, Manifest.find_some, hread]
  | none =>
    cases hplace : machine.discover with
    | some path =>
      rw [Manifest.find_none hplace, Manifest.find_none (h.discover ▸ hplace), hread]
    | none => simp only [Manifest.find, ← h.discover, hplace, h.hostName]

theorem load (h : machine.SameButPassword machine') (asked : Option String) :
    (Manifest.load machine asked).map (Prod.map Manifest.withoutPassword id) =
      (Manifest.load machine' asked).map (Prod.map Manifest.withoutPassword id) := by
  have hfind := h.find asked
  cases hfound : Manifest.find machine asked with
  | error fault =>
    cases hfound' : Manifest.find machine' asked <;>
      simp_all [Manifest.load, Except.map, bind, Except.bind]
  | ok found =>
    cases hfound' : Manifest.find machine' asked with
    | error fault => simp_all [Except.map]
    | ok found' =>
      simp only [hfound, hfound', Except.map, Except.ok.injEq, Prod.map, Prod.mk.injEq, id] at hfind
      simp only [Manifest.load, hfound, hfound', bind, Except.bind, pure, Except.pure, Except.map,
        Prod.map, Except.ok.injEq, Prod.mk.injEq, id]
      exact ⟨Manifest.withoutPassword_override h.env hfind.1,
        by rw [hfind.2, Manifest.overrideNotices_eq h.env]⟩

end Machine.SameButPassword

/-- **Hidden passwords.** Take two machines, and two manifests, that differ in passwords of
databases at most. The manifests have the same first fault. With the overrides of the environments
nothing that is shown of them differs: the notices, the first fault, the address of the database,
where policies are stored, why they are not available without a connection, and all of the
connection but its password. Loading on the two machines ends with the same notices or the same
fault, and with the same manifest but for the password. -/
theorem Manifest.password_hidden {machine machine' : Machine}
    (hmachine : machine.SameButPassword machine') {manifest manifest' : Manifest}
    (hmanifest : manifest.withoutPassword = manifest'.withoutPassword) (asked : Option String) :
    manifest.check = manifest'.check ∧ manifest.shown machine.env = manifest'.shown machine'.env ∧
      (load machine asked).map (·.2) = (load machine' asked).map (·.2) ∧
      (load machine asked).map (·.1.withoutPassword) =
        (load machine' asked).map (·.1.withoutPassword) := by
  have hload := hmachine.load asked
  have hparts : ∀ {α : Type} (f : Manifest × List Notice → α) (result : Except LoadFault _),
      (result.map (Prod.map Manifest.withoutPassword id)).map f =
        result.map fun loaded => f (loaded.1.withoutPassword, loaded.2) := by
    intro α f result
    cases result <;> rfl
  refine ⟨?_, shown_eq hmachine.env hmanifest, ?_, ?_⟩
  · rw [← check_withoutPassword, hmanifest, check_withoutPassword]
  · have hnotices := congrArg (Except.map Prod.snd) hload
    rwa [hparts, hparts] at hnotices
  · have hmanifests := congrArg (Except.map Prod.fst) hload
    rwa [hparts, hparts] at hmanifests

/-- Passwords that are texts, and passwords that look like references and addresses. -/
theorem Manifest.password_hidden_registry :
    let machine (password : String) : Machine :=
      { files := .ofList "/srv" [], env := [("PDP_DATABASE_PASSWORD", password)] }
    let manifest (password : String) : Manifest :=
      { standard "registry" with
        spec.database := { DatabaseSettings.standard with password := some password } }
    (machine "hunter2").SameButPassword (machine "env:TOKEN") ∧
      (manifest "s3cret").withoutPassword = (manifest "postgres://root@db").withoutPassword ∧
      (manifest "s3cret").shown (machine "hunter2").env =
        (manifest "postgres://root@db").shown (machine "env:TOKEN").env ∧
      (load (machine "hunter2") none).map (·.2) = (load (machine "env:TOKEN") none).map (·.2) := by
  intro machine manifest
  have hmachine : (machine "hunter2").SameButPassword (machine "env:TOKEN") :=
    ⟨Environment.sameButPassword_append [] [] "hunter2" "env:TOKEN", rfl, rfl, fun _ => rfl,
      fun _ => rfl⟩
  have hmanifest : (manifest "s3cret").withoutPassword =
      (manifest "postgres://root@db").withoutPassword := rfl
  obtain ⟨-, hshown, hnotices, -⟩ := password_hidden hmachine hmanifest none
  exact ⟨hmachine, hmanifest, hshown, hnotices⟩

end FieldAccess
