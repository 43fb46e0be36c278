import FieldAccess.CommandLine.Run
import FieldAccess.Proofs.Overrides
import FieldAccess.Proofs.Passwords

/-!
# Checking the configuration

The command that checks the configuration, with no file named on the command line. Variables stand
in for options of all commands: for the file of the manifest, for the port, and for the level of the
log. The file that the variable names counts as asked for, so that nothing else is looked for if it
is not there; the port must be one that the command line takes; and the level must be a filter for
the log, unless there is one in the variable for it. As far as none of this matters, the manifest
that is checked is the one that is found in the usual places.

## Main definitions

* `standInFilter` – the filter for the log when the command line gives no level.
* `TellsCheck` – an ending that tells how the check of a loaded manifest ends.

## Main statements

* `standIns_common` – the variables that stand in for the options of all commands.
* `Invocation.read_validate` – the invocation, if the variables have values that are taken.
* `tellsCheck_none`, `tellsCheck_some` – the command tells of the manifest that it loads, be it
  found or asked for.
* `config_validate_exact` – how the command ends for all values of the variables.
-/

namespace FieldAccess

open CommandLine

/-! ### Ports on the command line -/

section Ports

variable {digits : List Char} {limit value n : Nat} {fault : Decimal.BoundedFault}

theorem le_foldl_digits (digits : List Char) (value : Nat) :
    value ≤ digits.foldl (fun n d => n * 10 + (d.toNat - '0'.toNat)) value := by
  induction digits generalizing value with
  | nil => exact le_rfl
  | cons d digits ih =>
    have hnext := ih (value * 10 + (d.toNat - '0'.toNat))
    rw [List.foldl_cons]
    omega

/-- Digits are added up if they are all digits and the number is not too large. -/
theorem addDigits_eq_ok (hdigits : ∀ c ∈ digits, Text.isDigit c = true)
    (hle : digits.foldl (fun n d => n * 10 + (d.toNat - '0'.toNat)) value ≤ limit) :
    Decimal.addDigits limit fault value digits =
      .ok (digits.foldl (fun n d => n * 10 + (d.toNat - '0'.toNat)) value) := by
  induction digits generalizing value with
  | nil => rfl
  | cons d digits ih =>
    have hnext := le_foldl_digits digits (value * 10 + (d.toNat - '0'.toNat))
    rw [List.foldl_cons] at hle
    rw [Decimal.addDigits, hdigits d List.mem_cons_self]
    simp only [Bool.not_true, Bool.false_eq_true, if_false]
    rw [if_neg (by omega), ih (fun c hc => hdigits c (List.mem_cons_of_mem _ hc)) hle,
      List.foldl_cons]

end Ports

/-- The command line takes every number of a port. -/
theorem IsPort.readPort_eq {text : String} {port : UInt16} (h : IsPort text port) :
    readPort text = .ok port := by
  obtain ⟨digits, htext, hwrites⟩ := h
  have hlt := port.toNat_lt
  have hadd : ∀ fault, Decimal.addDigits (Nat.pow 2 63 - 1) fault 0 digits = .ok port.toNat := by
    intro fault
    rw [← hwrites.foldl_eq]
    refine addDigits_eq_ok hwrites.isDigit ?_
    rw [hwrites.foldl_eq]
    exact Nat.le_of_lt (hlt.trans (by decide))
  have hbounded : Decimal.readBounded (Nat.pow 2 63) (Nat.pow 2 63 - 1) text.toList =
      .ok (port.toNat : Int) := by
    obtain ⟨c, more, rfl, hc⟩ := hwrites.exists_cons
    rcases htext with htext | htext
    · rw [htext]
      unfold Decimal.readBounded
      split
      · rename_i h
        cases h
      · rename_i h
        cases h
        cases hc
      · rename_i h
        cases h
        cases hc
      · rename_i h
        cases h
        cases hc
      · rename_i h
        cases h
        cases hc
      · rw [hadd]
        rfl
    · rw [htext, Decimal.readBounded, hadd]
      · rfl
      · exact List.cons_ne_nil _ _
  have hrange : 0 ≤ (port.toNat : Int) ∧ (port.toNat : Int) < (Nat.pow 2 16 : Nat) := by
    have hpow : Nat.pow 2 16 = 65536 := rfl
    omega
  simp only [readPort, hbounded, Except.mapError, bind, Except.bind, pure, Except.pure]
  rw [if_pos hrange, Int.toNat_natCast]
  exact congrArg Except.ok UInt16.ofNat_toNat

namespace CommandLine

/-! ### The command line -/

namespace Grammar

variable {α : Type} {grammar : Grammar α} {level inner : Level α} {text : String}

theorem close_empty (grammar : Grammar α) (env : Environment) (level : Level α) :
    grammar.close env level {} =
      (standIns env [] (grammar.optionsAt level)).map fun values => { env := values } := by
  simp only [close, Progress.settle]
  change ((standIns env [] (grammar.optionsAt level)) >>= fun values => _) = _
  cases standIns env [] (grammar.optionsAt level) <;> rfl

/-- A word of a command leads to the level behind it. -/
theorem readFrom_cons (htext : text ≠ "-")
    (hinner : grammar.level? (level.path ++ [text]) = some inner) (env : Environment)
    (rest : List String) :
    grammar.readFrom env level {} (text :: rest) = (do
      let (meaning, given) ← grammar.readFrom env inner {} rest
      let outer ← (grammar.close env level {}).mapError .fault
      return (meaning, given.under outer)) := by
  have hword : ¬(({} : Progress).wantsValue && !text.startsWith "-" || text = "-") := by
    simp [Progress.wantsValue, htext]
  rw [readFrom, if_neg hword, hinner]

end Grammar

theorem read_config_validate (env : Environment) :
    grammar.read env ["config", "validate"] = (do
      let values ← (Grammar.standIns env [] grammar.common).mapError Stop.fault
      let given : Given := { env := values }
      return (some (.validateConfig (given.text? "FILE")), (given.under given).under given)) := by
  have hroot : grammar.level? [] = some { path := [], meaning := fun _ => .ok none } := rfl
  rw [Grammar.read, hroot]
  dsimp only
  rw [Grammar.readFrom_cons (by decide) rfl, Grammar.readFrom_cons (by decide) rfl]
  simp only [Grammar.readFrom, Grammar.finish, Grammar.close_empty, Grammar.optionsAt,
    List.nil_append]
  cases Grammar.standIns env [] grammar.common <;> rfl

/-- The value of an option that is not on the command line, if a variable stands in for it. -/
def standIn (env : Environment) (name : String) (kind : ValueKind) (option : OptionSpec) :
    Except UsageFault (List (String × Value)) :=
  match env.get? name with
  | some text =>
    ((kind.read text).mapError (.invalidValue option text)).map fun value => [(option.name, value)]
  | none => .ok []

/-- The options of all commands are looked at one after another. -/
theorem standIns_common (env : Environment) :
    Grammar.standIns env [] grammar.common = (do
      let path ← standIn env "PDP_CONFIG_PATH" .path configOption
      let port ← standIn env "PDP_PORT" .port portOption
      let host ← standIn env "PDP_HOST" .text hostOption
      let level ← standIn env "PDP_LOG_LEVEL" .text logLevelOption
      return path ++ (port ++ (host ++ level))) := by
  have hstep : ∀ {option : OptionSpec} {rest : List OptionSpec} {name : String} {kind : ValueKind}
      {placeholder : String}, option.stand = some name → option.value = some (kind, placeholder) →
      Grammar.standIns env [] (option :: rest) = (do
        let first ← standIn env name kind option
        let others ← Grammar.standIns env [] rest
        return first ++ others) := by
    intro option rest name kind placeholder hstand hvalue
    simp only [Grammar.standIns, hstand, hvalue, Option.bind_some, standIn]
    cases env.get? name with
    | none => cases Grammar.standIns env [] rest <;> rfl
    | some text =>
      simp only [List.any_nil, Bool.false_eq_true, if_false]
      cases kind.read text with
      | error fault => rfl
      | ok value => cases Grammar.standIns env [] rest <;> rfl
  change Grammar.standIns env [] [configOption, portOption, hostOption, logLevelOption] = _
  rw [hstep rfl rfl, hstep rfl rfl, hstep rfl rfl, hstep rfl rfl]
  cases standIn env "PDP_CONFIG_PATH" .path configOption with
  | error fault => rfl
  | ok path =>
    cases standIn env "PDP_PORT" .port portOption with
    | error fault => rfl
    | ok port =>
      cases standIn env "PDP_HOST" .text hostOption with
      | error fault => rfl
      | ok host =>
        cases standIn env "PDP_LOG_LEVEL" .text logLevelOption with
        | error fault => rfl
        | ok level =>
          change Except.ok _ = Except.ok _
          rw [List.append_nil]

/-- The text of a path stands for itself, unless there is none. -/
theorem standIn_path (env : Environment) :
    standIn env "PDP_CONFIG_PATH" .path configOption =
      if env.get? "PDP_CONFIG_PATH" = some "" then .error (.invalidValue configOption "" .empty)
      else .ok ((env.get? "PDP_CONFIG_PATH").map fun path =>
        ("config", Value.text path)).toList := by
  rw [standIn]
  cases env.get? "PDP_CONFIG_PATH" with
  | none => rfl
  | some path =>
    by_cases hempty : path = ""
    · subst hempty
      rfl
    · have hnot : path.isEmpty = false := by simpa using hempty
      simp only [ValueKind.read, hnot, Option.some.injEq, hempty, Bool.false_eq_true, if_false]
      rfl

theorem standIn_text (env : Environment) (name : String) (option : OptionSpec) :
    standIn env name .text option =
      .ok ((env.get? name).map fun text => (option.name, Value.text text)).toList := by
  rw [standIn]
  cases env.get? name <;> rfl

theorem standIn_port_of_ok {env : Environment}
    (hport : ∀ text, env.get? "PDP_PORT" = some text → ∃ port, readPort text = .ok port) :
    ∃ port : Option UInt16, standIn env "PDP_PORT" .port portOption =
      .ok (port.map fun port => ("port", Value.port port)).toList := by
  rw [standIn]
  cases hvalue : env.get? "PDP_PORT" with
  | none => exact ⟨none, rfl⟩
  | some text =>
    obtain ⟨port, hread⟩ := hport text hvalue
    refine ⟨some port, ?_⟩
    simp only [ValueKind.read, hread]
    rfl

theorem standIn_port_of_error {env : Environment} {text : String} {fault : ValueFault}
    (hvalue : env.get? "PDP_PORT" = some text) (hread : readPort text = .error fault) :
    standIn env "PDP_PORT" .port portOption = .error (.invalidValue portOption text fault) := by
  rw [standIn, hvalue]
  simp only [ValueKind.read, hread]
  rfl

/-- The command checks the manifest whose file the variable names, and logs at the level that the
variable for it names. -/
theorem Invocation.read_validate {env : Environment}
    (hpath : env.get? "PDP_CONFIG_PATH" ≠ some "")
    (hport : ∀ text, env.get? "PDP_PORT" = some text → ∃ port, readPort text = .ok port) :
    ∃ invocation, Invocation.read env ["config", "validate"] = .ok invocation ∧
      invocation.command = some (.validateConfig none) ∧
      invocation.config = env.get? "PDP_CONFIG_PATH" ∧
      invocation.logLevel = (env.get? "PDP_LOG_LEVEL").getD defaultLogLevel := by
  obtain ⟨port, hstandIn⟩ := standIn_port_of_ok hport
  rw [Invocation.read, read_config_validate, standIns_common, standIn_path, if_neg hpath, hstandIn,
    standIn_text, standIn_text]
  refine ⟨_, rfl, ?_⟩
  cases env.get? "PDP_CONFIG_PATH" <;> cases port <;> cases env.get? "PDP_HOST" <;>
    cases env.get? "PDP_LOG_LEVEL" <;> exact ⟨rfl, rfl, rfl⟩

theorem Invocation.read_validate_of_empty {env : Environment}
    (hpath : env.get? "PDP_CONFIG_PATH" = some "") :
    Invocation.read env ["config", "validate"] =
      .error (.fault (.invalidValue configOption "" .empty)) := by
  rw [Invocation.read, read_config_validate, standIns_common, standIn_path, if_pos hpath]
  rfl

theorem Invocation.read_validate_of_port {env : Environment} {text : String} {fault : ValueFault}
    (hpath : env.get? "PDP_CONFIG_PATH" ≠ some "") (hvalue : env.get? "PDP_PORT" = some text)
    (hread : readPort text = .error fault) :
    Invocation.read env ["config", "validate"] =
      .error (.fault (.invalidValue portOption text fault)) := by
  rw [Invocation.read, read_config_validate, standIns_common, standIn_path, if_neg hpath,
    standIn_port_of_error hvalue hread]
  rfl

/-! ### The check -/

/-- What the command shows before the manifest is loaded. -/
def checkStart : List String := ["Validating configuration..."]

/-- The filter for the log of a command line that gives no level. -/
def standInFilter (read : LogFilter.Reader) (env : Environment) :
    Except (List String) LogFilter :=
  LogFilter.chosen read env ((env.get? "PDP_LOG_LEVEL").getD defaultLogLevel)

/-- What is logged about a manifest that is loaded with some notices, if its file was asked for: the
first notice tells where the manifest comes from. -/
def loggedNotices (filter : LogFilter) (asked : Option String) (notices : List Notice) :
    List LogRecord :=
  let reported := match asked with
    | some path => Notice.explicitPath path :: notices.tail
    | none => notices
  (reported.map LogRecord.notice).filter filter

/-- An ending that tells of the check of a manifest that is loaded with a result, as if its file was
asked for: that it cannot be loaded, for the same cause, or its first fault, or that there is none.
What is reported about the loading goes to the log. -/
structure TellsCheck (machine : Machine) (filter : LogFilter) (asked : Option String)
    (loaded : Except LoadFault (Manifest × List Notice)) (ending : Ending) : Prop where
  notLoaded : ∀ fault, loaded = .error fault →
    ending = .failed machine.files checkStart
      ⟨"Failed to load configuration", [LoadFault.message { asked, cause := fault.cause }]⟩
  refused : ∀ manifest notices fault, loaded = .ok (manifest, notices) →
    manifest.check = .error fault →
      ending = .failed machine.files checkStart
        ⟨"Configuration validation failed", [fault.message]⟩ (loggedNotices filter asked notices)
  passed : ∀ manifest notices, loaded = .ok (manifest, notices) → manifest.check = .ok () →
    ending = .shown machine.files
      (checkStart ++ [(Appearance.ofMachine machine).styledAs .success "✓ Configuration is valid"])
      (loggedNotices filter asked notices)

section Checks

variable {machine : Machine} {filter : LogFilter} {asked : Option String}

theorem validateConfig_of_error {fault : LoadFault}
    (h : Manifest.load machine asked = .error fault) :
    validateConfig filter machine asked =
      .failed machine.files checkStart ⟨"Failed to load configuration", [fault.message]⟩ := by
  simp only [validateConfig, loadedManifest, h]
  rfl

/-- The command tells of the manifest that it loads. -/
theorem tellsCheck_of_load {loaded : Except LoadFault (Manifest × List Notice)}
    (herror : ∀ fault, loaded = .error fault →
      Manifest.load machine asked = .error { asked, cause := fault.cause })
    (hok : ∀ manifest notices, loaded = .ok (manifest, notices) →
      ∃ reported, Manifest.load machine asked = .ok (manifest, reported) ∧
        (reported.map .notice).filter filter = loggedNotices filter asked notices) :
    TellsCheck machine filter asked loaded (validateConfig filter machine asked) where
  notLoaded fault hload := validateConfig_of_error (herror fault hload)
  refused manifest notices fault hload hcheck := by
    obtain ⟨reported, hasked, hlogged⟩ := hok manifest notices hload
    rw [← hlogged]
    simp only [validateConfig, loadedManifest, hasked, checkedManifest, hcheck]
    rfl
  passed manifest notices hload hcheck := by
    obtain ⟨reported, hasked, hlogged⟩ := hok manifest notices hload
    rw [← hlogged]
    simp only [validateConfig, loadedManifest, hasked, checkedManifest, hcheck]
    rfl

/-- A manifest is loaded by finding it; the overrides come last. -/
theorem load_eq_map (machine : Machine) (asked : Option String) :
    Manifest.load machine asked = (Manifest.find machine asked).map fun found =>
      (found.1.override machine.env, found.2 :: Manifest.overrideNotices machine.env) := by
  rw [Manifest.load]
  cases Manifest.find machine asked <;> rfl

/-- A fault tells which file was asked for. -/
theorem asked_of_load_error {fault : LoadFault} (h : Manifest.load machine asked = .error fault) :
    fault.asked = asked := by
  rw [load_eq_map] at h
  cases hfind : Manifest.find machine asked with
  | ok found =>
    rw [hfind] at h
    cases h
  | error other =>
    rw [hfind] at h
    cases h
    unfold Manifest.find at hfind
    split at hfind
    · split at hfind <;> cases hfind
      rfl
    · split at hfind
      · split at hfind <;> cases hfind
        rfl
      · cases hfind

/-- Without a file that is asked for, the command tells of the manifest that is found. -/
theorem tellsCheck_none (machine : Machine) (filter : LogFilter) :
    TellsCheck machine filter none (Manifest.load machine none)
      (validateConfig filter machine none) :=
  tellsCheck_of_load
    (fun fault hload => by
      have hasked := asked_of_load_error hload
      rw [hload, ← hasked])
    fun manifest notices hload => ⟨notices, hload, rfl⟩

/-- A manifest that is asked for is loaded like one that is found at the same place: only what is
reported about the place differs. -/
theorem tellsCheck_some {path : String} (hplace : machine.discover = some path) :
    TellsCheck machine filter (some path) (Manifest.load machine none)
      (validateConfig filter machine (some path)) := by
  rw [load_eq_map, Manifest.find_none hplace]
  have hasked := load_eq_map machine (some path)
  rw [Manifest.find_some] at hasked
  cases hread : Manifest.ofFile machine.files path with
  | error cause =>
    rw [hread] at hasked
    refine tellsCheck_of_load (fun fault hload => ?_) fun manifest notices hload => ?_
    · cases hload
      exact hasked
    · cases hload
  | ok manifest =>
    rw [hread] at hasked
    refine tellsCheck_of_load (fun fault hload => ?_) fun manifest notices hload => ?_
    · cases hload
    · cases hload
      exact ⟨_, hasked, rfl⟩

end Checks

/-- A path to nothing cannot be read. -/
theorem exists_read_error {files : FileTree} {path : String} (h : files.exists? path = false) :
    ∃ fault, files.read path = .error fault := by
  rw [FileTree.exists?] at h
  rw [FileTree.read]
  cases hplace : files.place path with
  | error fault => exact ⟨fault, rfl⟩
  | ok place =>
    rw [hplace] at h
    cases place with
    | directory | file => cases h
    | free names => exact ⟨.notFound, rfl⟩

section Runs

variable {m : Type → Type} [Monad m]

theorem run_of_read {machine : Machine} {words : List String} {invocation : Invocation}
    (h : Invocation.read (withEnvFile machine).env words = .ok invocation) (outside : Outside m) :
    run outside machine words = invocation.run outside (withEnvFile machine) := by
  simp only [run, h]

theorem run_of_stop {machine : Machine} {words : List String} {stop : Stop}
    (h : Invocation.read (withEnvFile machine).env words = .error stop) (outside : Outside m) :
    run outside machine words =
      pure (.stopped (Appearance.ofMachine (withEnvFile machine)) (withEnvFile machine).files
        stop) := by
  simp only [run, h]

theorem filter_of_logLevel {invocation : Invocation} {env : Environment}
    (h : invocation.logLevel = (env.get? "PDP_LOG_LEVEL").getD defaultLogLevel)
    (read : LogFilter.Reader) :
    invocation.filter read env =
      (standInFilter read env).mapError (⟨"Failed to create log filter", ·⟩) := by
  rw [Invocation.filter, h, standInFilter]

section Taken

variable {machine : Machine} {outside : Outside m}
  (hport : ∀ text, (withEnvFile machine).env.get? "PDP_PORT" = some text →
    ∃ port, readPort text = .ok port)
include hport

/-- With a filter for the log, the command checks the manifest that the variable names. -/
theorem run_config_validate (hpath : (withEnvFile machine).env.get? "PDP_CONFIG_PATH" ≠ some "")
    {filter : LogFilter}
    (hfilter : standInFilter outside.readFilter (withEnvFile machine).env = .ok filter) :
    run outside machine ["config", "validate"] =
      pure (validateConfig filter (withEnvFile machine)
        ((withEnvFile machine).env.get? "PDP_CONFIG_PATH")) := by
  obtain ⟨invocation, hread, hcommand, hconfig, hlevel⟩ := Invocation.read_validate hpath hport
  rw [run_of_read hread]
  simp only [Invocation.run, filter_of_logLevel hlevel, hfilter, Except.mapError,
    Invocation.perform, hcommand, hconfig]
  rfl

/-- Without a filter for the log, the command does nothing else. -/
theorem run_of_no_filter (hpath : (withEnvFile machine).env.get? "PDP_CONFIG_PATH" ≠ some "")
    {causes : List String}
    (hfilter : standInFilter outside.readFilter (withEnvFile machine).env = .error causes) :
    run outside machine ["config", "validate"] =
      pure (.failed (withEnvFile machine).files []
        ⟨"Failed to create log filter", causes⟩) := by
  obtain ⟨invocation, hread, hcommand, -, hlevel⟩ := Invocation.read_validate hpath hport
  rw [run_of_read hread]
  simp only [Invocation.run, filter_of_logLevel hlevel, hfilter, Except.mapError, hcommand]

/-- A path to nothing is a file that was asked for and cannot be read. -/
theorem run_of_missing {path : String} {filter : LogFilter}
    (hfilter : standInFilter outside.readFilter (withEnvFile machine).env = .ok filter)
    (hvalue : (withEnvFile machine).env.get? "PDP_CONFIG_PATH" = some path) (hne : path ≠ "")
    (hmissing : (withEnvFile machine).files.exists? path = false) :
    ∃ fault, (withEnvFile machine).files.read path = .error fault ∧
      run outside machine ["config", "validate"] =
        pure (.failed (withEnvFile machine).files checkStart
          ⟨"Failed to load configuration",
            [LoadFault.message { asked := some path, cause := .file fault }]⟩) := by
  have hpath : (withEnvFile machine).env.get? "PDP_CONFIG_PATH" ≠ some "" := by
    rw [hvalue]
    simpa using hne
  obtain ⟨fault, hread⟩ := exists_read_error hmissing
  refine ⟨fault, hread, (run_config_validate hport hpath hfilter).trans ?_⟩
  have hload : Manifest.load (withEnvFile machine) (some path) =
      .error { asked := some path, cause := .file fault } := by
    rw [Manifest.load, Manifest.find_some, Manifest.ofFile, hread]
    rfl
  rw [hvalue]
  exact congrArg pure (validateConfig_of_error hload)

end Taken

/-- **Checking the configuration.** The machine has the variables that the nearest file of variables
sets. If the variable for the file of the manifest is not set, or names something that is there, the
variable for the port is not set, or has a value that is taken, and there is a filter for the log,
the command tells of the manifest that is found without a file being asked for: that it cannot be
loaded exactly if this one cannot, and otherwise its first fault, or that there is none. A file that
is not there is a fault, whatever manifest would be found without the variable; so is a variable
without a path, a value that is not taken for a port, and a level that is no filter, unless the
variable for the filter has one. All numbers of ports are taken. -/
theorem config_validate_exact (outside : Outside m) (machine : Machine) :
    let seen := withEnvFile machine
    let asked := seen.env.get? "PDP_CONFIG_PATH"
    let filter? := standInFilter outside.readFilter seen.env
    let ran := run outside machine ["config", "validate"]
    let stopped (fault : UsageFault) : m Ending :=
      pure (.stopped (Appearance.ofMachine seen) seen.files (.fault fault))
    let isTaken := ∀ text, seen.env.get? "PDP_PORT" = some text → ∃ port, readPort text = .ok port
    (∀ filter, filter? = .ok filter →
        (∀ path, asked = some path → seen.files.exists? path = true) → isTaken →
          ∃ ending, ran = pure ending ∧
            TellsCheck seen filter asked (Manifest.load seen none) ending) ∧
      (∀ filter path, filter? = .ok filter → asked = some path → path ≠ "" →
        seen.files.exists? path = false → isTaken →
          ∃ fault, seen.files.read path = .error fault ∧
            ran = pure (.failed seen.files checkStart
              ⟨"Failed to load configuration",
                [LoadFault.message { asked := some path, cause := .file fault }]⟩)) ∧
      (∀ causes, filter? = .error causes → asked ≠ some "" → isTaken →
        ran = pure (.failed seen.files [] ⟨"Failed to create log filter", causes⟩)) ∧
      (asked = some "" → ran = stopped (.invalidValue configOption "" .empty)) ∧
      (∀ text fault, asked ≠ some "" → seen.env.get? "PDP_PORT" = some text →
        readPort text = .error fault → ran = stopped (.invalidValue portOption text fault)) ∧
      ∀ text port, IsPort text port → readPort text = .ok port := by
  intro seen asked filter? ran stopped isTaken
  refine ⟨fun filter hfilter hexists hport => ?_,
    fun filter path hfilter hvalue hne hmissing hport => ?_,
    fun causes hfilter hpath hport => ?_, fun hvalue => ?_,
    fun text fault hpath hvalue hread => ?_, fun text port => IsPort.readPort_eq⟩
  · have hpath : asked ≠ some "" := fun hvalue => by
      have hempty := hexists "" hvalue
      cases hempty
    refine ⟨_, run_config_validate hport hpath hfilter, ?_⟩
    cases hvalue : seen.env.get? "PDP_CONFIG_PATH" with
    | none =>
      simp only [asked, hvalue]
      exact tellsCheck_none seen filter
    | some path =>
      simp only [asked, hvalue]
      refine tellsCheck_some ?_
      -- The variable names the first of the usual places.
      simp only [Machine.discover, Machine.usualPlaces, hvalue, Option.toList_some,
        List.cons_append, List.find?_cons, hexists path hvalue]
  · exact run_of_missing hport hfilter hvalue hne hmissing
  · exact run_of_no_filter hport hpath hfilter
  · exact run_of_stop (Invocation.read_validate_of_empty hvalue) outside
  · exact run_of_stop (Invocation.read_validate_of_port hpath hvalue hread) outside

end Runs

/-- Without a variable for the filter, the level is read. -/
theorem standInFilter_of_unset (read : LogFilter.Reader) (env : Environment)
    (level : Option String) (hfilter : env.get? LogFilter.variableName = none)
    (hlevel : env.get? "PDP_LOG_LEVEL" = level) :
    standInFilter read env = read (level.getD defaultLogLevel) := by
  simp only [standInFilter, LogFilter.chosen, hfilter, hlevel]
  rfl

/-- A manifest that the variable names, where a file one directory up sets the port; a path that the
variable names to nothing; and a level that is no filter. -/
theorem config_validate_exact_registry :
    let files : FileTree := {
      directory := ["srv", "app"]
      files := [(["srv", ".env"], some "PDP_PORT=+0080\n"),
        (["srv", "app", "m.yaml"],
          some "apiVersion: x\nkind: PdpConfig\nmetadata:\n  name: registry\n")] }
    let seen (env : Environment) : Machine := { files, env := env ++ [("PDP_PORT", "+0080")] }
    let ran (env : Environment) := run (m := Id) .offline { files, env } ["config", "validate"]
    let named (path : String) : Environment := [("PDP_CONFIG_PATH", path)]
    let unread : Environment := [("PDP_LOG_LEVEL", "!")]
    IsPort "+0080" 80 ∧
      standInFilter LogFilter.ofLevel (seen (named "m.yaml")).env = .ok (fun _ => true) ∧
      (∃ ending, ran (named "m.yaml") = pure ending ∧
        TellsCheck (seen (named "m.yaml")) (fun _ => true) (some "m.yaml")
          (Manifest.load (seen (named "m.yaml")) none) ending) ∧
      (∃ fault, files.read "n.yaml" = .error fault ∧
        ran (named "n.yaml") = pure (.failed files checkStart ⟨"Failed to load configuration",
          [LoadFault.message { asked := some "n.yaml", cause := .file fault }]⟩)) ∧
      standInFilter LogFilter.ofLevel (seen unread).env = .error ["invalid filter directive"] ∧
      ran unread =
        pure (.failed files [] ⟨"Failed to create log filter", ["invalid filter directive"]⟩) := by
  intro files seen ran named unread
  have hport : IsPort "+0080" 80 := portOf?_eq_some_iff.1 (by decide +kernel)
  have hseen : ∀ env ∈ [named "m.yaml", named "n.yaml", unread],
      withEnvFile { files, env } = seen env := fun env henv => by
    have hfound : EnvFile.find? files = some "PDP_PORT=+0080\n" := by decide +kernel
    have hset : ∀ env ∈ [named "m.yaml", named "n.yaml", unread],
        Environment.withFile env "PDP_PORT=+0080\n" = env ++ [("PDP_PORT", "+0080")] := by
      decide +kernel
    simp only [withEnvFile, hfound, hset env henv, seen]
  have htaken : ∀ env ∈ [named "m.yaml", named "n.yaml", unread], ∀ text,
      (seen env).env.get? "PDP_PORT" = some text → ∃ port, readPort text = .ok port := by
    intro env henv text hvalue
    have htext : ∀ env ∈ [named "m.yaml", named "n.yaml", unread],
        (seen env).env.get? "PDP_PORT" = some "+0080" := by decide +kernel
    rw [htext env henv, Option.some.injEq] at hvalue
    subst hvalue
    exact ⟨80, hport.readPort_eq⟩
  have hinfo : ∀ path, path = "m.yaml" ∨ path = "n.yaml" →
      standInFilter LogFilter.ofLevel (seen (named path)).env = .ok fun _ => true := by
    rintro path (rfl | rfl) <;>
      exact standInFilter_of_unset _ _ none (by decide +kernel) (by decide +kernel)
  have hnone : standInFilter LogFilter.ofLevel (seen unread).env =
      .error ["invalid filter directive"] :=
    standInFilter_of_unset _ _ (some "!") (by decide +kernel) (by decide +kernel)
  obtain ⟨hfound, -⟩ :=
    config_validate_exact (m := Id) .offline { files, env := named "m.yaml" }
  obtain ⟨-, hmissing, -⟩ :=
    config_validate_exact (m := Id) .offline { files, env := named "n.yaml" }
  obtain ⟨-, -, hunread, -⟩ := config_validate_exact (m := Id) .offline { files, env := unread }
  rw [hseen _ (by decide)] at hfound hmissing hunread
  have hpath : (seen (named "m.yaml")).env.get? "PDP_CONFIG_PATH" = some "m.yaml" := by
    decide +kernel
  rw [hpath] at hfound
  refine ⟨hport, hinfo _ (.inl rfl), hfound _ (hinfo _ (.inl rfl)) (fun path hvalue => ?_)
    (htaken _ (by decide)), hmissing _ "n.yaml" (hinfo _ (.inr rfl)) (by decide +kernel)
    (by decide) (by decide +kernel) (htaken _ (by decide)), hnone,
    hunread _ hnone (by decide +kernel) (htaken _ (by decide))⟩
  cases hvalue
  decide +kernel

/-- The manifest that is found is not always the one that is checked: a variable that names a path
to nothing, or that is no port, ends the check where the manifest can be loaded and has no fault. -/
theorem not_config_validate_found :
    let checked (machine : Machine) := ∃ ending filter asked,
      run (m := Id) .offline machine ["config", "validate"] = pure ending ∧
        TellsCheck (withEnvFile machine) filter asked (Manifest.load (withEnvFile machine) none)
          ending
    let files : FileTree := .ofList "/srv" []
    ¬checked { files, env := [("PDP_CONFIG_PATH", "missing.yaml")] } ∧
      ¬checked { files, env := [("PDP_PORT", "http")] } := by
  intro checked files
  have hseen : ∀ env, withEnvFile { files, env } = { files, env } := fun env => by
    have hnone : EnvFile.find? files = none := by decide +kernel
    simp only [withEnvFile, hnone]
  have hload : ∀ env : Environment, Machine.discover { files, env } = none →
      Manifest.load { files, env } none =
        .ok ((Manifest.standard "pdp").override env,
          .defaults :: Manifest.overrideNotices env) := by
    intro env hplace
    simp only [Manifest.load, Manifest.find, hplace]
    rfl
  refine ⟨?_, ?_⟩ <;> rintro ⟨ending, filter, asked, hrun, htells⟩ <;> rw [hseen] at htells
  · have hpassed := htells.passed _ _ (hload _ (by decide +kernel)) (by decide +kernel)
    let machine : Machine := { files, env := [("PDP_CONFIG_PATH", "missing.yaml")] }
    have hvalue : (withEnvFile machine).env.get? "PDP_CONFIG_PATH" = some "missing.yaml" := by
      decide +kernel
    have hunset : (withEnvFile machine).env.get? "PDP_PORT" = none := by decide +kernel
    have hport : ∀ text, (withEnvFile machine).env.get? "PDP_PORT" = some text →
        ∃ port, readPort text = .ok port := by
      intro text hvalue
      rw [hunset] at hvalue
      cases hvalue
    have hfilter : standInFilter (Outside.offline (m := Id)).readFilter (withEnvFile machine).env =
        .ok fun _ => true := standInFilter_of_unset _ _ none (by decide +kernel) (by decide +kernel)
    obtain ⟨fault, -, hfailed⟩ := run_of_missing hport hfilter hvalue (by decide)
      (by decide +kernel)
    have hcode := congrArg Ending.code (hfailed.symm.trans hrun)
    rw [hpassed] at hcode
    cases hcode
  · have hpassed := htells.passed _ _ (hload _ (by decide +kernel)) (by decide +kernel)
    let machine : Machine := { files, env := [("PDP_PORT", "http")] }
    have hpath : (withEnvFile machine).env.get? "PDP_CONFIG_PATH" ≠ some "" := by decide +kernel
    have hvalue : (withEnvFile machine).env.get? "PDP_PORT" = some "http" := by decide +kernel
    have hstopped : run (m := Id) .offline machine ["config", "validate"] = _ :=
      run_of_stop (Invocation.read_validate_of_port hpath hvalue rfl) .offline
    have hcode := congrArg Ending.code (hstopped.symm.trans hrun)
    rw [hpassed] at hcode
    cases hcode

end CommandLine

end FieldAccess
