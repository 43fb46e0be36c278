import FieldAccess.Manifest.Basic
import FieldAccess.Text.Quoted
import FieldAccess.Text.Trim
import FieldAccess.Text.Classes

/-!
# Environment variables

Some settings of a manifest can be overridden by environment variables. Every variable that is set
gives rise to a notice. A port that is no port number is not taken over.

## Main definitions

* `Environment` – the variables that are set.
* `Notice` – what is reported while a manifest is loaded.
* `OverrideVariable` – the variables that override settings.
* `Manifest.override` – the manifest with the overrides of an environment.
-/

namespace FieldAccess

/-- The environment variables that are set. -/
abbrev Environment := List (String × String)

/-- The value of a variable. A variable and its value are kept as one text with an equals sign
between them, and a name may reach into the value: it has to be followed by some equals sign. -/
def Environment.get? (env : Environment) (name : String) : Option String :=
  env.findSome? fun (key, value) =>
    (Text.afterPrefix? (name ++ "=").toList (key ++ "=" ++ value).toList).map String.ofList

/-- How important a notice is. -/
inductive NoticeLevel where
  | info
  | warn
  deriving Repr, DecidableEq

/-- The spelling of a level. -/
def NoticeLevel.name : NoticeLevel → String
  | info => "info"
  | warn => "warn"

/-- What is reported while a manifest is loaded. -/
inductive Notice where
  /-- The manifest is read from a file that was asked for. -/
  | explicitPath (path : String)
  /-- The manifest is read from a file that was found. -/
  | discoveredPath (path : String)
  /-- No file was found. -/
  | defaults
  /-- A variable overrides a setting. -/
  | overridden (name value : String)
  /-- A variable with a secret value overrides a setting. -/
  | overriddenSecretly (name : String)
  /-- The value of a variable is not understood. -/
  | ignored (name value : String)
  deriving Repr, DecidableEq

namespace Notice

/-- The importance of a notice. -/
def level : Notice → NoticeLevel
  | defaults | ignored _ _ => .warn
  | _ => .info

/-- The wording of a notice. -/
def message : Notice → String
  | explicitPath path => "Loading configuration from explicit path: " ++ Text.quoted path
  | discoveredPath path => "Loading configuration from discovered path: " ++ Text.quoted path
  | defaults => "No configuration file found in standard locations. Using defaults."
  | overridden name value => s!"Environment override: {name}={value}"
  | overriddenSecretly name => s!"Environment override: {name}=<redacted>"
  | ignored name value => s!"Invalid value for {name}: '{value}'. Ignoring."

end Notice

/-- The port that a text names: digits, after a plus sign if there is one. -/
def portOf? (text : String) : Option UInt16 :=
  let digits := match text.toList with
    | '+' :: rest => rest
    | digits => digits
  let value := digits.foldl (fun n d => n * 10 + (d.toNat - '0'.toNat)) 0
  if !digits.isEmpty && digits.all Text.isDigit && value < 65536 then some value.toUInt16 else none

/-- The variables that override settings. -/
inductive OverrideVariable where
  | databaseHost
  | databasePort
  | databaseUsername
  | databasePassword
  | databaseName
  | databaseSslMode
  | auditServiceUrl
  | serverPort
  deriving Repr, DecidableEq

namespace OverrideVariable

/-- The variables in the order in which they are looked at. -/
def all : List OverrideVariable :=
  [databaseHost, databasePort, databaseUsername, databasePassword, databaseName, databaseSslMode,
    auditServiceUrl, serverPort]

/-- The name of a variable. -/
def name : OverrideVariable → String
  | databaseHost => "PDP_DATABASE_HOST"
  | databasePort => "PDP_DATABASE_PORT"
  | databaseUsername => "PDP_DATABASE_USERNAME"
  | databasePassword => "PDP_DATABASE_PASSWORD"
  | databaseName => "PDP_DATABASE_NAME"
  | databaseSslMode => "PDP_DATABASE_SSLMODE"
  | auditServiceUrl => "PDP_AUDIT_SERVICE_URL"
  | serverPort => "PDP_PORT"

/-- The settings with the value of a variable. -/
def set (spec : Spec) (value : String) : OverrideVariable → Spec
  | databaseHost => { spec with database.host := value }
  | databasePort =>
    match portOf? value with
    | some port => { spec with database.port := port }
    | none => spec
  | databaseUsername => { spec with database.username := value }
  | databasePassword => { spec with database.password := some value }
  | databaseName => { spec with database.database := value }
  | databaseSslMode => { spec with database.sslMode := value }
  | auditServiceUrl =>
    let endpoint := if Text.isBlankText value then none else some value
    { spec with audit := some { spec.audit.getD {} with endpoint } }
  | serverPort =>
    match portOf? value with
    | some port => { spec with server.port := port }
    | none => spec

/-- What is reported about a variable whose value names a port. -/
def portNotice (entry : OverrideVariable) (value : String) : Notice :=
  match portOf? value with
  | some port => .overridden entry.name (toString port)
  | none => .ignored entry.name value

/-- What is reported about a variable that is set. -/
def notice (entry : OverrideVariable) (value : String) : Notice :=
  match entry with
  | databasePort | serverPort => entry.portNotice value
  | databasePassword => .overriddenSecretly entry.name
  | _ => .overridden entry.name value

/-- The settings with the value that a variable has in an environment, if it has one. -/
def apply (env : Environment) (spec : Spec) (entry : OverrideVariable) : Spec :=
  match env.get? entry.name with
  | some value => entry.set spec value
  | none => spec

/-- What is reported about a variable in an environment. -/
def notice? (env : Environment) (entry : OverrideVariable) : Option Notice :=
  (env.get? entry.name).map entry.notice

end OverrideVariable

namespace Manifest

/-- The manifest with the overrides of an environment. -/
def override (manifest : Manifest) (env : Environment) : Manifest :=
  { manifest with spec := OverrideVariable.all.foldl (OverrideVariable.apply env) manifest.spec }

/-- What is reported about the overrides of an environment. -/
def overrideNotices (env : Environment) : List Notice :=
  OverrideVariable.all.filterMap (OverrideVariable.notice? env)

end Manifest

end FieldAccess
