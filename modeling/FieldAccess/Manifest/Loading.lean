import FieldAccess.Files.Tree
import FieldAccess.Manifest.Environment
import FieldAccess.Wire.Manifest
import FieldAccess.Yaml.Source
import FieldAccess.Yaml.Writer

/-!
# Loading manifests

A manifest is read from the file that is asked for, or from the first one that is found in the
usual places; without a file, the standard manifest is used. The overrides of the environment come
last.

## Main definitions

* `Machine` – what the manifest of an instance depends on.
* `Machine.discover` – the file that is used when none is asked for.
* `Manifest.load` – the manifest of an instance, with what is reported about it.
* `Manifest.toYaml`, `Manifest.ofYaml` – manifests as texts.
* `Manifest.toFile`, `Manifest.ofFile` – manifests in files.
-/

namespace FieldAccess

/-- What the manifest of an instance depends on, and where its commands are shown. -/
structure Machine where
  files : FileTree
  env : Environment := []
  /-- The directory of the user, as the accounts of the machine have it. -/
  accountHome : Option String := none
  hostName : String := "pdp"
  /-- Whether what is shown is seen on a terminal. -/
  isTerminal : Bool := false

/-- The directory of the user. The variable counts before the account. -/
def Machine.home? (machine : Machine) : Option String :=
  ((machine.env.get? "HOME").filter (!·.isEmpty)) <|> machine.accountHome.filter (!·.isEmpty)

/-- A path inside a directory. -/
def inside (directory path : String) : String :=
  if directory.endsWith "/" then directory ++ path else directory ++ "/" ++ path

/-- The places where a manifest can be, those that count first. -/
def Machine.usualPlaces (machine : Machine) : List String :=
  (machine.env.get? "PDP_CONFIG_PATH").toList ++
    ["./pdp-config.yaml"] ++
    (machine.home?.map fun home => inside home ".pdp/config.yaml").toList ++
    ["/etc/pdp/config.yaml"]

/-- The file that is used when none is asked for. -/
def Machine.discover (machine : Machine) : Option String :=
  machine.usualPlaces.find? machine.files.exists?

/-- Why a manifest cannot be read. -/
inductive LoadCause where
  | file (fault : FileFault)
  | text (fault : Format.Fault)
  deriving Repr, DecidableEq

/-- The wording of a cause. -/
def LoadCause.message : LoadCause → String
  | file fault => fault.message
  | text fault => fault.located

/-- Why a manifest cannot be loaded. -/
structure LoadFault where
  /-- The file that was asked for; a file that was found is not named. -/
  asked : Option String
  cause : LoadCause
  deriving Repr, DecidableEq

/-- The wording of a fault. -/
def LoadFault.message (fault : LoadFault) : String :=
  match fault.asked with
  | some path => s!"Failed to load config at {Text.quoted path}: {fault.cause.message}"
  | none => fault.cause.message

namespace Manifest

/-- The text of a manifest, with the labels in an order. -/
def toYaml (manifest : Manifest) (order : LabelOrder := .byName) : String :=
  Yaml.encode ((codec order).write manifest)

/-- The manifest that a text describes. -/
def ofYaml (text : String) : Format.Reading Manifest := Yaml.decode codec text

/-- The files after a manifest is written to one of them. -/
def toFile (manifest : Manifest) (files : FileTree) (path : String)
    (order : LabelOrder := .byName) : Except FileFault FileTree :=
  files.write path (manifest.toYaml order)

/-- The manifest in a file. -/
def ofFile (files : FileTree) (path : String) : Except LoadCause Manifest :=
  match files.read path with
  | .error fault => .error (.file fault)
  | .ok text => (ofYaml text).mapError .text

/-- The manifest before the overrides, with what is reported about where it comes from. -/
def find (machine : Machine) (asked : Option String) : Except LoadFault (Manifest × Notice) :=
  match asked with
  | some path =>
    match ofFile machine.files path with
    | .ok manifest => .ok (manifest, .explicitPath path)
    | .error cause => .error { asked, cause }
  | none =>
    match machine.discover with
    | some path =>
      match ofFile machine.files path with
      | .ok manifest => .ok (manifest, .discoveredPath path)
      | .error cause => .error { asked, cause }
    | none => .ok (standard machine.hostName, .defaults)

/-- The manifest of an instance, with what is reported about it. -/
def load (machine : Machine) (asked : Option String) :
    Except LoadFault (Manifest × List Notice) := do
  let (manifest, notice) ← find machine asked
  return (manifest.override machine.env, notice :: overrideNotices machine.env)

end Manifest

end FieldAccess
