import FieldAccess.CommandLine.Arguments

/-!
# Commands

The commands of the service and the command lines that give them.

## Main definitions

* `Command` – a command.
* `Invocation` – a command with the options that all commands have.
* `Invocation.read` – the invocation that a command line gives.
-/

namespace FieldAccess.CommandLine

/-- A schema document in a file, and what it is registered as. -/
structure SchemaFile where
  file : String
  schemaId : String
  providerId : String
  /-- The owners of fields, as a document. -/
  owners : Option String
  deriving Repr, DecidableEq

/-- A command. -/
inductive Command where
  | serve
  | update (dryRun : Bool) (databaseUrl : Option String)
  | showConfig (paths : Bool)
  | validateConfig (file : Option String)
  | generateConfig (output : String) (examples : Bool)
  | convertSchema (source : SchemaFile)
  | submitSchema (source : SchemaFile) (url : Option String)
  | decide (app : String) (fields : List FieldRef) (url : Option String) (json : Bool)
  deriving Repr, DecidableEq

/-! ### Options -/

def configOption : OptionSpec where
  name := "config"
  letter := some 'c'
  value := some (.path, "FILE")
  stand := some "PDP_CONFIG_PATH"

def portOption : OptionSpec where
  name := "port"
  value := some (.port, "PORT")
  stand := some "PDP_PORT"

def hostOption : OptionSpec where
  name := "host"
  value := some (.text, "HOST")
  stand := some "PDP_HOST"

def logLevelOption : OptionSpec where
  name := "log-level"
  value := some (.text, "LOG_LEVEL")
  stand := some "PDP_LOG_LEVEL"

def urlOption : OptionSpec where
  name := "url"
  value := some (.text, "URL")
  stand := some "PDP_URL"

def databaseUrlOption : OptionSpec where
  name := "database-url"
  value := some (.text, "DATABASE_URL")
  stand := some "PDP_DATABASE_URL"

def fileOption : OptionSpec where
  name := "file"
  letter := some 'f'
  value := some (.path, "FILE")

def outputOption : OptionSpec where
  name := "output"
  letter := some 'o'
  value := some (.path, "OUTPUT")

def fieldOption : OptionSpec where
  name := "field"
  value := some (.field, "SCHEMA:FIELD")
  repeatable := true

/-- An option whose value is any text. -/
def textOption (name placeholder : String) : OptionSpec where
  name
  value := some (.text, placeholder)

/-- An option without a value. -/
def switch (name : String) : OptionSpec where
  name

/-- The options that name a schema document. -/
def schemaFileOptions : List OptionSpec :=
  [fileOption, textOption "schema-id" "SCHEMA_ID", textOption "provider" "PROVIDER_ID",
    textOption "owners" "JSON"]

/-! ### Commands -/

/-- The text that an option gives, which must be there. -/
def Given.need (given : Given) (name : String) : Except UsageFault String :=
  match given.text? name with
  | some text => .ok text
  | none => .error (.missing ["--" ++ name])

/-- The schema document that options name. -/
def SchemaFile.ofGiven (given : Given) : Except UsageFault SchemaFile :=
  return {
    file := ← given.need "file"
    schemaId := ← given.need "schema-id"
    providerId := ← given.need "provider"
    owners := given.text? "owners" }

/-- The decision that options ask for. -/
def Command.decision (given : Given) : Except UsageFault Command := do
  let app ← given.need "app"
  match given.fields "field" with
  | [] => throw (.missing ["--field"])
  | fields => return .decide app fields (given.text? "url") (given.has "json")

/-- The file that is written when none is named. -/
def defaultOutput : String := "./pdp-config.yaml"

/-- The command lines that are understood. Without a command, none is carried out. -/
def grammar : Grammar (Option Command) where
  common := [configOption, portOption, hostOption, logLevelOption]
  levels := [
    { path := []
      meaning := fun _ => .ok none },
    { path := ["serve"]
      meaning := fun _ => .ok (some .serve) },
    { path := ["update"]
      options := [switch "dry-run", databaseUrlOption]
      meaning := fun given =>
        .ok (some (.update (given.has "dry-run") (given.text? databaseUrlOption.name))) },
    { path := ["config"]
      meaning := fun _ => .error (.noCommand ["config"]) },
    { path := ["config", "show"]
      options := [switch "paths"]
      meaning := fun given => .ok (some (.showConfig (given.has "paths"))) },
    { path := ["config", "validate"]
      argument := some { name := "FILE", value := some (.path, "FILE") }
      meaning := fun given => .ok (some (.validateConfig (given.text? "FILE"))) },
    { path := ["config", "generate"]
      options := [outputOption, switch "examples"]
      meaning := fun given =>
        .ok (some (.generateConfig ((given.text? "output").getD defaultOutput)
          (given.has "examples"))) },
    { path := ["schema"]
      meaning := fun _ => .error (.noCommand ["schema"]) },
    { path := ["schema", "convert"]
      options := schemaFileOptions
      meaning := fun given => return some (.convertSchema (← SchemaFile.ofGiven given)) },
    { path := ["schema", "submit"]
      options := schemaFileOptions ++ [urlOption]
      meaning := fun given =>
        return some (.submitSchema (← SchemaFile.ofGiven given) (given.text? "url")) },
    { path := ["decide"]
      options := [textOption "app" "APPLICATION_ID", fieldOption, urlOption, switch "json"]
      meaning := fun given => return some (← Command.decision given) }]

/-- A command with the options that all commands have. -/
structure Invocation where
  command : Option Command
  config : Option String := none
  port : Option UInt16 := none
  host : Option String := none
  logLevel : String
  deriving Repr, DecidableEq

/-- The level of the log when none is given. -/
def defaultLogLevel : String := "info"

/-- The invocation that a command line gives. -/
def Invocation.read (env : Environment) (words : List String) : Except Stop Invocation := do
  let (command, given) ← grammar.read env words
  return {
    command
    config := given.text? configOption.name
    port := given.port? portOption.name
    host := given.text? hostOption.name
    logLevel := (given.text? logLevelOption.name).getD defaultLogLevel }

/-- The address of a service on the given host and port. The host that stands for all addresses of
a machine stands for the machine itself. -/
def serviceUrl (host : Option String) (port : Option UInt16) : String :=
  let host := match host with
    | none | some "0.0.0.0" => "127.0.0.1"
    | some host => host
  s!"http://{host}:{port.getD 8080}"

end FieldAccess.CommandLine
