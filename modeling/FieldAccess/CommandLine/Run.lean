import FieldAccess.Audit.Delivery
import FieldAccess.CommandLine.Description
import FieldAccess.CommandLine.Ending
import FieldAccess.CommandLine.Sample
import FieldAccess.CommandLine.Style
import FieldAccess.Http.Client
import FieldAccess.Manifest.Check
import FieldAccess.Manifest.Connecting
import FieldAccess.Manifest.EnvFile
import FieldAccess.Manifest.Loading
import FieldAccess.Policy.Pool

/-!
# Carrying out commands

What each command does. All that lies outside of the machine is reached through `Outside`; the files
that a command writes are those of the ending. A filter for the log is read before a command is
carried out, except by the service, which logs in a format that its manifest tells.

## Main definitions

* `Outside` – what commands reach outside of the machine.
* `run` – how the command that a command line gives ends.
-/

namespace FieldAccess.CommandLine

open Format

/-- What commands reach outside of the machine. -/
structure Outside (m : Type → Type) where
  /-- Reads a filter for the log. -/
  readFilter : LogFilter.Reader := LogFilter.ofLevel
  send : Http.Transport m
  /-- Connects to a database and tells the versions of the changes that were made to it. -/
  connect : Connection → m (Except ConnectionFault (List Nat))
  /-- Makes changes to a database. -/
  migrate : Connection → List Migration → m (Except ConnectionFault Unit)

/-- A machine without a network. -/
def Outside.offline {m : Type → Type} [Pure m] : Outside m where
  send := Http.offline
  connect := fun _ => pure (.error .unreachable)
  migrate := fun _ _ => pure (.error .unreachable)

/-! ### Manifests -/

/-- The manifest that a command works with, and what is logged about it. -/
def loadedManifest (machine : Machine) (asked : Option String) :
    Except Failure (Manifest × List LogRecord) :=
  match Manifest.load machine asked with
  | .ok (manifest, notices) => .ok (manifest, notices.map .notice)
  | .error fault => .error ⟨"Failed to load configuration", [fault.message]⟩

/-- A manifest that the service can run with. -/
def checkedManifest (manifest : Manifest) : Except Failure Manifest :=
  match manifest.check with
  | .ok () => .ok manifest
  | .error fault => .error ⟨"Configuration validation failed", [fault.message]⟩

/-- Shows the manifest, and the places where manifests are looked for. -/
def showConfig (filter : LogFilter) (machine : Machine) (asked : Option String) (paths : Bool) :
    Ending :=
  let look := Appearance.ofMachine machine
  match loadedManifest machine asked with
  | .error failure => .failed machine.files [] failure
  | .ok (manifest, records) =>
    .shown machine.files
      ((if paths then placesDescription look asked machine.env else []) ++
        manifestDescription look manifest machine.env)
      (records.filter filter)

/-- Tells whether the service can run with the manifest. -/
def validateConfig (filter : LogFilter) (machine : Machine) (asked : Option String) : Ending :=
  let start := ["Validating configuration..."]
  match loadedManifest machine asked with
  | .error failure => .failed machine.files start failure
  | .ok (manifest, records) =>
    let logged := records.filter filter
    match checkedManifest manifest with
    | .error failure => .failed machine.files start failure logged
    | .ok _ =>
      let look := Appearance.ofMachine machine
      .shown machine.files (start ++ [look.styledAs .success "✓ Configuration is valid"]) logged

/-- Writes a sample of a manifest. -/
def generateConfig (machine : Machine) (output : String) (examples : Bool) : Ending :=
  match machine.files.write output (sampleManifest examples) with
  | .error fault =>
    .failed machine.files []
      ⟨s!"Failed to write config to {Text.quoted output}", [fault.message]⟩
  | .ok files =>
    let look := Appearance.ofMachine machine
    .shown files [look.styledAs .success s!"✓ Configuration generated: {output}"]

/-! ### Schemas -/

/-- The registration of the schema document in a file. -/
def SchemaFile.request (source : SchemaFile) (files : FileTree) :
    Except Failure RegisterSchema := do
  let sdl ← (files.read source.file).mapError fun fault =>
    ⟨s!"Failed to read SDL file {Text.quoted source.file}", [fault.message]⟩
  let fieldOwners ← match source.owners with
    | none => pure []
    | some owners =>
      (Json.decode (.table .text) owners).mapError fun fault =>
        ⟨"--owners must be a JSON object of field path to owner", [fault.message]⟩
  return { schemaId := source.schemaId, providerId := source.providerId, sdl, fieldOwners }

/-- What is logged about the document of a registration. It is looked at if no argument is blank. -/
def conversionRecords (request : RegisterSchema) : List LogRecord :=
  if [request.schemaId, request.providerId, request.sdl].any Text.isBlankText then []
  else (Schema.unreadTypes request.sdl).map .unreadType

/-- Converts a schema document without a service. -/
def convertSchema (filter : LogFilter) (machine : Machine) (source : SchemaFile) : Ending :=
  let files := machine.files
  let look := Appearance.ofMachine machine
  match source.request files with
  | .error failure => .failed files [] failure
  | .ok request =>
    let logged := (conversionRecords request).filter filter
    match request.convert with
    | .error error => .failed files [] ⟨error.message, []⟩ logged
    | .ok conversion =>
      { Ending.shown files
          [(ReplaceMetadata.codec.write ⟨request.schemaId, conversion.records⟩).indented]
          logged with
        errors := Ending.linesText (conversion.unresolved.map fun path =>
          look.styledAs .warning
            s!"warning: owner of {path} could not be resolved; stored as 'unknown'") }

variable {m : Type → Type} [Monad m]

/-- Registers a schema document with a service. -/
def submitSchema (outside : Outside m) (machine : Machine) (source : SchemaFile)
    (url : String) : m Ending := do
  let files := machine.files
  match source.request files with
  | .error failure => return .failed files [] failure
  | .ok request =>
    let client := Http.Client.ofUrl url
    match ← client.register outside.send request with
    | .error fault =>
      return .failed files [] ⟨"Failed to register schema with " ++ client.base, fault.chain⟩
    | .ok schema =>
      let look := Appearance.ofMachine machine
      return .shown files (registrationDescription look request.schemaId schema)

/-- Asks a service for a decision. -/
def decide (outside : Outside m) (machine : Machine) (request : DecideAccess) (url : String)
    (json : Bool) : m Ending := do
  let files := machine.files
  let client := Http.Client.ofUrl url
  match ← client.decide outside.send request with
  | .error fault =>
    return .failed files [] ⟨s!"Decision request to {client.base} failed", fault.chain⟩
  | .ok decision =>
    return .shown files
      (if json then [(Decision.codec.write decision).indented]
      else decisionDescription (Appearance.ofMachine machine) request.applicationId decision)

/-! ### Databases -/

/-- The connection to the database of a manifest. -/
def manifestConnection (settings : DatabaseSettings) (env : Environment) :
    Except Failure Connection :=
  (settings.connection env).mapError fun error =>
    ⟨error.message, (ConnectionFault.sslMode error).chain⟩

/-- Why a database is not reached. -/
def connectionFailure (fault : ConnectionFault) : Failure :=
  ⟨"Failed to connect to database", fault.chain⟩

/-- The database that is updated, with what is shown about it and what is logged about the
manifest. -/
def updatedDatabase (look : Appearance) (machine : Machine) (asked url : Option String) :
    List String × List LogRecord × Except Failure Connection :=
  match url with
  | some url => ([], [], (Connection.ofUrl url).mapError connectionFailure)
  | none =>
    match loadedManifest machine asked with
    | .error failure => ([], [], .error failure)
    | .ok (manifest, records) =>
      let settings := manifest.spec.database
      (["  " ++ look.styledAs .faint settings.redactedUrl], records,
        manifestConnection settings machine.env)

/-- The state of a database to which some changes are still to be made. -/
def migrationStatus (pending : List Migration) : String :=
  let total := Migration.all.length
  s!"Migration status: {total - pending.length} applied, {total} total available."

/-- Makes the pending changes to a database, or only tells of them. -/
def update (outside : Outside m) (filter : LogFilter) (machine : Machine)
    (asked url : Option String) (dryRun : Bool) : m Ending := do
  let look := Appearance.ofMachine machine
  let (about, records, connection) := updatedDatabase look machine asked url
  let logged := records.filter filter
  let start := [look.styledAs .title "PDP Update", "Connecting to database..."] ++ about
  match connection with
  | .error failure => return .failed machine.files start failure logged
  | .ok connection =>
    match ← outside.connect connection with
    | .error fault => return .failed machine.files start (connectionFailure fault) logged
    | .ok made =>
      let pending := Migration.pending made
      let start := start ++ [migrationStatus pending]
      if pending.isEmpty then
        return .shown machine.files
          (start ++ [look.styledAs .success "✓ Database is up to date."]) logged
      else if dryRun then
        return .shown machine.files (start ++ "Pending migrations found (Dry Run):" ::
          pending.map (fun migration => s!" - {migration.version} {migration.description}") ++
          ["Skipping application due to --dry-run"]) logged
      else
        let start := start ++ ["Applying pending migrations..."]
        match ← outside.migrate connection pending with
        | .error fault =>
          return .failed machine.files start ⟨"Failed to apply migrations", fault.chain⟩ logged
        | .ok () =>
          return .shown machine.files
            (start ++ [look.styledAs .success "✓ Database updated successfully."]) logged

/-! ### The service -/

/-- The manifest that the service runs with: the command line counts before the manifest. -/
def servedManifest (manifest : Manifest) (invocation : Invocation) : Manifest :=
  let server := manifest.spec.server
  { manifest with
    spec.server := {
      host := invocation.host.getD server.host
      port := invocation.port.getD server.port } }

/-- The service with a manifest whose store can be reached, unless its audit queue cannot be as long
as it should be. -/
def running (files : FileTree) (logged : List LogRecord) (manifest : Manifest) : Ending :=
  match Audit.Sink.open? manifest.spec.audit with
  | some _ => { files, logged, service := some manifest }
  | none =>
    { files, logged, code := 101, errors := "the audit queue cannot be as long as configured\n" }

/-- Starts the service with a manifest. -/
def start (outside : Outside m) (machine : Machine) (logged : List LogRecord)
    (manifest : Manifest) : m Ending := do
  let settings := manifest.spec.database
  match settings.backend with
  | .inMemory => return running machine.files logged manifest
  | .postgres =>
    match manifestConnection settings machine.env with
    | .error failure => return .failed machine.files [] failure logged
    | .ok connection =>
      match ← outside.connect connection with
      | .ok _ => return running machine.files logged manifest
      | .error fault =>
        return .failed machine.files []
          ⟨"Failed to connect to " ++ settings.redactedUrl, fault.chain⟩ logged

/-- Starts the service. The filter is looked at when the manifest is loaded. -/
def serve (outside : Outside m) (filter : Except Failure LogFilter) (machine : Machine)
    (invocation : Invocation) : m Ending :=
  match loadedManifest machine invocation.config with
  | .error failure => return .failed machine.files [] failure
  | .ok (manifest, records) =>
    match filter with
    | .error failure => return .failed machine.files [] failure
    | .ok filter =>
      let logged := records.filter filter
      match checkedManifest (servedManifest manifest invocation) with
      | .error failure => return .failed machine.files [] failure logged
      | .ok manifest => start outside machine logged manifest

/-! ### All commands -/

/-- The filter for the log of an invocation. -/
def Invocation.filter (read : LogFilter.Reader) (env : Environment) (invocation : Invocation) :
    Except Failure LogFilter :=
  (LogFilter.chosen read env invocation.logLevel).mapError (⟨"Failed to create log filter", ·⟩)

/-- Carries out a command with a filter for the log. -/
def Invocation.perform (outside : Outside m) (filter : LogFilter) (machine : Machine)
    (invocation : Invocation) : m Ending :=
  let config := invocation.config
  let url (asked : Option String) := asked.getD (serviceUrl invocation.host invocation.port)
  match invocation.command with
  | none =>
    let look := Appearance.ofMachine machine
    return {
      code := 1
      errors := look.styledAs .warning "No command specified. Use --help for usage." ++ "\n"
      files := machine.files }
  | some .serve => serve outside (.ok filter) machine invocation
  | some (.update dryRun databaseUrl) => update outside filter machine config databaseUrl dryRun
  | some (.showConfig paths) => return showConfig filter machine config paths
  | some (.validateConfig file) => return validateConfig filter machine (file <|> config)
  | some (.generateConfig output examples) => return generateConfig machine output examples
  | some (.convertSchema source) => return convertSchema filter machine source
  | some (.submitSchema source asked) => submitSchema outside machine source (url asked)
  | some (.decide app fields asked json) => decide outside machine ⟨app, fields⟩ (url asked) json

/-- Carries out a command. Without a filter for the log the service ends once its manifest is
loaded, and all other commands at once. -/
def Invocation.run (outside : Outside m) (machine : Machine) (invocation : Invocation) :
    m Ending :=
  match invocation.filter outside.readFilter machine.env, invocation.command with
  | .ok filter, _ => invocation.perform outside filter machine
  | .error failure, some .serve => serve outside (.error failure) machine invocation
  | .error failure, _ => return .failed machine.files [] failure

/-- The machine with the variables that a file in its directory or above it sets. -/
def withEnvFile (machine : Machine) : Machine :=
  match EnvFile.find? machine.files with
  | some text => { machine with env := machine.env.withFile text }
  | none => machine

/-- How the command that a command line gives ends. -/
def run (outside : Outside m) (machine : Machine) (words : List String) : m Ending :=
  let machine := withEnvFile machine
  match Invocation.read machine.env words with
  | .error stop => return .stopped (Appearance.ofMachine machine) machine.files stop
  | .ok invocation => invocation.run outside machine

end FieldAccess.CommandLine
