import FieldAccess.Audit.Delivery
import FieldAccess.CommandLine.Command
import FieldAccess.CommandLine.Style
import FieldAccess.Manifest.Database
import FieldAccess.Policy.Decision
import FieldAccess.Service.Request

/-!
# Descriptions

How manifests, registered schemas and decisions are described to the user of a command.

## Main definitions

* `Manifest.description` – the settings of a manifest.
* `placesDescription` – the places where manifests are looked for.
* `RegisteredSchema.description`, `Decision.description` – what a service answers.
-/

namespace FieldAccess.CommandLine

/-- What stands for a setting that is not there. -/
def notSet : String := "(not set)"

/-- The places where manifests are looked for. -/
def placesDescription (look : Appearance) (asked : Option String) (env : Environment) :
    List String := [
  look.styledAs .heading "Configuration discovery paths:",
  "  1. --config flag: " ++ asked.getD (look.styledAs .faint notSet),
  "  2. PDP_CONFIG_PATH: " ++
    look.styledAs .faint ((env.get? "PDP_CONFIG_PATH").getD notSet),
  "  3. ./pdp-config.yaml",
  "  4. ~/.pdp/config.yaml",
  "  5. /etc/pdp/config.yaml",
  ""]

/-- The settings of a database. The password is not shown. -/
def databaseDescription (settings : DatabaseSettings) (env : Environment) : List String :=
  match settings.backend with
  | .inMemory => ["  Backend: in_memory"]
  | .postgres => [
      "  Backend: postgres",
      "  URL: " ++ settings.redactedUrl,
      "  Password: " ++ if (settings.resolvePassword env).isSome then "(set)" else notSet,
      s!"  Pool: {settings.minConnections}..{settings.maxConnections} connections"]

/-- The settings of the audit. -/
def auditDescription (look : Appearance) (settings : Option AuditSettings) : List String :=
  match settings.bind fun settings => settings.endpoint.map (settings, ·) with
  | some (settings, endpoint) => [
      "  Endpoint: " ++ Audit.entryUrl endpoint,
      s!"  Timeout: {settings.timeoutMs}ms",
      s!"  Queue capacity: {settings.queueCapacity}"]
  | none => ["  Endpoint: " ++ look.styledAs .faint "(log only)"]

/-- The settings of a manifest. -/
def manifestDescription (look : Appearance) (manifest : Manifest) (env : Environment) :
    List String :=
  let server := manifest.spec.server
  let observability := manifest.spec.observability.getD {}
  let heading := look.styledAs .heading
  [heading "Current configuration:", "  Name: " ++ manifest.metadata.name, "",
    heading "Server:", s!"  Listen: {server.host}:{server.port}", "",
    heading "Policy Store:"] ++ databaseDescription manifest.spec.database env ++ ["",
    heading "Audit:"] ++ auditDescription look manifest.spec.audit ++ ["",
    heading "Observability:", "  Log format: " ++ observability.logFormat,
    "  Metrics: " ++ match observability.metricsPort with
      | some port => s!"0.0.0.0:{port}"
      | none => look.styledAs .faint "(disabled)",
    ""]

/-- A field of a registered schema. -/
def fieldDescription (look : Appearance) (field : Schema.ConvertedField) : String :=
  let consent :=
    if field.consentRequired then look.styledAs .warning "consent required" else "no consent"
  s!"  {field.fieldName} ({field.resolution.title}, {consent})"

/-- A registered schema. -/
def registrationDescription (look : Appearance) (schemaId : String) (schema : RegisteredSchema) :
    List String :=
  look.styledAs .success
      s!"✓ Registered {schema.records.length} fields for schema {schemaId}" ::
    schema.fields.map (fieldDescription look) ++
    if schema.unresolvedOwnerFields.isEmpty then []
    else [look.styledAs .warning
      ("Unresolved owners: " ++ ", ".intercalate schema.unresolvedOwnerFields)]

/-- A field that a decision tells of. -/
def decisionFieldDescription (field : DecisionField) : String :=
  let owner := match field.owner with
    | some owner => s!" (owner: {owner.identity})"
    | none => ""
  s!"    - {field.schemaId}:{field.fieldName}{owner}"

/-- A decision. -/
def decisionDescription (look : Appearance) (app : String) (decision : Decision) : List String :=
  let part (told : Bool) (style : Style) (title : String) (fields : List DecisionField) :=
    if told then ("  " ++ look.styledAs style title) :: fields.map decisionFieldDescription
    else []
  look.styledAs .heading ("Decision for " ++ app) ::
    part decision.appAuthorized .success "✓ authorized" [] ++
    part (!decision.appAuthorized) .refusal "✗ not authorized" decision.unauthorizedFields ++
    part decision.appAccessExpired .refusal "! access expired" decision.expiredFields ++
    part decision.appRequiresOwnerConsent .warning "! owner consent required"
      decision.consentRequiredFields

end FieldAccess.CommandLine
