import FieldAccess.Manifest.Database
import FieldAccess.Net.Url

/-!
# Checking manifests

What a manifest must satisfy before the service starts with it. The settings of the database only
matter when policies are stored in it.

## Main definitions

* `ManifestFault` – what can be wrong with a manifest.
* `Manifest.check` – the first fault of a manifest.
-/

namespace FieldAccess

/-- What can be wrong with a manifest. -/
inductive ManifestFault where
  | apiVersion (found : String)
  | kind (found : String)
  | noName
  | noDatabaseHost
  | noDatabaseName
  | sslMode (found : String)
  | noConnections
  | moreMinThanMaxConnections
  | noQueue
  | noTimeout
  | endpoint (found : String) (fault : Net.AddressFault)
  | endpointScheme (found : String)
  | logFormat (found : String)
  deriving Repr, DecidableEq

namespace ManifestFault

/-- Texts in quotes and brackets. -/
def quotedList (texts : List String) : String :=
  "[" ++ ", ".intercalate (texts.map Text.quoted) ++ "]"

/-- The wording of a fault. -/
def message : ManifestFault → String
  | apiVersion found => s!"Invalid apiVersion: '{found}'. Must be '{Manifest.currentApiVersion}'"
  | kind found => s!"Invalid kind: '{found}'. Must be '{Manifest.expectedKind}'"
  | noName => "metadata.name cannot be empty"
  | noDatabaseHost => "spec.database.host cannot be empty"
  | noDatabaseName => "spec.database.database cannot be empty"
  | sslMode found =>
    s!"Invalid spec.database.ssl_mode: '{found}'. Expected one of " ++
      quotedList (SslMode.all.map SslMode.name)
  | noConnections => "spec.database.max_connections must be greater than zero"
  | moreMinThanMaxConnections => "spec.database.min_connections cannot exceed max_connections"
  | noQueue => "spec.audit.queue_capacity must be greater than zero"
  | noTimeout => "spec.audit.timeout_ms must be greater than zero"
  | endpoint found fault => s!"Invalid spec.audit.endpoint '{found}': {fault.message}"
  | endpointScheme found => "spec.audit.endpoint must use http or https: " ++ found
  | logFormat found => s!"Invalid spec.observability.log_format: '{found}'"

end ManifestFault

/-- What the settings of a database must satisfy. -/
def DatabaseSettings.check (settings : DatabaseSettings) : Except ManifestFault Unit := do
  if settings.backend = .postgres then
    if settings.host = "" then throw .noDatabaseHost
    if settings.database = "" then throw .noDatabaseName
    if !(SslMode.all.map SslMode.name).contains settings.sslMode then
      throw (.sslMode settings.sslMode)
    if settings.maxConnections = 0 then throw .noConnections
    if settings.maxConnections < settings.minConnections then throw .moreMinThanMaxConnections

/-- What the address of an audit service must satisfy. -/
def checkEndpoint (text : String) : Except ManifestFault Unit :=
  match Net.Url.read text.toList with
  | .error fault => .error (.endpoint text fault)
  | .ok url =>
    if url.scheme = "http" ∨ url.scheme = "https" then .ok () else .error (.endpointScheme text)

/-- What the settings of the audit must satisfy. -/
def AuditSettings.check (settings : AuditSettings) : Except ManifestFault Unit := do
  if settings.queueCapacity = 0 then throw .noQueue
  if settings.timeoutMs = 0 then throw .noTimeout
  match settings.endpoint with
  | some endpoint => checkEndpoint endpoint
  | none => pure ()

/-- The formats of the log. -/
def logFormats : List String := ["compact", "json"]

/-- What the settings of the log must satisfy. -/
def Observability.check (settings : Observability) : Except ManifestFault Unit :=
  if logFormats.contains settings.logFormat then .ok () else .error (.logFormat settings.logFormat)

namespace Manifest

/-- What a manifest must satisfy. -/
def check (manifest : Manifest) : Except ManifestFault Unit := do
  if manifest.apiVersion ≠ currentApiVersion then throw (.apiVersion manifest.apiVersion)
  if manifest.kind ≠ expectedKind then throw (.kind manifest.kind)
  if manifest.metadata.name = "" then throw .noName
  manifest.spec.database.check
  match manifest.spec.audit with
  | some settings => settings.check
  | none => pure ()
  match manifest.spec.observability with
  | some settings => settings.check
  | none => pure ()

end Manifest

end FieldAccess
