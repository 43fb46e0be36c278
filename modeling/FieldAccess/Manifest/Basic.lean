import Std.Data.ExtTreeMap

/-!
# Manifests

A manifest configures one instance of the service: where it listens, where the policies are stored,
where audit entries are sent, and what is logged.

## Main definitions

* `Manifest` – a manifest, with the defaults of everything that it may leave out.
* `Manifest.standard` – the manifest of an instance that is not configured.
-/

namespace FieldAccess

/-- What a manifest says about the instance. -/
structure Metadata where
  name : String
  version : Option String := none
  labels : Option (Std.ExtTreeMap String String) := none
  deriving DecidableEq, Inhabited

/-- Where the service listens. -/
structure ServerSettings where
  host : String := "0.0.0.0"
  port : UInt16 := 8080
  deriving Repr, DecidableEq, Inhabited

/-- Where the policies are stored. -/
inductive Backend where
  | inMemory
  | postgres
  deriving Repr, DecidableEq, Inhabited

namespace Backend

/-- The spelling of a backend. -/
def name : Backend → String
  | inMemory => "in_memory"
  | postgres => "postgres"

/-- All backends. -/
def all : List Backend := [inMemory, postgres]

end Backend

/-- How the database is reached. -/
structure DatabaseSettings where
  backend : Backend := .postgres
  host : String := "localhost"
  port : UInt16 := 5432
  username : String := "postgres"
  /-- The password, or `env:` and the name of the variable that holds it. -/
  password : Option String := none
  database : String := "pdp"
  sslMode : String := "require"
  maxConnections : UInt32 := 25
  minConnections : UInt32 := 5
  acquireTimeoutSecs : UInt64 := 30
  idleTimeoutSecs : UInt64 := 1800
  maxLifetimeSecs : UInt64 := 3600
  deriving Repr, DecidableEq, Inhabited

/-- The database of a manifest that does not mention it. -/
def DatabaseSettings.standard : DatabaseSettings :=
  { password := some "env:PDP_DATABASE_PASSWORD" }

/-- Where audit entries are sent. -/
structure AuditSettings where
  /-- The address of the audit service; without it, events are only logged. -/
  endpoint : Option String := none
  timeoutMs : UInt64 := 5000
  queueCapacity : UInt64 := 1024
  serviceName : String := "policy-decision-point"
  deriving Repr, DecidableEq, Inhabited

/-- What is logged, and where measurements can be read. -/
structure Observability where
  logFormat : String := "compact"
  metricsPort : Option UInt16 := none
  deriving Repr, DecidableEq, Inhabited

/-- What a manifest configures. -/
structure Spec where
  server : ServerSettings := {}
  database : DatabaseSettings := .standard
  audit : Option AuditSettings := none
  observability : Option Observability := none
  deriving Repr, DecidableEq, Inhabited

/-- A manifest. -/
structure Manifest where
  apiVersion : String
  kind : String
  metadata : Metadata
  spec : Spec := {}
  deriving DecidableEq, Inhabited

namespace Manifest

/-- The version of the format. -/
def currentApiVersion : String := "pdp.opendif.io/v1"

/-- The kind of all manifests. -/
def expectedKind : String := "PdpConfig"

/-- The manifest of an instance on the machine `hostName` that is not configured. -/
def standard (hostName : String) : Manifest where
  apiVersion := currentApiVersion
  kind := expectedKind
  metadata := { name := hostName, version := some "1.0.0" }

end Manifest

end FieldAccess
