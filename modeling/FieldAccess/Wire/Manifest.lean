import FieldAccess.Format.Codec
import FieldAccess.Manifest.Basic

/-!
# Manifests in documents

How manifests are read from documents and written. A setting that is left out of a block that is
there has its own default, which for the password is none. The labels have no order of their own and
are written in any; without a word about it, in the order of their names.

## Main definitions

* `LabelOrder` – an order in which labels are written.
* `Metadata.Written` – what a document says about the instance, its labels in an order.
* `Manifest.codec` – manifests.
-/

namespace FieldAccess

open Format

/-- Ports. -/
def portCodec : Codec UInt16 :=
  (Codec.natural (Nat.pow 2 16 - 1) "u16").mapped Nat.toUInt16 UInt16.toNat

/-- Numbers of connections. -/
def connectionsCodec : Codec UInt32 :=
  (Codec.natural (Nat.pow 2 32 - 1) "u32").mapped Nat.toUInt32 UInt32.toNat

/-- Durations. -/
def durationCodec : Codec UInt64 :=
  (Codec.natural (Nat.pow 2 64 - 1) "u64").mapped Nat.toUInt64 UInt64.toNat

/-- Sizes. -/
def sizeCodec : Codec UInt64 :=
  (Codec.natural (Nat.pow 2 64 - 1) "usize").mapped Nat.toUInt64 UInt64.toNat

/-- An order in which labels are written: all of them, one after another. -/
structure LabelOrder where
  arrange : List (String × String) → List (String × String)
  perm : ∀ labels, (arrange labels).Perm labels

/-- The labels in the order of their names, in which the map lists them. -/
def LabelOrder.byName : LabelOrder where
  arrange labels := labels
  perm _ := .refl _

namespace Metadata

/-- What a document says about the instance. Its labels stand in an order. -/
structure Written where
  name : String
  version : Option String
  labels : Option (List (String × String))

namespace Written

/-- What is said about the instance, whatever the order of its labels. -/
def metadata (written : Written) : Metadata where
  name := written.name
  version := written.version
  labels := written.labels.map fun labels =>
    labels.foldl (fun map (name, value) => map.insert name value) ∅

/-- What documents say about the instance. -/
def codec : Codec Written :=
  .record "ManifestMetadata"
    (.cons (.required "name" .text) <|
     .cons (.optionalByName "version" .text) <|
     .cons (.optionalByName "labels" (.table .text)) .nil)
    (fun (name, version, labels, ()) => { name, version, labels })
    (fun m => (m.name, m.version, m.labels, ()))

end Written

/-- What a document says about the instance, with the labels in an order. -/
def written (order : LabelOrder) (metadata : Metadata) : Written where
  name := metadata.name
  version := metadata.version
  labels := metadata.labels.map fun labels => order.arrange labels.toList

end Metadata

/-- Where the service listens. -/
def ServerSettings.codec : Codec ServerSettings :=
  let default : ServerSettings := {}
  .record "ServerConfig"
    (.cons (.withDefault "host" .text default.host) <|
     .cons (.withDefault "port" portCodec default.port) .nil)
    (fun (host, port, ()) => { host, port })
    (fun s => (s.host, s.port, ()))

/-- Where the policies are stored. -/
def Backend.codec : Codec Backend := .choice Backend.all Backend.name

/-- How the database is reached. -/
def DatabaseSettings.codec : Codec DatabaseSettings :=
  let default : DatabaseSettings := {}
  .record "DatabaseConfig"
    (.cons (.withDefault "backend" Backend.codec default.backend) <|
     .cons (.withDefault "host" .text default.host) <|
     .cons (.withDefault "port" portCodec default.port) <|
     .cons (.withDefault "username" .text default.username) <|
     .cons (.optional "password" .text) <|
     .cons (.withDefault "database" .text default.database) <|
     .cons (.withDefault "ssl_mode" .text default.sslMode) <|
     .cons (.withDefault "max_connections" connectionsCodec default.maxConnections) <|
     .cons (.withDefault "min_connections" connectionsCodec default.minConnections) <|
     .cons (.withDefault "acquire_timeout_secs" durationCodec default.acquireTimeoutSecs) <|
     .cons (.withDefault "idle_timeout_secs" durationCodec default.idleTimeoutSecs) <|
     .cons (.withDefault "max_lifetime_secs" durationCodec default.maxLifetimeSecs) .nil)
    (fun (backend, host, port, username, password, database, sslMode, maxConnections,
        minConnections, acquireTimeoutSecs, idleTimeoutSecs, maxLifetimeSecs, ()) =>
      { backend, host, port, username, password, database, sslMode, maxConnections,
        minConnections, acquireTimeoutSecs, idleTimeoutSecs, maxLifetimeSecs })
    (fun s => (s.backend, s.host, s.port, s.username, s.password, s.database, s.sslMode,
      s.maxConnections, s.minConnections, s.acquireTimeoutSecs, s.idleTimeoutSecs,
      s.maxLifetimeSecs, ()))

/-- Where audit entries are sent. -/
def AuditSettings.codec : Codec AuditSettings :=
  let default : AuditSettings := {}
  .record "AuditConfig"
    (.cons (.optionalByName "endpoint" .text) <|
     .cons (.withDefault "timeout_ms" durationCodec default.timeoutMs) <|
     .cons (.withDefault "queue_capacity" sizeCodec default.queueCapacity) <|
     .cons (.withDefault "service_name" .text default.serviceName) .nil)
    (fun (endpoint, timeoutMs, queueCapacity, serviceName, ()) =>
      { endpoint, timeoutMs, queueCapacity, serviceName })
    (fun s => (s.endpoint, s.timeoutMs, s.queueCapacity, s.serviceName, ()))

/-- What is logged. -/
def Observability.codec : Codec Observability :=
  let default : Observability := {}
  .record "ObservabilityConfig"
    (.cons (.withDefault "log_format" .text default.logFormat) <|
     .cons (.optionalByName "metrics_port" portCodec) .nil)
    (fun (logFormat, metricsPort, ()) => { logFormat, metricsPort })
    (fun s => (s.logFormat, s.metricsPort, ()))

/-- What a manifest configures. -/
def Spec.codec : Codec Spec :=
  let default : Spec := {}
  .record "PdpConfigSpec"
    (.cons (.withDefault "server" ServerSettings.codec default.server) <|
     .cons (.withDefault "database" DatabaseSettings.codec default.database) <|
     .cons (.optionalByName "audit" AuditSettings.codec) <|
     .cons (.optionalByName "observability" Observability.codec) .nil)
    (fun (server, database, audit, observability, ()) =>
      { server, database, audit, observability })
    (fun s => (s.server, s.database, s.audit, s.observability, ()))

/-- Manifests, of which the labels are written in an order. -/
def Manifest.codec (order : LabelOrder := .byName) : Codec Manifest :=
  .record "PdpConfigManifest"
    (.cons (.required "apiVersion" .text) <|
     .cons (.required "kind" .text) <|
     .cons (.required "metadata" Metadata.Written.codec) <|
     .cons (.withDefault "spec" Spec.codec {}) .nil)
    (fun (apiVersion, kind, written, spec, ()) =>
      { apiVersion, kind, metadata := written.metadata, spec })
    (fun m => (m.apiVersion, m.kind, m.metadata.written order, m.spec, ()))

end FieldAccess
