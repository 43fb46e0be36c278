/-!
# Samples of manifests

The manifests that are written for a user who starts with none.

## Main definitions

* `CommandLine.sampleManifest` – a sample.
-/

namespace FieldAccess.CommandLine

/-- The lines of a sample with the settings that matter most. -/
def shortSample : List String := [
  "apiVersion: pdp.opendif.io/v1",
  "kind: PdpConfig",
  "metadata:",
  "  name: policy-decision-point",
  "spec:",
  "  server:",
  "    host: 0.0.0.0",
  "    port: 8080",
  "  database:",
  "    backend: postgres",
  "    host: localhost",
  "    port: 5432",
  "    username: postgres",
  "    password: env:PDP_DATABASE_PASSWORD",
  "    database: pdp",
  "    ssl_mode: require"]

/-- The lines of a sample with all settings, explained. -/
def explainedSample : List String := [
  "# Policy Decision Point configuration",
  "#",
  "# Discovery order: --config, PDP_CONFIG_PATH, ./pdp-config.yaml,",
  "# ~/.pdp/config.yaml, /etc/pdp/config.yaml. Environment variables",
  "# (PDP_DATABASE_*, PDP_AUDIT_SERVICE_URL, PDP_PORT) override file values.",
  "apiVersion: pdp.opendif.io/v1",
  "kind: PdpConfig",
  "metadata:",
  "  name: policy-decision-point",
  "  version: \"1.0.0\"",
  "  labels:",
  "    environment: development",
  "",
  "spec:",
  "  server:",
  "    host: 0.0.0.0",
  "    port: 8080",
  "",
  "  database:",
  "    # postgres | in_memory (in_memory loses all state on restart)",
  "    backend: postgres",
  "    host: localhost",
  "    port: 5432",
  "    username: postgres",
  "    # Plain value or env:VAR indirection",
  "    password: env:PDP_DATABASE_PASSWORD",
  "    database: pdp",
  "    # disable | allow | prefer | require | verify-ca | verify-full",
  "    ssl_mode: require",
  "    max_connections: 25",
  "    min_connections: 5",
  "    acquire_timeout_secs: 30",
  "    idle_timeout_secs: 1800",
  "    max_lifetime_secs: 3600",
  "",
  "  # Remove this block to log audit events locally only",
  "  audit:",
  "    endpoint: http://localhost:3001",
  "    timeout_ms: 5000",
  "    queue_capacity: 1024",
  "    service_name: policy-decision-point",
  "",
  "  observability:",
  "    # compact | json",
  "    log_format: compact",
  "    # Prometheus scrape endpoint, disabled when omitted",
  "    metrics_port: 9091"]

/-- A sample of a manifest, with examples and comments or without. -/
def sampleManifest (examples : Bool) : String :=
  String.join ((if examples then explainedSample else shortSample).map (· ++ "\n"))

end FieldAccess.CommandLine
