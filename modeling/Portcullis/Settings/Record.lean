import Portcullis.Datum.Slots
import Portcullis.Settings.Basic

/-!
# Settings as records

Each section of the settings as a record, to be read in the dialect of a document and to be
written with all its fields.
-/

namespace Portcullis

open Datum

namespace TlsSettings

def fields : List String :=
  ["cert_path", "key_path"]

def toDatum (s : TlsSettings) : Datum :=
  .object [("cert_path", .text s.certPath), ("key_path", .text s.keyPath)]

def ofDatum? (dialect : Dialect) (d : Datum) : Option TlsSettings := do
  let slots ← Slots.ofDatum? dialect fields d
  return {
    certPath := ← slots.require "cert_path" text?
    keyPath := ← slots.require "key_path" text? }

end TlsSettings

namespace OracleSettings

def fields : List String :=
  ["bind_address", "request_timeout_secs", "lookup_timeout_ms", "tls"]

def toDatum (s : OracleSettings) : Datum :=
  .object
    [("bind_address", .text s.bindAddress),
      ("request_timeout_secs", .whole s.requestTimeoutSecs.toNat),
      ("lookup_timeout_ms", .whole s.lookupTimeoutMs.toNat),
      ("tls", .ofOption TlsSettings.toDatum s.tls)]

def ofDatum? (dialect : Dialect) (d : Datum) : Option OracleSettings := do
  let slots ← Slots.ofDatum? dialect fields d
  let given : OracleSettings := {}
  return {
    bindAddress := ← slots.fallback "bind_address" given.bindAddress text?
    requestTimeoutSecs := ← slots.fallback "request_timeout_secs" given.requestTimeoutSecs u64?
    lookupTimeoutMs := ← slots.fallback "lookup_timeout_ms" given.lookupTimeoutMs u64?
    tls := ← slots.optional "tls" (TlsSettings.ofDatum? dialect) }

end OracleSettings

namespace ProxySettings

def fields : List String :=
  ["prefix", "stream_config", "http_config", "js_import", "access_hook", "upstream_prefix",
    "error_page_uri", "listen_id_variable"]

def toDatum (s : ProxySettings) : Datum :=
  .object
    [("prefix", .text s.home),
      ("stream_config", .text s.streamConfig),
      ("http_config", .text s.httpConfig),
      ("js_import", .text s.script),
      ("access_hook", .text s.accessHook),
      ("upstream_prefix", .text s.poolPrefix),
      ("error_page_uri", .text s.errorPageUri),
      ("listen_id_variable", .text s.listenIdVariable)]

/-- Reads the section, where `given` holds the defaults. -/
def ofDatum? (dialect : Dialect) (given : ProxySettings) (d : Datum) : Option ProxySettings := do
  let slots ← Slots.ofDatum? dialect fields d
  return {
    home := ← slots.fallback "prefix" given.home text?
    streamConfig := ← slots.fallback "stream_config" given.streamConfig text?
    httpConfig := ← slots.fallback "http_config" given.httpConfig text?
    script := ← slots.fallback "js_import" given.script text?
    accessHook := ← slots.fallback "access_hook" given.accessHook text?
    poolPrefix := ← slots.fallback "upstream_prefix" given.poolPrefix text?
    errorPageUri := ← slots.fallback "error_page_uri" given.errorPageUri text?
    listenIdVariable := ← slots.fallback "listen_id_variable" given.listenIdVariable text? }

end ProxySettings

namespace SupervisorSettings

def fields : List String :=
  ["binary", "prefix", "main_config", "pid_file", "start_timeout_secs", "stop_timeout_secs",
    "probe_interval_ms", "test_before_reload", "args", "test_args"]

def toDatum (s : SupervisorSettings) : Datum :=
  .object
    [("binary", .text s.binary),
      ("prefix", .text s.home),
      ("main_config", .text s.mainConfig),
      ("pid_file", .ofOption .text s.pidFile),
      ("start_timeout_secs", .whole s.startTimeoutSecs.toNat),
      ("stop_timeout_secs", .whole s.stopTimeoutSecs.toNat),
      ("probe_interval_ms", .whole s.probeIntervalMs.toNat),
      ("test_before_reload", .flag s.testBeforeReload),
      ("args", .ofOption texts s.args),
      ("test_args", .ofOption texts s.testArgs)]

/-- Reads the section, where `given` holds the defaults. -/
def ofDatum? (dialect : Dialect) (given : SupervisorSettings) (d : Datum) :
    Option SupervisorSettings := do
  let slots ← Slots.ofDatum? dialect fields d
  return {
    binary := ← slots.fallback "binary" given.binary text?
    home := ← slots.fallback "prefix" given.home text?
    mainConfig := ← slots.fallback "main_config" given.mainConfig text?
    pidFile := ← slots.fallback "pid_file" given.pidFile (nullable text?)
    startTimeoutSecs := ← slots.fallback "start_timeout_secs" given.startTimeoutSecs u64?
    stopTimeoutSecs := ← slots.fallback "stop_timeout_secs" given.stopTimeoutSecs u64?
    probeIntervalMs := ← slots.fallback "probe_interval_ms" given.probeIntervalMs u64?
    testBeforeReload := ← slots.fallback "test_before_reload" given.testBeforeReload flag?
    args := ← slots.fallback "args" given.args (nullable (list? text?))
    testArgs := ← slots.fallback "test_args" given.testArgs (nullable (list? text?)) }

end SupervisorSettings

namespace CounterSettings

def fields : List String :=
  ["queue_capacity", "max_attempts", "base_delay_ms", "max_delay_ms"]

def toDatum (s : CounterSettings) : Datum :=
  .object
    [("queue_capacity", .whole s.queueCapacity.toNat),
      ("max_attempts", .whole s.maxAttempts.toNat),
      ("base_delay_ms", .whole s.baseDelayMs.toNat),
      ("max_delay_ms", .whole s.maxDelayMs.toNat)]

def ofDatum? (dialect : Dialect) (d : Datum) : Option CounterSettings := do
  let slots ← Slots.ofDatum? dialect fields d
  let given : CounterSettings := {}
  return {
    queueCapacity := ← slots.fallback "queue_capacity" given.queueCapacity u64?
    maxAttempts := ← slots.fallback "max_attempts" given.maxAttempts u32?
    baseDelayMs := ← slots.fallback "base_delay_ms" given.baseDelayMs u64?
    maxDelayMs := ← slots.fallback "max_delay_ms" given.maxDelayMs u64? }

end CounterSettings

namespace StoreSettings

def fields : List String :=
  ["snapshot_path", "watch", "persist_on_shutdown"]

def toDatum (s : StoreSettings) : Datum :=
  .object
    [("snapshot_path", .ofOption .text s.snapshotPath),
      ("watch", .flag s.watch),
      ("persist_on_shutdown", .flag s.persistOnShutdown)]

def ofDatum? (dialect : Dialect) (d : Datum) : Option StoreSettings := do
  let slots ← Slots.ofDatum? dialect fields d
  let given : StoreSettings := {}
  return {
    snapshotPath := ← slots.optional "snapshot_path" text?
    watch := ← slots.fallback "watch" given.watch flag?
    persistOnShutdown := ← slots.fallback "persist_on_shutdown" given.persistOnShutdown flag? }

end StoreSettings

def LogFormat.names : List (String × LogFormat) :=
  [("pretty", .pretty), ("json", .json)]

def LogFormat.name : LogFormat → String
  | .pretty => "pretty"
  | .json => "json"

namespace ObservabilitySettings

def fields : List String :=
  ["log_level", "log_format", "metrics_enabled", "metrics_address"]

def toDatum (s : ObservabilitySettings) : Datum :=
  .object
    [("log_level", .text s.logLevel),
      ("log_format", .text s.logFormat.name),
      ("metrics_enabled", .flag s.metricsEnabled),
      ("metrics_address", .text s.metricsAddress)]

def ofDatum? (dialect : Dialect) (d : Datum) : Option ObservabilitySettings := do
  let slots ← Slots.ofDatum? dialect fields d
  let given : ObservabilitySettings := {}
  return {
    logLevel := ← slots.fallback "log_level" given.logLevel text?
    logFormat := ← slots.fallback "log_format" given.logFormat
      (dialect.choice? LogFormat.names)
    metricsEnabled := ← slots.fallback "metrics_enabled" given.metricsEnabled flag?
    metricsAddress := ← slots.fallback "metrics_address" given.metricsAddress text? }

end ObservabilitySettings

namespace Settings

def fields : List String :=
  ["oracle", "proxy", "supervisor", "counters", "store", "observability"]

def toDatum (s : Settings) : Datum :=
  .object
    [("oracle", s.oracle.toDatum),
      ("proxy", s.proxy.toDatum),
      ("supervisor", s.supervisor.toDatum),
      ("counters", s.counters.toDatum),
      ("store", s.store.toDatum),
      ("observability", s.observability.toDatum)]

def ofDatum? (dialect : Dialect) (d : Datum) : Option Settings := do
  let slots ← Slots.ofDatum? dialect fields d
  return {
    oracle := ← slots.fallback "oracle" {} (OracleSettings.ofDatum? dialect)
    proxy := ← slots.fallback "proxy" {} (ProxySettings.ofDatum? dialect {})
    supervisor := ← slots.fallback "supervisor" {} (SupervisorSettings.ofDatum? dialect {})
    counters := ← slots.fallback "counters" {} (CounterSettings.ofDatum? dialect)
    store := ← slots.fallback "store" {} (StoreSettings.ofDatum? dialect)
    observability := ← slots.fallback "observability" {}
      (ObservabilitySettings.ofDatum? dialect) }

end Settings

end Portcullis
