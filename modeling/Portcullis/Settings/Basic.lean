import Portcullis.Files.Path
import Portcullis.Time

/-!
# Settings

Everything that can be set, section by section, with defaults.
-/

namespace Portcullis

/-- The files of a certificate and its private key. -/
structure TlsSettings where
  certPath : String
  keyPath : String
  deriving DecidableEq, Repr

/-- How admission questions are answered. -/
structure OracleSettings where
  bindAddress : String := "127.0.0.1:3000"
  requestTimeoutSecs : UInt64 := 5
  lookupTimeoutMs : UInt64 := 2000
  tls : Option TlsSettings := none
  deriving DecidableEq, Repr

/-- What the generated proxy configuration says, and where it is written. -/
structure ProxySettings where
  /-- Relative output paths start here. -/
  home : String := "/opt/app/nginx"
  streamConfig : String := "conf/stream.conf"
  httpConfig : String := "conf/http.conf"
  /-- The script that provides the admission hook. -/
  script : String := "/opt/app/nginx/dist/njs.js"
  accessHook : String := "njs.accessAddressStream"
  poolPrefix : String := "ffus_"
  errorPageUri : String := "/bad_gateway.html"
  listenIdVariable : String := "$ff_listen_id"
  deriving DecidableEq, Repr

/-- How the proxy process is run. -/
structure SupervisorSettings where
  binary : String := "/usr/sbin/nginx"
  home : String := "/opt/app/nginx"
  mainConfig : String := "conf/nginx.conf"
  /-- A file that must be there before the proxy counts as live. -/
  pidFile : Option String := none
  startTimeoutSecs : UInt64 := 10
  stopTimeoutSecs : UInt64 := 15
  probeIntervalMs : UInt64 := 100
  testBeforeReload : Bool := true
  /-- Stands for the usual arguments of a run. -/
  args : Option (List String) := none
  /-- Stands for the usual arguments of a configuration test. -/
  testArgs : Option (List String) := none
  deriving DecidableEq, Repr

/-- How counter updates are queued and retried. -/
structure CounterSettings where
  queueCapacity : UInt64 := 1024
  /-- Attempts at an update, the first included. -/
  maxAttempts : UInt32 := 3
  baseDelayMs : UInt64 := 50
  maxDelayMs : UInt64 := 1000
  deriving DecidableEq, Repr

/-- Where the routing state comes from. -/
structure StoreSettings where
  snapshotPath : Option String := none
  watch : Bool := true
  persistOnShutdown : Bool := true
  deriving DecidableEq, Repr

inductive LogFormat where
  | pretty
  | json
  deriving DecidableEq, Repr

structure ObservabilitySettings where
  logLevel : String := "info"
  logFormat : LogFormat := .pretty
  metricsEnabled : Bool := false
  metricsAddress : String := "127.0.0.1:9090"
  deriving DecidableEq, Repr

/-- All settings. -/
structure Settings where
  oracle : OracleSettings := {}
  proxy : ProxySettings := {}
  supervisor : SupervisorSettings := {}
  counters : CounterSettings := {}
  store : StoreSettings := {}
  observability : ObservabilitySettings := {}
  deriving DecidableEq, Repr

def OracleSettings.lookupTimeout (s : OracleSettings) : Span :=
  .ofMillis s.lookupTimeoutMs.toNat

namespace ProxySettings

/-- A path below the proxy's home, unless it is absolute. -/
def resolve (s : ProxySettings) (path : String) : String :=
  Path.join s.home path

def streamPath (s : ProxySettings) : String :=
  s.resolve s.streamConfig

def httpPath (s : ProxySettings) : String :=
  s.resolve s.httpConfig

end ProxySettings

namespace SupervisorSettings

def startTimeout (s : SupervisorSettings) : Span :=
  .ofSeconds s.startTimeoutSecs.toNat

def stopTimeout (s : SupervisorSettings) : Span :=
  .ofSeconds s.stopTimeoutSecs.toNat

def probeInterval (s : SupervisorSettings) : Span :=
  .ofMillis s.probeIntervalMs.toNat

end SupervisorSettings

/-- The log filter that a level stands for. -/
def ObservabilitySettings.filter (s : ObservabilitySettings) : String :=
  "gatehouse=" ++ s.logLevel ++ ",tower_http=" ++ s.logLevel ++ ",warn"

end Portcullis
