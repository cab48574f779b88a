import Portcullis.Files.Tree
import Portcullis.Net.Socket
import Portcullis.Settings.Basic
import Portcullis.Text.Blank

/-!
# Settings that can be run with

`Settings.complaints` lists every setting that a well-formed document may hold and that the
gateway cannot run with.  Only the files of a certificate are looked up; all other rules concern
the values alone.
-/

namespace Portcullis

open Portcullis.Text

/-- What is wrong with one setting. -/
structure Complaint where
  field : String
  message : String
  deriving DecidableEq, Repr

def Complaint.text (c : Complaint) : String :=
  c.field ++ ": " ++ c.message

/-- A complaint about a field, unless a condition holds. -/
def demand (condition : Bool) (field message : String) : List Complaint :=
  if condition then [] else [⟨field, message⟩]

def isSocketAddress (s : String) : Bool :=
  (Net.Socket.read? s).isSome

def notSocketAddress (s : String) : String :=
  "'" ++ s ++ "' is not a socket address"

def OracleSettings.complaints (files : Files) (s : OracleSettings) : List Complaint :=
  let readable (field path : String) :=
    demand (files.isFile path) field ("'" ++ path ++ "' does not exist")
  demand (isSocketAddress s.bindAddress) "oracle.bind_address" (notSocketAddress s.bindAddress) ++
    demand (s.requestTimeoutSecs != 0) "oracle.request_timeout_secs" "must be > 0" ++
    demand (s.lookupTimeoutMs != 0) "oracle.lookup_timeout_ms" "must be > 0" ++
    match s.tls with
    | some tls =>
      readable "oracle.tls.cert_path" tls.certPath ++ readable "oracle.tls.key_path" tls.keyPath
    | none => []

def ProxySettings.complaints (s : ProxySettings) : List Complaint :=
  demand (!isAllBlank s.poolPrefix) "proxy.upstream_prefix" "must not be empty" ++
    demand (!Path.same s.streamPath s.httpPath) "proxy.http_config"
      "stream and http output must be different files" ++
    demand (s.listenIdVariable.toList.head? == some '$') "proxy.listen_id_variable"
      "must start with '$'"

def SupervisorSettings.complaints (s : SupervisorSettings) : List Complaint :=
  demand (s.startTimeoutSecs != 0) "supervisor.start_timeout_secs" "must be > 0" ++
    demand (s.stopTimeoutSecs != 0) "supervisor.stop_timeout_secs" "must be > 0" ++
    demand (s.probeIntervalMs != 0) "supervisor.probe_interval_ms" "must be > 0"

def CounterSettings.complaints (s : CounterSettings) : List Complaint :=
  demand (s.queueCapacity != 0) "counters.queue_capacity" "must be > 0" ++
    demand (s.maxAttempts != 0) "counters.max_attempts" "must be > 0" ++
    demand (s.baseDelayMs ≤ s.maxDelayMs) "counters.base_delay_ms"
      "must not exceed counters.max_delay_ms"

def ObservabilitySettings.complaints (s : ObservabilitySettings) : List Complaint :=
  demand (!s.metricsEnabled || isSocketAddress s.metricsAddress) "observability.metrics_address"
    (notSocketAddress s.metricsAddress)

/-- Everything wrong with the settings, in the order of the sections. -/
def Settings.complaints (files : Files) (s : Settings) : List Complaint :=
  s.oracle.complaints files ++ s.proxy.complaints ++ s.supervisor.complaints ++
    s.counters.complaints ++ s.observability.complaints

end Portcullis
