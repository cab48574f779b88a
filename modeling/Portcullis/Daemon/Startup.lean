import Portcullis.Daemon.Follower
import Portcullis.Files.Watch
import Portcullis.Gateway
import Portcullis.Net.Certificate
import Portcullis.Net.Listening
import Portcullis.Telemetry.Filter

/-!
# Starting the daemon

The daemon is a gateway with a place on the network and, if wanted, a follower of its snapshot.

* It starts in a fixed order, and each failure but one of the metrics ends it: settings, metrics,
  store, listening, the first pass, the watch of the snapshot.
* A first pass that fails is reported, and ends nothing.
-/

namespace Portcullis

open Portcullis.Telemetry

/-- Why the daemon does not start. -/
inductive StartupError where
  | store (e : StoreError)
  | address (text : String)
  | listen (text : String) (fault : Net.ListenFault)
  | certificate
  | watch (fault : Fault)
  deriving DecidableEq, Repr

def StartupError.message : StartupError → String
  | .store e => "failed to load routing snapshot: " ++ e.message
  | .address text => "invalid oracle address '" ++ text ++ "'"
  | .listen text f => "failed to bind " ++ text ++ ": " ++ f.message
  | .certificate => "failed to load TLS configuration: no usable certificate"
  | .watch f => "failed to watch routing snapshot: " ++ f.message

/-- Listens on the address that a text denotes. -/
def listenOn (n : Net.Network) (text : String) : Except StartupError Net.Network :=
  match Net.Socket.read? text with
  | none => .error (.address text)
  | some s =>
    match n.listen s with
    | .ok n => .ok n
    | .error f => .error (.listen text f)

/-- A running daemon. -/
structure Daemon where
  gateway : Gateway
  watch : Option Watch := none
  follower : Follower := {}

namespace Daemon

def files (d : Daemon) : Files :=
  d.gateway.files

def journal (d : Daemon) : Journal :=
  d.gateway.journal

def report (d : Daemon) (component : Component) (level : Level) (message : String)
    (details : List (String × String)) : Daemon :=
  { d with gateway := d.gateway.report [⟨component, level, message, details⟩] }

/-! ## Stages -/

/-- The first reports. -/
def greet (s : Settings) : Journal :=
  let format :=
    match s.observability.logFormat with
    | .pretty => "Pretty"
    | .json => "Json"
  Journal.empty.logAll
    [⟨.logging, .debug, "Logging initialized",
        [("level", s.observability.logLevel), ("format", format)]⟩,
      ⟨.startup, .info, "gatehouse starting", [("version", "0.1.0")]⟩]

/-- Listens for readers of metrics, if wanted. -/
def listenForMetrics (s : ObservabilitySettings) (n : Net.Network) (j : Journal) :
    Net.Network × Journal :=
  let address := [("address", s.metricsAddress)]
  if !s.metricsEnabled then (n, j)
  else
    match listenOn n s.metricsAddress with
    | .ok n => (n, j.log ⟨.metrics, .info, "Metrics endpoint listening", address⟩)
    | .error e =>
      (n, j.log ⟨.metrics, .error, "Failed to install metrics exporter",
        address ++ [("error", e.message)]⟩)

/-- Loads the store from its snapshot, if it has one. -/
def loadStore (s : StoreSettings) (files : Files) (j : Journal) :
    Except StartupError Store × Journal :=
  match s.snapshotPath with
  | none =>
    (.ok .empty,
      j.log ⟨.startup, .warn, "No routing snapshot configured, starting with an empty store", []⟩)
  | some path =>
    match Store.load files path with
    | (.ok store, events) => (.ok store, j.logAll events)
    | (.error e, events) => (.error (.store e), j.logAll events)

/-- Listens for admission requests. Certificates are only ever found unusable. -/
def listenForRequests (s : OracleSettings) (n : Net.Network) : Except StartupError Unit :=
  match s.tls with
  | some _ => .error .certificate
  | none => (listenOn n s.bindAddress).map fun _ => ()

/-- Watches the snapshot, if wanted. -/
def watchSnapshot (s : StoreSettings) (d : Daemon) : Except StartupError Daemon :=
  match s.snapshotPath, s.watch with
  | some path, true =>
    match Watch.start d.files path with
    | .ok w =>
      .ok ({ d with watch := some w }.report .watcher .info "Snapshot watcher started"
        [("path", path)])
    | .error f => .error (.watch f)
  | _, _ => .ok d

/-- Runs a pass for a trigger. -/
def answer (d : Daemon) (program : Program) (t : Trigger) : Daemon :=
  { d with gateway := (d.gateway.answer program t).2 }

/-- Starts the daemon. Where it does not start, its reports and the files are left. -/
def start (s : Settings) (n : Net.Network) (files : Files) (program : Program) :
    Except (StartupError × Journal × Files) Daemon :=
  let (n, j) := listenForMetrics s.observability n (greet s)
  match loadStore s.store files j with
  | (.error e, j) => .error (e, j, files)
  | (.ok store, j) =>
    match listenForRequests s.oracle n with
    | .error e => .error (e, j, files)
    | .ok () =>
      let d : Daemon := { gateway := Gateway.build s store files j }
      let d := d.report .server .info "Admission oracle listening"
        [("address", s.oracle.bindAddress)]
      let d := d.answer program .startup
      match watchSnapshot s.store d with
      | .error e => .error (e, d.journal, d.files)
      | .ok d => .ok d

end Daemon

end Portcullis
