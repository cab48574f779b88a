import Portcullis.Daemon.Startup
import Portcullis.Settings.Load

/-!
# The life of the daemon

What happens to a running daemon: files change, time passes, and signals arrive.

* A change of the snapshot is taken up once the file has rested: the store reads it again, and a
  pass brings the proxy up to date. A content that is no snapshot changes nothing.
* A hangup asks for a pass. The other signals end the daemon in an orderly way.
-/

namespace Portcullis

open Portcullis.Telemetry

/-- The signals that the daemon handles. -/
inductive DaemonSignal where
  | hangup
  | terminate
  | interrupt
  deriving DecidableEq, Repr

def DaemonSignal.name : DaemonSignal → String
  | hangup => "SIGHUP"
  | terminate => "SIGTERM"
  | interrupt => "SIGINT"

namespace Daemon

/-! ## The snapshot -/

/-- Somebody changes files. -/
def perform (d : Daemon) (deed : Deed) : Except Fault Unit × Daemon :=
  let fired := d.watch.any fun w => w.fires d.files deed
  let (result, files) := d.files.perform deed
  let watch := d.watch.bind fun w => w.after? d.files deed
  let d := { d with gateway := d.gateway.withFiles files, watch := watch }
  if fired then
    (result, { d with follower := d.follower.notice }.report .watcher .debug
      "Watched file changed" [("path", d.gateway.settings.store.snapshotPath.getD "")])
  else (result, d)

/-- Reads the snapshot again and answers with a pass. -/
def readSnapshot (d : Daemon) (program : Program) : Daemon :=
  let path := [("path", d.gateway.store.path.getD "")]
  match d.gateway.reloadStore with
  | (.ok (), g) =>
    ({ d with gateway := g }.report .startup .info "Routing snapshot reloaded" path).answer program
      .snapshotChanged
  | (.error e, g) =>
    { d with gateway := g }.report .startup .error
      "Failed to reload routing snapshot, keeping current state" (path ++ [("error", e.message)])

/-- Time passes until no change is left to be taken up. -/
def rest (d : Daemon) (program : Program) : Daemon :=
  let f := d.follower.receive.drain
  match f.stage with
  | .reading => readSnapshot { d with follower := f.finish } program
  | _ => d

/-! ## Signals -/

/-- A hangup arrives. -/
def hangup (d : Daemon) (program : Program) : Daemon :=
  (d.report .signals .info (DaemonSignal.hangup.name ++ " received, reconciling") []).answer
    program .signal

/-- Stops the proxy, and reports where it did not yield. -/
def stopProxy (d : Daemon) (program : Program) : Daemon :=
  match d.gateway.stop program true with
  | (.ok (), g) => { d with gateway := g }
  | (.error e, g) =>
    { d with gateway := g }.report .startup .warn "Proxy did not stop cleanly"
      [("error", e.message)]

/-- Writes the store to its file, if wanted. -/
def persist (d : Daemon) : Daemon :=
  if d.gateway.settings.store.persistOnShutdown then
    match d.gateway.saveStore with
    | (.ok (), g) => { d with gateway := g }
    | (.error e, g) =>
      { d with gateway := g }.report .startup .error "Failed to persist routing snapshot"
        [("error", e.message)]
  else d

/-- Ends in order: no more passes, no more proxy, no more requests, counters written, store
kept. -/
def shutDown (d : Daemon) (program : Program) (signal : DaemonSignal) : Daemon :=
  let d := d.report .signals .info (signal.name ++ " received, shutting down") []
  let d := d.report .startup .info "Shutting down" []
  let d := { d with gateway := d.gateway.report [reconcileStopped] }
  let d := (d.stopProxy program).report .server .info "Admission oracle stopped" []
  let d := { d with gateway := d.gateway.closeAdmission }
  d.persist.report .startup .info "Shutdown complete" []

end Daemon

/-! ## Runs -/

/-- A run of the daemon: under way, or ended with a status and with what it leaves behind. -/
inductive DaemonRun where
  | alive (d : Daemon)
  | ended (status : Nat) (journal : Journal) (files : Files)

namespace DaemonRun

/-- Runs the daemon with the settings of a file. -/
def launch (path : String) (n : Net.Network) (files : Files) (program : Settings → Program) :
    DaemonRun × Option Settings :=
  match Settings.load files path with
  | .error _ => (.ended 1 .empty files, none)
  | .ok s =>
    match Daemon.start s n files (program s) with
    | .ok d => (.alive d, some s)
    | .error (_, journal, files) => (.ended 1 journal files, some s)

def journal : DaemonRun → Journal
  | alive d => d.journal
  | ended _ journal _ => journal

/-- The events that a run shows with its settings. -/
def shown (s : Settings) (run : DaemonRun) : List Event :=
  run.journal.events.toList.filter (Filter.read s.observability.filter).shows

def files : DaemonRun → Files
  | alive d => d.files
  | ended _ _ files => files

def perform (deed : Deed) : DaemonRun → Except Fault Unit × DaemonRun
  | alive d =>
    let (result, d) := d.perform deed
    (result, alive d)
  | ended status journal files =>
    let (result, files) := files.perform deed
    (result, ended status journal files)

def rest (program : Program) : DaemonRun → DaemonRun
  | alive d => alive (d.rest program)
  | run => run

/-- A signal arrives; a daemon that has ended hears nothing. -/
def signal (s : DaemonSignal) (program : Program) : DaemonRun → DaemonRun
  | alive d =>
    match s with
    | .hangup => alive (d.hangup program)
    | .terminate | .interrupt =>
      let d := d.shutDown program s
      ended 0 d.journal d.files
  | run => run

end DaemonRun

end Portcullis
