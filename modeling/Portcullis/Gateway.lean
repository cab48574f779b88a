import Portcullis.Admission.Endpoint
import Portcullis.Counter.Writer
import Portcullis.Reconcile.Trigger
import Portcullis.Store.Persist

/-!
# The gateway

All parts of the gateway in one value: the store, the compiler with the supervised proxy, and
admission with its counter queue.

Every operation here takes the gateway to its next state; what it reports goes to the one
journal.
-/

namespace Portcullis

open Portcullis.Admission
open Portcullis.Telemetry

structure Gateway where
  settings : Settings
  limits : Limits
  store : Store
  control : Control Files
  queue : CounterQueue

namespace Gateway

/-- The time limits of admission that are set. -/
def limitsOf (s : OracleSettings) : Limits where
  lookup := s.lookupTimeout
  request := .ofSeconds s.requestTimeoutSecs.toNat

/-- A gateway over a store. Nothing is compiled or started yet. -/
def build (settings : Settings) (store : Store) (files : Files) (journal : Journal) :
    Gateway where
  settings := settings
  limits := limitsOf settings.oracle
  store := store
  control := ⟨{ settings := settings.proxy }, {}, { files := files, journal := journal }⟩
  queue := settings.counters.queue

def files (g : Gateway) : Files :=
  g.control.station.files

def journal (g : Gateway) : Journal :=
  g.control.station.journal

def withFiles (g : Gateway) (files : Files) : Gateway :=
  { g with control := { g.control with station := { g.control.station with files := files } } }

def withJournal (g : Gateway) (journal : Journal) : Gateway :=
  { g with
    control := { g.control with station := { g.control.station with journal := journal } } }

def report (g : Gateway) (events : List Event) : Gateway :=
  g.withJournal (g.journal.logAll events)

/-! ## Store -/

/-- Reads the store's file again. -/
def reloadStore (g : Gateway) : Except StoreError Unit × Gateway :=
  let (result, store, events) := g.store.reload g.files
  (result, { g with store := store }.report events)

/-- Writes the store to its file. -/
def saveStore (g : Gateway) : Except StoreError Unit × Gateway :=
  let (result, files, events) := g.store.save g.files
  (result, (g.withFiles files).report events)

/-! ## Admission -/

/-- Decides on a request, where `source` answers for the store. -/
def decide (g : Gateway) (source : AccessSource) (now : UInt64) (r : Request) :
    Decision × List Span × Gateway :=
  let (d, spent, queue, journal) :=
    Admission.decide source g.limits.lookup r now g.queue g.journal
  (d, spent, { g with queue := queue }.withJournal journal)

/-- Answers a request to the endpoint, and tells how many questions were asked. -/
def respond (g : Gateway) (source : AccessSource) (now : UInt64) (r : HttpRequest) :
    Response × Nat × Gateway :=
  let (response, after) := Admission.respond source g.limits now r g.queue g.journal
  (response, after.asked, { g with queue := after.queue }.withJournal after.journal)

/-- Offers an update to the counter queue. -/
def record (g : Gateway) (u : CounterUpdate) : Bool × Gateway :=
  let (taken, queue, journal) := Portcullis.record u g.queue g.journal
  (taken, { g with queue := queue }.withJournal journal)

/-- Writes all queued updates, where `put` writes one to the store and to what else it keeps. -/
def flushWith (g : Gateway) (draw : Nat → Nat)
    (put : CounterUpdate → Store × σ → Except StoreError Unit × (Store × σ)) (s : σ) :
    Gateway × σ :=
  let ((store, s), journal) :=
    CounterWriter.writeAll g.settings.counters.retryPolicy draw put g.queue.pending
      ((g.store, s), g.journal)
  ({ g with store := store, queue := { g.queue with pending := [] } }.withJournal journal, s)

/-- Writes all queued updates to the store. -/
def flush (g : Gateway) : Gateway :=
  (g.flushWith (fun _ => 0) (fun u s =>
    let (result, store) := u.apply s.1
    (result, store, s.2)) ()).1

/-- Nobody offers updates any more: the counter writer writes what is queued and ends. -/
def closeAdmission (g : Gateway) : Gateway :=
  let g := g.flush
  { g with queue := { g.queue with closed := true } }.report [CounterWriter.drained]

/-! ## Routing -/

/-- Both texts, without writing them. -/
def preview (g : Gateway) : Except CompileError Compiled × Gateway :=
  let (result, events) := Portcullis.preview g.settings.proxy (.ok g.store.routing)
  (result, g.report events)

/-- Runs a compile pass. -/
def compile (g : Gateway) : Except CompileError Compiled × Gateway :=
  let (result, control) := g.control.compile (.ok g.store.routing)
  (result, { g with control := control })

/-- Runs a pass of the reconciler. -/
def reconcile (g : Gateway) (program : Program) : Outcome × Gateway :=
  let (outcome, control) := g.control.pass g.settings.supervisor program (.ok g.store.routing)
  (outcome, { g with control := control })

/-- Runs a pass for a trigger. -/
def answer (g : Gateway) (program : Program) (t : Trigger) : Outcome × Gateway :=
  let (outcome, control) :=
    g.control.answer g.settings.supervisor program (.ok g.store.routing) t
  (outcome, { g with control := control })

/-- Offers a trigger to a queue. -/
def trigger (g : Gateway) (q : TriggerQueue) (t : Trigger) : Bool × TriggerQueue × Gateway :=
  let (taken, q, journal) := q.send t g.journal
  (taken, q, g.withJournal journal)

/-- Runs the loop of passes over a queue that nobody adds to. -/
def drainTriggers (g : Gateway) (program : Program) (q : TriggerQueue) : Gateway :=
  { g with control :=
    g.control.drainTriggers g.settings.supervisor program (.ok g.store.routing) q }

/-- Works on the proxy process. -/
def onStation (g : Gateway) (f : Station Files → Except SupervisorError Unit × Station Files) :
    Except SupervisorError Unit × Gateway :=
  let (result, station) := f g.control.station
  (result, { g with control := { g.control with station := station } })

def start (g : Gateway) (program : Program) : Except SupervisorError Unit × Gateway :=
  g.onStation fun st => st.start g.settings.supervisor program

def reload (g : Gateway) (program : Program) : Except SupervisorError Unit × Gateway :=
  g.onStation fun st => st.reload g.settings.supervisor program

def stop (g : Gateway) (program : Program) (graceful : Bool) :
    Except SupervisorError Unit × Gateway :=
  g.onStation fun st => st.stop g.settings.supervisor program graceful

/-- The proxy process exits by itself. -/
def processExits (g : Gateway) (code : ExitCode) : Gateway :=
  { g with control := { g.control with station := g.control.station.ownedExits code } }

end Gateway

end Portcullis
