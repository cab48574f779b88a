import Portcullis.Reconcile.Outcome

/-!
# Triggers

Passes are asked for by triggers.  At most one trigger waits: one that arrives while another is
waiting is already served by the pass that the waiting one will cause.
-/

namespace Portcullis

open Portcullis.Text
open Portcullis.Telemetry

/-- What asked for a pass. -/
inductive Trigger where
  | startup
  | signal
  | snapshotChanged
  | manual
  deriving DecidableEq, Repr

namespace Trigger

def all : List Trigger :=
  [startup, signal, snapshotChanged, manual]

def name : Trigger → String
  | startup => "startup"
  | signal => "signal"
  | snapshotChanged => "snapshot_changed"
  | manual => "manual"

end Trigger

/-- The trigger that waits, if any, and whether anyone will still receive it. -/
structure TriggerQueue where
  waiting : Option Trigger := none
  closed : Bool := false
  deriving DecidableEq, Repr

def reconcileNote (level : Level) (message : String) (t : Trigger)
    (more : List (String × String)) : Event :=
  ⟨.reconcile, level, message, ("trigger", t.name) :: more⟩

/-- Asks for a pass, and tells whether the trigger was taken. -/
def TriggerQueue.send (q : TriggerQueue) (t : Trigger) (j : Journal) :
    Bool × TriggerQueue × Journal :=
  if q.closed then
    (false, q, j.log (reconcileNote .warn "Reconcile loop stopped, trigger ignored" t []))
  else
    match q.waiting with
    | none => (true, { q with waiting := some t }, j)
    | some _ =>
      (false, q, j.log (reconcileNote .debug "Reconcile already pending, coalesced" t []))

/-- Takes the waiting trigger. -/
def TriggerQueue.receive (q : TriggerQueue) : Option Trigger × TriggerQueue :=
  (q.waiting, { q with waiting := none })

/-- The report of a pass that a trigger caused. -/
def Outcome.note (o : Outcome) (t : Trigger) : Event :=
  match o with
  | .applied c started =>
    reconcileNote .info "Routing applied" t
      [("started", if started then "true" else "false"),
        ("upstreams", Decimal.ofNat c.stats.pools),
        ("skipped_routes", Decimal.ofNat c.stats.skippedRoutes)]
  | .unchanged => reconcileNote .info "Routing unchanged" t []
  | .compileFailed e =>
    reconcileNote .error "Compile failed, proxy keeps its previous routing" t
      [("error", e.message)]
  | .reloadFailed e =>
    reconcileNote .error "Proxy did not pick up the new routing, routing is stale" t
      [("error", e.message)]

/-- The report of a loop that has ended. -/
def reconcileStopped : Event :=
  ⟨.reconcile, .debug, "Reconcile loop stopped", []⟩

namespace Control

variable {σ : Type}

def report (c : Control σ) (e : Event) : Control σ :=
  { c with station := { c.station with journal := c.station.journal.log e } }

variable [Browsable σ]

/-- Answers a trigger with a pass. -/
def answer (c : Control σ) (s : SupervisorSettings) (program : Program)
    (view : Except StoreError Routing) (t : Trigger) : Outcome × Control σ :=
  let (outcome, c) := c.pass s program view
  (outcome, c.report (outcome.note t))

/-- The loop of passes over a queue that nobody adds to: one pass if a trigger waits. -/
def drainTriggers (c : Control σ) (s : SupervisorSettings) (program : Program)
    (view : Except StoreError Routing) (q : TriggerQueue) : Control σ :=
  match q.waiting with
  | some t => ((c.answer s program view t).2).report reconcileStopped
  | none => c.report reconcileStopped

end Control

end Portcullis
