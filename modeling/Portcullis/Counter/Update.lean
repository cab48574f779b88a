import Portcullis.Settings.Basic
import Portcullis.Store.Basic
import Portcullis.Telemetry.Journal

/-!
# Counter updates

A hit of an access row is written later, by a writer that takes updates from a bounded queue.

* `CounterQueue.offer` queues an update, or drops it when the queue is full or the writer is
  gone.
* `record` does so and reports what was dropped.
-/

namespace Portcullis

open Portcullis.Text
open Portcullis.Telemetry

/-- A hit of a row at some time: of the blacklist, or of the whitelist. -/
inductive CounterUpdate where
  | block (id : UInt32) (time : UInt64)
  | access (id : UInt32) (time : UInt64)
  deriving DecidableEq, Repr

namespace CounterUpdate

def kind : CounterUpdate → String
  | block .. => "block"
  | access .. => "access"

def id : CounterUpdate → UInt32
  | block id _ | access id _ => id

def time : CounterUpdate → UInt64
  | block _ t | access _ t => t

/-- The same hit at another time. -/
def withTime (t : UInt64) : CounterUpdate → CounterUpdate
  | block id _ => block id t
  | access id _ => access id t

/-- Writes an update to the store. -/
def apply (u : CounterUpdate) (store : Store) : Except StoreError Unit × Store :=
  match u with
  | block id t => store.countBlock id t
  | access id t => store.countAccess id t

/-- The details of an update in a report. -/
def details (u : CounterUpdate) : List (String × String) :=
  [("kind", u.kind), ("id", Decimal.ofNat u.id.toNat)]

/-- The series that counts what became of updates. -/
def series (u : CounterUpdate) (result : String) : Series :=
  ⟨"gatehouse_counter_writes_total", [("kind", u.kind), ("result", result)]⟩

end CounterUpdate

/-- Updates that wait for the writer, the oldest first. -/
structure CounterQueue where
  capacity : Nat
  pending : List CounterUpdate := []
  closed : Bool := false
  deriving DecidableEq, Repr

/-- A queue has room for one update at least. -/
def CounterSettings.queue (s : CounterSettings) : CounterQueue where
  capacity := max s.queueCapacity.toNat 1

/-- What became of an update that was offered to a queue. -/
inductive Offered where
  | queued
  | full
  | closed
  deriving DecidableEq, Repr

/-- Queues an update if there is room and a writer. -/
def CounterQueue.offer (q : CounterQueue) (u : CounterUpdate) : Offered × CounterQueue :=
  if q.closed then (.closed, q)
  else if q.capacity ≤ q.pending.length then (.full, q)
  else (.queued, { q with pending := q.pending ++ [u] })

/-- Queues an update, tells whether it was queued, and reports if it was not. -/
def record (u : CounterUpdate) (q : CounterQueue) (j : Journal) :
    Bool × CounterQueue × Journal :=
  let dropped (message : String) (q : CounterQueue) :=
    (false, q, (j.log ⟨.recorder, .warn, message, u.details⟩).count (u.series "dropped"))
  match q.offer u with
  | (.queued, q) => (true, q, j)
  | (.full, q) => dropped "Counter queue full, dropping update" q
  | (.closed, q) => dropped "Counter writer stopped, dropping update" q

end Portcullis
