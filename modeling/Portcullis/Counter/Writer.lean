import Portcullis.Counter.Retry
import Portcullis.Counter.Update

/-!
# The counter writer

The writer takes updates from the queue, oldest first, and writes each with retries.  An update
that fails for good is given up and does not hold up those behind it.
-/

namespace Portcullis

open Portcullis.Text
open Portcullis.Telemetry

namespace CounterWriter

/-- What there is to report of an update that has been tried. -/
def account (u : CounterUpdate) (a : Attempts Unit) (j : Journal) : Journal :=
  let j := j.logAll a.notes
  match a.result with
  | .ok () => j.count (u.series "ok")
  | .error e =>
    (j.log ⟨.recorder, .warn, "Counter update failed",
      u.details ++ [("attempts", Decimal.ofNat a.calls), ("error", e.message)]⟩).count
        (u.series "error")

/-- Writes one update with retries. -/
def write (p : RetryPolicy) (draw : Nat → Nat)
    (put : CounterUpdate → σ → Except StoreError Unit × σ) (u : CounterUpdate)
    (s : σ × Journal) : σ × Journal :=
  let (a, state) := p.run draw (put u) s.1
  (state, account u a s.2)

/-- Writes updates in order. -/
def writeAll (p : RetryPolicy) (draw : Nat → Nat)
    (put : CounterUpdate → σ → Except StoreError Unit × σ) (us : List CounterUpdate)
    (s : σ × Journal) : σ × Journal :=
  us.foldl (fun s u => write p draw put u s) s

/-- The report of a writer that has nothing left to do. -/
def drained : Event :=
  ⟨.recorder, .debug, "Counter writer drained", []⟩

end CounterWriter

end Portcullis
