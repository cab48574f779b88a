import Portcullis.Telemetry.Event
import Portcullis.Text.Decimal

/-!
# Events and counters in one place

A `Journal` collects reported events in order and keeps the value of every series that was
recorded.

* `Journal.log` reports an event.
* `Journal.count` adds one to a counter, `Journal.gauge` sets a gauge.
* `Journal.lines` lists the series as sorted lines of the exposition format.
-/

namespace Portcullis.Telemetry

open Portcullis.Text

/-- A series: a metric name with label values. -/
structure Series where
  name : String
  labels : List (String × String)
  deriving DecidableEq, Repr

/-- A series as it is written before its value. -/
def Series.text (s : Series) : String :=
  if s.labels.isEmpty then s.name
  else
    s.name ++ "\x7b" ++
      ",".intercalate (s.labels.map fun (label, value) => label ++ "=\"" ++ value ++ "\"") ++ "\x7d"

/-- Everything reported so far. -/
structure Journal where
  events : Array Event
  series : List (Series × Nat)
  deriving DecidableEq, Repr

namespace Journal

def empty : Journal :=
  ⟨#[], []⟩

/-- Reports an event. -/
def log (j : Journal) (e : Event) : Journal :=
  { j with events := j.events.push e }

def logAll (j : Journal) (es : List Event) : Journal :=
  { j with events := j.events ++ es.toArray }

/-- Gives a series a value that depends on its last one, which is zero at first. -/
def update (j : Journal) (s : Series) (f : Nat → Nat) : Journal :=
  match j.series.lookup s with
  | some n => { j with series := j.series.map fun p => if p.1 = s then (s, f n) else p }
  | none => { j with series := j.series ++ [(s, f 0)] }

/-- Adds one to a counter. -/
def count (j : Journal) (s : Series) : Journal :=
  j.update s (· + 1)

/-- Sets a gauge. -/
def gauge (j : Journal) (s : Series) (n : Nat) : Journal :=
  j.update s fun _ => n

/-- The journal with its events taken out. -/
def drained (j : Journal) : Journal :=
  { j with events := #[] }

/-- The lines of all series, in the order of their text. -/
def lines (j : Journal) : List String :=
  (j.series.map fun (s, n) => s.text ++ " " ++ Decimal.ofNat n).mergeSort fun a b => !(b < a)

end Journal

end Portcullis.Telemetry
