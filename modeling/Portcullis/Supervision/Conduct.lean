import Portcullis.Supervision.Process
import Portcullis.Text.Decimal

/-!
# Ways to behave

The ways in which a proxy process may behave, from a well-behaved one to one that is gone before
it is live.
-/

namespace Portcullis

open Portcullis.Text

namespace Conduct

/-- How long a process takes to come up. -/
def startingTime : Span :=
  .ofMillis 1

/-- How long a process takes to die of a signal. -/
def dyingTime : Span :=
  .ofMillis 1

/-- Dies soon of any signal but the one to reload, which it handles. -/
def mortal : Signal → Option Span
  | .hangup => none
  | _ => some dyingTime

/-- Writes its pid file once it is up, and runs until it is told to stop. -/
def serving (pidPath : String) : Conduct where
  exits := none
  announces := some (startingTime, pidPath)
  yields := mortal

/-- Runs on whatever it is told, and has to be killed. -/
def stubborn (pidPath : String) : Conduct :=
  { serving pidPath with yields := fun s => if s = .kill then some dyingTime else none }

/-- Runs, but never writes its pid file. -/
def silent : Conduct where
  exits := none
  announces := none
  yields := mortal

/-- Is gone at once. -/
def exiting (code : ExitCode) : Conduct :=
  { silent with exits := some (⟨0⟩, code) }

/-- Runs for some time and exits; handles no signal. -/
def passing (t : Span) : Conduct where
  exits := some (t, some 0)
  announces := none
  yields _ := some dyingTime

end Conduct

/-- A program that lets as many seconds pass as its argument says. -/
def Program.pausing : Program where
  run arguments :=
    .ok (match seconds? arguments with
      | some n => .passing (.ofSeconds n)
      | none => .exiting (some 1))
  test arguments :=
    .ok (match seconds? arguments with
      | some n => { passed := true, stderr := "", takes := .ofSeconds n }
      | none => { passed := false, stderr := "invalid time interval" })
where
  seconds? : List String → Option Nat
    | [n] => Decimal.read? n.toList
    | _ => none

end Portcullis
