import Portcullis.Files.Tree
import Portcullis.Time

/-!
# Processes

What the supervisor can see of a process: when it exits, when it writes its pid file, and how it
reacts to signals.

* `Conduct` is how a process behaves from now on; `Conduct.after` lets time pass and
  `Conduct.told` lets a signal arrive.
* `Probe.wait` polls a new process until it has exited or is live, up to a deadline.
-/

namespace Portcullis

inductive Signal where
  | hangup
  | quit
  | terminate
  | kill
  deriving DecidableEq, Repr

/-- The exit code of a process; a process that a signal ended has none. -/
abbrev ExitCode := Option Int

/-- The exit code of a process that exits with a status, of which eight bits are kept. -/
def ExitCode.ofStatus (n : Int) : ExitCode :=
  some (n % 256)

/-- How a process behaves from now on. -/
structure Conduct where
  /-- When it exits without being asked. -/
  exits : Option (Span × ExitCode)
  /-- When it has written its pid file, and where. -/
  announces : Option (Span × String)
  /-- How long it takes to exit after a signal, if it does. -/
  yields : Signal → Option Span

/-- What comes of something that is due at some moment, unless it comes later than a time. -/
def dueBy (due : Option (Span × α)) (time : Nat) : Option α :=
  match due with
  | some (moment, a) => if moment.nanos ≤ time then some a else none
  | none => none

namespace Conduct

/-- The rest of a wait after some time. -/
def rest (t : Span) (due : Option (Span × α)) : Option (Span × α) :=
  due.map fun (moment, a) => (⟨moment.nanos - t.nanos⟩, a)

/-- The conduct once some time has passed without an exit. -/
def after (c : Conduct) (t : Span) : Conduct :=
  { c with
    exits := rest t c.exits
    announces := if (dueBy c.announces t.nanos).isSome then none else rest t c.announces }

/-- The conduct once a signal has arrived. -/
def told (c : Conduct) (signal : Signal) : Conduct :=
  match c.yields signal with
  | none => c
  | some t =>
    if (dueBy c.exits t.nanos).isSome then c else { c with exits := some (t, none) }

end Conduct

/-- What a configuration test comes to. -/
structure TestRun where
  passed : Bool
  /-- What it writes to its error stream. -/
  stderr : String
  takes : Span := ⟨0⟩

/-- A program that can be run, or asked to test a configuration. -/
structure Program where
  run : List String → Except Fault Conduct
  test : List String → Except Fault TestRun
  /-- Why a signal cannot be sent to its process, if it cannot. -/
  refuses : Signal → Option String := fun _ => none

/-! ## Start-up -/

/-- What polling found. -/
inductive Probe where
  | live
  | exited (code : ExitCode)
  | timedOut
  deriving DecidableEq, Repr

namespace Probe

/-- What one poll finds. An exit counts before a pid file. -/
def see (exit : Option ExitCode) (isPresent : Bool) : Option Probe :=
  match exit with
  | some code => some (.exited code)
  | none => if isPresent then some .live else none

/-- What a poll at some time finds. -/
def look (exits : Option (Span × ExitCode)) (isPresent : Nat → Bool) (time : Nat) :
    Option Probe :=
  see (dueBy exits time) (isPresent time)

/-- Polls a number of times, from a time on, until a poll finds something, and tells when. -/
def poll (find : Nat → Option Probe) (interval : Nat) : Nat → Nat → Option (Probe × Nat)
  | 0, _ => none
  | polls + 1, time =>
    match find time with
    | some p => some (p, time)
    | none => poll find interval polls (time + interval)

/-- Polls after each interval up to a deadline, and tells how long that took. -/
def wait (exits : Option (Span × ExitCode)) (isPresent : Nat → Bool) (interval deadline : Span) :
    Probe × Span :=
  match poll (look exits isPresent) interval.nanos (deadline.nanos / interval.nanos)
      interval.nanos with
  | some (p, time) => (p, ⟨time⟩)
  | none => (.timedOut, deadline)

end Probe

end Portcullis
