import Portcullis.Supervision.Operation

/-!
# The supervisor

The operations on the proxy from their begin to their end, where waiting takes the time that the
conduct of the processes says.

* A failed start leaves no process behind, and a stop always ends the process, by force once the
  deadline has passed.
* Time passes only while the supervisor waits.
-/

namespace Portcullis

open Portcullis.Text

/-- How long the exit of a killed process is waited for. -/
def killGrace : Span :=
  .ofSeconds 5

/-- Timers are no finer than a millisecond. -/
def SupervisorSettings.pollInterval (s : SupervisorSettings) : Span :=
  .ofMillis (max s.probeIntervalMs.toNat 1)

namespace Station

variable {σ : Type} [Browsable σ]

/-- The conduct of a process. One that was never started does nothing. -/
def conductOf (st : Station σ) (pid : Nat) : Conduct :=
  ((st.process? pid).map (·.conduct)).getD ⟨none, none, fun _ => none⟩

/-- The files once a process has written its pid file. -/
def announced (files : σ) (pid : Nat) (path : String) : σ :=
  (Disk.write path (Utf8.encode (Decimal.ofNat pid ++ "\n")) files).2

/-- The files as a process leaves them when some time has passed. -/
def filesAt (st : Station σ) (pid : Nat) (time : Nat) : σ :=
  match dueBy (st.conductOf pid).announces time with
  | some path => announced st.files pid path
  | none => st.files

/-- Time passes for a process. -/
def await (st : Station σ) (pid : Nat) (t : Span) : Station σ :=
  if (st.exit? pid).isSome then st
  else
    let exit := dueBy (st.conductOf pid).exits t.nanos
    let st := (st.withFiles (st.filesAt pid t.nanos)).onProcess pid
      fun p => { p with conduct := p.conduct.after t }
    match exit with
    | some code => st.processExits pid code
    | none => st

/-- Polls a new process until it has exited or is live. -/
def probe (s : SupervisorSettings) (st : Station σ) (pid : Nat) : Probe × Span :=
  Probe.wait (st.conductOf pid).exits (fun time => s.seesPidFile (st.filesAt pid time))
    s.pollInterval s.startTimeout

/-- Goes on with a start when polling the new process has ended. -/
def conclude (s : SupervisorSettings) (program : Program) (st : Station σ) (pid : Nat) :
    Probe → Except SupervisorError Unit × Station σ
  | .live => st.goLive pid
  | .exited code => st.missStart pid code
  | .timedOut => ((st.send program pid .kill).2.await pid killGrace).dropStart s pid

/-- Waits for a new process to become live. -/
def awaitLive (s : SupervisorSettings) (program : Program) (st : Station σ) (pid : Nat) :
    Except SupervisorError Unit × Station σ :=
  let probe := st.probe s pid
  (st.await pid probe.2).conclude s program pid probe.1

/-- How long it takes until a test, or the attempt to run it, has ended. -/
def testTime : Except Fault TestRun → Span
  | .ok run => run.takes
  | .error _ => ⟨0⟩

/-- Waits for a configuration test. -/
def awaitVerdict (s : SupervisorSettings) (program : Program) (st : Station σ) (pid : Nat) :
    Except SupervisorError Unit × Station σ :=
  let run := program.test s.testArguments
  (st.await pid (testTime run)).judge program pid run

/-- Waits for a process to stop, by force once the deadline has passed. -/
def awaitStop (s : SupervisorSettings) (program : Program) (st : Station σ) (pid : Nat) :
    Except SupervisorError Unit × Station σ :=
  let st := st.await pid s.stopTimeout
  if (st.exit? pid).isSome then (.ok (), st.enter .stopped)
  else
    match st.insist s program pid with
    | .ended result => result
    | .waiting _ st => (st.await pid killGrace).dropStop s

/-- Waits until an operation has ended. -/
def finish (s : SupervisorSettings) (program : Program) :
    Progress σ → Except SupervisorError Unit × Station σ
  | .ended result => result
  | .waiting (.live pid) st => st.awaitLive s program pid
  | .waiting (.fallen pid) st => (st.await pid killGrace).dropStart s pid
  | .waiting (.verdict pid) st => st.awaitVerdict s program pid
  | .waiting (.drained pid) st => st.awaitStop s program pid
  | .waiting (.killed pid) st => (st.await pid killGrace).dropStop s

/-- Carries an operation out. -/
def perform (s : SupervisorSettings) (program : Program) (op : Operation) (st : Station σ) :
    Except SupervisorError Unit × Station σ :=
  finish s program (st.undertake s program op)

/-- Starts the proxy and waits until it is live; a live proxy is left alone. -/
def start (s : SupervisorSettings) (program : Program) (st : Station σ) :
    Except SupervisorError Unit × Station σ :=
  st.perform s program .start

/-- Has the running proxy load the configuration anew, after a test if one is wanted. -/
def reload (s : SupervisorSettings) (program : Program) (st : Station σ) :
    Except SupervisorError Unit × Station σ :=
  st.perform s program .reload

/-- Stops the proxy and waits for its exit. -/
def stop (s : SupervisorSettings) (program : Program) (graceful : Bool) (st : Station σ) :
    Except SupervisorError Unit × Station σ :=
  st.perform s program (.stop graceful)

end Station

end Portcullis
