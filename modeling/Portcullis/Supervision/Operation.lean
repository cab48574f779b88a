import Portcullis.Supervision.Station
import Portcullis.Text.Blank

/-!
# Operations on the proxy

Starting, reloading and stopping.  One operation is carried out at a time, and the process may
exit whenever an operation waits.

* `Station.undertake` carries out an operation up to its first wait, `Station.resume` goes on
  with it when there is news, up to the next wait or to its end.
* Nothing restarts a crashed proxy but the next start.
-/

namespace Portcullis

open Portcullis.Text
open Portcullis.Telemetry

namespace SupervisorSettings

variable {σ : Type} [Browsable σ]

/-- The file that a live proxy has written. -/
def pidPath (s : SupervisorSettings) : Option String :=
  s.pidFile.map (Path.join s.home)

/-- The arguments of a run. -/
def runArguments (s : SupervisorSettings) : List String :=
  s.args.getD ["-p", s.home, "-c", s.mainConfig, "-g", "daemon off;"]

/-- The arguments of a configuration test. -/
def testArguments (s : SupervisorSettings) : List String :=
  s.testArgs.getD ["-p", s.home, "-c", s.mainConfig, "-t"]

/-- Whether the binary is a path that leads to no file. A bare name is looked up when it is run. -/
def lacksBinary (s : SupervisorSettings) (files : σ) : Bool :=
  1 < (Path.components s.binary).length && !Browsable.isFile files s.binary

/-- Whether the pid file, if there has to be one, is there. -/
def seesPidFile (s : SupervisorSettings) (files : σ) : Bool :=
  match s.pidPath with
  | some path => Browsable.isPresent files path
  | none => true

end SupervisorSettings

inductive Operation where
  | start
  | reload
  | stop (graceful : Bool)
  deriving DecidableEq, Repr

/-- What an operation may wait for. -/
inductive Await where
  /-- A new process becomes live. -/
  | live (pid : Nat)
  /-- A process that did not become live, and was killed, exits. -/
  | fallen (pid : Nat)
  /-- A configuration test for a process ends. -/
  | verdict (pid : Nat)
  /-- A process that was told to stop exits. -/
  | drained (pid : Nat)
  /-- A process that did not stop in time, and was killed, exits. -/
  | killed (pid : Nat)
  deriving DecidableEq, Repr

/-- What takes an operation on from its wait. -/
inductive News where
  /-- It is time to look again. -/
  | look
  /-- The time for waiting is up. -/
  | timeUp
  | tested (run : Except Fault TestRun)

/-- How far an operation has come: it has ended with a result, or it waits. -/
inductive Progress (σ : Type) where
  | ended (result : Except SupervisorError Unit × Station σ)
  | waiting (a : Await) (st : Station σ)

namespace Station

variable {σ : Type}

/-- Sends a signal to a process, unless its exit has been observed. -/
def send (program : Program) (pid : Nat) (signal : Signal) (st : Station σ) :
    Except SupervisorError Unit × Station σ :=
  if (st.exit? pid).isSome then (.ok (), st)
  else
    match program.refuses signal with
    | some reason => (.error (.signal reason), st)
    | none => (.ok (), st.onProcess pid (·.receive signal st.files))

@[simp] theorem supervisor_send (program : Program) (pid : Nat) (signal : Signal)
    (st : Station σ) : (st.send program pid signal).2.supervisor = st.supervisor := by
  unfold send
  split
  · rfl
  · split <;> rfl

@[simp] theorem files_send (program : Program) (pid : Nat) (signal : Signal) (st : Station σ) :
    (st.send program pid signal).2.files = st.files := by
  unfold send
  split
  · rfl
  · split <;> rfl

variable [Browsable σ]

/-! ## Starting -/

/-- Takes away a pid file that an earlier process left. -/
def clearPidFile (st : Station σ) : Option String → Station σ
  | some path =>
    if Browsable.isPresent st.files path then
      let st := st.report .warn "Removing stale pid file" [("path", path)]
      st.withFiles (Disk.remove path st.files).2
    else st
  | none => st

@[simp] theorem supervisor_clearPidFile (st : Station σ) (path : Option String) :
    (st.clearPidFile path).supervisor = st.supervisor := by
  cases path with
  | none => rfl
  | some path =>
    simp only [clearPidFile]
    split <;> rfl

@[simp] theorem processes_clearPidFile (st : Station σ) (path : Option String) :
    (st.clearPidFile path).processes = st.processes := by
  cases path with
  | none => rfl
  | some path =>
    simp only [clearPidFile]
    split <;> rfl

/-- Starts a process; a live proxy is left alone. -/
def beginStart (s : SupervisorSettings) (program : Program) (st : Station σ) : Progress σ :=
  if st.supervisor.isRunning then
    .ended (.ok (), st.report .debug "Proxy already running, start is a no-op"
      [("state", st.supervisor.phase.name)])
  else if s.lacksBinary st.files then .ended (.error (.binaryNotFound s.binary), st)
  else
    let st := (st.clearPidFile s.pidPath).enter .starting
    match program.run s.runArguments with
    | .error .notFound => .ended (.error (.binaryNotFound s.binary), st.enter .stopped)
    | .error f => .ended (.error (.spawn f), st.enter .stopped)
    | .ok conduct =>
      let pid := st.nextPid
      .waiting (.live pid) ((st.spawn conduct).report .info "Proxy process spawned"
        [pidDetail pid, ("binary", s.binary)])

/-- A new process has become live. -/
def goLive (st : Station σ) (pid : Nat) : Except SupervisorError Unit × Station σ :=
  let st := (st.enter .running).report .info "Proxy is live" [pidDetail pid]
  (.ok (), st.withSlot (some pid))

/-- A new process exited before it was live. -/
def missStart (st : Station σ) (pid : Nat) (code : ExitCode) :
    Except SupervisorError Unit × Station σ :=
  (.error (.exitedDuringStartup code),
    (st.enter .stopped).report .error "Proxy exited during startup"
      [pidDetail pid, ("code", exitCodeText code)])

/-- A new process that was not live in time has been killed. -/
def dropStart (s : SupervisorSettings) (st : Station σ) (pid : Nat) :
    Except SupervisorError Unit × Station σ :=
  (.error (.probeTimeout s.startTimeout),
    (st.enter .stopped).report .error "Proxy did not become live, killed"
      [pidDetail pid, ("timeout_secs", Decimal.ofNat s.startTimeoutSecs.toNat)])

/-! ## Reloading -/

/-- Tells a process to load the configuration anew. -/
def signalReload (program : Program) (st : Station σ) (pid : Nat) :
    Except SupervisorError Unit × Station σ :=
  match (st.enter .reloading).send program pid .hangup with
  | (.error e, st) => (.error e, st.enter .running)
  | (.ok (), st) =>
    let st := if st.supervisor.phase = .reloading then st.withPhase .running else st
    (.ok (), st.showPhase.report .info "Proxy reload signalled" [pidDetail pid])

/-- Has the running proxy load the configuration anew, after a test if one is wanted. -/
def beginReload (s : SupervisorSettings) (program : Program) (st : Station σ) : Progress σ :=
  match st.supervisor.slot, st.supervisor.phase with
  | some pid, .running =>
    if s.testBeforeReload then .waiting (.verdict pid) st
    else .ended (st.signalReload program pid)
  | _, phase => .ended (.error (.invalidState "reload" phase), st)

/-- A configuration test has ended. -/
def judge (program : Program) (st : Station σ) (pid : Nat) :
    Except Fault TestRun → Except SupervisorError Unit × Station σ
  | .error f => (.error (.spawn f), st)
  | .ok run =>
    let st :=
      { st with supervisor := { st.supervisor with tested := st.supervisor.tested + 1 } }
    if run.passed then st.signalReload program pid
    else
      let stderr := trim run.stderr
      (.error (.configTest stderr),
        st.report .error "Proxy rejected the compiled configuration" [("stderr", stderr)])

/-! ## Stopping -/

/-- Tells the owned process to stop. It is owned no more, unless it cannot be told. -/
def beginStop (program : Program) (graceful : Bool) (st : Station σ) : Progress σ :=
  match st.supervisor.slot with
  | none => .ended (.ok (), st.enter .stopped)
  | some pid =>
    let st := st.withSlot none
    if (st.exit? pid).isSome then .ended (.ok (), st.enter .stopped)
    else
      let st := (st.enter .stopping).report .info "Stopping proxy"
        [pidDetail pid, ("signal", if graceful then "SIGQUIT" else "SIGTERM")]
      match st.send program pid (if graceful then .quit else .terminate) with
      | (.error e, st) => .ended (.error e, (st.withSlot (some pid)).enter .running)
      | (.ok (), st) => .waiting (.drained pid) st

/-- Kills a process that has not stopped in time. -/
def insist (s : SupervisorSettings) (program : Program) (st : Station σ) (pid : Nat) :
    Progress σ :=
  let st := st.report .warn "Proxy did not drain in time, killing"
    [pidDetail pid, ("timeout_secs", Decimal.ofNat s.stopTimeoutSecs.toNat)]
  match st.send program pid .kill with
  | (.error e, st) => .ended (.error e, st)
  | (.ok (), st) => .waiting (.killed pid) st

/-- A process that had to be killed has been waited for. -/
def dropStop (s : SupervisorSettings) (st : Station σ) : Except SupervisorError Unit × Station σ :=
  (.error (.stopTimeout s.stopTimeout), st.enter .stopped)

/-! ## All operations -/

/-- Carries an operation out, up to its first wait. -/
def undertake (s : SupervisorSettings) (program : Program) (st : Station σ) :
    Operation → Progress σ
  | .start => st.beginStart s program
  | .reload => st.beginReload s program
  | .stop graceful => st.beginStop program graceful

/-- Goes on with an operation when there is news. A wait for an exit ends with the exit, or when
its time is up; one for a test ends with the test. -/
def resume (s : SupervisorSettings) (program : Program) (st : Station σ) (a : Await) (n : News) :
    Progress σ :=
  match a, n with
  | .live pid, .look =>
    match Probe.see (st.exit? pid) (s.seesPidFile st.files) with
    | some (.exited code) => .ended (st.missStart pid code)
    | some _ => .ended (st.goLive pid)
    | none => .waiting a st
  | .live pid, .timeUp => .waiting (.fallen pid) (st.send program pid .kill).2
  | .fallen pid, .look =>
    if (st.exit? pid).isSome then .ended (st.dropStart s pid) else .waiting a st
  | .fallen pid, .timeUp => .ended (st.dropStart s pid)
  | .verdict pid, .tested run => .ended (st.judge program pid run)
  | .drained pid, .look =>
    if (st.exit? pid).isSome then .ended (.ok (), st.enter .stopped) else .waiting a st
  | .drained pid, .timeUp => st.insist s program pid
  | .killed pid, .look =>
    if (st.exit? pid).isSome then .ended (st.dropStop s) else .waiting a st
  | .killed _, .timeUp => .ended (st.dropStop s)
  | _, _ => .waiting a st

end Station

end Portcullis
