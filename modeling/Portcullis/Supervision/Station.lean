import Portcullis.Files.Disk
import Portcullis.Settings.Basic
import Portcullis.Supervision.Error
import Portcullis.Supervision.Process
import Portcullis.Telemetry.Journal

/-!
# The supervisor's station

The supervisor with what it works on: the processes that it has started, the disk, and the
journal.

* The supervisor itself remembers a phase and at most one process, the one it owns.
* `Station.processExits` is the exit of a process with the note that is taken of it, whatever the
  supervisor is doing.
-/

namespace Portcullis

open Portcullis.Text
open Portcullis.Telemetry

/-- A process that was started. -/
structure Process (σ : Type) where
  pid : Nat
  conduct : Conduct
  /-- Its exit, once it has been observed. -/
  exit : Option ExitCode := none
  /-- The disk as it was when the process last loaded its configuration. -/
  loaded : σ

namespace Process

variable {σ : Type}

/-- A signal arrives at a process. One that is told to reload loads the files as they are. -/
def receive (p : Process σ) (signal : Signal) (files : σ) : Process σ :=
  { p with
    conduct := p.conduct.told signal
    loaded := if signal = .hangup then files else p.loaded }

/-- The exit of a process is observed. -/
def exited (p : Process σ) (code : ExitCode) : Process σ :=
  { p with exit := some code }

end Process

/-- What the supervisor remembers. -/
structure Supervisor where
  phase : Phase := .stopped
  /-- The process that became live last, until it is stopped. -/
  slot : Option Nat := none
  /-- The number of configuration tests run so far. -/
  tested : Nat := 0

def Supervisor.isRunning (s : Supervisor) : Bool :=
  s.phase.isLive

/-- The supervisor with what it works on. -/
structure Station (σ : Type) where
  supervisor : Supervisor := {}
  /-- All processes started so far, the latest first. -/
  processes : List (Process σ) := []
  files : σ
  journal : Journal

def pidDetail (pid : Nat) : String × String :=
  ("pid", Decimal.ofNat pid)

namespace Station

variable {σ : Type}

/-! ## Processes -/

def process? (st : Station σ) (pid : Nat) : Option (Process σ) :=
  st.processes.find? fun p => p.pid == pid

/-- The exit of a process, once it has been observed. -/
def exit? (st : Station σ) (pid : Nat) : Option ExitCode :=
  (st.process? pid).bind Process.exit

/-- Whether a process was started whose exit has not been observed. -/
def isAlive (st : Station σ) (pid : Nat) : Bool :=
  (st.process? pid).any (·.exit.isNone)

/-- The process that the supervisor owns, unless its exit has been observed. -/
def owned? (st : Station σ) : Option (Process σ) :=
  (st.supervisor.slot.bind st.process?).filter (·.exit.isNone)

def pid? (st : Station σ) : Option Nat :=
  st.owned?.map (·.pid)

/-- Changes a process. -/
def onProcess (st : Station σ) (pid : Nat) (f : Process σ → Process σ) : Station σ :=
  { st with processes := st.processes.map fun p => if p.pid = pid then f p else p }

/-- The pid of the next process. -/
def nextPid (st : Station σ) : Nat :=
  st.processes.length + 1

/-- Starts a process, which loads the files as they are. -/
def spawn (st : Station σ) (conduct : Conduct) : Station σ :=
  { st with
    processes := { pid := st.nextPid, conduct := conduct, loaded := st.files } :: st.processes }

/-! ## Bookkeeping -/

def report (st : Station σ) (level : Level) (message : String)
    (details : List (String × String)) : Station σ :=
  { st with journal := st.journal.log ⟨.supervisor, level, message, details⟩ }

def withFiles (st : Station σ) (files : σ) : Station σ :=
  { st with files := files }

def withSlot (st : Station σ) (slot : Option Nat) : Station σ :=
  { st with supervisor := { st.supervisor with slot := slot } }

def withPhase (st : Station σ) (phase : Phase) : Station σ :=
  { st with supervisor := { st.supervisor with phase := phase } }

/-- Shows the phase as a gauge. -/
def showPhase (st : Station σ) : Station σ :=
  { st with
    journal := st.journal.gauge ⟨"gatehouse_supervisor_state", []⟩ st.supervisor.phase.code }

/-- Enters a phase. -/
def enter (st : Station σ) (next : Phase) : Station σ :=
  let last := st.supervisor.phase
  let st := (st.withPhase next).showPhase
  if last = next then st
  else st.report .debug "Supervisor state changed" [("from", last.name), ("to", next.name)]

section Fields

variable (st : Station σ) (level : Level) (message : String) (details : List (String × String))
  (files : σ) (slot : Option Nat) (phase : Phase) (pid : Nat) (conduct : Conduct)
  (f : Process σ → Process σ)

@[simp] theorem supervisor_report : (st.report level message details).supervisor = st.supervisor :=
  rfl

@[simp] theorem processes_report : (st.report level message details).processes = st.processes :=
  rfl

@[simp] theorem files_report : (st.report level message details).files = st.files := rfl

@[simp] theorem supervisor_withFiles : (st.withFiles files).supervisor = st.supervisor := rfl

@[simp] theorem processes_withFiles : (st.withFiles files).processes = st.processes := rfl

@[simp] theorem files_withFiles : (st.withFiles files).files = files := rfl

@[simp] theorem phase_withSlot : (st.withSlot slot).supervisor.phase = st.supervisor.phase := rfl

@[simp] theorem slot_withSlot : (st.withSlot slot).supervisor.slot = slot := rfl

@[simp] theorem processes_withSlot : (st.withSlot slot).processes = st.processes := rfl

@[simp] theorem files_withSlot : (st.withSlot slot).files = st.files := rfl

@[simp] theorem phase_withPhase : (st.withPhase phase).supervisor.phase = phase := rfl

@[simp] theorem slot_withPhase : (st.withPhase phase).supervisor.slot = st.supervisor.slot := rfl

@[simp] theorem processes_withPhase : (st.withPhase phase).processes = st.processes := rfl

@[simp] theorem files_withPhase : (st.withPhase phase).files = st.files := rfl

@[simp] theorem supervisor_showPhase : st.showPhase.supervisor = st.supervisor := rfl

@[simp] theorem processes_showPhase : st.showPhase.processes = st.processes := rfl

@[simp] theorem files_showPhase : st.showPhase.files = st.files := rfl

@[simp] theorem supervisor_onProcess : (st.onProcess pid f).supervisor = st.supervisor := rfl

@[simp] theorem files_onProcess : (st.onProcess pid f).files = st.files := rfl

@[simp] theorem supervisor_spawn : (st.spawn conduct).supervisor = st.supervisor := rfl

@[simp] theorem files_spawn : (st.spawn conduct).files = st.files := rfl

/-- Entering a phase changes nothing else but what is reported. -/
theorem enter_eq : ∃ journal, st.enter phase = { st.withPhase phase with journal := journal } := by
  simp only [enter]
  split <;> exact ⟨_, rfl⟩

@[simp] theorem phase_enter : (st.enter phase).supervisor.phase = phase := by
  obtain ⟨_, h⟩ := st.enter_eq phase
  rw [h, phase_withPhase]

@[simp] theorem slot_enter : (st.enter phase).supervisor.slot = st.supervisor.slot := by
  obtain ⟨_, h⟩ := st.enter_eq phase
  rw [h, slot_withPhase]

@[simp] theorem processes_enter : (st.enter phase).processes = st.processes := by
  obtain ⟨_, h⟩ := st.enter_eq phase
  rw [h, processes_withPhase]

@[simp] theorem files_enter : (st.enter phase).files = st.files := by
  obtain ⟨_, h⟩ := st.enter_eq phase
  rw [h, files_withPhase]

end Fields

/-! ## Exits -/

/-- Takes note that a process has exited. -/
def onExit (st : Station σ) (pid : Nat) (code : ExitCode) : Station σ :=
  let last := st.supervisor.phase
  let next := last.afterExit
  let details := [pidDetail pid, ("code", exitCodeText code)]
  let st := if next = last then st else (st.withPhase next).showPhase
  if last.isLive then st.report .error "Proxy exited unexpectedly" details
  else st.report .info "Proxy exited" details

/-- An exit moves the phase on, and changes nothing else but what is reported. -/
theorem onExit_eq (st : Station σ) (pid : Nat) (code : ExitCode) :
    ∃ journal, st.onExit pid code =
      { st.withPhase st.supervisor.phase.afterExit with journal := journal } := by
  have hsame : st.supervisor.phase.afterExit = st.supervisor.phase →
      st = st.withPhase st.supervisor.phase.afterExit := by
    intro h
    rw [h]
    rfl
  simp only [onExit]
  by_cases h : st.supervisor.phase.afterExit = st.supervisor.phase
  · rw [← hsame h]
    simp only [if_pos h]
    split <;> exact ⟨_, rfl⟩
  · simp only [if_neg h]
    split <;> exact ⟨_, rfl⟩

section Exit

variable (st : Station σ) (pid : Nat) (code : ExitCode)

@[simp] theorem phase_onExit :
    (st.onExit pid code).supervisor.phase = st.supervisor.phase.afterExit := by
  obtain ⟨_, h⟩ := st.onExit_eq pid code
  rw [h, phase_withPhase]

@[simp] theorem slot_onExit : (st.onExit pid code).supervisor.slot = st.supervisor.slot := by
  obtain ⟨_, h⟩ := st.onExit_eq pid code
  rw [h, slot_withPhase]

@[simp] theorem processes_onExit : (st.onExit pid code).processes = st.processes := by
  obtain ⟨_, h⟩ := st.onExit_eq pid code
  rw [h, processes_withPhase]

@[simp] theorem files_onExit : (st.onExit pid code).files = st.files := by
  obtain ⟨_, h⟩ := st.onExit_eq pid code
  rw [h, files_withPhase]

end Exit

/-- A process exits, unless it has, and its exit is observed. -/
def processExits (st : Station σ) (pid : Nat) (code : ExitCode) : Station σ :=
  if st.isAlive pid then
    (st.onProcess pid (·.exited code)).onExit pid code
  else st

/-- The process that the supervisor owns exits. -/
def ownedExits (st : Station σ) (code : ExitCode) : Station σ :=
  match st.pid? with
  | some pid => st.processExits pid code
  | none => st

end Station

end Portcullis
