import Portcullis.Proofs.Runs
import Portcullis.Proofs.Supervision.Transitions
import Portcullis.Supervision.Supervisor

/-!
# The supervisor as a machine

The supervisor together with the operation in progress, taken step after step: an operation is
called when none is in progress, news takes it on, and at any time a process may exit, files may
change and processes may change their conduct.

* `Machine.step` is one step, and `Machine.step_cases` says all that a step may be.
* `Machine.Runs` are its runs, on which a condition may say what can happen when.
-/

namespace Portcullis

/-- A program whose processes all behave alike, and which accepts every configuration. -/
def Program.always (conduct : Conduct) : Program where
  run _ := .ok conduct
  test _ := .ok { passed := true, stderr := "" }

/-- What the supervisor is doing. -/
inductive Activity where
  /-- Nothing. The last operation and its result, if there was one. -/
  | idle (last : Option (Operation × Except SupervisorError Unit))
  | busy (op : Operation) (a : Await)

/-- What can happen whatever the supervisor is doing. -/
inductive Incident (σ : Type) where
  /-- A process exits, and its exit is observed. -/
  | exit (pid : Nat) (code : ExitCode)
  | files (files : σ)
  /-- A process changes its conduct. -/
  | turn (pid : Nat) (change : Conduct → Conduct)

/-- What can happen. The program says how the processes of the moment are run, tested and told. -/
inductive Occurrence (σ : Type) where
  | call (op : Operation) (program : Program)
  | news (n : News) (program : Program)
  | incident (i : Incident σ)

/-- A process with another conduct. -/
def Process.turned {σ : Type} (p : Process σ) (change : Conduct → Conduct) : Process σ :=
  { p with conduct := change p.conduct }

def Station.undergo {σ : Type} (st : Station σ) : Incident σ → Station σ
  | .exit pid code => st.processExits pid code
  | .files files => st.withFiles files
  | .turn pid change => st.onProcess pid (·.turned change)

/-- A station and what its supervisor is doing. -/
structure Machine (σ : Type) where
  station : Station σ
  activity : Activity := .idle none

/-- The machine once an operation has come so far. -/
def Progress.machine {σ : Type} (op : Operation) : Progress σ → Machine σ
  | .ended result => ⟨result.2, .idle (some (op, result.1))⟩
  | .waiting a st => ⟨st, .busy op a⟩

namespace Machine

variable {σ : Type}

/-- A supervisor that has not been told to do anything. -/
def fresh (files : σ) (journal : Telemetry.Journal) : Machine σ :=
  ⟨{ files := files, journal := journal }, .idle none⟩

variable [Browsable σ]

/-- What a machine does when something happens. Operations are called one at a time, and there is
news for none but the one in progress. -/
def step (s : SupervisorSettings) (m : Machine σ) : Occurrence σ → Option (Machine σ)
  | .call op program =>
    match m.activity with
    | .idle _ => some ((m.station.undertake s program op).machine op)
    | .busy .. => none
  | .news n program =>
    match m.activity with
    | .idle _ => none
    | .busy op a => some ((m.station.resume s program a n).machine op)
  | .incident i => some { m with station := m.station.undergo i }

/-- A run in which things happen that a condition allows. -/
abbrev Runs (s : SupervisorSettings) (allowed : Machine σ → Occurrence σ → Prop) :
    Machine σ → Machine σ → Prop :=
  Portcullis.Runs (step s) allowed

/-- Nothing is called. -/
def Unbidden (_ : Machine σ) (e : Occurrence σ) : Prop :=
  ∀ op program, e ≠ .call op program

variable {s : SupervisorSettings} {allowed : Machine σ → Occurrence σ → Prop}
  {m m' : Machine σ} {e : Occurrence σ}

/-- A step begins an operation, or goes on with one, or is an incident. -/
theorem step_cases (h : m.step s e = some m') :
    (∃ op program last, e = .call op program ∧ m.activity = .idle last ∧
      m' = (m.station.undertake s program op).machine op) ∨
    (∃ n program op a, e = .news n program ∧ m.activity = .busy op a ∧
      m' = (m.station.resume s program a n).machine op) ∨
    (∃ i, e = .incident i ∧ m' = { m with station := m.station.undergo i }) := by
  cases e with
  | call op program =>
    simp only [step] at h
    split at h
    · next last hactivity =>
      exact Or.inl ⟨op, program, last, rfl, hactivity, (Option.some.inj h).symm⟩
    · cases h
  | news n program =>
    simp only [step] at h
    split at h
    · cases h
    · next op a hactivity =>
      exact Or.inr (Or.inl ⟨n, program, op, a, rfl, hactivity, (Option.some.inj h).symm⟩)
  | incident i => exact Or.inr (Or.inr ⟨i, rfl, (Option.some.inj h).symm⟩)

/-! ## Starting -/

/-- A start leaves a live proxy alone. -/
theorem processes_start_of_isRunning {program : Program}
    (hrunning : m.station.supervisor.isRunning = true)
    (he : m.step s (.call .start program) = some m') :
    m'.station.processes = m.station.processes := by
  rcases step_cases he with ⟨op, program', _, hcall, _, rfl⟩ | ⟨_, _, _, _, hnews, _⟩ | ⟨_, hi, _⟩
  · cases hcall
    rcases m.station.beginStart_cases s program with ⟨_, journal, hbegin⟩ | ⟨hdown, _⟩ |
      ⟨hdown, _⟩ | ⟨hdown, _⟩
    · rw [Station.undertake, hbegin]
      rfl
    all_goals
      rw [hrunning] at hdown
      cases hdown
  · cases hnews
  · cases hi

/-- Where nothing runs, a start starts a process, unless the program cannot be run. -/
theorem processes_start_of_not_isRunning {program : Program} {conduct : Conduct}
    (hdown : m.station.supervisor.isRunning = false)
    (hbinary : s.lacksBinary m.station.files = false)
    (hrun : program.run s.runArguments = .ok conduct)
    (he : m.step s (.call .start program) = some m') :
    ∃ p, p.exit = none ∧ m'.station.processes = p :: m.station.processes := by
  rcases step_cases he with ⟨op, program', _, hcall, _, rfl⟩ | ⟨_, _, _, _, hnews, _⟩ | ⟨_, hi, _⟩
  · cases hcall
    rcases m.station.beginStart_cases s program with ⟨hrunning, _⟩ | ⟨_, hlacks, _⟩ |
      ⟨_, f, hfail, _⟩ | ⟨_, conduct', _, journal, hbegin⟩
    · rw [hdown] at hrunning
      cases hrunning
    · rw [hbinary] at hlacks
      cases hlacks
    · rw [hrun] at hfail
      cases hfail
    · let cleared := (m.station.clearPidFile s.pidPath).withPhase .starting
      have hspawn : (cleared.spawn conduct').processes =
          ⟨cleared.nextPid, conduct', none, cleared.files⟩ :: m.station.processes := by
        rw [Station.processes_spawn, Station.processes_withPhase, Station.processes_clearPidFile]
      refine ⟨⟨cleared.nextPid, conduct', none, cleared.files⟩, rfl, ?_⟩
      rw [Station.undertake, hbegin]
      exact hspawn
  · cases hnews
  · cases hi

end Machine

end Portcullis
