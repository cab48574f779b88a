import Portcullis.Proofs.Supervision.Performance
import Portcullis.Supervision.Conduct

/-!
# Crashes

A supervisor that says it is running has a process that has not exited, unless the process exited
while its configuration was tested: then the reload that follows covers the crash up, and no start
repairs it.

* `Station.Vouched` is the invariant, `Machine.Vouched.step` its step lemma.
* `Machine.not_isRunning_of_exited` is what it says about runs without a crash during a test.
* `Machine.judge_covers_crash` is what happens after one.
-/

namespace Portcullis

open Portcullis.Telemetry

namespace Station

variable {σ : Type} {st : Station σ} {pid : Nat}

/-- A station that runs has a process that has not exited. -/
def Vouches (st : Station σ) : Prop :=
  st.supervisor.isRunning = true → ∃ pid, st.supervisor.slot = some pid ∧ st.exit? pid = none

/-- What is known of a station by what its supervisor is doing. A start sets the phase itself when
it ends. -/
def Vouched (st : Station σ) : Activity → Prop
  | .idle _ => st.Vouches
  | .busy _ (.live _) | .busy _ (.fallen _) => True
  | .busy _ (.verdict pid) => st.supervisor.slot = some pid ∧ st.exit? pid = none
  | .busy _ (.drained _) | .busy _ (.killed _) => st.supervisor.isRunning = false

theorem Vouches.of_not_isRunning (h : st.supervisor.isRunning = false) : st.Vouches := by
  intro hrunning
  rw [h] at hrunning
  cases hrunning

/-! ## Exits -/

theorem Vouches.processExits (h : st.Vouches) (pid : Nat) (code : ExitCode) :
    (st.processExits pid code).Vouches := by
  cases halive : st.isAlive pid with
  | true => exact .of_not_isRunning (isRunning_processExits halive code)
  | false => rwa [processExits_of_not_isAlive halive]

/-! ## Changes that matter to nobody -/

theorem Vouches.onProcess {f : Process σ → Process σ} (h : st.Vouches)
    (hf : ∀ p, (f p).pid = p.pid) (hexit : ∀ p, (f p).exit = p.exit) (pid : Nat) :
    (st.onProcess pid f).Vouches := by
  intro hrunning
  obtain ⟨q, hslot, hq⟩ := h hrunning
  exact ⟨q, hslot, (exit?_onProcess hf hexit).trans hq⟩

/-! ## Operations -/

/-- To tell a process that has not exited to reload leaves it running. -/
theorem vouches_signalReload {program : Program} (hslot : st.supervisor.slot = some pid)
    (hexit : st.exit? pid = none) : (st.signalReload program pid).2.Vouches := by
  have hrunning : (st.withPhase .running).Vouches := fun _ => ⟨pid, hslot, hexit⟩
  rcases st.signalReload_cases program pid with ⟨_, reason, journal, hsignal⟩ |
    ⟨_, journal, hsignal⟩ | ⟨_, journal, hsignal⟩ <;> rw [hsignal]
  · exact hrunning
  · exact hrunning
  · exact hrunning.onProcess (f := (·.receive .hangup st.files)) (fun _ => rfl) (fun _ => rfl) pid

end Station

/-- The invariant of a machine. -/
def Machine.Vouched {σ : Type} (m : Machine σ) : Prop :=
  m.station.Vouched m.activity

namespace Machine

open Station

variable {σ : Type} {s : SupervisorSettings} {m m' : Machine σ} {e : Occurrence σ}

/-- No process exits while its configuration is tested. -/
def Undisturbed (m : Machine σ) (e : Occurrence σ) : Prop :=
  ∀ op pid code, m.activity = .busy op (.verdict pid) → e ≠ .incident (.exit pid code)

theorem Vouched.undergo (h : m.Vouched) {i : Incident σ} (hallowed : m.Undisturbed (.incident i)) :
    ({ m with station := m.station.undergo i } : Machine σ).Vouched := by
  obtain ⟨st, a⟩ := m
  cases i with
  | exit pid code =>
    match a, h with
    | .idle _, h => exact Vouches.processExits h pid code
    | .busy _ (.live _), _ => trivial
    | .busy _ (.fallen _), _ => trivial
    | .busy op (.verdict q), ⟨hslot, hexit⟩ =>
      have hne : q ≠ pid := by
        rintro rfl
        exact hallowed op q code rfl rfl
      exact ⟨(slot_processExits st pid code).trans hslot,
        (exit?_processExits_of_ne hne code).trans hexit⟩
    | .busy _ (.drained _), h => exact isRunning_processExits_of_not h pid code
    | .busy _ (.killed _), h => exact isRunning_processExits_of_not h pid code
  | files files => exact h
  | turn pid change =>
    match a, h with
    | .idle _, h =>
      exact Vouches.onProcess (f := (·.turned change)) h (fun _ => rfl) (fun _ => rfl) pid
    | .busy _ (.live _), _ => trivial
    | .busy _ (.fallen _), _ => trivial
    | .busy _ (.verdict q), ⟨hslot, hexit⟩ =>
      have hturned : (st.onProcess pid (·.turned change)).exit? q = st.exit? q :=
        exit?_onProcess (fun _ => rfl) fun _ => rfl
      exact ⟨hslot, hturned.trans hexit⟩
    | .busy _ (.drained _), h => exact h
    | .busy _ (.killed _), h => exact h

variable [Browsable σ]

theorem vouched_undertake (h : m.Vouched)
    {last : Option (Operation × Except SupervisorError Unit)} (hidle : m.activity = .idle last)
    (program : Program) (op : Operation) :
    ((m.station.undertake s program op).machine op).Vouched := by
  obtain ⟨st, a⟩ := m
  obtain rfl : a = .idle last := hidle
  change st.Vouches at h
  cases op with
  | start =>
    obtain ⟨files, journal, hclear⟩ := st.clearPidFile_eq s.pidPath
    show ((st.beginStart s program).machine .start).Vouched
    rcases st.beginStart_cases s program with ⟨_, journal', hbegin⟩ | ⟨_, _, hbegin⟩ |
      ⟨_, _, _, e, journal', hbegin⟩ | ⟨_, conduct, _, journal', hbegin⟩ <;> rw [hbegin]
    · exact h
    · exact h
    · exact Vouches.of_not_isRunning rfl
    · trivial
  | reload =>
    show ((st.beginReload s program).machine .reload).Vouched
    have hvouched : ∀ pid, st.supervisor.slot = some pid → st.supervisor.phase = .running →
        st.exit? pid = none := by
      intro pid hslot hphase
      obtain ⟨q, hq, hexit⟩ := h (by rw [Supervisor.isRunning, hphase]; rfl)
      rwa [← Option.some.inj (hq.symm.trans hslot)]
    rcases st.beginReload_cases s program with ⟨e, hbegin⟩ | ⟨pid, hslot, hphase, hbegin⟩ |
      ⟨pid, hslot, hphase, hbegin⟩ <;> rw [hbegin]
    · exact h
    · exact ⟨hslot, hvouched pid hslot hphase⟩
    · exact vouches_signalReload hslot (hvouched pid hslot hphase)
  | stop graceful =>
    show ((st.beginStop program graceful).machine (.stop graceful)).Vouched
    rcases st.beginStop_cases program graceful with ⟨_, journal, hbegin⟩ |
      ⟨pid, hslot, _, journal, hbegin⟩ | ⟨pid, hslot, hexit, _, _, journal, hbegin⟩ |
      ⟨pid, hslot, _, journal, hbegin⟩ <;> rw [hbegin]
    · exact Vouches.of_not_isRunning rfl
    · exact Vouches.of_not_isRunning rfl
    · exact fun _ => ⟨pid, rfl, hexit⟩
    · rfl

theorem vouched_resume (h : m.Vouched) {op : Operation} {a : Await}
    (hbusy : m.activity = .busy op a) (n : News) (program : Program) :
    ((m.station.resume s program a n).machine op).Vouched := by
  obtain ⟨st, activity⟩ := m
  obtain rfl : activity = .busy op a := hbusy
  change st.Vouched _ at h
  have hresumed := st.resumed s program a n
  show ((st.resume s program a n).machine op).Vouched
  generalize st.resume s program a n = progress at hresumed ⊢
  cases hresumed with
  | still => exact h
  | @live pid hexit =>
    obtain ⟨journal, hlive⟩ := st.goLive_eq pid
    rw [hlive]
    exact fun _ => ⟨pid, rfl, hexit⟩
  | @missed pid code hexit =>
    obtain ⟨e, journal, hmiss⟩ := st.missStart_eq pid code
    rw [hmiss]
    exact Vouches.of_not_isRunning rfl
  | late => trivial
  | @fallen pid =>
    obtain ⟨e, journal, hdrop⟩ := st.dropStart_eq s pid
    rw [hdrop]
    exact Vouches.of_not_isRunning rfl
  | @tested pid run =>
    rcases st.judge_cases program pid run with ⟨e, tested, journal, hjudge⟩ | ⟨tested, hjudge⟩ <;>
      rw [hjudge]
    · exact fun _ => ⟨pid, h⟩
    · have hslot : (st.withTested tested).supervisor.slot = some pid := h.1
      exact vouches_signalReload hslot h.2
  | drained =>
    obtain ⟨journal, henter⟩ := st.enter_eq_withJournal .stopped
    rw [henter]
    exact Vouches.of_not_isRunning rfl
  | @undrained pid =>
    rcases st.insist_cases s program pid with ⟨_, e, journal, hinsist⟩ | ⟨journal, hinsist⟩ |
      ⟨journal, hinsist⟩ <;> rw [hinsist]
    · exact Vouches.of_not_isRunning h
    · exact h
    · exact h
  | killed =>
    obtain ⟨journal, henter⟩ := st.enter_eq_withJournal .stopped
    show (st.dropStop s).2.Vouches
    rw [dropStop, henter]
    exact Vouches.of_not_isRunning rfl

/-- Every step but the exit of a process under test keeps the invariant. -/
theorem Vouched.step (h : m.Vouched) (hallowed : m.Undisturbed e) (he : m.step s e = some m') :
    m'.Vouched := by
  rcases step_cases he with ⟨op, program, last, rfl, hidle, rfl⟩ |
    ⟨n, program, op, a, rfl, hbusy, rfl⟩ | ⟨i, rfl, rfl⟩
  · exact vouched_undertake h hidle program op
  · exact vouched_resume h hbusy n program
  · exact h.undergo hallowed

/-! ## Runs -/

theorem vouched_of_runs {files : σ} {journal : Journal}
    (h : Runs s Undisturbed (fresh files journal) m) : m.Vouched :=
  h.invariant (Vouches.of_not_isRunning rfl) fun _ _ _ hm hallowed he => hm.step hallowed he

/-- As long as no process exits while its configuration is tested: between operations, once the
owned process has exited, the supervisor does not say that it is running, and the next start starts
a process. -/
theorem not_isRunning_of_exited {files : σ} {journal : Journal}
    (h : Runs s Undisturbed (fresh files journal) m)
    {last : Option (Operation × Except SupervisorError Unit)} (hidle : m.activity = .idle last)
    {pid : Nat} (hslot : m.station.supervisor.slot = some pid)
    (hexit : (m.station.exit? pid).isSome = true) :
    m.station.supervisor.isRunning = false ∧
      ∀ program conduct m', s.lacksBinary m.station.files = false →
        program.run s.runArguments = .ok conduct → m.step s (.call .start program) = some m' →
        ∃ p, p.exit = none ∧ m'.station.processes = p :: m.station.processes := by
  have hvouched : m.station.Vouches := by
    have hm := vouched_of_runs h
    rwa [Vouched, hidle] at hm
  have hdown : m.station.supervisor.isRunning = false := by
    rw [Bool.eq_false_iff]
    intro hrunning
    obtain ⟨q, hq, hnone⟩ := hvouched hrunning
    rw [Option.some.inj (hslot.symm.trans hq), hnone] at hexit
    cases hexit
  exact ⟨hdown, fun program conduct m' hbinary hrun he =>
    processes_start_of_not_isRunning hdown hbinary hrun he⟩

/-- A proxy that exits between operations. -/
theorem not_isRunning_of_exited_atRest :
    ∃ m, Runs { binary := "proxy" } Undisturbed (fresh Files.empty Journal.empty) m ∧
      m.station.supervisor.slot = some 1 ∧ (m.station.exit? 1).isSome = true ∧
      m.station.supervisor.isRunning = false := by
  let program := Program.always .silent
  have hfresh : Runs { binary := "proxy" } Undisturbed (fresh Files.empty Journal.empty)
    (fresh Files.empty Journal.empty) := Runs.refl _
  have hstart := hfresh.step (.call .start program) nofun rfl
  have hlive := hstart.step (.news .look program) nofun rfl
  have hexit := hlive.step (.incident (.exit 1 (some 0))) nofun rfl
  exact ⟨_, hexit, rfl, rfl, (not_isRunning_of_exited hexit rfl rfl rfl).1⟩

/-! ## A crash during a test -/

omit [Browsable σ] in
/-- A reload that goes ahead after its test says that the proxy is running, also when the process
has exited by then. -/
theorem judge_covers_crash {st : Station σ} {pid : Nat} (hslot : st.supervisor.slot = some pid)
    (hexit : (st.exit? pid).isSome = true) (program : Program) {run : TestRun}
    (hpassed : run.passed = true) :
    ∃ st', st.judge program pid (.ok run) = (.ok (), st') ∧ st'.supervisor.isRunning = true ∧
      st'.supervisor.slot = some pid ∧ (st'.exit? pid).isSome = true := by
  let tested := st.withTested (st.supervisor.tested + 1)
  have hjudge : st.judge program pid (.ok run) = tested.signalReload program pid := by
    simp only [Station.judge, hpassed, if_true]
    rfl
  have hne : tested.exit? pid ≠ none := Option.isSome_iff_ne_none.mp hexit
  rcases tested.signalReload_cases program pid with ⟨hnone, _⟩ | ⟨_, journal, hsignal⟩ | ⟨hnone, _⟩
  · exact absurd hnone hne
  · exact ⟨_, hjudge.trans hsignal, rfl, hslot, hexit⟩
  · exact absurd hnone hne

/-- A proxy that is gone after a second, and a configuration test that takes two. -/
def sleeper : SupervisorSettings where
  binary := "sleep"
  args := some ["1"]
  testArgs := some ["2"]

/-- The proxy exits during the test of a reload. Between operations it is said to be running, and a
start starts nothing. -/
theorem isRunning_of_exited_duringTest :
    ∃ m result, Runs sleeper Anything (fresh Files.empty Journal.empty) m ∧
      m.activity = .idle (some (.reload, result)) ∧ m.station.supervisor.slot = some 1 ∧
      (m.station.exit? 1).isSome = true ∧ m.station.supervisor.isRunning = true ∧
      ∀ program m', m.step sleeper (.call .start program) = some m' →
        m'.station.processes = m.station.processes := by
  let started := (fresh Files.empty Journal.empty).station.start sleeper .pausing
  let reloaded := started.2.reload sleeper .pausing
  have hstart : Runs sleeper Anything (fresh Files.empty Journal.empty)
      ⟨started.2, .idle (some (.start, started.1))⟩ := perform_runs .start none
  have hreload : Runs sleeper Anything (fresh Files.empty Journal.empty)
      ⟨reloaded.2, .idle (some (.reload, reloaded.1))⟩ := hstart.trans (perform_runs .reload _)
  have hrunning : reloaded.2.supervisor.isRunning = true := by decide
  exact ⟨_, _, hreload, rfl, by decide, by decide, hrunning,
    fun program m' he => processes_start_of_isRunning hrunning he⟩

end Machine

end Portcullis
