import Portcullis.Proofs.Supervision.Processes

/-!
# What an operation can do

For each part of an operation, all ways in which it can come out, up to what is reported.  Later
proofs go by these ways and open no operation.

* `Station.beginStart_cases`, `Station.beginReload_cases` and `Station.beginStop_cases` are the
  ways to begin.
* `Station.signalReload_cases`, `Station.judge_cases` and `Station.insist_cases` are the ways to
  go on, and `Station.Resumed` says which of them news leads to.
-/

namespace Portcullis.Station

open Portcullis.Text
open Portcullis.Telemetry

variable {σ : Type}

/-! ## What is reported changes nothing -/

def withJournal (st : Station σ) (journal : Journal) : Station σ :=
  { st with journal := journal }

/-- The number of tests run. -/
def withTested (st : Station σ) (tested : Nat) : Station σ :=
  { st with supervisor := { st.supervisor with tested := tested } }

section Fields

variable (st : Station σ) (journal : Journal) (phase : Phase) (slot : Option Nat) (pid : Nat)

@[simp] theorem processes_withJournal : (st.withJournal journal).processes = st.processes := rfl

@[simp] theorem exit?_withJournal : (st.withJournal journal).exit? pid = st.exit? pid := rfl

@[simp] theorem exit?_withPhase : (st.withPhase phase).exit? pid = st.exit? pid := rfl

@[simp] theorem exit?_withSlot : (st.withSlot slot).exit? pid = st.exit? pid := rfl

end Fields

theorem report_eq (st : Station σ) (level : Level) (message : String)
    (details : List (String × String)) :
    ∃ journal, st.report level message details = st.withJournal journal :=
  ⟨_, rfl⟩

theorem enter_eq_withJournal (st : Station σ) (phase : Phase) :
    ∃ journal, st.enter phase = (st.withPhase phase).withJournal journal :=
  st.enter_eq phase

/-! ## Signals -/

/-- A signal is late, or it is refused, or it arrives. -/
theorem send_cases (st : Station σ) (program : Program) (pid : Nat) (signal : Signal) :
    ((st.exit? pid).isSome ∧ st.send program pid signal = (.ok (), st)) ∨
    (st.exit? pid = none ∧ ∃ reason, program.refuses signal = some reason ∧
      st.send program pid signal = (.error (.signal reason), st)) ∨
    (st.exit? pid = none ∧ program.refuses signal = none ∧
      st.send program pid signal = (.ok (), st.onProcess pid (·.receive signal st.files))) := by
  unfold send
  split
  · next hexit => exact Or.inl ⟨hexit, rfl⟩
  · next hexit =>
    have hnone : st.exit? pid = none := by simpa using hexit
    split
    · next reason hrefuses => exact Or.inr (Or.inl ⟨hnone, reason, hrefuses, rfl⟩)
    · next hrefuses => exact Or.inr (Or.inr ⟨hnone, hrefuses, rfl⟩)

variable (s : SupervisorSettings) (program : Program) (st : Station σ) (pid : Nat)

/-! ## Starting -/

/-- Clearing the way for a pid file may change the files. -/
theorem clearPidFile_eq [Browsable σ] (path : Option String) :
    ∃ files journal, st.clearPidFile path = (st.withFiles files).withJournal journal := by
  cases path with
  | none => exact ⟨st.files, st.journal, rfl⟩
  | some path =>
    simp only [clearPidFile]
    split
    · exact ⟨_, _, rfl⟩
    · exact ⟨st.files, st.journal, rfl⟩

/-- A start leaves a live proxy alone; else it fails, or a process is started. -/
theorem beginStart_cases [Browsable σ] :
    (st.supervisor.isRunning = true ∧
      ∃ journal, st.beginStart s program = .ended (.ok (), st.withJournal journal)) ∨
    (st.supervisor.isRunning = false ∧ s.lacksBinary st.files = true ∧
      st.beginStart s program = .ended (.error (.binaryNotFound s.binary), st)) ∨
    (st.supervisor.isRunning = false ∧ ∃ f, program.run s.runArguments = .error f ∧ ∃ e journal,
      st.beginStart s program =
        .ended (.error e, ((st.clearPidFile s.pidPath).withPhase .stopped).withJournal journal)) ∨
    (st.supervisor.isRunning = false ∧ ∃ conduct, program.run s.runArguments = .ok conduct ∧
      ∃ journal,
      st.beginStart s program =
        .waiting (.live st.nextPid)
          ((((st.clearPidFile s.pidPath).withPhase .starting).spawn conduct).withJournal
            journal)) := by
  obtain ⟨journal, henter⟩ := (st.clearPidFile s.pidPath).enter_eq_withJournal .starting
  have hpid : (st.clearPidFile s.pidPath).nextPid = st.nextPid := by
    rw [nextPid, processes_clearPidFile, nextPid]
  unfold beginStart
  split
  · next hrunning => exact Or.inl ⟨hrunning, _, rfl⟩
  · next hrunning =>
    have hdown : st.supervisor.isRunning = false := by simpa using hrunning
    right
    split
    · next hlacks => exact Or.inl ⟨hdown, hlacks, rfl⟩
    · right
      obtain ⟨journal', hstopped⟩ :=
        ((st.clearPidFile s.pidPath).enter .starting).enter_eq_withJournal .stopped
      have hback : ((st.clearPidFile s.pidPath).enter .starting).enter .stopped =
          ((st.clearPidFile s.pidPath).withPhase .stopped).withJournal journal' := by
        rw [hstopped, henter]
        rfl
      simp only
      split
      · next hrun => exact Or.inl ⟨hdown, _, hrun, _, journal', by rw [hback]⟩
      · next hrun => exact Or.inl ⟨hdown, _, hrun, _, journal', by rw [hback]⟩
      · next conduct hrun =>
        obtain ⟨journal'', hreport⟩ :=
          (((st.clearPidFile s.pidPath).enter .starting).spawn conduct).report_eq .info
            "Proxy process spawned" [pidDetail st.nextPid, ("binary", s.binary)]
        have hnext : ((st.clearPidFile s.pidPath).enter .starting).nextPid = st.nextPid := by
          rw [nextPid, processes_enter, ← nextPid, hpid]
        refine Or.inr ⟨hdown, conduct, hrun, journal'', ?_⟩
        rw [hnext, hreport, henter]
        rfl

/-! ## Reloading -/

/-- To tell a process to reload ends in the phase `running`. -/
theorem signalReload_cases :
    (st.exit? pid = none ∧ ∃ reason journal,
      st.signalReload program pid =
        (.error (.signal reason), (st.withPhase .running).withJournal journal)) ∨
    ((st.exit? pid).isSome ∧ ∃ journal,
      st.signalReload program pid = (.ok (), (st.withPhase .running).withJournal journal)) ∨
    (st.exit? pid = none ∧ ∃ journal,
      st.signalReload program pid =
        (.ok (), ((st.withPhase .running).onProcess pid
          (·.receive .hangup st.files)).withJournal journal)) := by
  obtain ⟨journal, henter⟩ := st.enter_eq_withJournal .reloading
  have hexit_eq : (st.enter .reloading).exit? pid = st.exit? pid :=
    exit?_congr (processes_enter _ _)
  unfold signalReload
  rcases (st.enter .reloading).send_cases program pid .hangup with
    ⟨hexit, hsend⟩ | ⟨hexit, reason, _, hsend⟩ | ⟨hexit, _, hsend⟩
  · refine Or.inr (Or.inl ⟨hexit_eq ▸ hexit, ?_⟩)
    simp only [hsend, phase_enter, if_true]
    exact ⟨_, by rw [henter]; rfl⟩
  · refine Or.inl ⟨hexit_eq ▸ hexit, reason, ?_⟩
    obtain ⟨journal', hback⟩ := (st.enter .reloading).enter_eq_withJournal .running
    simp only [hsend, hback]
    exact ⟨journal', by rw [henter]; rfl⟩
  · refine Or.inr (Or.inr ⟨hexit_eq ▸ hexit, ?_⟩)
    simp only [hsend, supervisor_onProcess, phase_enter, if_true, files_enter]
    exact ⟨_, by rw [henter]; rfl⟩

/-- A reload is refused, or it waits for a test, or it goes ahead. -/
theorem beginReload_cases :
    (∃ e, st.beginReload s program = .ended (.error e, st)) ∨
    (∃ pid, st.supervisor.slot = some pid ∧ st.supervisor.phase = .running ∧
      st.beginReload s program = .waiting (.verdict pid) st) ∨
    (∃ pid, st.supervisor.slot = some pid ∧ st.supervisor.phase = .running ∧
      st.beginReload s program = .ended (st.signalReload program pid)) := by
  unfold beginReload
  split
  · next pid hslot hphase =>
    right
    split
    · exact Or.inl ⟨pid, hslot, hphase, rfl⟩
    · exact Or.inr ⟨pid, hslot, hphase, rfl⟩
  · exact Or.inl ⟨_, rfl⟩

/-- After a test the reload fails or goes ahead. -/
theorem judge_cases (run : Except Fault TestRun) :
    (∃ e tested journal,
      st.judge program pid run = (.error e, (st.withTested tested).withJournal journal)) ∨
    (∃ tested, st.judge program pid run = (st.withTested tested).signalReload program pid) := by
  cases run with
  | error f => exact Or.inl ⟨.spawn f, st.supervisor.tested, st.journal, rfl⟩
  | ok run =>
    simp only [judge]
    split
    · exact Or.inr ⟨_, rfl⟩
    · exact Or.inl ⟨_, _, _, rfl⟩

/-! ## Stopping -/

/-- A stop finds no process that runs, or cannot tell the process, or has told it. -/
theorem beginStop_cases (graceful : Bool) :
    (st.supervisor.slot = none ∧ ∃ journal,
      st.beginStop program graceful =
        .ended (.ok (), (st.withPhase .stopped).withJournal journal)) ∨
    (∃ pid, st.supervisor.slot = some pid ∧ (st.exit? pid).isSome ∧ ∃ journal,
      st.beginStop program graceful =
        .ended (.ok (), ((st.withSlot none).withPhase .stopped).withJournal journal)) ∨
    (∃ pid, st.supervisor.slot = some pid ∧ st.exit? pid = none ∧ ∃ reason,
      program.refuses (if graceful then .quit else .terminate) = some reason ∧ ∃ journal,
      st.beginStop program graceful =
        .ended (.error (.signal reason),
          ((st.withSlot (some pid)).withPhase .running).withJournal journal)) ∨
    (∃ pid, st.supervisor.slot = some pid ∧ st.exit? pid = none ∧ ∃ journal,
      st.beginStop program graceful =
        .waiting (.drained pid) ((((st.withSlot none).withPhase .stopping).onProcess pid
          (·.receive (if graceful then .quit else .terminate) st.files)).withJournal journal)) := by
  unfold beginStop
  split
  · next hslot =>
    obtain ⟨journal, henter⟩ := st.enter_eq_withJournal .stopped
    exact Or.inl ⟨hslot, journal, by rw [henter]⟩
  · next pid hslot =>
    right
    simp only
    split
    · next hexit =>
      obtain ⟨journal, henter⟩ := (st.withSlot none).enter_eq_withJournal .stopped
      exact Or.inl ⟨pid, hslot, hexit, journal, by rw [henter]⟩
    · next hexit =>
      right
      have hnone : st.exit? pid = none := by simpa using hexit
      obtain ⟨journal, henter⟩ := (st.withSlot none).enter_eq_withJournal .stopping
      obtain ⟨journal', hreport⟩ := ((st.withSlot none).enter .stopping).report_eq .info
        "Stopping proxy" [pidDetail pid, ("signal", if graceful then "SIGQUIT" else "SIGTERM")]
      have htold : ((st.withSlot none).enter .stopping).report .info "Stopping proxy"
          [pidDetail pid, ("signal", if graceful then "SIGQUIT" else "SIGTERM")] =
            ((st.withSlot none).withPhase .stopping).withJournal journal' := by
        rw [hreport, henter]
        rfl
      rw [htold]
      rcases (((st.withSlot none).withPhase .stopping).withJournal journal').send_cases program pid
        (if graceful then .quit else .terminate) with
        ⟨hsome, _⟩ | ⟨_, reason, hrefuses, hsend⟩ | ⟨_, _, hsend⟩
      · rw [exit?_withJournal, exit?_withPhase, exit?_withSlot, hnone] at hsome
        cases hsome
      · obtain ⟨journal'', hback⟩ :=
          ((((st.withSlot none).withPhase .stopping).withJournal journal').withSlot
            (some pid)).enter_eq_withJournal .running
        refine Or.inl ⟨pid, hslot, hnone, reason, hrefuses, journal'', ?_⟩
        simp only [hsend, hback]
        rfl
      · refine Or.inr ⟨pid, hslot, hnone, journal', ?_⟩
        simp only [hsend]
        rfl

/-- A process that has not stopped cannot be told, or it has stopped by now, or it is killed. -/
theorem insist_cases :
    ((program.refuses .kill).isSome ∧ ∃ e journal,
      st.insist s program pid = .ended (.error e, st.withJournal journal)) ∨
    (∃ journal, st.insist s program pid = .waiting (.killed pid) (st.withJournal journal)) ∨
    (∃ journal, st.insist s program pid =
      .waiting (.killed pid) ((st.onProcess pid (·.receive .kill st.files)).withJournal
        journal)) := by
  obtain ⟨journal, hreport⟩ := st.report_eq .warn "Proxy did not drain in time, killing"
    [pidDetail pid, ("timeout_secs", Decimal.ofNat s.stopTimeoutSecs.toNat)]
  unfold insist
  rw [hreport]
  rcases (st.withJournal journal).send_cases program pid .kill with
    ⟨_, hsend⟩ | ⟨_, reason, hrefuses, hsend⟩ | ⟨_, _, hsend⟩ <;> simp only [hsend]
  · exact Or.inr (Or.inl ⟨journal, rfl⟩)
  · exact Or.inl ⟨by rw [hrefuses]; rfl, .signal reason, journal, rfl⟩
  · exact Or.inr (Or.inr ⟨journal, rfl⟩)

/-! ## News -/

theorem goLive_eq : ∃ journal, st.goLive pid =
    (.ok (), ((st.withPhase .running).withSlot (some pid)).withJournal journal) := by
  obtain ⟨journal, henter⟩ := st.enter_eq_withJournal .running
  simp only [goLive, henter]
  exact ⟨_, rfl⟩

theorem missStart_eq (code : ExitCode) : ∃ e journal, st.missStart pid code =
    (.error e, (st.withPhase .stopped).withJournal journal) := by
  obtain ⟨journal, henter⟩ := st.enter_eq_withJournal .stopped
  simp only [missStart, henter]
  exact ⟨_, _, rfl⟩

theorem dropStart_eq : ∃ e journal, st.dropStart s pid =
    (.error e, (st.withPhase .stopped).withJournal journal) := by
  obtain ⟨journal, henter⟩ := st.enter_eq_withJournal .stopped
  simp only [dropStart, henter]
  exact ⟨_, _, rfl⟩

/-- The ways in which an operation goes on from its wait. -/
inductive Resumed [Browsable σ] (s : SupervisorSettings) (program : Program) (st : Station σ) :
    Await → News → Progress σ → Prop where
  /-- What it waits for has not come. -/
  | still (a : Await) (n : News) : Resumed s program st a n (.waiting a st)
  | live {pid : Nat} (running : st.exit? pid = none) :
    Resumed s program st (.live pid) .look (.ended (st.goLive pid))
  | missed {pid : Nat} {code : ExitCode} (exited : st.exit? pid = some code) :
    Resumed s program st (.live pid) .look (.ended (st.missStart pid code))
  | late {pid : Nat} :
    Resumed s program st (.live pid) .timeUp (.waiting (.fallen pid) (st.send program pid .kill).2)
  | fallen {pid : Nat} {n : News} (exited : (st.exit? pid).isSome ∨ n = .timeUp) :
    Resumed s program st (.fallen pid) n (.ended (st.dropStart s pid))
  | tested {pid : Nat} {run : Except Fault TestRun} :
    Resumed s program st (.verdict pid) (.tested run) (.ended (st.judge program pid run))
  | drained {pid : Nat} (exited : (st.exit? pid).isSome) :
    Resumed s program st (.drained pid) .look (.ended (.ok (), st.enter .stopped))
  | undrained {pid : Nat} :
    Resumed s program st (.drained pid) .timeUp (st.insist s program pid)
  | killed {pid : Nat} {n : News} (exited : (st.exit? pid).isSome ∨ n = .timeUp) :
    Resumed s program st (.killed pid) n (.ended (st.dropStop s))

theorem resumed [Browsable σ] (a : Await) (n : News) :
    Resumed s program st a n (st.resume s program a n) := by
  unfold resume
  split
  · next pid =>
    cases hexit : st.exit? pid with
    | some code => exact .missed hexit
    | none =>
      simp only [Probe.see]
      split
      · next hsee => split at hsee <;> cases hsee
      · exact .live hexit
      · exact .still _ _
  · exact .late
  · next pid =>
    split
    · next hexit => exact .fallen (Or.inl hexit)
    · exact .still _ _
  · exact .fallen (Or.inr rfl)
  · exact .tested
  · next pid =>
    split
    · next hexit => exact .drained hexit
    · exact .still _ _
  · exact .undrained
  · next pid =>
    split
    · next hexit => exact .killed (Or.inl hexit)
    · exact .still _ _
  · exact .killed (Or.inr rfl)
  · exact .still _ _

end Portcullis.Station
