import Portcullis.Proofs.Supervision.Machine
import Portcullis.Supervision.Conduct
import Mathlib.Data.List.Perm.Subperm

/-!
# At most one process is alive

As long as processes can be killed, no operation leaves a process behind, so that at every moment
at most one is alive, and between operations it is the owned one.

* `Supervisor.Tends` is the invariant: for each thing that the supervisor may be doing, which
  process may be alive and what the supervisor remembers.
* `Machine.Tended.undergo` says that incidents keep it, one lemma for each operation that the
  operation does, and `Machine.Tended.step` that every step does.
-/

namespace Portcullis

open Portcullis.Telemetry

/-! ## The invariant -/

namespace Supervisor

variable (sup : Supervisor) (alive : List Nat)

/-- No process waits to be started or stopped. One that is alive is the owned one, and runs. -/
structure Resting : Prop where
  alive : ∀ q ∈ alive, sup.slot = some q ∧ sup.phase = .running
  phase : sup.phase = .stopped ∨ sup.phase = .running ∨ sup.phase = .crashed

/-- A process has been started, and has not become live. -/
structure Starting (pid : Nat) : Prop where
  alive : ∀ q ∈ alive, q = pid
  phase : sup.phase = .starting

/-- A process has been told to stop. It is owned no more. -/
structure Stopping (pid : Nat) : Prop where
  alive : ∀ q ∈ alive, q = pid
  slot : sup.slot = none
  phase : sup.phase = .stopping ∨ sup.phase = .stopped

/-- No process is alive, and the phase says so. -/
structure Down : Prop where
  alive : alive = []
  phase : sup.phase.isDown = true

/-- No process is alive or owned. -/
structure Halted : Prop where
  alive : alive = []
  phase : sup.phase = .stopped
  slot : sup.slot = none

/-- What the result of an operation says about processes. -/
structure Answers (op : Operation) (result : Except SupervisorError Unit) : Prop where
  start : op = .start → result ≠ .ok () → sup.Down alive
  stop : ∀ graceful, op = .stop graceful →
    result = .ok () ∨ (∃ t, result = .error (.stopTimeout t)) → sup.Halted alive

/-- What is known of a supervisor and of who is alive by what the supervisor is doing. -/
def Tends : Activity → Prop
  | .idle last => sup.Resting alive ∧ ∀ answer ∈ last, sup.Answers alive answer.1 answer.2
  | .busy op (.live pid) | .busy op (.fallen pid) => op = .start ∧ sup.Starting alive pid
  | .busy op (.verdict _) => op = .reload ∧ sup.Resting alive
  | .busy op (.drained pid) | .busy op (.killed pid) =>
    (∃ graceful, op = .stop graceful) ∧ sup.Stopping alive pid

variable {sup alive}

/-- At rest in a phase that is not live no process is alive. -/
theorem Resting.alive_eq_nil (h : sup.Resting alive) (hdown : sup.isRunning = false) :
    alive = [] := by
  rw [List.eq_nil_iff_forall_not_mem]
  intro q hq
  rw [isRunning, (h.alive q hq).2] at hdown
  cases hdown

/-- A result that promises nothing about processes. -/
theorem Answers.reload (result : Except SupervisorError Unit) : sup.Answers alive .reload result :=
  ⟨nofun, nofun⟩

theorem Answers.start_ok : sup.Answers alive .start (.ok ()) :=
  ⟨fun _ h => absurd rfl h, nofun⟩

end Supervisor

/-- The invariant of a machine. -/
structure Machine.Tended {σ : Type} (m : Machine σ) : Prop where
  numbered : m.station.Numbered
  tends : m.station.supervisor.Tends m.station.alive m.activity

/-! ## Exits -/

namespace Station

open Supervisor

variable {σ : Type} {st : Station σ} {pid : Nat}

/-- Where at most one process may be alive, no process is once that one has exited. -/
theorem alive_eq_nil (hn : st.Numbered) (halive : ∀ q ∈ st.alive, q = pid)
    (hexit : (st.exit? pid).isSome) : st.alive = [] := by
  rw [List.eq_nil_iff_forall_not_mem]
  intro q hq
  exact hn.not_mem_alive hexit (halive q hq ▸ hq)

theorem processExits_of_alive_eq_nil (h : st.alive = []) (pid : Nat) (code : ExitCode) :
    st.processExits pid code = st :=
  processExits_of_not_mem (by rw [h]; exact List.not_mem_nil) code

section Exits

variable (hn : st.Numbered) (q : Nat) (code : ExitCode)
include hn

theorem resting_processExits (h : st.supervisor.Resting st.alive) :
    (st.processExits q code).supervisor.Resting (st.processExits q code).alive := by
  by_cases hq : q ∈ st.alive
  · refine ⟨fun q' hq' => ?_, ?_⟩
    · -- No other process was alive.
      obtain ⟨hq', hne⟩ := mem_alive_processExits hn hq'
      exact absurd (Option.some.inj ((h.alive q' hq').1.symm.trans (h.alive q hq).1)) hne
    · rw [phase_processExits (hn.isAlive hq), (h.alive q hq).2]
      exact Or.inr (Or.inr rfl)
  · rwa [processExits_of_not_mem hq]

theorem starting_processExits (h : st.supervisor.Starting st.alive pid) :
    (st.processExits q code).supervisor.Starting (st.processExits q code).alive pid := by
  refine ⟨fun q' hq' => h.alive q' (mem_alive_processExits hn hq').1, ?_⟩
  rcases phase_processExits_cases st q code with hphase | hphase <;> rw [hphase, h.phase]
  rfl

theorem stopping_processExits (h : st.supervisor.Stopping st.alive pid) :
    (st.processExits q code).supervisor.Stopping (st.processExits q code).alive pid := by
  refine ⟨fun q' hq' => h.alive q' (mem_alive_processExits hn hq').1, ?_, ?_⟩
  · rw [slot_processExits, h.slot]
  · rcases phase_processExits_cases st q code with hphase | hphase <;> rw [hphase]
    · exact h.phase
    · rcases h.phase with hstop | hstop <;> rw [hstop] <;> exact Or.inr rfl

omit hn in
theorem answers_processExits {op : Operation} {result : Except SupervisorError Unit}
    (h : st.supervisor.Answers st.alive op result) :
    (st.processExits q code).supervisor.Answers (st.processExits q code).alive op result where
  start hop hresult := by
    have hdown := h.start hop hresult
    rwa [processExits_of_alive_eq_nil hdown.alive]
  stop graceful hop hresult := by
    have hhalted := h.stop graceful hop hresult
    rwa [processExits_of_alive_eq_nil hhalted.alive]

theorem tends_processExits {a : Activity} (h : st.supervisor.Tends st.alive a) :
    (st.processExits q code).supervisor.Tends (st.processExits q code).alive a := by
  match a, h with
  | .idle _, h =>
    exact ⟨resting_processExits hn q code h.1,
      fun answer hlast => answers_processExits q code (h.2 answer hlast)⟩
  | .busy _ (.live _), h => exact ⟨h.1, starting_processExits hn q code h.2⟩
  | .busy _ (.fallen _), h => exact ⟨h.1, starting_processExits hn q code h.2⟩
  | .busy _ (.verdict _), h => exact ⟨h.1, resting_processExits hn q code h.2⟩
  | .busy _ (.drained _), h => exact ⟨h.1, stopping_processExits hn q code h.2⟩
  | .busy _ (.killed _), h => exact ⟨h.1, stopping_processExits hn q code h.2⟩

end Exits

end Station

namespace Machine

variable {σ : Type} {m : Machine σ}

/-- Incidents keep the invariant. -/
theorem Tended.undergo (h : m.Tended) (i : Incident σ) :
    ({ m with station := m.station.undergo i } : Machine σ).Tended := by
  cases i with
  | exit pid code =>
    exact ⟨h.numbered.processExits pid code, Station.tends_processExits h.numbered pid code h.tends⟩
  | files files => exact ⟨h.numbered, h.tends⟩
  | turn pid change =>
    have halive : (m.station.onProcess pid (·.turned change)).alive = m.station.alive :=
      Station.alive_onProcess (fun _ => rfl) fun _ => rfl
    refine ⟨h.numbered.onProcess (f := (·.turned change)) fun _ => rfl, ?_⟩
    show Supervisor.Tends _ (m.station.onProcess pid (·.turned change)).alive _
    rw [halive]
    exact h.tends

/-- A process that is alive between operations is the one that the supervisor says it owns. -/
theorem Tended.pid? (h : m.Tended) {last : Option (Operation × Except SupervisorError Unit)}
    (hidle : m.activity = .idle last) {pid : Nat} (hpid : pid ∈ m.station.alive) :
    m.station.pid? = some pid := by
  have htends := h.tends
  rw [hidle] at htends
  obtain ⟨p, hp, hexit, rfl⟩ := Station.mem_alive.mp hpid
  have hslot : m.station.supervisor.slot = some p.pid := (htends.1.alive p.pid hpid).1
  rw [Station.pid?, Station.owned?, hslot, Option.bind_some, h.numbered.process? hp,
    Option.filter_some, hexit]
  rfl

end Machine

/-! ## Operations -/

namespace Station

open Supervisor

variable {σ : Type} {s : SupervisorSettings} {program : Program} {st : Station σ} {pid : Nat}

/-- Who is alive when a signal has arrived. -/
theorem alive_receive (signal : Signal) (files : σ) :
    (st.onProcess pid (·.receive signal files)).alive = st.alive :=
  alive_onProcess (fun _ => rfl) fun _ => rfl

theorem Numbered.receive (hn : st.Numbered) (signal : Signal) (files : σ) :
    (st.onProcess pid (·.receive signal files)).Numbered :=
  hn.onProcess fun _ => rfl

/-- An operation that has ended leaves the supervisor at rest. -/
theorem tended_ended {op : Operation} {result : Except SupervisorError Unit} (hn : st.Numbered)
    (hrest : st.supervisor.Resting st.alive) (hanswers : st.supervisor.Answers st.alive op result) :
    ((Progress.ended (result, st)).machine op).Tended := by
  refine ⟨hn, hrest, fun answer hanswer => ?_⟩
  obtain rfl := Option.mem_some_iff.mp hanswer
  exact hanswers

/-- Where no process is alive and none is owned, a stop has done what it promises. -/
theorem tended_halted {graceful : Bool} {result : Except SupervisorError Unit} (hn : st.Numbered)
    (h : st.supervisor.Halted st.alive) :
    ((Progress.ended (result, st)).machine (.stop graceful)).Tended := by
  refine tended_ended hn ⟨fun q hq => ?_, Or.inl h.phase⟩ ⟨nofun, fun _ _ _ => h⟩
  exact absurd (h.alive ▸ hq : q ∈ []) List.not_mem_nil

/-- Where no process is alive, a start may fail. -/
theorem tended_down {e : SupervisorError} (hn : st.Numbered) (h : st.supervisor.Down st.alive) :
    ((Progress.ended (.error e, st)).machine .start).Tended := by
  refine tended_ended hn ⟨fun q hq => ?_, ?_⟩ ⟨fun _ _ => h, nofun⟩
  · exact absurd (h.alive ▸ hq : q ∈ []) List.not_mem_nil
  · have hdown := h.phase
    cases hphase : st.supervisor.phase with
    | stopped => exact Or.inl rfl
    | crashed => exact Or.inr (Or.inr rfl)
    | starting | running | reloading | stopping =>
      rw [hphase] at hdown
      cases hdown

/-! ### Starting -/

/-- A start that fails at once leaves no process behind. -/
theorem tended_beginStart [Browsable σ] (hn : st.Numbered)
    (hrest : st.supervisor.Resting st.alive) :
    ((st.beginStart s program).machine .start).Tended := by
  obtain ⟨files, journal, hclear⟩ := st.clearPidFile_eq s.pidPath
  rcases st.beginStart_cases s program with ⟨_, journal', hbegin⟩ | ⟨hdown, _, hbegin⟩ |
    ⟨hdown, _, _, e, journal', hbegin⟩ | ⟨hdown, conduct, _, journal', hbegin⟩ <;> rw [hbegin]
  · exact tended_ended hn hrest Answers.start_ok
  · refine tended_down hn ⟨hrest.alive_eq_nil hdown, ?_⟩
    rcases hrest.phase with hphase | hphase | hphase
    · exact congrArg Phase.isDown hphase
    · rw [isRunning, hphase] at hdown
      cases hdown
    · exact congrArg Phase.isDown hphase
  · rw [hclear]
    exact tended_down hn ⟨hrest.alive_eq_nil hdown, rfl⟩
  · rw [hclear]
    have hspawn : (st.spawn conduct).Numbered := hn.spawn conduct
    refine ⟨hspawn, rfl, fun q hq => ?_, rfl⟩
    have hq' : q ∈ (st.spawn conduct).alive := hq
    rw [alive_spawn, hrest.alive_eq_nil hdown] at hq'
    exact List.mem_singleton.mp hq'

theorem tended_goLive (hn : st.Numbered) (h : st.supervisor.Starting st.alive pid) :
    ((Progress.ended (st.goLive pid)).machine .start).Tended := by
  obtain ⟨journal, hlive⟩ := st.goLive_eq pid
  rw [hlive]
  exact tended_ended hn ⟨fun q hq => ⟨congrArg some (h.alive q hq).symm, rfl⟩, Or.inr (Or.inl rfl)⟩
    Answers.start_ok

theorem tended_missStart (hn : st.Numbered) (h : st.supervisor.Starting st.alive pid)
    {code : ExitCode} (hexit : st.exit? pid = some code) :
    ((Progress.ended (st.missStart pid code)).machine .start).Tended := by
  obtain ⟨e, journal, hmiss⟩ := st.missStart_eq pid code
  have hnil : st.alive = [] := alive_eq_nil hn h.alive (by rw [hexit]; rfl)
  rw [hmiss]
  exact tended_down hn ⟨hnil, rfl⟩

theorem tended_dropStart (hn : st.Numbered) (h : st.supervisor.Starting st.alive pid)
    (hexit : (st.exit? pid).isSome) :
    ((Progress.ended (st.dropStart s pid)).machine .start).Tended := by
  obtain ⟨e, journal, hdrop⟩ := st.dropStart_eq s pid
  have hnil : st.alive = [] := alive_eq_nil hn h.alive hexit
  rw [hdrop]
  exact tended_down hn ⟨hnil, rfl⟩

/-! ### Reloading -/

theorem tended_signalReload (hn : st.Numbered) (hrest : st.supervisor.Resting st.alive) :
    ((Progress.ended (st.signalReload program pid)).machine .reload).Tended := by
  have hrest' : (st.withPhase .running).supervisor.Resting st.alive :=
    ⟨fun q hq => ⟨(hrest.alive q hq).1, rfl⟩, Or.inr (Or.inl rfl)⟩
  rcases st.signalReload_cases program pid with ⟨_, reason, journal, hsignal⟩ |
    ⟨_, journal, hsignal⟩ | ⟨_, journal, hsignal⟩ <;> rw [hsignal]
  · exact tended_ended hn hrest' (Answers.reload _)
  · exact tended_ended hn hrest' (Answers.reload _)
  · have hreceive : (st.onProcess pid (·.receive .hangup st.files)).Numbered := hn.receive _ _
    refine tended_ended hreceive ?_ (Answers.reload _)
    rw [alive_congr (processes_withJournal _ _), alive_receive]
    exact hrest'

theorem tended_beginReload (hn : st.Numbered) (hrest : st.supervisor.Resting st.alive) :
    ((st.beginReload s program).machine .reload).Tended := by
  rcases st.beginReload_cases s program with ⟨e, hbegin⟩ | ⟨pid, _, _, hbegin⟩ |
    ⟨pid, _, _, hbegin⟩ <;> rw [hbegin]
  · exact tended_ended hn hrest (Answers.reload _)
  · exact ⟨hn, rfl, hrest⟩
  · exact tended_signalReload hn hrest

theorem tended_judge (hn : st.Numbered) (hrest : st.supervisor.Resting st.alive)
    (run : Except Fault TestRun) :
    ((Progress.ended (st.judge program pid run)).machine .reload).Tended := by
  rcases st.judge_cases program pid run with ⟨e, tested, journal, hjudge⟩ | ⟨tested, hjudge⟩ <;>
    rw [hjudge]
  · exact tended_ended hn ⟨hrest.alive, hrest.phase⟩ (Answers.reload _)
  · have htested : (st.withTested tested).Numbered := hn
    exact tended_signalReload htested ⟨hrest.alive, hrest.phase⟩

/-! ### Stopping -/

theorem tended_beginStop (hn : st.Numbered) (hrest : st.supervisor.Resting st.alive)
    (graceful : Bool) : ((st.beginStop program graceful).machine (.stop graceful)).Tended := by
  have howned : ∀ {pid}, st.supervisor.slot = some pid → ∀ q ∈ st.alive, q = pid :=
    fun hslot q hq => Option.some.inj ((hrest.alive q hq).1.symm.trans hslot)
  rcases st.beginStop_cases program graceful with ⟨hslot, journal, hbegin⟩ |
    ⟨pid, hslot, hexit, journal, hbegin⟩ | ⟨pid, hslot, _, e, _, journal, hbegin⟩ |
    ⟨pid, hslot, _, journal, hbegin⟩ <;> rw [hbegin]
  · have hnil : st.alive = [] := by
      rw [List.eq_nil_iff_forall_not_mem]
      intro q hq
      cases hslot.symm.trans (hrest.alive q hq).1
    exact tended_halted hn ⟨hnil, rfl, hslot⟩
  · have hnil : st.alive = [] := alive_eq_nil hn (howned hslot) hexit
    exact tended_halted hn ⟨hnil, rfl, rfl⟩
  · refine tended_ended hn ⟨fun q hq => ⟨?_, rfl⟩, Or.inr (Or.inl rfl)⟩ ⟨nofun, ?_⟩
    · exact congrArg some (howned hslot q hq).symm
    · rintro _ _ (hresult | ⟨t, hresult⟩) <;> cases hresult
  · let signal : Signal := if graceful then .quit else .terminate
    have hreceive : (st.onProcess pid (·.receive signal st.files)).Numbered := hn.receive _ _
    refine ⟨hreceive, ⟨graceful, rfl⟩, fun q hq => howned hslot q ?_, rfl, Or.inl rfl⟩
    exact alive_receive signal st.files ▸ hq

theorem tended_insist {graceful : Bool} (hn : st.Numbered)
    (h : st.supervisor.Stopping st.alive pid) (hkill : program.refuses .kill = none) :
    ((st.insist s program pid).machine (.stop graceful)).Tended := by
  rcases st.insist_cases s program pid with ⟨hrefuses, _⟩ | ⟨journal, hinsist⟩ |
    ⟨journal, hinsist⟩
  · rw [hkill] at hrefuses
    cases hrefuses
  · rw [hinsist]
    exact ⟨hn, ⟨graceful, rfl⟩, h⟩
  · rw [hinsist]
    have hreceive : (st.onProcess pid (·.receive .kill st.files)).Numbered := hn.receive _ _
    refine ⟨hreceive, ⟨graceful, rfl⟩, fun q hq => h.alive q ?_, h.slot, h.phase⟩
    exact alive_receive .kill st.files ▸ hq

/-- Once the process that was told to stop has exited, the stop has done what it promises. -/
theorem tended_stopped {graceful : Bool} {result : Except SupervisorError Unit} (hn : st.Numbered)
    (h : st.supervisor.Stopping st.alive pid) (hexit : (st.exit? pid).isSome) :
    ((Progress.ended (result, st.enter .stopped)).machine (.stop graceful)).Tended := by
  obtain ⟨journal, henter⟩ := st.enter_eq_withJournal .stopped
  have hnil : st.alive = [] := alive_eq_nil hn h.alive hexit
  rw [henter]
  exact tended_halted hn ⟨hnil, rfl, h.slot⟩

end Station

/-! ## Steps -/

namespace Machine

variable {σ : Type} {s : SupervisorSettings} {m m' : Machine σ} {e : Occurrence σ}

/-- Processes can be killed: the signal is never refused, and by the end of the grace the process
has exited. -/
def KillWorks (m : Machine σ) : Occurrence σ → Prop
  | .news n program =>
    program.refuses .kill = none ∧
      (n = .timeUp → ∀ op pid, m.activity = .busy op (.fallen pid) ∨
        m.activity = .busy op (.killed pid) → (m.station.exit? pid).isSome)
  | _ => True

variable [Browsable σ]

/-- A called operation keeps the invariant up to its first wait. -/
theorem tended_undertake (h : m.Tended) {last : Option (Operation × Except SupervisorError Unit)}
    (hidle : m.activity = .idle last) (program : Program) (op : Operation) :
    ((m.station.undertake s program op).machine op).Tended := by
  have htends := h.tends
  rw [hidle] at htends
  cases op with
  | start => exact Station.tended_beginStart h.numbered htends.1
  | reload => exact Station.tended_beginReload h.numbered htends.1
  | stop graceful => exact Station.tended_beginStop h.numbered htends.1 graceful

/-- News keeps the invariant up to the next wait. -/
theorem tended_resume (h : m.Tended) {op : Operation} {a : Await}
    (hbusy : m.activity = .busy op a) {n : News} {program : Program}
    (hkill : m.KillWorks (.news n program)) :
    ((m.station.resume s program a n).machine op).Tended := by
  have hn := h.numbered
  have htends := h.tends
  rw [hbusy] at htends
  have hresumed := m.station.resumed s program a n
  generalize m.station.resume s program a n = progress at hresumed ⊢
  cases hresumed with
  | still => exact ⟨hn, htends⟩
  | live hexit =>
    obtain ⟨rfl, h⟩ := htends
    exact Station.tended_goLive hn h
  | missed hexit =>
    obtain ⟨rfl, h⟩ := htends
    exact Station.tended_missStart hn h hexit
  | late =>
    obtain ⟨rfl, h⟩ := htends
    refine ⟨hn.send _ _, rfl, fun q hq => h.alive q ?_, ?_⟩
    · rwa [← Station.alive_send program .kill]
    · exact (congrArg Supervisor.phase (Station.supervisor_send program _ .kill _)).trans h.phase
  | fallen hexit =>
    obtain ⟨rfl, h⟩ := htends
    exact Station.tended_dropStart hn h
      (hexit.elim id fun hup => hkill.2 hup _ _ (Or.inl hbusy))
  | tested =>
    obtain ⟨rfl, h⟩ := htends
    exact Station.tended_judge hn h _
  | drained hexit =>
    obtain ⟨⟨graceful, rfl⟩, h⟩ := htends
    exact Station.tended_stopped hn h hexit
  | undrained =>
    obtain ⟨⟨graceful, rfl⟩, h⟩ := htends
    exact Station.tended_insist hn h hkill.1
  | killed hexit =>
    obtain ⟨⟨graceful, rfl⟩, h⟩ := htends
    exact Station.tended_stopped hn h
      (hexit.elim id fun hup => hkill.2 hup _ _ (Or.inr hbusy))

/-- Every step keeps the invariant. -/
theorem Tended.step (h : m.Tended) (hkill : m.KillWorks e) (he : m.step s e = some m') :
    m'.Tended := by
  rcases step_cases he with ⟨op, program, last, rfl, hidle, rfl⟩ |
    ⟨n, program, op, a, rfl, hbusy, rfl⟩ | ⟨i, rfl, rfl⟩
  · exact tended_undertake h hidle program op
  · exact tended_resume h hbusy hkill
  · exact h.undergo i

/-! ## Runs -/

end Machine

end Portcullis
