import Portcullis.Supervision.Operation
import Portcullis.Proofs.Keys

/-!
# Who is alive

The processes of a station, by their pids, and what signals, exits and starts do to them.

* `Station.alive` are the processes whose exit has not been observed.
* `Station.Numbered` says that pids are given out in order, so that each names one process.
* A signal changes neither (`Station.alive_send`), an exit ends one process
  (`Station.mem_alive_processExits`), and a start adds one (`Station.alive_spawn`).
-/

namespace Portcullis.Station

variable {σ : Type} {st st' : Station σ} {pid q : Nat}

/-- The pids of all processes started so far, the latest first. -/
def pids (st : Station σ) : List Nat :=
  st.processes.map (·.pid)

/-- The pids of the processes whose exit has not been observed. -/
def alive (st : Station σ) : List Nat :=
  (st.processes.filter (·.exit.isNone)).map (·.pid)

/-- Pids are given out in order. -/
def Numbered (st : Station σ) : Prop :=
  st.pids = (List.range' 1 st.processes.length).reverse

/-! ## One process -/

theorem pid_of_process? {p : Process σ} (h : st.process? pid = some p) : p.pid = pid := by
  have hfound := List.find?_some h
  exact beq_iff_eq.mp hfound

/-- What is known of processes depends on nothing but them. -/
theorem process?_congr (h : st'.processes = st.processes) : st'.process? pid = st.process? pid := by
  rw [process?, h, process?]

theorem exit?_congr (h : st'.processes = st.processes) : st'.exit? pid = st.exit? pid := by
  rw [exit?, process?_congr h, exit?]

theorem isAlive_congr (h : st'.processes = st.processes) : st'.isAlive pid = st.isAlive pid := by
  rw [isAlive, process?_congr h, isAlive]

theorem alive_congr (h : st'.processes = st.processes) : st'.alive = st.alive := by
  rw [alive, h, alive]

theorem Numbered.congr (hn : st.Numbered) (h : st'.processes = st.processes) : st'.Numbered := by
  rw [Numbered, pids, h]
  exact hn

/-- A change of one process is seen where that process is looked up. -/
theorem process?_onProcess {f : Process σ → Process σ} (hf : ∀ p, (f p).pid = p.pid) :
    (st.onProcess pid f).process? q =
      (st.process? q).map fun p => if p.pid = pid then f p else p := by
  have hpid : ((fun p : Process σ => p.pid == q) ∘ fun p => if p.pid = pid then f p else p) =
      fun p => p.pid == q := by
    funext p
    by_cases h : p.pid = pid
    · simp only [Function.comp_apply, if_pos h, hf]
    · simp only [Function.comp_apply, if_neg h]
  rw [process?, onProcess, List.find?_map, hpid, process?]

/-- A change that leaves exits alone leaves them alone. -/
theorem exit?_onProcess {f : Process σ → Process σ} (hf : ∀ p, (f p).pid = p.pid)
    (hexit : ∀ p, (f p).exit = p.exit) : (st.onProcess pid f).exit? q = st.exit? q := by
  rw [exit?, process?_onProcess hf, exit?]
  cases st.process? q with
  | none => rfl
  | some p =>
    by_cases h : p.pid = pid
    · simp only [Option.map_some, Option.bind_some, if_pos h, hexit]
    · simp only [Option.map_some, Option.bind_some, if_neg h]

theorem alive_onProcess {f : Process σ → Process σ} (hf : ∀ p, (f p).pid = p.pid)
    (hexit : ∀ p, (f p).exit = p.exit) : (st.onProcess pid f).alive = st.alive := by
  have hfilter : ((fun p : Process σ => p.exit.isNone) ∘
      fun p => if p.pid = pid then f p else p) = fun p => p.exit.isNone := by
    funext p
    by_cases h : p.pid = pid
    · simp only [Function.comp_apply, if_pos h, hexit]
    · simp only [Function.comp_apply, if_neg h]
  rw [alive, onProcess, List.filter_map, hfilter, List.map_map, alive]
  congr 1
  funext p
  by_cases h : p.pid = pid
  · simp only [Function.comp_apply, if_pos h, hf]
  · simp only [Function.comp_apply, if_neg h]

theorem Numbered.onProcess {f : Process σ → Process σ} (hn : st.Numbered)
    (hf : ∀ p, (f p).pid = p.pid) : (st.onProcess pid f).Numbered := by
  have hpids : (st.onProcess pid f).pids = st.pids := by
    rw [pids, Station.onProcess, List.map_map, pids]
    congr 1
    funext p
    by_cases h : p.pid = pid
    · simp only [Function.comp_apply, if_pos h, hf]
    · simp only [Function.comp_apply, if_neg h]
  rw [Numbered, hpids, Station.onProcess, List.length_map]
  exact hn

/-! ## All processes -/

theorem mem_alive : q ∈ st.alive ↔ ∃ p ∈ st.processes, p.exit = none ∧ p.pid = q := by
  simp [alive, and_assoc]

/-- A process is there and has not exited. -/
theorem isAlive_iff :
    st.isAlive pid = true ↔ (st.process? pid).isSome ∧ st.exit? pid = none := by
  rw [isAlive, exit?]
  cases st.process? pid with
  | none => simp
  | some p => simp

theorem mem_alive_of_isAlive (h : st.isAlive pid = true) : pid ∈ st.alive := by
  rw [isAlive] at h
  cases hp : st.process? pid with
  | none =>
    rw [hp] at h
    cases h
  | some p =>
    rw [hp, Option.any_some, Option.isNone_iff_eq_none] at h
    exact mem_alive.mpr ⟨p, List.mem_of_find?_eq_some hp, h, pid_of_process? hp⟩

namespace Numbered

theorem nodup (hn : st.Numbered) : st.pids.Nodup := by
  rw [hn, List.nodup_reverse]
  exact List.nodup_range'

/-- Each pid leads to its process. -/
theorem process? (hn : st.Numbered) {p : Process σ} (hp : p ∈ st.processes) :
    st.process? p.pid = some p :=
  (find?_key_eq_some_iff hn.nodup).2 ⟨hp, rfl⟩

/-- A process is alive whose exit has not been observed. -/
theorem exit? (hn : st.Numbered) (hq : q ∈ st.alive) : st.exit? q = none := by
  obtain ⟨p, hp, hexit, rfl⟩ := mem_alive.mp hq
  rw [Station.exit?, hn.process? hp, Option.bind_some, hexit]

theorem isAlive (hn : st.Numbered) (hq : q ∈ st.alive) : st.isAlive q = true := by
  obtain ⟨p, hp, hexit, rfl⟩ := mem_alive.mp hq
  rw [Station.isAlive, hn.process? hp, Option.any_some, hexit]
  rfl

theorem not_mem_alive (hn : st.Numbered) (hq : (st.exit? q).isSome) : q ∉ st.alive := by
  intro hmem
  rw [hn.exit? hmem] at hq
  cases hq

end Numbered

/-! ## Signals -/

theorem alive_send (program : Program) (signal : Signal) :
    (st.send program pid signal).2.alive = st.alive := by
  unfold send
  split
  · rfl
  · split
    · rfl
    · exact alive_onProcess (fun _ => rfl) (fun _ => rfl)

theorem Numbered.send (hn : st.Numbered) (program : Program) (signal : Signal) :
    (st.send program pid signal).2.Numbered := by
  unfold Station.send
  split
  · exact hn
  · split
    · exact hn
    · exact hn.onProcess fun _ => rfl

/-! ## Starts -/

theorem processes_spawn (conduct : Conduct) :
    (st.spawn conduct).processes =
      { pid := st.nextPid, conduct := conduct, loaded := st.files } :: st.processes := rfl

theorem alive_spawn (conduct : Conduct) : (st.spawn conduct).alive = st.nextPid :: st.alive := rfl

theorem process?_spawn (conduct : Conduct) :
    (st.spawn conduct).process? st.nextPid =
      some { pid := st.nextPid, conduct := conduct, loaded := st.files } := by
  simp [process?, spawn]

theorem isAlive_spawn (conduct : Conduct) : (st.spawn conduct).isAlive st.nextPid = true := by
  rw [isAlive, process?_spawn]
  rfl

theorem Numbered.spawn (hn : st.Numbered) (conduct : Conduct) : (st.spawn conduct).Numbered := by
  have hpids : (st.spawn conduct).pids = st.nextPid :: st.pids := rfl
  have hlength : (st.spawn conduct).processes.length = st.processes.length + 1 := rfl
  rw [Numbered, hpids, hn, hlength, List.range'_concat, List.reverse_append, nextPid]
  simp [Nat.add_comm]

/-! ## Exits -/

theorem processExits_of_not_isAlive (h : st.isAlive pid = false) (code : ExitCode) :
    st.processExits pid code = st := by
  rw [processExits, h]
  rfl

theorem phase_processExits (h : st.isAlive pid = true) (code : ExitCode) :
    (st.processExits pid code).supervisor.phase = st.supervisor.phase.afterExit := by
  rw [processExits, if_pos h, phase_onExit, supervisor_onProcess]

/-- The exit of a process that is not alive is no news. -/
theorem processExits_of_not_mem (h : pid ∉ st.alive) (code : ExitCode) :
    st.processExits pid code = st :=
  processExits_of_not_isAlive (Bool.eq_false_iff.mpr fun halive => h (mem_alive_of_isAlive halive))
    code

/-- Exits never put a phase into another but the one that follows it. -/
theorem phase_processExits_cases (st : Station σ) (pid : Nat) (code : ExitCode) :
    (st.processExits pid code).supervisor.phase = st.supervisor.phase ∨
      (st.processExits pid code).supervisor.phase = st.supervisor.phase.afterExit := by
  cases h : st.isAlive pid with
  | false => exact Or.inl (by rw [processExits_of_not_isAlive h])
  | true => exact Or.inr (phase_processExits h code)

/-- After an exit nothing runs. -/
theorem isRunning_processExits (h : st.isAlive pid = true) (code : ExitCode) :
    (st.processExits pid code).supervisor.isRunning = false := by
  rw [Supervisor.isRunning, phase_processExits h]
  cases st.supervisor.phase <;> rfl

theorem isRunning_processExits_of_not (h : st.supervisor.isRunning = false) (pid : Nat)
    (code : ExitCode) : (st.processExits pid code).supervisor.isRunning = false := by
  cases halive : st.isAlive pid with
  | true => exact isRunning_processExits halive code
  | false => rwa [processExits_of_not_isAlive halive]

@[simp] theorem slot_processExits (st : Station σ) (pid : Nat) (code : ExitCode) :
    (st.processExits pid code).supervisor.slot = st.supervisor.slot := by
  unfold processExits
  split
  · rw [slot_onExit, supervisor_onProcess]
  · rfl

@[simp] theorem files_processExits (st : Station σ) (pid : Nat) (code : ExitCode) :
    (st.processExits pid code).files = st.files := by
  unfold processExits
  split
  · rw [files_onExit, files_onProcess]
  · rfl

theorem process?_processExits (st : Station σ) (code : ExitCode) :
    (st.processExits pid code).process? q =
      (st.process? q).map fun p =>
        if p.pid = pid ∧ st.isAlive pid then p.exited code else p := by
  cases h : st.isAlive pid with
  | false => simp [processExits_of_not_isAlive h]
  | true =>
    rw [processExits, if_pos h, process?_congr (processes_onExit _ _ _),
      process?_onProcess (f := (·.exited code)) fun _ => rfl]
    simp

theorem exit?_processExits_self (h : st.isAlive pid = true) (code : ExitCode) :
    (st.processExits pid code).exit? pid = some code := by
  obtain ⟨p, hp⟩ : ∃ p, st.process? pid = some p := by
    cases hp : st.process? pid with
    | some p => exact ⟨p, rfl⟩
    | none =>
      rw [isAlive, hp] at h
      cases h
  rw [exit?, process?_processExits, hp, Option.map_some, if_pos ⟨pid_of_process? hp, h⟩]
  rfl

theorem exit?_processExits_of_ne (h : q ≠ pid) (code : ExitCode) :
    (st.processExits pid code).exit? q = st.exit? q := by
  rw [exit?, process?_processExits, exit?]
  cases hp : st.process? q with
  | none => rfl
  | some p =>
    have hne : ¬(p.pid = pid ∧ st.isAlive pid) := fun hp' => h (pid_of_process? hp ▸ hp'.1)
    rw [Option.map_some, if_neg hne]

/-- An exit ends one process. -/
theorem mem_alive_processExits (hn : st.Numbered) {code : ExitCode}
    (hq : q ∈ (st.processExits pid code).alive) : q ∈ st.alive ∧ q ≠ pid := by
  cases h : st.isAlive pid with
  | false =>
    rw [processExits_of_not_isAlive h] at hq
    refine ⟨hq, ?_⟩
    rintro rfl
    rw [hn.isAlive hq] at h
    cases h
  | true =>
    rw [processExits, if_pos h, alive_congr (processes_onExit _ _ _), mem_alive, onProcess] at hq
    obtain ⟨p, hp, hexit, rfl⟩ := hq
    obtain ⟨before, hbefore, rfl⟩ := List.mem_map.mp hp
    by_cases hpid : before.pid = pid
    · rw [if_pos hpid] at hexit
      cases hexit
    · rw [if_neg hpid] at hexit ⊢
      exact ⟨mem_alive.mpr ⟨before, hbefore, hexit, rfl⟩, hpid⟩

theorem Numbered.processExits (hn : st.Numbered) (pid : Nat) (code : ExitCode) :
    (st.processExits pid code).Numbered := by
  unfold Station.processExits
  split
  · exact (hn.onProcess (f := (·.exited code)) fun _ => rfl).congr (processes_onExit _ _ _)
  · exact hn

end Portcullis.Station
