import Portcullis.Proofs.Supervision.Machine

/-!
# Waiting is a run

An operation that is carried out with its waiting, where the conduct of the processes says what
happens when, is one of the runs of the machine: `Station.perform_runs`.  What holds on all runs
holds of it.
-/

namespace Portcullis


namespace Probe

theorem poll_some {find : Nat → Option Probe} {interval : Nat} {found : Probe} {moment : Nat} :
    ∀ {polls time : Nat}, poll find interval polls time = some (found, moment) →
      find moment = some found
  | polls + 1, time, h => by
    cases hfind : find time with
    | some p =>
      simp only [poll, hfind] at h
      cases h
      exact hfind
    | none =>
      simp only [poll, hfind] at h
      exact poll_some h

/-- What a wait finds is there at the moment when it ends. -/
theorem see_wait (exits : Option (Span × ExitCode)) (isPresent : Nat → Bool)
    (interval deadline : Span) :
    (wait exits isPresent interval deadline).1 = .timedOut ∨
      see (dueBy exits (wait exits isPresent interval deadline).2.nanos)
        (isPresent (wait exits isPresent interval deadline).2.nanos) =
          some (wait exits isPresent interval deadline).1 := by
  unfold wait
  split
  · next found moment hpoll => exact Or.inr (poll_some hpoll)
  · exact Or.inl rfl

end Probe

namespace Station

variable {σ : Type} {st : Station σ} {pid : Nat}

/-! ## What a wait comes to -/

variable [Browsable σ]

/-- The station when some time has passed for a process that has not exited. -/
def idleFor (st : Station σ) (pid : Nat) (t : Span) : Station σ :=
  (st.withFiles (st.filesAt pid t.nanos)).onProcess pid (·.turned (·.after t))

@[simp] theorem exit?_idleFor (pid q : Nat) (t : Span) : (st.idleFor pid t).exit? q = st.exit? q :=
  exit?_onProcess (fun _ => rfl) fun _ => rfl

theorem isAlive_idleFor (h : st.isAlive pid = true) (t : Span) :
    (st.idleFor pid t).isAlive pid = true := by
  rw [isAlive_iff] at h ⊢
  refine ⟨?_, (exit?_idleFor pid pid t).trans h.2⟩
  rw [idleFor, process?_onProcess (f := (·.turned _)) fun _ => rfl, Option.isSome_map]
  exact h.1

/-- Time passes for a process up to its exit, if that is due. -/
theorem await_eq (h : st.exit? pid = none) (t : Span) :
    st.await pid t =
      match dueBy (st.conductOf pid).exits t.nanos with
      | some code => (st.idleFor pid t).processExits pid code
      | none => st.idleFor pid t := by
  unfold await
  rw [h]
  rfl

/-! ## Each wait is a run -/

variable {s : SupervisorSettings} {program : Program}

theorem await_runs (st : Station σ) (pid : Nat) (t : Span) (a : Activity) :
    Machine.Runs s Machine.Unbidden ⟨st, a⟩ ⟨st.await pid t, a⟩ := by
  by_cases hexit : st.exit? pid = none
  · have hannounced : Machine.Runs s Machine.Unbidden ⟨st, a⟩
        ⟨st.withFiles (st.filesAt pid t.nanos), a⟩ :=
      .one (.incident (.files (st.filesAt pid t.nanos))) nofun rfl
    have hidle : Machine.Runs s Machine.Unbidden ⟨st, a⟩ ⟨st.idleFor pid t, a⟩ :=
      hannounced.step (.incident (.turn pid (·.after t))) nofun rfl
    rw [await_eq hexit]
    split
    · next code _ => exact hidle.step (.incident (.exit pid code)) nofun rfl
    · exact hidle
  · rw [await, if_pos (Option.isSome_iff_ne_none.mpr hexit)]
    exact Runs.refl _

/-- Once the polling of a new process has ended, news ends the start the same way. -/
theorem conclude_runs {op : Operation} {found : Probe}
    (hsee : Probe.see (st.exit? pid) (s.seesPidFile st.files) = some found) :
    Machine.Runs s Machine.Unbidden ⟨st, .busy op (.live pid)⟩
      ((Progress.ended (st.conclude s program pid found)).machine op) := by
  refine .one (.news .look program) nofun ?_
  show some (Progress.machine op (st.resume s program (.live pid) .look)) = _
  cases hexit : st.exit? pid with
  | some code =>
    rw [hexit] at hsee
    cases hsee
    simp only [resume, hexit, Probe.see, conclude]
  | none =>
    simp only [hexit, Probe.see] at hsee
    split at hsee
    · next hpresent =>
      cases hsee
      simp only [resume, hexit, Probe.see, hpresent, if_true, conclude]
    · cases hsee

theorem conclude_timedOut_runs {op : Operation} :
    Machine.Runs s Machine.Unbidden ⟨st, .busy op (.live pid)⟩
      ((Progress.ended (st.conclude s program pid .timedOut)).machine op) := by
  have hlate : Machine.Runs s Machine.Unbidden ⟨st, .busy op (.live pid)⟩
      ⟨(st.send program pid .kill).2, .busy op (.fallen pid)⟩ :=
    .one (.news .timeUp program) nofun rfl
  exact (hlate.trans (await_runs _ pid killGrace _)).step (.news .timeUp program) nofun rfl

/-- A look at a new process after some time finds what is due by then. -/
theorem see_await (halive : st.isAlive pid = true) (t : Span) :
    Probe.see ((st.await pid t).exit? pid) (s.seesPidFile (st.await pid t).files) =
      Probe.see (dueBy (st.conductOf pid).exits t.nanos)
        (s.seesPidFile (st.filesAt pid t.nanos)) := by
  have hexit : st.exit? pid = none := (isAlive_iff.mp halive).2
  rw [await_eq hexit]
  cases hdue : dueBy (st.conductOf pid).exits t.nanos with
  | some code =>
    simp only [exit?_processExits_self (isAlive_idleFor halive t), Probe.see]
  | none =>
    have hfiles : (st.idleFor pid t).files = st.filesAt pid t.nanos := rfl
    simp only [exit?_idleFor, hexit, hfiles]

/-- A new process becomes live, or has exited, or is killed in the end. -/
theorem awaitLive_runs {op : Operation} (halive : st.isAlive pid = true) :
    Machine.Runs s Machine.Unbidden ⟨st, .busy op (.live pid)⟩
      ((Progress.ended (st.awaitLive s program pid)).machine op) := by
  have hwait := await_runs (s := s) st pid (st.probe s pid).2 (.busy op (.live pid))
  have hprobe : (st.probe s pid).1 = .timedOut ∨
      Probe.see (dueBy (st.conductOf pid).exits (st.probe s pid).2.nanos)
        (s.seesPidFile (st.filesAt pid (st.probe s pid).2.nanos)) = some (st.probe s pid).1 :=
    Probe.see_wait _ _ _ _
  rw [awaitLive]
  rcases hprobe with htimed | hsee
  · rw [htimed]
    exact hwait.trans conclude_timedOut_runs
  · rw [← see_await halive] at hsee
    exact hwait.trans (conclude_runs hsee)

theorem awaitVerdict_runs {op : Operation} :
    Machine.Runs s Machine.Unbidden ⟨st, .busy op (.verdict pid)⟩
      ((Progress.ended (st.awaitVerdict s program pid)).machine op) :=
  (await_runs st pid _ _).step (.news (.tested (program.test s.testArguments)) program) nofun rfl

theorem awaitKilled_runs (program : Program) {op : Operation} :
    Machine.Runs s Machine.Unbidden ⟨st, .busy op (.killed pid)⟩
      ((Progress.ended ((st.await pid killGrace).dropStop s)).machine op) :=
  (await_runs st pid _ _).step (.news .timeUp program) nofun rfl

/-- A process that was told to stop exits in time, or is killed. -/
theorem awaitStop_runs {op : Operation} :
    Machine.Runs s Machine.Unbidden ⟨st, .busy op (.drained pid)⟩
      ((Progress.ended (st.awaitStop s program pid)).machine op) := by
  have hwait := await_runs (s := s) st pid s.stopTimeout (.busy op (.drained pid))
  rw [awaitStop]
  split
  · next hexit =>
    refine hwait.step (.news .look program) nofun ?_
    show some (Progress.machine op ((st.await pid s.stopTimeout).resume s program _ _)) = _
    simp only [resume, hexit, if_true]
  · have hinsist : Machine.Runs s Machine.Unbidden ⟨st, .busy op (.drained pid)⟩
        (((st.await pid s.stopTimeout).insist s program pid).machine op) :=
      hwait.step (.news .timeUp program) nofun rfl
    rcases (st.await pid s.stopTimeout).insist_cases s program pid with ⟨_, e, journal, hend⟩ |
      ⟨journal, hwaits⟩ | ⟨journal, hwaits⟩
    · rw [hend] at hinsist ⊢
      exact hinsist
    · rw [hwaits] at hinsist ⊢
      exact hinsist.trans (awaitKilled_runs program)
    · rw [hwaits] at hinsist ⊢
      exact hinsist.trans (awaitKilled_runs program)

/-- Waiting until an operation has ended is a run. -/
theorem finish_runs {op : Operation} {progress : Progress σ}
    (halive : ∀ pid st, progress = .waiting (.live pid) st → st.isAlive pid = true) :
    Machine.Runs s Machine.Unbidden (progress.machine op)
      ((Progress.ended (finish s program progress)).machine op) := by
  cases progress with
  | ended result => exact Runs.refl _
  | waiting a st =>
    cases a with
    | live pid => exact awaitLive_runs (halive pid st rfl)
    | fallen pid => exact (await_runs st pid _ _).step (.news .timeUp program) nofun rfl
    | verdict pid => exact awaitVerdict_runs
    | drained pid => exact awaitStop_runs
    | killed pid => exact awaitKilled_runs program

/-- A process that has just been started is alive. -/
theorem isAlive_of_undertake {op : Operation} {pid : Nat} {st' : Station σ}
    (h : st.undertake s program op = .waiting (.live pid) st') : st'.isAlive pid = true := by
  cases op with
  | start =>
    rcases st.beginStart_cases s program with ⟨_, journal, hbegin⟩ | ⟨_, _, hbegin⟩ |
      ⟨_, _, _, e, journal, hbegin⟩ | ⟨_, conduct, _, journal, hbegin⟩ <;>
      rw [undertake, hbegin] at h <;> cases h
    have hpid : st.nextPid = ((st.clearPidFile s.pidPath).withPhase .starting).nextPid := by
      rw [nextPid, nextPid, processes_withPhase, processes_clearPidFile]
    rw [isAlive_congr (processes_withJournal _ _), hpid]
    exact isAlive_spawn conduct
  | reload =>
    rcases st.beginReload_cases s program with ⟨e, hbegin⟩ | ⟨_, _, _, hbegin⟩ |
      ⟨_, _, _, hbegin⟩ <;> rw [undertake, hbegin] at h <;> cases h
  | stop graceful =>
    rcases st.beginStop_cases program graceful with ⟨_, journal, hbegin⟩ |
      ⟨_, _, _, journal, hbegin⟩ | ⟨_, _, _, _, _, journal, hbegin⟩ |
      ⟨_, _, _, journal, hbegin⟩ <;> rw [undertake, hbegin] at h <;> cases h

/-- An operation that is carried out with its waiting is a run. -/
theorem perform_runs (op : Operation) (last : Option (Operation × Except SupervisorError Unit)) :
    Machine.Runs s Anything ⟨st, .idle last⟩
      ⟨(st.perform s program op).2, .idle (some (op, (st.perform s program op).1))⟩ := by
  have hcall : Machine.Runs s Anything ⟨st, .idle last⟩
      ((st.undertake s program op).machine op) :=
    .one (.call op program) trivial rfl
  exact hcall.trans ((finish_runs fun _ _ => isAlive_of_undertake).mono fun _ _ _ => trivial)

end Station

end Portcullis
