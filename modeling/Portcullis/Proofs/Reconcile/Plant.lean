import Portcullis.Reconcile.Outcome
import Portcullis.Proofs.Supervision.Performance

/-!
# The reconciler as a machine

The reconciler with its compiler and its supervisor, taken step after step.  A pass compiles, decides
what to do to the proxy, has it done, and takes note of the result.  Between these steps, and while
an operation waits, processes may exit, the supervisor may be told to stop, and files may change.

* `Plant.step` is one step and `Plant.Runs` a run, on which a condition may say what can happen
  when.
* `Plant.pass_runs`: a pass that is carried out with its waiting is such a run.
-/

namespace Portcullis

/-- Where a pass is. -/
inductive Stage where
  | between
  /-- The routing rows have been compiled. -/
  | compiled (c : Compiled)
  /-- The proxy has to be started, or to be told to reload. -/
  | due (c : Compiled) (starts : Bool)
  /-- The supervisor is at it. -/
  | under (c : Compiled) (starts : Bool)
  /-- The supervisor is done, and the reconciler has not taken note. -/
  | told (c : Compiled) (starts : Bool) (result : Except SupervisorError Unit)

/-- What can happen. The routing rows that a pass finds may be any. -/
inductive Move (σ : Type) where
  | pass (view : Except StoreError Routing)
  | decide
  | act (program : Program)
  | settle
  | stop (graceful : Bool) (program : Program)
  | news (n : News) (program : Program)
  | incident (i : Incident σ)

/-- A reconciler, what its supervisor is doing, and where its pass is. -/
structure Plant (σ : Type) where
  control : Control σ
  activity : Activity := .idle none
  stage : Stage := .between
  /-- The passes that have ended, the latest first: what was compiled, if that succeeded, and what
  came of it. -/
  ended : List (Option Compiled × Outcome) := []

/-- The stage of a pass by what the supervisor is doing. -/
def Stage.after : Stage → Activity → Stage
  | .under c starts, .idle (some (_, result)) => .told c starts result
  | stage, _ => stage

/-- The operation that brings the proxy up to date. -/
def bringing (starts : Bool) : Operation :=
  if starts then .start else .reload

@[simp] theorem Stage.after_busy (stage : Stage) (op : Operation) (a : Await) :
    stage.after (.busy op a) = stage := by
  cases stage <;> rfl

@[simp] theorem Stage.after_after (stage : Stage) (a : Activity) :
    (stage.after a).after a = stage.after a := by
  cases stage with
  | under c starts =>
    match a with
    | .idle none => rfl
    | .idle (some (_, _)) => rfl
    | .busy _ _ => rfl
  | _ => rfl

namespace Plant

variable {σ : Type}

/-- The supervisor of a plant. -/
def machine (p : Plant σ) : Machine σ :=
  ⟨p.control.station, p.activity⟩

/-- The plant once its supervisor has come so far. -/
def follow (p : Plant σ) (m : Machine σ) : Plant σ :=
  { p with
    control := { p.control with station := m.station }
    activity := m.activity
    stage := p.stage.after m.activity }

/-- A pass ends. -/
def finish (p : Plant σ) (compiled : Option Compiled) (outcome : Outcome) : Plant σ :=
  { p with
    control := { p.control with reconciler := p.control.reconciler.count }
    stage := .between
    ended := (compiled, outcome) :: p.ended }

/-- A reconciler that has done nothing yet. -/
def fresh (settings : ProxySettings) (files : σ) (journal : Telemetry.Journal) : Plant σ where
  control := ⟨⟨settings, none⟩, {}, { files := files, journal := journal }⟩

variable [Browsable σ]

/-- What a plant does when something happens. Passes are made one at a time. -/
def step (s : SupervisorSettings) (p : Plant σ) : Move σ → Option (Plant σ)
  | .pass view =>
    match p.stage with
    | .between =>
      match p.control.compile view with
      | (.error e, control) => some ({ p with control := control }.finish none (.compileFailed e))
      | (.ok c, control) => some { p with control := control, stage := .compiled c }
    | _ => none
  | .decide =>
    match p.stage with
    | .compiled c =>
      match p.control.reconciler.remedy p.control.station.supervisor.isRunning c.changed with
      | .start => some { p with stage := .due c true }
      | .reload => some { p with stage := .due c false }
      | .nothing => some (p.finish (some c) .unchanged)
    | _ => none
  | .act program =>
    match p.stage with
    | .due c starts =>
      (p.machine.step s (.call (bringing starts) program)).map
        { p with stage := .under c starts }.follow
    | _ => none
  | .settle =>
    match p.stage with
    | .told c starts result =>
      let (outcome, reconciler) := p.control.reconciler.settle c starts result
      some ({ p with control := { p.control with reconciler := reconciler } }.finish (some c) outcome)
    | _ => none
  | .stop graceful program => (p.machine.step s (.call (.stop graceful) program)).map p.follow
  | .news n program => (p.machine.step s (.news n program)).map p.follow
  | .incident i => (p.machine.step s (.incident i)).map p.follow

/-- A run in which things happen that a condition allows. -/
abbrev Runs (s : SupervisorSettings) (allowed : Plant σ → Move σ → Prop) :
    Plant σ → Plant σ → Prop :=
  Portcullis.Runs (step s) allowed

variable {s : SupervisorSettings} {p : Plant σ}

/-! ## A pass is a run -/

/-- What the supervisor does by itself, it does under a pass. -/
theorem follow_step {m m' : Machine σ} {e : Occurrence σ} (hunbidden : m.Unbidden e)
    (he : m.step s e = some m') : ∃ move, (p.follow m).step s move = some (p.follow m') := by
  rcases Machine.step_cases he with ⟨op, program, _, rfl, _⟩ | ⟨n, program, op, a, rfl, hbusy, _⟩ |
    ⟨i, rfl, hm'⟩
  · exact absurd rfl (hunbidden op program)
  · refine ⟨.news n program, ?_⟩
    show (m.step s (.news n program)).map (p.follow m).follow = _
    rw [he, Option.map_some, follow, follow, follow, hbusy, Stage.after_busy]
  · refine ⟨.incident i, ?_⟩
    show (m.step s (.incident i)).map (p.follow m).follow = _
    rw [he, Option.map_some, hm', follow, follow, follow, Stage.after_after]

theorem follow_runs {m m' : Machine σ} (h : Machine.Runs s Machine.Unbidden m m') :
    Runs s Anything (p.follow m) (p.follow m') := by
  induction h with
  | refl => exact Runs.refl _
  | tail _ hlast ih =>
    obtain ⟨e, hunbidden, he⟩ := hlast
    obtain ⟨move, hmove⟩ := follow_step (p := p) hunbidden he
    exact ih.step move trivial hmove

/-- What a pass has done to the proxy, it has done with all its waiting. -/
theorem act_runs {c : Compiled} {starts : Bool} (hstage : p.stage = .due c starts)
    {last : Option (Operation × Except SupervisorError Unit)} (hidle : p.activity = .idle last)
    (program : Program) :
    Runs s Anything p ({ p with stage := .under c starts }.follow
      ((Progress.ended (p.control.station.perform s program (bringing starts))).machine
        (bringing starts))) := by
  have hact : p.step s (.act program) = some ({ p with stage := .under c starts }.follow
      ((p.control.station.undertake s program (bringing starts)).machine (bringing starts))) := by
    simp only [step, hstage, machine, hidle, Machine.step, Option.map_some]
  have hfinish : Machine.Runs s Machine.Unbidden
      ((p.control.station.undertake s program (bringing starts)).machine (bringing starts))
      ((Progress.ended (p.control.station.perform s program (bringing starts))).machine
        (bringing starts)) :=
    Station.finish_runs fun _ _ => Station.isAlive_of_undertake
  exact (Runs.one (.act program) trivial hact).trans (follow_runs hfinish)

/-- Once the proxy is due to be started or reloaded, the pass goes on to its end. -/
theorem due_runs (c : Control σ) (program : Program) (compiled : Compiled) (starts : Bool)
    (last : Option (Operation × Except SupervisorError Unit))
    (ended : List (Option Compiled × Outcome)) :
    let settled := c.settle compiled starts (c.station.perform s program (bringing starts))
    ∃ last', Runs s Anything ⟨c, .idle last, .due compiled starts, ended⟩
      (finish ⟨settled.2, .idle last', .between, ended⟩ (some compiled) settled.1) := by
  refine ⟨some (bringing starts, (c.station.perform s program (bringing starts)).1), ?_⟩
  exact (act_runs rfl rfl program).step .settle trivial rfl

/-- What a pass does to the proxy is a run, once it is decided. -/
theorem bringUp_runs (c : Control σ) (program : Program) (compiled : Compiled)
    (last : Option (Operation × Except SupervisorError Unit))
    (ended : List (Option Compiled × Outcome)) :
    ∃ last', Runs s Anything ⟨c, .idle last, .compiled compiled, ended⟩
      (finish ⟨(c.bringUp s program compiled).2, .idle last', .between, ended⟩ (some compiled)
        (c.bringUp s program compiled).1) := by
  unfold Control.bringUp
  cases hremedy : c.reconciler.remedy c.station.supervisor.isRunning compiled.changed with
  | start =>
    have hdue : Runs s Anything ⟨c, .idle last, .compiled compiled, ended⟩
        ⟨c, .idle last, .due compiled true, ended⟩ :=
      .one .decide trivial (by simp only [step, hremedy])
    obtain ⟨last', hend⟩ := due_runs c program compiled true last ended
    exact ⟨last', hdue.trans hend⟩
  | reload =>
    have hdue : Runs s Anything ⟨c, .idle last, .compiled compiled, ended⟩
        ⟨c, .idle last, .due compiled false, ended⟩ :=
      .one .decide trivial (by simp only [step, hremedy])
    obtain ⟨last', hend⟩ := due_runs c program compiled false last ended
    exact ⟨last', hdue.trans hend⟩
  | nothing =>
    refine ⟨last, .one .decide trivial ?_⟩
    simp only [step, hremedy]
    rfl

/-- A pass that is carried out with its waiting is a run. -/
theorem pass_runs (c : Control σ) (program : Program) (view : Except StoreError Routing)
    (last : Option (Operation × Except SupervisorError Unit))
    (ended : List (Option Compiled × Outcome)) :
    ∃ last' compiled, Runs s Anything ⟨c, .idle last, .between, ended⟩
      ⟨(c.pass s program view).2, .idle last', .between,
        (compiled, (c.pass s program view).1) :: ended⟩ := by
  unfold Control.pass
  rcases hcompile : c.compile view with ⟨e | compiled, c₁⟩
  · refine ⟨last, none, .one (.pass view) trivial ?_⟩
    simp only [step, hcompile]
    rfl
  · have hbegin : Runs s Anything ⟨c, .idle last, .between, ended⟩
        ⟨c₁, .idle last, .compiled compiled, ended⟩ :=
      .one (.pass view) trivial (by simp only [step, hcompile])
    obtain ⟨last', hend⟩ := bringUp_runs c₁ program compiled last ended
    exact ⟨last', some compiled, hbegin.trans hend⟩

end Plant

end Portcullis
