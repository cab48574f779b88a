import Portcullis.Proofs.Reconcile.Freshness
import Portcullis.Proofs.Reconcile.Rounds

/-!
# Calls that are served

At most one trigger waits, so a call may come to nothing. It is served all the same: its pass is
the one that the waiting trigger causes, and this pass reads the store later than the call.

* `Rounds.Served` is what every step keeps: the marks that follow others, and the books of the
  triggers and the passes.
* `Rounds.passes_add_due`: without calls, the passes that have ended and the ones that are due are
  always as many.
* `Rounds.triggers_served`: a loop at rest has answered every call, pass for trigger.
-/

namespace Portcullis

/-! ## Passes are counted -/

namespace Control

variable {σ : Type}

theorem passes_settle (c : Control σ) (compiled : Compiled) (started : Bool)
    (result : Except SupervisorError Unit × Station σ) :
    (c.settle compiled started result).2.reconciler.passes = c.reconciler.passes := by
  obtain ⟨result, station⟩ := result
  cases result <;> rfl

variable [Browsable σ]

theorem passes_bringUp (c : Control σ) (s : SupervisorSettings) (program : Program)
    (compiled : Compiled) :
    (c.bringUp s program compiled).2.reconciler.passes = c.reconciler.passes := by
  unfold bringUp
  split
  · exact passes_settle c compiled true _
  · exact passes_settle c compiled false _
  · rfl

/-- However a pass ends, it is counted once. -/
theorem passes_answer (c : Control σ) (s : SupervisorSettings) (program : Program)
    (view : Except StoreError Routing) (t : Trigger) :
    (c.answer s program view t).2.reconciler.passes = c.reconciler.passes + 1 := by
  show (c.pass s program view).2.reconciler.passes = _
  have hcompile : (c.compile view).2.reconciler = c.reconciler := rfl
  unfold pass
  rcases hc : c.compile view with ⟨result, next⟩
  rw [hc] at hcompile
  cases result with
  | error e =>
    show next.reconciler.passes + 1 = _
    rw [hcompile]
  | ok compiled =>
    show (next.bringUp s program compiled).2.reconciler.passes + 1 = _
    rw [passes_bringUp, hcompile]

end Control

namespace Rounds

variable {σ : Type} {s : SupervisorSettings} {m m' : Rounds σ}

theorem passes_finished [Browsable σ] (m : Rounds σ) (program : Program) (t : Trigger)
    (routing : Routing) :
    (m.finished s program t routing).passes = m.passes + 1 :=
  Control.passes_answer m.control s program (.ok routing) t

/-! ## What every step keeps -/

/-- What holds of a loop at any time after a number of passes. -/
structure Served (start : Nat) (m : Rounds σ) : Prop where
  closed : m.queue.closed = true → m.round = .done
  /-- Where no trigger waits, a pass has begun since each call. -/
  called : m.queue.waiting = none → m.queue.closed = false →
    Followed m.past Mark.isCall Mark.isReceipt
  /-- Unless a pass is about to, each pass has read the store since it began. -/
  received : (∀ t, m.round ≠ .begun t) → Followed m.past Mark.isReceipt Mark.isLook
  /-- Where no routing table has changed since, they are as they were read. -/
  current : Followed m.past Mark.isRerouting Mark.isLook →
    ∀ routing, m.lastSeen? = some routing → routing = m.store.routing
  passes : m.passes + m.round.inHand = start + m.received.length
  taken : m.taken = m.queue.waiting.toList ++ m.received

theorem Served.opened (control : Control σ) (store : Store) :
    Served control.reconciler.passes (opened control store) where
  closed h := nomatch h
  called _ _ := Followed.nil _ _
  received _ := Followed.nil _ _
  current _ _ h := nomatch h
  passes := rfl
  taken := rfl

theorem Served.isOpen {start : Nat} (h : Served start m) (hround : m.round ≠ .done) :
    m.queue.closed = false :=
  Bool.eq_false_iff.2 fun hclosed => hround (h.closed hclosed)

/-- If there was a call after each change of the routing tables, they are as they were read. -/
theorem Served.current_of_rest {start : Nat} (h : Served start m) (hround : m.round = .waiting)
    (hnone : m.queue.waiting = none) (hchange : Followed m.past Mark.isRerouting Mark.isCall)
    (hcall : ∃ x ∈ m.past, x.isCall = true) : m.lastSeen? = some m.store.routing := by
  have hread : Followed m.past Mark.isCall Mark.isLook :=
    (h.called hnone (h.isOpen (by rw [hround]; nofun))).trans (h.received (by rw [hround]; nofun))
  obtain ⟨x, hx, hisCall⟩ := hcall
  obtain ⟨y, hy, hlook⟩ := hread.exists_of_mem hx hisCall
  have hsome : m.lastSeen?.isSome := by
    apply List.findSome?_isSome_iff.2
    refine ⟨y, hy, ?_⟩
    cases y with
    | looked r => rfl
    | _ => cases hlook
  obtain ⟨routing, hlast⟩ := Option.isSome_iff_exists.1 hsome
  rw [hlast, h.current (hchange.trans hread) routing hlast]

theorem Served.of_called {start : Nat} (h : Served start m) (caller : Nat) (t : Trigger) :
    Served start (m.called caller t) := by
  obtain ⟨journal, ⟨-, hnone, heq⟩ | ⟨hbusy, heq⟩⟩ := m.called_cases caller t
  · rw [heq]
    refine ⟨h.closed, fun hwaiting => (nomatch hwaiting), fun hround => ?_, fun hchange => ?_,
      h.passes, ?_⟩
    · exact (h.received hround).keep rfl
    · exact h.current (hchange.of_cons rfl)
    · show t :: m.taken = t :: m.received
      rw [h.taken, hnone]
      rfl
  · -- The trigger that waits is not gone, so nothing is claimed of the call yet.
    rw [heq]
    refine ⟨h.closed, fun hwaiting hopen => ?_, fun hround => ?_, fun hchange => ?_,
      h.passes, h.taken⟩
    · rcases hbusy with hclosed | hsome
      · rw [show m.queue.closed = false from hopen] at hclosed
        cases hclosed
      · rw [show m.queue.waiting = none from hwaiting] at hsome
        cases hsome
    · exact (h.received hround).keep rfl
    · exact h.current (hchange.of_cons rfl)

/-- What the loop begins with a trigger answers all calls up to now. -/
theorem Served.of_receive {start : Nat} {t : Trigger} (h : Served start m)
    (hround : m.round = .waiting) (hwaiting : m.queue.waiting = some t) :
    Served start { m with
      queue := { m.queue with waiting := none }
      round := .begun t
      past := .received t :: m.past } := by
  have hopen := h.isOpen (by rw [hround]; nofun)
  have hpasses := h.passes
  rw [hround] at hpasses
  refine ⟨fun hclosed => ?_, fun _ _ => Followed.now rfl rfl, fun hidle => absurd rfl (hidle t),
    fun hchange => h.current (hchange.of_cons rfl), ?_, ?_⟩
  · rw [show m.queue.closed = true from hclosed] at hopen
    cases hopen
  · show m.passes + 1 = start + (m.received.length + 1)
    simp only [Round.inHand] at hpasses
    omega
  · show m.taken = t :: m.received
    rw [h.taken, hwaiting]
    rfl

theorem Served.of_look {start : Nat} {t : Trigger} (h : Served start m)
    (hround : m.round = .begun t) :
    Served start { m with
      round := .seen t m.store.routing
      past := .looked m.store.routing :: m.past } := by
  have hopen := h.isOpen (by rw [hround]; nofun)
  have hpasses := h.passes
  rw [hround] at hpasses
  refine ⟨fun hclosed => ?_, fun hnone _ => (h.called hnone hopen).keep rfl,
    fun _ => Followed.now rfl rfl, fun _ routing hlast => (Option.some.inj hlast).symm,
    hpasses, h.taken⟩
  rw [show m.queue.closed = true from hclosed] at hopen
  cases hopen

theorem Served.of_finish [Browsable σ] {start : Nat} {t : Trigger} {routing : Routing}
    (h : Served start m) (hround : m.round = .seen t routing) (program : Program) :
    Served start (m.finished s program t routing) := by
  have hopen := h.isOpen (by rw [hround]; nofun)
  have hpasses := h.passes
  rw [hround] at hpasses
  refine ⟨fun hclosed => ?_, fun hnone _ => (h.called hnone hopen).keep rfl,
    fun _ => (h.received ?_).keep rfl, fun hchange => h.current (hchange.of_cons rfl), ?_, h.taken⟩
  · rw [show m.queue.closed = true from hclosed] at hopen
    cases hopen
  · rw [hround]
    nofun
  · rw [passes_finished]
    exact hpasses

theorem Served.of_close {start : Nat} (h : Served start m) (hround : m.round = .waiting) :
    Served start { m with
      control := m.control.report reconcileStopped
      queue := { m.queue with closed := true }
      round := .done
      past := .closed :: m.past } := by
  have hpasses := h.passes
  rw [hround] at hpasses
  refine ⟨fun _ => rfl, fun _ hopen => (nomatch hopen), fun _ => (h.received ?_).keep rfl,
    fun hchange => h.current (hchange.of_cons rfl), hpasses, h.taken⟩
  rw [hround]
  nofun

theorem Served.step [Browsable σ] {start : Nat} (h : Served start m) {e : Beat}
    (he : m.step s e = some m') : Served start m' := by
  rcases step_cases he with ⟨caller, t, -, rfl⟩ | ⟨op, -, rfl⟩ | ⟨t, -, hround, hwaiting, rfl⟩ |
    ⟨t, -, hround, rfl⟩ | ⟨program, t, routing, -, hround, rfl⟩ | ⟨-, hround, rfl⟩
  · exact h.of_called caller t
  · refine ⟨h.closed, fun hnone hopen => (h.called hnone hopen).keep rfl,
      fun hidle => (h.received hidle).keep rfl, fun hchange => ?_, h.passes, h.taken⟩
    show ∀ routing, m.lastSeen? = some routing → routing = (m.store.perform op).routing
    rw [Store.routing_perform m.store (Followed.cons_iff.1 hchange).1]
    exact h.current (hchange.of_cons rfl)
  · exact h.of_receive hround hwaiting
  · exact h.of_look hround
  · exact h.of_finish hround program
  · exact h.of_close hround

theorem Served.of_runs [Browsable σ] {start : Nat} (h : Served start m)
    (hruns : Runs s Anything m m') : Served start m' :=
  hruns.invariant h fun _ _ _ hm _ hstep => hm.step hstep

/-! ## Without calls -/

theorem due_of_rest (hround : m.round = .waiting) (hnone : m.queue.waiting = none) :
    m.due = 0 := by
  unfold due
  rw [hround, hnone]
  rfl

variable [Browsable σ]

/-- Without calls, a pass ends for each trigger that was taken, and for nothing else. -/
theorem passes_add_due_of_step {e : Beat} (hcall : Uncalled m e) (he : m.step s e = some m') :
    m'.passes + m'.due = m.passes + m.due := by
  rcases step_cases he with ⟨caller, t, rfl, -⟩ | ⟨op, -, rfl⟩ | ⟨t, -, hround, hwaiting, rfl⟩ |
    ⟨t, -, hround, rfl⟩ | ⟨program, t, routing, -, hround, rfl⟩ | ⟨-, hround, rfl⟩
  · exact absurd rfl (hcall caller t)
  · rfl
  · show m.passes + (1 + 0) = m.passes + (m.round.inHand + m.queue.waiting.toList.length)
    rw [hround, hwaiting]
    rfl
  · show m.passes + (1 + m.queue.waiting.toList.length) = m.passes + (m.round.inHand + _)
    rw [hround]
    rfl
  · show (m.finished s program t routing).passes + (0 + m.queue.waiting.toList.length) =
      m.passes + (m.round.inHand + _)
    rw [passes_finished, hround]
    show m.passes + 1 + (0 + _) = m.passes + (1 + _)
    omega
  · show m.passes + (0 + m.queue.waiting.toList.length) = m.passes + (m.round.inHand + _)
    rw [hround]
    rfl

theorem passes_add_due (h : Runs s Uncalled m m') : m'.passes + m'.due = m.passes + m.due := by
  refine h.invariant (P := fun n => n.passes + n.due = m.passes + m.due) rfl
    fun n e n' hn hcall hstep => ?_
  exact (passes_add_due_of_step hcall hstep).trans hn

/-- A loop that waits comes to rest, once nobody calls. -/
theorem rests_of_waiting (hround : m.round = .waiting) (program : Program) :
    ∃ m', Runs s Uncalled m m' ∧ m'.round = .waiting ∧ m'.queue.waiting = none := by
  cases hwaiting : m.queue.waiting with
  | none => exact ⟨m, .refl m, hround, hwaiting⟩
  | some t =>
    obtain ⟨m', hruns, hdone, hqueue, -⟩ := waiting_runs (s := s) hround hwaiting program
    refine ⟨m', hruns, hdone, ?_⟩
    rw [hqueue]

theorem rests_of_inHand (hinHand : m.round.inHand = 1) (program : Program) :
    ∃ m', Runs s Uncalled m m' ∧ m'.round = .waiting ∧ m'.queue.waiting = none := by
  have hwaits : ∃ n, Runs s Uncalled m n ∧ n.round = .waiting := by
    cases hround : m.round with
    | waiting => rw [hround] at hinHand; cases hinHand
    | begun t =>
      obtain ⟨n, hruns, hdone, -⟩ := begun_runs (s := s) hround program
      exact ⟨n, hruns, hdone⟩
    | seen t routing => exact ⟨_, .one (.finish program) nofun (step_finish hround program), rfl⟩
    | done => rw [hround] at hinHand; cases hinHand
  obtain ⟨n, hfirst, hdone⟩ := hwaits
  obtain ⟨m', hruns, hrest⟩ := rests_of_waiting (s := s) hdone program
  exact ⟨m', hfirst.trans hruns, hrest⟩

/-! ## During a pass -/

/-- No pass ends. -/
def Unfinished (_ : Rounds σ) (e : Beat) : Prop :=
  ∀ program, e ≠ .finish program

/-- What holds at a later point of the pass that was on its way at some point. -/
structure SamePass (m m' : Rounds σ) : Prop where
  inHand : m'.round.inHand = 1
  isOpen : m'.queue.closed = false
  passes : m'.passes = m.passes
  /-- The first call finds the slot free or taken, and no other frees it. -/
  waiting : m.calls < m'.calls → m'.queue.waiting.isSome

omit [Browsable σ] in
theorem SamePass.of_called {n : Rounds σ} (h : SamePass m n) (caller : Nat) (t : Trigger) :
    SamePass m (n.called caller t) := by
  obtain ⟨journal, ⟨-, -, heq⟩ | ⟨hbusy, heq⟩⟩ := n.called_cases caller t
  · rw [heq]
    exact ⟨h.inHand, h.isOpen, h.passes, fun _ => rfl⟩
  · rw [heq]
    refine ⟨h.inHand, h.isOpen, h.passes, fun _ => ?_⟩
    rcases hbusy with hclosed | hsome
    · rw [h.isOpen] at hclosed
      cases hclosed
    · exact hsome

theorem SamePass.step {n n' : Rounds σ} (h : SamePass m n) {e : Beat} (hend : Unfinished n e)
    (he : n.step s e = some n') : SamePass m n' := by
  have hinHand := h.inHand
  rcases step_cases he with ⟨caller, t, -, rfl⟩ | ⟨op, -, rfl⟩ | ⟨t, -, hround, -, rfl⟩ |
    ⟨t, -, hround, rfl⟩ | ⟨program, t, routing, rfl, -⟩ | ⟨-, hround, rfl⟩
  · exact h.of_called caller t
  · exact ⟨h.inHand, h.isOpen, h.passes, h.waiting⟩
  · rw [hround] at hinHand
    cases hinHand
  · exact ⟨rfl, h.isOpen, h.passes, h.waiting⟩
  · exact absurd rfl (hend program)
  · rw [hround] at hinHand
    cases hinHand

/-- Any number of calls during a pass make one more pass due. -/
theorem due_of_calls (hinHand : m.round.inHand = 1) (hopen : m.queue.closed = false)
    (h : Runs s Unfinished m m') (hcalls : m.calls < m'.calls) :
    m'.round.inHand = 1 ∧ m'.passes + m'.due = m.passes + 2 := by
  have hsame : SamePass m m' :=
    h.invariant ⟨hinHand, hopen, rfl, fun hlt => absurd hlt (Nat.lt_irrefl _)⟩
      fun _ _ _ hn hend hstep => hn.step hend hstep
  obtain ⟨t, hwaiting⟩ := Option.isSome_iff_exists.1 (hsame.waiting hcalls)
  refine ⟨hsame.inHand, ?_⟩
  unfold due
  rw [hsame.inHand, hsame.passes, hwaiting]
  rfl

/-! ## The loop at rest -/

/-- No call is lost and none is answered twice, however callers, changes of the store and the loop
take turns. Where the loop waits and no trigger does, a pass has begun, and has read the store,
since each call, whether or not its trigger was taken; so if there was a call after each change,
the last pass has read the store after the last one, and if there was one after each change of the
routing tables, what it has read is what they are. The passes are as many as the triggers received,
which are those that were taken, in their order, up to the one that waits. And whatever number of
calls fall into one pass, once they end the loop comes to rest with one more pass than that. -/
theorem triggers_served {control : Control σ} {store : Store}
    (h : Runs s Anything (opened control store) m) :
    (m.round = .waiting → m.queue.waiting = none →
      Followed m.past Mark.isCall Mark.isReceipt ∧ Followed m.past Mark.isReceipt Mark.isLook ∧
      (Followed m.past Mark.isChange Mark.isCall → Followed m.past Mark.isChange Mark.isLook) ∧
      (Followed m.past Mark.isRerouting Mark.isCall → (∃ x ∈ m.past, x.isCall = true) →
        m.lastSeen? = some m.store.routing)) ∧
    m.passes + m.round.inHand = control.reconciler.passes + m.received.length ∧
    m.taken = m.queue.waiting.toList ++ m.received ∧
    (m.round.inHand = 1 → ∀ m₁, Runs s Unfinished m m₁ → m.calls < m₁.calls →
      (∀ m₂, Runs s Uncalled m₁ m₂ → m₂.round = .waiting → m₂.queue.waiting = none →
        m₂.passes = m.passes + 2) ∧
      ∀ _ : Program, ∃ m₂, Runs s Uncalled m₁ m₂ ∧ m₂.round = .waiting ∧
        m₂.queue.waiting = none) := by
  have hserved : Served control.reconciler.passes m := (Served.opened control store).of_runs h
  refine ⟨fun hround hnone => ?_, hserved.passes, hserved.taken, fun hinHand m₁ hpass hcalls => ?_⟩
  · have hreceived := hserved.called hnone (hserved.isOpen (by rw [hround]; nofun))
    have hlooked := hserved.received (by rw [hround]; nofun)
    exact ⟨hreceived, hlooked, fun hchange => (hchange.trans hreceived).trans hlooked,
      hserved.current_of_rest hround hnone⟩
  · have hopen : m.queue.closed = false := by
      apply hserved.isOpen
      intro hover
      rw [hover] at hinHand
      cases hinHand
    obtain ⟨hlater, hdue⟩ := due_of_calls hinHand hopen hpass hcalls
    refine ⟨fun m₂ hruns hround hnone => ?_, rests_of_inHand hlater⟩
    have htotal := passes_add_due hruns
    rw [due_of_rest hround hnone] at htotal
    omega

/-! ## A crowded pass -/

instance decidableFollowed (p q : Mark → Bool) : (past : List Mark) → Decidable (Followed past p q)
  | [] => .isTrue (Followed.nil p q)
  | _ :: past =>
    have := decidableFollowed p q past
    decidable_of_iff _ Followed.cons_iff.symm

/-- A pass begins. -/
def firstBeats : List Beat :=
  [.call 0 .startup, .receive]

/-- While it is on its way two others call, one before and one after a change that it does not
read. -/
def crowdedBeats : List Beat :=
  [.look, .call 1 .manual, .change (.upsert (.domain ⟨1, "example.org"⟩)), .call 2 .signal]

/-- It ends, and so does the pass for the two calls. -/
def lastBeats : List Beat :=
  [.finish (.always .silent), .receive, .look, .finish (.always .silent)]

def isAtRest (m : Rounds σ) : Bool :=
  match m.round with
  | .waiting => m.queue.waiting.isNone
  | _ => false

omit [Browsable σ] in
theorem eq_of_isAtRest {m : Rounds σ} (h : m.isAtRest = true) :
    m.round = .waiting ∧ m.queue.waiting = none := by
  unfold isAtRest at h
  split at h
  · next hround => exact ⟨hround, Option.isNone_iff_eq_none.1 h⟩
  · cases h

/-- The two calls that fall into the first pass cause the second, which reads the change. -/
theorem triggers_served_crowded : ∃ m m₁ m₂ : Rounds Trial,
    Runs {} Anything (opened (Plant.fresh {} Plant.bare .empty).control {}) m ∧
    m.round.inHand = 1 ∧ Runs {} Unfinished m m₁ ∧ m₁.calls = m.calls + 2 ∧
    Runs {} Uncalled m₁ m₂ ∧ m₂.round = .waiting ∧ m₂.queue.waiting = none ∧
    m₂.passes = m.passes + 2 ∧
    Followed m₂.past Mark.isRerouting Mark.isCall ∧ m₂.lastSeen? = some m₂.store.routing := by
  let start := opened (Plant.fresh {} Plant.bare .empty).control {}
  have hplay : ((firstBeats.foldlM (step {}) start).any fun m =>
      (crowdedBeats.foldlM (step {}) m).any fun m₁ =>
      (lastBeats.foldlM (step {}) m₁).any fun m₂ =>
      decide (m.round.inHand = 1 ∧ m₁.calls = m.calls + 2 ∧ m₂.isAtRest = true ∧
        Followed m₂.past Mark.isRerouting Mark.isCall ∧
        ∃ x ∈ m₂.past, x.isCall = true)) = true := by
    decide
  obtain ⟨m, hfirst, hplay⟩ := (Option.any_eq_true _ _).1 hplay
  obtain ⟨m₁, hcrowded, hplay⟩ := (Option.any_eq_true _ _).1 hplay
  obtain ⟨m₂, hlast, hplay⟩ := (Option.any_eq_true _ _).1 hplay
  obtain ⟨hinHand, hcalls, hrest, hfollowed, hcall⟩ := of_decide_eq_true hplay
  obtain ⟨hround, hnone⟩ := eq_of_isAtRest hrest
  have hreach : Runs {} Anything start m := .of_foldlM (fun _ _ _ => trivial) hfirst
  have hpass : Runs {} Unfinished m m₁ := by
    refine .of_foldlM (fun e he m program heq => ?_) hcrowded
    rw [heq] at he
    simp [crowdedBeats] at he
  have hquiet : Runs {} Uncalled m₁ m₂ := by
    refine .of_foldlM (fun e he m caller t heq => ?_) hlast
    rw [heq] at he
    simp [lastBeats] at he
  have hend : Runs {} Anything start m₂ :=
    (hreach.trans (hpass.mono fun _ _ _ => trivial)).trans (hquiet.mono fun _ _ _ => trivial)
  have hpasses :=
    ((triggers_served hreach).2.2.2 hinHand m₁ hpass (by omega)).1 m₂ hquiet hround hnone
  exact ⟨m, m₁, m₂, hreach, hinHand, hpass, hcalls, hquiet, hround, hnone, hpasses, hfollowed,
    ((triggers_served hend).1 hround hnone).2.2.2 hfollowed hcall⟩

end Rounds

end Portcullis
