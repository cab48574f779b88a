import Portcullis.Proofs.Runs
import Portcullis.Proofs.Store.Operations
import Portcullis.Reconcile.Trigger

/-!
# Rounds

The loop of passes with its queue, taken step after step. Callers call for passes, the store
changes, and the loop receives a trigger, has its pass read the store, and ends the pass.

* `Rounds.step` is one step.  Anything may happen at any time, so its runs are all interleavings.
* `Rounds.past` keeps what has happened, the latest first.  `Followed` says that something has
  happened since each time that something else has.
* `Rounds.step_cases` says all that a step may be.
* `Rounds.drain_replayed`: a loop that nobody calls any more is a run.
-/

namespace Portcullis

/-! ## What has happened -/

/-- What has happened to the loop, the queue and the store. -/
inductive Mark where
  /-- Somebody has called for a pass, and was told whether the trigger was taken. -/
  | called (caller : Nat) (t : Trigger) (taken : Bool)
  | changed (op : StoreOp)
  /-- The loop has received a trigger: the pass that it asks for has begun. -/
  | received (t : Trigger)
  /-- The pass has read the store. -/
  | looked (routing : Routing)
  | ended (t : Trigger) (o : Outcome)
  | closed

namespace Mark

def isCall : Mark → Bool
  | called .. => true
  | _ => false

def isChange : Mark → Bool
  | changed _ => true
  | _ => false

/-- The change may have been one of the routing tables. -/
def isRerouting : Mark → Bool
  | changed op => op.onRouting
  | _ => false

def isReceipt : Mark → Bool
  | received _ => true
  | _ => false

def isLook : Mark → Bool
  | looked _ => true
  | _ => false

/-- The trigger of a call that took it. -/
def taken? : Mark → Option Trigger
  | called _ t true => some t
  | _ => none

def received? : Mark → Option Trigger
  | received t => some t
  | _ => none

def looked? : Mark → Option Routing
  | looked r => some r
  | _ => none

end Mark

/-- Since each mark of one kind there has been one of another kind. -/
def Followed (past : List Mark) (p q : Mark → Bool) : Prop :=
  ∀ later x earlier, past = later ++ x :: earlier → p x = true → ∃ y ∈ later, q y = true

namespace Followed

variable {past : List Mark} {x : Mark} {p q r : Mark → Bool}

theorem nil (p q : Mark → Bool) : Followed [] p q := by
  intro later x earlier h
  cases later <;> cases h

/-- One more mark is not of the one kind, and is of the other kind unless none was missing. -/
theorem cons_iff : Followed (x :: past) p q ↔ p x = false ∧ (q x = true ∨ Followed past p q) := by
  constructor
  · intro h
    constructor
    · cases hp : p x with
      | false => rfl
      | true =>
        obtain ⟨y, hy, -⟩ := h [] x past rfl hp
        cases hy
    · cases hq : q x with
      | true => exact Or.inl rfl
      | false =>
        refine Or.inr fun later y earlier hpast hp => ?_
        obtain ⟨z, hz, hqz⟩ := h (x :: later) y earlier (congrArg (x :: ·) hpast) hp
        rcases List.mem_cons.1 hz with heq | hlater
        · rw [heq, hq] at hqz
          cases hqz
        · exact ⟨z, hlater, hqz⟩
  · intro h later y earlier hpast hp
    cases later with
    | nil =>
      obtain ⟨rfl, -⟩ := List.cons.inj hpast
      rw [h.1] at hp
      cases hp
    | cons z later =>
      obtain ⟨rfl, hrest⟩ := List.cons.inj hpast
      rcases h.2 with hq | hfollowed
      · exact ⟨_, List.mem_cons_self, hq⟩
      · obtain ⟨w, hw, hqw⟩ := hfollowed later y earlier hrest hp
        exact ⟨w, List.mem_cons_of_mem _ hw, hqw⟩

theorem keep (hp : p x = false) (h : Followed past p q) : Followed (x :: past) p q :=
  cons_iff.2 ⟨hp, Or.inr h⟩

theorem now (hp : p x = false) (hq : q x = true) : Followed (x :: past) p q :=
  cons_iff.2 ⟨hp, Or.inl hq⟩

theorem of_cons (h : Followed (x :: past) p q) (hq : q x = false) : Followed past p q := by
  rcases (cons_iff.1 h).2 with htrue | hpast
  · rw [hq] at htrue
    cases htrue
  · exact hpast

theorem trans (h : Followed past p q) (h' : Followed past q r) : Followed past p r := by
  intro later x earlier hpast hp
  obtain ⟨y, hy, hqy⟩ := h later x earlier hpast hp
  obtain ⟨front, back, rfl⟩ := List.append_of_mem hy
  have hsplit : past = front ++ y :: (back ++ x :: earlier) := by
    rw [hpast, List.append_assoc, List.cons_append]
  obtain ⟨z, hz, hrz⟩ := h' front y _ hsplit hqy
  exact ⟨z, List.mem_append_left _ hz, hrz⟩

/-- Where there is one of the one kind there is one of the other. -/
theorem exists_of_mem (h : Followed past p q) (hx : x ∈ past) (hp : p x = true) :
    ∃ y ∈ past, q y = true := by
  obtain ⟨later, earlier, rfl⟩ := List.append_of_mem hx
  obtain ⟨y, hy, hq⟩ := h later x earlier rfl hp
  exact ⟨y, List.mem_append_left _ hy, hq⟩

end Followed

/-! ## The machine -/

/-- Where the loop is. -/
inductive Round where
  | waiting
  /-- A trigger has been received, and its pass has not read the store yet. -/
  | begun (t : Trigger)
  /-- The pass has read the store. -/
  | seen (t : Trigger) (routing : Routing)
  | done

/-- How many passes are on their way. -/
def Round.inHand : Round → Nat
  | waiting | done => 0
  | begun _ | seen .. => 1

/-- The loop of passes with its queue and the store. -/
structure Rounds (σ : Type) where
  control : Control σ
  store : Store
  queue : TriggerQueue := {}
  round : Round := .waiting
  past : List Mark := []

/-- What can happen. The program says how the processes of the moment behave. -/
inductive Beat where
  | call (caller : Nat) (t : Trigger)
  | change (op : StoreOp)
  | receive
  | look
  | finish (program : Program)
  /-- The loop is told to end, or nobody is left to call. -/
  | close

namespace Rounds

variable {σ : Type}

/-- A loop over a queue that nobody has called yet. -/
def opened (control : Control σ) (store : Store) : Rounds σ :=
  { control := control, store := store }

def withJournal (m : Rounds σ) (journal : Telemetry.Journal) : Rounds σ :=
  { m with control := { m.control with station := { m.control.station with journal := journal } } }

/-- The passes that have ended. -/
def passes (m : Rounds σ) : Nat :=
  m.control.reconciler.passes

/-- How often somebody has called for a pass. -/
def calls (m : Rounds σ) : Nat :=
  m.past.countP Mark.isCall

/-- The triggers that calls were told to be taken, the latest first. -/
def taken (m : Rounds σ) : List Trigger :=
  m.past.filterMap Mark.taken?

/-- The triggers that the loop has received, the latest first. -/
def received (m : Rounds σ) : List Trigger :=
  m.past.filterMap Mark.received?

/-- What the last pass has read. -/
def lastSeen? (m : Rounds σ) : Option Routing :=
  m.past.findSome? Mark.looked?

/-- The passes that are still to be ended for what was taken so far. -/
def due (m : Rounds σ) : Nat :=
  m.round.inHand + m.queue.waiting.toList.length

/-- Somebody calls for a pass. -/
def called (m : Rounds σ) (caller : Nat) (t : Trigger) : Rounds σ :=
  let (taken, queue, journal) := m.queue.send t m.control.station.journal
  { m with queue := queue, past := .called caller t taken :: m.past }.withJournal journal

variable [Browsable σ]

/-- Ends a pass over what it has read. -/
def finished (m : Rounds σ) (s : SupervisorSettings) (program : Program) (t : Trigger)
    (routing : Routing) : Rounds σ :=
  let (outcome, control) := m.control.answer s program (.ok routing) t
  { m with control := control, round := .waiting, past := .ended t outcome :: m.past }

/-- What the loop does when something happens. -/
def step (s : SupervisorSettings) (m : Rounds σ) : Beat → Option (Rounds σ)
  | .call caller t => some (m.called caller t)
  | .change op => some { m with store := m.store.perform op, past := .changed op :: m.past }
  | .receive =>
    match m.round, m.queue.receive with
    | .waiting, (some t, queue) =>
      some { m with queue := queue, round := .begun t, past := .received t :: m.past }
    | _, _ => none
  | .look =>
    match m.round with
    | .begun t =>
      some { m with
        round := .seen t m.store.routing
        past := .looked m.store.routing :: m.past }
    | _ => none
  | .finish program =>
    match m.round with
    | .seen t routing => some (m.finished s program t routing)
    | _ => none
  | .close =>
    match m.round with
    | .waiting =>
      some { m with
        control := m.control.report reconcileStopped
        queue := { m.queue with closed := true }
        round := .done
        past := .closed :: m.past }
    | _ => none

/-- A run in which things happen that a condition allows. -/
abbrev Runs (s : SupervisorSettings) (allowed : Rounds σ → Beat → Prop) :
    Rounds σ → Rounds σ → Prop :=
  Portcullis.Runs (step s) allowed

variable {s : SupervisorSettings} {m m' : Rounds σ}

omit [Browsable σ] in
/-- A trigger is taken where none waits, and else the queue stays as it is. -/
theorem called_cases (m : Rounds σ) (caller : Nat) (t : Trigger) :
    ∃ journal,
      (m.queue.closed = false ∧ m.queue.waiting = none ∧ m.called caller t =
        { m with
          queue := { m.queue with waiting := some t }
          past := .called caller t true :: m.past }.withJournal journal) ∨
      ((m.queue.closed = true ∨ m.queue.waiting.isSome) ∧ m.called caller t =
        { m with past := .called caller t false :: m.past }.withJournal journal) := by
  unfold called TriggerQueue.send
  by_cases hclosed : m.queue.closed = true
  · rw [if_pos hclosed]
    exact ⟨_, Or.inr ⟨Or.inl hclosed, rfl⟩⟩
  · rw [if_neg hclosed]
    have hopen : m.queue.closed = false := Bool.eq_false_iff.2 hclosed
    cases hwaiting : m.queue.waiting with
    | none => exact ⟨_, Or.inl ⟨hopen, rfl, rfl⟩⟩
    | some u => exact ⟨_, Or.inr ⟨Or.inr rfl, rfl⟩⟩

/-- All that a step may be. -/
theorem step_cases {e : Beat} (h : m.step s e = some m') :
    (∃ caller t, e = .call caller t ∧ m' = m.called caller t) ∨
    (∃ op, e = .change op ∧
      m' = { m with store := m.store.perform op, past := .changed op :: m.past }) ∨
    (∃ t, e = .receive ∧ m.round = .waiting ∧ m.queue.waiting = some t ∧
      m' = { m with
        queue := { m.queue with waiting := none }
        round := .begun t
        past := .received t :: m.past }) ∨
    (∃ t, e = .look ∧ m.round = .begun t ∧
      m' = { m with
        round := .seen t m.store.routing
        past := .looked m.store.routing :: m.past }) ∨
    (∃ program t routing, e = .finish program ∧ m.round = .seen t routing ∧
      m' = m.finished s program t routing) ∨
    (e = .close ∧ m.round = .waiting ∧
      m' = { m with
        control := m.control.report reconcileStopped
        queue := { m.queue with closed := true }
        round := .done
        past := .closed :: m.past }) := by
  cases e with
  | call caller t => exact .inl ⟨caller, t, rfl, (Option.some.inj h).symm⟩
  | change op => exact .inr (.inl ⟨op, rfl, (Option.some.inj h).symm⟩)
  | receive =>
    simp only [step, TriggerQueue.receive] at h
    split at h
    · next t queue hround hreceive =>
      obtain ⟨hwaiting, rfl⟩ := Prod.mk.inj hreceive
      exact .inr (.inr (.inl ⟨t, rfl, hround, hwaiting, (Option.some.inj h).symm⟩))
    · cases h
  | look =>
    simp only [step] at h
    split at h
    · next t hround =>
      exact .inr (.inr (.inr (.inl ⟨t, rfl, hround, (Option.some.inj h).symm⟩)))
    · cases h
  | finish program =>
    simp only [step] at h
    split at h
    · next t routing hround =>
      exact .inr (.inr (.inr (.inr (.inl
        ⟨program, t, routing, rfl, hround, (Option.some.inj h).symm⟩))))
    · cases h
  | close =>
    simp only [step] at h
    split at h
    · next hround => exact .inr (.inr (.inr (.inr (.inr ⟨rfl, hround, (Option.some.inj h).symm⟩))))
    · cases h

/-! ## Steps that can be taken -/

theorem step_receive {t : Trigger} (hround : m.round = .waiting)
    (hwaiting : m.queue.waiting = some t) :
    m.step s .receive = some { m with
      queue := { m.queue with waiting := none }
      round := .begun t
      past := .received t :: m.past } := by
  simp only [step, TriggerQueue.receive, hround, hwaiting]

theorem step_look {t : Trigger} (hround : m.round = .begun t) :
    m.step s .look = some { m with
      round := .seen t m.store.routing
      past := .looked m.store.routing :: m.past } := by
  simp only [step, hround]

theorem step_finish {t : Trigger} {routing : Routing} (hround : m.round = .seen t routing)
    (program : Program) : m.step s (.finish program) = some (m.finished s program t routing) := by
  simp only [step, hround]

theorem step_close (hround : m.round = .waiting) :
    m.step s .close = some { m with
      control := m.control.report reconcileStopped
      queue := { m.queue with closed := true }
      round := .done
      past := .closed :: m.past } := by
  simp only [step, hround]

/-- Nobody calls. -/
def Uncalled (_ : Rounds σ) (e : Beat) : Prop :=
  ∀ caller t, e ≠ .call caller t

/-- What was received is answered with a pass over the store as it is. -/
theorem begun_runs {t : Trigger} (hround : m.round = .begun t) (program : Program) :
    ∃ m', Runs s Uncalled m m' ∧ m'.round = .waiting ∧ m'.queue = m.queue ∧ m'.store = m.store ∧
      m'.control = (m.control.answer s program (.ok m.store.routing) t).2 := by
  have hlook := step_look (s := s) hround
  generalize hseen : ({ m with
    round := .seen t m.store.routing
    past := .looked m.store.routing :: m.past } : Rounds σ) = seen at hlook
  have hround' : seen.round = .seen t m.store.routing := by rw [← hseen]
  have hfirst : Runs s Uncalled m seen := .one .look nofun hlook
  refine ⟨seen.finished s program t m.store.routing,
    hfirst.step (.finish program) nofun (step_finish hround' program), rfl, ?_, ?_, ?_⟩ <;>
    rw [← hseen] <;> rfl

/-- A trigger that waits is received and answered. -/
theorem waiting_runs {t : Trigger} (hround : m.round = .waiting)
    (hwaiting : m.queue.waiting = some t) (program : Program) :
    ∃ m', Runs s Uncalled m m' ∧ m'.round = .waiting ∧
      m'.queue = { m.queue with waiting := none } ∧ m'.store = m.store ∧
      m'.control = (m.control.answer s program (.ok m.store.routing) t).2 := by
  have hreceive := step_receive (s := s) hround hwaiting
  generalize hbegun : ({ m with
    queue := { m.queue with waiting := none }
    round := .begun t
    past := .received t :: m.past } : Rounds σ) = begun at hreceive
  have hround' : begun.round = .begun t := by rw [← hbegun]
  obtain ⟨m', hruns, hdone, hqueue, hstore, hcontrol⟩ := begun_runs (s := s) hround' program
  have hfirst : Runs s Uncalled m begun := .one .receive nofun hreceive
  refine ⟨m', hfirst.trans hruns, hdone, ?_, ?_, ?_⟩
  · rw [hqueue, ← hbegun]
  · rw [hstore, ← hbegun]
  · rw [hcontrol, ← hbegun]

/-- A loop that nobody calls any more answers the trigger that waits, if one does, and ends. -/
theorem drain_replayed (hround : m.round = .waiting) (program : Program) :
    ∃ m', Runs s Uncalled m m' ∧ m'.round = .done ∧
      m'.control = m.control.drainTriggers s program (.ok m.store.routing) m.queue := by
  cases hwaiting : m.queue.waiting with
  | none =>
    refine ⟨_, .one .close nofun (step_close hround), rfl, ?_⟩
    simp only [Control.drainTriggers, hwaiting]
  | some t =>
    obtain ⟨m', hruns, hdone, -, -, hcontrol⟩ := waiting_runs (s := s) hround hwaiting program
    refine ⟨_, hruns.step .close nofun (step_close hdone), rfl, ?_⟩
    simp only [Control.drainTriggers, hwaiting, hcontrol]

end Rounds

end Portcullis
