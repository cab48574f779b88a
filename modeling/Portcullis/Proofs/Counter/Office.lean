import Portcullis.Counter.Writer
import Portcullis.Proofs.Admission.Hearing
import Portcullis.Proofs.Runs

/-!
# Admission and the counter writer as one machine

Decisions are made while the writer works on the hits that earlier decisions have queued, and while
the store changes.  The `Office` takes one step at a time: a decision is begun, asks a question or
is concluded; the writer takes an update, tries to write it or stops; the store changes.

* `Office.step` is one step.  Anything may happen at any time, so its runs are all interleavings.
* The office keeps books: what was decided (`Booking`), what became of the updates that the writer
  took, and what was lost when it stopped.
* `Office.step_cases` says all that a step may be.
* `Office.write_replayed` says that the attempts at an update are those of `CounterWriter.write`,
  and `Office.decide_replayed` that a decision that nothing comes between is that of `decide`.
-/

namespace Portcullis

open Portcullis.Admission
open Portcullis.Telemetry

/-! ## The machine -/

/-- What the attempts at an update came to so far. -/
structure Tries where
  calls : Nat := 0
  waits : List UInt64 := []
  notes : List Telemetry.Event := []

/-- One more attempt that has failed, and is waited for to be repeated. -/
def Tries.again (tries : Tries) (p : RetryPolicy) (e : StoreError) (draw : Nat) : Tries :=
  let wait := p.delay (tries.calls + 1) draw
  { calls := tries.calls + 1
    waits := tries.waits ++ [wait]
    notes := tries.notes ++ [RetryPolicy.retrying (tries.calls + 1) wait e] }

/-- What the writer is doing. -/
inductive Clerk where
  | idle
  | writing (u : CounterUpdate) (tries : Tries)
  | gone

def Clerk.isGone : Clerk → Bool
  | gone => true
  | _ => false

/-- The update that the writer has taken. -/
def Clerk.inHand : Clerk → List CounterUpdate
  | writing u _ => [u]
  | _ => []

/-- A decision in the books: the rows that its questions found, what became of the update that it
made, if it made one, how many updates waited then, and whether the writer had stopped. -/
structure Booking where
  rows : List RowRef
  time : UInt64
  decision : Decision
  update : Option (CounterUpdate × Offered)
  backlog : Nat
  stopped : Bool

/-- The update that a decision has queued. -/
def Booking.queued? (e : Booking) : Option CounterUpdate :=
  e.update.bind fun (u, offered) => if offered = .queued then some u else none

/-- Decisions on their way, the queue and its writer, and the store. -/
structure Office where
  policy : RetryPolicy
  store : Store
  queue : CounterQueue
  journal : Journal
  clerk : Clerk := .idle
  hearings : List Hearing := []
  /-- The decisions in their order. -/
  ledger : List Booking := []
  /-- What became of the updates that the writer took, in its order. -/
  finished : List (CounterUpdate × Except StoreError Unit) := []
  /-- What was still to be written when the writer stopped. -/
  discarded : List CounterUpdate := []

/-- What can happen. A question may be asked of any view of the store; an attempt may have any
reply, and may have reached the store or not. -/
inductive Occasion where
  | arrive (r : Request) (time : UInt64)
  | ask (i : Nat) (view : Store → AccessSource) (limit : Span)
  | conclude (i : Nat)
  | take
  | attempt (reply : Except StoreError Unit) (reached : Bool) (draw : Nat)
  | stop
  | change (op : StoreOp)

namespace Office

/-- An office that opens, with the queue and the retries of some settings. -/
def opened (s : CounterSettings) (store : Store) (journal : Journal) : Office where
  policy := s.retryPolicy
  store := store
  queue := s.queue
  journal := journal

/-- What the books say of a decision that has come to a finding. -/
def booking (m : Office) (h : Hearing) (f : Finding) : Booking where
  rows := h.rows
  time := h.time
  decision := f.decision
  update := (f.update? h.time).map fun u => (u, (m.queue.offer u).1)
  backlog := m.queue.pending.length
  stopped := m.clerk.isGone

/-- Concludes a decision that has come to a finding. -/
def concluded (m : Office) (i : Nat) (h : Hearing) (f : Finding) : Office :=
  let settled := settle f h.request h.time m.queue m.journal
  { m with
    queue := settled.1
    journal := settled.2
    hearings := m.hearings.eraseIdx i
    ledger := m.ledger ++ [m.booking h f] }

/-- Is done with an update. -/
def finish (m : Office) (u : CounterUpdate) (tries : Tries) (result : Except StoreError Unit) :
    Office :=
  { m with
    clerk := .idle
    journal := CounterWriter.account u ⟨result, tries.calls, tries.waits, tries.notes⟩ m.journal
    finished := m.finished ++ [(u, result)] }

/-- Goes on after one more attempt. -/
def attempted (m : Office) (u : CounterUpdate) (tries : Tries) (reply : Except StoreError Unit)
    (draw : Nat) : Office :=
  let done := m.finish u { tries with calls := tries.calls + 1 } reply
  match reply with
  | .ok () => done
  | .error e =>
    if e.isRetryable && tries.calls + 1 < m.policy.maxAttempts.toNat then
      { m with clerk := .writing u (tries.again m.policy e draw) }
    else done

/-- The store after an attempt that has reached it or not. -/
def written (store : Store) (u : CounterUpdate) (reached : Bool) : Store :=
  if reached then (u.apply store).2 else store

/-- What an office does when something happens. -/
def step (m : Office) : Occasion → Option Office
  | .arrive r time => some { m with hearings := m.hearings ++ [.opened r time] }
  | .ask i view limit => do
    let h ← m.hearings[i]?
    let h ← h.hear (view m.store) limit
    return { m with hearings := m.hearings.set i h }
  | .conclude i => do
    let h ← m.hearings[i]?
    match h.plan with
    | .done f => return m.concluded i h f
    | .ask .. => none
  | .take =>
    match m.clerk, m.queue.pending with
    | .idle, u :: rest =>
      some { m with queue := { m.queue with pending := rest }, clerk := .writing u {} }
    | _, _ => none
  | .attempt reply reached draw =>
    match m.clerk with
    | .writing u tries =>
      some ({ m with store := written m.store u reached }.attempted u tries reply draw)
    | _ => none
  | .stop =>
    match m.clerk with
    | .gone => none
    | clerk =>
      some { m with
        clerk := .gone
        queue := { m.queue with pending := [], closed := true }
        discarded := clerk.inHand ++ m.queue.pending }
  | .change op => some { m with store := m.store.perform op }

/-- The updates that decisions have queued, in their order. -/
def queued (m : Office) : List CounterUpdate :=
  m.ledger.filterMap Booking.queued?

variable {m m' : Office}

/-- All that a step may be. -/
theorem step_cases {e : Occasion} (h : m.step e = some m') :
    (∃ r time, e = .arrive r time ∧ m' = { m with hearings := m.hearings ++ [.opened r time] }) ∨
    (∃ i view limit before after, e = .ask i view limit ∧ m.hearings[i]? = some before ∧
      before.hear (view m.store) limit = some after ∧
      m' = { m with hearings := m.hearings.set i after }) ∨
    (∃ i hearing f, e = .conclude i ∧ m.hearings[i]? = some hearing ∧ hearing.plan = .done f ∧
      m' = m.concluded i hearing f) ∨
    (∃ u rest, e = .take ∧ m.clerk = .idle ∧ m.queue.pending = u :: rest ∧
      m' = { m with queue := { m.queue with pending := rest }, clerk := .writing u {} }) ∨
    (∃ reply reached draw u tries, e = .attempt reply reached draw ∧
      m.clerk = .writing u tries ∧
      m' = { m with store := written m.store u reached }.attempted u tries reply draw) ∨
    (e = .stop ∧ m.clerk ≠ .gone ∧
      m' = { m with
        clerk := .gone
        queue := { m.queue with pending := [], closed := true }
        discarded := m.clerk.inHand ++ m.queue.pending }) ∨
    (∃ op, e = .change op ∧ m' = { m with store := m.store.perform op }) := by
  cases e with
  | arrive r time => exact .inl ⟨r, time, rfl, (Option.some.inj h).symm⟩
  | ask i view limit =>
    obtain ⟨before, hbefore, h⟩ := Option.bind_eq_some_iff.1 h
    obtain ⟨after, hafter, h⟩ := Option.bind_eq_some_iff.1 h
    exact .inr (.inl ⟨i, view, limit, before, after, rfl, hbefore, hafter,
      (Option.some.inj h).symm⟩)
  | conclude i =>
    obtain ⟨hearing, hhearing, h⟩ := Option.bind_eq_some_iff.1 h
    split at h
    · next f hplan =>
      exact .inr (.inr (.inl ⟨i, hearing, f, rfl, hhearing, hplan, (Option.some.inj h).symm⟩))
    · cases h
  | take =>
    simp only [step] at h
    split at h
    · next u rest hclerk hpending =>
      exact .inr (.inr (.inr (.inl ⟨u, rest, rfl, hclerk, hpending, (Option.some.inj h).symm⟩)))
    · cases h
  | attempt reply reached draw =>
    simp only [step] at h
    split at h
    · next u tries hclerk =>
      exact .inr (.inr (.inr (.inr (.inl ⟨reply, reached, draw, u, tries, rfl, hclerk,
        (Option.some.inj h).symm⟩))))
    · cases h
  | stop =>
    simp only [step] at h
    split at h
    · cases h
    · next hclerk =>
      exact .inr (.inr (.inr (.inr (.inr (.inl ⟨rfl, hclerk, (Option.some.inj h).symm⟩)))))
  | change op =>
    exact .inr (.inr (.inr (.inr (.inr (.inr ⟨op, rfl, (Option.some.inj h).symm⟩)))))

/-! ## Attempts -/

/-- No attempt follows on a reply: it is a success, or an error for good, or the last attempt. -/
def IsFinal (p : RetryPolicy) (calls : Nat) (reply : Except StoreError Unit) : Prop :=
  ∀ e, reply = .error e → e.isRetryable = true → p.maxAttempts.toNat ≤ calls

section Attempts

variable {u : CounterUpdate} {tries : Tries} {reply : Except StoreError Unit}

theorem attempted_of_isFinal (m : Office) (h : IsFinal m.policy (tries.calls + 1) reply)
    (u : CounterUpdate) (draw : Nat) :
    m.attempted u tries reply draw =
      m.finish u { tries with calls := tries.calls + 1 } reply := by
  cases reply with
  | ok a => rfl
  | error e =>
    have hno : ¬ (e.isRetryable = true ∧ tries.calls + 1 < m.policy.maxAttempts.toNat) :=
      fun hboth => Nat.not_lt.2 (h e rfl hboth.1) hboth.2
    simp [attempted, hno]

theorem attempted_of_not_isFinal (m : Office) (h : ¬ IsFinal m.policy (tries.calls + 1) reply)
    (u : CounterUpdate) (draw : Nat) :
    ∃ e, reply = .error e ∧ e.isRetryable = true ∧
      tries.calls + 1 < m.policy.maxAttempts.toNat ∧
      m.attempted u tries reply draw =
        { m with clerk := .writing u (tries.again m.policy e draw) } := by
  simp only [IsFinal, not_forall, Nat.not_le] at h
  obtain ⟨e, rfl, hretry, hcalls⟩ := h
  refine ⟨e, rfl, hretry, hcalls, ?_⟩
  simp [attempted, hretry, hcalls]

/-- An attempt ends the work on an update, or another one follows. -/
theorem attempted_cases (m : Office) (u : CounterUpdate) (tries : Tries)
    (reply : Except StoreError Unit) (draw : Nat) :
    (∃ tries', m.attempted u tries reply draw = m.finish u tries' reply) ∨
    ∃ e tries', reply = .error e ∧
      m.attempted u tries reply draw = { m with clerk := .writing u tries' } := by
  by_cases h : IsFinal m.policy (tries.calls + 1) reply
  · exact .inl ⟨_, attempted_of_isFinal m h u draw⟩
  · obtain ⟨e, hreply, -, -, hagain⟩ := attempted_of_not_isFinal m h u draw
    exact .inr ⟨e, _, hreply, hagain⟩

theorem step_attempt (hclerk : m.clerk = .writing u tries) (reply : Except StoreError Unit)
    (reached : Bool) (draw : Nat) :
    m.step (.attempt reply reached draw) =
      some ({ m with store := written m.store u reached }.attempted u tries reply draw) := by
  simp only [step, hclerk]

/-- A store that replies to the attempts at an update by a script, which also says which of them
reach it. -/
def scripted (script : Nat → Except StoreError Unit × Bool) (u : CounterUpdate)
    (s : Nat × Store) : Except StoreError Unit × Nat × Store :=
  ((script s.1).1, s.1 + 1, written s.2 u (script s.1).2)

/-- The attempts of a script, from one on. -/
def attempts (script : Nat → Except StoreError Unit × Bool) (draw : Nat → Nat) (first n : Nat) :
    List Occasion :=
  (List.range' first n).map fun k => .attempt (script k).1 (script k).2 (draw (k + 1))

theorem attempts_succ (script : Nat → Except StoreError Unit × Bool) (draw : Nat → Nat)
    (first n : Nat) : attempts script draw first (n + 1) =
      .attempt (script first).1 (script first).2 (draw (first + 1)) ::
        attempts script draw (first + 1) n := by
  rw [attempts, List.range'_succ]
  rfl

/-- The last attempt ends a write. -/
theorem runFrom_of_isFinal {σ : Type} {p : RetryPolicy} {draw : Nat → Nat}
    {op : σ → Except StoreError Unit × σ} {calls left : Nat} {s s' : σ}
    (hop : op s = (reply, s')) (hfinal : IsFinal p calls reply)
    (hleft : left = p.maxAttempts.toNat - calls) :
    p.runFrom draw op calls left s = (⟨reply, calls, [], []⟩, s') := by
  cases left with
  | zero => simp only [RetryPolicy.runFrom, hop]
  | succ left =>
    cases reply with
    | ok a => simp only [RetryPolicy.runFrom, hop]
    | error e =>
      have hno : ¬ e.isRetryable = true := by
        intro hretry
        have := hfinal e rfl hretry
        omega
      simp only [RetryPolicy.runFrom, hop, if_neg hno]

/-- The office when the rest of a write is done. -/
def afterWrite (m : Office) (u : CounterUpdate) (tries : Tries)
    (run : Attempts Unit × Nat × Store) : Office :=
  { m with
    store := run.2.2
    clerk := .idle
    journal := CounterWriter.account u
      { run.1 with waits := tries.waits ++ run.1.waits, notes := tries.notes ++ run.1.notes }
      m.journal
    finished := m.finished ++ [(u, run.1.result)] }

/-- The last attempt is done. -/
theorem last_replayed {script : Nat → Except StoreError Unit × Bool} {draw : Nat → Nat} {left : Nat}
    (hclerk : m.clerk = .writing u tries)
    (hfinal : IsFinal m.policy (tries.calls + 1) (script tries.calls).1)
    (hleft : left = m.policy.maxAttempts.toNat - (tries.calls + 1)) :
    (attempts script draw tries.calls 1).foldlM step m =
      some (m.afterWrite u tries (m.policy.runFrom draw (scripted script u) (tries.calls + 1) left
        (tries.calls, m.store))) := by
  have hop : scripted script u (tries.calls, m.store) =
      ((script tries.calls).1, tries.calls + 1, written m.store u (script tries.calls).2) := rfl
  rw [attempts_succ, List.foldlM_cons, step_attempt hclerk,
    attempted_of_isFinal { m with store := written m.store u (script tries.calls).2 } hfinal,
    runFrom_of_isFinal hop hfinal hleft]
  simp only [afterWrite, finish, List.append_nil]
  rfl

/-- What is left of a write is done attempt by attempt. -/
theorem attempts_replayed (script : Nat → Except StoreError Unit × Bool) (draw : Nat → Nat)
    (m : Office) (hclerk : m.clerk = .writing u tries) {left : Nat}
    (hleft : left = m.policy.maxAttempts.toNat - (tries.calls + 1)) :
    ∃ n, (attempts script draw tries.calls n).foldlM step m =
      some (m.afterWrite u tries (m.policy.runFrom draw (scripted script u) (tries.calls + 1) left
        (tries.calls, m.store))) := by
  induction left generalizing m tries with
  | zero =>
    have hfinal : IsFinal m.policy (tries.calls + 1) (script tries.calls).1 :=
      fun _ _ _ => by omega
    exact ⟨1, last_replayed hclerk hfinal hleft⟩
  | succ left ih =>
    by_cases hfinal : IsFinal m.policy (tries.calls + 1) (script tries.calls).1
    · exact ⟨1, last_replayed hclerk hfinal hleft⟩
    · obtain ⟨e, hreply, hretry, -, hagain⟩ := attempted_of_not_isFinal
        { m with store := written m.store u (script tries.calls).2 } hfinal u
        (draw (tries.calls + 1))
      obtain ⟨n, hn⟩ := ih
        { m with
          store := written m.store u (script tries.calls).2
          clerk := .writing u (tries.again m.policy e (draw (tries.calls + 1))) } rfl
        (by show left = m.policy.maxAttempts.toNat - (tries.calls + 1 + 1); omega)
      refine ⟨n + 1, ?_⟩
      rw [attempts_succ, List.foldlM_cons, step_attempt hclerk, hagain]
      refine hn.trans ?_
      simp only [afterWrite, RetryPolicy.runFrom, scripted, hreply, hretry, if_true, Tries.again,
        List.append_assoc, List.singleton_append]

/-- The attempts at an update amount to a write of the update with the retries of the policy:
whatever the replies are, store and journal end up alike. -/
theorem write_replayed (script : Nat → Except StoreError Unit × Bool) (draw : Nat → Nat)
    (hclerk : m.clerk = .writing u {}) :
    let done := CounterWriter.write m.policy draw (scripted script) u ((0, m.store), m.journal)
    ∃ n result, (attempts script draw 0 n).foldlM step m = some
      { m with
        store := done.1.2
        clerk := .idle
        journal := done.2
        finished := m.finished ++ [(u, result)] } := by
  obtain ⟨n, hn⟩ := attempts_replayed script draw m hclerk rfl
  exact ⟨n, _, hn⟩

end Attempts

/-! ## Decisions -/

section Decisions

variable {source : AccessSource} {limit : Span} {i : Nat} {h h' : Hearing}

theorem step_ask (hi : m.hearings[i]? = some h) (hhear : h.hear source limit = some h') :
    m.step (.ask i (fun _ => source) limit) =
      some { m with hearings := m.hearings.set i h' } := by
  simp only [step, hi, Option.bind_eq_bind, Option.bind_some, hhear]
  rfl

/-- Asks one source a number of questions of a decision. -/
def questions (source : AccessSource) (limit : Span) (i n : Nat) : List Occasion :=
  List.replicate n (.ask i (fun _ => source) limit)

/-- A decision that asks one source comes to the finding of its plan. -/
theorem questions_replayed (m : Office) (source : AccessSource) (limit : Span)
    (hi : m.hearings[i]? = some h) :
    ∃ n h', (questions source limit i n).foldlM step m =
        some { m with hearings := m.hearings.set i h' } ∧
      h'.request = h.request ∧ h'.time = h.time ∧
      h'.plan = .done (h.plan.run source limit h.spent).1 := by
  obtain ⟨hlt, hget⟩ := List.getElem?_eq_some_iff.1 hi
  induction hplan : h.plan generalizing m h with
  | done f =>
    refine ⟨0, h, ?_, rfl, rfl, hplan⟩
    rw [← hget, List.set_getElem_self]
    rfl
  | ask q next ih =>
    have hhear : h.hear source limit =
        some (h.answered q next ((source.reply h.spent.length q).within limit)) := by
      rw [Hearing.hear, hplan]
    rw [← hplan, ← Hearing.run_hear hhear]
    generalize (source.reply h.spent.length q).within limit = reply at hhear
    have hfirst := step_ask hi hhear
    rcases reply with ⟨e | a, span⟩
    · refine ⟨1, h.answered q next (.error e, span), ?_, rfl, rfl, rfl⟩
      rw [questions, List.replicate_one, List.foldlM_cons, hfirst]
      rfl
    · obtain ⟨n, h', hlater, hrequest, htime, hdone⟩ := ih a
        { m with hearings := m.hearings.set i (h.answered q next (.ok a, span)) }
        (List.getElem?_set_self hlt) (by simpa using hlt) (List.getElem_set_self _) rfl
      refine ⟨n + 1, h', ?_, hrequest, htime, hdone⟩
      rw [questions, List.replicate_succ, List.foldlM_cons, hfirst]
      refine hlater.trans ?_
      rw [List.set_set]

theorem step_conclude {f : Finding} (hi : m.hearings[i]? = some h) (hplan : h.plan = .done f) :
    m.step (.conclude i) = some (m.concluded i h f) := by
  simp only [step, hi, Option.bind_eq_bind, Option.bind_some, hplan]
  rfl

/-- A decision that asks one source, and is then concluded, is `Admission.decide`. -/
theorem decide_replayed (m : Office) (source : AccessSource) (limit : Span) (r : Request)
    (time : UInt64) :
    let i := m.hearings.length
    let done := Admission.decide source limit r time m.queue m.journal
    ∃ n e, (.arrive r time :: (questions source limit i n ++ [Occasion.conclude i])).foldlM step m =
      some { m with queue := done.2.2.1, journal := done.2.2.2, ledger := m.ledger ++ [e] } ∧
      e.decision = done.1 := by
  intro i
  have hfirst : (m.hearings ++ [Hearing.opened r time])[i]? = some (.opened r time) :=
    List.getElem?_concat_length
  obtain ⟨n, h, hasked, hrequest, htime, hplan⟩ := questions_replayed
    { m with hearings := m.hearings ++ [.opened r time] } source limit hfirst
  have hset : (m.hearings ++ [Hearing.opened r time]).set i h = m.hearings ++ [h] := by
    simp [i]
  have herase : (m.hearings ++ [h]).eraseIdx i = m.hearings := by
    rw [List.eraseIdx_append_of_length_le (Nat.le_refl _)]
    simp
  rw [Hearing.run_opened] at hplan
  rw [Hearing.request_opened] at hrequest
  rw [Hearing.time_opened] at htime
  rw [Admission.decide]
  generalize find source limit r = inquiry at hplan
  refine ⟨n, m.booking h inquiry.1, ?_, rfl⟩
  rw [List.foldlM_cons]
  show (questions source limit i n ++ [Occasion.conclude i]).foldlM step
    { m with hearings := m.hearings ++ [Hearing.opened r time] } = _
  rw [List.foldlM_append, hasked]
  simp only [hset]
  show [Occasion.conclude i].foldlM step { m with hearings := m.hearings ++ [h] } = _
  rw [List.foldlM_cons, step_conclude List.getElem?_concat_length hplan, concluded, hrequest, htime]
  simp only [herase]
  rfl

end Decisions

end Office

end Portcullis
