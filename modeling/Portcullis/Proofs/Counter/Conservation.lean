import Portcullis.Proofs.Counter.Books

/-!
# Counter updates are conserved

No hit is lost or counted twice between a decision and the store.

* `Office.produced` are the updates that decisions have made.  `Books.length_produced` says that
  each of them was written, given up or dropped, or is still pending.
* `Office.toil` lets the writer work alone.  `Books.done_toil` says that it gets through all that is
  pending, in order, whatever the store replies: a failing update holds none up.
* `Counted` says what a store has counted whose access lists nobody else changes.
* `Office.updates_conserved` is the main result.
-/

namespace Portcullis

open Portcullis.Admission
open Portcullis.Telemetry

/-! ## What became of the updates -/

namespace Office

variable (m : Office)

/-- The updates that decisions have made, and what became of each at the queue. -/
def produced : List (CounterUpdate × Offered) :=
  m.ledger.filterMap Booking.update

/-- The number of updates that the store has taken. -/
def writtenCount : Nat :=
  m.finished.countP fun p => p.2.isOk

/-- The number of updates that failed for good. -/
def givenUpCount : Nat :=
  m.finished.countP fun p => !p.2.isOk

/-- The number of updates that were not queued, or were lost when the writer stopped. -/
def droppedCount : Nat :=
  m.produced.countP (fun p => p.2 ≠ .queued) + m.discarded.length

/-- The number of updates that are queued or being written. -/
def pendingCount : Nat :=
  m.clerk.inHand.length + m.queue.pending.length

theorem length_queued : m.queued.length = m.produced.countP fun p => p.2 = .queued := by
  rw [queued, produced, List.length_filterMap_eq_countP, List.countP_filterMap]
  congr 1
  funext e
  rw [Booking.queued?]
  cases e.update with
  | none => rfl
  | some p =>
    obtain ⟨u, offered⟩ := p
    cases offered <;> rfl

end Office

namespace Books

variable {s : CounterSettings} {m : Office}

/-- Every update was written, given up or dropped, or is pending. -/
theorem length_produced (h : Books s m) :
    m.produced.length = m.writtenCount + m.givenUpCount + m.droppedCount + m.pendingCount := by
  have hqueued := congrArg List.length h.order
  rw [m.length_queued] at hqueued
  simp only [List.length_append, List.length_map] at hqueued
  have hoffered := List.length_eq_countP_add_countP (fun p => decide (p.2 = Offered.queued))
    (l := m.produced)
  have hfinished := List.length_eq_countP_add_countP
    (fun p : CounterUpdate × Except StoreError Unit => p.2.isOk) (l := m.finished)
  simp only [Office.writtenCount, Office.givenUpCount, Office.droppedCount, Office.pendingCount]
  simp only [decide_eq_true_eq, decide_not, Bool.not_eq_true, Bool.decide_eq_false] at *
  omega

end Books

/-! ## The writer at work -/

/-- What an attempt meets: the reply, whether it reached the store, and the draw for the wait that
may follow. -/
abbrev Chance := Except StoreError Unit × Bool × Nat

namespace Office

variable {m m' : Office}

/-- What the writer does next, if there is anything to do. -/
def duty (m : Office) (fate : Chance) : Option Occasion :=
  match m.clerk, m.queue.pending with
  | .writing .., _ => some (.attempt fate.1 fate.2.1 fate.2.2)
  | .idle, _ :: _ => some .take
  | _, _ => none

/-- Lets the writer do a number of things, while nothing else happens. -/
def toil (fates : Nat → Chance) : Nat → Office → Office
  | 0, m => m
  | n + 1, m =>
    match (m.duty (fates n)).bind m.step with
    | some m => toil fates n m
    | none => m

/-- What the writer has left to do, at most: attempts at the update in hand, and for each that waits
all attempts and taking it. -/
def effort (m : Office) : Nat :=
  let most := max m.policy.maxAttempts.toNat 1
  (match m.clerk with
    | .writing _ tries => max (m.policy.maxAttempts.toNat - tries.calls) 1
    | _ => 0) + m.queue.pending.length * (most + 1)

/-- What the writer does is done, and leaves less to do. -/
theorem step_duty {fate : Chance} {e : Occasion} (he : m.duty fate = some e) :
    ∃ m', m.step e = some m' ∧ m'.effort < m.effort ∧ m'.clerk ≠ .gone ∧ m'.ledger = m.ledger := by
  rw [duty] at he
  split at he
  · next u tries hclerk =>
    cases he
    refine ⟨_, step_attempt hclerk _ _ _, ?_⟩
    by_cases hfinal : IsFinal m.policy (tries.calls + 1) fate.1
    · rw [attempted_of_isFinal { m with store := written m.store u fate.2.1 } hfinal]
      refine ⟨?_, by simp [finish], rfl⟩
      simp only [effort, finish, hclerk]
      omega
    · obtain ⟨e, -, -, hcalls, hagain⟩ := attempted_of_not_isFinal
        { m with store := written m.store u fate.2.1 } hfinal u fate.2.2
      have hmore : tries.calls + 1 < m.policy.maxAttempts.toNat := hcalls
      rw [hagain]
      refine ⟨?_, by simp, rfl⟩
      simp only [effort, hclerk, Tries.again]
      omega
  · next u rest hclerk hpending =>
    cases he
    refine ⟨{ m with queue := { m.queue with pending := rest }, clerk := .writing u {} }, ?_, ?_,
      by simp, rfl⟩
    · simp only [step, hclerk, hpending]
    · simp only [effort, hclerk, hpending, List.length_cons, Nat.succ_mul]
      omega
  · cases he

/-- While the writer is there, it has nothing to do only when nothing is pending. -/
theorem idle_of_duty {fate : Chance} (hthere : m.clerk ≠ .gone) (h : m.duty fate = none) :
    m.clerk = .idle ∧ m.queue.pending = [] := by
  rw [duty] at h
  split at h
  · cases h
  · cases h
  · next hno hnone =>
    cases hclerk : m.clerk with
    | idle =>
      cases hpending : m.queue.pending with
      | nil => exact ⟨rfl, rfl⟩
      | cons u rest => exact absurd hpending (hnone u rest hclerk)
    | writing u tries => exact absurd hclerk (hno u tries)
    | gone => exact absurd hclerk hthere

end Office

namespace Books

variable {s : CounterSettings} {m : Office}

/-- Where the writer is there and has nothing to do, all that was queued is finished. -/
theorem done_of_duty (h : Books s m) (hthere : m.clerk ≠ .gone) {fate : Chance}
    (hduty : m.duty fate = none) :
    m.clerk = .idle ∧ m.queue.pending = [] ∧ m.finished.map Prod.fst = m.queued := by
  obtain ⟨hidle, hnone⟩ := Office.idle_of_duty hthere hduty
  refine ⟨hidle, hnone, ?_⟩
  rw [h.order, h.present hthere, hidle, hnone]
  simp [Clerk.inHand]

/-- The writer gets through all that is pending, whatever becomes of its attempts. -/
theorem done_toil (h : Books s m) (hthere : m.clerk ≠ .gone) (fates : Nat → Chance) {n : Nat}
    (hn : m.effort ≤ n) :
    (m.toil fates n).clerk = .idle ∧ (m.toil fates n).queue.pending = [] ∧
      (m.toil fates n).finished.map Prod.fst = m.queued := by
  induction n generalizing m with
  | zero =>
    cases hduty : m.duty (fates 0) with
    | none => exact h.done_of_duty hthere hduty
    | some e =>
      obtain ⟨m', -, hless, -⟩ := Office.step_duty hduty
      omega
  | succ n ih =>
    rw [Office.toil]
    cases hduty : m.duty (fates n) with
    | none => exact h.done_of_duty hthere hduty
    | some e =>
      obtain ⟨m', hstep, hless, hthere', hledger⟩ := Office.step_duty hduty
      have hsame : m'.queued = m.queued := by
        rw [Office.queued, hledger, Office.queued]
      simp only [Option.bind_some, hstep]
      rw [← hsame]
      exact ih (h.step hstep) hthere' (by omega)

end Books

/-! ## What the store has counted -/

/-- An update is a hit of a row. -/
def CounterUpdate.hits (u : CounterUpdate) (roll : Roll) (id : UInt32) : Bool :=
  u.roll = roll ∧ u.id = id

/-- A decision found a row, and its update was not dropped at the queue. -/
def Booking.counts (e : Booking) (roll : Roll) (id : UInt32) : Bool :=
  e.rows = [(roll, id)] ∧ e.queued?.isSome

/-- What a decision has queued is a hit of the row that it found. -/
theorem Booking.Proper.rows_of_queued {s : CounterSettings} {e : Booking} (h : e.Proper s)
    {u : CounterUpdate} (hu : e.queued? = some u) : e.rows = [(u.roll, u.id)] := by
  obtain ⟨⟨v, offered⟩, hupdate, hsome⟩ := Option.bind_eq_some_iff.1 hu
  have hv : v = u := by
    dsimp only at hsome
    split at hsome
    · exact Option.some.inj hsome
    · cases hsome
  by_cases hblack : e.decision.reason = .blacklisted
  · obtain ⟨id, _, hrows, hblock⟩ := h.blacklisted hblack
    rw [hblock] at hupdate
    cases hupdate
    rw [hrows, ← hv]
    rfl
  · by_cases hwhite : e.decision.reason = .whitelisted
    · obtain ⟨id, _, hrows, haccess⟩ := h.whitelisted hwhite
      rw [haccess] at hupdate
      cases hupdate
      rw [hrows, ← hv]
      rfl
    · rw [(h.other hblack hwhite).2] at hupdate
      cases hupdate

/-- A row that is there is hit. -/
theorem AccessList.hit_of_tally? {ε : Type} {list : AccessList ε} {id : UInt32} {t : Tally}
    (hlive : list.tally? id = some t) (time : UInt64) :
    list.hit id time = (true, (list.hit id time).2) := by
  obtain ⟨r, hr, -⟩ := Option.map_eq_some_iff.1 hlive
  rw [hit, change, hr]

/-- A write succeeds where there is a row to count. -/
theorem CounterUpdate.fst_apply (u : CounterUpdate) {store : Store} {t : Tally}
    (hlive : store.tally? u.roll u.id = some t) : (u.apply store).1 = .ok () := by
  cases u with
  | block id time =>
    have hhit : store.blacklist.hit id time = (true, _) := AccessList.hit_of_tally? hlive time
    show (store.countBlock id time).1 = .ok ()
    rw [Store.countBlock, hhit]
  | access id time =>
    have hhit : store.whitelist.hit id time = (true, _) := AccessList.hit_of_tally? hlive time
    show (store.countAccess id time).1 = .ok ()
    rw [Store.countAccess, hhit]

/-- What a write makes of the tally of a row. -/
theorem CounterUpdate.tally?_apply (u : CounterUpdate) {store : Store} {roll : Roll} {id : UInt32}
    {t : Tally} (hlive : store.tally? roll id = some t) :
    (u.apply store).2.tally? roll id =
      some (if u.hits roll id then t.hit u.time else t) := by
  have hperform := Store.tally?_perform (.count u) trivial hlive
  rw [Store.onTally_count] at hperform
  have hsame : (u.apply store).2 = store.perform (.count u) := rfl
  simpa only [CounterUpdate.hits, decide_eq_true_eq, hsame] using hperform

namespace Office

/-- Attempts are those of the store itself, and nobody else changes the access lists. -/
def Undisturbed (m : Office) : Occasion → Prop
  | .attempt reply reached _ => ∀ u tries, m.clerk = .writing u tries →
      reply = (u.apply m.store).1 ∧ reached = true
  | .change op => op.onBlacklist = none ∧ op.onWhitelist = none
  | _ => True

/-- The number of hits of a row that the store has taken. -/
def writtenHits (m : Office) (roll : Roll) (id : UInt32) : Nat :=
  m.finished.countP fun p => p.1.hits roll id && p.2.isOk

/-- The store has counted the hits of a row that it has taken, and no others. -/
def Counted (roll : Roll) (id : UInt32) (t₀ : Tally) (m : Office) : Prop :=
  ∃ t, m.store.tally? roll id = some t ∧
    t.count = t₀.count + UInt64.ofNat (m.writtenHits roll id)

variable {m m' : Office} {roll : Roll} {id : UInt32} {t₀ : Tally}

/-- An attempt adds to what is written if it succeeds. -/
theorem writtenHits_attempted (m : Office) (u : CounterUpdate) (tries : Tries)
    (reply : Except StoreError Unit) (draw : Nat) :
    (m.attempted u tries reply draw).writtenHits roll id =
      m.writtenHits roll id + if u.hits roll id && reply.isOk then 1 else 0 := by
  rcases attempted_cases m u tries reply draw with ⟨tries', hdone⟩ | ⟨e, tries', rfl, hagain⟩
  · rw [hdone, writtenHits, writtenHits, finish, List.countP_append, List.countP_singleton]
  · rw [hagain]
    simp [writtenHits, Except.isOk, Except.toBool]

/-- An attempt counts the hit that it writes. -/
theorem Counted.attempted (h : Counted roll id t₀ m) (u : CounterUpdate) (tries : Tries)
    (draw : Nat) :
    Counted roll id t₀ ({ m with store := (u.apply m.store).2 }.attempted u tries
      (u.apply m.store).1 draw) := by
  obtain ⟨t, hlive, hcount⟩ := h
  have hstore : ({ m with store := (u.apply m.store).2 }.attempted u tries
      (u.apply m.store).1 draw).store = (u.apply m.store).2 := by
    rcases attempted_cases { m with store := (u.apply m.store).2 } u tries (u.apply m.store).1
      draw with ⟨tries', hdone⟩ | ⟨e, tries', -, hagain⟩
    · rw [hdone]; rfl
    · rw [hagain]
  have hwritten : writtenHits { m with store := (u.apply m.store).2 } roll id =
      m.writtenHits roll id := rfl
  refine ⟨_, by rw [hstore]; exact u.tally?_apply hlive, ?_⟩
  rw [writtenHits_attempted, hwritten]
  by_cases hhits : u.hits roll id = true
  · have hrow : u.roll = roll ∧ u.id = id := by simpa [CounterUpdate.hits] using hhits
    have hok : (u.apply m.store).1 = .ok () := u.fst_apply (by rw [hrow.1, hrow.2]; exact hlive)
    have hone : (u.hits roll id && (u.apply m.store).1.isOk) = true := by
      rw [hhits, hok]
      rfl
    rw [if_pos hhits, if_pos hone, UInt64.ofNat_add, ← UInt64.add_assoc, ← hcount]
    rfl
  · rw [if_neg hhits, if_neg (by simp [hhits]), Nat.add_zero]
    exact hcount

/-- Where nobody else changes the access lists, the store counts what it takes. -/
theorem Counted.step (h : Counted roll id t₀ m) {e : Occasion} (hallowed : m.Undisturbed e)
    (he : m.step e = some m') : Counted roll id t₀ m' := by
  rcases step_cases he with ⟨r, time, rfl, rfl⟩ |
    ⟨i, view, limit, before, after, rfl, hi, hhear, rfl⟩ | ⟨i, hearing, f, rfl, hi, hplan, rfl⟩ |
    ⟨u, rest, rfl, hclerk, hpending, rfl⟩ | ⟨reply, reached, draw, u, tries, rfl, hclerk, rfl⟩ |
    ⟨rfl, hthere, rfl⟩ | ⟨op, rfl, rfl⟩
  · exact h
  · exact h
  · exact h
  · exact h
  · obtain ⟨rfl, rfl⟩ := hallowed u tries hclerk
    exact h.attempted u tries draw
  · exact h
  · obtain ⟨t, hlive, hcount⟩ := h
    refine ⟨t, ?_, hcount⟩
    cases roll with
    | blacklist =>
      show (m.store.perform op).blacklist.tally? id = some t
      rw [Store.blacklist_perform, hallowed.1]
      exact hlive
    | whitelist =>
      show (m.store.perform op).whitelist.tally? id = some t
      rw [Store.whitelist_perform, hallowed.2]
      exact hlive

end Office

/-- Where nothing is pending and no write failed, the hits that the store has taken are those that
decisions have queued, save those that were lost with the writer. -/
theorem Books.writtenHits_add {s : CounterSettings} {m : Office} (h : Books s m)
    (hpending : m.pendingCount = 0) (hfailed : m.givenUpCount = 0) (roll : Roll) (id : UInt32) :
    m.writtenHits roll id + m.discarded.countP (·.hits roll id) =
      m.ledger.countP (·.counts roll id) := by
  have hbooked : m.ledger.countP (·.counts roll id) = m.queued.countP (·.hits roll id) := by
    rw [Office.queued, List.countP_filterMap]
    apply List.countP_congr
    intro e he
    have hproper := h.ledger e he
    cases hq : e.queued? with
    | none => simp [Booking.counts, hq]
    | some u => simp [Booking.counts, hq, hproper.rows_of_queued hq, CounterUpdate.hits]
  have hwritten : m.writtenHits roll id =
      (m.finished.map Prod.fst).countP (·.hits roll id) := by
    rw [Office.writtenHits, List.countP_map]
    apply List.countP_congr
    intro p hp
    have hok : p.2.isOk = true := by
      rw [Office.givenUpCount, List.countP_eq_zero] at hfailed
      simpa using hfailed p hp
    simp [hok]
  have hnone : m.clerk.inHand ++ m.queue.pending = [] := by
    rw [← List.length_eq_zero_iff, List.length_append]
    exact hpending
  rw [hbooked, h.order, hnone, hwritten, List.append_nil, List.countP_append]

/-- Hits are conserved. In every run, with any queue and any retries, and whatever the store answers
and replies:

* Each decision with a reason that names a list has queued or dropped one update, for the row that
  it found, and other decisions none.  Updates are dropped only where the queue is full or the
  writer has stopped.
* What was queued is finished in its order, then in hand, then waiting, and else lost with the
  writer.  While the writer is there it gets through all of this, whatever becomes of its attempts.
* All updates were written, given up or dropped, or are pending.
* Where nobody else changes the access lists of the store, once nothing is pending and no write has
  failed, each row has counted the decisions that found it and whose updates were not dropped. -/
theorem Office.updates_conserved (s : CounterSettings) (store : Store) (journal : Journal)
    {m : Office} (h : Runs Office.step Anything (.opened s store journal) m) :
    (∀ e ∈ m.ledger, e.Proper s) ∧
    m.queued = m.finished.map Prod.fst ++ (m.clerk.inHand ++ m.queue.pending) ++ m.discarded ∧
    (m.clerk ≠ .gone → m.discarded = [] ∧ ∃ n, ∀ fates, (m.toil fates n).clerk = .idle ∧
      (m.toil fates n).queue.pending = [] ∧
      (m.toil fates n).finished.map Prod.fst = m.queued) ∧
    m.produced.length = m.writtenCount + m.givenUpCount + m.droppedCount + m.pendingCount ∧
    (Runs Office.step Undisturbed (.opened s store journal) m → m.pendingCount = 0 →
      m.givenUpCount = 0 → ∀ roll id t₀, store.tally? roll id = some t₀ →
        ∃ t k, m.store.tally? roll id = some t ∧
          k + m.discarded.countP (·.hits roll id) = m.ledger.countP (·.counts roll id) ∧
          t.count = t₀.count + UInt64.ofNat k ∧
          (t₀.count.toNat + k < UInt64.size → t.count.toNat = t₀.count.toNat + k)) := by
  have hbooks := Books.of_runs h
  refine ⟨hbooks.ledger, hbooks.order, ?_, hbooks.length_produced, ?_⟩
  · intro hthere
    exact ⟨hbooks.present hthere, m.effort,
      fun fates => hbooks.done_toil hthere fates (Nat.le_refl _)⟩
  · intro hundisturbed hpending hfailed roll id t₀ hlive
    have hcounted : Counted roll id t₀ m := hundisturbed.invariant
      ⟨t₀, hlive, (UInt64.add_zero _).symm⟩ fun _ _ _ hm hallowed he => hm.step hallowed he
    obtain ⟨t, ht, hcount⟩ := hcounted
    refine ⟨t, m.writtenHits roll id, ht, hbooks.writtenHits_add hpending hfailed roll id,
      hcount, ?_⟩
    intro hfits
    have hsmall : m.writtenHits roll id < UInt64.size := by omega
    rw [hcount, UInt64.toNat_add, UInt64.toNat_ofNat_of_lt' hsmall]
    exact Nat.mod_eq_of_lt hfits

namespace Office

def blockedRow : BlockRow where
  id := 7
  ip := "::"
  disabled := false
  tally := ⟨3, 40⟩
  description := ""
  details := {}

def blockedStore : Store where
  blacklist := ⟨[blockedRow], .cons nofun .nil⟩

def blockedRequest : Request := ⟨none, "::", "", .unknown⟩

/-- Two decisions that hit one row while there is room for one update. -/
def rushHour : List Occasion :=
  [.arrive blockedRequest 50, .arrive blockedRequest 60, .ask 0 AccessSource.ofStore ⟨0⟩,
    .ask 1 AccessSource.ofStore ⟨0⟩, .conclude 0, .conclude 0, .take]

theorem updates_conserved_rushHour :
    ∃ m, Runs step Anything (.opened { queueCapacity := 0 } blockedStore .empty) m ∧
      Runs step Undisturbed (.opened { queueCapacity := 0 } blockedStore .empty) m ∧
      m.pendingCount = 0 ∧ m.givenUpCount = 0 ∧ m.droppedCount = 1 ∧
      m.produced.length = m.writtenCount + 1 ∧
      ∃ t, m.store.tally? .blacklist 7 = some t ∧ t.count.toNat = 3 + 1 := by
  obtain ⟨m₁, hrush, hclerk, hstore, hlater⟩ : ∃ m₁,
      rushHour.foldlM step (.opened { queueCapacity := 0 } blockedStore .empty) = some m₁ ∧
      m₁.clerk = .writing (.block 7 50) {} ∧ m₁.store = blockedStore ∧
      ∃ m, m₁.step (.attempt (.ok ()) true 0) = some m ∧ m.pendingCount = 0 ∧
        m.givenUpCount = 0 ∧ m.droppedCount = 1 ∧ m.discarded = [] ∧
        m.ledger.countP (Booking.counts · .blacklist 7) = 1 :=
    ⟨_, rfl, rfl, rfl, _, rfl, rfl, rfl, rfl, rfl, rfl⟩
  obtain ⟨m, hattempt, hpending, hfailed, hdropped, hnone, hbooked⟩ := hlater
  have hbefore : Runs step Undisturbed (.opened { queueCapacity := 0 } blockedStore .empty) m₁ :=
    .of_foldlM (by simp [rushHour, Undisturbed]) hrush
  have hrun := hbefore.step (.attempt (.ok ()) true 0) (by
    intro u tries hwriting
    rw [hclerk] at hwriting
    cases hwriting
    rw [hstore]
    exact ⟨rfl, rfl⟩) hattempt
  have hany : Runs step Anything (.opened { queueCapacity := 0 } blockedStore .empty) m :=
    hrun.mono fun _ _ _ => trivial
  obtain ⟨-, -, -, hproduced, hcounted⟩ := updates_conserved { queueCapacity := 0 } blockedStore
    .empty hany
  obtain ⟨t, k, hlive, hk, -, hcount⟩ := hcounted hrun hpending hfailed .blacklist 7 ⟨3, 40⟩ rfl
  have hone : k = 1 := by
    rw [hnone, hbooked] at hk
    exact hk
  subst hone
  refine ⟨m, hany, hrun, hpending, hfailed, hdropped, ?_, t, hlive, hcount (by decide)⟩
  rw [hproduced, hfailed, hdropped, hpending]

end Office

end Portcullis
