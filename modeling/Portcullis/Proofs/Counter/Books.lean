import Portcullis.Proofs.Counter.Office

/-!
# The books of an office

Whatever happens in an office, its books add up: each hit is queued or dropped once, and what was
queued is written, given up, or still to be written, in the order in which it was queued.

* `CounterQueue.offer_cases` says what becomes of an update that is offered to a queue.
* `Booking.Proper` says what a decision in the books has made and why an update was dropped.
* `Books` says what the books of an office add up to.  `Books.step` says that every step keeps them,
  and `Books.of_runs` that all runs do.
-/

namespace Portcullis

open Portcullis.Admission
open Portcullis.Telemetry

/-! ## The queue -/

/-- An update is dropped where the queue is closed or full, and else comes last. -/
theorem CounterQueue.offer_cases (q : CounterQueue) (u : CounterUpdate) :
    (q.offer u = (.closed, q) ∧ q.closed = true) ∨
    (q.offer u = (.full, q) ∧ q.capacity ≤ q.pending.length) ∨
    (q.offer u = (.queued, { q with pending := q.pending ++ [u] }) ∧ q.closed = false ∧
      q.pending.length < q.capacity) := by
  rw [offer]
  split
  · next hclosed => exact .inl ⟨rfl, hclosed⟩
  · next hopen =>
    split
    · next hfull => exact .inr (.inl ⟨rfl, hfull⟩)
    · next hroom => exact .inr (.inr ⟨rfl, by simpa using hopen, Nat.lt_of_not_le hroom⟩)

theorem CounterQueue.full_of_offer {q : CounterQueue} {u : CounterUpdate}
    (h : (q.offer u).1 = .full) : q.capacity ≤ q.pending.length := by
  rcases q.offer_cases u with ⟨hq, -⟩ | ⟨-, hle⟩ | ⟨hq, -⟩
  · rw [hq] at h; cases h
  · exact hle
  · rw [hq] at h; cases h

theorem CounterQueue.closed_of_offer {q : CounterQueue} {u : CounterUpdate}
    (h : (q.offer u).1 = .closed) : q.closed = true := by
  rcases q.offer_cases u with ⟨-, hclosed⟩ | ⟨hq, -⟩ | ⟨hq, -⟩
  · exact hclosed
  · rw [hq] at h; cases h
  · rw [hq] at h; cases h

theorem queue_record (u : CounterUpdate) (q : CounterQueue) (j : Journal) :
    (record u q j).2.1 = (q.offer u).2 := by
  rw [record]
  rcases q.offer_cases u with ⟨h, -⟩ | ⟨h, -⟩ | ⟨h, -⟩ <;> rw [h]

/-- A finding changes the queue by the update that it makes. -/
theorem queue_settle (f : Finding) (r : Request) (now : UInt64) (q : CounterQueue) (j : Journal) :
    (settle f r now q j).1 = (f.update? now).elim q fun u => (q.offer u).2 := by
  rw [settle]
  cases f.update? now with
  | none => rfl
  | some u => exact queue_record u q j

/-- The books say what became of an update at the queue. -/
theorem Office.offer_of_update {m : Office} {hearing : Hearing} {f : Finding} {u : CounterUpdate}
    {offered : Offered} (h : (m.booking hearing f).update = some (u, offered)) :
    (m.queue.offer u).1 = offered := by
  obtain ⟨v, -, hv⟩ := Option.map_eq_some_iff.1 h
  cases hv
  rfl

/-! ## The books -/

/-- What a decision in the books has made: one update where a row was found, for that row, and none
else. It was dropped only where the queue was full or the writer had stopped. -/
structure Booking.Proper (s : CounterSettings) (e : Booking) : Prop where
  blacklisted : e.decision.reason = .blacklisted → ∃ id offered, e.rows = [(.blacklist, id)] ∧
    e.update = some (.block id e.time, offered)
  whitelisted : e.decision.reason = .whitelisted → ∃ id offered, e.rows = [(.whitelist, id)] ∧
    e.update = some (.access id e.time, offered)
  other : e.decision.reason ≠ .blacklisted → e.decision.reason ≠ .whitelisted →
    e.rows = [] ∧ e.update = none
  full : ∀ u, e.update = some (u, .full) → e.backlog = max s.queueCapacity.toNat 1
  stopped : ∀ u, e.update = some (u, .closed) → e.stopped = true

/-- What the books of an office add up to. -/
structure Books (s : CounterSettings) (m : Office) : Prop where
  capacity : m.queue.capacity = max s.queueCapacity.toNat 1
  room : m.queue.pending.length ≤ m.queue.capacity
  closed : m.queue.closed = m.clerk.isGone
  present : m.clerk ≠ .gone → m.discarded = []
  /-- What was queued is done or waits, in this order. -/
  order : m.queued =
    m.finished.map Prod.fst ++ (m.clerk.inHand ++ m.queue.pending) ++ m.discarded
  hearings : ∀ h ∈ m.hearings, h.plan.Tells h.rows
  ledger : ∀ e ∈ m.ledger, e.Proper s

namespace Books

variable {s : CounterSettings} {m m' : Office}

theorem opened (s : CounterSettings) (store : Store) (journal : Journal) :
    Books s (.opened s store journal) where
  capacity := rfl
  room := Nat.zero_le _
  closed := rfl
  present _ := rfl
  order := rfl
  hearings := nofun
  ledger := nofun

/-- A decision that has found out properly makes a proper booking. -/
theorem proper_booking (h : Books s m) {hearing : Hearing} {f : Finding}
    (htells : (Plan.done f).Tells hearing.rows) :
    (m.booking hearing f).Proper s := by
  have hrows := htells.rows_eq
  constructor
  · intro hreason
    rcases f.rows_cases with ⟨id, rfl⟩ | ⟨id, rfl⟩ | ⟨hno, -, -⟩
    · exact ⟨id, _, hrows, rfl⟩
    · cases hreason
    · exact absurd hreason hno
  · intro hreason
    rcases f.rows_cases with ⟨id, rfl⟩ | ⟨id, rfl⟩ | ⟨-, hno, -⟩
    · cases hreason
    · exact ⟨id, _, hrows, rfl⟩
    · exact absurd hreason hno
  · intro hblack hwhite
    rcases f.rows_cases with ⟨id, rfl⟩ | ⟨id, rfl⟩ | ⟨-, -, hnone⟩
    · exact absurd rfl hblack
    · exact absurd rfl hwhite
    · have hupdate := f.update?_eq hearing.time
      rw [hnone] at hupdate
      refine ⟨hrows.trans hnone, ?_⟩
      rw [Office.booking, Option.toList_eq_nil_iff.1 hupdate]
      rfl
  · intro u hupdate
    rw [← h.capacity]
    exact Nat.le_antisymm h.room (CounterQueue.full_of_offer (Office.offer_of_update hupdate))
  · intro u hupdate
    exact h.closed.symm.trans (CounterQueue.closed_of_offer (Office.offer_of_update hupdate))

/-- A decision leaves the queue alone, or its update comes last. -/
theorem queue_settle_cases (h : Books s m) (hearing : Hearing) (f : Finding) :
    ((settle f hearing.request hearing.time m.queue m.journal).1 = m.queue ∧
      (m.booking hearing f).queued? = none) ∨
    ∃ u, (settle f hearing.request hearing.time m.queue m.journal).1 =
        { m.queue with pending := m.queue.pending ++ [u] } ∧
      (m.booking hearing f).queued? = some u ∧ m.clerk ≠ .gone ∧
      m.queue.pending.length < m.queue.capacity := by
  rw [queue_settle, Booking.queued?, Office.booking]
  cases f.update? hearing.time with
  | none => exact .inl ⟨rfl, rfl⟩
  | some u =>
    rcases m.queue.offer_cases u with ⟨hq, -⟩ | ⟨hq, -⟩ | ⟨hq, hopen, hroom⟩
    · left
      simp [hq]
    · left
      simp [hq]
    · right
      have hthere : m.clerk ≠ .gone := by
        intro hgone
        rw [h.closed, hgone] at hopen
        cases hopen
      exact ⟨u, by simp [hq], by simp [hq], hthere, hroom⟩

/-- A decision is put into the books: its update comes last in the queue, or is dropped. -/
theorem concluded (h : Books s m) {i : Nat} {hearing : Hearing} {f : Finding}
    (hi : m.hearings[i]? = some hearing) (hplan : hearing.plan = .done f) :
    Books s (m.concluded i hearing f) := by
  have hqueued : (m.concluded i hearing f).queued =
      m.queued ++ (m.booking hearing f).queued?.toList := by
    show (m.ledger ++ [m.booking hearing f]).filterMap Booking.queued? = _
    rw [List.filterMap_append]
    cases hq : (m.booking hearing f).queued? <;> simp [hq, Office.queued]
  have hhearings : ∀ x ∈ (m.concluded i hearing f).hearings, x.plan.Tells x.rows :=
    fun x hx => h.hearings x (List.mem_of_mem_eraseIdx hx)
  have htells := h.hearings hearing (List.mem_of_getElem? hi)
  rw [hplan] at htells
  have hledger : ∀ e ∈ (m.concluded i hearing f).ledger, e.Proper s := by
    intro e he
    rcases List.mem_append.1 he with hold | hnew
    · exact h.ledger e hold
    · rw [List.mem_singleton.1 hnew]
      exact h.proper_booking htells
  rcases h.queue_settle_cases hearing f with ⟨hsame, hnone⟩ | ⟨u, hlast, hsome, hthere, hroom⟩
  · have hqueue : (m.concluded i hearing f).queue = m.queue := hsame
    rw [hnone, Option.toList_none, List.append_nil] at hqueued
    constructor
    · rw [hqueue]; exact h.capacity
    · rw [hqueue]; exact h.room
    · rw [hqueue]; exact h.closed
    · exact h.present
    · rw [hqueued, hqueue]; exact h.order
    · exact hhearings
    · exact hledger
  · have hqueue : (m.concluded i hearing f).queue =
      { m.queue with pending := m.queue.pending ++ [u] } := hlast
    rw [hsome, Option.toList_some] at hqueued
    constructor
    · rw [hqueue]; exact h.capacity
    · rw [hqueue]; simpa using Nat.succ_le_of_lt hroom
    · rw [hqueue]; exact h.closed
    · exact h.present
    · have horder := h.order
      rw [h.present hthere] at horder
      rw [hqueued, hqueue, horder]
      show _ =
        m.finished.map Prod.fst ++ (m.clerk.inHand ++ (m.queue.pending ++ [u])) ++ m.discarded
      rw [h.present hthere]
      simp
    · exact hhearings
    · exact hledger

/-- The end of the work on an update. -/
theorem finish (h : Books s m) {u : CounterUpdate} {tries : Tries}
    (hclerk : m.clerk = .writing u tries) (tries' : Tries) (result : Except StoreError Unit) :
    Books s (m.finish u tries' result) := by
  have hthere : m.clerk ≠ .gone := by
    rw [hclerk]
    nofun
  have horder := h.order
  have hclosed := h.closed
  rw [hclerk] at horder hclosed
  constructor
  · exact h.capacity
  · exact h.room
  · exact hclosed
  · exact fun _ => h.present hthere
  · show m.queued =
      (m.finished ++ [(u, result)]).map Prod.fst ++ ([] ++ m.queue.pending) ++ m.discarded
    rw [horder]
    simp [Clerk.inHand]
  · exact h.hearings
  · exact h.ledger

/-- Every step keeps the books. -/
theorem step (h : Books s m) {e : Occasion} (he : m.step e = some m') : Books s m' := by
  rcases Office.step_cases he with ⟨r, time, -, rfl⟩ |
    ⟨i, view, limit, before, after, -, hi, hhear, rfl⟩ | ⟨i, hearing, f, -, hi, hplan, rfl⟩ |
    ⟨u, rest, -, hclerk, hpending, rfl⟩ | ⟨reply, reached, draw, u, tries, -, hclerk, rfl⟩ |
    ⟨-, hthere, rfl⟩ | ⟨op, -, rfl⟩
  · refine { h with hearings := ?_ }
    intro x hx
    rcases List.mem_append.1 hx with hold | hnew
    · exact h.hearings x hold
    · rw [List.mem_singleton.1 hnew]
      exact Hearing.tells_opened r time
  · refine { h with hearings := ?_ }
    intro x hx
    rcases List.mem_or_eq_of_mem_set hx with hold | rfl
    · exact h.hearings x hold
    · exact Hearing.tells_hear (h.hearings before (List.mem_of_getElem? hi)) hhear
  · exact h.concluded hi hplan
  · have hroom := h.room
    have horder := h.order
    have hclosed := h.closed
    rw [hclerk] at horder hclosed
    rw [hpending] at hroom horder
    refine { h with room := ?_, closed := hclosed, present := ?_, order := ?_ }
    · exact Nat.le_of_succ_le hroom
    · exact fun _ => h.present (by rw [hclerk]; nofun)
    · exact horder
  · have hwritten : Books s { m with store := Office.written m.store u reached } :=
      { h with }
    rcases Office.attempted_cases { m with store := Office.written m.store u reached } u tries reply
      draw with ⟨tries', hdone⟩ | ⟨_, tries', -, hagain⟩
    · rw [hdone]
      exact hwritten.finish hclerk tries' reply
    · have horder := h.order
      have hclosed := h.closed
      rw [hclerk] at horder hclosed
      rw [hagain]
      exact { h with
        closed := hclosed
        present := fun _ => h.present (by rw [hclerk]; nofun)
        order := horder }
  · have horder := h.order
    rw [h.present hthere, List.append_nil] at horder
    refine { h with
      room := Nat.zero_le _
      closed := rfl
      present := fun hno => absurd rfl hno
      order := ?_ }
    show m.queued = m.finished.map Prod.fst ++ ([] ++ []) ++ (m.clerk.inHand ++ m.queue.pending)
    rw [horder]
    simp
  · exact { h with }

/-- In all runs the books are kept. -/
theorem of_runs {allowed : Office → Occasion → Prop} {store : Store} {journal : Journal}
    (h : Runs Office.step allowed (.opened s store journal) m) : Books s m :=
  h.invariant (opened s store journal) fun _ _ _ hbooks _ he => hbooks.step he

end Books

end Portcullis
