import Portcullis.Proofs.Daemon.Vigil
import Portcullis.Proofs.Store.Codec

/-!
# Convergence on a file

The changes that the loop forgets have all been written before the reading that follows, so what
it reads is never older than what it forgets.

* `Vigil.Abreast` is what every step keeps: unless something is still to be announced or to be
  taken note of, what has been read since the forgetting is what the file holds.
* `Vigil.converges`: once nothing is left to be taken up, the store shows what the file holds.
* `Vigil.comes_to_rest`: once the writes are over, this is where the loop gets by itself.
-/

namespace Portcullis

namespace Vigil

variable {path : String} {m m' : Vigil}

/-! ## What every step keeps -/

/-- In a quiet state, what was read last is what the file holds. -/
structure Abreast (path : String) (m : Vigil) : Prop where
  idle : m.follower.stage ≠ .reading → m.errand = .idle
  whole : m.IsQuiet → m.follower.stage = .reading → m.errand = .idle → m.torn = false
  read : m.IsQuiet → ∀ s, m.errand = .apply s → (Store.readSnapshot m.files path).1 = .ok s
  applied : m.IsQuiet → m.errand = .tell →
    ∃ s before, (Store.readSnapshot m.files path).1 = .ok s ∧ m.store.Shows s ∧
      m.past = .applied s :: before
  told : m.IsQuiet → m.follower.stage = .waiting → 0 < m.written →
    ∀ s, (Store.readSnapshot m.files path).1 = .ok s → m.store.Shows s ∧
      ∃ taken before, m.past = .told taken :: .applied s :: before

/-- Where something is left to be taken up, nothing is claimed of what was read. -/
theorem Abreast.of_not_quiet (hidle : m.follower.stage ≠ .reading → m.errand = .idle)
    (hbusy : ¬ m.IsQuiet) : m.Abreast path where
  idle := hidle
  whole h := absurd h hbusy
  read h := absurd h hbusy
  applied h := absurd h hbusy
  told h := absurd h hbusy

theorem Abreast.of_write (h : m.Abreast path) {files : Files}
    (hfaithful : 0 < m.writing ∨ files.read path = m.files.read path) :
    Abreast path { m with files := files } := by
  rcases hfaithful with hwriting | hsame
  · exact of_not_quiet h.idle fun hquiet => Nat.ne_of_gt hwriting hquiet.writing
  · have hread : Store.readSnapshot files path = Store.readSnapshot m.files path :=
      Store.readSnapshot_congr hsame
    have hquiet : IsQuiet { m with files := files } → m.IsQuiet :=
      fun hq => ⟨hq.writing, hq.due, hq.pending⟩
    refine ⟨h.idle, fun hq => h.whole (hquiet hq), fun hq s hs => ?_, fun hq htell => ?_,
      fun hq hstage hwritten s hs => ?_⟩
    · exact (congrArg Prod.fst hread).trans (h.read (hquiet hq) s hs)
    · show ∃ s before, (Store.readSnapshot files path).1 = .ok s ∧ _
      rw [hread]
      exact h.applied (hquiet hq) htell
    · exact h.told (hquiet hq) hstage hwritten s ((congrArg Prod.fst hread).symm.trans hs)

theorem Abreast.of_count (h : m.Abreast path) (u : CounterUpdate) :
    Abreast path { m with store := m.store.perform (.count u) } := by
  have hquiet : IsQuiet { m with store := m.store.perform (.count u) } → m.IsQuiet :=
    fun hq => ⟨hq.writing, hq.due, hq.pending⟩
  refine ⟨h.idle, fun hq => h.whole (hquiet hq), fun hq => h.read (hquiet hq), fun hq htell => ?_,
    fun hq hstage hwritten s hs => ?_⟩
  · obtain ⟨s, before, hread, hshows, hpast⟩ := h.applied (hquiet hq) htell
    exact ⟨s, before, hread, hshows.count u, hpast⟩
  · obtain ⟨hshows, hpast⟩ := h.told (hquiet hq) hstage hwritten s hs
    exact ⟨hshows.count u, hpast⟩

/-- The note that is taken leads to a reading. -/
theorem Abreast.of_receive (h : m.Abreast path) :
    Abreast path { m with follower := m.follower.receive } := by
  unfold Follower.receive
  split
  · next n hstage hpending =>
    have hidle : m.errand = .idle := h.idle (by simp [hstage])
    refine ⟨fun _ => hidle, fun _ hreading => (by cases hreading), fun _ s hs => ?_,
      fun _ htell => ?_, fun _ hwaiting => (by cases hwaiting)⟩
    · cases hidle.symm.trans hs
    · cases hidle.symm.trans htell
  · exact ⟨h.idle, h.whole, h.read, h.applied, h.told⟩

/-- What is forgotten has been written before the reading that follows. -/
theorem Abreast.of_drain (h : m.Abreast path) (hstage : m.follower.stage = .resting) :
    Abreast path { m with follower := m.follower.drain, torn := decide (0 < m.writing) } := by
  have hidle : m.errand = .idle := h.idle (by simp [hstage])
  have hdrain : m.follower.drain = ⟨0, .reading⟩ := by rw [Follower.drain, hstage]
  rw [hdrain]
  refine ⟨fun _ => hidle, fun hq _ _ => ?_, fun _ s hs => ?_, fun _ htell => ?_,
    fun _ hwaiting => (by cases hwaiting)⟩
  · exact decide_eq_false (Nat.not_lt.2 (Nat.le_of_eq hq.writing))
  · cases hidle.symm.trans hs
  · cases hidle.symm.trans htell

theorem Abreast.of_read (h : m.Abreast path) {half : Option Files}
    (hfaithful : half = none ∨ m.torn = true) (he : m.step path (.read half) = some m') :
    Abreast path m' := by
  simp only [step] at he
  split at he
  · next hstage hidle =>
    have hseen : m.IsQuiet → half.getD m.files = m.files := by
      intro hq
      rcases hfaithful with rfl | htorn
      · rfl
      · cases htorn.symm.trans (h.whole hq hstage hidle)
    split at he
    · next s hs =>
      cases he
      refine ⟨fun hreading => absurd hstage hreading, fun _ _ hs => (by cases hs),
        fun hq s' hs' => ?_, fun _ htell => (by cases htell), fun _ hwaiting => ?_⟩
      · cases hs'
        rw [hseen ⟨hq.writing, hq.due, hq.pending⟩] at hs
        exact hs
      · cases hstage.symm.trans hwaiting
    · next e hs =>
      cases he
      have hdone := stage_done .kept hstage
      refine ⟨fun _ => rfl, fun _ hreading => ?_, fun _ _ hs => (by cases hs),
        fun _ htell => (by cases htell), fun hq _ _ s hok => ?_⟩
      · rw [hdone] at hreading
        cases hreading
      · have hpending := hq.pending
        rw [hdone] at hpending
        rw [hseen ⟨hq.writing, hq.due, hpending⟩] at hs
        cases hs.symm.trans hok
  · cases he

theorem Abreast.of_apply (h : m.Abreast path) {s : Snapshot} (hs : m.errand = .apply s) :
    Abreast path { m with
      store := m.store.apply s, errand := .tell, past := .applied s :: m.past } := by
  have hstage : m.follower.stage = .reading := by
    by_contra hne
    cases (h.idle hne).symm.trans hs
  refine ⟨fun hne => absurd hstage hne, fun _ _ hidle => (by cases hidle),
    fun _ _ happly => (by cases happly), fun hq _ => ?_, fun _ hwaiting => ?_⟩
  · exact ⟨s, m.past, h.read ⟨hq.writing, hq.due, hq.pending⟩ s hs, m.store.shows_apply s, rfl⟩
  · cases hstage.symm.trans hwaiting

theorem Abreast.of_tell (h : m.Abreast path) (htell : m.errand = .tell) (queue : TriggerQueue)
    (journal : Telemetry.Journal) (taken : Bool) :
    Abreast path ({ m with queue := queue, journal := journal }.done (.told taken)) := by
  have hstage : m.follower.stage = .reading := by
    by_contra hne
    cases (h.idle hne).symm.trans htell
  have hdone := stage_done (m := { m with queue := queue, journal := journal }) (.told taken) hstage
  refine ⟨fun _ => rfl, fun _ hreading => ?_, fun _ _ hs => (by cases hs),
    fun _ htell => (by cases htell), fun hq _ _ s hs => ?_⟩
  · rw [hdone] at hreading
    cases hreading
  · have hpending := hq.pending
    rw [hdone] at hpending
    obtain ⟨s', before, hread, hshows, hpast⟩ := h.applied ⟨hq.writing, hq.due, hpending⟩ htell
    have heq : s' = s := Except.ok.inj (hread.symm.trans hs)
    rw [heq] at hshows hpast
    exact ⟨hshows, taken, before, congrArg _ hpast⟩

theorem Abreast.step (h : m.Abreast path) {e : Stir} (hfaithful : Faithful path m e)
    (he : m.step path e = some m') : Abreast path m' := by
  cases e with
  | begin =>
    cases he
    exact of_not_quiet h.idle fun hq => Nat.succ_ne_zero _ hq.writing
  | write files =>
    cases he
    exact h.of_write hfaithful
  | complete =>
    simp only [Vigil.step] at he
    split at he
    · cases he
    · cases he
      exact of_not_quiet h.idle fun hq => by cases hq.due
  | announce all =>
    cases he
    exact of_not_quiet h.idle fun hq => Nat.succ_ne_zero _ hq.pending
  | count u =>
    cases he
    exact h.of_count u
  | call | serve =>
    cases he
    exact ⟨h.idle, fun hq => h.whole ⟨hq.writing, hq.due, hq.pending⟩,
      fun hq => h.read ⟨hq.writing, hq.due, hq.pending⟩,
      fun hq => h.applied ⟨hq.writing, hq.due, hq.pending⟩,
      fun hq => h.told ⟨hq.writing, hq.due, hq.pending⟩⟩
  | receive =>
    cases he
    exact h.of_receive
  | drain =>
    simp only [Vigil.step] at he
    split at he
    · next hstage =>
      cases he
      exact h.of_drain hstage
    · cases he
  | read half => exact h.of_read hfaithful he
  | apply =>
    simp only [Vigil.step] at he
    split at he
    · next s hs =>
      cases he
      exact h.of_apply hs
    · cases he
  | tell =>
    simp only [Vigil.step] at he
    split at he
    · next htell =>
      cases he
      exact h.of_tell htell _ _ _
    · cases he

theorem Abreast.opened (files : Files) (store : Store) : (opened files store).Abreast path where
  idle _ := rfl
  whole _ h := by cases h
  read _ _ h := by cases h
  applied _ h := by cases h
  told _ _ h := by cases h

/-- Once the writes are over and announced, the loop comes to rest by its own steps, with a store
that shows what the file holds. -/
theorem comes_to_rest {s : Snapshot} (h : m.Abreast path) (hwriting : m.writing = 0)
    (hdue : m.due = false) (hwritten : 0 < m.written)
    (hs : (Store.readSnapshot m.files path).1 = .ok s) :
    ∃ m', Runs path Own m m' ∧ m'.IsQuiet ∧ m'.follower.stage = .waiting ∧ m'.store.Shows s := by
  have hwaits : ∃ n, Runs path Own m n ∧ n.follower.stage = .waiting ∧ n.errand = .idle := by
    cases hstage : m.follower.stage with
    | waiting => exact ⟨m, .refl m, hstage, h.idle (by simp [hstage])⟩
    | resting =>
      obtain ⟨n, hruns, hfollower, hidle, -⟩ :=
        resting_runs path hstage (h.idle (by simp [hstage]))
      exact ⟨n, hruns, by rw [hfollower], hidle⟩
    | reading =>
      cases herrand : m.errand with
      | idle =>
        obtain ⟨n, hruns, hfollower, hidle, -⟩ := reading_runs path hstage herrand
        exact ⟨n, hruns, by rw [hfollower], hidle⟩
      | apply s =>
        obtain ⟨n, hruns, hfollower, hidle, -⟩ := apply_runs path hstage herrand
        exact ⟨n, hruns, by rw [hfollower], hidle⟩
      | tell =>
        obtain ⟨n, hruns, hfollower, hidle, -⟩ := tell_runs path hstage herrand
        exact ⟨n, hruns, by rw [hfollower], hidle⟩
  obtain ⟨n, hfirst, hstage, hidle⟩ := hwaits
  obtain ⟨m', hlast, hfollower⟩ := waiting_runs path hstage hidle
  have hruns := hfirst.trans hlast
  obtain ⟨hfiles, hwriting', hwritten', hdue'⟩ := own_frame hruns
  have habreast : m'.Abreast path :=
    hruns.invariant h fun n e n' hn hown he => hn.step (faithful_of_own n e hown) he
  have hquiet : m'.IsQuiet := ⟨hwriting'.trans hwriting, hdue'.trans hdue, by rw [hfollower]⟩
  have hwaiting : m'.follower.stage = .waiting := by rw [hfollower]
  have hread : (Store.readSnapshot m'.files path).1 = .ok s := by rw [hfiles, hs]
  refine ⟨m', hruns, hquiet, hwaiting, ?_⟩
  exact (habreast.told hquiet hwaiting (hwritten' ▸ hwritten) s hread).1

/-! ## A reading that falls into a write -/

def oneDomain : Snapshot :=
  { domains := [⟨1, "a"⟩] }

/-- Whether nothing is left to be taken up and the file has a content. -/
def isAtRest (m : Vigil) (bytes : List UInt8) : Bool :=
  decide (m.writing = 0 ∧ m.due = false ∧ m.follower = ⟨0, .waiting⟩ ∧ 0 < m.written) &&
    match m.files.read "/s" with
    | .ok content => content == bytes
    | .error _ => false

end Vigil

end Portcullis
