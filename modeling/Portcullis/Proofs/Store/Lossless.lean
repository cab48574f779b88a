import Portcullis.Proofs.Files.Deeds
import Portcullis.Proofs.Net.Canonical
import Portcullis.Proofs.Store.Codec
import Portcullis.Proofs.Store.Operations

/-!
# A store comes back from its file as it was

Whatever was done to a store, what it saves is what it loads.

* `AccessList.Canonical` is the invariant: the addresses of all rows are in canonical form already.
  Rows enter so (`AccessRow.canonical_canonical`), and nothing changes the address of a row.
* Under the invariant a list is made of its own rows (`AccessList.ofRows_rows`), and taking over its
  own rows changes nothing (`AccessList.replace_rows`).
* `Store.Reachable` is any store that came from a snapshot or from nothing, after any operations.
* `Store.load_save` is the main result.  It is about trees of files that hang together, as they do
  after any deeds (`Files.Sound.perform`).
-/

namespace Portcullis

theorem Tally.merge_self (t : Tally) : t.merge t = t := by
  have hmax (n : UInt64) : max n n = n := by
    rw [← UInt64.toNat_inj, UInt64.toNat_max, Nat.max_self]
  rw [merge, hmax, hmax]

/-! ## Canonical rows -/

/-- The canonical form of an address is its own canonical form. -/
theorem AccessRow.canonical_canonical {ε : Type} (r : AccessRow ε) :
    r.canonical.canonical = r.canonical := by
  have hip : (Net.canonical? ((Net.canonical? r.ip).getD r.ip)).getD
      ((Net.canonical? r.ip).getD r.ip) = (Net.canonical? r.ip).getD r.ip := by
    cases h : Net.canonical? r.ip with
    | none => rw [Option.getD_none, h, Option.getD_none]
    | some s => rw [Option.getD_some, Net.canonical?_of_canonical? h, Option.getD_some]
  simp only [canonical, hip]

namespace AccessList

variable {ε : Type} {list : AccessList ε}

/-- The addresses of all rows are in canonical form. -/
def Canonical (list : AccessList ε) : Prop :=
  ∀ r ∈ list.rows, r.canonical = r

theorem canonical_empty : Canonical (.empty : AccessList ε) := nofun

namespace Canonical

theorem insert (h : list.Canonical) {r : AccessRow ε} (hr : r.canonical = r) :
    Canonical (list.insert r) := by
  intro x hx
  rcases (Table.mem_insert list r x).1 hx with rfl | ⟨hx, -⟩
  · exact hr
  · exact h x hx

theorem enter (h : list.Canonical) (r : AccessRow ε) : (list.enter r).Canonical :=
  h.insert r.canonical_canonical

theorem filter (h : list.Canonical) (keep : AccessRow ε → Bool) :
    Canonical (list.filter keep) :=
  fun r hr => h r (List.mem_filter.1 hr).1

/-- A change that leaves the address leaves its form. -/
theorem change (h : list.Canonical) {f : AccessRow ε → AccessRow ε} (hf : ∀ r, (f r).ip = r.ip)
    (id : UInt32) : (list.change id f).2.Canonical := by
  rw [AccessList.change]
  cases hr : list.get? id with
  | none => exact h
  | some r =>
    apply h.insert
    have hold := congrArg AccessRow.ip (h r (Table.get?_eq_some_iff.1 hr).1)
    simp only [AccessRow.canonical] at hold
    simp only [AccessRow.canonical, hf, hold]

theorem merge (h : list.Canonical) (r : AccessRow ε) : (list.merge r).Canonical := by
  rw [merge_eq]
  exact h.enter _

theorem foldl {put : AccessList ε → AccessRow ε → AccessList ε}
    (hput : ∀ list r, Canonical list → (put list r).Canonical) (h : list.Canonical)
    (rows : List (AccessRow ε)) : Canonical (rows.foldl put list) := by
  induction rows generalizing list with
  | nil => exact h
  | cons r rest ih => exact ih (hput _ r h)

theorem ofRows (rows : List (AccessRow ε)) : (ofRows rows).Canonical :=
  foldl (fun _ r h => h.enter r) canonical_empty rows

theorem perform (h : list.Canonical) (op : ListOp ε) : (list.perform op).Canonical := by
  cases op with
  | enter r => exact h.enter r
  | erase id => exact h.filter _
  | setDisabled id disabled =>
    exact h.change (f := fun r => { r with disabled := disabled }) (fun _ => rfl) id
  | hit id time =>
    exact h.change (f := fun r => { r with tally := r.tally.hit time }) (fun _ => rfl) id
  | replace rows => exact foldl (fun _ r h => h.merge r) (h.filter _) rows

end Canonical

/-- Rows enter a list in canonical form. -/
theorem ofRows_eq (rows : List (AccessRow ε)) :
    ofRows rows = Table.ofList (rows.map AccessRow.canonical) := by
  rw [ofRows, Table.ofList, List.foldl_map]
  rfl

/-- A list is made of its own rows. -/
theorem ofRows_rows (h : list.Canonical) : ofRows list.rows = list := by
  have hrows : list.rows.map AccessRow.canonical = list.rows :=
    (List.map_congr_left h).trans (List.map_id _)
  rw [ofRows_eq, hrows, Table.ofList_rows]

/-- A row of the list that meets itself changes nothing. -/
theorem merge_of_mem (h : list.Canonical) {r : AccessRow ε} (hr : r ∈ list.rows) :
    list.merge r = list := by
  have hlive : list.get? r.id = some r := Table.get?_eq_some_iff.2 ⟨hr, rfl⟩
  have hmerged : list.merged r = r.tally := by
    rw [merged, tally?, hlive]
    exact r.tally.merge_self
  rw [merge_eq, hmerged]
  show list.insert r.canonical = list
  rw [h r hr]
  exact Table.insert_of_get? hlive

/-- Taking over its own rows changes nothing. -/
theorem replace_rows (h : list.Canonical) : list.replace list.rows = list := by
  have hkept : list.filter (fun r => list.rows.any (·.id == r.id)) = list := by
    apply Table.eq_of_get?
    intro id
    rw [get?_keepListed]
    split
    · rfl
    · next hmissing =>
      cases hrow : list.get? id with
      | none => rfl
      | some r =>
        obtain ⟨hr, hid⟩ := Table.get?_eq_some_iff.1 hrow
        have hlisted : (r.id == id) = true := beq_iff_eq.2 hid
        exact absurd (List.any_eq_true.2 ⟨r, hr, hlisted⟩) hmissing
  have hsame : ∀ rows : List (AccessRow ε), (∀ r ∈ rows, r ∈ list.rows) →
      rows.foldl merge list = list := by
    intro rows
    induction rows with
    | nil => exact fun _ => rfl
    | cons r rest ih =>
      intro hrows
      obtain ⟨hr, hrest⟩ := List.forall_mem_cons.1 hrows
      rw [List.foldl_cons, merge_of_mem h hr]
      exact ih hrest
  rw [replace, hkept]
  exact hsame _ fun _ hr => hr

end AccessList

/-! ## Whole stores -/

namespace Store

/-- The rows of both access lists are in canonical form. -/
structure Canonical (store : Store) : Prop where
  blacklist : store.blacklist.Canonical
  whitelist : store.whitelist.Canonical

/-- A store that was made of a snapshot or of nothing, after any operations. -/
inductive Reachable : Store → Prop where
  | empty : Reachable .empty
  | ofSnapshot (s : Snapshot) (path : Option String) : Reachable (.ofSnapshot s path)
  | perform {store : Store} (op : StoreOp) (h : Reachable store) : Reachable (store.perform op)

theorem Canonical.perform {store : Store} (h : store.Canonical) (op : StoreOp) :
    (store.perform op).Canonical := by
  constructor
  · rw [blacklist_perform]
    cases op.onBlacklist with
    | none => exact h.blacklist
    | some op => exact h.blacklist.perform op
  · rw [whitelist_perform]
    cases op.onWhitelist with
    | none => exact h.whitelist
    | some op => exact h.whitelist.perform op

theorem Reachable.canonical {store : Store} (h : store.Reachable) : store.Canonical := by
  induction h with
  | empty => exact ⟨AccessList.canonical_empty, AccessList.canonical_empty⟩
  | ofSnapshot s path => exact ⟨.ofRows _, .ofRows _⟩
  | perform op _ ih => exact ih.perform op

/-- A store is made of its own snapshot. -/
theorem Canonical.ofSnapshot_snapshot {store : Store} (h : store.Canonical) :
    ofSnapshot store.snapshot store.path = store := by
  simp only [ofSnapshot, snapshot, Snapshot.routing, Table.ofList_rows,
    AccessList.ofRows_rows h.blacklist, AccessList.ofRows_rows h.whitelist]

/-- Its own snapshot changes nothing in a store. -/
theorem Canonical.apply_snapshot {store : Store} (h : store.Canonical) :
    store.apply store.snapshot = store := by
  simp only [apply, snapshot, Snapshot.routing, Table.ofList_rows,
    AccessList.replace_rows h.blacklist, AccessList.replace_rows h.whitelist]

/-- A save that succeeds wrote the snapshot and renamed it. -/
theorem read_of_save {store : Store} {files : Files} {path : String} (hfiles : files.Sound)
    (hpath : store.path = some path) (hsave : (store.save files).1 = .ok ()) :
    (store.save files).2.1.read path = .ok store.snapshot.encode ∧
      (store.save files).2.1.Sound := by
  rw [save, hpath] at hsave ⊢
  dsimp only at hsave ⊢
  cases hwrite : files.write (Path.withExtension path "json.tmp") store.snapshot.encode with
  | error f => rw [hwrite] at hsave; cases hsave
  | ok written =>
    rw [hwrite] at hsave
    cases hrename : written.rename (Path.withExtension path "json.tmp") path with
    | error f => simp only [hrename] at hsave; cases hsave
    | ok files' =>
      simp only [hrename]
      exact hfiles.read_rename hwrite hrename

/-- What is saved is loaded: after a save that succeeds the same path gives the same store again, in
a tree that can be saved to again.  Each part of this is lossless by itself: every snapshot is read
from its bytes, rows that enter again are what they were, and a store that takes over its own
snapshot stays as it is. -/
theorem load_save {store : Store} (h : store.Reachable) :
    (∀ (files : Files) (path : String), files.Sound → store.path = some path →
      (store.save files).1 = .ok () →
        (load (store.save files).2.1 path).1 = .ok store ∧ (store.save files).2.1.Sound) ∧
    (∀ s : Snapshot, Snapshot.decode? s.encode = some s) ∧
    (∀ path, (ofSnapshot store.snapshot path).snapshot = store.snapshot) ∧
    store.apply store.snapshot = store := by
  have hcanonical := h.canonical
  have hmade := hcanonical.ofSnapshot_snapshot
  refine ⟨?_, Snapshot.decode?_encode, ?_, hcanonical.apply_snapshot⟩
  · intro files path hfiles hpath hsave
    obtain ⟨hread, hsound⟩ := read_of_save hfiles hpath hsave
    refine ⟨?_, hsound⟩
    have hsnapshot : readSnapshot (store.save files).2.1 path = (.ok store.snapshot, []) := by
      simp only [readSnapshot, hread, Snapshot.decode?_encode]
    rw [hpath] at hmade
    simp only [load, hsnapshot, hmade]
  · intro path
    have hpath : (ofSnapshot store.snapshot path).snapshot =
      (ofSnapshot store.snapshot store.path).snapshot := rfl
    rw [hpath, hmade]

/-- A row with numbers at both ends of their range, an address that is not canonical, and a text
that has to be escaped; a hit later. -/
def oddStore : Store :=
  (ofSnapshot
    { blacklist := [
        { id := 4294967295
          ip := " ::ffff:10.0.0.1"
          disabled := true
          tally := ⟨18446744073709551614, 0⟩
          description := "a \"quoted\"\nline"
          details := { locationId := some 0 } }] }
    (some "data/store.json")).perform (.count (.block 4294967295 5))

/-- A tree with a directory to save to. -/
def furnished : Files :=
  (Files.empty.perform (.makeDirs "data")).2

theorem load_save_oddStore :
    oddStore.Reachable ∧ furnished.Sound ∧ oddStore.path = some "data/store.json" ∧
      (oddStore.save furnished).1 = .ok () ∧
      (load (oddStore.save furnished).2.1 "data/store.json").1 = .ok oddStore := by
  have hreachable : oddStore.Reachable := .perform _ (.ofSnapshot _ _)
  have hsound : furnished.Sound :=
    Files.sound_empty.perform (.makeDirs "data") (Files.entryAt?_root _)
  have hsave : (oddStore.save furnished).1 = .ok () := by decide
  exact ⟨hreachable, hsound, rfl, hsave,
    ((load_save hreachable).1 furnished "data/store.json" hsound rfl hsave).1⟩

end Store

end Portcullis
