import Portcullis.Proofs.Store.Entry
import Portcullis.Proofs.Store.Tallies
import Mathlib

/-!
# Taking over a snapshot

A live store takes over the rows of a snapshot, and forgets nothing that it has counted of them.

* Tallies merge as maxima do: in any order (`Tally.merge_left_comm`) and once for all
  (`Tally.merge_merge_self`).
* `AccessList.get?_replace_of_mem` says which row an id has after a list has taken over rows with
  distinct ids, and `AccessList.replace_replace` that doing so again changes nothing.
* `AccessList.tally?_replace_eq` is about any rows: what is counted of an id is what all its tallies
  come to, and so it does not matter which of two lists of rows came first
  (`AccessList.tally?_replace_comm`).
* `Store.apply_takesOver` is the main result.
-/

namespace Portcullis

/-! ## Maxima -/

namespace Tally

theorem merge_comm (a b : Tally) : a.merge b = b.merge a := by
  have hmax (m n : UInt64) : max m n = max n m := by
    rw [← UInt64.toNat_inj, UInt64.toNat_max, UInt64.toNat_max, Nat.max_comm]
  rw [merge, merge, hmax, hmax a.last]

theorem merge_left_comm (a b c : Tally) : a.merge (b.merge c) = b.merge (a.merge c) := by
  have hmax (l m n : UInt64) : max l (max m n) = max m (max l n) := by
    simp only [← UInt64.toNat_inj, UInt64.toNat_max, Nat.max_left_comm]
  simp only [merge, hmax a.count, hmax a.last]

theorem merge_merge_self (a b : Tally) : a.merge (a.merge b) = a.merge b := by
  have hmax (m n : UInt64) : max m (max m n) = max m n := by
    simp only [← UInt64.toNat_inj, UInt64.toNat_max, ← Nat.max_assoc, Nat.max_self]
  simp only [merge, hmax]

/-- What is counted of an id, if anything was, when a tally has met it. -/
def meet (live : Option Tally) (c : Tally) : Option Tally :=
  some (live.elim c c.merge)

instance : RightCommutative meet where
  right_comm live a b := by
    cases live with
    | none => exact congrArg some (merge_comm b a)
    | some t => exact congrArg some (merge_left_comm b a t)

end Tally

/-! ## Lists -/

namespace AccessList

variable {ε : Type} {list : AccessList ε} {rows : List (AccessRow ε)} {r : AccessRow ε}

/-- Of rows with distinct ids each is there, with what it meets of its id. -/
theorem get?_replace_of_mem (hids : (rows.map (·.id)).Nodup) (hr : r ∈ rows) :
    (list.replace rows).get? r.id = some { r.canonical with tally := list.merged r } := by
  obtain ⟨before, after, rfl⟩ := List.append_of_mem hr
  rw [List.map_append, List.map_cons, List.nodup_middle, ← List.map_append] at hids
  have hother : ∀ x ∈ before ++ after, x.id ≠ r.id := fun x hx hid =>
    (List.nodup_cons.1 hids).1 (hid ▸ List.mem_map_of_mem hx)
  exact get?_replace_of_only hother list

/-- Rows that were taken over are met by themselves, and have counted no more. -/
theorem merged_replace (hids : (rows.map (·.id)).Nodup) (hr : r ∈ rows) :
    (list.replace rows).merged r = list.merged r := by
  rw [merged, tally?, get?_replace_of_mem hids hr, Option.map_some, Option.elim_some, merged]
  cases list.tally? r.id with
  | none => exact r.tally.merge_self
  | some live => exact r.tally.merge_merge_self live

/-- Taking over rows again changes nothing. -/
theorem replace_replace (hids : (rows.map (·.id)).Nodup) (list : AccessList ε) :
    (list.replace rows).replace rows = list.replace rows := by
  refine Table.eq_of_get? fun id => ?_
  by_cases hlisted : ∃ r ∈ rows, r.id = id
  · obtain ⟨r, hr, rfl⟩ := hlisted
    rw [get?_replace_of_mem hids hr, get?_replace_of_mem hids hr, merged_replace hids hr]
  · have hnone : ∀ list : AccessList ε, (list.replace rows).get? id = none := by
      intro list
      rw [← Option.not_isSome_iff_eq_none, isSome_get?_replace]
      simpa using hlisted
    rw [hnone, hnone]

/-- Rows are met one after the other, those of another id apart. -/
theorem tally?_foldl_merge_eq (rows : List (AccessRow ε)) (list : AccessList ε) (id : UInt32) :
    tally? (rows.foldl merge list) id = (talliesOf rows id).foldl Tally.meet (list.tally? id) := by
  induction rows generalizing list with
  | nil => rfl
  | cons r rest ih =>
    rw [List.foldl_cons, ih, tally?_merge]
    by_cases hid : r.id = id
    · subst hid
      simp [talliesOf, merged, Tally.meet]
    · simp [talliesOf, hid, Ne.symm hid]

/-- What is counted of an id that rows have is what the tallies of the id come to. -/
theorem tally?_replace_eq (list : AccessList ε) (rows : List (AccessRow ε)) (id : UInt32) :
    (list.replace rows).tally? id =
      if rows.any (·.id == id) then (talliesOf rows id).foldl Tally.meet (list.tally? id)
      else none := by
  split
  · rename_i hlisted
    rw [replace, tally?_foldl_merge_eq, tally?, get?_keepListed, if_pos hlisted, tally?]
  · rename_i hlisted
    rw [tally?, Option.map_eq_none_iff, ← Option.not_isSome_iff_eq_none, isSome_get?_replace]
    exact hlisted

/-- Of two lists of rows with the same ids, either may be taken over first. -/
theorem tally?_replace_comm {as bs : List (AccessRow ε)}
    (hids : ∀ id, (∃ r ∈ as, r.id = id) ↔ ∃ r ∈ bs, r.id = id) (list : AccessList ε)
    (id : UInt32) :
    ((list.replace as).replace bs).tally? id = ((list.replace bs).replace as).tally? id := by
  have hany : as.any (·.id == id) = bs.any (·.id == id) := by
    rw [Bool.eq_iff_iff]
    simpa using hids id
  simp only [tally?_replace_eq, hany]
  split
  · rw [← List.foldl_append, ← List.foldl_append]
    exact List.perm_append_comm.foldl_eq _
  · rfl

end AccessList

/-! ## Stores -/

namespace Store

variable {store : Store} {roll : Roll}

theorem tally?_eq (store : Store) (roll : Roll) (id : UInt32) :
    store.tally? roll id = (store.list roll).tally? id := by
  cases roll <;> rfl

/-- Stores are the same where their tables, their lists and their files are. -/
theorem eq_of_lists {a b : Store} (hrouting : a.routing = b.routing) (hpath : a.path = b.path)
    (hlists : ∀ roll, a.list roll = b.list roll) : a = b := by
  obtain ⟨routing, blacklist, whitelist, path⟩ := a
  obtain ⟨routing', blacklist', whitelist', path'⟩ := b
  obtain rfl : routing = routing' := hrouting
  obtain rfl : path = path' := hpath
  obtain rfl : blacklist = blacklist' := hlists .blacklist
  obtain rfl : whitelist = whitelist' := hlists .whitelist
  rfl

/-- A store takes over a snapshot and keeps what it has counted. Its routing tables are those of the
snapshot, and so are the ids on each access list. A row is that of the snapshot with its address in
canonical form, except that it has the larger count and the later hit of the two, if the store had
a row of its id. Taking over the snapshot again changes nothing. Of two snapshots that list the same
ids, each once or more often, either may be taken over first, and all rows have the same tallies. -/
theorem apply_takesOver (store : Store) {s : Snapshot}
    (hids : ∀ roll, ((s.rows roll).map (·.id)).Nodup) :
    ((store.apply s).routing.listeners = s.listeners ∧
      (∀ id, (store.apply s).routing.domains.get? id = lastRow? s.domains id) ∧
      (store.apply s).routing.streamRoutes = s.streamRoutes ∧
      (store.apply s).routing.httpRoutes = s.httpRoutes ∧
      ∀ id, (store.apply s).routing.sshPorts.get? id = lastRow? s.sshPorts id) ∧
    (∀ roll id,
      (((store.apply s).list roll).get? id).isSome ↔ ∃ r ∈ s.rows roll, r.id = id) ∧
    (∀ roll, ∀ r ∈ s.rows roll, ((store.apply s).list roll).get? r.id =
      some { r with
        ip := (Net.canonical? r.ip).getD r.ip
        tally := (store.tally? roll r.id).elim r.tally fun live =>
          ⟨max r.tally.count live.count, max r.tally.last live.last⟩ }) ∧
    (store.apply s).apply s = store.apply s ∧
    ∀ t u : Snapshot,
      (∀ roll id, (∃ r ∈ t.rows roll, r.id = id) ↔ ∃ r ∈ u.rows roll, r.id = id) →
        ∀ roll id, ((store.apply t).apply u).tally? roll id =
          ((store.apply u).apply t).tally? roll id := by
  refine ⟨⟨rfl, fun id => Table.get?_ofList .., rfl, rfl, fun id => Table.get?_ofList ..⟩,
    fun roll id => ?_, fun roll r hr => ?_, ?_, fun t u htu roll id => ?_⟩
  · rw [list_apply, AccessList.isSome_get?_replace]
    simp
  · have hmax : r.tally.merge = fun live =>
        ⟨max r.tally.count live.count, max r.tally.last live.last⟩ := rfl
    rw [list_apply, AccessList.get?_replace_of_mem (hids roll) hr, AccessRow.canonical,
      AccessList.merged, ← tally?_eq, hmax]
  · refine eq_of_lists rfl rfl fun roll => ?_
    rw [list_apply, list_apply, AccessList.replace_replace (hids roll)]
  · rw [tally?_eq, tally?_eq, list_apply, list_apply, list_apply, list_apply]
    exact AccessList.tally?_replace_comm (htu roll) (store.list roll) id

/-- A store that has counted five hits of one row and none of another. -/
def fiveHits : Store :=
  ofSnapshot
    { blacklist := [⟨1, "10.0.0.1", false, ⟨5, 100⟩, "", {}⟩, ⟨2, "10.0.0.2", false, {}, "", {}⟩] }
    (some "data/store.json")

/-- A snapshot in which the row has fewer hits and a later one, beside a row that is new. -/
def laterHit : Snapshot where
  blacklist := [⟨1, " 10.0.0.1", true, ⟨3, 200⟩, "seen again", {}⟩,
    ⟨3, "10.0.0.3", false, {}, "", {}⟩]

/-- A snapshot with the same ids, one of them twice. -/
def earlierHit : Snapshot where
  blacklist := [⟨3, "10.0.0.3", false, ⟨1, 50⟩, "", {}⟩, ⟨1, "10.0.0.1", false, ⟨4, 90⟩, "", {}⟩,
    ⟨1, "10.0.0.1", false, ⟨2, 210⟩, "", {}⟩]

/-- The five hits and the later time stay, whatever order the snapshots come in. -/
theorem apply_takesOver_fiveHits :
    ((fiveHits.apply laterHit).list .blacklist).get? 1 =
        some ⟨1, "10.0.0.1", true, ⟨5, 200⟩, "seen again", ({} : BlockDetails)⟩ ∧
      (fiveHits.apply laterHit).apply laterHit = fiveHits.apply laterHit ∧
      ∀ roll id, ((fiveHits.apply laterHit).apply earlierHit).tally? roll id =
        ((fiveHits.apply earlierHit).apply laterHit).tally? roll id := by
  have hids : ∀ roll, ((laterHit.rows roll).map (·.id)).Nodup := by
    intro roll
    cases roll <;> decide
  obtain ⟨-, -, hrow, htwice, hcomm⟩ := apply_takesOver fiveHits hids
  refine ⟨?_, htwice, hcomm laterHit earlierHit fun roll id => ?_⟩
  · have hmem : (⟨1, " 10.0.0.1", true, ⟨3, 200⟩, "seen again", {}⟩ : BlockRow) ∈
        laterHit.rows .blacklist := List.mem_cons_self
    exact (hrow .blacklist _ hmem).trans (by cbv)
  · cases roll with
    | blacklist =>
      show (∃ r ∈ laterHit.blacklist, r.id = id) ↔ ∃ r ∈ earlierHit.blacklist, r.id = id
      simp [laterHit, earlierHit, or_comm]
    | whitelist => rfl

end Store

end Portcullis
