import Portcullis.Proofs.Store.Plain
import Portcullis.Proofs.Store.Takeover

/-!
# Two ways of loading a snapshot

A store is made of a snapshot at the start, and a live store takes a snapshot over.  An empty store
that takes a snapshot over might as well have been made of it, and a store that was made of a
snapshot has nothing to take over from it.  Both are so but for the tallies of ids that a snapshot
lists more than once: the one way keeps the tally of the last row, the other the larger count and
the later hit of all of them.

* `AccessList.plain_replace_eq`: apart from tallies, both ways leave the same rows.
* `Tally.foldl_merge_le_iff`: tallies that meet come to their least upper bound, and so the order in
  which they do and the one that comes first leave no trace (`Tally.foldl_meet_none`).
* `AccessList.replace_ofRows_eq_iff`: a list that was made of rows stays as it is when it takes them
  over, exactly if the last row of each id leads the others (`AccessList.LastLeads`).
* `Store.loads_alike_iff` is the main result.
-/

namespace Portcullis

/-! ## Least upper bounds -/

namespace Tally

theorem le_antisymm {a b : Tally} (h : a ≤ b) (h' : b ≤ a) : a = b := by
  obtain ⟨count, last⟩ := a
  obtain ⟨count', last'⟩ := b
  obtain rfl : count = count' := UInt64.le_antisymm h.1 h'.1
  obtain rfl : last = last' := UInt64.le_antisymm h.2 h'.2
  rfl

theorem merge_le_iff {a b c : Tally} : a.merge b ≤ c ↔ a ≤ c ∧ b ≤ c := by
  have hmax (m n l : UInt64) : max m n ≤ l ↔ m ≤ l ∧ n ≤ l := by
    simp only [UInt64.le_iff_toNat_le, UInt64.toNat_max, Nat.max_le]
  show max a.count b.count ≤ c.count ∧ max a.last b.last ≤ c.last ↔
    (a.count ≤ c.count ∧ a.last ≤ c.last) ∧ b.count ≤ c.count ∧ b.last ≤ c.last
  rw [hmax, hmax]
  exact and_and_and_comm

/-- A tally that has met others is no more than they have to be. -/
theorem foldl_merge_le_iff {cs : List Tally} {t u : Tally} :
    cs.foldl (fun live c => c.merge live) t ≤ u ↔ t ≤ u ∧ ∀ c ∈ cs, c ≤ u := by
  induction cs generalizing t with
  | nil => simp
  | cons c cs ih =>
    rw [List.foldl_cons, ih, merge_le_iff, List.forall_mem_cons, and_comm (a := c ≤ u), and_assoc]

/-- A tally stays as it is exactly if it meets none that is not below it. -/
theorem foldl_merge_eq_self_iff {cs : List Tally} {t : Tally} :
    cs.foldl (fun live c => c.merge live) t = t ↔ ∀ c ∈ cs, c ≤ t := by
  constructor
  · intro h
    have hle : cs.foldl (fun live c => c.merge live) t ≤ t := by
      rw [h]
      exact le_refl t
    exact (foldl_merge_le_iff.1 hle).2
  · intro h
    exact le_antisymm (foldl_merge_le_iff.2 ⟨le_refl t, h⟩) (le_foldl_merge cs t)

theorem foldl_meet_some (cs : List Tally) (t : Tally) :
    cs.foldl meet (some t) = some (cs.foldl (fun live c => c.merge live) t) := by
  induction cs generalizing t with
  | nil => rfl
  | cons c cs ih => rw [List.foldl_cons, List.foldl_cons, ← ih, meet, Option.elim_some]

/-- Tallies come to the same if one of them is there already. -/
theorem foldl_meet_none {cs : List Tally} {t : Tally} (ht : t ∈ cs) :
    cs.foldl meet none = cs.foldl meet (some t) := by
  cases cs with
  | nil => cases ht
  | cons c cs =>
    have hfirst : (c :: cs).foldl meet none = cs.foldl meet (some c) := rfl
    have hleast {u : Tally} :
        cs.foldl (fun live c => c.merge live) c ≤ u ↔ ∀ x ∈ c :: cs, x ≤ u := by
      rw [foldl_merge_le_iff, List.forall_mem_cons]
    rw [hfirst, foldl_meet_some, foldl_meet_some, Option.some.injEq]
    apply le_antisymm
    · exact hleast.2 (foldl_merge_le_iff.1 (le_refl _)).2
    · exact foldl_merge_le_iff.2 ⟨hleast.1 (le_refl _) t ht, hleast.1 (le_refl _)⟩

end Tally

/-! ## Lists -/

namespace AccessList

variable {ε : Type} {rows : List (AccessRow ε)} {r : AccessRow ε} {id : UInt32}

/-- Of each id, the last row has counted no less than the others and was hit no earlier. -/
def LastLeads (rows : List (AccessRow ε)) : Prop :=
  ∀ r ∈ rows, ∀ last ∈ lastRow? rows r.id, r.tally ≤ last.tally

/-- The last row of an id has no other of the id behind it. -/
theorem exists_split_of_lastRow? (h : lastRow? rows id = some r) :
    r.id = id ∧ ∃ before after, rows = before ++ r :: after ∧ ∀ x ∈ after, x.id ≠ r.id := by
  obtain ⟨hlast, behind, front, hrows, hbehind⟩ := List.find?_eq_some_iff_append.1 h
  have hid : r.id = id := eq_of_beq hlast
  refine ⟨hid, front.reverse, behind.reverse, ?_, fun x hx heq => ?_⟩
  · rw [← List.reverse_reverse rows, hrows]
    simp
  · have hother := hbehind x (List.mem_reverse.1 hx)
    have hsame : (Row.id x == id) = true := beq_iff_eq.2 (heq.trans hid)
    rw [hsame] at hother
    cases hother

/-- An id that no row has, has no last row. -/
theorem lastRow?_eq_none_iff : lastRow? rows id = none ↔ rows.any (·.id == id) = false := by
  rw [← List.any_reverse, List.any_eq_false]
  exact List.find?_eq_none

theorem get?_ofRows_eq (rows : List (AccessRow ε)) (id : UInt32) :
    (ofRows rows).get? id = (lastRow? rows id).map AccessRow.canonical := by
  cases h : lastRow? rows id with
  | none =>
    have hnone : ∀ r ∈ rows, r.id ≠ id := by
      simpa using lastRow?_eq_none_iff.1 h
    exact get?_foldl_enter_of_ne hnone .empty
  | some r =>
    obtain ⟨rfl, before, after, rfl, hafter⟩ := exists_split_of_lastRow? h
    exact get?_ofRows hafter

/-- What is counted of an id in a list made of rows is the tally of the last. -/
theorem tally?_ofRows (rows : List (AccessRow ε)) (id : UInt32) :
    (ofRows rows).tally? id = (lastRow? rows id).map (·.tally) := by
  have htally : (·.tally) ∘ AccessRow.canonical = ((·.tally) : AccessRow ε → Tally) := by
    funext r
    rw [Function.comp, AccessRow.canonical]
  rw [tally?, get?_ofRows_eq, Option.map_map, htally]

/-- Two lists are the same where they are so apart from tallies, and all tallies are. -/
theorem eq_iff_tally? {a b : AccessList ε} (hplain : a.plain = b.plain) :
    a = b ↔ ∀ id, a.tally? id = b.tally? id := by
  refine ⟨fun h id => by rw [h], fun h => Table.eq_of_get? fun id => ?_⟩
  have hrow : (a.get? id).map AccessRow.plain = (b.get? id).map AccessRow.plain := by
    rw [← get?_plain, hplain, get?_plain]
  have hcount : (a.get? id).map (·.tally) = (b.get? id).map (·.tally) := h id
  revert hrow hcount
  generalize a.get? id = x
  generalize b.get? id = y
  intro hrow hcount
  match x, y with
  | none, none => rfl
  | some x, some y =>
    -- A row is what it is apart from its tally, and its tally.
    have hx : x = { x.plain with tally := x.tally } := rfl
    rw [Option.map_some, Option.map_some, Option.some.injEq] at hrow hcount
    rw [hx, hrow, hcount]
    rfl

/-- Apart from tallies, rows that are taken over leave what rows leave that a list is made of. -/
theorem plain_replace_eq (list : AccessList ε) (rows : List (AccessRow ε)) :
    (list.replace rows).plain = (ofRows rows).plain := by
  refine Table.eq_of_get? fun id => ?_
  rw [get?_plain, get?_plain, get?_ofRows_eq]
  cases hlast : lastRow? rows id with
  | none =>
    have hnone : (list.replace rows).get? id = none := by
      rw [← Option.not_isSome_iff_eq_none, isSome_get?_replace, lastRow?_eq_none_iff.1 hlast]
      exact Bool.false_ne_true
    rw [hnone, Option.map_none, Option.map_none, Option.map_none]
  | some r =>
    obtain ⟨rfl, before, after, rfl, hafter⟩ := exists_split_of_lastRow? hlast
    obtain ⟨tally, hnew⟩ := get?_replace hafter list
    rw [hnew, Option.map_some, Option.map_some, Option.map_some]
    generalize r.canonical = stored
    rfl

theorem mem_talliesOf {t : Tally} :
    t ∈ talliesOf rows id ↔ ∃ r ∈ rows, r.id = id ∧ r.tally = t := by
  simp [talliesOf, and_assoc]

/-- What is counted of an id that rows have when they are taken over. -/
theorem tally?_replace_of_lastRow? (list : AccessList ε) (h : lastRow? rows id = some r) :
    (list.replace rows).tally? id = (talliesOf rows id).foldl Tally.meet (list.tally? id) := by
  have hlisted : rows.any (·.id == id) = true := by
    rw [← Bool.not_eq_false, ← lastRow?_eq_none_iff, h]
    exact Option.some_ne_none r
  rw [tally?_replace_eq, if_pos hlisted]

/-- What is counted of an id when an empty list has taken rows over is what the tallies of the id
come to. -/
theorem tally?_replace_empty (rows : List (AccessRow ε)) (id : UInt32) :
    (AccessList.replace .empty rows).tally? id = (talliesOf rows id).foldl Tally.meet none := by
  rw [tally?_replace_eq]
  split
  · rfl
  · rename_i hlisted
    rw [Bool.not_eq_true, List.any_eq_false] at hlisted
    have hnone : talliesOf rows id = [] := by
      rw [talliesOf, List.filter_eq_nil_iff.2 hlisted, List.map_nil]
    rw [hnone, List.foldl_nil]

/-- A list that takes over the rows that it was made of stays as it is exactly if, of each id, the
last row leads the others. -/
theorem replace_ofRows_eq_iff (rows : List (AccessRow ε)) :
    (ofRows rows).replace rows = ofRows rows ↔ LastLeads rows := by
  rw [eq_iff_tally? (plain_replace_eq _ rows)]
  have hone {id : UInt32} {last : AccessRow ε} (hlast : lastRow? rows id = some last) :
      ((ofRows rows).replace rows).tally? id = (ofRows rows).tally? id ↔
        ∀ c ∈ talliesOf rows id, c ≤ last.tally := by
    rw [tally?_replace_of_lastRow? _ hlast, tally?_ofRows, hlast, Option.map_some,
      Tally.foldl_meet_some, Option.some.injEq, Tally.foldl_merge_eq_self_iff]
  constructor
  · intro h r hr last hlast
    exact (hone hlast).1 (h r.id) r.tally (mem_talliesOf.2 ⟨r, hr, rfl, rfl⟩)
  · intro h id
    cases hlast : lastRow? rows id with
    | none =>
      rw [tally?_replace_eq, lastRow?_eq_none_iff.1 hlast, if_neg Bool.false_ne_true,
        tally?_ofRows, hlast]
      rfl
    | some last =>
      refine (hone hlast).2 fun c hc => ?_
      obtain ⟨r, hr, rfl, rfl⟩ := mem_talliesOf.1 hc
      exact h r hr last hlast

/-- Rows that are taken over twice, first by way of making a list of them, leave what they leave
when an empty list takes them over. -/
theorem replace_ofRows (rows : List (AccessRow ε)) :
    (ofRows rows).replace rows = AccessList.replace .empty rows := by
  rw [eq_iff_tally? ((plain_replace_eq _ rows).trans (plain_replace_eq _ rows).symm)]
  intro id
  cases hlast : lastRow? rows id with
  | none =>
    have hnone := lastRow?_eq_none_iff.1 hlast
    rw [tally?_replace_eq, tally?_replace_eq, hnone, if_neg Bool.false_ne_true,
      if_neg Bool.false_ne_true]
  | some last =>
    have hmem : last.tally ∈ talliesOf rows id := by
      obtain ⟨hid, before, after, rfl, -⟩ := exists_split_of_lastRow? hlast
      exact mem_talliesOf.2 ⟨last, by simp, hid, rfl⟩
    have hempty : AccessList.tally? (.empty : AccessList ε) id = none := rfl
    rw [tally?_replace_of_lastRow? _ hlast, tally?_replace_of_lastRow? _ hlast, hempty,
      tally?_ofRows, hlast, Option.map_some, Tally.foldl_meet_none hmem]

/-- Where each row has an id of its own, the last row of an id is the only one. -/
theorem lastLeads_of_nodup (hids : (rows.map (·.id)).Nodup) : LastLeads rows := by
  intro r hr last hlast
  obtain ⟨hid, before, after, hrows, -⟩ := exists_split_of_lastRow? hlast
  have hmem : last ∈ rows := by
    rw [hrows]
    simp
  obtain rfl : last = r := List.inj_on_of_nodup_map hids hmem hr hid
  exact Tally.le_refl _

end AccessList

/-! ## Stores -/

namespace Store

/-- Stores have the same content where their tables and their lists are the same. -/
theorem snapshot_eq_iff {a b : Store} :
    a.snapshot = b.snapshot ↔ a.routing = b.routing ∧ ∀ roll, a.list roll = b.list roll := by
  obtain ⟨⟨listeners, ⟨domains, _⟩, streamRoutes, httpRoutes, ⟨sshPorts, _⟩⟩, ⟨blacklist, _⟩,
    ⟨whitelist, _⟩, _⟩ := a
  obtain ⟨⟨listeners', ⟨domains', _⟩, streamRoutes', httpRoutes', ⟨sshPorts', _⟩⟩,
    ⟨blacklist', _⟩, ⟨whitelist', _⟩, _⟩ := b
  constructor
  · intro h
    cases h
    exact ⟨rfl, fun roll => by cases roll <;> rfl⟩
  · rintro ⟨hrouting, hlists⟩
    cases hrouting
    cases hlists .blacklist
    cases hlists .whitelist
    rfl

/-- Where two stores have the tables of a snapshot, their lists decide whether they have the same
content. -/
theorem snapshot_eq_iff_lists {a b : Store} {s : Snapshot} (ha : a.routing = s.routing)
    (hb : b.routing = s.routing) :
    a.snapshot = b.snapshot ↔ ∀ roll, a.list roll = b.list roll := by
  rw [snapshot_eq_iff, ha, hb, eq_self, true_and]

theorem list_empty (roll : Roll) : empty.list roll = .empty := by
  cases roll <;> rfl

theorem list_plain (store : Store) (roll : Roll) :
    store.plain.list roll = (store.list roll).plain := by
  cases roll <;> rfl

theorem tallies_eq (s : Snapshot) (roll : Roll) (id : UInt32) :
    s.tallies roll id = talliesOf (s.rows roll) id := by
  cases roll <;> rfl

/-- An empty store that takes a snapshot over, and a store that is made of the snapshot, have the
same content but for the tallies of the access rows: what the former has counted of an id is what
all the tallies come to that the snapshot has for it, what the latter has is the tally of the last
row.  So they have the same content exactly if, on both lists of the snapshot, the last row of each
id has no smaller count and no earlier hit than the others, as is the case where each id is listed
once.  This is also what it takes for a store that was made of a snapshot to stay as it is when it
takes the snapshot over again; otherwise it becomes what the empty store becomes. -/
theorem loads_alike_iff (s : Snapshot) (path : Option String) :
    (empty.apply s).plain.snapshot = (ofSnapshot s path).plain.snapshot ∧
      (∀ roll id, (empty.apply s).tally? roll id = (s.tallies roll id).foldl Tally.meet none ∧
        (ofSnapshot s path).tally? roll id = (lastRow? (s.rows roll) id).map (·.tally)) ∧
      ((empty.apply s).snapshot = (ofSnapshot s path).snapshot ↔
        ∀ roll, AccessList.LastLeads (s.rows roll)) ∧
      (((ofSnapshot s path).apply s).snapshot = (ofSnapshot s path).snapshot ↔
        ∀ roll, AccessList.LastLeads (s.rows roll)) ∧
      ((ofSnapshot s path).apply s).snapshot = (empty.apply s).snapshot ∧
      ((∀ roll, ((s.rows roll).map (·.id)).Nodup) →
        ∀ roll, AccessList.LastLeads (s.rows roll)) := by
  have hagain : ((ofSnapshot s path).apply s).snapshot = (empty.apply s).snapshot := by
    rw [snapshot_eq_iff_lists (s := s) rfl rfl]
    intro roll
    rw [list_apply, list_apply, list_ofSnapshot, list_empty, AccessList.replace_ofRows]
  have hself : ((ofSnapshot s path).apply s).snapshot = (ofSnapshot s path).snapshot ↔
      ∀ roll, AccessList.LastLeads (s.rows roll) := by
    rw [snapshot_eq_iff_lists (s := s) rfl rfl]
    refine forall_congr' fun roll => ?_
    rw [list_apply, list_ofSnapshot, AccessList.replace_ofRows_eq_iff]
  refine ⟨?_, fun roll id => ⟨?_, ?_⟩, hagain ▸ hself, hself, hagain,
    fun hids roll => AccessList.lastLeads_of_nodup (hids roll)⟩
  · rw [snapshot_eq_iff_lists (s := s) rfl rfl]
    intro roll
    rw [list_plain, list_plain, list_apply, list_ofSnapshot, AccessList.plain_replace_eq]
  · rw [tally?_eq, list_apply, list_empty, AccessList.tally?_replace_empty, tallies_eq]
  · rw [tally?_eq, list_ofSnapshot, AccessList.tally?_ofRows]

/-- A snapshot that lists an id twice, first with five hits and then with three. -/
def twoRowsOfOneId : Snapshot where
  blacklist := [⟨1, "10.0.0.1", false, ⟨5, 100⟩, "", {}⟩, ⟨1, "10.0.0.1", false, ⟨3, 50⟩, "", {}⟩]

/-- A store that is made of the snapshot has three hits; when it takes the snapshot over again, it
has five, and so has an empty store. -/
theorem loads_twoRowsOfOneId :
    (ofSnapshot twoRowsOfOneId none).tally? .blacklist 1 = some ⟨3, 50⟩ ∧
      ((ofSnapshot twoRowsOfOneId none).apply twoRowsOfOneId).tally? .blacklist 1 =
        some ⟨5, 100⟩ ∧
      (empty.apply twoRowsOfOneId).snapshot ≠ (ofSnapshot twoRowsOfOneId none).snapshot ∧
      ((ofSnapshot twoRowsOfOneId none).apply twoRowsOfOneId).snapshot ≠
        (ofSnapshot twoRowsOfOneId none).snapshot := by
  have hmade : (ofSnapshot twoRowsOfOneId none).tally? .blacklist 1 = some ⟨3, 50⟩ :=
    AccessList.tally?_ofRows twoRowsOfOneId.blacklist 1
  have htaken : (empty.apply twoRowsOfOneId).tally? .blacklist 1 = some ⟨5, 100⟩ :=
    AccessList.tally?_replace_empty twoRowsOfOneId.blacklist 1
  have hagain : ((ofSnapshot twoRowsOfOneId none).apply twoRowsOfOneId).tally? .blacklist 1 =
      some ⟨5, 100⟩ := by
    rw [tally?_eq, list_apply, list_ofSnapshot, AccessList.replace_ofRows]
    exact htaken
  have hne {a b : Store} (h : a.tally? .blacklist 1 ≠ b.tally? .blacklist 1) :
      a.snapshot ≠ b.snapshot := by
    intro heq
    rw [tally?_eq, tally?_eq, (snapshot_eq_iff.1 heq).2] at h
    exact h rfl
  have hdiffer : some (⟨5, 100⟩ : Tally) ≠ some ⟨3, 50⟩ := by decide
  refine ⟨hmade, hagain, hne ?_, hne ?_⟩
  · rw [htaken, hmade]
    exact hdiffer
  · rw [hagain, hmade]
    exact hdiffer

end Store

end Portcullis
