import Portcullis.Proofs.Store.Operations

/-!
# Counted hits survive reloads

The tally of an access row is counted up by hits, and meets the tallies of snapshots when these are
applied.  This module follows one row through any history of a store.

* `StoreOp.hitTime?` and `StoreOp.carried` say what an operation has to do with the tally of a row,
  and `StoreOp.onTally` what it makes of it.  `Store.tally?_perform` says that a store does so, for
  both lists and also where a snapshot lists an id more than once.
* `StoreOp.Spares` excludes what puts a row in place of another or takes it away.
* `Store.Throughout` says what holds at each operation of a history, when it is done.
* `Store.hits_survive` is the main result.
-/

namespace Portcullis

/-! ## What an operation has to do with one row -/

def CounterUpdate.roll : CounterUpdate → Roll
  | block .. => .blacklist
  | access .. => .whitelist

/-- The tallies that a list of rows has for an id. -/
def talliesOf {ε : Type} (rows : List (AccessRow ε)) (id : UInt32) : List Tally :=
  (rows.filter (·.id == id)).map (·.tally)

/-- The tallies that a snapshot has for an id on one of its lists. -/
def Snapshot.tallies (s : Snapshot) : Roll → UInt32 → List Tally
  | .blacklist, id => talliesOf s.blacklist id
  | .whitelist, id => talliesOf s.whitelist id

namespace StoreOp

variable (roll : Roll) (id : UInt32)

/-- The time of the hit that an operation counts for a row. -/
def hitTime? : StoreOp → Option UInt64
  | count u => if u.roll = roll ∧ u.id = id then some u.time else none
  | _ => none

/-- The tallies that a row meets in an operation. -/
def carried : StoreOp → List Tally
  | apply s => s.tallies roll id
  | _ => []

/-- What a tally is after an operation. -/
def onTally (t : Tally) (op : StoreOp) : Tally :=
  (op.carried roll id).foldl (fun live c => c.merge live) ((op.hitTime? roll id).elim t t.hit)

/-- The operation takes no row of the id away and puts none in its place; a snapshot lists it. -/
def Spares : StoreOp → Prop
  | insertBlacklist r => roll = .blacklist → r.id ≠ id
  | insertWhitelist r => roll = .whitelist → r.id ≠ id
  | removeWhitelist i => roll = .whitelist → i ≠ id
  | apply s => s.tallies roll id ≠ []
  | _ => True

end StoreOp

/-! ## One operation -/

namespace AccessList

variable {ε : Type} {list : AccessList ε} {id : UInt32} {t : Tally}

theorem tally?_enter_of_ne {r : AccessRow ε} (h : r.id ≠ id) :
    (list.enter r).tally? id = list.tally? id := by
  rw [tally?, get?_enter, if_neg h.symm, tally?]

theorem tally?_erase_of_ne {gone : UInt32} (h : gone ≠ id) :
    tally? (list.erase gone) id = list.tally? id := by
  rw [tally?, Table.get?_erase, if_neg h.symm, tally?]

theorem tally?_setDisabled (i : UInt32) (disabled : Bool) :
    (list.setDisabled i disabled).2.tally? id = list.tally? id := by
  rw [tally?, setDisabled, get?_change, tally?]
  split
  · next heq =>
    rw [heq, Option.map_map]
    rfl
  · rfl

theorem tally?_hit (i : UInt32) (time : UInt64) (h : list.tally? id = some t) :
    (list.hit i time).2.tally? id = some (if i = id then t.hit time else t) := by
  obtain ⟨r, hr, rfl⟩ := Option.map_eq_some_iff.1 h
  rw [tally?, hit, get?_change]
  by_cases heq : i = id
  · rw [if_pos heq.symm, heq, if_pos rfl, hr]
    rfl
  · rw [if_neg (Ne.symm heq), if_neg heq, hr]
    rfl

theorem tally?_merge (r : AccessRow ε) :
    (list.merge r).tally? id = if id = r.id then some (list.merged r) else list.tally? id := by
  rw [tally?, get?_merge, tally?]
  split <;> rfl

/-- The rows of a snapshot are met one after the other. -/
theorem tally?_foldl_merge (rows : List (AccessRow ε)) (h : list.tally? id = some t) :
    tally? (rows.foldl merge list) id =
      some ((talliesOf rows id).foldl (fun live c => c.merge live) t) := by
  induction rows generalizing list t with
  | nil => exact h
  | cons r rest ih =>
    by_cases hid : r.id = id
    · have hnext : (list.merge r).tally? id = some (r.tally.merge t) := by
        rw [tally?_merge, if_pos hid.symm, merged, hid, h]
        rfl
      have htallies : talliesOf (r :: rest) id = r.tally :: talliesOf rest id := by
        simp [talliesOf, hid]
      rw [List.foldl_cons, ih hnext, htallies, List.foldl_cons]
    · have hnext : (list.merge r).tally? id = some t := by
        rw [tally?_merge, if_neg (Ne.symm hid), h]
      have htallies : talliesOf (r :: rest) id = talliesOf rest id := by
        simp [talliesOf, hid]
      rw [List.foldl_cons, ih hnext, htallies]

theorem tally?_replace {rows : List (AccessRow ε)} (hlisted : talliesOf rows id ≠ [])
    (h : list.tally? id = some t) :
    (list.replace rows).tally? id =
      some ((talliesOf rows id).foldl (fun live c => c.merge live) t) := by
  apply tally?_foldl_merge
  have hany : rows.any (·.id == id) = true := by
    rw [List.any_eq_true]
    obtain ⟨c, hc⟩ := List.exists_mem_of_ne_nil _ hlisted
    obtain ⟨r, hr, -⟩ := List.mem_map.1 hc
    exact ⟨r, List.mem_filter.1 hr⟩
  rw [tally?, get?_keepListed, if_pos hany]
  exact h

end AccessList

namespace Store

open StoreOp

variable {store : Store} {roll : Roll} {id : UInt32} {t : Tally}

/-- What a hit makes of a tally. -/
theorem onTally_count (u : CounterUpdate) :
    (count u).onTally roll id t = if u.roll = roll ∧ u.id = id then t.hit u.time else t := by
  rw [StoreOp.onTally, hitTime?]
  split <;> rfl

/-- What an operation makes of the tally of a row that it spares. -/
theorem tally?_perform (op : StoreOp) (hspares : op.Spares roll id)
    (hlive : store.tally? roll id = some t) :
    (store.perform op).tally? roll id = some (op.onTally roll id t) := by
  cases roll with
  | blacklist =>
    show ((store.perform op).blacklist).tally? id = _
    rw [blacklist_perform]
    cases op with
    | insertBlacklist r => exact (AccessList.tally?_enter_of_ne (hspares rfl)).trans hlive
    | setDisabled roll i disabled =>
      cases roll with
      | blacklist => exact (AccessList.tally?_setDisabled i disabled).trans hlive
      | whitelist => exact hlive
    | count u =>
      rw [onTally_count]
      cases u with
      | block i time =>
        refine (AccessList.tally?_hit i time hlive).trans ?_
        simp [CounterUpdate.roll, CounterUpdate.id, CounterUpdate.time]
      | access i time =>
        rw [if_neg fun h => Roll.noConfusion h.1]
        exact hlive
    | apply s => exact AccessList.tally?_replace hspares hlive
    | _ => exact hlive
  | whitelist =>
    show ((store.perform op).whitelist).tally? id = _
    rw [whitelist_perform]
    cases op with
    | insertWhitelist r => exact (AccessList.tally?_enter_of_ne (hspares rfl)).trans hlive
    | removeWhitelist i => exact (AccessList.tally?_erase_of_ne (hspares rfl)).trans hlive
    | setDisabled roll i disabled =>
      cases roll with
      | blacklist => exact hlive
      | whitelist => exact (AccessList.tally?_setDisabled i disabled).trans hlive
    | count u =>
      rw [onTally_count]
      cases u with
      | block i time =>
        rw [if_neg fun h => Roll.noConfusion h.1]
        exact hlive
      | access i time =>
        refine (AccessList.tally?_hit i time hlive).trans ?_
        simp [CounterUpdate.roll, CounterUpdate.id, CounterUpdate.time]
    | apply s => exact AccessList.tally?_replace hspares hlive
    | _ => exact hlive

end Store

/-! ## Tallies that grow -/

namespace Tally

/-- Neither the count nor the time of the last hit is less. -/
instance : LE Tally := ⟨fun a b => a.count ≤ b.count ∧ a.last ≤ b.last⟩

theorem le_refl (t : Tally) : t ≤ t :=
  ⟨UInt64.le_refl _, UInt64.le_refl _⟩

theorem le_trans {a b c : Tally} (h : a ≤ b) (h' : b ≤ c) : a ≤ c :=
  ⟨UInt64.le_trans h.1 h'.1, UInt64.le_trans h.2 h'.2⟩

theorem le_merge (live c : Tally) : live ≤ c.merge live := by
  constructor <;> simp only [merge, UInt64.le_iff_toNat_le, UInt64.toNat_max] <;> omega

/-- Below the largest number of 64 bits a hit counts one more. -/
theorem toNat_count_hit {t : Tally} (h : t.count.toNat + 1 < UInt64.size) (time : UInt64) :
    (t.hit time).count.toNat = t.count.toNat + 1 := by
  show (t.count + 1).toNat = t.count.toNat + 1
  rw [UInt64.toNat_add]
  exact Nat.mod_eq_of_lt h

theorem le_hit {t : Tally} (h : t.count.toNat + 1 < UInt64.size) (time : UInt64) :
    t ≤ t.hit time := by
  constructor
  · rw [UInt64.le_iff_toNat_le, toNat_count_hit h]
    omega
  · simp only [hit, UInt64.le_iff_toNat_le, UInt64.toNat_max]
    omega

/-- A tally that meets others is no less. -/
theorem le_foldl_merge (cs : List Tally) (t : Tally) :
    t ≤ cs.foldl (fun live c => c.merge live) t := by
  induction cs generalizing t with
  | nil => exact le_refl t
  | cons c cs ih => exact le_trans (le_merge t c) (ih _)

/-- Tallies that have counted no more leave the count. -/
theorem count_foldl_merge {cs : List Tally} {t : Tally} (h : ∀ c ∈ cs, c.count ≤ t.count) :
    (cs.foldl (fun live c => c.merge live) t).count = t.count := by
  induction cs generalizing t with
  | nil => rfl
  | cons c cs ih =>
    obtain ⟨hc, hcs⟩ := List.forall_mem_cons.1 h
    have hcount : (c.merge t).count = t.count := by
      rw [← UInt64.toNat_inj]
      simp only [merge, UInt64.toNat_max]
      rw [UInt64.le_iff_toNat_le] at hc
      omega
    rw [List.foldl_cons, ih (by rwa [hcount]), hcount]

theorem last_foldl_merge (cs : List Tally) (t : Tally) :
    (cs.foldl (fun live c => c.merge live) t).last = (cs.map (·.last)).foldl max t.last := by
  induction cs generalizing t with
  | nil => rfl
  | cons c cs ih =>
    have hlast : (c.merge t).last = max t.last c.last := by
      rw [← UInt64.toNat_inj]
      simp only [merge, UInt64.toNat_max]
      omega
    rw [List.foldl_cons, ih, hlast]
    rfl

end Tally

/-- The largest of some numbers is one of them, and no less than any. -/
theorem foldl_max_greatest (x : UInt64) (xs : List UInt64) :
    xs.foldl max x ∈ x :: xs ∧ ∀ y ∈ x :: xs, y ≤ xs.foldl max x := by
  induction xs generalizing x with
  | nil => simp
  | cons z xs ih =>
    obtain ⟨hmem, hle⟩ := ih (max x z)
    have hx : x ≤ max x z := by
      rw [UInt64.le_iff_toNat_le, UInt64.toNat_max]
      omega
    have hz : z ≤ max x z := by
      rw [UInt64.le_iff_toNat_le, UInt64.toNat_max]
      omega
    have hmax := hle _ List.mem_cons_self
    constructor
    · rcases List.mem_cons.1 hmem with heq | hlater
      · have hor : max x z = x ∨ max x z = z := by
          rw [← UInt64.toNat_inj, ← UInt64.toNat_inj, UInt64.toNat_max]
          omega
        rw [List.foldl_cons, heq]
        rcases hor with h | h <;> simp [h]
      · exact List.mem_cons_of_mem _ (List.mem_cons_of_mem _ hlater)
    · intro y hy
      rcases List.mem_cons.1 hy with rfl | hy
      · exact UInt64.le_trans hx hmax
      · rcases List.mem_cons.1 hy with rfl | hy
        · exact UInt64.le_trans hz hmax
        · exact hle y (List.mem_cons_of_mem _ hy)

namespace StoreOp

variable {roll : Roll} {id : UInt32} {op : StoreOp} {t : Tally}

/-- The times that a row gets to know in an operation. -/
def times (roll : Roll) (id : UInt32) (op : StoreOp) : List UInt64 :=
  (op.hitTime? roll id).toList ++ (op.carried roll id).map (·.last)

/-- An operation that counts a hit finds room for one more. -/
def HasRoom (roll : Roll) (id : UInt32) (op : StoreOp) (t : Tally) : Prop :=
  (op.hitTime? roll id).isSome → t.count.toNat + 1 < UInt64.size

theorem toNat_count_hitTime (hroom : op.HasRoom roll id t) :
    ((op.hitTime? roll id).elim t t.hit).count.toNat =
      t.count.toNat + (op.hitTime? roll id).toList.length := by
  rw [HasRoom] at hroom
  cases h : op.hitTime? roll id with
  | none => rfl
  | some time =>
    rw [h] at hroom
    exact Tally.toNat_count_hit (hroom rfl) time

theorem le_hitTime (hroom : op.HasRoom roll id t) : t ≤ (op.hitTime? roll id).elim t t.hit := by
  rw [HasRoom] at hroom
  cases h : op.hitTime? roll id with
  | none => exact Tally.le_refl t
  | some time =>
    rw [h] at hroom
    exact Tally.le_hit (hroom rfl) time

theorem le_onTally (hroom : op.HasRoom roll id t) : t ≤ op.onTally roll id t :=
  Tally.le_trans (le_hitTime hroom) (Tally.le_foldl_merge _ _)

/-- Every hit counts. -/
theorem count_le_onTally (hroom : op.HasRoom roll id t) :
    t.count.toNat + (op.hitTime? roll id).toList.length ≤ (op.onTally roll id t).count.toNat := by
  rw [← toNat_count_hitTime hroom]
  exact UInt64.le_iff_toNat_le.1 (Tally.le_foldl_merge _ _).1

/-- Nothing else counts, save for what has counted more. -/
theorem count_onTally (hroom : op.HasRoom roll id t)
    (hmodest : ∀ c ∈ op.carried roll id, c.count ≤ t.count) :
    (op.onTally roll id t).count.toNat = t.count.toNat + (op.hitTime? roll id).toList.length := by
  have hle := (le_hitTime hroom).1
  rw [onTally, Tally.count_foldl_merge fun c hc => UInt64.le_trans (hmodest c hc) hle,
    toNat_count_hitTime hroom]

theorem last_onTally (t : Tally) (op : StoreOp) :
    (op.onTally roll id t).last = (op.times roll id).foldl max t.last := by
  rw [onTally, Tally.last_foldl_merge, times, List.foldl_append]
  cases op.hitTime? roll id <;> rfl

end StoreOp

/-! ## Histories -/

namespace Store

variable {store : Store} {roll : Roll} {id : UInt32} {t : Tally} {ops : List StoreOp}

/-- The store after some operations, done one after the other. -/
def after (store : Store) (ops : List StoreOp) : Store :=
  ops.foldl perform store

/-- Something holds of each operation of a history and the store that it finds. -/
def Throughout (P : Store → StoreOp → Prop) : Store → List StoreOp → Prop
  | _, [] => True
  | store, op :: rest => P store op ∧ Throughout P (store.perform op) rest

/-- No hit finds the count of the row at the largest number. -/
def HasRoom (roll : Roll) (id : UInt32) (store : Store) (op : StoreOp) : Prop :=
  ∀ t, store.tally? roll id = some t → op.HasRoom roll id t

/-- No snapshot has counted more hits of the row than the store. -/
def Leads (roll : Roll) (id : UInt32) (store : Store) (op : StoreOp) : Prop :=
  ∀ t, store.tally? roll id = some t → ∀ c ∈ op.carried roll id, c.count ≤ t.count

/-- The hits of a row that some operations count. -/
def hits (roll : Roll) (id : UInt32) (ops : List StoreOp) : Nat :=
  (ops.filterMap (·.hitTime? roll id)).length

theorem hits_cons (op : StoreOp) (ops : List StoreOp) :
    hits roll id (op :: ops) = (op.hitTime? roll id).toList.length + hits roll id ops := by
  rw [hits, List.filterMap_cons, hits]
  cases op.hitTime? roll id <;> simp [Nat.add_comm]

theorem after_append (store : Store) (a b : List StoreOp) :
    store.after (a ++ b) = (store.after a).after b := by
  rw [after, List.foldl_append, after, after]

theorem throughout_append {P : Store → StoreOp → Prop} {a b : List StoreOp}
    (h : Throughout P store (a ++ b)) : Throughout P store a ∧ Throughout P (store.after a) b := by
  induction a generalizing store with
  | nil => exact ⟨trivial, h⟩
  | cons op rest ih =>
    obtain ⟨hrest, hlater⟩ := ih h.2
    exact ⟨⟨h.1, hrest⟩, hlater⟩

/-- A row that is spared keeps a tally. -/
theorem tally?_after (hspares : ∀ op ∈ ops, op.Spares roll id)
    (hlive : store.tally? roll id = some t) :
    (store.after ops).tally? roll id = some (ops.foldl (StoreOp.onTally roll id) t) := by
  induction ops generalizing store t with
  | nil => exact hlive
  | cons op rest ih =>
    obtain ⟨hop, hrest⟩ := List.forall_mem_cons.1 hspares
    exact ih hrest (tally?_perform op hop hlive)

/-- While there is room, each hit counts, and neither part of the tally goes back. -/
theorem le_tally_after (hspares : ∀ op ∈ ops, op.Spares roll id)
    (hlive : store.tally? roll id = some t) (hroom : Throughout (HasRoom roll id) store ops) :
    t ≤ ops.foldl (StoreOp.onTally roll id) t ∧
      t.count.toNat + hits roll id ops ≤ (ops.foldl (StoreOp.onTally roll id) t).count.toNat := by
  induction ops generalizing store t with
  | nil => exact ⟨Tally.le_refl t, Nat.le_refl _⟩
  | cons op rest ih =>
    obtain ⟨hop, hrest⟩ := List.forall_mem_cons.1 hspares
    have hnow := hroom.1 t hlive
    obtain ⟨hle, hcount⟩ := ih hrest (tally?_perform op hop hlive) hroom.2
    have hstep := StoreOp.count_le_onTally hnow
    refine ⟨Tally.le_trans (StoreOp.le_onTally hnow) hle, ?_⟩
    rw [hits_cons, List.foldl_cons]
    omega

/-- While no snapshot has counted more, only hits count. -/
theorem count_tally_after (hspares : ∀ op ∈ ops, op.Spares roll id)
    (hlive : store.tally? roll id = some t) (hroom : Throughout (HasRoom roll id) store ops)
    (hleads : Throughout (Leads roll id) store ops) :
    (ops.foldl (StoreOp.onTally roll id) t).count.toNat = t.count.toNat + hits roll id ops := by
  induction ops generalizing store t with
  | nil => rfl
  | cons op rest ih =>
    obtain ⟨hop, hrest⟩ := List.forall_mem_cons.1 hspares
    have hstep := StoreOp.count_onTally (hroom.1 t hlive) (hleads.1 t hlive)
    rw [List.foldl_cons, ih hrest (tally?_perform op hop hlive) hroom.2 hleads.2, hstep, hits_cons]
    omega

theorem last_tally_after (t : Tally) (ops : List StoreOp) :
    (ops.foldl (StoreOp.onTally roll id) t).last =
      (ops.flatMap (·.times roll id)).foldl max t.last := by
  induction ops generalizing t with
  | nil => rfl
  | cons op rest ih =>
    rw [List.foldl_cons, ih, StoreOp.last_onTally, List.flatMap_cons, List.foldl_append]

/-- Whatever is done to a store in between, a row that stays in it and in every snapshot loses no
hit: it has counted at least those that it had, and those since, and exactly these unless a
snapshot knew of more.  Its last hit is the latest of all that the store, the snapshots and the
hits tell.  And neither goes back between any two moments. -/
theorem hits_survive (hlive : store.tally? roll id = some t)
    (hspares : ∀ op ∈ ops, op.Spares roll id)
    (hroom : Throughout (HasRoom roll id) store ops) :
    (∃ t', (store.after ops).tally? roll id = some t' ∧
      t.count.toNat + hits roll id ops ≤ t'.count.toNat ∧
      (Throughout (Leads roll id) store ops →
        t'.count.toNat = t.count.toNat + hits roll id ops) ∧
      t'.last ∈ t.last :: ops.flatMap (·.times roll id) ∧
      ∀ time ∈ t.last :: ops.flatMap (·.times roll id), time ≤ t'.last) ∧
    ∀ before between rest, ops = before ++ between ++ rest →
      ∃ a b, (store.after before).tally? roll id = some a ∧
        (store.after (before ++ between)).tally? roll id = some b ∧
        a.count ≤ b.count ∧ a.last ≤ b.last := by
  constructor
  · obtain ⟨hmem, hmost⟩ := foldl_max_greatest t.last (ops.flatMap (·.times roll id))
    rw [← last_tally_after t ops] at hmem hmost
    exact ⟨_, tally?_after hspares hlive, (le_tally_after hspares hlive hroom).2,
      count_tally_after hspares hlive hroom, hmem, hmost⟩
  · rintro before between rest rfl
    rw [List.forall_mem_append, List.forall_mem_append] at hspares
    obtain ⟨⟨hbefore, hbetween⟩, -⟩ := hspares
    have hthen := (throughout_append (throughout_append hroom).1).2
    have ha := tally?_after hbefore hlive
    have hle := (le_tally_after hbetween ha hthen).1
    rw [after_append]
    exact ⟨_, _, ha, tally?_after hbetween ha, hle.1, hle.2⟩

/-- A blacklist row that is known by its tally. -/
def countedRow (count last : UInt64) : BlockRow where
  id := 7
  ip := ""
  disabled := false
  tally := ⟨count, last⟩
  description := ""
  details := {}

def countedStore : Store where
  blacklist := ⟨[countedRow 3 40], .cons nofun .nil⟩

/-- Two hits of a row, and between them a snapshot that lists the row twice. -/
def busyDay : List StoreOp :=
  [.count (.block 7 50), .apply { blacklist := [countedRow 2 90, countedRow 4 10] },
    .setDisabled .blacklist 7 true, .count (.block 7 60)]

theorem hits_survive_busyDay :
    countedStore.tally? .blacklist 7 = some ⟨3, 40⟩ ∧
    (∀ op ∈ busyDay, op.Spares .blacklist 7) ∧
    Throughout (HasRoom .blacklist 7) countedStore busyDay ∧
    Throughout (Leads .blacklist 7) countedStore busyDay ∧
    ∃ t, (countedStore.after busyDay).tally? .blacklist 7 = some t ∧ t.count.toNat = 3 + 2 ∧
      ∀ time ∈ [40, 50, 90, 10, 60], time ≤ t.last := by
  have hspares : ∀ op ∈ busyDay, op.Spares .blacklist 7 := by
    simp [busyDay, StoreOp.Spares, Snapshot.tallies, talliesOf, countedRow]
  have hroom : Throughout (HasRoom .blacklist 7) countedStore busyDay := by
    refine ⟨?_, ?_, ?_, ?_, trivial⟩ <;> rintro t ⟨⟩ <;> unfold StoreOp.HasRoom <;> decide
  have hleads : Throughout (Leads .blacklist 7) countedStore busyDay := by
    refine ⟨?_, ?_, ?_, ?_, trivial⟩ <;> rintro t ⟨⟩ <;> decide
  obtain ⟨⟨t, hlive, -, hcount, -, hlast⟩, -⟩ :=
    hits_survive (t := ⟨3, 40⟩) rfl hspares hroom
  exact ⟨rfl, hspares, hroom, hleads, t, hlive, hcount hleads, hlast⟩

end Store

end Portcullis
