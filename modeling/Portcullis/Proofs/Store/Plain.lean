import Portcullis.Proofs.Store.Operations

/-!
# Stores without their tallies

What a store is apart from what it has counted.

* `Store.plain` and `StoreOp.plain` leave the tallies out; of an operation that only counts nothing
  is left.
* `Store.plain_perform` says that what an operation makes of a store does not depend on tallies,
  apart from the tallies that it makes.  This needs that rows with the same id, whatever they have
  counted, stand in the same place (`Table.map_insertRow`), and that a snapshot that is merged and
  rows that enter differ in tallies only (`AccessList.plain_replace`).
-/

namespace Portcullis

/-- Changing rows and leaving their ids does not change where a row belongs. -/
theorem Table.map_insertRow {ρ : Type} [Row ρ] {f : ρ → ρ} (hf : ∀ r, Row.id (f r) = Row.id r)
    (r : ρ) (rows : List ρ) : (insertRow r rows).map f = insertRow (f r) (rows.map f) := by
  induction rows with
  | nil => rfl
  | cons x xs ih =>
    rw [insertRow, List.map_cons, insertRow, hf, hf]
    split
    · rfl
    · split
      · rw [List.map_cons, ih]
      · rfl

/-! ## Rows and lists -/

/-- A row without its tally. -/
def AccessRow.plain {ε : Type} (r : AccessRow ε) : AccessRow ε :=
  { r with tally := {} }

@[simp] theorem AccessRow.plain_plain {ε : Type} (r : AccessRow ε) : r.plain.plain = r.plain :=
  rfl

theorem AccessRow.plain_canonical {ε : Type} (r : AccessRow ε) :
    r.canonical.plain = r.plain.canonical := by
  simp only [plain, canonical]

namespace AccessList

variable {ε : Type} (list : AccessList ε)

/-- A list without the tallies of its rows. -/
def plain : AccessList ε :=
  ⟨list.rows.map AccessRow.plain, List.pairwise_map.2 list.ordered⟩

@[simp] theorem plain_plain : list.plain.plain = list.plain := by
  have hcomp : AccessRow.plain ∘ AccessRow.plain = (AccessRow.plain : AccessRow ε → _) := rfl
  simp only [plain, List.map_map, hcomp]

theorem plain_insert (r : AccessRow ε) :
    plain (list.insert r) = Table.insert list.plain r.plain := by
  simp only [plain, Table.insert, Table.map_insertRow (f := AccessRow.plain) fun _ => rfl]

theorem plain_enter (r : AccessRow ε) : (list.enter r).plain = list.plain.enter r.plain := by
  rw [enter, plain_insert, AccessRow.plain_canonical, enter]

/-- A filter by id does not see tallies. -/
theorem plain_filter {keep : AccessRow ε → Bool} (hkeep : ∀ r, keep r.plain = keep r) :
    plain (list.filter keep) = Table.filter list.plain keep := by
  have hcomp : keep ∘ AccessRow.plain = keep := funext hkeep
  simp only [plain, Table.filter, List.filter_map, hcomp]

theorem get?_plain (id : UInt32) : list.plain.get? id = (list.get? id).map AccessRow.plain := by
  rw [Table.get?, Table.get?, plain, List.find?_map]
  rfl

/-- A search by address does not see tallies. -/
theorem find?_plain (ip : String) : list.plain.find? ip = (list.find? ip).map AccessRow.plain := by
  rw [find?, find?, plain, List.find?_map]
  rfl

/-- A hit is all tally. -/
theorem plain_hit (id : UInt32) (time : UInt64) : (list.hit id time).2.plain = list.plain := by
  rw [hit, change]
  cases h : list.get? id with
  | none => rfl
  | some r =>
    have hid : r.id = id := Table.id_of_get? h
    have hrow : list.plain.get? r.id = some r.plain := by
      rw [get?_plain, hid, h]
      rfl
    show plain (list.insert _) = _
    rw [plain_insert]
    exact Table.insert_of_get? hrow

theorem plain_setDisabled (id : UInt32) (disabled : Bool) :
    (list.setDisabled id disabled).2.plain = (list.plain.setDisabled id disabled).2 := by
  rw [setDisabled, setDisabled, change, change, get?_plain]
  cases list.get? id with
  | none => rfl
  | some r => exact plain_insert list _

/-- A row that is merged enters, apart from its tally. -/
theorem plain_merge (r : AccessRow ε) : (list.merge r).plain = list.plain.enter r.plain := by
  rw [merge_eq, plain_enter]
  rfl

/-- A snapshot is entered, apart from the tallies. -/
theorem plain_replace (rows : List (AccessRow ε)) :
    (list.replace rows).plain =
      (rows.map AccessRow.plain).foldl enter
        (Table.filter list.plain fun r => rows.any (·.id == r.id)) := by
  have hfold : ∀ (rows : List (AccessRow ε)) (into : AccessList ε),
      plain (rows.foldl merge into) = (rows.map AccessRow.plain).foldl enter into.plain := by
    intro rows
    induction rows with
    | nil =>
      intro into
      rw [List.foldl_nil, List.map_nil, List.foldl_nil]
    | cons r rest ih =>
      intro into
      rw [List.foldl_cons, ih, plain_merge, List.map_cons, List.foldl_cons]
  rw [replace, hfold, plain_filter list fun _ => rfl]

theorem plain_replace_plain (rows : List (AccessRow ε)) :
    (list.plain.replace (rows.map AccessRow.plain)).plain = (list.replace rows).plain := by
  have hcomp : AccessRow.plain ∘ AccessRow.plain = (AccessRow.plain : AccessRow ε → _) := rfl
  have hlisted : (fun r : AccessRow ε => (rows.map AccessRow.plain).any (·.id == r.id)) =
      fun r => rows.any (·.id == r.id) := by
    funext r
    rw [List.any_map]
    rfl
  rw [plain_replace, plain_replace, plain_plain, List.map_map, hcomp, hlisted]

theorem plain_erase (id : UInt32) : plain (list.erase id) = Table.erase list.plain id :=
  plain_filter list fun _ => rfl

end AccessList

/-! ## Operations -/

/-- A snapshot without tallies. -/
def Snapshot.plain (s : Snapshot) : Snapshot :=
  { s with
    blacklist := s.blacklist.map AccessRow.plain
    whitelist := s.whitelist.map AccessRow.plain }

/-- What an operation does apart from tallies, if it does anything. -/
def StoreOp.plain : StoreOp → Option StoreOp
  | insertBlacklist r => some (insertBlacklist r.plain)
  | insertWhitelist r => some (insertWhitelist r.plain)
  | count _ => none
  | apply s => some (apply s.plain)
  | op => some op

namespace Store

/-- A store without tallies. -/
def plain (store : Store) : Store :=
  { store with
    blacklist := store.blacklist.plain
    whitelist := store.whitelist.plain }

/-- Counting leaves all but tallies. -/
theorem plain_count (store : Store) (u : CounterUpdate) :
    (u.apply store).2.plain = store.plain := by
  cases u with
  | block id time =>
    show (store.countBlock id time).2.plain = _
    rw [snd_countBlock, plain, plain, AccessList.plain_hit]
  | access id time =>
    show (store.countAccess id time).2.plain = _
    rw [snd_countAccess, plain, plain, AccessList.plain_hit]

/-- What an operation makes of a store does not depend on tallies, apart from tallies. -/
theorem plain_perform {op o : StoreOp} (h : op.plain = some o) (store : Store) :
    (store.perform op).plain = (store.plain.perform o).plain := by
  cases op with
  | upsert row =>
    cases h
    cases row <;> simp [perform, plain, upsert, upsertListener, upsertDomain, upsertStreamRoute,
      upsertHttpRoute, upsertSshPort, onRouting]
  | removeDomain id =>
    cases h
    simp [perform, plain, removeDomain, onRouting]
  | insertBlacklist r =>
    cases h
    simp [perform, plain, insertBlacklist, AccessList.plain_enter]
  | insertWhitelist r =>
    cases h
    simp [perform, plain, insertWhitelist, AccessList.plain_enter]
  | setDisabled roll id disabled =>
    cases h
    cases roll with
    | blacklist => simp [perform, plain, setBlacklistDisabled, AccessList.plain_setDisabled]
    | whitelist => simp [perform, plain, setWhitelistDisabled, AccessList.plain_setDisabled]
  | removeWhitelist id =>
    cases h
    simp [perform, plain, removeWhitelist, AccessList.plain_erase]
  | count u => cases h
  | apply s =>
    cases h
    simp [perform, plain, apply, Snapshot.plain, Snapshot.routing, AccessList.plain_replace_plain]

end Store

end Portcullis
