import Portcullis.Counter.Update
import Portcullis.Proofs.Keys
import Portcullis.Proofs.Store.Contents

/-!
# Operations on a live store

Everything that is done to a store while it runs, as data, so that histories are lists.

* `StoreOp` is an operation on a store and `ListOp` one on an access list.  What an operation of the
  store does to each access list is an operation on that list, or nothing
  (`Store.blacklist_perform`, `Store.whitelist_perform`).
* `Table.get?_insert`, `AccessList.get?_change` and `AccessList.get?_merge` say which row an id
  has after a row was put in place of another.
-/

namespace Portcullis

/-! ## Tables by id -/

namespace Table

variable {ρ : Type} [Row ρ] {t u : Table ρ} {r : ρ} {id : UInt32}

theorem get?_eq_some_iff : t.get? id = some r ↔ r ∈ t.rows ∧ Row.id r = id :=
  find?_key_eq_some_iff t.nodup_ids

theorem id_of_get? (h : t.get? id = some r) : Row.id r = id :=
  (get?_eq_some_iff.1 h).2

theorem isSome_get?_iff : (t.get? id).isSome ↔ ∃ r ∈ t.rows, Row.id r = id := by
  simp only [Option.isSome_iff_exists, get?_eq_some_iff]

/-- Two tables are the same where each id has the same row in both. -/
theorem eq_of_get? (h : ∀ id, t.get? id = u.get? id) : t = u := by
  apply eq_of_perm
  apply perm_of_mem_iff t.nodup_ids u.nodup_ids
  intro r
  have hrow : t.get? (Row.id r) = some r ↔ u.get? (Row.id r) = some r := by
    rw [h]
  simpa [get?_eq_some_iff] using hrow

theorem get?_insert (t : Table ρ) (r : ρ) (id : UInt32) :
    (t.insert r).get? id = if id = Row.id r then some r else t.get? id := by
  ext x
  rw [get?_eq_some_iff, mem_insert]
  split
  · next heq =>
    constructor
    · rintro ⟨rfl | ⟨-, hne⟩, hid⟩
      · rfl
      · exact absurd (hid.trans heq) hne
    · rintro ⟨⟩
      exact ⟨.inl rfl, heq.symm⟩
  · next hne =>
    rw [get?_eq_some_iff]
    constructor
    · rintro ⟨rfl | ⟨hx, -⟩, hid⟩
      · exact absurd hid.symm hne
      · exact ⟨hx, hid⟩
    · rintro ⟨hx, hid⟩
      exact ⟨.inr ⟨hx, fun h => hne (hid.symm.trans h)⟩, hid⟩

/-- A filter by id keeps rows or takes them away. -/
theorem get?_filter (t : Table ρ) {keep : ρ → Bool} (kept : UInt32 → Bool)
    (hkeep : ∀ r, keep r = kept (Row.id r)) (id : UInt32) :
    (t.filter keep).get? id = if kept id then t.get? id else none := by
  ext r
  rw [get?_eq_some_iff, filter, List.mem_filter, hkeep]
  split
  · next hid =>
    rw [get?_eq_some_iff]
    constructor
    · rintro ⟨⟨hr, -⟩, heq⟩
      exact ⟨hr, heq⟩
    · rintro ⟨hr, heq⟩
      exact ⟨⟨hr, heq ▸ hid⟩, heq⟩
  · next hid =>
    constructor
    · rintro ⟨⟨-, hk⟩, heq⟩
      exact absurd (heq ▸ hk) hid
    · rintro ⟨⟩

theorem get?_erase (t : Table ρ) (gone id : UInt32) :
    (t.erase gone).get? id = if id = gone then none else t.get? id := by
  rw [erase, get?_filter t (· != gone) fun _ => rfl]
  by_cases h : id = gone <;> simp [h]

/-- A row that is there already changes nothing. -/
theorem insert_of_get? (h : t.get? (Row.id r) = some r) : t.insert r = t := by
  apply eq_of_get?
  intro id
  rw [get?_insert]
  split
  · next heq => rw [heq, h]
  · rfl

/-- A table is made of its own rows. -/
theorem ofList_rows (t : Table ρ) : ofList t.rows = t := by
  apply eq_of_perm
  apply perm_of_mem_iff (nodup_ids _) t.nodup_ids
  intro r
  rw [ofList, mem_foldl_put Table.rows mem_insert t.nodup_ids]
  simp [empty]

end Table

/-- The last row of an id. -/
def lastRow? {ρ : Type} [Row ρ] (rows : List ρ) (id : UInt32) : Option ρ :=
  rows.reverse.find? (Row.id · == id)

/-- Of the rows that a table is made of, the last of an id stays. -/
theorem Table.get?_ofList {ρ : Type} [Row ρ] (rows : List ρ) (id : UInt32) :
    (ofList rows).get? id = lastRow? rows id := by
  induction rows using List.reverseRecOn with
  | nil => rfl
  | append_singleton rows r ih =>
    have hsnoc : ofList (rows ++ [r]) = (ofList rows).insert r := by
      rw [ofList, List.foldl_append]
      rfl
    rw [hsnoc, get?_insert, ih, lastRow?, lastRow?, List.reverse_append, List.reverse_singleton,
      List.singleton_append, List.find?_cons]
    by_cases h : Row.id r = id
    · simp [h]
    · have hne : (Row.id r == id) = false := beq_false_of_ne h
      rw [hne, if_neg (Ne.symm h)]

/-! ## Access lists by id -/

theorem AccessRow.rowId_canonical {ε : Type} (r : AccessRow ε) : Row.id r.canonical = r.id := by
  rw [canonical]
  rfl

namespace AccessList

variable {ε : Type} {list : AccessList ε}

/-- What the row of an id has counted. -/
def tally? (list : AccessList ε) (id : UInt32) : Option Tally :=
  (list.get? id).map (·.tally)

theorem get?_enter (list : AccessList ε) (r : AccessRow ε) (id : UInt32) :
    (list.enter r).get? id = if id = r.id then some r.canonical else list.get? id := by
  rw [enter, Table.get?_insert, AccessRow.rowId_canonical]

theorem get?_change (list : AccessList ε) (id : UInt32) (f : AccessRow ε → AccessRow ε)
    (i : UInt32) : (list.change id f).2.get? i =
      if i = id then (list.get? id).map fun r => { f r with id := r.id } else list.get? i := by
  cases h : list.get? id with
  | none =>
    have hsame : (list.change id f).2 = list := by rw [change, h]
    rw [hsame]
    by_cases heq : i = id
    · rw [if_pos heq, heq, h]
      rfl
    · rw [if_neg heq]
  | some r =>
    have hchange : (list.change id f).2 = list.insert { f r with id := r.id } := by
      rw [change, h]
    have hid : Row.id r = id := Table.id_of_get? h
    have hkept : Row.id { f r with id := r.id } = Row.id r := rfl
    rw [hchange, Table.get?_insert, hkept, hid]
    rfl

/-- What is counted of a row that meets the one held under its id. -/
def merged (list : AccessList ε) (r : AccessRow ε) : Tally :=
  (list.tally? r.id).elim r.tally r.tally.merge

theorem merge_eq (list : AccessList ε) (r : AccessRow ε) :
    list.merge r = list.enter { r with tally := list.merged r } := by
  rw [merge, merged, tally?]
  cases list.get? r.id <;> rfl

theorem get?_merge (list : AccessList ε) (r : AccessRow ε) (id : UInt32) :
    (list.merge r).get? id =
      if id = r.id then some { r.canonical with tally := list.merged r } else list.get? id := by
  rw [merge_eq, get?_enter, AccessRow.canonical, AccessRow.canonical]

theorem get?_keepListed (list : AccessList ε) (rows : List (AccessRow ε)) (id : UInt32) :
    Table.get? (list.filter fun r => rows.any (·.id == r.id)) id =
      if rows.any (·.id == id) then list.get? id else none :=
  Table.get?_filter list (fun id => rows.any (·.id == id)) (fun _ => rfl) id

theorem isSome_get?_change (list : AccessList ε) (id : UInt32) (f : AccessRow ε → AccessRow ε)
    (i : UInt32) : ((list.change id f).2.get? i).isSome = (list.get? i).isSome := by
  rw [get?_change]
  split
  · next heq => rw [Option.isSome_map, heq]
  · rfl

theorem isSome_get?_foldl_merge (rows : List (AccessRow ε)) (list : AccessList ε) (id : UInt32) :
    ((rows.foldl merge list).get? id).isSome =
      (rows.any (·.id == id) || (list.get? id).isSome) := by
  induction rows generalizing list with
  | nil => rfl
  | cons r rows ih =>
    rw [List.foldl_cons, ih, get?_merge, List.any_cons]
    by_cases h : id = r.id
    · simp [h]
    · have hne : (r.id == id) = false := beq_false_of_ne (Ne.symm h)
      rw [if_neg h, hne, Bool.false_or]

/-- The rows of a snapshot are there, and no others. -/
theorem isSome_get?_replace (list : AccessList ε) (rows : List (AccessRow ε)) (id : UInt32) :
    ((list.replace rows).get? id).isSome = rows.any (·.id == id) := by
  rw [replace, isSome_get?_foldl_merge, get?_keepListed]
  cases h : rows.any (·.id == id) <;> rfl

end AccessList

/-! ## Operations -/

/-- One of the two access lists. -/
inductive Roll where
  | blacklist
  | whitelist
  deriving DecidableEq, Repr

/-- What is done to an access list. -/
inductive ListOp (ε : Type) where
  | enter (row : AccessRow ε)
  | erase (id : UInt32)
  | setDisabled (id : UInt32) (disabled : Bool)
  | hit (id : UInt32) (time : UInt64)
  | replace (rows : List (AccessRow ε))

def AccessList.perform {ε : Type} (list : AccessList ε) : ListOp ε → AccessList ε
  | .enter r => list.enter r
  | .erase id => list.erase id
  | .setDisabled id disabled => (list.setDisabled id disabled).2
  | .hit id time => (list.hit id time).2
  | .replace rows => list.replace rows

/-- What is done to a store. -/
inductive StoreOp where
  | upsert (row : RoutingRow)
  | removeDomain (id : UInt32)
  | insertBlacklist (row : BlockRow)
  | insertWhitelist (row : AllowRow)
  | setDisabled (roll : Roll) (id : UInt32) (disabled : Bool)
  | removeWhitelist (id : UInt32)
  | count (u : CounterUpdate)
  | apply (s : Snapshot)

namespace StoreOp

def onBlacklist : StoreOp → Option (ListOp BlockDetails)
  | insertBlacklist r => some (.enter r)
  | setDisabled .blacklist id disabled => some (.setDisabled id disabled)
  | count (.block id time) => some (.hit id time)
  | apply s => some (.replace s.blacklist)
  | _ => none

def onWhitelist : StoreOp → Option (ListOp Unit)
  | insertWhitelist r => some (.enter r)
  | setDisabled .whitelist id disabled => some (.setDisabled id disabled)
  | removeWhitelist id => some (.erase id)
  | count (.access id time) => some (.hit id time)
  | apply s => some (.replace s.whitelist)
  | _ => none

/-- Whether an operation writes the routing tables. -/
def onRouting : StoreOp → Bool
  | upsert _ | removeDomain _ | apply _ => true
  | _ => false

end StoreOp

namespace Store

def perform (store : Store) : StoreOp → Store
  | .upsert row => store.upsert row
  | .removeDomain id => store.removeDomain id
  | .insertBlacklist r => store.insertBlacklist r
  | .insertWhitelist r => store.insertWhitelist r
  | .setDisabled .blacklist id disabled => (store.setBlacklistDisabled id disabled).2
  | .setDisabled .whitelist id disabled => (store.setWhitelistDisabled id disabled).2
  | .removeWhitelist id => (store.removeWhitelist id).2
  | .count u => (u.apply store).2
  | .apply s => store.apply s

/-- What the row of an id on one of the lists has counted. -/
def tally? (store : Store) : Roll → UInt32 → Option Tally
  | .blacklist, id => store.blacklist.tally? id
  | .whitelist, id => store.whitelist.tally? id

theorem snd_countBlock (store : Store) (id : UInt32) (time : UInt64) :
    (store.countBlock id time).2 = { store with blacklist := (store.blacklist.hit id time).2 } := by
  rw [countBlock, AccessList.hit, AccessList.change]
  cases store.blacklist.get? id <;> rfl

theorem snd_countAccess (store : Store) (id : UInt32) (time : UInt64) :
    (store.countAccess id time).2 =
      { store with whitelist := (store.whitelist.hit id time).2 } := by
  rw [countAccess, AccessList.hit, AccessList.change]
  cases store.whitelist.get? id <;> rfl

/-- What an operation does to the blacklist. -/
theorem blacklist_perform (store : Store) (op : StoreOp) :
    (store.perform op).blacklist =
      op.onBlacklist.elim store.blacklist store.blacklist.perform := by
  cases op with
  | upsert row => cases row <;> rfl
  | setDisabled roll id disabled => cases roll <;> rfl
  | count u =>
    cases u with
    | block id time =>
      show (store.countBlock id time).2.blacklist = _
      rw [snd_countBlock]
      rfl
    | access id time =>
      show (store.countAccess id time).2.blacklist = _
      rw [snd_countAccess]
      rfl
  | _ => rfl

/-- What an operation does to the whitelist. -/
theorem whitelist_perform (store : Store) (op : StoreOp) :
    (store.perform op).whitelist =
      op.onWhitelist.elim store.whitelist store.whitelist.perform := by
  cases op with
  | upsert row => cases row <;> rfl
  | setDisabled roll id disabled => cases roll <;> rfl
  | count u =>
    cases u with
    | block id time =>
      show (store.countBlock id time).2.whitelist = _
      rw [snd_countBlock]
      rfl
    | access id time =>
      show (store.countAccess id time).2.whitelist = _
      rw [snd_countAccess]
      rfl
  | _ => rfl

/-- An operation on an access list leaves the routing tables as they are. -/
theorem routing_perform (store : Store) {op : StoreOp} (h : op.onRouting = false) :
    (store.perform op).routing = store.routing := by
  cases op with
  | upsert | removeDomain | apply => cases h
  | setDisabled roll id disabled => cases roll <;> rfl
  | count u =>
    cases u with
    | block id time =>
      show (store.countBlock id time).2.routing = _
      rw [snd_countBlock]
    | access id time =>
      show (store.countAccess id time).2.routing = _
      rw [snd_countAccess]
  | _ => rfl

end Store

end Portcullis
