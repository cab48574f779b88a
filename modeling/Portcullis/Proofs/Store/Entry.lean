import Portcullis.Proofs.Store.Lossless

/-!
# How rows enter

A row enters an access list with the snapshot that a store is made of, by itself, or with a snapshot
that a live store takes over.  What is stored under its id afterwards is the row with its address
in canonical form, whichever way it came (`Store.Entered.get?_list`).  A row that is stored already
stays as it is when it enters again.
-/

namespace Portcullis

/-! ## Rows -/

namespace AccessRow

variable {ε : Type}

theorem ip_canonical (r : AccessRow ε) : r.canonical.ip = (Net.canonical? r.ip).getD r.ip := by
  rw [canonical]

theorem disabled_canonical (r : AccessRow ε) : r.canonical.disabled = r.disabled := by
  rw [canonical]

theorem canonical_withTally (r : AccessRow ε) (tally : Tally) :
    canonical { r with tally := tally } = { r.canonical with tally := tally } := by
  simp only [canonical]

end AccessRow

/-! ## Lists -/

namespace AccessList

variable {ε : Type} {list : AccessList ε} {r : AccessRow ε}

theorem get?_merge_self (list : AccessList ε) (r : AccessRow ε) :
    (list.merge r).get? r.id = some { r.canonical with tally := list.merged r } := by
  rw [get?_merge, if_pos rfl]

/-- Rows of other ids leave a row alone. -/
theorem get?_foldl_of_ne {put : AccessList ε → AccessRow ε → AccessList ε} {id : UInt32}
    (hput : ∀ list x, id ≠ AccessRow.id x → (put list x).get? id = Table.get? list id)
    {rows : List (AccessRow ε)} (hne : ∀ x ∈ rows, x.id ≠ id) (list : AccessList ε) :
    (rows.foldl put list).get? id = list.get? id := by
  induction rows generalizing list with
  | nil => rfl
  | cons x rest ih =>
    obtain ⟨hx, hrest⟩ := List.forall_mem_cons.1 hne
    rw [List.foldl_cons, ih hrest, hput list x (Ne.symm hx)]

theorem get?_foldl_enter_of_ne {rows : List (AccessRow ε)} {id : UInt32}
    (hne : ∀ x ∈ rows, x.id ≠ id) (list : AccessList ε) :
    (rows.foldl enter list).get? id = list.get? id :=
  get?_foldl_of_ne (fun list x h => by rw [get?_enter, if_neg h]) hne list

theorem get?_foldl_merge_of_ne {rows : List (AccessRow ε)} {id : UInt32}
    (hne : ∀ x ∈ rows, x.id ≠ id) (list : AccessList ε) :
    (rows.foldl merge list).get? id = list.get? id :=
  get?_foldl_of_ne (fun list x h => by rw [get?_merge, if_neg h]) hne list

/-- Of the rows that a list is made of, the last of an id stays. -/
theorem get?_ofRows {before after : List (AccessRow ε)} (hlast : ∀ x ∈ after, x.id ≠ r.id) :
    (ofRows (before ++ r :: after)).get? r.id = some r.canonical := by
  rw [ofRows, List.foldl_append, List.foldl_cons, get?_foldl_enter_of_ne hlast, get?_enter,
    if_pos rfl]

/-- Of the rows that a list takes over, the last of an id stays, but for its tally. -/
theorem get?_replace {before after : List (AccessRow ε)} (hlast : ∀ x ∈ after, x.id ≠ r.id)
    (list : AccessList ε) :
    ∃ tally, (list.replace (before ++ r :: after)).get? r.id =
      some { r.canonical with tally := tally } := by
  rw [replace, List.foldl_append, List.foldl_cons, get?_foldl_merge_of_ne hlast, get?_merge_self]
  exact ⟨_, rfl⟩

/-- If a list takes over one row of an id, that row stays, with what it meets of its id. -/
theorem get?_replace_of_only {before after : List (AccessRow ε)}
    (hother : ∀ x ∈ before ++ after, x.id ≠ r.id) (list : AccessList ε) :
    (list.replace (before ++ r :: after)).get? r.id =
      some { r.canonical with tally := list.merged r } := by
  obtain ⟨hbefore, hafter⟩ := List.forall_mem_append.1 hother
  have hlisted : ((before ++ r :: after).any (·.id == r.id)) = true := by simp
  rw [replace, List.foldl_append, List.foldl_cons, get?_foldl_merge_of_ne hafter, get?_merge_self,
    merged, tally?, get?_foldl_merge_of_ne hbefore, get?_keepListed, if_pos hlisted, merged, tally?]

/-- A row that is there and that is taken over stays as it is. -/
theorem get?_replace_self (hcanonical : r.canonical = r) (hr : list.get? r.id = some r)
    {before after : List (AccessRow ε)} (hother : ∀ x ∈ before ++ after, x.id ≠ r.id) :
    (list.replace (before ++ r :: after)).get? r.id = some r := by
  rw [get?_replace_of_only hother, merged, tally?, hr, hcanonical]
  show some { r with tally := r.tally.merge r.tally } = some r
  rw [Tally.merge_self]

/-- A row that is there and enters again changes nothing. -/
theorem enter_self (hcanonical : r.canonical = r) (hr : list.get? r.id = some r) :
    list.enter r = list := by
  rw [enter, hcanonical]
  exact Table.insert_of_get? hr

end AccessList

/-! ## Stores -/

/-- What the rows of a list hold besides. -/
def Roll.Details : Roll → Type
  | .blacklist => BlockDetails
  | .whitelist => Unit

namespace Store

def list (store : Store) : (roll : Roll) → AccessList roll.Details
  | .blacklist => store.blacklist
  | .whitelist => store.whitelist

/-- Enters a row. -/
def insert (store : Store) : (roll : Roll) → AccessRow roll.Details → Store
  | .blacklist, r => store.insertBlacklist r
  | .whitelist, r => store.insertWhitelist r

end Store

/-- The rows of a list in a snapshot. -/
def Snapshot.rows (s : Snapshot) : (roll : Roll) → List (AccessRow roll.Details)
  | .blacklist => s.blacklist
  | .whitelist => s.whitelist

namespace Store

variable {store : Store} {roll : Roll} {r : AccessRow roll.Details}

theorem list_ofSnapshot (s : Snapshot) (path : Option String) (roll : Roll) :
    (ofSnapshot s path).list roll = .ofRows (s.rows roll) := by
  cases roll <;> rfl

theorem list_insert (store : Store) (r : AccessRow roll.Details) :
    (store.insert roll r).list roll = (store.list roll).enter r := by
  cases roll <;> rfl

theorem list_apply (store : Store) (s : Snapshot) (roll : Roll) :
    (store.apply s).list roll = (store.list roll).replace (s.rows roll) := by
  cases roll <;> rfl

/-- A row that leaves its list alone leaves the store alone. -/
theorem insert_eq_self (h : (store.list roll).enter r = store.list roll) :
    store.insert roll r = store := by
  cases roll with
  | blacklist => exact congrArg (fun list => { store with blacklist := list }) h
  | whitelist => exact congrArg (fun list => { store with whitelist := list }) h

/-- A row has just entered a list, with or without others. -/
inductive Entered (roll : Roll) (r : AccessRow roll.Details) : Store → Prop where
  | ofSnapshot (s : Snapshot) (path : Option String) {before after : List (AccessRow roll.Details)}
      (hrows : s.rows roll = before ++ r :: after) (hlast : ∀ x ∈ after, x.id ≠ r.id) :
      Entered roll r (.ofSnapshot s path)
  | insert (store : Store) : Entered roll r (store.insert roll r)
  | apply (store : Store) (s : Snapshot) {before after : List (AccessRow roll.Details)}
      (hrows : s.rows roll = before ++ r :: after) (hlast : ∀ x ∈ after, x.id ≠ r.id) :
      Entered roll r (store.apply s)

/-- Whichever way a row has entered, it is there in canonical form. -/
theorem Entered.get?_list (h : store.Entered roll r) :
    ∃ tally, (store.list roll).get? r.id = some { r.canonical with tally := tally } := by
  cases h with
  | ofSnapshot s path hrows hlast =>
    rw [list_ofSnapshot, hrows, AccessList.get?_ofRows hlast]
    generalize r.canonical = stored
    exact ⟨stored.tally, rfl⟩
  | insert store =>
    rw [list_insert, AccessList.get?_enter, if_pos rfl]
    generalize r.canonical = stored
    exact ⟨stored.tally, rfl⟩
  | apply store s hrows hlast =>
    rw [list_apply, hrows]
    exact AccessList.get?_replace hlast (store.list roll)

/-- A row that is stored already and enters again stays as it is. -/
structure Keeps (store : Store) (roll : Roll) (x : AccessRow roll.Details) : Prop where
  ofSnapshot : ∀ (s : Snapshot) (path : Option String)
    (before after : List (AccessRow roll.Details)),
    s.rows roll = before ++ x :: after → (∀ y ∈ after, y.id ≠ x.id) →
      ((Store.ofSnapshot s path).list roll).get? x.id = some x
  insert : store.insert roll x = store
  apply : ∀ (s : Snapshot) (before after : List (AccessRow roll.Details)),
    s.rows roll = before ++ x :: after → (∀ y ∈ before ++ after, y.id ≠ x.id) →
      ((store.apply s).list roll).get? x.id = some x

theorem keeps_of_canonical {x : AccessRow roll.Details} (hcanonical : x.canonical = x)
    (hx : (store.list roll).get? x.id = some x) : store.Keeps roll x where
  ofSnapshot s path before after hrows hlast := by
    rw [list_ofSnapshot, hrows, AccessList.get?_ofRows hlast, hcanonical]
  insert := insert_eq_self (AccessList.enter_self hcanonical hx)
  apply s before after hrows hother := by
    rw [list_apply, hrows]
    exact AccessList.get?_replace_self hcanonical hx hother

end Store

end Portcullis
