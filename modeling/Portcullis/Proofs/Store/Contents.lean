import Mathlib.Data.List.Nodup
import Portcullis.Store.Basic

/-!
# What the routing tables hold

Routing rows can reach a store in many orders: as the arrays of a snapshot, or one upsert after
the other.  This module compares what the tables hold without regard to the order.

* `Snapshot.SameRouting` says that the routing tables of two snapshots list the same rows, and
  `Snapshot.DistinctIds` that no table has two rows with one id.
* `Table.eq_of_perm`: a table is told by the set of its rows.
* `mem_foldl_put` says what is left after rows were put in place of those with their ids, one
  after the other.  `foldl_insert_eq_of_perm` and `foldl_upsert_perm` say that their order leaves
  no trace.
* `Store.sameRouting_ofSnapshot` and `Store.sameRouting_upserts` say so of whole stores.
-/

namespace Portcullis

variable {ρ : Type} [Row ρ]

/-! ## The same rows -/

namespace Snapshot

/-- The routing tables list the same rows, each in any order. -/
structure SameRouting (s t : Snapshot) : Prop where
  listeners : s.listeners.Perm t.listeners
  domains : s.domains.Perm t.domains
  streamRoutes : s.streamRoutes.Perm t.streamRoutes
  httpRoutes : s.httpRoutes.Perm t.httpRoutes
  sshPorts : s.sshPorts.Perm t.sshPorts

/-- No routing table lists two rows with one id. -/
structure DistinctIds (s : Snapshot) : Prop where
  listeners : (s.listeners.map Row.id).Nodup
  domains : (s.domains.map Row.id).Nodup
  streamRoutes : (s.streamRoutes.map Row.id).Nodup
  httpRoutes : (s.httpRoutes.map Row.id).Nodup
  sshPorts : (s.sshPorts.map Row.id).Nodup

end Snapshot

/-- Where ids are distinct the order of rows is all that two lists can differ in. -/
theorem perm_of_mem_iff {as bs : List ρ} (ha : (as.map Row.id).Nodup)
    (hb : (bs.map Row.id).Nodup) (h : ∀ x, x ∈ as ↔ x ∈ bs) : as.Perm bs :=
  (List.perm_ext_iff_of_nodup (List.Nodup.of_map _ ha) (List.Nodup.of_map _ hb)).2 h

namespace Table

/-- No table has two rows with one id. -/
theorem nodup_ids (t : Table ρ) : (t.rows.map Row.id).Nodup := by
  rw [List.Nodup, List.pairwise_map]
  exact t.ordered.imp UInt32.ne_of_lt

/-- Two tables that hold the same rows are the same. -/
theorem eq_of_perm {t u : Table ρ} (h : t.rows.Perm u.rows) : t = u := by
  have hrows : t.rows = u.rows := by
    refine h.eq_of_pairwise (fun a b _ _ hab hba => ?_) t.ordered u.ordered
    exact absurd (UInt32.lt_trans hab hba) (UInt32.lt_irrefl _)
  cases t
  cases u
  simpa using hrows

end Table

/-! ## Rows in place of others -/

/-- In a list by ids, a row takes the place of the one with its id and of no other. -/
theorem Table.mem_insertRow_iff {r x : ρ} {rows : List ρ}
    (h : rows.Pairwise fun a b => Row.id a < Row.id b) :
    x ∈ insertRow r rows ↔ x = r ∨ x ∈ rows ∧ Row.id x ≠ Row.id r := by
  induction rows with
  | nil => simp [insertRow]
  | cons y ys ih =>
    obtain ⟨hy, hys⟩ := List.pairwise_cons.1 h
    rw [insertRow]
    split
    · -- All rows of the list come after the new one.
      rename_i hlt
      have hall : x ∈ y :: ys → Row.id x ≠ Row.id r := by
        intro hx heq
        rcases List.mem_cons.1 hx with rfl | hx
        · exact UInt32.lt_irrefl _ (heq ▸ hlt)
        · exact UInt32.lt_irrefl _ (heq ▸ UInt32.lt_trans hlt (hy x hx))
      rw [List.mem_cons]
      exact or_congr_right ⟨fun hx => ⟨hx, hall hx⟩, And.left⟩
    · split
      · rename_i hlt
        have hne : Row.id y ≠ Row.id r := fun heq => UInt32.lt_irrefl _ (heq ▸ hlt)
        rw [List.mem_cons, List.mem_cons, ih hys]
        constructor
        · rintro (rfl | rfl | ⟨hx, hid⟩)
          · exact .inr ⟨.inl rfl, hne⟩
          · exact .inl rfl
          · exact .inr ⟨.inr hx, hid⟩
        · rintro (rfl | ⟨rfl | hx, hid⟩)
          · exact .inr (.inl rfl)
          · exact .inl rfl
          · exact .inr (.inr ⟨hx, hid⟩)
      · rename_i hrlt hylt
        have hid : Row.id r = Row.id y :=
          UInt32.le_antisymm (UInt32.not_lt.1 hylt) (UInt32.not_lt.1 hrlt)
        have hrest : x ∈ ys → Row.id x ≠ Row.id r := fun hx heq =>
          UInt32.lt_irrefl _ (heq ▸ hid ▸ hy x hx)
        rw [List.mem_cons, List.mem_cons]
        constructor
        · rintro (rfl | hx)
          · exact .inl rfl
          · exact .inr ⟨.inr hx, hrest hx⟩
        · rintro (rfl | ⟨rfl | hx, hne⟩)
          · exact .inl rfl
          · exact absurd hid.symm hne
          · exact .inr hx

theorem Table.mem_insert (t : Table ρ) (r x : ρ) :
    x ∈ (t.insert r).rows ↔ x = r ∨ x ∈ t.rows ∧ Row.id x ≠ Row.id r :=
  mem_insertRow_iff t.ordered

theorem mem_upsert (rows : List ρ) (r x : ρ) :
    x ∈ upsert rows r ↔ x = r ∨ x ∈ rows ∧ Row.id x ≠ Row.id r := by
  simp [upsert, or_comm]

theorem nodup_ids_upsert {rows : List ρ} (h : (rows.map Row.id).Nodup) (r : ρ) :
    ((upsert rows r).map Row.id).Nodup := by
  rw [upsert, List.map_append, List.nodup_append]
  refine ⟨h.sublist (List.filter_sublist.map _), List.nodup_singleton _, ?_⟩
  intro a ha b hb
  obtain ⟨x, hx, rfl⟩ := List.mem_map.1 ha
  rw [List.map_singleton, List.mem_singleton] at hb
  rw [hb]
  simpa using (List.mem_filter.1 hx).2

theorem nodup_ids_foldl_upsert {rows : List ρ} (h : (rows.map Row.id).Nodup) (rs : List ρ) :
    ((rs.foldl upsert rows).map Row.id).Nodup := by
  induction rs generalizing rows with
  | nil => exact h
  | cons r rest ih => exact ih (nodup_ids_upsert h r)

/-- Rows with distinct ids that are put in place of those with their ids are all there in the
end, and of the rows before them those with another id. -/
theorem mem_foldl_put {σ : Type} (rowsOf : σ → List ρ) {put : σ → ρ → σ}
    (hput : ∀ t r x, x ∈ rowsOf (put t r) ↔ x = r ∨ x ∈ rowsOf t ∧ Row.id x ≠ Row.id r)
    {rs : List ρ} (hids : (rs.map Row.id).Nodup) (t : σ) (x : ρ) :
    x ∈ rowsOf (rs.foldl put t) ↔ x ∈ rs ∨ x ∈ rowsOf t ∧ Row.id x ∉ rs.map Row.id := by
  induction rs generalizing t with
  | nil => simp
  | cons r rest ih =>
    obtain ⟨hnew, hrest⟩ := List.nodup_cons.1 hids
    rw [List.foldl_cons, ih hrest, hput, List.mem_cons, List.map_cons, List.mem_cons, not_or]
    constructor
    · rintro (hx | ⟨rfl | ⟨hx, hne⟩, hnot⟩)
      · exact .inl (.inr hx)
      · exact .inl (.inl rfl)
      · exact .inr ⟨hx, hne, hnot⟩
    · rintro ((rfl | hx) | ⟨hx, hne, hnot⟩)
      · exact .inr ⟨.inl rfl, hnew⟩
      · exact .inl hx
      · exact .inr ⟨.inr ⟨hx, hne⟩, hnot⟩

/-- The order in which rows with distinct ids enter leaves no trace. -/
theorem mem_foldl_put_iff_of_perm {σ : Type} (rowsOf : σ → List ρ) {put : σ → ρ → σ}
    (hput : ∀ t r x, x ∈ rowsOf (put t r) ↔ x = r ∨ x ∈ rowsOf t ∧ Row.id x ≠ Row.id r)
    {rs rs' : List ρ} (hids : (rs.map Row.id).Nodup) (h : rs.Perm rs') (t : σ) (x : ρ) :
    x ∈ rowsOf (rs.foldl put t) ↔ x ∈ rowsOf (rs'.foldl put t) := by
  have hmap : (rs.map Row.id).Perm (rs'.map Row.id) := h.map _
  rw [mem_foldl_put rowsOf hput hids, mem_foldl_put rowsOf hput (hmap.nodup_iff.1 hids),
    h.mem_iff, hmap.mem_iff]

theorem foldl_insert_eq_of_perm {rs rs' : List ρ} (hids : (rs.map Row.id).Nodup)
    (h : rs.Perm rs') (t : Table ρ) : rs.foldl Table.insert t = rs'.foldl Table.insert t :=
  Table.eq_of_perm <| perm_of_mem_iff (Table.nodup_ids _) (Table.nodup_ids _)
    (mem_foldl_put_iff_of_perm Table.rows Table.mem_insert hids h t)

theorem foldl_upsert_perm {rs rs' : List ρ} (hids : (rs.map Row.id).Nodup)
    (h : rs.Perm rs') {rows : List ρ} (hrows : (rows.map Row.id).Nodup) :
    (rs.foldl upsert rows).Perm (rs'.foldl upsert rows) :=
  perm_of_mem_iff (nodup_ids_foldl_upsert hrows rs) (nodup_ids_foldl_upsert hrows rs')
    (mem_foldl_put_iff_of_perm id mem_upsert hids h rows)

/-! ## Whole stores -/

namespace Store

/-- Stores made of snapshots with the same routing rows hold the same routing rows. -/
theorem sameRouting_ofSnapshot {s t : Snapshot} (hids : s.DistinctIds) (h : s.SameRouting t)
    (path path' : Option String) :
    (ofSnapshot s path).snapshot.DistinctIds ∧
      (ofSnapshot s path).snapshot.SameRouting (ofSnapshot t path').snapshot := by
  have hdomains : Table.ofList s.domains = Table.ofList t.domains :=
    foldl_insert_eq_of_perm hids.domains h.domains .empty
  have hsshPorts : Table.ofList s.sshPorts = Table.ofList t.sshPorts :=
    foldl_insert_eq_of_perm hids.sshPorts h.sshPorts .empty
  constructor
  · exact ⟨hids.listeners, Table.nodup_ids _, hids.streamRoutes, hids.httpRoutes,
      Table.nodup_ids _⟩
  · refine ⟨h.listeners, ?_, h.streamRoutes, h.httpRoutes, ?_⟩
    · show (Table.ofList s.domains).rows.Perm (Table.ofList t.domains).rows
      rw [hdomains]
    · show (Table.ofList s.sshPorts).rows.Perm (Table.ofList t.sshPorts).rows
      rw [hsshPorts]

end Store

/-- A row for one of the routing tables. -/
inductive RoutingRow where
  | listener (row : Listener)
  | domain (row : Domain)
  | streamRoute (row : StreamRoute)
  | httpRoute (row : HttpRoute)
  | sshPort (row : SshPort)

/-- The arrays of some routing rows. -/
def Snapshot.ofRoutingRows (rows : List RoutingRow) : Snapshot where
  listeners := rows.filterMap fun
    | .listener l => some l
    | _ => none
  domains := rows.filterMap fun
    | .domain d => some d
    | _ => none
  streamRoutes := rows.filterMap fun
    | .streamRoute r => some r
    | _ => none
  httpRoutes := rows.filterMap fun
    | .httpRoute r => some r
    | _ => none
  sshPorts := rows.filterMap fun
    | .sshPort p => some p
    | _ => none

namespace Store

/-- Puts a row into its table, in place of the one with its id. -/
def upsert (store : Store) : RoutingRow → Store
  | .listener l => store.upsertListener l
  | .domain d => store.upsertDomain d
  | .streamRoute r => store.upsertStreamRoute r
  | .httpRoute r => store.upsertHttpRoute r
  | .sshPort p => store.upsertSshPort p

/-- Upserts reach each table in their order. -/
theorem routing_foldl_upsert (store : Store) (rows : List RoutingRow) :
    (rows.foldl upsert store).routing =
      { listeners := (Snapshot.ofRoutingRows rows).listeners.foldl Portcullis.upsert
          store.routing.listeners
        domains := (Snapshot.ofRoutingRows rows).domains.foldl Table.insert
          store.routing.domains
        streamRoutes := (Snapshot.ofRoutingRows rows).streamRoutes.foldl Portcullis.upsert
          store.routing.streamRoutes
        httpRoutes := (Snapshot.ofRoutingRows rows).httpRoutes.foldl Portcullis.upsert
          store.routing.httpRoutes
        sshPorts := (Snapshot.ofRoutingRows rows).sshPorts.foldl Table.insert
          store.routing.sshPorts } := by
  induction rows generalizing store with
  | nil => rfl
  | cons row rest ih =>
    rw [List.foldl_cons, ih]
    cases row <;> rfl

/-- Rows with distinct ids that enter a store one after the other leave the same routing rows in
any order. -/
theorem sameRouting_upserts {store : Store} {rows rows' : List RoutingRow}
    (hstore : store.snapshot.DistinctIds) (hids : (Snapshot.ofRoutingRows rows).DistinctIds)
    (h : rows.Perm rows') :
    (rows.foldl upsert store).snapshot.DistinctIds ∧
      (rows.foldl upsert store).snapshot.SameRouting (rows'.foldl upsert store).snapshot := by
  have hsame : (Snapshot.ofRoutingRows rows).SameRouting (Snapshot.ofRoutingRows rows') :=
    ⟨h.filterMap _, h.filterMap _, h.filterMap _, h.filterMap _, h.filterMap _⟩
  constructor
  · refine ⟨?_, Table.nodup_ids _, ?_, ?_, Table.nodup_ids _⟩ <;>
      simp only [snapshot, routing_foldl_upsert]
    · exact nodup_ids_foldl_upsert hstore.listeners _
    · exact nodup_ids_foldl_upsert hstore.streamRoutes _
    · exact nodup_ids_foldl_upsert hstore.httpRoutes _
  · constructor <;> simp only [snapshot, routing_foldl_upsert]
    · exact foldl_upsert_perm hids.listeners hsame.listeners hstore.listeners
    · rw [foldl_insert_eq_of_perm hids.domains hsame.domains]
    · exact foldl_upsert_perm hids.streamRoutes hsame.streamRoutes hstore.streamRoutes
    · exact foldl_upsert_perm hids.httpRoutes hsame.httpRoutes hstore.httpRoutes
    · rw [foldl_insert_eq_of_perm hids.sshPorts hsame.sshPorts]

end Store

end Portcullis
