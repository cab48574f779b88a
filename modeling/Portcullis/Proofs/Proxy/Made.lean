import Portcullis.Proxy.Config
import Mathlib.Data.List.Basic

/-!
# Blocks that can be put together

Pieces are checked when they enter a block, so a block that was put together has no piece that a
check would refuse.

* `addVariable_eq_ok_iff`, `addMap_eq_ok_iff` and `addServer_eq_ok_iff` say which pieces enter.
* `Map.Made` and `Block.Made` are the maps and the blocks that can be put together, and
  `Block.Made.checked` says what the checks ensure of them.
-/

namespace Portcullis.Proxy

/-! ## What enters a block -/

/-- A directive enters a block where its name is not blank. -/
theorem addVariable_eq_ok_iff {b b' : Block} {name value : String} :
    b.addVariable name value = .ok b' ↔
      ∃ d, Directive.make name value = .ok d ∧ b' = { b with vars := b.vars ++ [d] } := by
  unfold Block.addVariable
  cases Directive.make name value <;> simp [Except.map, eq_comm]

/-- A map is added where its output variable is free. -/
theorem addMap_eq_ok_iff {b b' : Block} {m : Map} :
    b.addMap m = .ok b' ↔
      b.map? m.output = none ∧ b' = { b with maps := b.maps ++ [m] } := by
  unfold Block.addMap
  cases b.map? m.output <;> simp [eq_comm]

/-- A server is added where it passes its check. -/
theorem addServer_eq_ok_iff {b b' : Block} {s : Server} :
    b.addServer s = .ok b' ↔
      s.check = .ok () ∧ b' = { b with servers := b.servers ++ [s] } := by
  unfold Block.addServer
  cases s.check <;> simp [Except.map, eq_comm]

/-! ## What can be put together -/

/-- The maps that can be put together. -/
inductive Map.Made : Map → Prop where
  | between (input output : String) : Made (Map.between input output)
  | addEntry {m m' : Map} {key value : String} (hm : Made m) (h : m.addEntry key value = .ok m') :
    Made m'
  | setDefault {m m' : Map} {value : String} (hm : Made m) (h : m.setDefault value = .ok m') :
    Made m'

/-- The blocks that can be put together, of any pools and servers. -/
inductive Block.Made : Block → Prop where
  | empty (kind : BlockKind) : Made (Block.empty kind)
  | addVariable {b b' : Block} {name value : String} (hb : Made b)
    (h : b.addVariable name value = .ok b') : Made b'
  | addPool {b b' : Block} {p : Pool} {added : Bool} (hb : Made b)
    (h : b.addPool p = .ok (added, b')) : Made b'
  | addTarget {b : Block} (hb : Made b) (name target : String) : Made (b.addTarget name target)
  | addMap {b b' : Block} {m : Map} (hb : Made b) (hm : m.Made) (h : b.addMap m = .ok b') : Made b'
  | addServer {b b' : Block} {s : Server} (hb : Made b) (h : b.addServer s = .ok b') : Made b'

/-- Setting the default value leaves the entries alone. -/
theorem Map.entries_of_setDefault {m m' : Map} {value : String} (h : m.setDefault value = .ok m') :
    m'.entries = m.entries := by
  unfold setDefault at h
  split at h
  · cases h
  · cases h
    rfl

/-- The reserved key is no entry's. -/
theorem Map.Made.keys {m : Map} (h : m.Made) : ∀ e ∈ m.entries, e.1 ≠ defaultKey := by
  induction h with
  | between input output => simp [Map.between]
  | addEntry hm h ih =>
    unfold Map.addEntry at h
    split at h
    · rw [Map.entries_of_setDefault h]
      exact ih
    · next hkey =>
      split at h
      · cases h
      · split at h
        · cases h
        · cases h
          rw [List.forall_mem_append, List.forall_mem_singleton]
          exact ⟨ih, hkey⟩
  | setDefault hm h ih =>
    rw [Map.entries_of_setDefault h]
    exact ih

/-- The error pages of a server that passes its check are for some codes. -/
theorem Server.codes_of_check {s : Server} (h : s.check = .ok ()) :
    ∀ p ∈ s.errorPages, p.codes ≠ [] := by
  intro p hp hcodes
  unfold check at h
  split at h
  · cases h
  · split at h
    · cases h
    · split at h
      · cases h
      · next hpages => exact hpages (List.any_eq_true.mpr ⟨p, hp, by simp [hcodes]⟩)

/-- What the checks of the pieces ensure. -/
structure Block.Checked (b : Block) : Prop where
  keys : ∀ m ∈ b.maps, ∀ e ∈ m.entries, e.1 ≠ defaultKey
  codes : ∀ s ∈ b.servers, ∀ p ∈ s.errorPages, p.codes ≠ []

theorem Block.Made.checked {b : Block} (h : b.Made) : b.Checked := by
  induction h with
  | empty kind => exact ⟨by simp [Block.empty], by simp [Block.empty]⟩
  | addVariable hb h ih =>
    obtain ⟨d, -, rfl⟩ := addVariable_eq_ok_iff.mp h
    exact ⟨ih.keys, ih.codes⟩
  | addPool hb h ih =>
    unfold Block.addPool at h
    split at h
    · cases h
    · split at h <;> cases h
      · exact ih
      · exact ⟨ih.keys, ih.codes⟩
  | addTarget hb name target ih => exact ⟨ih.keys, ih.codes⟩
  | addMap hb hm h ih =>
    obtain ⟨-, rfl⟩ := addMap_eq_ok_iff.mp h
    refine ⟨?_, ih.codes⟩
    rw [List.forall_mem_append, List.forall_mem_singleton]
    exact ⟨ih.keys, hm.keys⟩
  | addServer hb h ih =>
    obtain ⟨hcheck, rfl⟩ := addServer_eq_ok_iff.mp h
    refine ⟨ih.keys, ?_⟩
    rw [List.forall_mem_append, List.forall_mem_singleton]
    exact ⟨ih.codes, Server.codes_of_check hcheck⟩

end Portcullis.Proxy
