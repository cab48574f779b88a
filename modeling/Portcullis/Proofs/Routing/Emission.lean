import Portcullis.Proofs.Proxy.Made
import Portcullis.Proofs.Routing.PortMap
import Portcullis.Proofs.Text.Decimal

/-!
# The stream block that groups ask for

Emission adds pools, maps and servers to a block piece by piece.  This module gives the block
that is left when no piece is refused.

* `StreamBinding.enlist` is what one binding does to the pools.  `find?_foldl_enlist` reads the
  pool of a name after any bindings: it is set up by the first binding of that name, and holds
  the targets of all of them.
* `emitBindings_eq_ok_iff` and `StreamGroup.emit_eq_ok_iff` say when the bindings of a group are
  accepted, and what they leave.
* `emitStream_ok` puts the groups together.
-/

namespace Portcullis

open Portcullis.Proxy

/-! ## Pools -/

@[simp] theorem Proxy.Pool.name_addTarget (p : Pool) (t : String) :
    (p.addTarget t).name = p.name := by
  unfold addTarget
  split <;> rfl

/-- A pool holds an added target and what it held before. -/
theorem Proxy.Pool.mem_targets_addTarget {p : Pool} {t u : String} :
    u ∈ (p.addTarget t).targets ↔ u ∈ p.targets ∨ u = t := by
  unfold addTarget
  split
  · rename_i hmem
    exact ⟨.inl, fun h => h.elim id fun hu => hu ▸ hmem⟩
  · simp

namespace StreamBinding

/-- The pool that a binding sets up, still without targets. -/
def freshPool (b : StreamBinding) : Pool :=
  (Pool.named b.pool).balanced b.balancing.directive?

@[simp] theorem name_freshPool (b : StreamBinding) : b.freshPool.name = b.pool := by
  unfold freshPool Pool.balanced
  split <;> rfl

/-- The pools after one more binding. -/
def enlist (ps : List Pool) (b : StreamBinding) : List Pool :=
  (if (ps.find? (·.name == b.pool)).isSome then ps else ps ++ [b.freshPool]).map fun p =>
    if p.name = b.pool then p.addTarget b.target else p

/-- The bindings that share a pool. -/
def sharing (name : String) (bs : List StreamBinding) : List StreamBinding :=
  bs.filter fun b => b.pool == name

/-- A pool with the targets of some bindings. -/
def addTargets (p : Pool) (bs : List StreamBinding) : Pool :=
  bs.foldl (fun p b => p.addTarget b.target) p

theorem mem_targets_addTargets {p : Pool} {bs : List StreamBinding} {t : String} :
    t ∈ (addTargets p bs).targets ↔ t ∈ p.targets ∨ ∃ b ∈ bs, b.target = t := by
  induction bs generalizing p with
  | nil => simp [addTargets]
  | cons b rest ih =>
    rw [addTargets, List.foldl_cons]
    refine ih.trans ?_
    rw [Pool.mem_targets_addTarget, or_assoc, eq_comm (a := t)]
    simp

/-- A binding reaches the pool of its own name and no other. -/
theorem find?_enlist (ps : List Pool) (b : StreamBinding) (name : String) :
    (enlist ps b).find? (·.name == name) =
      if b.pool = name then
        some (((ps.find? (·.name == name)).getD b.freshPool).addTarget b.target)
      else ps.find? (·.name == name) := by
  -- Adding a target keeps a pool's name, so the search passes through the map.
  have hmap : ∀ qs : List Pool,
      (qs.map fun p => if p.name = b.pool then p.addTarget b.target else p).find?
          (·.name == name) =
        (qs.find? (·.name == name)).map fun p =>
          if p.name = b.pool then p.addTarget b.target else p := by
    intro qs
    rw [List.find?_map]
    congr 2
    funext p
    show ((if p.name = b.pool then p.addTarget b.target else p).name == name) = _
    split <;> simp
  rw [enlist, hmap]
  by_cases hname : b.pool = name
  · subst hname
    cases hfind : ps.find? (·.name == b.pool) with
    | none => simp [List.find?_append, hfind]
    | some p =>
      have hp : p.name = b.pool := by simpa using List.find?_some hfind
      simp [hfind, hp]
  · rw [if_neg hname]
    have hfresh : (b.freshPool.name == name) = false := by simpa using hname
    have hsame : (if (ps.find? (·.name == b.pool)).isSome then ps
        else ps ++ [b.freshPool]).find? (·.name == name) = ps.find? (·.name == name) := by
      split
      · rfl
      · rw [List.find?_append, List.find?_singleton, hfresh]
        simp
    rw [hsame]
    cases hfind : ps.find? (·.name == name) with
    | none => rfl
    | some p =>
      have hp : p.name ≠ b.pool := by
        have := List.find?_some hfind
        simp only [beq_iff_eq] at this
        exact fun h => hname (h.symm.trans this)
      simp [hp]

/-- The pool of a name is set up by the first binding of the name and holds the targets of all
of them. -/
theorem find?_foldl_enlist (bs : List StreamBinding) (name : String) :
    (bs.foldl enlist []).find? (·.name == name) =
      (sharing name bs).head?.map fun b => addTargets b.freshPool (sharing name bs) := by
  induction bs using List.reverseRecOn with
  | nil => rfl
  | append_singleton bs b ih =>
    rw [List.foldl_append, List.foldl_cons, List.foldl_nil, find?_enlist, ih]
    by_cases hname : b.pool = name
    · subst hname
      have hsnoc : sharing b.pool (bs ++ [b]) = sharing b.pool bs ++ [b] := by simp [sharing]
      rw [if_pos rfl, hsnoc]
      cases sharing b.pool bs <;> simp [addTargets]
    · simp [sharing, hname]

/-- Every binding has its target in its pool. -/
theorem exists_pool_of_mem {bs : List StreamBinding} {b : StreamBinding} (hb : b ∈ bs) :
    ∃ p, (bs.foldl enlist []).find? (·.name == b.pool) = some p ∧ b.target ∈ p.targets := by
  have hmem : b ∈ sharing b.pool bs := List.mem_filter.2 ⟨hb, by simp⟩
  rw [find?_foldl_enlist]
  cases hshare : sharing b.pool bs with
  | nil => simp [hshare] at hmem
  | cons c rest =>
    refine ⟨_, rfl, ?_⟩
    rw [mem_targets_addTargets, ← hshare]
    exact .inr ⟨b, hmem, rfl⟩

end StreamBinding

open StreamBinding

/-! ## Bindings of a group -/

/-- Adding a pool and then a target is what one binding does to the pools of a block. -/
theorem addPool_eq (b : Block) (r : StreamBinding) :
    b.addPool r.freshPool =
      if r.pool = "" then .error (.empty "upstream name")
      else .ok ((b.pool? r.pool).isNone,
        { b with
          pools := if (b.pool? r.pool).isSome then b.pools else b.pools ++ [r.freshPool] }) := by
  unfold Block.addPool
  rw [name_freshPool]
  cases b.pool? r.pool <;> rfl

/-- The bindings of a group are accepted if each has a pool with a name and the map accepts them
all; the block then has their pools, and is the same otherwise. -/
theorem emitBindings_eq_ok_iff {b b' : Block} {m m' : Map} {bs : List StreamBinding} :
    emitBindings b m bs = (b', .ok m') ↔
      (∀ r ∈ bs, r.pool ≠ "") ∧ m.bindAll bs = .ok m' ∧
        b' = { b with pools := bs.foldl enlist b.pools } := by
  induction bs generalizing b m with
  | nil =>
    show (b, Except.ok m) = (b', .ok m') ↔ _ ∧ Except.ok m = .ok m' ∧ b' = b
    constructor
    · rintro ⟨⟩
      exact ⟨by simp, rfl, rfl⟩
    · rintro ⟨_, hm, rfl⟩
      rw [hm]
  | cons r rest ih =>
    have hcons : m.bindAll (r :: rest) = r.bind m >>= fun m => m.bindAll rest := by
      simp [Map.bindAll]
    rw [emitBindings, show (Pool.named r.pool).balanced _ = r.freshPool from rfl, addPool_eq,
      hcons, List.forall_mem_cons]
    by_cases hname : r.pool = ""
    · simp [hname]
    · rw [if_neg hname]
      cases hbind : r.bind m with
      | error e => simp [Bind.bind, Except.bind]
      | ok m₁ =>
        refine ih.trans ?_
        rw [and_iff_right hname]
        exact Iff.rfl

/-! ## Groups -/

/-- Two ports have two maps. -/
theorem portVariable_injective {p q : Int32} (h : portVariable p = portVariable q) : p = q := by
  have htext : portText p = portText q := by
    simpa [portVariable, ← String.toList_inj] using h
  exact Int32.toInt_inj.1 (Text.Decimal.ofInt_injective htext)

/-- The map of a group whose bindings are compatible. -/
def StreamGroup.map (g : StreamGroup) : Map :=
  .holding serverNameVariable (portVariable g.port) g.bindings

/-- A group that binds something is accepted if its bindings are, if its port has no map yet, and
if its server passes the check. -/
theorem StreamGroup.emit_eq_ok_iff {s : ProxySettings} {b b' : Block} {g : StreamGroup}
    (hg : g.bindings ≠ []) :
    g.emit s b = (b', .ok ()) ↔
      (∀ r ∈ g.bindings, r.pool ≠ "") ∧ Compatible g.bindings ∧
        b.map? (portVariable g.port) = none ∧ (g.server s).check = .ok () ∧
          b' = { b with
            pools := g.bindings.foldl enlist b.pools
            maps := b.maps ++ [g.map]
            servers := b.servers ++ [g.server s] } := by
  have hne : g.bindings.isEmpty = false := by simpa using hg
  unfold StreamGroup.emit
  rw [hne, if_neg Bool.false_ne_true]
  constructor
  · intro h
    split at h
    · cases h
    · rename_i b₁ m hbind
      split at h
      · cases h
      · rename_i b₂ hmap
        split at h
        · cases h
        · rename_i b₃ hserver
          cases h
          obtain ⟨hpools, hall, rfl⟩ := emitBindings_eq_ok_iff.1 hbind
          obtain ⟨hcompat, rfl⟩ := (Map.bindAll_eq_ok_iff ..).1 hall
          obtain ⟨hfree, rfl⟩ := addMap_eq_ok_iff.1 hmap
          obtain ⟨hcheck, rfl⟩ := addServer_eq_ok_iff.1 hserver
          exact ⟨hpools, hcompat, hfree, hcheck, rfl⟩
  · rintro ⟨hpools, hcompat, hfree, hcheck, rfl⟩
    have hbind : emitBindings b (.between serverNameVariable (portVariable g.port)) g.bindings =
        ({ b with pools := g.bindings.foldl enlist b.pools }, .ok g.map) :=
      emitBindings_eq_ok_iff.2 ⟨hpools, (Map.bindAll_eq_ok_iff ..).2 ⟨hcompat, rfl⟩, rfl⟩
    have hmap := addMap_eq_ok_iff (m := g.map)
      (b := { b with pools := g.bindings.foldl enlist b.pools }) |>.2 ⟨hfree, rfl⟩
    have hserver := addServer_eq_ok_iff (s := g.server s)
      (b := { b with
        pools := g.bindings.foldl enlist b.pools
        maps := b.maps ++ [g.map] }) |>.2 ⟨hcheck, rfl⟩
    simp only [hbind, hmap, hserver]

theorem StreamGroup.emit_nil {s : ProxySettings} {b : Block} {g : StreamGroup}
    (hg : g.bindings = []) : g.emit s b = (b, .ok ()) := by
  simp [StreamGroup.emit, hg]

/-- The groups that bind something. -/
def StreamGroup.binding (gs : List StreamGroup) : List StreamGroup :=
  gs.filter fun g => !g.bindings.isEmpty

/-- What accepted groups leave in a block: the pools of all their bindings, and a map and a server
for each group that binds something. -/
theorem emitEach_stream_ok {s : ProxySettings} {gs : List StreamGroup} {b b' : Block}
    (h : emitEach (StreamGroup.emit s) b gs = (b', .ok ())) :
    (∀ g ∈ gs, Compatible g.bindings) ∧
      b' = { b with
        pools := (gs.flatMap (·.bindings)).foldl enlist b.pools
        maps := b.maps ++ (StreamGroup.binding gs).map StreamGroup.map
        servers := b.servers ++ (StreamGroup.binding gs).map (StreamGroup.server s) } := by
  induction gs generalizing b with
  | nil =>
    cases h
    simp [StreamGroup.binding]
  | cons g rest ih =>
    rw [emitEach] at h
    split at h
    · cases h
    · rename_i b₁ hemit
      obtain ⟨hrest, rfl⟩ := ih h
      by_cases hg : g.bindings = []
      · rw [StreamGroup.emit_nil hg] at hemit
        cases hemit
        refine ⟨List.forall_mem_cons.2 ⟨hg ▸ compatible_nil, hrest⟩, ?_⟩
        simp [StreamGroup.binding, hg]
      · obtain ⟨_, hcompat, _, _, rfl⟩ := (StreamGroup.emit_eq_ok_iff hg).1 hemit
        refine ⟨List.forall_mem_cons.2 ⟨hcompat, hrest⟩, ?_⟩
        simp [StreamGroup.binding, hg]

/-- What accepted groups leave in an empty block. -/
theorem emitStream_ok {s : ProxySettings} {gs : List StreamGroup} {b : Block}
    (h : emitStream s (Block.empty .stream) gs = (b, .ok ())) :
    (∀ g ∈ gs, Compatible g.bindings) ∧
      b.pools = (gs.flatMap (·.bindings)).foldl enlist [] ∧
        b.maps = (StreamGroup.binding gs).map StreamGroup.map ∧
          b.servers = (StreamGroup.binding gs).map (StreamGroup.server s) := by
  unfold emitStream at h
  split at h
  · rename_i hall
    cases h
    have hnil : ∀ g ∈ gs, g.bindings = [] := by simpa using hall
    refine ⟨fun g hg => hnil g hg ▸ compatible_nil, ?_⟩
    have hflat : gs.flatMap (·.bindings) = [] := by simpa using hnil
    have hbinding : StreamGroup.binding gs = [] := by simpa [StreamGroup.binding] using hnil
    rw [hflat, hbinding]
    exact ⟨rfl, rfl, rfl⟩
  · split at h
    · cases h
    · rename_i b₁ hscript
      obtain ⟨d, -, rfl⟩ : ∃ d, Directive.make "js_import" s.script = .ok d ∧
          { Block.empty .stream with vars := [d] } = b₁ := by
        unfold Block.addVariable at hscript
        cases hmake : Directive.make "js_import" s.script with
        | error e => rw [hmake] at hscript; cases hscript
        | ok d => rw [hmake] at hscript; exact ⟨d, rfl, Except.ok.inj hscript⟩
      obtain ⟨hcompat, rfl⟩ := emitEach_stream_ok h
      exact ⟨hcompat, rfl, rfl, rfl⟩

end Portcullis
