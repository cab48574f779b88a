import Portcullis.Proofs.Keys
import Portcullis.Proofs.Routing.Emission
import Portcullis.Proofs.Routing.Grouping
import Mathlib

/-!
# A pool for each pair of an alias and a domain

Routes share a pool exactly if they have one alias and one domain, whatever characters the alias is
made of.

* A `BoundRoute` is a stream route with what it binds, and `BoundRoute.pair` is its alias with the
  id of its domain.
* `Routing.boundRoutes` lists them as they are compiled: port after port in the order in which
  listeners first open the ports, and on one port by listener id, index and route id.
* `names_foldl_enlist` and `addTargets_eq` say that pools come in the order of their first
  bindings, and that a pool holds its targets in the order of theirs, each once.
* `Routing.poolFor` is the pool that a pair asks for, and `build_pools` says that the pools are
  those of the pairs.

The order of the ports shows in the pools: `build_pools_notByListener` has two ports whose routes
are not listed by listener id.
-/

namespace Portcullis

open Portcullis.Proxy
open StreamBinding

/-! ## Pools by name -/

namespace StreamBinding

theorem freshPool_eq (b : StreamBinding) :
    b.freshPool = ⟨b.pool, b.balancing.directive?.toList.map (⟨·, ""⟩), []⟩ := by
  unfold freshPool Pool.balanced Pool.named
  cases b.balancing.directive? <;> rfl

/-- One more binding adds the name of its pool where it is new. -/
theorem names_enlist (ps : List Pool) (b : StreamBinding) :
    (enlist ps b).map (·.name) =
      if b.pool ∈ ps.map (·.name) then ps.map (·.name) else ps.map (·.name) ++ [b.pool] := by
  have hmap : ∀ qs : List Pool,
      (qs.map fun p => if p.name = b.pool then p.addTarget b.target else p).map (·.name) =
        qs.map (·.name) := by
    intro qs
    rw [List.map_map]
    refine List.map_congr_left fun p _ => ?_
    show (if p.name = b.pool then p.addTarget b.target else p).name = p.name
    split <;> simp
  have hfound : (ps.find? (·.name == b.pool)).isSome = true ↔ b.pool ∈ ps.map (·.name) := by
    simp
  rw [enlist, hmap]
  by_cases hmem : b.pool ∈ ps.map (·.name)
  · rw [if_pos (hfound.2 hmem), if_pos hmem]
  · rw [if_neg fun h => hmem (hfound.1 h), if_neg hmem]
    simp

/-- Pools come in the order of the first bindings that name them. -/
theorem names_foldl_enlist (bs : List StreamBinding) :
    (bs.foldl enlist []).map (·.name) = (bs.map (·.pool)).eraseDups := by
  induction bs using List.reverseRecOn with
  | nil => rfl
  | append_singleton bs b ih =>
    rw [List.foldl_append, List.foldl_cons, List.foldl_nil, names_enlist, ih, List.map_append,
      List.map_singleton, eraseDups_snoc]
    simp only [List.mem_eraseDups]

/-- Targets are added behind those that are there, each once. -/
theorem addTargets_eq (p : Pool) (hp : p.targets = []) (bs : List StreamBinding) :
    addTargets p bs = { p with targets := (bs.map (·.target)).eraseDups } := by
  induction bs using List.reverseRecOn with
  | nil =>
    rw [addTargets, List.foldl_nil, List.map_nil, List.eraseDups_nil, ← hp]
  | append_singleton bs b ih =>
    have hsnoc : addTargets p (bs ++ [b]) = (addTargets p bs).addTarget b.target := by
      simp [addTargets]
    rw [hsnoc, ih, List.map_append, List.map_singleton, eraseDups_snoc, Pool.addTarget]
    simp only [List.mem_eraseDups]
    split <;> rfl

end StreamBinding

/-! ## Bound routes -/

/-- A stream route with what it binds. -/
structure BoundRoute where
  route : StreamRoute
  binding : StreamBinding

/-- The alias and the domain of a route. -/
def BoundRoute.pair (x : BoundRoute) : String × UInt32 :=
  (x.route.aliasName, x.binding.domain.id)

namespace Routing

/-- The routes of a stream listener that bind something, in their order. -/
def boundRoutesOf (r : Routing) (lead : String) (l : Listener) : List BoundRoute :=
  (r.streamRoutesOf l.id).filterMap fun x => (r.bindingOf? lead x).map (⟨x, ·⟩)

/-- The routes of all stream listeners that bind something, as they are compiled: by port, then by
listener. -/
def boundRoutes (r : Routing) (lead : String) : List BoundRoute :=
  r.streamPorts.flatMap fun port => (r.streamListenersOn port).flatMap (r.boundRoutesOf lead)

/-- The bound routes of one pair. -/
def boundRoutesFor (r : Routing) (lead : String) (pair : String × UInt32) : List BoundRoute :=
  (r.boundRoutes lead).filter (·.pair = pair)

/-- The pool that a pair asks for: with the targets of its routes, each once, and the balancing of
the first of them. -/
def poolFor (r : Routing) (lead : String) (pair : String × UInt32) : Pool where
  name := poolName lead pair.1 pair.2
  directives :=
    ((r.boundRoutesFor lead pair).head?.bind (·.route.balancing.directive?)).toList.map (⟨·, ""⟩)
  targets := ((r.boundRoutesFor lead pair).map (·.binding.target)).eraseDups

variable (r : Routing) (lead : String)

theorem map_binding_boundRoutesOf (l : Listener) :
    (r.boundRoutesOf lead l).map (·.binding) = r.bindingsOf lead l := by
  simp only [boundRoutesOf, bindingsOf, List.map_filterMap, Option.map_map]
  refine List.filterMap_congr fun x _ => ?_
  exact Option.map_id'

/-- The groups hold what the bound routes bind. -/
theorem flatMap_bindings_streamGroups :
    (r.streamGroups lead).flatMap (·.bindings) = (r.boundRoutes lead).map (·.binding) := by
  calc (r.streamGroups lead).flatMap (·.bindings)
      = (r.streamGroups lead).flatMap fun g => r.bindingsOn lead g.port :=
        List.flatMap_congr fun g hg => bindings_of_mem hg
    _ = ((r.streamGroups lead).map StreamGroup.port).flatMap (r.bindingsOn lead) := by
        rw [List.flatMap_map]
    _ = r.streamPorts.flatMap (r.bindingsOn lead) := by rw [ports_streamGroups]
    _ = (r.boundRoutes lead).map (·.binding) := by
        rw [boundRoutes, List.map_flatMap]
        refine List.flatMap_congr fun port _ => ?_
        rw [bindingsOn, List.map_flatMap]
        exact List.flatMap_congr fun l _ => (r.map_binding_boundRoutesOf lead l).symm

variable {r lead}

theorem mem_boundRoutesOf_iff {l : Listener} {x : BoundRoute} :
    x ∈ r.boundRoutesOf lead l ↔
      x.route ∈ r.streamRoutesOf l.id ∧ r.bindingOf? lead x.route = some x.binding := by
  unfold boundRoutesOf
  rw [List.mem_filterMap]
  constructor
  · rintro ⟨y, hy, hbound⟩
    obtain ⟨b, hb, rfl⟩ := Option.map_eq_some_iff.1 hbound
    exact ⟨hy, hb⟩
  · rintro ⟨hroute, hbound⟩
    exact ⟨x.route, hroute, by rw [hbound]; rfl⟩

/-- The bound routes are those of all stream listeners. -/
theorem mem_boundRoutes_iff {x : BoundRoute} :
    x ∈ r.boundRoutes lead ↔
      ∃ l ∈ r.listeners, l.kind = .stream ∧ x ∈ r.boundRoutesOf lead l := by
  simp only [boundRoutes, streamPorts, listenersById, mem_streamListenersOn_iff, List.mem_flatMap,
    List.mem_eraseDups, List.mem_map, List.mem_filter, List.mem_mergeSort, decide_eq_true_eq]
  constructor
  · rintro ⟨port, -, l, ⟨hl, hkind, -⟩, hx⟩
    exact ⟨l, hl, hkind, hx⟩
  · rintro ⟨l, hl, hkind, hx⟩
    exact ⟨l.port, ⟨l, ⟨hl, hkind⟩, rfl⟩, l, ⟨hl, hkind, rfl⟩, hx⟩

/-- What a bound route binds is bound to the pool of the route's pair, balanced as the route
asks. -/
theorem pool_of_boundRoute {x : BoundRoute} (h : x ∈ r.boundRoutes lead) :
    x.binding.pool = poolName lead x.pair.1 x.pair.2 ∧
      x.binding.balancing = x.route.balancing := by
  obtain ⟨l, -, -, hx⟩ := mem_boundRoutes_iff.1 h
  obtain ⟨d, t, -, -, hbinding⟩ := bindingOf?_eq_some_iff.1 (mem_boundRoutesOf_iff.1 hx).2
  rw [BoundRoute.pair, hbinding]
  exact ⟨rfl, rfl⟩

/-- The bindings of a pair's pool are those of the pair's routes. -/
theorem sharing_poolName (pair : String × UInt32) :
    sharing (poolName lead pair.1 pair.2) ((r.boundRoutes lead).map (·.binding)) =
      (r.boundRoutesFor lead pair).map (·.binding) := by
  rw [sharing, List.filter_map, boundRoutesFor]
  congr 1
  refine List.filter_congr fun x hx => ?_
  have hpool := (pool_of_boundRoute hx).1
  have hiff : x.binding.pool = poolName lead pair.1 pair.2 ↔ x.pair = pair := by
    rw [hpool]
    constructor
    · intro h
      obtain ⟨halias, hid⟩ := poolName_injective h
      exact Prod.ext halias hid
    · rintro rfl
      rfl
  simp only [Function.comp, beq_eq_decide, hiff]

/-- Among the pools of all bound routes, the one of a pair is set up by the first route of the pair
and holds the targets of all of them. -/
theorem find?_poolName (pair : String × UInt32) :
    (((r.boundRoutes lead).map (·.binding)).foldl enlist []).find?
        (·.name == poolName lead pair.1 pair.2) =
      (r.boundRoutesFor lead pair).head?.map fun _ => r.poolFor lead pair := by
  rw [find?_foldl_enlist, sharing_poolName, List.head?_map, Option.map_map]
  cases hfor : r.boundRoutesFor lead pair with
  | nil => rfl
  | cons x rest =>
    have hx : x ∈ r.boundRoutes lead ∧ x.pair = pair := by
      have hmem : x ∈ r.boundRoutesFor lead pair := hfor ▸ List.mem_cons_self
      simpa [boundRoutesFor] using hmem
    obtain ⟨hpool, hbalancing⟩ := pool_of_boundRoute hx.1
    have hfresh : x.binding.freshPool =
        ⟨poolName lead pair.1 pair.2, x.route.balancing.directive?.toList.map (⟨·, ""⟩), []⟩ := by
      rw [freshPool_eq, hpool, hbalancing, hx.2]
    simp only [List.head?_cons, Option.map_some, Function.comp, hfresh]
    rw [addTargets_eq _ rfl, poolFor, hfor, List.map_map]
    rfl

end Routing

/-! ## The pools of a configuration -/

/-- The pools of a configuration are in one-to-one correspondence with the pairs of alias and
domain that bound routes have, and no two of them have one name. The binding of a route leads to
the pool of the route's pair. -/
theorem build_pools {s : ProxySettings} {r : Routing} {c : Config} {stats : Stats}
    (h : (build s r).1 = .ok (c, stats)) :
    Set.BijOn (r.poolFor s.poolPrefix)
        {pair | ∃ l ∈ r.listeners, l.kind = .stream ∧
          ∃ x ∈ r.boundRoutesOf s.poolPrefix l, x.pair = pair}
        {p | p ∈ c.stream.pools} ∧
      (c.stream.pools.map (·.name)).Nodup ∧
      ∀ l ∈ r.listeners, l.kind = .stream → ∀ x ∈ r.boundRoutesOf s.poolPrefix l,
        c.stream.pool? x.binding.pool = some (r.poolFor s.poolPrefix x.pair) := by
  have hpools : c.stream.pools =
      ((r.boundRoutes s.poolPrefix).map (·.binding)).foldl enlist [] := by
    rw [(emitStream_ok (build_ok h).1).2.1, Routing.flatMap_bindings_streamGroups]
  have hnames : (c.stream.pools.map (·.name)).Nodup := by
    rw [hpools, names_foldl_enlist]
    exact nodup_eraseDups _
  have hfind : ∀ x ∈ r.boundRoutes s.poolPrefix,
      c.stream.pool? x.binding.pool = some (r.poolFor s.poolPrefix x.pair) := by
    intro x hx
    have hmem : x ∈ r.boundRoutesFor s.poolPrefix x.pair := List.mem_filter.2 ⟨hx, by simp⟩
    rw [Block.pool?, hpools, (Routing.pool_of_boundRoute hx).1, Routing.find?_poolName]
    cases hfor : r.boundRoutesFor s.poolPrefix x.pair with
    | nil => simp [hfor] at hmem
    | cons y rest => rfl
  refine ⟨⟨?_, ?_, ?_⟩, hnames, ?_⟩
  · rintro pair ⟨l, hl, hkind, x, hx, rfl⟩
    exact List.mem_of_find?_eq_some (hfind x (Routing.mem_boundRoutes_iff.2 ⟨l, hl, hkind, hx⟩))
  · intro pair _ pair' _ heq
    obtain ⟨halias, hid⟩ := poolName_injective (congrArg Pool.name heq)
    exact Prod.ext halias hid
  · intro p hp
    -- The name of a pool is that of some binding's pool, and it finds the pool.
    have hname : p.name ∈ c.stream.pools.map (·.name) := List.mem_map_of_mem hp
    rw [hpools, names_foldl_enlist, List.mem_eraseDups, List.map_map] at hname
    obtain ⟨x, hx, hxp⟩ := List.mem_map.1 hname
    have hself : c.stream.pool? x.binding.pool = some p :=
      (find?_key_eq_some_iff hnames).2 ⟨hp, hxp.symm⟩
    have hfound := hself.symm.trans (hfind x hx)
    obtain ⟨l, hl, hkind, hmem⟩ := Routing.mem_boundRoutes_iff.1 hx
    exact ⟨x.pair, ⟨l, hl, hkind, x, hmem, rfl⟩, (Option.some.inj hfound).symm⟩
  · intro l hl hkind x hx
    exact hfind x (Routing.mem_boundRoutes_iff.2 ⟨l, hl, hkind, hx⟩)

/-- The first listener opens port 443 and has no routes. The routes of the other two share a pool,
and those of port 443 are compiled before those of port 8443. -/
def crossedPorts : Routing where
  listeners := [⟨1, 443, .stream, false, .blacklist, ""⟩, ⟨2, 8443, .stream, false, .blacklist, ""⟩,
    ⟨3, 443, .stream, false, .blacklist, ""⟩]
  domains := .ofList [⟨1, "a.example"⟩]
  sshPorts := .ofList [⟨5, 2202⟩, ⟨6, 2203⟩]
  streamRoutes :=
    [{ id := 1, domainId := 1, listenId := 2, destination := .sshLocal, sshPortId := 5,
       balancing := .leastConn },
      { id := 2, domainId := 1, listenId := 3, destination := .sshLocal, sshPortId := 6,
        balancing := .ipHash }]

theorem streamGroups_crossedPorts : crossedPorts.streamGroups "ffus_" =
    [⟨443, 1, [⟨2, ⟨1, "a.example"⟩, "ffus_1", "127.0.0.1:2203", .ipHash, false⟩]⟩,
      ⟨8443, 2, [⟨1, ⟨1, "a.example"⟩, "ffus_1", "127.0.0.1:2202", .leastConn, false⟩]⟩] := by
  cbv

theorem build_crossedPorts : ∃ c stats, (build {} crossedPorts).1 = .ok (c, stats) :=
  exists_build_of_streams (by decide) streamGroups_crossedPorts (by decide +kernel)

theorem poolFor_crossedPorts : crossedPorts.poolFor "ffus_" ("", 1) =
    ⟨"ffus_1", [⟨"ip_hash", ""⟩], ["127.0.0.1:2203", "127.0.0.1:2202"]⟩ := by cbv

/-- By listener id the route of port 8443 would come first in the pool that it shares, and choose
how the pool balances. -/
theorem build_pools_notByListener :
    ∃ c stats, (build {} crossedPorts).1 = .ok (c, stats) ∧
      c.stream.pool? "ffus_1" =
        some ⟨"ffus_1", [⟨"ip_hash", ""⟩], ["127.0.0.1:2203", "127.0.0.1:2202"]⟩ ∧
      ((crossedPorts.listenersById.flatMap (crossedPorts.boundRoutesOf "ffus_")).map fun x =>
          (x.pair, x.route.balancing, x.binding.target)) =
        [(("", 1), .leastConn, "127.0.0.1:2202"), (("", 1), .ipHash, "127.0.0.1:2203")] := by
  obtain ⟨c, stats, h⟩ := build_crossedPorts
  refine ⟨c, stats, h, ?_, by cbv⟩
  rw [Block.pool?, (emitStream_ok (build_ok h).1).2.1,
    show ProxySettings.poolPrefix {} = "ffus_" from rfl, streamGroups_crossedPorts]
  decide

/-- The route of port 8443 leads to the pool that it shares with the one of port 443. -/
theorem build_pools_crossedPorts :
    ∃ c stats, (build {} crossedPorts).1 = .ok (c, stats) ∧
      ∃ x ∈ crossedPorts.boundRoutesOf "ffus_" ⟨2, 8443, .stream, false, .blacklist, ""⟩,
        c.stream.pool? x.binding.pool =
          some ⟨"ffus_1", [⟨"ip_hash", ""⟩], ["127.0.0.1:2203", "127.0.0.1:2202"]⟩ := by
  obtain ⟨c, stats, h⟩ := build_crossedPorts
  have hpairs : (crossedPorts.boundRoutesOf "ffus_"
      ⟨2, 8443, .stream, false, .blacklist, ""⟩).map (·.pair) = [("", 1)] := by cbv
  obtain ⟨x, hx, hpair⟩ := List.mem_map.1 (hpairs ▸ List.mem_cons_self)
  refine ⟨c, stats, h, x, hx, ?_⟩
  rw [(build_pools h).2.2 _ (by decide) rfl x hx, hpair]
  exact congrArg some poolFor_crossedPorts

end Portcullis
