import Portcullis.Proofs.Keys
import Portcullis.Proofs.Routing.Pools
import Mathlib

/-!
# All names of the stream block lead somewhere

Servers name maps, maps name pools, and pools hold targets.  This module says that the stream block
of a configuration has no loose ends: every name leads to a piece of the block, and every piece is
named.

* `Proxy.Block.Wired` says so of a block, without regard to the rows that it is made of.
* `Routing.Guards` says which listener guards a port: of all its stream listeners the one with the
  smallest id, whether or not it has routes.
* `streamServers_eq`, `streamMaps_eq` and `streamPools_eq` list the pieces of the block by the
  groups they are made of.
* `build_wired` is the main result.
-/

namespace Portcullis

open Portcullis.Proxy
open StreamBinding

namespace Proxy

/-- What the directives of a name say. -/
def Server.tells (v : Server) (name : String) : List String :=
  (v.directives.filter (·.name = name)).map (·.value)

/-- What a map can give: the values of its entries, and the default value. -/
def Map.values (m : Map) : List String :=
  m.entries.map Prod.snd ++ m.fallback.toList

/-- A block without loose ends. -/
structure Block.Wired (b : Block) : Prop where
  /-- No two servers listen on one port. -/
  ports : (b.servers.map (·.port)).Nodup
  /-- A server passes its clients on by one map, which is there once. -/
  passes : ∀ v ∈ b.servers, ∃ m, v.tells "proxy_pass" = [m.output] ∧
    b.maps.filter (·.output = m.output) = [m]
  /-- A map is used by one server. -/
  used : ∀ m ∈ b.maps, ∃ v, b.servers.filter (m.output ∈ ·.tells "proxy_pass") = [v]
  /-- What a map gives is the name of a pool. -/
  values : ∀ m ∈ b.maps, ∀ name ∈ m.values, name ∈ b.pools.map (·.name)
  /-- A pool is given by a map. -/
  named : ∀ p ∈ b.pools, ∃ m ∈ b.maps, p.name ∈ m.values
  /-- A pool has targets, each once. -/
  targets : ∀ p ∈ b.pools, p.targets ≠ [] ∧ p.targets.Nodup

end Proxy

/-! ## The guard of a port -/

/-- A stream listener guards a port: of all those of the port it has the smallest id. -/
structure Routing.Guards (r : Routing) (p : Int32) (first : Listener) : Prop where
  mem : first ∈ r.listeners
  kind : first.kind = .stream
  port : first.port = p
  least : ∀ l ∈ r.listeners, l.kind = .stream → l.port = p → first.id ≤ l.id

/-- Of listeners with distinct ids one at most guards a port. -/
theorem Routing.Guards.unique {r : Routing} (hids : (r.listeners.map Row.id).Nodup) {port : Int32}
    {l l' : Listener} (h : r.Guards port l) (h' : r.Guards port l') : l = l' :=
  List.inj_on_of_nodup_map hids h.mem h'.mem
    (UInt32.le_antisymm (h.least l' h'.mem h'.kind h'.port) (h'.least l h.mem h.kind h.port))

/-- The first stream listener of a port by id guards it. -/
theorem Routing.guards_of_head {r : Routing} {port : Int32} {first : Listener}
    (h : (r.streamListenersOn port).head? = some first) : r.Guards port first := by
  obtain ⟨hmem, hkind, hport⟩ := mem_streamListenersOn_iff.1 (List.mem_of_head? h)
  refine ⟨hmem, hkind, hport, fun l hl hlkind hlport => ?_⟩
  have hsorted : (r.streamListenersOn port).Pairwise fun a b => byId a b = true :=
    (List.pairwise_mergeSort byId_trans byId_total r.listeners).filter _
  have hmem' : l ∈ r.streamListenersOn port := mem_streamListenersOn_iff.2 ⟨hl, hlkind, hlport⟩
  cases hlist : r.streamListenersOn port with
  | nil => simp [hlist] at h
  | cons a rest =>
    rw [hlist] at h hsorted hmem'
    cases h
    rcases List.mem_cons.1 hmem' with rfl | hrest
    · exact UInt32.le_refl _
    · have hle : byId first l = true := (List.pairwise_cons.1 hsorted).1 l hrest
      exact of_decide_eq_true hle

/-! ## The pieces of the block -/

namespace Routing

variable (r : Routing) (lead : String)

/-- The groups of the ports on which a route resolves. -/
def bindingGroups : List StreamGroup :=
  StreamGroup.binding (r.streamGroups lead)

variable {r lead}

/-- A group that binds something is the one of a port on which something is bound. -/
theorem mem_bindingGroups_iff {g : StreamGroup} :
    g ∈ r.bindingGroups lead ↔ g ∈ r.streamGroups lead ∧ r.bindingsOn lead g.port ≠ [] := by
  rw [bindingGroups, StreamGroup.binding, List.mem_filter]
  refine and_congr_right fun hg => ?_
  simp [bindings_of_mem hg]

theorem nodup_bindingGroups : ((r.bindingGroups lead).map StreamGroup.port).Nodup :=
  (r.nodup_ports lead).sublist (List.filter_sublist.map _)

/-- The ports of the groups that bind something are those on which something is bound. -/
theorem mem_ports_bindingGroups_iff {port : Int32} :
    port ∈ (r.bindingGroups lead).map StreamGroup.port ↔ r.bindingsOn lead port ≠ [] := by
  rw [List.mem_map]
  constructor
  · rintro ⟨g, hg, rfl⟩
    exact (mem_bindingGroups_iff.1 hg).2
  · intro hne
    obtain ⟨g, hg, rfl⟩ := exists_group hne
    exact ⟨g, mem_bindingGroups_iff.2 ⟨hg, hne⟩, rfl⟩

/-- A group carries the id of the listener that guards its port. -/
theorem exists_guard {g : StreamGroup} (hg : g ∈ r.streamGroups lead) :
    ∃ first, (r.streamListenersOn g.port).head? = some first ∧ g.listenerId = first.id := by
  obtain ⟨first, hfirst, hgroup⟩ := (r.mem_streamGroups_iff lead g).1 hg
  exact ⟨first, hfirst, congrArg StreamGroup.listenerId hgroup⟩

/-- What is bound on any port is bound by a group that binds something. -/
theorem mem_flatMap_bindings_iff {b : StreamBinding} :
    b ∈ (r.streamGroups lead).flatMap (·.bindings) ↔
      ∃ g ∈ r.bindingGroups lead, b ∈ g.bindings := by
  rw [List.mem_flatMap]
  constructor
  · rintro ⟨g, hg, hb⟩
    refine ⟨g, mem_bindingGroups_iff.2 ⟨hg, fun hnil => ?_⟩, hb⟩
    rw [bindings_of_mem hg, hnil] at hb
    exact absurd hb List.not_mem_nil
  · rintro ⟨g, hg, hb⟩
    exact ⟨g, (mem_bindingGroups_iff.1 hg).1, hb⟩

end Routing

section Pieces

variable {s : ProxySettings} {r : Routing} {c : Config} {stats : Stats}

theorem streamServers_eq (h : (build s r).1 = .ok (c, stats)) :
    c.stream.servers = (r.bindingGroups s.poolPrefix).map (StreamGroup.server s) :=
  (emitStream_ok (build_ok h).1).2.2.2

theorem streamMaps_eq (h : (build s r).1 = .ok (c, stats)) :
    c.stream.maps = (r.bindingGroups s.poolPrefix).map StreamGroup.map :=
  (emitStream_ok (build_ok h).1).2.2.1

theorem streamPools_eq (h : (build s r).1 = .ok (c, stats)) :
    c.stream.pools = ((r.streamGroups s.poolPrefix).flatMap (·.bindings)).foldl enlist [] :=
  (emitStream_ok (build_ok h).1).2.1

/-- The servers' ports are those of the groups that bind something. -/
theorem map_port_streamServers (h : (build s r).1 = .ok (c, stats)) :
    c.stream.servers.map (·.port) =
      ((r.bindingGroups s.poolPrefix).map StreamGroup.port).map Int32.toInt := by
  rw [streamServers_eq h, List.map_map, List.map_map]
  rfl

theorem nodup_serverPorts (h : (build s r).1 = .ok (c, stats)) :
    (c.stream.servers.map (·.port)).Nodup := by
  rw [map_port_streamServers h]
  exact Routing.nodup_bindingGroups.map fun _ _ => Int32.toInt_inj.1

/-- On a port on which something is bound there is one server, the one of the port's group. -/
theorem server_of_build (h : (build s r).1 = .ok (c, stats)) {port : Int32}
    (hport : r.bindingsOn s.poolPrefix port ≠ []) :
    ∃ first, (r.streamListenersOn port).head? = some first ∧
      c.stream.servers.filter (·.port = port.toInt) =
        [StreamGroup.server s ⟨port, first.id, r.bindingsOn s.poolPrefix port⟩] := by
  obtain ⟨g, hg, rfl⟩ := Routing.exists_group hport
  obtain ⟨first, hfirst, hgroup⟩ := (r.mem_streamGroups_iff s.poolPrefix g).1 hg
  refine ⟨first, hfirst, ?_⟩
  have hmem : g.server s ∈ c.stream.servers := by
    rw [streamServers_eq h]
    exact List.mem_map_of_mem (Routing.mem_bindingGroups_iff.2 ⟨hg, hport⟩)
  rw [← hgroup]
  exact filter_key_eq_singleton (nodup_serverPorts h) hmem

end Pieces

/-- The server of a stream port sets one variable, to the id of the group's listener. -/
theorem StreamGroup.set_directives (s : ProxySettings) (g : StreamGroup) :
    (g.server s).directives.filter (·.name = "set") =
      [⟨"set", s.listenIdVariable ++ " " ++ idText g.listenerId⟩] := by
  simp [StreamGroup.server]

/-- The server of a stream port passes its clients on by the map of the port. -/
theorem StreamGroup.tells_proxyPass (s : ProxySettings) (g : StreamGroup) :
    (g.server s).tells "proxy_pass" = [portVariable g.port] := by
  simp [StreamGroup.server, Server.tells]

/-! ## Maps and pools -/

/-- The map of compatible bindings gives the pools of the bindings. -/
theorem StreamGroup.mem_values_map_iff {g : StreamGroup} (hg : Compatible g.bindings)
    {name : String} : name ∈ g.map.values ↔ ∃ b ∈ g.bindings, b.pool = name := by
  have hvalues : g.map.values =
      (allNamed g.bindings).map (·.pool) ++ ((catchAlls g.bindings).head?.map (·.pool)).toList := by
    rw [Map.values, StreamGroup.map, Map.holding, List.map_map]
    rfl
  rw [hvalues, List.mem_append, List.mem_map, Option.mem_toList, Option.map_eq_some_iff]
  constructor
  · rintro (⟨b, hb, rfl⟩ | ⟨b, hb, rfl⟩)
    · exact ⟨b, List.mem_of_mem_filter hb, rfl⟩
    · exact ⟨b, List.mem_of_mem_filter (List.mem_of_head? hb), rfl⟩
  · rintro ⟨b, hb, rfl⟩
    cases hcatch : b.isCatchAll with
    | false => exact .inl ⟨b, List.mem_filter.2 ⟨hb, by simp [hcatch]⟩, rfl⟩
    | true =>
      -- There is one catch-all at most, so that the first of them is this one.
      have hmem : b ∈ catchAlls g.bindings := List.mem_filter.2 ⟨hb, hcatch⟩
      have hone := hg.one_catchAll
      cases hall : catchAlls g.bindings with
      | nil => simp [hall] at hmem
      | cons a rest =>
        rw [hall, List.length_cons] at hone
        obtain rfl : rest = [] := List.eq_nil_of_length_eq_zero (by omega)
        rw [hall, List.mem_singleton] at hmem
        exact .inr ⟨a, rfl, congrArg _ hmem.symm⟩

/-- A pool that bindings have set up is set up by the first binding that names it, and holds the
targets of all that do. -/
theorem StreamBinding.eq_addTargets_of_mem {bs : List StreamBinding} {p : Pool}
    (h : p ∈ bs.foldl enlist []) :
    ∃ b rest, sharing p.name bs = b :: rest ∧ p = addTargets b.freshPool (b :: rest) := by
  have hnames : ((bs.foldl enlist []).map (·.name)).Nodup := by
    rw [names_foldl_enlist]
    exact nodup_eraseDups _
  have hfound : (bs.foldl enlist []).find? (·.name == p.name) = some p :=
    (find?_key_eq_some_iff hnames).2 ⟨h, rfl⟩
  rw [find?_foldl_enlist] at hfound
  cases hshare : sharing p.name bs with
  | nil => simp [hshare] at hfound
  | cons b rest =>
    rw [hshare] at hfound
    exact ⟨b, rest, rfl, (Option.some.inj hfound).symm⟩

/-- A pool that bindings have set up has targets, each once. -/
theorem StreamBinding.targets_of_mem {bs : List StreamBinding} {p : Pool}
    (h : p ∈ bs.foldl enlist []) : p.targets ≠ [] ∧ p.targets.Nodup := by
  obtain ⟨b, rest, -, hp⟩ := eq_addTargets_of_mem h
  have hfresh : b.freshPool.targets = [] := by rw [freshPool_eq]
  rw [hp, addTargets_eq _ hfresh]
  refine ⟨List.ne_nil_of_mem (a := b.target) ?_, nodup_eraseDups _⟩
  rw [List.mem_eraseDups]
  exact List.mem_map_of_mem List.mem_cons_self

/-! ## The whole block -/

section Whole

variable {s : ProxySettings} {r : Routing} {c : Config} {stats : Stats}

/-- The bindings of a group of a configuration do not contradict each other. -/
theorem compatible_of_build (h : (build s r).1 = .ok (c, stats)) {g : StreamGroup}
    (hg : g ∈ r.bindingGroups s.poolPrefix) : Compatible g.bindings :=
  (emitStream_ok (build_ok h).1).1 g (Routing.mem_bindingGroups_iff.1 hg).1

theorem mem_poolNames_iff (h : (build s r).1 = .ok (c, stats)) {name : String} :
    name ∈ c.stream.pools.map (·.name) ↔
      ∃ m ∈ c.stream.maps, name ∈ m.values := by
  rw [streamPools_eq h, names_foldl_enlist, List.mem_eraseDups, List.mem_map, streamMaps_eq h]
  constructor
  · rintro ⟨b, hb, rfl⟩
    obtain ⟨g, hg, hbg⟩ := Routing.mem_flatMap_bindings_iff.1 hb
    refine ⟨g.map, List.mem_map_of_mem hg, ?_⟩
    exact (StreamGroup.mem_values_map_iff (compatible_of_build h hg)).2 ⟨b, hbg, rfl⟩
  · rintro ⟨m, hm, hname⟩
    obtain ⟨g, hg, rfl⟩ := List.mem_map.1 hm
    obtain ⟨b, hb, rfl⟩ :=
      (StreamGroup.mem_values_map_iff (compatible_of_build h hg)).1 hname
    exact ⟨b, Routing.mem_flatMap_bindings_iff.2 ⟨g, hg, hb⟩, rfl⟩

theorem nodup_outputs (h : (build s r).1 = .ok (c, stats)) :
    (c.stream.maps.map (·.output)).Nodup := by
  have houtputs : c.stream.maps.map (·.output) =
      ((r.bindingGroups s.poolPrefix).map StreamGroup.port).map portVariable := by
    rw [streamMaps_eq h, List.map_map, List.map_map]
    rfl
  rw [houtputs]
  exact Routing.nodup_bindingGroups.map fun _ _ => portVariable_injective

theorem stream_wired (h : (build s r).1 = .ok (c, stats)) : c.stream.Wired where
  ports := nodup_serverPorts h
  passes v hv := by
    rw [streamServers_eq h] at hv
    obtain ⟨g, hg, rfl⟩ := List.mem_map.1 hv
    have hmem : g.map ∈ c.stream.maps := by
      rw [streamMaps_eq h]
      exact List.mem_map_of_mem hg
    exact ⟨g.map, g.tells_proxyPass s, filter_key_eq_singleton (nodup_outputs h) hmem⟩
  used m hm := by
    rw [streamMaps_eq h] at hm
    obtain ⟨g, hg, rfl⟩ := List.mem_map.1 hm
    refine ⟨g.server s, ?_⟩
    have hone : (r.bindingGroups s.poolPrefix).filter (·.port = g.port) = [g] :=
      filter_key_eq_singleton Routing.nodup_bindingGroups hg
    have huses : ∀ g' : StreamGroup,
        decide (g.map.output ∈ (g'.server s).tells "proxy_pass") = decide (g'.port = g.port) := by
      intro g'
      rw [decide_eq_decide, g'.tells_proxyPass s, List.mem_singleton]
      exact ⟨fun heq => (portVariable_injective heq).symm, fun heq => congrArg portVariable heq.symm⟩
    rw [streamServers_eq h, List.filter_map, ← List.map_singleton, ← hone]
    exact congrArg _ (List.filter_congr fun g' _ => huses g')
  values m hm name hname := (mem_poolNames_iff h).2 ⟨m, hm, hname⟩
  named p hp := (mem_poolNames_iff h).1 (List.mem_map_of_mem hp)
  targets p hp := targets_of_mem (streamPools_eq h ▸ hp)

/-- Where no route resolves on any port nothing is put into the stream block, and otherwise there
are servers. -/
theorem stream_eq_empty_iff (h : (build s r).1 = .ok (c, stats)) :
    c.stream = Block.empty .stream ↔ ∀ port, r.bindingsOn s.poolPrefix port = [] := by
  constructor
  · intro hempty port
    by_contra hport
    obtain ⟨first, -, hserver⟩ := server_of_build h hport
    rw [hempty] at hserver
    cases hserver
  · intro hnone
    have hgroups : (r.streamGroups s.poolPrefix).all (·.bindings.isEmpty) = true := by
      rw [List.all_eq_true]
      intro g hg
      rw [Routing.bindings_of_mem hg, hnone]
      rfl
    have hemit := (build_ok h).1
    rw [emitStream, if_pos hgroups] at hemit
    exact (congrArg Prod.fst hemit).symm

end Whole

/-- The stream block of a configuration is wired. Its servers listen on the ports on which a route
resolves, each tells the id of the listener that guards its port, and where no route resolves there
is nothing in the block at all. -/
theorem build_wired {s : ProxySettings} {r : Routing} {c : Config} {stats : Stats}
    (h : (build s r).1 = .ok (c, stats)) :
    c.stream.Wired ∧
      (∀ port : Int, port ∈ c.stream.servers.map (·.port) ↔
        ∃ p : Int32, p.toInt = port ∧ r.bindingsOn s.poolPrefix p ≠ []) ∧
      (∀ v ∈ c.stream.servers, ∃ p first, v.port = p.toInt ∧ r.Guards p first ∧
        v.tells "set" = [s.listenIdVariable ++ " " ++ idText first.id]) ∧
      (c.stream = Block.empty .stream ↔ ∀ p, r.bindingsOn s.poolPrefix p = []) := by
  refine ⟨stream_wired h, fun port => ?_, fun v hv => ?_, stream_eq_empty_iff h⟩
  · rw [map_port_streamServers h, List.mem_map]
    simp only [Routing.mem_ports_bindingGroups_iff, and_comm]
  · rw [streamServers_eq h] at hv
    obtain ⟨g, hg, rfl⟩ := List.mem_map.1 hv
    obtain ⟨first, hfirst, hid⟩ := Routing.exists_guard (Routing.mem_bindingGroups_iff.1 hg).1
    refine ⟨g.port, first, rfl, Routing.guards_of_head hfirst, ?_⟩
    rw [Server.tells, g.set_directives s, hid]
    rfl

/-- The listener of id 1 has no routes, but it is the one that the server of port 443 tells, and the
pool that two ports share is given by both their maps. -/
theorem build_wired_crossedPorts :
    ∃ c stats, (build {} crossedPorts).1 = .ok (c, stats) ∧ c.stream.Wired ∧
      (443 : Int) ∈ c.stream.servers.map (·.port) ∧ (80 : Int) ∉ c.stream.servers.map (·.port) ∧
      ∃ v ∈ c.stream.servers, v.port = 443 ∧ v.tells "set" = ["$ff_listen_id 1"] := by
  obtain ⟨c, stats, h⟩ := build_crossedPorts
  obtain ⟨hwired, hports, hset, -⟩ := build_wired h
  have h443 : crossedPorts.bindingsOn "ffus_" 443 ≠ [] := by
    intro hnil
    have hlength : (crossedPorts.bindingsOn "ffus_" 443).length = 1 := by cbv
    simp [hnil] at hlength
  have hmem : (443 : Int) ∈ c.stream.servers.map (·.port) := (hports 443).2 ⟨443, by decide, h443⟩
  refine ⟨c, stats, h, hwired, hmem, ?_, ?_⟩
  · rw [hports]
    rintro ⟨p, hp, hbound⟩
    obtain rfl : p = 80 := Int32.toInt_inj.1 hp
    exact hbound (by cbv)
  · obtain ⟨v, hv, hport⟩ := List.mem_map.1 hmem
    obtain ⟨p, first, hp, hguards, hid⟩ := hset v hv
    obtain rfl : p = 443 := Int32.toInt_inj.1 (hp.symm.trans hport)
    have hids : (crossedPorts.listeners.map Row.id).Nodup := by decide
    have hfirst : crossedPorts.Guards 443 ⟨1, 443, .stream, false, .blacklist, ""⟩ :=
      ⟨by decide, rfl, rfl, by decide⟩
    obtain rfl := hguards.unique hids hfirst
    refine ⟨v, hv, hport, hid.trans ?_⟩
    decide +kernel

end Portcullis
