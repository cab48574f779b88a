import Portcullis.Proofs.Routing.Emission
import Portcullis.Proofs.Routing.Grouping
import Portcullis.Proofs.Text.Decimal
import Mathlib

/-!
# Server names reach the pools that the routes name

The stream part of a configuration decides by the server name that a client asks for.  This
module says that it decides as the routes do, port by port.

* `Serves` is what a map owes to the bindings of its port: it holds one entry for each named
  binding and nothing else, it reads every name as the bindings do, and every pool that it names
  is there and holds the target of the binding.
* `build_serves` says that each port on which a route resolves has such a map, and that there are
  no other maps.

The map of a port is found by its output variable, so the proof needs that two ports have two
variables (`portVariable_injective`).
-/

namespace Portcullis

open Portcullis.Proxy
open Portcullis.Text
open StreamBinding

/-- How the map of a port serves the bindings of the port, with the pools of a block. -/
structure Serves (stream : Block) (m : Map) (bs : List StreamBinding) : Prop where
  /-- The map reads the name that the client asks for. -/
  input : m.input = serverNameVariable
  /-- Each named binding has its entry, and every entry is the one of a named binding. -/
  entries : m.entries = (allNamed bs).map entry
  /-- The default value is that of the catch-all. -/
  fallback : m.fallback = (catchAlls bs).head?.map (·.pool)
  /-- No two named bindings have one name. -/
  one_named : ∀ name, (namedBy name bs).length ≤ 1
  /-- There is one catch-all at most. -/
  one_catchAll : (catchAlls bs).length ≤ 1
  /-- The named binding of a name decides; without one the catch-all, and without both nothing. -/
  value : ∀ name, m.valueFor? name = ((namedBy name bs ++ catchAlls bs).head?).map (·.pool)
  /-- The pool of a binding is there and holds the binding's target. -/
  pools : ∀ b ∈ bs, ∃ p, stream.pool? b.pool = some p ∧ b.target ∈ p.targets

theorem StreamBinding.Compatible.length_namedBy {bs : List StreamBinding} (h : Compatible bs)
    (name : String) : (namedBy name bs).length ≤ 1 := by
  have hcount : ((allNamed bs).map fun b => b.domain.name).count name ≤ 1 :=
    List.nodup_iff_count.1 h.nodup_names name
  rwa [List.count_eq_countP, List.countP_map, List.countP_eq_length_filter] at hcount

/-- The map of compatible bindings reads every name as they do. -/
theorem StreamBinding.Compatible.serves {bs : List StreamBinding} (h : Compatible bs)
    {stream : Block} (output : String)
    (hpools : ∀ b ∈ bs, ∃ p, stream.pool? b.pool = some p ∧ b.target ∈ p.targets) :
    Serves stream (.holding serverNameVariable output bs) bs where
  input := rfl
  entries := rfl
  fallback := rfl
  one_named := h.length_namedBy
  one_catchAll := h.one_catchAll
  value name := Map.valueFor?_holding serverNameVariable output name bs
  pools := hpools

/-- The blocks' maps are those of the ports on which a route resolves. -/
theorem mem_maps_iff {s : ProxySettings} {r : Routing} {c : Config} {stats : Stats}
    (h : (build s r).1 = .ok (c, stats)) (m : Map) :
    m ∈ c.stream.maps ↔ ∃ port, r.bindingsOn s.poolPrefix port ≠ [] ∧
      m = .holding serverNameVariable (portVariable port) (r.bindingsOn s.poolPrefix port) := by
  obtain ⟨-, -, hmaps, -⟩ := emitStream_ok (build_ok h).1
  rw [hmaps, List.mem_map]
  constructor
  · rintro ⟨g, hg, rfl⟩
    obtain ⟨hmem, hne⟩ := List.mem_filter.1 hg
    have hbindings := Routing.bindings_of_mem hmem
    exact ⟨g.port, by simpa [hbindings] using hne, by rw [StreamGroup.map, hbindings]⟩
  · rintro ⟨port, hne, rfl⟩
    obtain ⟨g, hmem, rfl⟩ := Routing.exists_group hne
    have hbindings := Routing.bindings_of_mem hmem
    refine ⟨g, List.mem_filter.2 ⟨hmem, ?_⟩, by rw [StreamGroup.map, hbindings]⟩
    simpa [hbindings] using hne

/-- The map that is found under a port's variable is the one of the port. -/
theorem map?_portVariable {s : ProxySettings} {r : Routing} {c : Config} {stats : Stats}
    (h : (build s r).1 = .ok (c, stats)) {port : Int32}
    (hport : r.bindingsOn s.poolPrefix port ≠ []) :
    c.stream.map? (portVariable port) =
      some (.holding serverNameVariable (portVariable port)
        (r.bindingsOn s.poolPrefix port)) := by
  have hmem := (mem_maps_iff h _).2 ⟨port, hport, rfl⟩
  cases hfind : c.stream.map? (portVariable port) with
  | none =>
    have := List.find?_eq_none.1 hfind _ hmem
    simp [Map.holding] at this
  | some m =>
    obtain ⟨q, hq, rfl⟩ := (mem_maps_iff h m).1 (List.mem_of_find?_eq_some hfind)
    have hout : portVariable q = portVariable port := by
      simpa [Map.holding] using List.find?_some hfind
    rw [portVariable_injective hout]

/-- Server names are routed as the rows say: on every port where a route resolves there is a map
that serves what the routes of the port bind, and no other maps exist. -/
theorem build_serves {s : ProxySettings} {r : Routing} {c : Config} {stats : Stats}
    (h : (build s r).1 = .ok (c, stats)) :
    (∀ port, r.bindingsOn s.poolPrefix port ≠ [] →
      ∃ m, c.stream.map? (portVariable port) = some m ∧
        Serves c.stream m (r.bindingsOn s.poolPrefix port)) ∧
      ∀ m ∈ c.stream.maps,
        ∃ port, r.bindingsOn s.poolPrefix port ≠ [] ∧ m.output = portVariable port := by
  obtain ⟨hcompat, hpools, -, -⟩ := emitStream_ok (build_ok h).1
  refine ⟨fun port hport => ⟨_, map?_portVariable h hport, ?_⟩, fun m hm => ?_⟩
  · obtain ⟨g, hg, rfl⟩ := Routing.exists_group hport
    have hbindings := Routing.bindings_of_mem hg
    rw [← hbindings]
    refine (hcompat g hg).serves _ fun b hb => ?_
    have hb' : b ∈ (r.streamGroups s.poolPrefix).flatMap (·.bindings) :=
      List.mem_flatMap.2 ⟨g, hg, hb⟩
    obtain ⟨p, hfind, htarget⟩ := exists_pool_of_mem hb'
    exact ⟨p, by rw [Block.pool?, hpools, hfind], htarget⟩
  · obtain ⟨port, hport, rfl⟩ := (mem_maps_iff h m).1 hm
    exact ⟨port, hport, rfl⟩

/-- Two listeners share port 443, and a third listens elsewhere. The first route to be listed is
a catch-all by its domain's name, and two ports share the pool of one domain. -/
def sharedPort : Routing where
  listeners := [⟨7, 443, .stream, false, .blacklist, ""⟩, ⟨9, 8443, .stream, true, .whitelist, ""⟩,
    ⟨3, 443, .stream, false, .blacklist, ""⟩]
  domains := .ofList [⟨1, "a.example"⟩, ⟨2, "b.example"⟩, ⟨4, "default"⟩]
  sshPorts := .ofList [⟨5, 2222⟩]
  streamRoutes :=
    [{ id := 1, domainId := 4, listenId := 7, destination := .sshLocal, sshPortId := 5 },
      { id := 2, domainId := 1, listenId := 3, destination := .sshRemote, sshPortId := 5 },
      { id := 3, domainId := 2, listenId := 7, destination := .listener, targetListenId := 9 },
      { id := 4, domainId := 8, listenId := 7, destination := .listener, targetListenId := 9 },
      { id := 5, domainId := 1, listenId := 9, destination := .listener, targetListenId := 3 }]

/-- What the first three routes of `sharedPort` bind on port 443, by listener id. -/
def sharedBindings : List StreamBinding :=
  [⟨2, ⟨1, "a.example"⟩, "ffus_1", "127.0.0.1:2222", .none, false⟩,
    ⟨1, ⟨4, "default"⟩, "ffus_4", "127.0.0.1:2222", .none, false⟩,
    ⟨3, ⟨2, "b.example"⟩, "ffus_2", "127.0.0.1:8443", .none, false⟩]

theorem streamGroups_sharedPort : sharedPort.streamGroups "ffus_" =
    [⟨443, 3, sharedBindings⟩,
      ⟨8443, 9, [⟨5, ⟨1, "a.example"⟩, "ffus_1", "127.0.0.1:443", .none, false⟩]⟩] := by cbv

theorem bindingsOn_sharedPort : sharedPort.bindingsOn "ffus_" 443 = sharedBindings := by
  have hmem : ⟨443, 3, sharedBindings⟩ ∈ sharedPort.streamGroups "ffus_" := by
    rw [streamGroups_sharedPort]
    exact List.mem_cons_self
  exact (Routing.bindings_of_mem hmem).symm

theorem build_sharedPort : ∃ c stats, (build {} sharedPort).1 = .ok (c, stats) :=
  exists_build_of_streams (by decide) streamGroups_sharedPort (by decide +kernel)

/-- On the shared port a name with a route reaches the pool of the route, and any other name that
of the catch-all. -/
theorem build_serves_sharedPort :
    ∃ c stats, (build {} sharedPort).1 = .ok (c, stats) ∧
      sharedPort.bindingsOn "ffus_" 443 ≠ [] ∧
        ∃ m, c.stream.map? (portVariable 443) = some m ∧
          m.valueFor? "b.example" = some "ffus_2" ∧ m.valueFor? "c.example" = some "ffus_4" := by
  obtain ⟨c, stats, h⟩ := build_sharedPort
  have hne : sharedPort.bindingsOn "ffus_" 443 ≠ [] := by
    rw [bindingsOn_sharedPort]
    decide
  obtain ⟨m, hm, hserves⟩ := (build_serves h).1 443 hne
  refine ⟨c, stats, h, hne, m, hm, ?_, ?_⟩
  · rw [hserves.value, show ProxySettings.poolPrefix {} = "ffus_" from rfl,
      bindingsOn_sharedPort]
    decide
  · rw [hserves.value, show ProxySettings.poolPrefix {} = "ffus_" from rfl,
      bindingsOn_sharedPort]
    decide

end Portcullis
