import Portcullis.Proofs.Routing.Wiring
import Portcullis.Store.Basic
import Mathlib

/-!
# Changes on one stream port

Pools are shared between the ports, and the port that comes first sets them up.  Still, what the
stream routes of one port are does not show on the other ports.

* `Snapshot.SameExceptOn` relates snapshots that differ in the stream routes of one port at most.
  Where listeners have distinct ids a route is on one port, and so all routes of that port may
  differ (`Snapshot.sameExceptOn_of_distinctIds`).
* `SameExceptOn.filter_bindingGroups_eq` says that every other port has the same group in both
  snapshots, and `SameExceptOn.boundRoutesFor_eq` that a pair of alias and domain has the same bound
  routes, if it has none on the port.
* `build_local` is the main result.

Listeners of one id may be on two ports.  Their routes are on both, and do not belong to one port.
-/

namespace Portcullis

open Portcullis.Proxy
open StreamBinding

/-! ## Snapshots that differ on one port -/

/-- A stream route belongs to a stream listener of the port. -/
def StreamRoute.IsOn (ls : List Listener) (port : Int32) (x : StreamRoute) : Prop :=
  ∃ l ∈ ls, (l.kind = .stream ∧ l.port = port) ∧ l.id = x.listenId

instance (ls : List Listener) (port : Int32) (x : StreamRoute) : Decidable (x.IsOn ls port) :=
  inferInstanceAs (Decidable (∃ l ∈ ls, (l.kind = .stream ∧ l.port = port) ∧ l.id = x.listenId))

/-- Of listeners with distinct ids one at most has a route, and so the route is on one port. -/
theorem StreamRoute.IsOn.unique {ls : List Listener} (hids : (ls.map Row.id).Nodup)
    {x : StreamRoute} {p q : Int32} (hp : x.IsOn ls p) (hq : x.IsOn ls q) : p = q := by
  obtain ⟨l, hl, ⟨-, rfl⟩, hid⟩ := hp
  obtain ⟨l', hl', ⟨-, rfl⟩, hid'⟩ := hq
  rw [List.inj_on_of_nodup_map hids hl hl' (hid.trans hid'.symm)]

/-- A selection of what was selected already. -/
theorem filter_filter_of_imp {α : Type} {p q : α → Prop} [DecidablePred p] [DecidablePred q]
    (h : ∀ x, q x → p x) (xs : List α) : (xs.filter (p ·)).filter (q ·) = xs.filter (q ·) := by
  rw [List.filter_filter]
  refine List.filter_congr fun x _ => ?_
  by_cases hx : q x <;> simp [hx, h]

namespace Snapshot

/-- Two snapshots have the same routing rows, except for the stream routes of one port: every other
port has the same stream routes. -/
structure SameExceptOn (port : Int32) (s t : Snapshot) : Prop where
  listeners : s.listeners = t.listeners
  domains : s.domains = t.domains
  sshPorts : s.sshPorts = t.sshPorts
  httpRoutes : s.httpRoutes = t.httpRoutes
  others : ∀ q ≠ port, (s.streamRoutes.filter fun x => x.IsOn s.listeners q) =
    t.streamRoutes.filter fun x => x.IsOn s.listeners q

/-- Where listeners have distinct ids, all routes of the port may differ. -/
theorem sameExceptOn_of_distinctIds {port : Int32} {s : Snapshot} {rows : List StreamRoute}
    (hids : (s.listeners.map Row.id).Nodup)
    (h : (s.streamRoutes.filter fun x => ¬x.IsOn s.listeners port) =
      rows.filter fun x => ¬x.IsOn s.listeners port) :
    SameExceptOn port s { s with streamRoutes := rows } := by
  refine ⟨rfl, rfl, rfl, rfl, fun q hq => ?_⟩
  have hother : ∀ x : StreamRoute, x.IsOn s.listeners q → ¬x.IsOn s.listeners port :=
    fun x hxq hxp => hq (hxq.unique hids hxp)
  rw [← filter_filter_of_imp hother, h, filter_filter_of_imp hother]

end Snapshot

/-! ## The other ports -/

namespace Routing

/-- The routes of a port that bind something. -/
def boundRoutesOn (r : Routing) (lead : String) (port : Int32) : List BoundRoute :=
  (r.streamListenersOn port).flatMap (r.boundRoutesOf lead)

theorem map_binding_boundRoutesOn (r : Routing) (lead : String) (port : Int32) :
    (r.boundRoutesOn lead port).map (·.binding) = r.bindingsOn lead port := by
  rw [boundRoutesOn, bindingsOn, List.map_flatMap]
  exact List.flatMap_congr fun l _ => r.map_binding_boundRoutesOf lead l

/-- The group of a port, if it binds something, is the only one of the port. -/
theorem filter_bindingGroups (r : Routing) (lead : String) (port : Int32) :
    (r.bindingGroups lead).filter (·.port = port) =
      StreamGroup.binding (((r.streamListenersOn port).head?.map fun l =>
        ⟨port, l.id, r.bindingsOn lead port⟩).toList) := by
  have hone : (r.streamGroups lead).filter (·.port = port) =
      (StreamGroup.on? port (r.streamGroups lead)).toList := by
    cases hon : StreamGroup.on? port (r.streamGroups lead) with
    | none => simpa [StreamGroup.on?] using hon
    | some g =>
      obtain ⟨hg, rfl⟩ := (StreamGroup.on?_eq_some_iff (r.nodup_ports lead)).1 hon
      exact filter_key_eq_singleton (r.nodup_ports lead) hg
  rw [← on?_streamGroups, ← hone, bindingGroups, StreamGroup.binding, StreamGroup.binding,
    List.filter_comm]

end Routing

namespace Snapshot.SameExceptOn

variable {port : Int32} {s t : Snapshot} (h : s.SameExceptOn port t) (lead : String)
include h

theorem listenersById_eq : s.routing.listenersById = t.routing.listenersById :=
  congrArg (List.mergeSort · byId) h.listeners

theorem streamListenersOn_eq : s.routing.streamListenersOn = t.routing.streamListenersOn := by
  funext q
  rw [Routing.streamListenersOn, Routing.streamListenersOn, h.listenersById_eq]

/-- A stream route binds the same in both snapshots. -/
theorem bindingOf?_eq : s.routing.bindingOf? lead = t.routing.bindingOf? lead := by
  have hdomains : s.routing.domains = t.routing.domains := congrArg Table.ofList h.domains
  have hsshPorts : s.routing.sshPorts = t.routing.sshPorts := congrArg Table.ofList h.sshPorts
  funext x
  unfold Routing.bindingOf? Routing.targetOf?
  rw [hdomains, hsshPorts, h.listenersById_eq]

/-- A listener of another port has the same stream routes in both snapshots. -/
theorem streamRoutesOf_eq {l : Listener} {q : Int32} (hq : q ≠ port)
    (hl : l ∈ s.routing.streamListenersOn q) :
    s.routing.streamRoutesOf l.id = t.routing.streamRoutesOf l.id := by
  obtain ⟨hmem, hon⟩ := Routing.mem_streamListenersOn_iff.1 hl
  have hison : ∀ x : StreamRoute, x.listenId = l.id → x.IsOn s.listeners q :=
    fun x hx => ⟨l, hmem, hon, hx.symm⟩
  show (s.streamRoutes.filter (·.listenId = l.id)).mergeSort _ =
    (t.streamRoutes.filter (·.listenId = l.id)).mergeSort _
  rw [← filter_filter_of_imp hison, h.others q hq, filter_filter_of_imp hison]

/-- Another port has the same bound routes in both snapshots. -/
theorem boundRoutesOn_eq {q : Int32} (hq : q ≠ port) :
    s.routing.boundRoutesOn lead q = t.routing.boundRoutesOn lead q := by
  rw [Routing.boundRoutesOn, Routing.boundRoutesOn, ← h.streamListenersOn_eq]
  refine List.flatMap_congr fun l hl => ?_
  rw [Routing.boundRoutesOf, Routing.boundRoutesOf, h.streamRoutesOf_eq hq hl,
    h.bindingOf?_eq]

theorem filter_bindingGroups_eq {q : Int32} (hq : q ≠ port) :
    (s.routing.bindingGroups lead).filter (·.port = q) =
      (t.routing.bindingGroups lead).filter (·.port = q) := by
  rw [Routing.filter_bindingGroups, Routing.filter_bindingGroups, h.streamListenersOn_eq,
    ← Routing.map_binding_boundRoutesOn, ← Routing.map_binding_boundRoutesOn,
    h.boundRoutesOn_eq lead hq]

/-- A pair that no route of the port has, has the same bound routes in both snapshots. -/
theorem boundRoutesFor_eq {pair : String × UInt32}
    (hs : ∀ x ∈ s.routing.boundRoutesOn lead port, x.pair ≠ pair)
    (ht : ∀ x ∈ t.routing.boundRoutesOn lead port, x.pair ≠ pair) :
    s.routing.boundRoutesFor lead pair = t.routing.boundRoutesFor lead pair := by
  have hports : s.routing.streamPorts = t.routing.streamPorts := by
    rw [Routing.streamPorts, Routing.streamPorts, h.listenersById_eq]
  rw [Routing.boundRoutesFor, Routing.boundRoutesFor, Routing.boundRoutes, Routing.boundRoutes,
    hports, List.filter_flatMap, List.filter_flatMap]
  refine List.flatMap_congr fun q _ => ?_
  show (s.routing.boundRoutesOn lead q).filter _ = (t.routing.boundRoutesOn lead q).filter _
  by_cases hq : q = port
  · subst hq
    rw [List.filter_eq_nil_iff.2 (by simpa using hs), List.filter_eq_nil_iff.2 (by simpa using ht)]
  · rw [h.boundRoutesOn_eq lead hq]

theorem httpGroups_eq : s.routing.httpGroups = t.routing.httpGroups := by
  have hdomains : s.routing.domains = t.routing.domains := congrArg Table.ofList h.domains
  have hroutes : s.routing.httpRoutes = t.routing.httpRoutes := h.httpRoutes
  have hstep : s.routing.withHosts = t.routing.withHosts := by
    funext gs l
    rw [Routing.withHosts, Routing.withHosts, Routing.hostsOf, Routing.hostsOf,
      Routing.httpRoutesOf, Routing.httpRoutesOf, hdomains, hroutes]
  rw [Routing.httpGroups, Routing.httpGroups, hstep, h.listenersById_eq]

end Snapshot.SameExceptOn

/-! ## Building -/

section Build

variable {settings : ProxySettings} {r : Routing} {c : Config} {stats : Stats}

/-- The servers of a port are those of its group. -/
theorem filter_streamServers (h : (build settings r).1 = .ok (c, stats)) (port : Int32) :
    c.stream.servers.filter (·.port = port.toInt) =
      ((r.bindingGroups settings.poolPrefix).filter (·.port = port)).map
        (StreamGroup.server settings) := by
  rw [streamServers_eq h, List.filter_map]
  congr 1
  refine List.filter_congr fun g _ => decide_eq_decide.2 ?_
  exact Int32.toInt_inj

/-- The maps of a port are those of its group. -/
theorem filter_streamMaps (h : (build settings r).1 = .ok (c, stats)) (port : Int32) :
    c.stream.maps.filter (·.output = portVariable port) =
      ((r.bindingGroups settings.poolPrefix).filter (·.port = port)).map StreamGroup.map := by
  rw [streamMaps_eq h, List.filter_map]
  congr 1
  refine List.filter_congr fun g _ => decide_eq_decide.2 ?_
  exact ⟨portVariable_injective, congrArg portVariable⟩

/-- The pool of a pair is the one that its bound routes ask for. -/
theorem pool?_of_build (h : (build settings r).1 = .ok (c, stats)) (pair : String × UInt32) :
    c.stream.pool? (poolName settings.poolPrefix pair.1 pair.2) =
      (r.boundRoutesFor settings.poolPrefix pair).head?.map fun _ =>
        r.poolFor settings.poolPrefix pair := by
  rw [Block.pool?, streamPools_eq h, Routing.flatMap_bindings_streamGroups]
  exact Routing.find?_poolName pair

end Build

/-- Changes on one stream port stay there. If two snapshots that differ in the stream routes of one
port at most are both compiled, then the maps and the servers of every other stream port are the
same, the pool of every pair of alias and domain that no bound route of the port has is the same or
missing in both, and so is the whole http block. -/
theorem build_local {settings : ProxySettings} {port : Int32} {s t : Snapshot}
    (hst : s.SameExceptOn port t) {path path' : Option String} {c c' : Config}
    {stats stats' : Stats}
    (h : (build settings (Store.ofSnapshot s path).routing).1 = .ok (c, stats))
    (h' : (build settings (Store.ofSnapshot t path').routing).1 = .ok (c', stats')) :
    (∀ q ≠ port,
      c.stream.maps.filter (·.output = portVariable q) =
          c'.stream.maps.filter (·.output = portVariable q) ∧
        c.stream.servers.filter (·.port = q.toInt) =
          c'.stream.servers.filter (·.port = q.toInt)) ∧
      (∀ pair,
        (∀ x ∈ s.routing.boundRoutesOn settings.poolPrefix port, x.pair ≠ pair) →
        (∀ x ∈ t.routing.boundRoutesOn settings.poolPrefix port, x.pair ≠ pair) →
          c.stream.pool? (poolName settings.poolPrefix pair.1 pair.2) =
            c'.stream.pool? (poolName settings.poolPrefix pair.1 pair.2)) ∧
      c.http = c'.http := by
  change (build settings s.routing).1 = _ at h
  change (build settings t.routing).1 = _ at h'
  refine ⟨fun q hq => ⟨?_, ?_⟩, fun pair hs ht => ?_, ?_⟩
  · rw [filter_streamMaps h, filter_streamMaps h', hst.filter_bindingGroups_eq _ hq]
  · rw [filter_streamServers h, filter_streamServers h', hst.filter_bindingGroups_eq _ hq]
  · rw [pool?_of_build h, pool?_of_build h', Routing.poolFor, Routing.poolFor,
      hst.boundRoutesFor_eq _ hs ht]
  · have hhttp := (build_ok h).2
    rw [hst.httpGroups_eq, (build_ok h').2] at hhttp
    exact (congrArg Prod.fst hhttp).symm

/-- Ports 443 and 8443 share a pool, which the route of port 443 sets up. -/
def pooledPorts : Snapshot where
  listeners := [⟨1, 443, .stream, false, .blacklist, ""⟩, ⟨2, 8443, .stream, false, .blacklist, ""⟩]
  domains := [⟨1, "a.example"⟩, ⟨2, "b.example"⟩]
  sshPorts := [⟨5, 2202⟩, ⟨6, 2203⟩]
  streamRoutes :=
    [{ id := 1, domainId := 1, listenId := 1, destination := .sshLocal, sshPortId := 5,
       balancing := .leastConn },
      { id := 2, domainId := 1, listenId := 2, destination := .sshLocal, sshPortId := 6 },
      { id := 3, domainId := 2, listenId := 2, destination := .sshLocal, sshPortId := 6 }]

/-- The rows of `pooledPorts` without the route of port 443. -/
def unpooledPorts : Snapshot :=
  { pooledPorts with
    streamRoutes :=
      [{ id := 2, domainId := 1, listenId := 2, destination := .sshLocal, sshPortId := 6 },
        { id := 3, domainId := 2, listenId := 2, destination := .sshLocal, sshPortId := 6 }] }

theorem streamGroups_pooledPorts : pooledPorts.routing.streamGroups "ffus_" =
    [⟨443, 1, [⟨1, ⟨1, "a.example"⟩, "ffus_1", "127.0.0.1:2202", .leastConn, false⟩]⟩,
      ⟨8443, 2, [⟨2, ⟨1, "a.example"⟩, "ffus_1", "127.0.0.1:2203", .none, false⟩,
        ⟨3, ⟨2, "b.example"⟩, "ffus_2", "127.0.0.1:2203", .none, false⟩]⟩] := by cbv

theorem streamGroups_unpooledPorts : unpooledPorts.routing.streamGroups "ffus_" =
    [⟨443, 1, []⟩,
      ⟨8443, 2, [⟨2, ⟨1, "a.example"⟩, "ffus_1", "127.0.0.1:2203", .none, false⟩,
        ⟨3, ⟨2, "b.example"⟩, "ffus_2", "127.0.0.1:2203", .none, false⟩]⟩] := by cbv

/-- Without the route of port 443, port 8443 and its own pool are what they were. -/
theorem build_local_pooledPorts :
    ∃ c stats c' stats',
      (build {} (Store.ofSnapshot pooledPorts none).routing).1 = .ok (c, stats) ∧
        (build {} (Store.ofSnapshot unpooledPorts none).routing).1 = .ok (c', stats') ∧
        c.stream.maps.filter (·.output = portVariable 8443) =
          c'.stream.maps.filter (·.output = portVariable 8443) ∧
        c.stream.pool? (poolName "ffus_" "" 2) = c'.stream.pool? (poolName "ffus_" "" 2) ∧
        c.http = c'.http := by
  obtain ⟨c, stats, h⟩ : ∃ c stats,
      (build {} (Store.ofSnapshot pooledPorts none).routing).1 = .ok (c, stats) :=
    exists_build_of_streams (by decide) streamGroups_pooledPorts (by decide +kernel)
  obtain ⟨c', stats', h'⟩ : ∃ c stats,
      (build {} (Store.ofSnapshot unpooledPorts none).routing).1 = .ok (c, stats) :=
    exists_build_of_streams (by decide) streamGroups_unpooledPorts (by decide)
  have hst : pooledPorts.SameExceptOn 443 unpooledPorts :=
    Snapshot.sameExceptOn_of_distinctIds (by decide) (by decide)
  obtain ⟨hports, hpools, hhttp⟩ := build_local hst h h'
  have hpairs : (pooledPorts.routing.boundRoutesOn "ffus_" 443).map (·.pair) = [("", 1)] := by cbv
  have hpairs' : (unpooledPorts.routing.boundRoutesOn "ffus_" 443).map (·.pair) = [] := by cbv
  refine ⟨c, stats, c', stats', h, h', (hports 8443 (by decide)).1, hpools ("", 2) ?_ ?_, hhttp⟩
  · intro x hx hpair
    have hmem := hpairs ▸ List.mem_map.2 ⟨x, hx, hpair⟩
    simp at hmem
  · intro x hx hpair
    have hmem := hpairs' ▸ List.mem_map.2 ⟨x, hx, hpair⟩
    exact List.not_mem_nil hmem

end Portcullis
