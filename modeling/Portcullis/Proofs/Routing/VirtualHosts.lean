import Portcullis.Proofs.Keys
import Portcullis.Proofs.Routing.Consistency
import Mathlib

/-!
# Virtual hosts

The http block has a server for each host name of a port, and behind them one that takes every other
name.  Names are told apart on one port only: two ports may have one name each.

* `Routing.hostNamesOn` lists the host names of a port, each once, in the order in which routes bind
  them: by listener id, then by route id.  `Routing.BindsHost` says without an order which they are.
* `HttpGroup.namesOn_insert_self` and `HttpGroup.namesOn_insert_of_ne` say what one listener does to
  the names of each port, and `Routing.namesOn_httpGroups` what all listeners do.
* `httpServers_eq` lists the servers of a configuration port by port, and `build_virtualHosts` reads
  the servers of one port off that list.
-/

namespace Portcullis

open Portcullis.Proxy

/-! ## Hosts of a group -/

/-- Hosts are added behind those that are there, each name once. -/
theorem names_addHosts (port : Int32) {held : List Domain} {names : List String}
    (hheld : held.map (·.name) = names.eraseDups) (hosts : List Domain) :
    (addHosts port held hosts).1.map (·.name) = (names ++ hosts.map (·.name)).eraseDups := by
  induction hosts generalizing held names with
  | nil => rw [addHosts, hheld, List.map_nil, List.append_nil]
  | cons h rest ih =>
    have hany : held.any (·.name == h.name) = true ↔ h.name ∈ names := by
      rw [← List.mem_eraseDups, ← hheld, List.any_eq_true, List.mem_map]
      simp only [beq_iff_eq]
    rw [addHosts, List.map_cons, List.append_cons names]
    split
    · rename_i hmem
      exact ih (by rw [hheld, eraseDups_snoc, if_pos (hany.1 hmem)])
    · rename_i hnew
      refine ih ?_
      rw [List.map_append, hheld, eraseDups_snoc, if_neg fun hmem => hnew (hany.2 hmem)]
      rfl

namespace HttpGroup

/-- The host names of a port's group. -/
def namesOn (port : Int32) (gs : List HttpGroup) : List String :=
  ((gs.find? (·.port == port)).map fun g => g.hosts.map (·.name)).getD []

/-- An insertion gives its port the names that are new there. -/
theorem namesOn_insert_self (port : Int32) {names : List String} (hosts : List Domain)
    {gs : List HttpGroup} (h : namesOn port gs = names.eraseDups) :
    namesOn port (insert port hosts gs).1 = (names ++ hosts.map (·.name)).eraseDups := by
  induction gs with
  | nil =>
    have hnil : ([] : List Domain).map (·.name) = names.eraseDups := h
    simpa [insert, namesOn] using names_addHosts port hnil hosts
  | cons g rest ih =>
    by_cases hg : g.port = port
    · have hheld : g.hosts.map (·.name) = names.eraseDups := by simpa [namesOn, hg] using h
      simpa [insert, namesOn, hg] using names_addHosts port hheld hosts
    · simpa [insert, namesOn, hg] using ih (by simpa [namesOn, hg] using h)

/-- An insertion leaves the names of the other ports alone. -/
theorem namesOn_insert_of_ne {port other : Int32} (h : other ≠ port) (hosts : List Domain)
    (gs : List HttpGroup) : namesOn port (insert other hosts gs).1 = namesOn port gs := by
  induction gs with
  | nil => simp [insert, namesOn, h]
  | cons g rest ih =>
    by_cases hg : g.port = other
    · simp [insert, namesOn, hg, h]
    · simp only [namesOn] at ih
      simp only [insert, namesOn, hg, if_false, List.find?_cons]
      cases g.port == port with
      | true => rfl
      | false => exact ih

/-- A port that has no group yet gets one behind the others. -/
theorem map_port_insert (p : Int32) (hosts : List Domain) (gs : List HttpGroup) :
    (insert p hosts gs).1.map HttpGroup.port =
      if p ∈ gs.map HttpGroup.port then gs.map HttpGroup.port
      else gs.map HttpGroup.port ++ [p] := by
  induction gs with
  | nil => rfl
  | cons g rest ih =>
    by_cases hg : g.port = p
    · simp [insert, hg]
    · have hne : p ≠ g.port := fun h => hg h.symm
      simp only [insert, hg, if_false, List.map_cons, ih, List.mem_cons, hne, false_or]
      split <;> rfl

end HttpGroup

/-! ## Host names by port -/

namespace Routing

/-- The host names of a port, each once. -/
def hostNamesOn (r : Routing) (port : Int32) : List String :=
  ((r.hostsOn port).map (·.name)).eraseDups

/-- An http route of an http listener of the port binds the name. -/
def BindsHost (r : Routing) (port : Int32) (name : String) : Prop :=
  ∃ l ∈ r.listeners, (l.kind = .http ∧ l.port = port) ∧
    ∃ x ∈ r.httpRoutes, x.listenId = l.id ∧
      ∃ d, r.domains.get? x.domainId = some d ∧ d.name = name

/-- The ports of http listeners, in the order of the listeners that open them first. -/
def httpPorts (r : Routing) : List Int32 :=
  ((r.listenersById.filter (·.kind = .http)).map (·.port)).eraseDups

variable {r : Routing} {port : Int32}

theorem mem_hostNamesOn_iff {name : String} :
    name ∈ r.hostNamesOn port ↔ r.BindsHost port name := by
  simp only [hostNamesOn, hostsOn, httpListenersOn, listenersById, hostsOf, httpRoutesOf,
    List.mem_eraseDups, List.mem_map, List.mem_flatMap, List.mem_filter, List.mem_mergeSort,
    List.mem_filterMap, decide_eq_true_eq, beq_iff_eq]
  constructor
  · rintro ⟨d, ⟨l, ⟨hl, hkind⟩, x, ⟨hx, hid⟩, hd⟩, hname⟩
    exact ⟨l, hl, hkind, x, hx, hid, d, hd, hname⟩
  · rintro ⟨l, hl, hkind, x, hx, hid, d, hd, hname⟩
    exact ⟨d, ⟨l, ⟨hl, hkind⟩, x, ⟨hx, hid⟩, hd⟩, hname⟩

theorem mem_httpPorts_of_hostNamesOn (h : r.hostNamesOn port ≠ []) : port ∈ r.httpPorts := by
  obtain ⟨name, hname⟩ := List.exists_mem_of_ne_nil _ h
  obtain ⟨l, hl, ⟨hkind, hport⟩, -⟩ := mem_hostNamesOn_iff.1 hname
  simp only [httpPorts, listenersById, List.mem_eraseDups, List.mem_map, List.mem_filter,
    List.mem_mergeSort, decide_eq_true_eq]
  exact ⟨l, ⟨hl, hkind⟩, hport⟩

variable (r)

/-- The names of a port's group are those that the http listeners of the port bind. -/
theorem namesOn_httpGroups (port : Int32) :
    HttpGroup.namesOn port r.httpGroups = r.hostNamesOn port := by
  have hfold : ∀ ls : List Listener, HttpGroup.namesOn port (ls.foldl r.withHosts []) =
      (((ls.filter fun l => l.kind = .http ∧ l.port = port).flatMap r.hostsOf).map
        (·.name)).eraseDups := by
    intro ls
    induction ls using List.reverseRecOn with
    | nil => rfl
    | append_singleton ls l ih =>
      rw [List.foldl_append, List.foldl_cons, List.foldl_nil, withHosts]
      cases hkind : l.kind with
      | stream => simpa [hkind] using ih
      | http =>
        by_cases hport : l.port = port
        · subst hport
          simp only [HttpGroup.namesOn_insert_self _ _ ih]
          simp [hkind]
        · simp only [HttpGroup.namesOn_insert_of_ne hport, ih]
          simp [hkind, hport]
  exact hfold r.listenersById

/-- Groups come in the order of the listeners that open their ports first. -/
theorem map_port_httpGroups : r.httpGroups.map HttpGroup.port = r.httpPorts := by
  refine map_foldl_eq_eraseDups (fun gs l hkind => ?_) (fun gs l hkind => ?_) r.listenersById
  · rw [withHosts, of_decide_eq_true hkind]
    exact HttpGroup.map_port_insert ..
  · cases h : l.kind with
    | stream => rw [withHosts, h]
    | http => simp [h] at hkind

variable {r}

/-- The names of a group are those that the http listeners of its port bind. -/
theorem names_of_mem_httpGroups {g : HttpGroup} (hg : g ∈ r.httpGroups) :
    g.hosts.map (·.name) = r.hostNamesOn g.port := by
  have hports : (r.httpGroups.map HttpGroup.port).Nodup := by
    rw [map_port_httpGroups]
    exact nodup_eraseDups _
  have hfind : r.httpGroups.find? (·.port == g.port) = some g :=
    (find?_key_eq_some_iff hports).2 ⟨hg, rfl⟩
  rw [← namesOn_httpGroups, HttpGroup.namesOn, hfind]
  rfl

end Routing

/-! ## Servers -/

/-- The server of a host name. -/
def hostServer (port : Int32) (name : String) : Server :=
  { Server.listening port.toInt with name := some name }

/-- The server that takes every name that no other server of its port takes. -/
def catchAllServer (s : ProxySettings) (port : Int32) : Server :=
  { Server.listening port.toInt with
    isDefault := true, errorPages := [⟨[500, 502, 503, 504], s.errorPageUri⟩] }

/-- The servers of a port with some host names; none without names. -/
def hostServers (s : ProxySettings) (port : Int32) (names : List String) : List Server :=
  if names = [] then [] else names.map (hostServer port) ++ [catchAllServer s port]

theorem hostServers_of_ne {names : List String} (h : names ≠ []) (s : ProxySettings)
    (port : Int32) :
    hostServers s port names = names.map (hostServer port) ++ [catchAllServer s port] :=
  if_neg h

theorem port_of_mem_hostServers {s : ProxySettings} {port : Int32} {names : List String}
    {v : Server} (hv : v ∈ hostServers s port names) : v.port = port.toInt := by
  unfold hostServers at hv
  split at hv
  · exact absurd hv List.not_mem_nil
  · rcases List.mem_append.1 hv with hv | hv
    · obtain ⟨name, -, rfl⟩ := List.mem_map.1 hv
      rfl
    · rw [List.mem_singleton.1 hv]
      rfl

/-- Where each part that is accepted leaves servers, all parts leave those of all. -/
theorem emitEach_servers_ok {α : Type} {emit : Block → α → Block × Except Rejection Unit}
    {servers : α → List Server}
    (hemit : ∀ b b' a, emit b a = (b', .ok ()) →
      b' = { b with servers := b.servers ++ servers a })
    {as : List α} {b b' : Block} (h : emitEach emit b as = (b', .ok ())) :
    b' = { b with servers := b.servers ++ as.flatMap servers } := by
  induction as generalizing b with
  | nil =>
    cases h
    rw [List.flatMap_nil, List.append_nil]
  | cons a rest ih =>
    rw [emitEach] at h
    split at h
    · cases h
    · rename_i b₁ hone
      rw [ih h, hemit b b₁ a hone, List.flatMap_cons, List.append_assoc]

/-- A group that was accepted leaves the servers of its names. -/
theorem HttpGroup.emit_ok {s : ProxySettings} (b b' : Block) (g : HttpGroup)
    (h : g.emit s b = (b', .ok ())) :
    b' = { b with servers := b.servers ++ hostServers s g.port (g.hosts.map (·.name)) } := by
  unfold HttpGroup.emit at h
  split at h
  · rename_i hnil
    cases h
    rw [hostServers, if_pos (by simpa using hnil), List.append_nil]
  · rename_i hne
    have hone : ∀ b b' v, emitServer b v = (b', .ok ()) →
        b' = { b with servers := b.servers ++ [v] } :=
      fun b b' v hv => (emitServer_eq_ok_iff.1 hv).2
    have hnames : g.hosts.map (·.name) ≠ [] := by simpa using hne
    rw [emitEach_servers_ok hone h, List.flatMap_singleton', hostServers_of_ne hnames,
      HttpGroup.servers, List.map_map]
    rfl

variable {s : ProxySettings} {r : Routing} {c : Config} {stats : Stats}

/-- The servers of a configuration, port by port. -/
theorem httpServers_eq (h : (build s r).1 = .ok (c, stats)) :
    c.http.servers = r.httpPorts.flatMap fun port => hostServers s port (r.hostNamesOn port) := by
  rw [emitEach_servers_ok HttpGroup.emit_ok (build_ok h).2, ← Routing.map_port_httpGroups,
    List.flatMap_map]
  refine List.flatMap_congr fun g hg => ?_
  rw [Routing.names_of_mem_httpGroups hg]

/-- Without a route that binds a host, a port has no server. -/
theorem port_ne_of_notBindsHost (h : (build s r).1 = .ok (c, stats)) {port : Int32}
    (hnone : ∀ name, ¬r.BindsHost port name) : ∀ v ∈ c.http.servers, v.port ≠ port.toInt := by
  have hnil : r.hostNamesOn port = [] := List.eq_nil_iff_forall_not_mem.2 fun name hname =>
    hnone name (Routing.mem_hostNamesOn_iff.1 hname)
  intro v hv hport
  rw [httpServers_eq h] at hv
  obtain ⟨q, -, hq⟩ := List.mem_flatMap.1 hv
  obtain rfl : q = port := Int32.toInt_inj.1 ((port_of_mem_hostServers hq).symm.trans hport)
  rw [hnil, hostServers, if_pos rfl] at hq
  exact List.not_mem_nil hq

/-- With such a route, the servers of a port stand together. -/
theorem exists_split_of_bindsHost (h : (build s r).1 = .ok (c, stats)) {port : Int32}
    (hsome : ∃ name, r.BindsHost port name) : ∃ front back,
      c.http.servers = front ++
          ((r.hostNamesOn port).map (hostServer port) ++ [catchAllServer s port]) ++ back ∧
        ∀ v ∈ front ++ back, v.port ≠ port.toInt := by
  have hne : r.hostNamesOn port ≠ [] := by
    obtain ⟨name, hname⟩ := hsome
    exact List.ne_nil_of_mem (Routing.mem_hostNamesOn_iff.2 hname)
  obtain ⟨before, after, hports⟩ :=
    List.append_of_mem (Routing.mem_httpPorts_of_hostNamesOn hne)
  -- A port comes once, so that the ports before it and after it are others.
  have hnew : port ∉ before ++ after := by
    have hnodup : r.httpPorts.Nodup := nodup_eraseDups _
    rw [hports, List.nodup_middle] at hnodup
    exact (List.nodup_cons.1 hnodup).1
  refine ⟨before.flatMap fun q => hostServers s q (r.hostNamesOn q),
    after.flatMap fun q => hostServers s q (r.hostNamesOn q), ?_, fun v hv hport => ?_⟩
  · rw [httpServers_eq h, hports, List.flatMap_append, List.flatMap_cons, hostServers_of_ne hne,
      List.append_assoc, List.append_assoc, List.append_assoc]
  · rw [← List.flatMap_append] at hv
    obtain ⟨q, hq, hvq⟩ := List.mem_flatMap.1 hv
    obtain rfl : q = port := Int32.toInt_inj.1 ((port_of_mem_hostServers hvq).symm.trans hport)
    exact hnew hq

/-- The http block tells the host names of each port apart and takes every other name. A port on
which no http route resolves has no server. On every other port the servers stand together, one for
each name that a route of the port binds, in the order in which routes first bind the names, and
behind them the one catch-all, with the page for the gateway's errors. -/
theorem build_virtualHosts (h : (build s r).1 = .ok (c, stats)) (port : Int32) :
    ((∀ name, ¬r.BindsHost port name) → ∀ v ∈ c.http.servers, v.port ≠ port.toInt) ∧
      ((∃ name, r.BindsHost port name) → ∃ front back,
        c.http.servers = front ++
            ((r.hostNamesOn port).map (hostServer port) ++ [catchAllServer s port]) ++ back ∧
          ∀ v ∈ front ++ back, v.port ≠ port.toInt) ∧
      (r.hostNamesOn port).Nodup ∧ ∀ name, name ∈ r.hostNamesOn port ↔ r.BindsHost port name :=
  ⟨port_ne_of_notBindsHost h, exists_split_of_bindsHost h, nodup_eraseDups _,
    fun _ => Routing.mem_hostNamesOn_iff⟩

/-- Two listeners share port 80 and bind one host both. The port of a third has the same host, and
the one of a fourth has none. -/
def sharedHosts : Routing where
  listeners := [⟨2, 80, .http, false, .blacklist, ""⟩, ⟨1, 80, .http, false, .blacklist, ""⟩,
    ⟨3, 8080, .http, false, .blacklist, ""⟩, ⟨4, 8081, .http, false, .blacklist, ""⟩]
  domains := .ofList [⟨5, "a.example"⟩, ⟨6, "b.example"⟩, ⟨7, "a.example"⟩]
  httpRoutes := [⟨1, 6, 2⟩, ⟨2, 7, 2⟩, ⟨3, 5, 1⟩, ⟨4, 5, 3⟩, ⟨5, 8, 4⟩]

theorem streamGroups_sharedHosts : sharedHosts.streamGroups "ffus_" = [] := by cbv

theorem httpGroups_sharedHosts : sharedHosts.httpGroups =
    [⟨80, [⟨5, "a.example"⟩, ⟨6, "b.example"⟩]⟩, ⟨8080, [⟨5, "a.example"⟩]⟩, ⟨8081, []⟩] := by cbv

theorem hostNamesOn_sharedHosts : sharedHosts.hostNamesOn 80 = ["a.example", "b.example"] ∧
    sharedHosts.hostNamesOn 8081 = [] := by
  constructor <;> cbv

/-- Port 80 has a server for each of its two names, and port 8081 none. -/
theorem build_virtualHosts_sharedHosts :
    ∃ c stats, (build {} sharedHosts).1 = .ok (c, stats) ∧
      (∃ front back, c.http.servers = front ++
          [hostServer 80 "a.example", hostServer 80 "b.example", catchAllServer {} 80] ++ back ∧
        ∀ v ∈ front ++ back, v.port ≠ 80) ∧
      ∀ v ∈ c.http.servers, v.port ≠ 8081 := by
  obtain ⟨c, stats, h⟩ : ∃ c stats, (build {} sharedHosts).1 = .ok (c, stats) :=
    exists_build_of_groups streamGroups_sharedHosts httpGroups_sharedHosts (by decide)
  obtain ⟨h80, h8081⟩ := hostNamesOn_sharedHosts
  obtain ⟨-, hsplit, -, hnames⟩ := build_virtualHosts h 80
  obtain ⟨hnone, -, -, hnames'⟩ := build_virtualHosts h 8081
  refine ⟨c, stats, h, ?_, ?_⟩
  · have := hsplit ⟨"a.example", (hnames _).1 (by rw [h80]; simp)⟩
    rw [h80] at this
    exact this
  · exact hnone fun name hname => by simpa [h8081] using (hnames' name).2 hname

end Portcullis
