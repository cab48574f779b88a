import Portcullis.Proofs.Routing.Dangling
import Portcullis.Proofs.Routing.Wiring

/-!
# Where pools lead

Every target of a pool is a host and a port that a stream route leads to.  The port is that of the
route itself, of another listener or of an ssh port.

* `StreamRoute.host` and `StreamRoute.port?` look both up in a snapshot, and `targetOf?_eq_some_iff`
  says that the target is made of them where the host is not blank and the port positive.
* `mem_targets_iff` says that the pools lead where the routes do, and `skipped_eq_sum` that the
  routes that lead nowhere are counted.
* `IsEndpoint` is what a proxy can connect to: a port takes 16 bits.  Only the port of a listener
  can take more (`StreamRoute.port_le`), as a listener that routes lead to need not be opened.
* `build_targets` is the main result.
-/

namespace Portcullis

open Portcullis.Proxy
open Portcullis.Text

/-! ## Endpoints -/

/-- A host and a port that there is. -/
def IsEndpoint (target : String) : Prop :=
  ∃ (host : String) (port : Nat), host ≠ "" ∧ 1 ≤ port ∧ port ≤ 65535 ∧
    target = host ++ ":" ++ Decimal.ofNat port

theorem ofInt_toNat {n : Int} (h : 0 ≤ n) : Decimal.ofInt n = Decimal.ofNat n.toNat := by
  have habs : n.natAbs = n.toNat := by omega
  rw [Decimal.ofInt, if_neg (by omega), habs]

/-- The port of a target is what stands behind the last colon. -/
theorem colon_ofNat_inj {a b : String} {m n : Nat}
    (h : a ++ ":" ++ Decimal.ofNat m = b ++ ":" ++ Decimal.ofNat n) : a = b ∧ m = n := by
  have hlists : a.toList ++ ':' :: Decimal.digits m = b.toList ++ ':' :: Decimal.digits n := by
    simpa [Decimal.ofNat] using congrArg String.toList h
  obtain ⟨hhost, hport⟩ := Decimal.append_digits_inj rfl hlists
  exact ⟨String.toList_inj.1 hhost, hport⟩

/-- A host with a positive port is an endpoint exactly if the port takes 16 bits. -/
theorem isEndpoint_iff {host : String} {port : Int} (hhost : host ≠ "") (hport : 1 ≤ port) :
    IsEndpoint (host ++ ":" ++ Decimal.ofInt port) ↔ port ≤ 65535 := by
  rw [ofInt_toNat (by omega)]
  constructor
  · rintro ⟨host', port', -, -, hle, htarget⟩
    obtain ⟨-, hsame⟩ := colon_ofNat_inj htarget
    omega
  · intro hle
    exact ⟨host, port.toNat, hhost, by omega, by omega, rfl⟩

/-! ## Routes -/

namespace StreamRoute

/-- The host that a route leads to, as it stands in a target. -/
def host (x : StreamRoute) : String :=
  match x.destination with
  | .backend =>
    if (Net.Ipv6.read? (trim x.targetAddress)).isSome then "[" ++ trim x.targetAddress ++ "]"
    else trim x.targetAddress
  | .listener | .sshLocal | .sshRemote => "127.0.0.1"

/-- The port that a route leads to, be there such a port or not. -/
def port? (s : Snapshot) (x : StreamRoute) : Option Int :=
  match x.destination with
  | .backend => some x.targetPort.toNat
  | .listener => (lastRow? s.listeners x.targetListenId).map (·.port.toInt)
  | .sshLocal | .sshRemote => (lastRow? s.sshPorts x.sshPortId).map (·.port.toNat)

variable {s : Snapshot} {x : StreamRoute} {port : Int}

/-- Ports of routes and of ssh rows take 16 bits. -/
theorem port_le (h : x.port? s = some port) (hdest : x.destination ≠ .listener) :
    port ≤ 65535 := by
  have hbound (p : UInt16) : (p.toNat : Int) ≤ 65535 := by
    have := p.toNat_lt
    omega
  unfold port? at h
  cases hx : x.destination with
  | listener => exact absurd hx hdest
  | backend =>
    rw [hx] at h
    exact Option.some.inj h ▸ hbound _
  | sshLocal | sshRemote =>
    rw [hx] at h
    obtain ⟨p, -, rfl⟩ := Option.map_eq_some_iff.1 h
    exact hbound _

/-- A backend's host is blank where its address is. -/
theorem host_eq_empty_iff : x.host = "" ↔ x.destination = .backend ∧ trim x.targetAddress = "" := by
  unfold host
  cases x.destination with
  | backend =>
    by_cases hv6 : (Net.Ipv6.read? (trim x.targetAddress)).isSome
    · have hempty : (Net.Ipv6.read? "").isSome = false := by decide
      have hne : trim x.targetAddress ≠ "" := by
        intro heq
        rw [heq, hempty] at hv6
        cases hv6
      simp [hv6, hne]
    · simp [hv6]
  | listener | sshLocal | sshRemote => simp

end StreamRoute

variable {s : Snapshot} {x : StreamRoute} {t : String}

/-- A backend's address with a port is its host with the port. -/
theorem hostPort_targetAddress (hx : x.destination = .backend) (port : Nat) :
    hostPort (trim x.targetAddress) port = x.host ++ ":" ++ Decimal.ofInt port := by
  have hclose : "]:" = "]" ++ ":" := rfl
  rw [ofInt_toNat (Int.natCast_nonneg port), Int.toNat_natCast, StreamRoute.host, hx, hostPort]
  split
  · simp only [hclose, String.append_assoc]
  · rfl

/-- A port of this host is looked up before or after it is found usable. -/
theorem map_localPort_filter {α : Type} {keep : α → Bool} {port : α → Int}
    (hkeep : ∀ a, keep a = decide (1 ≤ port a)) (row : Option α) :
    (row.filter keep).map (fun a => localPort (port a)) =
      ((row.map port).filter (1 ≤ ·)).map fun p => "127.0.0.1" ++ ":" ++ Decimal.ofInt p := by
  cases row with
  | none => rfl
  | some a =>
    rw [Option.map_some, Option.filter_some, Option.filter_some, hkeep]
    split <;> rfl

/-- A route leads to its host and its port, if the host is not blank and the port is positive. -/
theorem targetOf?_eq (s : Snapshot) (x : StreamRoute) :
    s.routing.targetOf? x =
      if x.host = "" then none
      else ((x.port? s).filter (1 ≤ ·)).map fun port => x.host ++ ":" ++ Decimal.ofInt port := by
  have hlistener : lastListener? s.routing.listenersById x.targetListenId =
      lastRow? s.listeners x.targetListenId := Snapshot.lastListener?_mergeSort _ _
  have hssh : s.routing.sshPorts.get? x.sshPortId = lastRow? s.sshPorts x.sshPortId :=
    Table.get?_ofList _ _
  cases hx : x.destination with
  | backend =>
    by_cases haddress : trim x.targetAddress = ""
    · rw [if_pos (StreamRoute.host_eq_empty_iff.2 ⟨hx, haddress⟩)]
      simp only [Routing.targetOf?, hx, haddress, true_or, if_true]
    · have hport : (1 : Int) ≤ x.targetPort.toNat ↔ ¬x.targetPort = 0 := by
        rw [← UInt16.toNat_inj]
        simp
        omega
      rw [if_neg fun hhost => haddress (StreamRoute.host_eq_empty_iff.1 hhost).2]
      simp only [Routing.targetOf?, StreamRoute.port?, hx, haddress, false_or, Option.filter_some,
        decide_eq_true_eq, hport, hostPort_targetAddress hx, ite_not]
      split <;> rfl
  | listener =>
    have hkeep (l : Listener) : decide (0 < l.port) = decide (1 ≤ l.port.toInt) :=
      decide_eq_decide.2 Int32.lt_iff_toInt_lt
    have hhost : x.host = "127.0.0.1" := by rw [StreamRoute.host, hx]
    simp only [Routing.targetOf?, StreamRoute.port?, hx, hlistener, hhost]
    exact map_localPort_filter hkeep _
  | sshLocal | sshRemote =>
    have hkeep (p : SshPort) : (p.port != 0) = decide (1 ≤ (p.port.toNat : Int)) := by
      rw [Bool.eq_iff_iff, bne_iff_ne, decide_eq_true_eq, Ne, ← UInt16.toNat_inj]
      simp
      omega
    have hhost : x.host = "127.0.0.1" := by rw [StreamRoute.host, hx]
    simp only [Routing.targetOf?, StreamRoute.port?, hx, hssh, hhost]
    exact map_localPort_filter hkeep _

theorem targetOf?_eq_some_iff :
    s.routing.targetOf? x = some t ↔
      x.host ≠ "" ∧ ∃ port ∈ x.port? s, 1 ≤ port ∧ t = x.host ++ ":" ++ Decimal.ofInt port := by
  rw [targetOf?_eq]
  split
  · rename_i hhost
    simp [hhost]
  · rename_i hhost
    simp [hhost, Option.filter_eq_some_iff, and_assoc, eq_comm (a := t)]

/-- A route dangles if it has no domain, no host or no positive port. -/
theorem dangles_iff :
    x.Dangles s ↔ s.LacksDomain x.domainId ∨ x.host = "" ∨ ∀ port ∈ x.port? s, port < 1 := by
  have htarget : s.routing.targetOf? x = none ↔ x.host = "" ∨ ∀ port ∈ x.port? s, port < 1 := by
    rw [targetOf?_eq]
    split
    · rename_i hhost
      simp [hhost]
    · rename_i hhost
      simp [hhost, Option.filter_eq_none_iff]
  have hbinding : s.routing.bindingOf? "" x = none ↔ x.Dangles s := bindingOf?_eq_none_iff
  rw [← hbinding, Routing.bindingOf?, Option.bind_eq_none_iff, ← htarget,
    ← Snapshot.domain?_eq_none_iff]
  cases s.routing.domains.get? x.domainId <;> simp

/-- A route that does not dangle has a domain, a host and a positive port. -/
theorem of_not_dangles {port : Int} (hx : ¬x.Dangles s) (hport : port ∈ x.port? s) :
    ¬s.LacksDomain x.domainId ∧ x.host ≠ "" ∧ 1 ≤ port := by
  rw [dangles_iff, not_or, not_or] at hx
  obtain ⟨hdomain, hhost, hpos⟩ := hx
  refine ⟨hdomain, hhost, ?_⟩
  by_contra hneg
  refine hpos fun port' hport' => ?_
  obtain rfl : port = port' := Option.mem_unique hport hport'
  omega

/-! ## Targets of a configuration -/

/-- Pools that bindings have set up hold what the bindings lead to. -/
theorem mem_targets_foldl_enlist {bs : List StreamBinding} :
    (∃ p ∈ bs.foldl StreamBinding.enlist [], t ∈ p.targets) ↔ ∃ b ∈ bs, b.target = t := by
  constructor
  · rintro ⟨p, hp, ht⟩
    obtain ⟨b, rest, hsharing, heq⟩ := StreamBinding.eq_addTargets_of_mem hp
    have hfresh : b.freshPool.targets = [] := by rw [StreamBinding.freshPool_eq]
    rw [heq, StreamBinding.mem_targets_addTargets, hfresh, ← hsharing] at ht
    obtain ⟨b, hb, hbt⟩ := ht.resolve_left List.not_mem_nil
    exact ⟨b, (List.mem_filter.1 hb).1, hbt⟩
  · rintro ⟨b, hb, rfl⟩
    obtain ⟨p, hp, ht⟩ := StreamBinding.exists_pool_of_mem hb
    exact ⟨p, List.mem_of_find?_eq_some hp, ht⟩

/-- A route that does not dangle binds where it leads. -/
theorem exists_bindingOf?_iff {lead : String} :
    (∃ b, s.routing.bindingOf? lead x = some b ∧ b.target = t) ↔
      ¬x.Dangles s ∧ ∃ port ∈ x.port? s, t = x.host ++ ":" ++ Decimal.ofInt port := by
  have htarget : (∃ b, s.routing.bindingOf? lead x = some b ∧ b.target = t) ↔
      ¬s.LacksDomain x.domainId ∧ s.routing.targetOf? x = some t := by
    rw [← Snapshot.domain?_eq_none_iff, Routing.bindingOf?]
    cases s.routing.domains.get? x.domainId <;> simp
  rw [htarget, targetOf?_eq_some_iff]
  constructor
  · rintro ⟨hdomain, hhost, port, hport, hpos, rfl⟩
    refine ⟨fun hdangles => ?_, port, hport, rfl⟩
    rcases dangles_iff.1 hdangles with hnone | hnone | hnone
    · exact hdomain hnone
    · exact hhost hnone
    · exact absurd (hnone port hport) (by omega)
  · rintro ⟨hdangles, port, hport, rfl⟩
    obtain ⟨hdomain, hhost, hpos⟩ := of_not_dangles hdangles hport
    exact ⟨hdomain, hhost, port, hport, hpos, rfl⟩

/-! ## Counting -/

/-- How many dangling routes belong to a listener. -/
def Snapshot.danglingOf (s : Snapshot) (l : Listener) : Nat :=
  match l.kind with
  | .stream => s.streamRoutes.countP fun x => x.Dangles s ∧ x.listenId = l.id
  | .http => s.httpRoutes.countP fun x => x.Dangles s ∧ x.listenId = l.id

theorem skippedOf_routing (s : Snapshot) (lead : String) (l : Listener) :
    s.routing.skippedOf lead l = s.danglingOf l := by
  have hstream (x : StreamRoute) : (s.routing.bindingOf? lead x).isNone = true ↔ x.Dangles s :=
    Option.isNone_iff_eq_none.trans bindingOf?_eq_none_iff
  have hhttp (x : HttpRoute) : (s.routing.domains.get? x.domainId).isNone = true ↔ x.Dangles s :=
    Option.isNone_iff_eq_none.trans Snapshot.domain?_eq_none_iff
  rw [Routing.skippedOf, Snapshot.danglingOf]
  cases l.kind with
  | stream =>
    simp only [Routing.streamRoutesOf, countP_mergeSort_filter, hstream]
    rfl
  | http =>
    simp only [Routing.httpRoutesOf, countP_mergeSort_filter, hhttp]
    rfl

/-- Routes are counted listener by listener, in whichever order. -/
theorem skipped_eq_sum (s : Snapshot) (lead : String) :
    s.routing.skipped lead = (s.listeners.map s.danglingOf).sum := by
  have hperm : s.routing.listenersById.Perm s.listeners := List.mergeSort_perm _ _
  rw [Routing.skipped, ← (hperm.map s.danglingOf).sum_eq, List.sum_eq_foldl, List.foldl_map]
  simp only [skippedOf_routing]

section Whole

variable {settings : ProxySettings} {path : Option String} {c : Config} {stats : Stats}

/-- Pools lead where the routes of stream listeners do. -/
theorem mem_targets_iff
    (h : (build settings (Store.ofSnapshot s path).routing).1 = .ok (c, stats)) :
    (∃ p ∈ c.stream.pools, t ∈ p.targets) ↔
      ∃ x ∈ s.streamRoutes, HasListener s.listeners .stream x.listenId ∧ ¬x.Dangles s ∧
        ∃ port ∈ x.port? s, t = x.host ++ ":" ++ Decimal.ofInt port := by
  have hroute {id : UInt32} {x : StreamRoute} :
      x ∈ s.routing.streamRoutesOf id ↔ x ∈ s.streamRoutes ∧ x.listenId = id := by
    rw [Routing.streamRoutesOf, List.mem_mergeSort, List.mem_filter, beq_iff_eq]
    rfl
  rw [streamPools_eq h, mem_targets_foldl_enlist, Routing.flatMap_bindings_streamGroups]
  constructor
  · rintro ⟨b, hb, ht⟩
    obtain ⟨⟨x, b⟩, hbound, rfl⟩ := List.mem_map.1 hb
    obtain ⟨l, hl, hkind, hmem⟩ := Routing.mem_boundRoutes_iff.1 hbound
    obtain ⟨hxl, hxb⟩ := Routing.mem_boundRoutesOf_iff.1 hmem
    obtain ⟨hx, hid⟩ := hroute.1 hxl
    exact ⟨x, hx, ⟨l, hl, hkind, hid.symm⟩, exists_bindingOf?_iff.1 ⟨b, hxb, ht⟩⟩
  · rintro ⟨x, hx, ⟨l, hl, hkind, hid⟩, hleads⟩
    obtain ⟨b, hb, ht⟩ := exists_bindingOf?_iff.2 hleads
    refine ⟨b, List.mem_map.2 ⟨⟨x, b⟩, Routing.mem_boundRoutes_iff.2 ⟨l, hl, hkind, ?_⟩, rfl⟩, ht⟩
    exact Routing.mem_boundRoutesOf_iff.2 ⟨hroute.2 ⟨hx, hid.symm⟩, hb⟩

/-- In a configuration, pools lead to the host and the port of each stream route that belongs to a
stream listener and does not dangle, and to nothing else. A route dangles if it has no domain, no
host or no positive port; such routes are counted for each listener they belong to. No port takes
more than 16 bits, unless it is the port of another listener, which is compared with 0 only. So
every target is an endpoint exactly if no route that leads to a listener leads to a greater port. -/
theorem build_targets
    (h : (build settings (Store.ofSnapshot s path).routing).1 = .ok (c, stats)) :
    (∀ t, (∃ p ∈ c.stream.pools, t ∈ p.targets) ↔
      ∃ x ∈ s.streamRoutes, HasListener s.listeners .stream x.listenId ∧ ¬x.Dangles s ∧
        ∃ port ∈ x.port? s, t = x.host ++ ":" ++ Decimal.ofInt port) ∧
    (∀ x : StreamRoute, x.Dangles s ↔
      s.LacksDomain x.domainId ∨ x.host = "" ∨ ∀ port ∈ x.port? s, port < 1) ∧
    stats.skippedRoutes = (s.listeners.map s.danglingOf).sum ∧
    (∀ x : StreamRoute, x.destination ≠ .listener → ∀ port ∈ x.port? s, port ≤ 65535) ∧
    ((∀ p ∈ c.stream.pools, ∀ t ∈ p.targets, IsEndpoint t) ↔
      ∀ x ∈ s.streamRoutes, HasListener s.listeners .stream x.listenId → ¬x.Dangles s →
        x.destination = .listener → ∀ port ∈ x.port? s, port ≤ 65535) := by
  refine ⟨fun t => mem_targets_iff h, fun x => dangles_iff,
    (skippedRoutes_of_build h).trans (skipped_eq_sum s settings.poolPrefix),
    fun x hdest port hport => StreamRoute.port_le hport hdest, ?_⟩
  -- A route that does not dangle leads to an endpoint exactly if its port takes 16 bits.
  have hone {x : StreamRoute} {port : Int} (hx : ¬x.Dangles s) (hport : port ∈ x.port? s) :
      IsEndpoint (x.host ++ ":" ++ Decimal.ofInt port) ↔ port ≤ 65535 := by
    obtain ⟨-, hhost, hpos⟩ := of_not_dangles hx hport
    exact isEndpoint_iff hhost hpos
  constructor
  · intro hall x hx hlistener hdangles _ port hport
    obtain ⟨p, hp, ht⟩ := (mem_targets_iff h).2 ⟨x, hx, hlistener, hdangles, port, hport, rfl⟩
    exact (hone hdangles hport).1 (hall p hp _ ht)
  · intro hall p hp t ht
    obtain ⟨x, hx, hlistener, hdangles, port, hport, rfl⟩ := (mem_targets_iff h).1 ⟨p, hp, ht⟩
    refine (hone hdangles hport).2 ?_
    by_cases hdest : x.destination = .listener
    · exact hall x hx hlistener hdangles hdest port hport
    · exact StreamRoute.port_le hport hdest

end Whole

/-- One route for each kind of destination, and one without a port. The listener that the second
route leads to has no routes itself. -/
def leadingTo (port : Int32) : Snapshot where
  listeners := [⟨1, 443, .stream, false, .blacklist, ""⟩, ⟨2, port, .http, false, .blacklist, ""⟩]
  domains := [⟨1, "a.example"⟩, ⟨2, "b.example"⟩, ⟨3, "c.example"⟩, ⟨4, "d.example"⟩]
  sshPorts := [⟨5, 2202⟩]
  streamRoutes :=
    [{ id := 1, domainId := 1, listenId := 1, targetAddress := " 2001:db8::1", targetPort := 8443 },
      { id := 2, domainId := 2, listenId := 1, destination := .listener, targetListenId := 2 },
      { id := 3, domainId := 3, listenId := 1, destination := .sshLocal, sshPortId := 5 },
      { id := 4, domainId := 4, listenId := 1, destination := .sshRemote, sshPortId := 5 },
      { id := 5, domainId := 4, listenId := 1, targetAddress := "192.0.2.1" }]

/-- What the routes of `leadingTo` bind, where the second route leads to a target. -/
def leadingTargets (target : String) : List StreamGroup :=
  [⟨443, 1,
    [⟨1, ⟨1, "a.example"⟩, "ffus_1", "[2001:db8::1]:8443", .none, false⟩,
      ⟨2, ⟨2, "b.example"⟩, "ffus_2", target, .none, false⟩,
      ⟨3, ⟨3, "c.example"⟩, "ffus_3", "127.0.0.1:2202", .none, false⟩,
      ⟨4, ⟨4, "d.example"⟩, "ffus_4", "127.0.0.1:2202", .none, false⟩]⟩]

theorem streamGroups_leadingTo :
    (leadingTo 80).routing.streamGroups "ffus_" = leadingTargets "127.0.0.1:80" ∧
      (leadingTo 70000).routing.streamGroups "ffus_" = leadingTargets "127.0.0.1:70000" := by
  constructor <;> cbv

theorem httpGroups_leadingTo :
    (leadingTo 80).routing.httpGroups = [⟨80, []⟩] ∧
      (leadingTo 70000).routing.httpGroups = [⟨70000, []⟩] := by
  constructor <;> cbv

/-- The route without a port is left out, and all targets are endpoints. -/
theorem build_targets_leadingTo :
    ∃ c stats, (build {} (Store.ofSnapshot (leadingTo 80) none).routing).1 = .ok (c, stats) ∧
      (∃ p ∈ c.stream.pools, "[2001:db8::1]:8443" ∈ p.targets) ∧
      (∀ p ∈ c.stream.pools, ∀ t ∈ p.targets, IsEndpoint t) ∧ stats.skippedRoutes = 1 := by
  obtain ⟨c, stats, h⟩ := exists_build_of_groups (s := {}) streamGroups_leadingTo.1
    httpGroups_leadingTo.1 (by decide)
  have hbuild : (build {} (Store.ofSnapshot (leadingTo 80) none).routing).1 = .ok (c, stats) := h
  obtain ⟨htargets, -, hskipped, -, hendpoints⟩ := build_targets hbuild
  refine ⟨c, stats, hbuild, (htargets _).2 ?_, hendpoints.2 (by decide), ?_⟩
  · exact ⟨_, List.mem_cons_self, by decide, by decide, 8443, rfl, by decide +kernel⟩
  · exact hskipped.trans (by decide)

/-- The port of a listener that has no routes itself goes unchecked. The route that leads to it is
not left out, and there is no such port. -/
theorem build_targets_beyond :
    ∃ c stats, (build {} (Store.ofSnapshot (leadingTo 70000) none).routing).1 = .ok (c, stats) ∧
      stats.skippedRoutes = 1 ∧ (∃ p ∈ c.stream.pools, "127.0.0.1:70000" ∈ p.targets) ∧
      ¬IsEndpoint "127.0.0.1:70000" := by
  obtain ⟨c, stats, h⟩ := exists_build_of_groups (s := {}) streamGroups_leadingTo.2
    httpGroups_leadingTo.2 (by decide)
  have htarget : "127.0.0.1:70000" = "127.0.0.1" ++ ":" ++ Decimal.ofInt 70000 := by
    decide +kernel
  have hbuild : (build {} (Store.ofSnapshot (leadingTo 70000) none).routing).1 = .ok (c, stats) := h
  refine ⟨c, stats, hbuild, ?_, (mem_targets_iff hbuild).2 ?_, ?_⟩
  · exact (skippedRoutes_of_build hbuild).trans
      ((skipped_eq_sum (leadingTo 70000) _).trans (by decide))
  · exact ⟨_, List.mem_cons_of_mem _ List.mem_cons_self, by decide, by decide, 70000, rfl,
      htarget⟩
  · rw [htarget, isEndpoint_iff (by decide) (by decide)]
    decide

end Portcullis
