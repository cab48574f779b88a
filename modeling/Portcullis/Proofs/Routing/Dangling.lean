import Portcullis.Proofs.Routing.Order
import Portcullis.Proofs.Routing.Unreadable
import Portcullis.Proofs.Store.Operations
import Mathlib

/-!
# Routes that lead nowhere

A route may refer to a row that is missing or that it cannot use.  Such a route leaves no trace but
a number: what is compiled is what would be compiled without it.

* `StreamRoute.Dangles` and `HttpRoute.Dangles` say of the rows of a snapshot which routes lead
  nowhere, and `bindingOf?_eq_none_iff` that these are the routes that bind nothing.
* `Snapshot.withoutDangling` is the snapshot without them, and `Snapshot.dangling` counts them,
  each once, if a listener of their kind has them.
* `streamGroups_withoutDangling` and `httpGroups_withoutDangling` say that the same is bound on each
  port in the same order.  This needs that routes that tie are sorted as they are listed
  (`filter_mergeSort`).
* `build_withoutDangling` is the main result.  It is also about sources that fail: a row that cannot
  be read is as good as missing, and every other failure is the result.
-/

namespace Portcullis

open Portcullis.Proxy
open Portcullis.Text

/-! ## Dangling routes -/

namespace Snapshot

/-- No domain has the id. -/
def LacksDomain (s : Snapshot) (id : UInt32) : Prop :=
  ∀ d ∈ s.domains, d.id ≠ id

instance (s : Snapshot) (id : UInt32) : Decidable (s.LacksDomain id) :=
  inferInstanceAs (Decidable (∀ d ∈ s.domains, d.id ≠ id))

end Snapshot

/-- A stream route leads nowhere: its domain is missing, its address is blank or its port 0, the
listener it leads to is missing or has no positive port, or its ssh port is missing or 0. -/
def StreamRoute.Dangles (s : Snapshot) (x : StreamRoute) : Prop :=
  s.LacksDomain x.domainId ∨
    x.destination = .backend ∧ (trim x.targetAddress = "" ∨ x.targetPort = 0) ∨
    x.destination = .listener ∧ (∀ l ∈ lastRow? s.listeners x.targetListenId, l.port ≤ 0) ∨
    (x.destination = .sshLocal ∨ x.destination = .sshRemote) ∧
      ∀ p ∈ lastRow? s.sshPorts x.sshPortId, p.port = 0

/-- An http route leads nowhere: its domain is missing. -/
def HttpRoute.Dangles (s : Snapshot) (x : HttpRoute) : Prop :=
  s.LacksDomain x.domainId

instance (s : Snapshot) (x : StreamRoute) : Decidable (x.Dangles s) :=
  inferInstanceAs (Decidable (_ ∨ _))

instance (s : Snapshot) (x : HttpRoute) : Decidable (x.Dangles s) :=
  inferInstanceAs (Decidable (s.LacksDomain x.domainId))

/-- A listener of the kind has the id. -/
def HasListener (ls : List Listener) (kind : ListenKind) (id : UInt32) : Prop :=
  ∃ l ∈ ls, l.kind = kind ∧ l.id = id

instance (ls : List Listener) (kind : ListenKind) (id : UInt32) :
    Decidable (HasListener ls kind id) :=
  inferInstanceAs (Decidable (∃ l ∈ ls, l.kind = kind ∧ l.id = id))

namespace Snapshot

/-- The snapshot without its dangling routes. -/
def withoutDangling (s : Snapshot) : Snapshot :=
  { s with
    streamRoutes := s.streamRoutes.filter fun x => ¬x.Dangles s
    httpRoutes := s.httpRoutes.filter fun x => ¬x.Dangles s }

/-- How many dangling routes there are of listeners that they can belong to. -/
def dangling (s : Snapshot) : Nat :=
  (s.streamRoutes.filter fun x => x.Dangles s ∧ HasListener s.listeners .stream x.listenId).length +
    (s.httpRoutes.filter fun x => x.Dangles s ∧ HasListener s.listeners .http x.listenId).length

variable {s : Snapshot}

theorem domain?_eq_none_iff {id : UInt32} :
    s.routing.domains.get? id = none ↔ s.LacksDomain id := by
  show (Table.ofList s.domains).get? id = none ↔ _
  rw [Table.get?_ofList, lastRow?, List.find?_eq_none]
  simp only [List.mem_reverse, beq_iff_eq]
  exact Iff.rfl

/-- Sorting listeners by id leaves the last of an id the last. -/
theorem lastListener?_mergeSort (ls : List Listener) (id : UInt32) :
    lastListener? (ls.mergeSort byId) id = lastRow? ls id := by
  show (ls.mergeSort byId).reverse.find? (Row.id · == id) = ls.reverse.find? (Row.id · == id)
  rw [← List.getLast?_filter, ← List.getLast?_filter, filter_mergeSort byId_trans byId_total]
  congr 1
  refine List.mergeSort_of_pairwise (List.pairwise_of_forall_mem_list fun a ha b hb => ?_)
  have hid : Row.id a = Row.id b :=
    (eq_of_beq (List.mem_filter.1 ha).2).trans (eq_of_beq (List.mem_filter.1 hb).2).symm
  rw [byId, hid]
  exact decide_eq_true (UInt32.le_refl _)

end Snapshot

variable {s : Snapshot}

/-- The routes that bind nothing are the dangling ones. -/
theorem bindingOf?_eq_none_iff {lead : String} {x : StreamRoute} :
    s.routing.bindingOf? lead x = none ↔ x.Dangles s := by
  have hlistener : lastListener? s.routing.listenersById x.targetListenId =
      lastRow? s.listeners x.targetListenId := Snapshot.lastListener?_mergeSort _ _
  have hssh : s.routing.sshPorts.get? x.sshPortId = lastRow? s.sshPorts x.sshPortId :=
    Table.get?_ofList _ _
  have htarget : s.routing.targetOf? x = none ↔
      x.destination = .backend ∧ (trim x.targetAddress = "" ∨ x.targetPort = 0) ∨
      x.destination = .listener ∧ (∀ l ∈ lastRow? s.listeners x.targetListenId, l.port ≤ 0) ∨
      (x.destination = .sshLocal ∨ x.destination = .sshRemote) ∧
        ∀ p ∈ lastRow? s.sshPorts x.sshPortId, p.port = 0 := by
    unfold Routing.targetOf?
    cases hdest : x.destination with
    | backend => simp [or_iff_not_imp_left]
    | listener => simp [hlistener, Option.filter_eq_none_iff]
    | sshLocal | sshRemote => simp [hssh, Option.filter_eq_none_iff]
  rw [Routing.bindingOf?, Option.bind_eq_none_iff, StreamRoute.Dangles, ← htarget,
    ← Snapshot.domain?_eq_none_iff]
  cases s.routing.domains.get? x.domainId <;> simp

/-! ## Rows that give nothing -/

section Nothing

variable {α β : Type} {f : α → Option β} {bad : α → Prop} [DecidablePred bad]

/-- Rows that give nothing may be left out. -/
theorem filterMap_filter_not (h : ∀ x, f x = none ↔ bad x) (rows : List α) :
    (rows.filter fun x => ¬bad x).filterMap f = rows.filterMap f := by
  rw [List.filterMap_filter]
  refine List.filterMap_congr fun x _ => ?_
  by_cases hx : bad x
  · simp [hx, (h x).2 hx]
  · simp [hx]

/-- Then every row gives something. -/
theorem countP_filter_not (h : ∀ x, f x = none ↔ bad x) (rows : List α) :
    (rows.filter fun x => ¬bad x).countP (fun x => (f x).isNone) = 0 := by
  rw [List.countP_eq_zero]
  intro x hx hnone
  have hgood : ¬bad x := of_decide_eq_true (List.mem_filter.1 hx).2
  exact hgood ((h x).1 (Option.isNone_iff_eq_none.1 hnone))

end Nothing

/-! ## Counting -/

/-- The rows of one listener are counted among all rows. -/
theorem countP_mergeSort_filter {α : Type} (le : α → α → Bool) (bad : α → Bool)
    (listenId : α → UInt32) (id : UInt32) (rows : List α) :
    ((rows.filter (listenId · == id)).mergeSort le).countP bad =
      rows.countP fun x => bad x ∧ listenId x = id := by
  rw [(List.mergeSort_perm _ _).countP_eq, List.countP_filter]
  exact List.countP_congr fun x _ => by simp

theorem hasListener_cons {l : Listener} {ls : List Listener} {kind : ListenKind} {id : UInt32} :
    HasListener (l :: ls) kind id ↔ l.kind = kind ∧ l.id = id ∨ HasListener ls kind id :=
  List.exists_mem_cons_iff ..

/-- Rows of listeners are counted listener by listener, as long as no two listeners have one id. -/
theorem countP_hasListener_cons {α : Type} {l : Listener} {ls : List Listener}
    (hnew : ∀ m ∈ ls, m.id ≠ l.id) (kind : ListenKind) (bad : α → Bool) (listenId : α → UInt32)
    (rows : List α) :
    rows.countP (fun x => bad x ∧ HasListener (l :: ls) kind (listenId x)) =
      (if l.kind = kind then rows.countP fun x => bad x ∧ listenId x = l.id else 0) +
        rows.countP fun x => bad x ∧ HasListener ls kind (listenId x) := by
  by_cases hkind : l.kind = kind
  · -- A row of the first listener belongs to no other.
    have hother : ¬HasListener ls kind l.id := by
      rintro ⟨m, hm, -, hid⟩
      exact hnew m hm hid
    rw [if_pos hkind]
    induction rows with
    | nil => rfl
    | cons x rest ih =>
      rw [List.countP_cons, List.countP_cons, List.countP_cons, ih]
      by_cases hx : listenId x = l.id
      · simp only [hasListener_cons, hx, hkind, hother]
        simp
        omega
      · simp only [hasListener_cons, hx, Ne.symm hx, and_false, false_or]
        simp
        omega
  · simp only [hasListener_cons, hkind, false_and, false_or]
    simp

/-- The routes that bind nothing, of listeners with distinct ids, are counted once each. -/
theorem foldl_skippedOf (r : Routing) (lead : String) {ls : List Listener}
    (hids : (ls.map Row.id).Nodup) (n : Nat) :
    ls.foldl (fun n l => n + r.skippedOf lead l) n =
      n + r.streamRoutes.countP (fun x => (r.bindingOf? lead x).isNone ∧
          HasListener ls .stream x.listenId) +
        r.httpRoutes.countP (fun x => (r.domains.get? x.domainId).isNone ∧
          HasListener ls .http x.listenId) := by
  induction ls generalizing n with
  | nil => simp [HasListener]
  | cons l rest ih =>
    obtain ⟨hnew, hrest⟩ := List.nodup_cons.1 hids
    have hnew' : ∀ m ∈ rest, m.id ≠ l.id := fun m hm hid => hnew (List.mem_map.2 ⟨m, hm, hid⟩)
    have hstream : (r.streamRoutesOf l.id).countP (fun x => (r.bindingOf? lead x).isNone) =
        r.streamRoutes.countP fun x => (r.bindingOf? lead x).isNone ∧ x.listenId = l.id :=
      countP_mergeSort_filter ..
    have hhttp : (r.httpRoutesOf l.id).countP (fun x => (r.domains.get? x.domainId).isNone) =
        r.httpRoutes.countP fun x => (r.domains.get? x.domainId).isNone ∧ x.listenId = l.id :=
      countP_mergeSort_filter ..
    rw [List.foldl_cons, ih hrest, countP_hasListener_cons hnew', countP_hasListener_cons hnew',
      Routing.skippedOf, hstream, hhttp]
    cases l.kind <;> simp <;> omega

/-- The routes that bind nothing are the dangling ones of listeners of their kind. -/
theorem skipped_routing (lead : String) (hids : (s.listeners.map Row.id).Nodup) :
    s.routing.skipped lead = s.dangling := by
  have hperm : s.routing.listenersById.Perm s.listeners := List.mergeSort_perm _ _
  have hlistener : ∀ kind id, HasListener s.routing.listenersById kind id ↔
      HasListener s.listeners kind id := fun kind id =>
    exists_congr fun l => and_congr_left fun _ => hperm.mem_iff
  have hstream : ∀ x, (s.routing.bindingOf? lead x).isNone = true ↔ x.Dangles s := fun x =>
    Option.isNone_iff_eq_none.trans bindingOf?_eq_none_iff
  have hhttp : ∀ x : HttpRoute, (s.routing.domains.get? x.domainId).isNone = true ↔ x.Dangles s :=
    fun x => Option.isNone_iff_eq_none.trans Snapshot.domain?_eq_none_iff
  rw [Routing.skipped, foldl_skippedOf _ _ ((hperm.map Row.id).nodup_iff.2 hids), Nat.zero_add]
  simp only [hlistener, hstream, hhttp, List.countP_eq_length_filter]
  rfl

/-! ## Without the dangling routes -/

section WithoutDangling

variable (s : Snapshot) (lead : String)

theorem streamRoutesOf_withoutDangling (id : UInt32) :
    s.withoutDangling.routing.streamRoutesOf id =
      (s.routing.streamRoutesOf id).filter fun x => ¬x.Dangles s := by
  rw [Routing.streamRoutesOf, Routing.streamRoutesOf,
    filter_mergeSort StreamRoute.before_trans StreamRoute.before_total]
  exact congrArg (List.mergeSort · StreamRoute.before) (List.filter_comm ..)

theorem httpRoutesOf_withoutDangling (id : UInt32) :
    s.withoutDangling.routing.httpRoutesOf id =
      (s.routing.httpRoutesOf id).filter fun x => ¬x.Dangles s := by
  rw [Routing.httpRoutesOf, Routing.httpRoutesOf, filter_mergeSort byId_trans byId_total]
  exact congrArg (List.mergeSort · byId) (List.filter_comm ..)

/-- Without the routes that bind nothing, the same is bound in the same order. -/
theorem bindingsOf_withoutDangling (l : Listener) :
    s.withoutDangling.routing.bindingsOf lead l = s.routing.bindingsOf lead l := by
  rw [Routing.bindingsOf, Routing.bindingsOf, streamRoutesOf_withoutDangling]
  exact filterMap_filter_not (fun _ => bindingOf?_eq_none_iff) _

theorem hostsOf_withoutDangling (l : Listener) :
    s.withoutDangling.routing.hostsOf l = s.routing.hostsOf l := by
  rw [Routing.hostsOf, Routing.hostsOf, httpRoutesOf_withoutDangling]
  exact filterMap_filter_not (fun _ => Snapshot.domain?_eq_none_iff) _

theorem streamGroups_withoutDangling :
    s.withoutDangling.routing.streamGroups lead = s.routing.streamGroups lead := by
  have hstep : s.withoutDangling.routing.withStream lead = s.routing.withStream lead := by
    funext gs l
    rw [Routing.withStream, Routing.withStream, bindingsOf_withoutDangling]
  rw [Routing.streamGroups, hstep]
  rfl

theorem httpGroups_withoutDangling :
    s.withoutDangling.routing.httpGroups = s.routing.httpGroups := by
  have hstep : s.withoutDangling.routing.withHosts = s.routing.withHosts := by
    funext gs l
    rw [Routing.withHosts, Routing.withHosts, hostsOf_withoutDangling]
  rw [Routing.httpGroups, hstep]
  rfl

/-- Without the dangling routes every route binds something. -/
theorem skipped_withoutDangling : s.withoutDangling.routing.skipped lead = 0 := by
  have hnone : ∀ l, s.withoutDangling.routing.skippedOf lead l = 0 := by
    intro l
    unfold Routing.skippedOf
    cases l.kind with
    | stream =>
      simp only [streamRoutesOf_withoutDangling]
      exact countP_filter_not (fun _ => bindingOf?_eq_none_iff) _
    | http =>
      simp only [httpRoutesOf_withoutDangling]
      exact countP_filter_not (fun _ => Snapshot.domain?_eq_none_iff) _
  rw [Routing.skipped]
  generalize s.withoutDangling.routing.listenersById = ls
  induction ls with
  | nil => rfl
  | cons l rest ih => rw [List.foldl_cons, hnone, Nat.add_zero, ih]

end WithoutDangling

/-! ## Building -/

/-- Rows with the same groups are compiled alike, up to the count of what is left out. -/
theorem build_of_sameGroups {settings : ProxySettings} {r r' : Routing}
    (hstreams : r'.streamGroups settings.poolPrefix = r.streamGroups settings.poolPrefix)
    (hhttps : r'.httpGroups = r.httpGroups)
    (hlisteners : r'.listeners.length = r.listeners.length) :
    (build settings r).1 = (build settings r').1.map fun b =>
      (b.1, { b.2 with skippedRoutes := r.skipped settings.poolPrefix }) := by
  obtain ⟨g, hg, hg', hskipped, hbuild⟩ := build_eq settings r
  obtain ⟨g₁, hg₁, hg₁', -, hbuild₁⟩ := build_eq settings r'
  have hemit : emitConfig settings g = emitConfig settings g₁ := by
    unfold emitConfig
    rw [hg, hg', hg₁, hg₁', hstreams, hhttps]
  rw [hbuild, hbuild₁, hemit]
  cases emitConfig settings g₁ with
  | error e => rfl
  | ok c => simp [Except.map, Stats.of, hskipped, hlisteners]

theorem skippedRoutes_of_build {settings : ProxySettings} {r : Routing} {c : Config}
    {stats : Stats} (h : (build settings r).1 = .ok (c, stats)) :
    stats.skippedRoutes = r.skipped settings.poolPrefix := by
  have hsame : (build settings r).1 = (build settings r).1.map fun b =>
      (b.1, { b.2 with skippedRoutes := r.skipped settings.poolPrefix }) :=
    build_of_sameGroups rfl rfl rfl
  rw [h] at hsame
  exact congrArg (fun b => b.2.skippedRoutes) (Except.ok.inj hsame)

/-- Routes that lead nowhere show in nothing but a count. A snapshot is compiled as it is without
its dangling routes, to the same configuration or the same error. The count, which is 0 without
them, is the number of those that belong to a listener of their kind, if no two listeners have one
id. What comes of the routes of a listener, reports apart, depends on no more than what the source
says when rows that are corrupt or gone are missing, and it is an error exactly if one of the routes
meets another failure, the first such. -/
theorem build_withoutDangling (settings : ProxySettings) :
    (∀ (s : Snapshot) (path : Option String),
      (∃ n, (build settings (Store.ofSnapshot s path).routing).1 =
          (build settings (Store.ofSnapshot s.withoutDangling path).routing).1.map (fun b =>
            (b.1, { b.2 with skippedRoutes := n })) ∧
        ((s.listeners.map Row.id).Nodup → n = s.dangling)) ∧
      ∀ c stats, (build settings (Store.ofSnapshot s.withoutDangling path).routing).1 =
        .ok (c, stats) → stats.skippedRoutes = 0) ∧
    (∀ (a b : RouteSource) (ls : List Listener) (l : Listener), a.lenient = b.lenient →
      Resolution.outcome (resolveStream a ls settings.poolPrefix l) =
          Resolution.outcome (resolveStream b ls settings.poolPrefix l) ∧
        Resolution.outcome (resolveHttp a l) = Resolution.outcome (resolveHttp b l)) ∧
    ∀ (source : RouteSource) (ls : List Listener) (l : Listener),
      (∀ routes, source.streamRoutesOf l.id = .ok routes →
        (resolveStream source ls settings.poolPrefix l).1 =
          (routes.mergeSort StreamRoute.before).findSome? (·.failure? source)) ∧
      ∀ routes, source.httpRoutesOf l.id = .ok routes →
        (resolveHttp source l).1 = (routes.mergeSort byId).findSome? (·.failure? source) := by
  refine ⟨fun s path => ⟨⟨_, ?_, skipped_routing settings.poolPrefix⟩, fun c stats h => ?_⟩,
    fun a b ls l h => ⟨?_, ?_⟩, fun source ls l => ⟨fun routes h => ?_, fun routes h => ?_⟩⟩
  · exact build_of_sameGroups (streamGroups_withoutDangling s _) (httpGroups_withoutDangling s) rfl
  · exact (skippedRoutes_of_build h).trans (skipped_withoutDangling s _)
  · rw [← outcome_resolveStream a, h, outcome_resolveStream]
  · rw [← outcome_resolveHttp a, h, outcome_resolveHttp]
  · exact fst_resolveStream source ls settings.poolPrefix l h
  · exact fst_resolveHttp source l h

/-- Of the routes of port 443 one resolves. The others miss a domain, an address, a listener with a
port and an ssh port. One host of port 80 misses its domain, and one stream route belongs to the
listener of port 80. -/
def fiveDanglers : Snapshot where
  listeners := [⟨3, 0, .stream, false, .blacklist, ""⟩, ⟨1, 443, .stream, true, .blacklist, ""⟩,
    ⟨2, 80, .http, false, .blacklist, ""⟩]
  domains := [⟨4, "a.example"⟩]
  streamRoutes :=
    [{ id := 1, domainId := 9, listenId := 1, targetAddress := "192.0.2.1", targetPort := 443 },
      { id := 2, domainId := 4, listenId := 1, targetAddress := " ", targetPort := 443 },
      { id := 3, domainId := 4, listenId := 1, destination := .listener, targetListenId := 3 },
      { id := 4, domainId := 4, listenId := 1, destination := .sshLocal, sshPortId := 8 },
      { id := 5, domainId := 4, listenId := 1, destination := .sshLocal, sshPortId := 7 },
      { id := 6, domainId := 9, listenId := 2 }]
  httpRoutes := [⟨1, 9, 2⟩, ⟨2, 4, 2⟩]
  sshPorts := [⟨7, 2222⟩]

/-- What is left of `fiveDanglers`. -/
def fiveDanglersDropped : Snapshot :=
  { fiveDanglers with
    streamRoutes :=
      [{ id := 5, domainId := 4, listenId := 1, destination := .sshLocal, sshPortId := 7 }]
    httpRoutes := [⟨2, 4, 2⟩] }

theorem withoutDangling_fiveDanglers : fiveDanglers.withoutDangling = fiveDanglersDropped := by
  decide

theorem streamGroups_fiveDanglersDropped : fiveDanglersDropped.routing.streamGroups "ffus_" =
    [⟨443, 1, [⟨5, ⟨4, "a.example"⟩, "ffus_4", "127.0.0.1:2222", .none, false⟩]⟩, ⟨0, 3, []⟩] := by
  cbv

theorem httpGroups_fiveDanglersDropped :
    fiveDanglersDropped.routing.httpGroups = [⟨80, [⟨4, "a.example"⟩]⟩] := by cbv

/-- The rows of `fiveDanglers`, behind a source in which ssh port 8 cannot be had in time. -/
def fiveDanglersSource : RouteSource :=
  { fiveDanglers.routing.source with
    sshPort? := fun id =>
      if id = 8 then .error (.timeout (.ofSeconds 5))
      else .ok (fiveDanglers.routing.sshPorts.get? id) }

/-- The same source, except that the row of domain 9 is corrupt and not missing. -/
def fiveDanglersCorrupt : RouteSource :=
  { fiveDanglersSource with
    domain? := fun id =>
      if id = 9 then .error (.corrupt "domains" 9 "name") else fiveDanglersSource.domain? id }

theorem lenient_fiveDanglersCorrupt : fiveDanglersCorrupt.lenient = fiveDanglersSource.lenient := by
  have hdomain : fiveDanglersCorrupt.lenient.domain? = fiveDanglersSource.lenient.domain? := by
    funext id
    by_cases hid : id = 9
    · subst hid
      cbv
    · simp [RouteSource.lenient, fiveDanglersCorrupt, hid]
  exact congrArg (fun d => { fiveDanglersSource.lenient with domain? := d }) hdomain

/-- Six of the eight routes of `fiveDanglers` lead nowhere, and five of them count. A corrupt row is
as good as a missing one, and an ssh port that cannot be had in time ends the resolution. -/
theorem build_withoutDangling_fiveDanglers :
    (∃ c stats,
      (build {} (Store.ofSnapshot fiveDanglersDropped none).routing).1 = .ok (c, stats) ∧
        stats.skippedRoutes = 0 ∧
        (build {} (Store.ofSnapshot fiveDanglers none).routing).1 =
          .ok (c, { stats with skippedRoutes := 5 })) ∧
      Resolution.outcome (resolveHttp fiveDanglersCorrupt ⟨2, 80, .http, false, .blacklist, ""⟩) =
        Resolution.outcome
          (resolveHttp fiveDanglersSource ⟨2, 80, .http, false, .blacklist, ""⟩) ∧
      (resolveHttp fiveDanglersCorrupt ⟨2, 80, .http, false, .blacklist, ""⟩).1 = none ∧
      (resolveStream fiveDanglersCorrupt fiveDanglers.listeners "ffus_"
        ⟨1, 443, .stream, true, .blacklist, ""⟩).1 = some (.timeout (.ofSeconds 5)) := by
  obtain ⟨hbuild, halike, hfail⟩ := build_withoutDangling {}
  obtain ⟨⟨n, hsame, hcount⟩, hzero⟩ := hbuild fiveDanglers none
  rw [hcount (by decide), withoutDangling_fiveDanglers] at hsame
  rw [withoutDangling_fiveDanglers] at hzero
  refine ⟨?_, ?_, ?_, ?_⟩
  · obtain ⟨c, stats, hdropped⟩ : ∃ c stats,
        (build {} fiveDanglersDropped.routing).1 = .ok (c, stats) :=
      exists_build_of_groups streamGroups_fiveDanglersDropped httpGroups_fiveDanglersDropped
        (by decide)
    exact ⟨c, stats, hdropped, hzero c stats hdropped, hsame.trans (congrArg _ hdropped)⟩
  · exact (halike _ _ [] ⟨2, 80, .http, false, .blacklist, ""⟩ lenient_fiveDanglersCorrupt).2
  · rw [(hfail fiveDanglersCorrupt [] ⟨2, 80, .http, false, .blacklist, ""⟩).2 _ rfl]
    cbv
  · rw [show "ffus_" = ProxySettings.poolPrefix {} from rfl,
      (hfail fiveDanglersCorrupt fiveDanglers.listeners
        ⟨1, 443, .stream, true, .blacklist, ""⟩).1 _ rfl]
    cbv

end Portcullis
