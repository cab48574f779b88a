import Mathlib.Data.List.Induction
import Portcullis.Compile.Build
import Portcullis.Proofs.Keys
import Portcullis.Proofs.Routing.Resolution

/-!
# What is gathered by port

Gathering goes through the listeners by id and adds what each binds to the group of its port.
This module says what the groups are in the end.

* `gather_eq` gives the outcome of gathering as three folds over the listeners, one for each kind
  of group and one for the routes left out.
* `build_ok` says which groups a configuration is made of, and `exists_build_of_groups` that there
  is one where they are accepted; `exists_build_of_streams` is about stream listeners alone.
* `StreamGroup.on?_insert` and `StreamGroup.ports_insert` say what one insertion does to the
  groups, seen by port.
* `Routing.on?_streamGroups` says that the group of a port holds what all stream listeners of the
  port bind, under the id of the first of them, and `Routing.ports_streamGroups` in which order
  groups come, and so that no port has two.
-/

namespace Portcullis

open Portcullis.Proxy

/-! ## Gathering as folds -/

namespace Routing

/-- The stream groups after one more listener. -/
def withStream (r : Routing) (lead : String) (gs : List StreamGroup) (l : Listener) :
    List StreamGroup :=
  match l.kind with
  | .stream => (StreamGroup.insert l.port l.id (r.bindingsOf lead l) gs).1
  | .http => gs

/-- The http groups after one more listener. -/
def withHosts (r : Routing) (gs : List HttpGroup) (l : Listener) : List HttpGroup :=
  match l.kind with
  | .stream => gs
  | .http => (HttpGroup.insert l.port (r.hostsOf l) gs).1

/-- How many routes of a listener bind nothing. -/
def skippedOf (r : Routing) (lead : String) (l : Listener) : Nat :=
  match l.kind with
  | .stream => (r.streamRoutesOf l.id).countP fun x => (r.bindingOf? lead x).isNone
  | .http => (r.httpRoutesOf l.id).countP fun x => (r.domains.get? x.domainId).isNone

/-- The groups of all stream listeners. -/
def streamGroups (r : Routing) (lead : String) : List StreamGroup :=
  r.listenersById.foldl (r.withStream lead) []

/-- The groups of all http listeners. -/
def httpGroups (r : Routing) : List HttpGroup :=
  r.listenersById.foldl r.withHosts []

/-- How many routes of all listeners bind nothing. -/
def skipped (r : Routing) (lead : String) : Nat :=
  r.listenersById.foldl (fun n l => n + r.skippedOf lead l) 0

/-- Where all listeners are stream listeners there are no http groups. -/
theorem httpGroups_eq_nil {r : Routing} (h : ∀ l ∈ r.listeners, l.kind = .stream) :
    r.httpGroups = [] := by
  have hskip : ∀ ls : List Listener, (∀ l ∈ ls, l.kind = .stream) →
      ls.foldl r.withHosts [] = [] := by
    intro ls hls
    induction ls with
    | nil => rfl
    | cons l ls ih =>
      obtain ⟨hl, hrest⟩ := List.forall_mem_cons.1 hls
      rw [List.foldl_cons, withHosts, hl]
      exact ih hrest
  exact hskip r.listenersById fun l hl => h l (List.mem_mergeSort.1 hl)

end Routing

/-- Adding what a listener binds cannot fail. -/
theorem Gathered.add_source (r : Routing) (lead : String) (g : Gathered) (l : Listener) :
    ∃ notes, g.add r.source r.listenersById lead l =
      (none, ⟨r.withStream lead g.streams l, r.withHosts g.https l,
        g.skipped + r.skippedOf lead l, notes⟩) := by
  unfold Gathered.add Routing.withStream Routing.withHosts Routing.skippedOf
  cases l.kind with
  | stream =>
    obtain ⟨notes, hnotes⟩ := resolveStream_source r lead l
    exact ⟨_, by simp only [hnotes]; rfl⟩
  | http =>
    obtain ⟨notes, hnotes⟩ := resolveHttp_source r l
    exact ⟨_, by simp only [hnotes]; rfl⟩

theorem Gathered.addAll_source (r : Routing) (lead : String) (g : Gathered)
    (ls : List Listener) :
    ∃ notes, g.addAll r.source r.listenersById lead ls =
      (none, ⟨ls.foldl (r.withStream lead) g.streams, ls.foldl r.withHosts g.https,
        ls.foldl (fun n l => n + r.skippedOf lead l) g.skipped, notes⟩) := by
  induction ls generalizing g with
  | nil => exact ⟨g.notes, rfl⟩
  | cons l rest ih =>
    obtain ⟨notes, hadd⟩ := add_source r lead g l
    rw [addAll, hadd]
    exact ih _

/-- Gathering cannot fail, and gives the groups of all listeners. -/
theorem gather_eq (r : Routing) (lead : String) :
    ∃ notes, gather r lead =
      (none, ⟨r.streamGroups lead, r.httpGroups, r.skipped lead, notes⟩) :=
  Gathered.addAll_source r lead {} r.listenersById

/-- A configuration is built of the groups of all listeners. -/
theorem build_eq (s : ProxySettings) (r : Routing) :
    ∃ g : Gathered, g.streams = r.streamGroups s.poolPrefix ∧ g.https = r.httpGroups ∧
      g.skipped = r.skipped s.poolPrefix ∧
        build s r = ((emitConfig s g).map fun c => (c, Stats.of r g c), g.notes) := by
  obtain ⟨notes, hgather⟩ := gather_eq r s.poolPrefix
  refine ⟨⟨r.streamGroups s.poolPrefix, r.httpGroups, r.skipped s.poolPrefix, notes⟩,
    rfl, rfl, rfl, ?_⟩
  rw [build, hgather]

/-- Both blocks have to be accepted. -/
theorem emitConfig_eq_ok_iff {s : ProxySettings} {g : Gathered} {c : Config} :
    emitConfig s g = .ok c ↔
      emitStream s (Block.empty .stream) g.streams = (c.stream, .ok ()) ∧
        emitHttp s (Block.empty .http) g.https = (c.http, .ok ()) := by
  unfold emitConfig
  rcases emitStream s (Block.empty .stream) g.streams with ⟨stream, e | ⟨⟩⟩
  · simp
  · rcases emitHttp s (Block.empty .http) g.https with ⟨http, e | ⟨⟩⟩
    · simp
    · cases c
      simp

/-- A configuration that was built holds what the groups ask for. -/
theorem build_ok {s : ProxySettings} {r : Routing} {c : Config} {stats : Stats}
    (h : (build s r).1 = .ok (c, stats)) :
    emitStream s (Block.empty .stream) (r.streamGroups s.poolPrefix) = (c.stream, .ok ()) ∧
      emitHttp s (Block.empty .http) r.httpGroups = (c.http, .ok ()) := by
  obtain ⟨g, hstreams, hhttps, -, hbuild⟩ := build_eq s r
  rw [hbuild] at h
  obtain ⟨c', hc', heq⟩ : ∃ c', emitConfig s g = .ok c' ∧ (c', Stats.of r g c') = (c, stats) := by
    cases hemit : emitConfig s g with
    | error e => simp [hemit, Except.map] at h
    | ok c' => exact ⟨c', rfl, by simpa [hemit, Except.map] using h⟩
  obtain rfl : c' = c := congrArg Prod.fst heq
  rw [← hstreams, ← hhttps]
  exact emitConfig_eq_ok_iff.1 hc'

/-- Where the groups of all listeners are accepted, there is a configuration. -/
theorem exists_build_of_groups {s : ProxySettings} {r : Routing} {streams : List StreamGroup}
    {https : List HttpGroup} (hstreams : r.streamGroups s.poolPrefix = streams)
    (hhttps : r.httpGroups = https) (h : (emitConfig s ⟨streams, https, 0, []⟩).isOk = true) :
    ∃ c stats, (build s r).1 = .ok (c, stats) := by
  obtain ⟨g, hg, hg', -, hbuild⟩ := build_eq s r
  have hsame : emitConfig s g = emitConfig s ⟨streams, https, 0, []⟩ := by
    unfold emitConfig
    rw [hg, hg', hstreams, hhttps]
  rw [hbuild, hsame]
  cases hemit : emitConfig s ⟨streams, https, 0, []⟩ with
  | error e => simp [hemit, Except.isOk, Except.toBool] at h
  | ok c => exact ⟨c, _, rfl⟩

theorem exists_build_of_streams {s : ProxySettings} {r : Routing} {streams : List StreamGroup}
    (hkinds : ∀ l ∈ r.listeners, l.kind = .stream)
    (hstreams : r.streamGroups s.poolPrefix = streams)
    (h : (emitConfig s ⟨streams, [], 0, []⟩).isOk = true) :
    ∃ c stats, (build s r).1 = .ok (c, stats) :=
  exists_build_of_groups hstreams (Routing.httpGroups_eq_nil hkinds) h

/-- What is previewed is what is built. -/
theorem preview_eq_ok_iff {s : ProxySettings} {r : Routing} {out : Compiled} :
    (preview s (.ok r)).1 = .ok out ↔
      ∃ c stats, (build s r).1 = .ok (c, stats) ∧ out = .of s c stats := by
  unfold preview
  cases hbuild : (build s r).1 with
  | error e => simp [hbuild, Except.map]
  | ok result =>
    obtain ⟨c, stats⟩ := result
    simp [hbuild, Except.map, eq_comm]

/-! ## Stream groups by port -/

namespace StreamGroup

/-- The group of a port. -/
def on? (port : Int32) (gs : List StreamGroup) : Option StreamGroup :=
  gs.find? fun g => g.port = port

/-- An insertion gives the port's group the bindings, and leaves the other groups alone. -/
theorem on?_insert (p q : Int32) (id : UInt32) (bs : List StreamBinding)
    (gs : List StreamGroup) :
    on? q (insert p id bs gs).1 =
      if p = q then
        some (((on? p gs).map fun g => { g with bindings := g.bindings ++ bs }).getD ⟨p, id, bs⟩)
      else on? q gs := by
  induction gs with
  | nil => by_cases hpq : p = q <;> simp [insert, on?, hpq]
  | cons g rest ih =>
    simp only [on?] at ih ⊢
    by_cases hg : g.port = p
    · by_cases hpq : p = q <;> simp [insert, hg, hpq]
    · by_cases hpq : p = q
      · subst hpq
        simpa [insert, hg] using ih
      · simp only [insert, hg, if_false, List.find?_cons, ih, hpq]

/-- A port that has no group yet gets one behind the others. -/
theorem ports_insert (p : Int32) (id : UInt32) (bs : List StreamBinding)
    (gs : List StreamGroup) :
    (insert p id bs gs).1.map StreamGroup.port =
      if p ∈ gs.map StreamGroup.port then gs.map StreamGroup.port
      else gs.map StreamGroup.port ++ [p] := by
  induction gs with
  | nil => rfl
  | cons g rest ih =>
    by_cases hg : g.port = p
    · simp [insert, hg]
    · have hne : p ≠ g.port := fun h => hg h.symm
      simp only [insert, hg, if_false, List.map_cons, ih, List.mem_cons, hne, false_or]
      split <;> rfl

/-- Where no port has two groups, each group is the one of its port. -/
theorem on?_eq_some_iff {gs : List StreamGroup} (h : (gs.map StreamGroup.port).Nodup)
    {p : Int32} {g : StreamGroup} : on? p gs = some g ↔ g ∈ gs ∧ g.port = p :=
  find?_key_eq_some_iff h

end StreamGroup

namespace Routing

theorem mem_streamListenersOn_iff {r : Routing} {port : Int32} {l : Listener} :
    l ∈ r.streamListenersOn port ↔ l ∈ r.listeners ∧ l.kind = .stream ∧ l.port = port := by
  simp [streamListenersOn, streamOn, listenersById]

/-- Through any listeners, the group of a port holds what those of them bind that are stream
listeners of the port. -/
theorem on?_foldl_withStream (r : Routing) (lead : String) (p : Int32) (ls : List Listener) :
    StreamGroup.on? p (ls.foldl (r.withStream lead) []) =
      (streamOn p ls).head?.map fun l =>
        ⟨p, l.id, (streamOn p ls).flatMap (r.bindingsOf lead)⟩ := by
  induction ls using List.reverseRecOn with
  | nil => rfl
  | append_singleton ls l ih =>
    rw [List.foldl_append, List.foldl_cons, List.foldl_nil, withStream]
    cases hkind : l.kind with
    | http => simpa [streamOn, hkind] using ih
    | stream =>
      simp only [StreamGroup.on?_insert]
      by_cases hport : l.port = p
      · subst hport
        have hsnoc : streamOn l.port (ls ++ [l]) = streamOn l.port ls ++ [l] := by
          simp [streamOn, hkind]
        rw [ih, hsnoc]
        cases streamOn l.port ls <;> simp
      · simpa [streamOn, hkind, hport] using ih

/-- The group of a port holds what all stream listeners of the port bind, and the id of the first
of them. -/
theorem on?_streamGroups (r : Routing) (lead : String) (p : Int32) :
    StreamGroup.on? p (r.streamGroups lead) =
      (r.streamListenersOn p).head?.map fun l => ⟨p, l.id, r.bindingsOn lead p⟩ :=
  r.on?_foldl_withStream lead p r.listenersById

/-- The ports of stream listeners, in the order of the listeners that open them first. -/
def streamPorts (r : Routing) : List Int32 :=
  ((r.listenersById.filter (·.kind = .stream)).map (·.port)).eraseDups

/-- Groups come in the order of the listeners that open their ports first. -/
theorem ports_streamGroups (r : Routing) (lead : String) :
    (r.streamGroups lead).map StreamGroup.port = r.streamPorts := by
  refine map_foldl_eq_eraseDups (fun gs l hkind => ?_) (fun gs l hkind => ?_) r.listenersById
  · rw [withStream, of_decide_eq_true hkind]
    exact StreamGroup.ports_insert ..
  · cases h : l.kind with
    | stream => simp [h] at hkind
    | http => rw [withStream, h]

/-- No port has two groups. -/
theorem nodup_ports (r : Routing) (lead : String) :
    ((r.streamGroups lead).map StreamGroup.port).Nodup := by
  rw [ports_streamGroups]
  exact nodup_eraseDups _

/-- A group is there exactly if its port has a stream listener, and then it is the port's. -/
theorem mem_streamGroups_iff (r : Routing) (lead : String) (g : StreamGroup) :
    g ∈ r.streamGroups lead ↔
      ∃ l, (r.streamListenersOn g.port).head? = some l ∧
        g = ⟨g.port, l.id, r.bindingsOn lead g.port⟩ := by
  have hon := StreamGroup.on?_eq_some_iff (r.nodup_ports lead) (p := g.port) (g := g)
  rw [on?_streamGroups, Option.map_eq_some_iff] at hon
  simpa [eq_comm] using hon.symm

theorem bindings_of_mem {r : Routing} {lead : String} {g : StreamGroup}
    (h : g ∈ r.streamGroups lead) : g.bindings = r.bindingsOn lead g.port := by
  obtain ⟨l, _, hg⟩ := (r.mem_streamGroups_iff lead g).1 h
  rw [hg]

/-- A port on which something is bound has a group. -/
theorem exists_group {r : Routing} {lead : String} {p : Int32}
    (h : r.bindingsOn lead p ≠ []) : ∃ g ∈ r.streamGroups lead, g.port = p := by
  cases hls : r.streamListenersOn p with
  | nil => simp [bindingsOn, hls] at h
  | cons l rest =>
    exact ⟨⟨p, l.id, r.bindingsOn lead p⟩,
      (r.mem_streamGroups_iff lead _).2 ⟨l, by rw [hls]; rfl, rfl⟩, rfl⟩

end Routing

end Portcullis
