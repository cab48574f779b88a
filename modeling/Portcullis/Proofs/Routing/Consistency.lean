import Portcullis.Proofs.Routing.Refusal
import Mathlib

/-!
# Which routing rows are compiled

Routing rows are compiled exactly if they do not contradict each other, and a refusal names a
contradiction that is there.

* `Routing.hostsOn` lists the hosts of a port, as `Routing.bindingsOn` lists what is bound on it.
  `Routing.boundOn_httpGroups` says that a port with hosts has a group with hosts.
* `Routing.Consistent` is the condition on rows and settings, port by port, and
  `Routing.Contradicts` relates them to the rejections that they cause.
* `build_ok_iff_consistent` is the main result.

A port on which nothing is bound is never looked at, so listeners without usable routes cannot
make a build fail.
-/

namespace Portcullis

open Portcullis.Proxy
open StreamBinding

/-! ## Hosts by port -/

/-- Adding hosts leaves hosts where there are any. -/
theorem addHosts_ne_nil_iff (port : Int32) (held hosts : List Domain) :
    (addHosts port held hosts).1 ≠ [] ↔ held ≠ [] ∨ hosts ≠ [] := by
  induction hosts generalizing held with
  | nil => simp [addHosts]
  | cons h rest ih =>
    rw [addHosts]
    split
    · rename_i hany
      have hheld : held ≠ [] := by
        rintro rfl
        simp at hany
      exact (ih held).trans (by simp [hheld])
    · exact (ih (held ++ [h])).trans (by simp)

namespace HttpGroup

/-- Some group of the port has hosts. -/
def BoundOn (port : Int32) (gs : List HttpGroup) : Prop :=
  ∃ g ∈ gs, g.port = port ∧ g.hosts ≠ []

theorem not_boundOn_nil (port : Int32) : ¬BoundOn port [] := by
  rintro ⟨g, hg, -⟩
  cases hg

theorem boundOn_cons (port : Int32) (g : HttpGroup) (gs : List HttpGroup) :
    BoundOn port (g :: gs) ↔ g.port = port ∧ g.hosts ≠ [] ∨ BoundOn port gs := by
  simp [BoundOn]

/-- An insertion gives its port the hosts that it brings, and takes none away. -/
theorem boundOn_insert (p q : Int32) (hosts : List Domain) (gs : List HttpGroup) :
    BoundOn q (insert p hosts gs).1 ↔ BoundOn q gs ∨ p = q ∧ hosts ≠ [] := by
  induction gs with
  | nil => simp [insert, boundOn_cons, addHosts_ne_nil_iff, not_boundOn_nil]
  | cons g rest ih =>
    rw [insert]
    split
    · rename_i hport
      subst hport
      rw [boundOn_cons, boundOn_cons, addHosts_ne_nil_iff]
      tauto
    · rw [boundOn_cons, boundOn_cons, ih]
      tauto

end HttpGroup

namespace Routing

/-- The http listeners of a port, by id. -/
def httpListenersOn (r : Routing) (port : Int32) : List Listener :=
  r.listenersById.filter fun l => l.kind = .http ∧ l.port = port

/-- The hosts that the http listeners of a port bind. -/
def hostsOn (r : Routing) (port : Int32) : List Domain :=
  (r.httpListenersOn port).flatMap r.hostsOf

/-- The ports with hosts are those on which an http listener binds a host. -/
theorem boundOn_httpGroups (r : Routing) (port : Int32) :
    HttpGroup.BoundOn port r.httpGroups ↔ r.hostsOn port ≠ [] := by
  have hfold : ∀ (ls : List Listener) (gs : List HttpGroup),
      HttpGroup.BoundOn port (ls.foldl r.withHosts gs) ↔
        HttpGroup.BoundOn port gs ∨
          ∃ l ∈ ls, (l.kind = .http ∧ l.port = port) ∧ r.hostsOf l ≠ [] := by
    intro ls
    induction ls with
    | nil => simp
    | cons l rest ih =>
      intro gs
      have hstep : HttpGroup.BoundOn port (r.withHosts gs l) ↔
          HttpGroup.BoundOn port gs ∨ (l.kind = .http ∧ l.port = port) ∧ r.hostsOf l ≠ [] := by
        unfold withHosts
        cases hkind : l.kind with
        | stream => simp
        | http => simp [HttpGroup.boundOn_insert]
      rw [List.foldl_cons, ih, hstep, or_assoc]
      simp
  rw [httpGroups, hfold, or_iff_right (HttpGroup.not_boundOn_nil port)]
  simp [hostsOn, httpListenersOn, and_assoc]

/-! ## Consistent rows -/

/-- Routing rows that do not contradict each other, under some settings. -/
structure Consistent (r : Routing) (s : ProxySettings) : Prop where
  /-- What a stream route binds is bound on a port that a server can listen on. -/
  streamPort : ∀ port, r.bindingsOn s.poolPrefix port ≠ [] → IsPort port
  /-- What the stream routes of a port bind has one catch-all at most, and names that tell the
  others apart. -/
  bindings : ∀ port, Compatible (r.bindingsOn s.poolPrefix port)
  /-- A host is bound on a port that a server can listen on. -/
  httpPort : ∀ port, r.hostsOn port ≠ [] → IsPort port
  /-- Where a host is bound there is an error page. -/
  errorPage : ∀ port, r.hostsOn port ≠ [] → s.errorPageUri ≠ ""

/-- A contradiction among routing rows, and the rejection that it causes. -/
inductive Contradicts (r : Routing) (s : ProxySettings) : Rejection → Prop where
  | streamPort {port : Int32} (h : r.bindingsOn s.poolPrefix port ≠ []) (hport : ¬IsPort port) :
      Contradicts r s (.invalidPort port.toInt)
  | bindings {port : Int32} {e : Rejection}
      (h : Clash (portVariable port) (r.bindingsOn s.poolPrefix port) e) : Contradicts r s e
  | httpPort {port : Int32} (h : r.hostsOn port ≠ []) (hport : ¬IsPort port) :
      Contradicts r s (.invalidPort port.toInt)
  | errorPage {port : Int32} (h : r.hostsOn port ≠ []) (hpage : s.errorPageUri = "") :
      Contradicts r s (.empty "error page binding")

variable {r : Routing} {s : ProxySettings} {e : Rejection}

theorem Contradicts.not_consistent (h : r.Contradicts s e) : ¬r.Consistent s := by
  intro hcons
  cases h with
  | streamPort h hport => exact hport (hcons.streamPort _ h)
  | bindings h => exact h.not_compatible (hcons.bindings _)
  | httpPort h hport => exact hport (hcons.httpPort _ h)
  | errorPage h hpage => exact hcons.errorPage _ h hpage

/-- No contradiction is about a map of which there are two. -/
theorem Contradicts.ne_duplicateMap (h : r.Contradicts s e) (output : String) :
    e ≠ .duplicateMap output := by
  cases h with
  | streamPort | httpPort | errorPage => nofun
  | bindings h => cases h <;> nofun

/-- The pools of bindings have names. -/
theorem pool_ne_empty {lead : String} {port : Int32} {b : StreamBinding}
    (h : b ∈ r.bindingsOn lead port) : b.pool ≠ "" := by
  obtain ⟨l, -, hb⟩ := List.mem_flatMap.1 h
  obtain ⟨x, -, hx⟩ := List.mem_filterMap.1 hb
  obtain ⟨d, t, -, -, rfl⟩ := bindingOf?_eq_some_iff.1 hx
  exact poolName_ne_empty lead x.aliasName d.id

end Routing

/-! ## Building -/

variable {r : Routing} {s : ProxySettings}

/-- Rows that were compiled do not contradict each other. -/
theorem consistent_of_build {c : Config} {stats : Stats}
    (h : (build s r).1 = .ok (c, stats)) : r.Consistent s := by
  obtain ⟨hstream, hhttp⟩ := build_ok h
  have hports : ∀ port, r.bindingsOn s.poolPrefix port ≠ [] →
      IsPort port ∧ Compatible (r.bindingsOn s.poolPrefix port) := by
    intro port hport
    obtain ⟨g, hg, rfl⟩ := Routing.exists_group hport
    have hbindings := Routing.bindings_of_mem hg
    rw [← hbindings] at hport ⊢
    obtain ⟨b₁, b₂, hemit⟩ := emitStream_ok_of_mem hstream hg
    exact g.not_fault_of_emit hport hemit
  have hhosts : ∀ port, r.hostsOn port ≠ [] → IsPort port ∧ s.errorPageUri ≠ "" := by
    intro port hport
    obtain ⟨g, hg, rfl, hne⟩ := (r.boundOn_httpGroups port).2 hport
    obtain ⟨b₁, b₂, hemit⟩ := emitEach_ok_of_mem hhttp hg
    exact g.not_fault_of_emit hne hemit
  constructor
  · exact fun port hport => (hports port hport).1
  · intro port
    by_cases hnil : r.bindingsOn s.poolPrefix port = []
    · rw [hnil]
      exact compatible_nil
    · exact (hports port hnil).2
  · exact fun port hport => (hhosts port hport).1
  · exact fun port hport => (hhosts port hport).2

/-- A refusal names a contradiction that is there. -/
theorem contradicts_of_build {e : CompileError} (h : (build s r).1 = .error e) :
    ∃ rejection, e = .invalid rejection ∧ r.Contradicts s rejection := by
  obtain ⟨g, hstreams, hhttps, -, hbuild⟩ := build_eq s r
  rw [hbuild] at h
  have hemit : emitConfig s g = .error e := by
    cases hconfig : emitConfig s g with
    | ok c => simp [hconfig, Except.map] at h
    | error e' => simpa [hconfig, Except.map] using h
  unfold emitConfig at hemit
  rw [hstreams, hhttps] at hemit
  split at hemit
  · rename_i b rejection hstream
    cases hemit
    refine ⟨rejection, rfl, ?_⟩
    have hpools : ∀ g ∈ r.streamGroups s.poolPrefix, ∀ b ∈ g.bindings, b.pool ≠ "" := by
      intro g hg b hb
      exact Routing.pool_ne_empty (Routing.bindings_of_mem hg ▸ hb)
    obtain ⟨g, hg, hne, hfault⟩ := emitStream_error (r.nodup_ports s.poolPrefix) hpools hstream
    rw [Routing.bindings_of_mem hg] at hne
    cases hfault with
    | port hport => exact .streamPort hne hport
    | bindings hclash => exact .bindings (Routing.bindings_of_mem hg ▸ hclash)
  · split at hemit
    · rename_i b rejection hhttp
      cases hemit
      refine ⟨rejection, rfl, ?_⟩
      obtain ⟨g, hg, hne, hfault⟩ := emitHttp_error hhttp
      have hhosts : r.hostsOn g.port ≠ [] := (r.boundOn_httpGroups g.port).1 ⟨g, hg, rfl, hne⟩
      cases hfault with
      | port hport => exact .httpPort hhosts hport
      | errorPage hpage => exact .errorPage hhosts hpage
    · cases hemit

/-- Routing rows are compiled exactly if they do not contradict each other: if every port on which
a route resolves is one that a server can listen on, if the stream bindings of a port have one
catch-all at most and otherwise names that tell them apart, and if hosts have an error page. A
refusal names a contradiction that is there, never a map declared twice. -/
theorem build_ok_iff_consistent (s : ProxySettings) (r : Routing) :
    ((∃ c stats, (build s r).1 = .ok (c, stats)) ↔ r.Consistent s) ∧
      ∀ e, (build s r).1 = .error e →
        ∃ rejection, e = .invalid rejection ∧ r.Contradicts s rejection ∧
          ∀ output, rejection ≠ .duplicateMap output := by
  constructor
  · constructor
    · rintro ⟨c, stats, h⟩
      exact consistent_of_build h
    · intro hcons
      cases h : (build s r).1 with
      | ok result => exact ⟨result.1, result.2, rfl⟩
      | error e =>
        obtain ⟨rejection, -, hcontra⟩ := contradicts_of_build h
        exact absurd hcons hcontra.not_consistent
  · intro e h
    obtain ⟨rejection, rfl, hcontra⟩ := contradicts_of_build h
    exact ⟨rejection, rfl, hcontra, hcontra.ne_duplicateMap⟩

/-- Two routes of port 443 are catch-alls, one marked and one by its domain's name. The listener of
port 0 has no routes. -/
def twoCatchAlls : Routing where
  listeners := [⟨1, 0, .stream, false, .blacklist, ""⟩, ⟨2, 443, .stream, false, .blacklist, ""⟩]
  domains := .ofList [⟨4, "default"⟩, ⟨5, "a.example"⟩]
  sshPorts := .ofList [⟨9, 2222⟩]
  streamRoutes :=
    [{ id := 1, domainId := 4, listenId := 2, destination := .sshLocal, sshPortId := 9 },
      { id := 2, domainId := 5, listenId := 2, destination := .sshLocal, sshPortId := 9,
        isDefault := true }]

theorem streamGroups_twoCatchAlls : twoCatchAlls.streamGroups "ffus_" =
    [⟨0, 1, []⟩,
      ⟨443, 2, [⟨1, ⟨4, "default"⟩, "ffus_4", "127.0.0.1:2222", .none, false⟩,
        ⟨2, ⟨5, "a.example"⟩, "ffus_5", "127.0.0.1:2222", .none, true⟩]⟩] := by cbv

/-- The second catch-all is refused, and port 0 is not. -/
theorem build_ok_iff_consistent_twoCatchAlls :
    (build {} twoCatchAlls).1 =
        .error (.invalid (.duplicateDefault "$ffstream443" "ffus_4")) ∧
      twoCatchAlls.Contradicts {} (.duplicateDefault "$ffstream443" "ffus_4") := by
  have hbuild : (build {} twoCatchAlls).1 =
      .error (.invalid (.duplicateDefault "$ffstream443" "ffus_4")) := by
    obtain ⟨g, hstreams, -, -, hbuild⟩ := build_eq {} twoCatchAlls
    have hemit : emitConfig {} g =
        .error (.invalid (.duplicateDefault "$ffstream443" "ffus_4")) := by
      have hstream : (emitStream {} (Block.empty .stream) (twoCatchAlls.streamGroups "ffus_")).2 =
          .error (.duplicateDefault "$ffstream443" "ffus_4") := by
        rw [streamGroups_twoCatchAlls]
        decide +kernel
      unfold emitConfig
      rw [hstreams, show ProxySettings.poolPrefix {} = "ffus_" from rfl]
      split
      · rename_i b e h
        rw [h] at hstream
        cases hstream
        rfl
      · rename_i b h
        rw [h] at hstream
        cases hstream
    rw [hbuild, hemit]
    rfl
  obtain ⟨rejection, heq, hcontra, -⟩ := (build_ok_iff_consistent {} twoCatchAlls).2 _ hbuild
  cases heq
  exact ⟨hbuild, hcontra⟩

end Portcullis
