import Portcullis.Proofs.Routing.Emission
import Portcullis.Proofs.Routing.Grouping

/-!
# Why groups are refused

Where a group of bindings or of hosts is refused, the rejection names a fault that the group
really has.  Groups without bindings and without hosts are never refused.

* `Clash` relates bindings to the rejections that their contradictions cause.
  `Map.bindAll_error` says that there are no other rejections of bindings.
* `StreamGroup.Fault` and `HttpGroup.Fault` are the faults of whole groups.
  `emitStream_error` and `emitHttp_error` say that what is refused has a fault, and
  `StreamGroup.not_fault_of_emit` and `HttpGroup.not_fault_of_emit` that an accepted group has
  none.

A second map of one variable is refused as well, but no two groups have one port, and so none is
ever met.
-/

namespace Portcullis

open Portcullis.Proxy

namespace StreamBinding

/-! ## Bindings that contradict each other -/

/-- A contradiction among the bindings of a port, and the rejection that it causes. -/
inductive Clash (output : String) (bs : List StreamBinding) : Rejection → Prop where
  | secondCatchAll {a b : StreamBinding} (h : [a, b].Sublist (catchAlls bs)) :
      Clash output bs (.duplicateDefault output a.pool)
  | sameName {a b : StreamBinding} (h : [a, b].Sublist (allNamed bs))
      (hname : a.domain.name = b.domain.name) :
      Clash output bs (.duplicateKey output b.domain.name a.pool)
  | noName {b : StreamBinding} (h : b ∈ allNamed bs) (hname : b.domain.name = "") :
      Clash output bs (.empty "map key")

variable {output : String} {bs : List StreamBinding} {e : Rejection}

theorem Clash.not_compatible (h : Clash output bs e) : ¬Compatible bs := by
  intro hcompat
  cases h with
  | secondCatchAll h =>
    have htwo : 2 ≤ (catchAlls bs).length := h.length_le
    have := hcompat.one_catchAll
    omega
  | @sameName a b h hname =>
    have hnodup : [a.domain.name, b.domain.name].Nodup :=
      hcompat.nodup_names.sublist (h.map fun c : StreamBinding => c.domain.name)
    simp [hname] at hnodup
  | noName h hname => exact hcompat.names_ne _ h hname

/-- More bindings do not resolve a contradiction. -/
theorem Clash.append (h : Clash output bs e) (more : List StreamBinding) :
    Clash output (bs ++ more) e := by
  have hcatch : (catchAlls bs).Sublist (catchAlls (bs ++ more)) :=
    (List.sublist_append_left bs more).filter _
  have hnamed : (allNamed bs).Sublist (allNamed (bs ++ more)) :=
    (List.sublist_append_left bs more).filter _
  cases h with
  | secondCatchAll h => exact .secondCatchAll (h.trans hcatch)
  | sameName h hname => exact .sameName (h.trans hnamed) hname
  | noName h hname => exact .noName (hnamed.subset h) hname

end StreamBinding

open StreamBinding

namespace Proxy.Map

variable {input output : String} {bs : List StreamBinding} {e : Rejection}

/-- A binding that is refused contradicts one of those before it, or has no name. -/
theorem bind_holding_error {b : StreamBinding}
    (h : b.bind (holding input output bs) = .error e) : Clash output (bs ++ [b]) e := by
  cases hb : b.isCatchAll with
  | true =>
    rw [bind_catchAll hb] at h
    unfold setDefault holding at h
    cases hall : catchAlls bs with
    | nil => simp [hall] at h
    | cons a rest =>
      have he : e = .duplicateDefault output a.pool := by simpa [hall, eq_comm] using h
      rw [he]
      refine .secondCatchAll (b := b) ?_
      rw [catchAlls_snoc_catchAll hb, hall]
      exact (List.sublist_append_right rest [b]).cons_cons a
  | false =>
    have hmem : b ∈ allNamed (bs ++ [b]) := by
      rw [allNamed_snoc_named hb]
      exact List.mem_append_right _ List.mem_cons_self
    rw [bind_named hb] at h
    split at h
    · rename_i hname
      cases h
      exact .noName hmem hname
    · split at h
      · rename_i existing hlookup
        cases h
        rw [holding, lookup_map_entry, Option.map_eq_some_iff] at hlookup
        obtain ⟨a, hhead, rfl⟩ := hlookup
        obtain ⟨ha, hname⟩ := List.mem_filter.1 (List.mem_of_head? hhead)
        refine .sameName (a := a) ?_ (eq_of_beq hname)
        rw [allNamed_snoc_named hb]
        exact (List.singleton_sublist.2 ha).append (.refl [b])
      · cases h

/-- Where bindings are refused two of them contradict each other, or one has no name. -/
theorem bindAll_error (h : (between input output).bindAll bs = .error e) :
    Clash output bs e := by
  induction bs using List.reverseRecOn with
  | nil => cases h
  | append_singleton bs b ih =>
    rw [bindAll_snoc] at h
    cases hall : (between input output).bindAll bs with
    | error e' =>
      rw [hall] at h
      cases h
      exact (ih hall).append [b]
    | ok m =>
      obtain ⟨-, rfl⟩ := (bindAll_eq_ok_iff input output bs m).1 hall
      rw [hall] at h
      exact bind_holding_error h

end Proxy.Map

/-! ## Part after part -/

/-- Where part after part was accepted, each of them was. -/
theorem emitEach_ok_of_mem {α : Type} {emit : Block → α → Block × Except Rejection Unit}
    {as : List α} {b b' : Block} (h : emitEach emit b as = (b', .ok ())) {a : α} (ha : a ∈ as) :
    ∃ b₁ b₂, emit b₁ a = (b₂, .ok ()) := by
  induction as generalizing b with
  | nil => cases ha
  | cons x rest ih =>
    rw [emitEach] at h
    split at h
    · cases h
    · rename_i b₁ hemit
      rcases List.mem_cons.1 ha with rfl | ha
      · exact ⟨b, b₁, hemit⟩
      · exact ih h ha

/-- A rejection is that of one part, behind parts that were accepted. -/
theorem emitEach_error {α : Type} {emit : Block → α → Block × Except Rejection Unit}
    {as : List α} {b b' : Block} {e : Rejection} (h : emitEach emit b as = (b', .error e)) :
    ∃ front a rest b₁, as = front ++ a :: rest ∧ emitEach emit b front = (b₁, .ok ()) ∧
      emit b₁ a = (b', .error e) := by
  induction as generalizing b with
  | nil => cases h
  | cons x rest ih =>
    rw [emitEach] at h
    split at h
    · rename_i b₁ e' hemit
      cases h
      exact ⟨[], x, rest, b, rfl, rfl, hemit⟩
    · rename_i b₁ hemit
      obtain ⟨front, a, rest', b₂, rfl, hfront, ha⟩ := ih h
      refine ⟨x :: front, a, rest', b₂, rfl, ?_, ha⟩
      rw [emitEach, hemit]
      exact hfront

/-! ## Servers -/

/-- The ports that a server can listen on. -/
def IsPort (port : Int32) : Prop :=
  1 ≤ port.toInt ∧ port.toInt ≤ 65535

instance (port : Int32) : Decidable (IsPort port) :=
  inferInstanceAs (Decidable (_ ∧ _))

/-- Of a server whose directives have names the port is checked, and then the error pages. -/
theorem Proxy.Server.check_eq {v : Server} (port : Int32) (hport : v.port = port.toInt)
    (hnames : v.directives.any (fun d => Text.isAllBlank d.name) = false) :
    v.check =
      if ¬IsPort port then .error (.invalidPort port.toInt)
      else if v.errorPages.any fun p => p.codes.isEmpty || p.uri == "" then
        .error (.empty "error page binding")
      else .ok () := by
  unfold Server.check
  rw [hnames, hport]
  rfl

/-- A server is refused by its check. -/
theorem addServer_error {b : Block} {v : Server} {e : Rejection}
    (h : b.addServer v = .error e) : v.check = .error e := by
  unfold Block.addServer at h
  cases hcheck : v.check with
  | error e' => simpa [hcheck, Except.map] using h
  | ok u => simp [hcheck, Except.map] at h

/-! ## Stream groups -/

/-- Only the port of a stream server can be wrong. -/
theorem StreamGroup.check_server (s : ProxySettings) (g : StreamGroup) :
    ((g.server s).check = .ok () ∧ IsPort g.port) ∨
      ((g.server s).check = .error (.invalidPort g.port.toInt) ∧ ¬IsPort g.port) := by
  have hnames : (g.server s).directives.any (fun d => Text.isAllBlank d.name) = false := by
    have hall : ["set", "js_access", "proxy_pass", "ssl_preread"].any Text.isAllBlank = false := by
      decide
    exact hall
  rw [Server.check_eq g.port rfl hnames]
  by_cases hport : IsPort g.port
  · exact .inl ⟨if_neg (not_not.2 hport), hport⟩
  · exact .inr ⟨if_pos hport, hport⟩

/-- What can be wrong with a group that binds something. -/
inductive StreamGroup.Fault (g : StreamGroup) : Rejection → Prop where
  | port (h : ¬IsPort g.port) : Fault g (.invalidPort g.port.toInt)
  | bindings {e : Rejection} (h : Clash (portVariable g.port) g.bindings e) : Fault g e

/-- Bindings whose pools have names are refused by the map only. -/
theorem bindAll_of_emitBindings_error {b b' : Block} {m : Map} {bs : List StreamBinding}
    {e : Rejection} (hpools : ∀ r ∈ bs, r.pool ≠ "")
    (h : emitBindings b m bs = (b', .error e)) : m.bindAll bs = .error e := by
  induction bs generalizing b m with
  | nil => cases h
  | cons r rest ih =>
    obtain ⟨hr, hrest⟩ := List.forall_mem_cons.1 hpools
    have hcons : m.bindAll (r :: rest) = r.bind m >>= fun m => m.bindAll rest := by
      simp [Map.bindAll]
    rw [emitBindings, show (Pool.named r.pool).balanced _ = r.freshPool from rfl, addPool_eq,
      if_neg hr] at h
    rw [hcons]
    cases hbind : r.bind m with
    | error e' =>
      simp only [hbind] at h
      cases h
      rfl
    | ok m' =>
      simp only [hbind] at h
      exact ih hrest h

/-- A group that is refused has a fault, if its pools have names and its map is the first of its
port. -/
theorem StreamGroup.emit_error {s : ProxySettings} {g : StreamGroup} {b b' : Block}
    {e : Rejection} (hpools : ∀ r ∈ g.bindings, r.pool ≠ "")
    (hfree : b.map? (portVariable g.port) = none) (h : g.emit s b = (b', .error e)) :
    g.bindings ≠ [] ∧ g.Fault e := by
  by_cases hnil : g.bindings = []
  · rw [StreamGroup.emit_nil hnil] at h
    cases h
  · refine ⟨hnil, ?_⟩
    have hne : g.bindings.isEmpty = false := by simpa using hnil
    unfold StreamGroup.emit at h
    rw [hne, if_neg Bool.false_ne_true] at h
    split at h
    · rename_i b₁ e' hbind
      cases h
      exact .bindings (Map.bindAll_error (bindAll_of_emitBindings_error hpools hbind))
    · rename_i b₁ m hbind
      obtain ⟨-, hall, rfl⟩ := emitBindings_eq_ok_iff.1 hbind
      obtain ⟨-, rfl⟩ := (Map.bindAll_eq_ok_iff ..).1 hall
      have hmap := addMap_eq_ok_iff (m := g.map)
        (b := { b with pools := g.bindings.foldl enlist b.pools }) |>.2 ⟨hfree, rfl⟩
      unfold StreamGroup.map at hmap
      rw [hmap] at h
      simp only at h
      split at h
      · rename_i e' hserver
        cases h
        rcases g.check_server s with ⟨hcheck, -⟩ | ⟨hcheck, hport⟩
        · cases (addServer_error hserver).symm.trans hcheck
        · cases (addServer_error hserver).symm.trans hcheck
          exact .port hport
      · cases h

/-- A group that binds something and is accepted has no fault. -/
theorem StreamGroup.not_fault_of_emit {s : ProxySettings} {g : StreamGroup} {b b' : Block}
    (hne : g.bindings ≠ []) (h : g.emit s b = (b', .ok ())) :
    IsPort g.port ∧ Compatible g.bindings := by
  obtain ⟨-, hcompat, -, hcheck, -⟩ := (StreamGroup.emit_eq_ok_iff hne).1 h
  rcases g.check_server s with ⟨-, hport⟩ | ⟨herror, -⟩
  · exact ⟨hport, hcompat⟩
  · cases hcheck.symm.trans herror

/-- Where all groups are accepted, each of them is. -/
theorem emitStream_ok_of_mem {s : ProxySettings} {gs : List StreamGroup} {b b' : Block}
    (h : emitStream s b gs = (b', .ok ())) {g : StreamGroup} (hg : g ∈ gs) :
    ∃ b₁ b₂, g.emit s b₁ = (b₂, .ok ()) := by
  unfold emitStream at h
  split at h
  · rename_i hall
    have hnil : g.bindings = [] := by simpa using List.all_eq_true.1 hall g hg
    exact ⟨b, b, StreamGroup.emit_nil hnil⟩
  · split at h
    · cases h
    · exact emitEach_ok_of_mem h hg

/-- Where groups are refused one that binds something has a fault, if pools have names and no port
has two groups. -/
theorem emitStream_error {s : ProxySettings} {gs : List StreamGroup} {b : Block} {e : Rejection}
    (hports : (gs.map StreamGroup.port).Nodup) (hpools : ∀ g ∈ gs, ∀ r ∈ g.bindings, r.pool ≠ "")
    (h : emitStream s (Block.empty .stream) gs = (b, .error e)) :
    ∃ g ∈ gs, g.bindings ≠ [] ∧ g.Fault e := by
  unfold emitStream at h
  split at h
  · cases h
  · have hname : Text.isAllBlank "js_import" = false := by decide
    simp only [Block.addVariable, Directive.make, hname, Bool.false_eq_true, if_false,
      Except.map] at h
    obtain ⟨front, g, rest, b₁, rfl, hfront, hemit⟩ := emitEach_error h
    obtain ⟨-, rfl⟩ := emitEach_stream_ok hfront
    refine ⟨g, by simp, g.emit_error (hpools g (by simp)) ?_ hemit⟩
    -- The maps so far are those of other ports.
    rw [List.map_append, List.map_cons] at hports
    have hnew : ∀ g' ∈ front, g'.port ≠ g.port := fun g' hg' =>
      (List.nodup_append.1 hports).2.2 _ (List.mem_map_of_mem hg') _ List.mem_cons_self
    refine List.find?_eq_none.2 fun m hm hout => ?_
    obtain ⟨g', hg', rfl⟩ := List.mem_map.1 (by simpa [Block.empty] using hm)
    exact hnew g' (List.mem_filter.1 hg').1 (portVariable_injective (eq_of_beq hout))

/-! ## Http groups -/

/-- What can be wrong with a group that has hosts. -/
inductive HttpGroup.Fault (s : ProxySettings) (g : HttpGroup) : Rejection → Prop where
  | port (h : ¬IsPort g.port) : Fault s g (.invalidPort g.port.toInt)
  | errorPage (h : s.errorPageUri = "") : Fault s g (.empty "error page binding")

/-- The servers of an http group listen on its port and have no directives. -/
theorem HttpGroup.check_server {s : ProxySettings} {g : HttpGroup} {v : Server}
    (hv : v ∈ g.servers s) :
    v.check =
      if ¬IsPort g.port then .error (.invalidPort g.port.toInt)
      else if v.errorPages.any fun p => p.codes.isEmpty || p.uri == "" then
        .error (.empty "error page binding")
      else .ok () := by
  rcases List.mem_append.1 hv with hv | hv
  · obtain ⟨d, -, rfl⟩ := List.mem_map.1 hv
    exact Server.check_eq g.port rfl rfl
  · rw [List.mem_singleton.1 hv]
    exact Server.check_eq g.port rfl rfl

/-- Only the port and the error page of an http server can be wrong. -/
theorem HttpGroup.fault_of_check {s : ProxySettings} {g : HttpGroup} {v : Server} {e : Rejection}
    (hv : v ∈ g.servers s) (h : v.check = .error e) : g.Fault s e := by
  rw [g.check_server hv] at h
  split at h
  · rename_i hport
    cases h
    exact .port hport
  · split at h
    · rename_i hpage
      cases h
      -- The servers of hosts have no error page, so this is the default server.
      rcases List.mem_append.1 hv with hv | hv
      · obtain ⟨d, -, rfl⟩ := List.mem_map.1 hv
        simp [Server.listening] at hpage
      · rw [List.mem_singleton.1 hv] at hpage
        exact .errorPage (by simpa [gatewayErrorCodes] using hpage)
    · cases h

theorem emitServer_eq_ok_iff {b b' : Block} {v : Server} :
    emitServer b v = (b', .ok ()) ↔
      v.check = .ok () ∧ b' = { b with servers := b.servers ++ [v] } := by
  rw [← addServer_eq_ok_iff]
  unfold emitServer
  cases b.addServer v <;> simp

/-- A group that is refused has hosts and a fault. -/
theorem HttpGroup.emit_error {s : ProxySettings} {g : HttpGroup} {b b' : Block} {e : Rejection}
    (h : g.emit s b = (b', .error e)) : g.hosts ≠ [] ∧ g.Fault s e := by
  unfold HttpGroup.emit at h
  split at h
  · cases h
  · rename_i hhosts
    obtain ⟨front, v, rest, b₁, hservers, -, hemit⟩ := emitEach_error h
    refine ⟨by simpa using hhosts, g.fault_of_check (v := v) (by simp [hservers]) ?_⟩
    unfold emitServer at hemit
    split at hemit
    · rename_i e' hadd
      cases hemit
      exact addServer_error hadd
    · cases hemit

/-- A group that has hosts and is accepted has no fault. -/
theorem HttpGroup.not_fault_of_emit {s : ProxySettings} {g : HttpGroup} {b b' : Block}
    (hne : g.hosts ≠ []) (h : g.emit s b = (b', .ok ())) :
    IsPort g.port ∧ s.errorPageUri ≠ "" := by
  have hhosts : g.hosts.isEmpty = false := by simpa using hne
  unfold HttpGroup.emit at h
  rw [hhosts, if_neg Bool.false_ne_true] at h
  -- The default server is checked for both.
  obtain ⟨b₁, b₂, hdefault⟩ :=
    emitEach_ok_of_mem h (List.mem_append_right _ List.mem_cons_self)
  have hcheck := (emitServer_eq_ok_iff.1 hdefault).1
  rw [g.check_server (List.mem_append_right _ List.mem_cons_self)] at hcheck
  split at hcheck
  · cases hcheck
  · rename_i hport
    split at hcheck
    · cases hcheck
    · rename_i hpage
      exact ⟨not_not.1 hport, by simpa [gatewayErrorCodes] using hpage⟩

/-- Where groups are refused one that has hosts has a fault. -/
theorem emitHttp_error {s : ProxySettings} {gs : List HttpGroup} {b b' : Block} {e : Rejection}
    (h : emitHttp s b gs = (b', .error e)) : ∃ g ∈ gs, g.hosts ≠ [] ∧ g.Fault s e := by
  obtain ⟨front, g, rest, b₁, rfl, -, hemit⟩ := emitEach_error h
  exact ⟨g, by simp, g.emit_error hemit⟩

end Portcullis
