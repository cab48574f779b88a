import Portcullis.Proofs.Admission.Faults
import Portcullis.Proofs.Admission.Verdict
import Portcullis.Proofs.Routing.Wiring
import Mathlib

/-!
# Whose policy guards a port

The server of a stream port tells admission the id of a listener, as text, and admission decides by
the policy of that listener.  This module follows the id from the configuration to the decision.

* `decideBy` is what a policy decides on an address: that of a listener (`prescribed`) or the one
  for all listeners (`byBlacklist`).
* `integerFront_idText` and `find_idText` read the id back.
* `preview_guarded` puts both sides together: the id that is written for a port makes admission
  decide as the guarding listener prescribes, unless that id is zero, which stands for all
  listeners.

So a listener's own policy guards its routes only where it has the smallest id on its port, and
another id than zero; `preview_guardedByOthers` is a store where neither holds.
-/

namespace Portcullis

open Portcullis.Proxy

/-! ## Reading an id back -/

namespace Admission

section Decision

variable {source : AccessSource} {store : Store} {limit : Span}

/-- What a policy decides on an address that may not be readable. -/
def decideBy (policy : String → Decision) (raw : String) : Decision :=
  match Net.canonical? raw with
  | none => ⟨.deny, .invalidAddress⟩
  | some ip => policy ip

/-- The numeral of an id starts with the id. -/
theorem integerFront_idText (id : UInt32) :
    IntegerFront (idText id).toList (id.toNat : Int) := by
  have hfront : DigitFront (idText id).toList (Text.Decimal.digits id.toNat) := by
    refine ⟨Text.Decimal.digits_ne_nil _, fun c hc => Text.Decimal.isDigit_of_mem_digits hc, [], ?_,
      nofun⟩
    simp [idText, Text.Decimal.ofNat]
  have hvalue := IntegerFront.unsigned hfront
  rwa [Text.Decimal.value_digits] at hvalue

/-- With the id of a listener in its header a request is decided as the listener prescribes, and
with zero as the blacklist does. -/
theorem find_idText (h : AnswersInTime source store limit) {headers : Headers} {l : Listener}
    (hl : store.routing.listener? l.id = some l)
    (hid : header headers "listen_id" = idText l.id) :
    (find source limit (.ofHeaders headers)).1.decision =
      decideBy (if l.id = 0 then byBlacklist store else prescribed store l)
        (header headers "realip_remote_addr") := by
  have hfront := integerFront_idText l.id
  rw [← hid] at hfront
  unfold find Request.ofHeaders decideBy
  simp only
  cases Net.canonical? (header headers "realip_remote_addr") with
  | none => rfl
  | some ip =>
    by_cases hzero : l.id = 0
    · have hnone : readListenerId (header headers "listen_id") = none := by
        refine readListenerId_eq_none_iff.2 fun n hn => ?_
        rw [hn.unique hfront, hzero]
        rfl
      simp only [hnone, if_pos hzero]
      exact askBlacklist_decision h ip []
    · have hne : (l.id.toNat : Int) ≠ 0 := by
        intro heq
        exact hzero (UInt32.toNat_inj.1 (Int.ofNat.inj heq))
      obtain ⟨m, hread, hm, hids⟩ := listenerId?_of_integerFront hfront hne
      rw [listenerId?_eq_some_iff.2 rfl] at hids
      simp only [hread, if_neg hm, hids, if_neg hzero]
      exact askListener_decision h ip hl

end Decision

end Admission

open Admission

/-! ## From the configuration to the decision -/

/-- The id that the configuration writes for a stream port is that of the listener that guards the
port, and with this id admission decides as that listener prescribes; where it is zero, as the
blacklist does. -/
theorem preview_guarded {s : ProxySettings} {store : Store} {out : Compiled} {l : Listener}
    (hids : (store.routing.listeners.map Row.id).Nodup)
    (hl : l ∈ store.routing.listeners) (hkind : l.kind = .stream)
    (hbound : store.routing.bindingsOf s.poolPrefix l ≠ [])
    (hpreview : (preview s (.ok store.routing)).1 = .ok out) :
    ∃ c stats server first, (build s store.routing).1 = .ok (c, stats) ∧
      out = .of s c stats ∧
      c.stream.servers.filter (·.port = l.port.toInt) = [server] ∧
      server.directives.filter (·.name = "set") =
        [⟨"set", s.listenIdVariable ++ " " ++ idText first.id⟩] ∧
      store.routing.Guards l.port first ∧
      ∀ (source : AccessSource) (limit : Span) (headers : Headers) (now : UInt64)
        (q : CounterQueue) (j : Telemetry.Journal), AnswersInTime source store limit →
          header headers "listen_id" = idText first.id →
            (Admission.decide source limit (.ofHeaders headers) now q j).1 =
              decideBy (if first.id = 0 then byBlacklist store else prescribed store first)
                (header headers "realip_remote_addr") := by
  obtain ⟨c, stats, hbuild, hout⟩ := preview_eq_ok_iff.1 hpreview
  have hport : store.routing.bindingsOn s.poolPrefix l.port ≠ [] := by
    intro hnil
    have hmem := Routing.mem_streamListenersOn_iff.2 ⟨hl, hkind, rfl⟩
    exact hbound (List.flatMap_eq_nil_iff.1 hnil l hmem)
  obtain ⟨first, hfirst, hserver⟩ := server_of_build hbuild hport
  have hguards := Routing.guards_of_head hfirst
  refine ⟨c, stats, _, first, hbuild, hout, hserver, StreamGroup.set_directives s _, hguards, ?_⟩
  intro source limit headers now q j hsource hid
  have hfound : store.routing.listener? first.id = some first :=
    (find?_key_eq_some_iff hids).2 ⟨hguards.mem, rfl⟩
  have hdecision := find_idText hsource hfound hid
  rw [decide_eq, ← hdecision]

/-- On port 443 the first listener checks nothing and has no routes, and the second checks by the
whitelist. On port 8443 a listener of id zero checks by the whitelist. -/
def borrowedGuards : Store where
  routing :=
    { listeners := [⟨0, 8443, .stream, true, .whitelist, ""⟩,
        ⟨3, 443, .stream, false, .blacklist, ""⟩, ⟨7, 443, .stream, true, .whitelist, ""⟩]
      domains := .ofList [⟨1, "a.example"⟩]
      sshPorts := .ofList [⟨5, 2202⟩]
      streamRoutes :=
        [{ id := 1, domainId := 1, listenId := 0, destination := .sshLocal, sshPortId := 5 },
          { id := 2, domainId := 1, listenId := 7, destination := .sshLocal, sshPortId := 5 }] }

theorem streamGroups_borrowedGuards : borrowedGuards.routing.streamGroups "ffus_" =
    [⟨8443, 0, [⟨1, ⟨1, "a.example"⟩, "ffus_1", "127.0.0.1:2202", .none, false⟩]⟩,
      ⟨443, 3, [⟨2, ⟨1, "a.example"⟩, "ffus_1", "127.0.0.1:2202", .none, false⟩]⟩] := by cbv

theorem build_borrowedGuards :
    ∃ c stats, (build {} borrowedGuards.routing).1 = .ok (c, stats) :=
  exists_build_of_streams (by decide) streamGroups_borrowedGuards (by decide +kernel)

/-- The decision on an address that asks with an id. -/
def borrowedDecision (id : UInt32) (address : String) : Decision :=
  (Admission.decide (.ofStore borrowedGuards) oneSecond.lookup
    (.ofHeaders (accessRequest (idText id) address).headers) 0 ⟨4, [], false⟩ .empty).1

/-- With the ids that are written for their ports, both listeners' routes are open to an address
that neither of them lets in. -/
theorem preview_guardedByOthers :
    ∃ c stats, (build {} borrowedGuards.routing).1 = .ok (c, stats) ∧
      c.stream.servers.map (fun v => (v.port, v.directives.filter (·.name = "set"))) =
        [(8443, [⟨"set", "$ff_listen_id 0"⟩]), (443, [⟨"set", "$ff_listen_id 3"⟩])] ∧
      borrowedDecision 0 "192.0.2.7" = ⟨.allow, .notBlacklisted⟩ ∧
      borrowedDecision 3 "192.0.2.7" = ⟨.allow, .checkDisabled⟩ ∧
      ∀ l ∈ borrowedGuards.routing.listeners,
        borrowedGuards.routing.bindingsOf "ffus_" l ≠ [] →
          decideBy (prescribed borrowedGuards l) "192.0.2.7" = ⟨.deny, .notWhitelisted⟩ := by
  obtain ⟨c, stats, h⟩ := build_borrowedGuards
  refine ⟨c, stats, h, ?_, by decide +kernel, by decide +kernel, ?_⟩
  · rw [(emitStream_ok (build_ok h).1).2.2.2, show ProxySettings.poolPrefix {} = "ffus_" from rfl,
      streamGroups_borrowedGuards]
    decide +kernel
  · intro l hl hbound
    have hidle : borrowedGuards.routing.bindingsOf "ffus_"
        ⟨3, 443, .stream, false, .blacklist, ""⟩ = [] := by cbv
    rcases List.mem_cons.1 hl with rfl | hl
    · decide
    · rcases List.mem_cons.1 hl with rfl | hl
      · exact absurd hidle hbound
      · rw [List.mem_singleton.1 hl]
        decide

/-- The server of port 443 names listener 3, whose routes are none, and admission follows it. -/
theorem preview_guarded_borrowedGuards :
    ∃ c stats server, (build {} borrowedGuards.routing).1 = .ok (c, stats) ∧
      c.stream.servers.filter (·.port = 443) = [server] ∧
      server.directives.filter (·.name = "set") = [⟨"set", "$ff_listen_id 3"⟩] ∧
      borrowedDecision 3 "192.0.2.7" = ⟨.allow, .checkDisabled⟩ := by
  obtain ⟨c, stats, h⟩ := build_borrowedGuards
  have hids : (borrowedGuards.routing.listeners.map Row.id).Nodup := by decide
  have hbound : borrowedGuards.routing.bindingsOf "ffus_" ⟨7, 443, .stream, true, .whitelist, ""⟩ ≠
      [] := by
    intro hnil
    have hlength : (borrowedGuards.routing.bindingsOf "ffus_"
        ⟨7, 443, .stream, true, .whitelist, ""⟩).length = 1 := by cbv
    simp [hnil] at hlength
  have hguards : borrowedGuards.routing.Guards 443 ⟨3, 443, .stream, false, .blacklist, ""⟩ :=
    ⟨by decide, rfl, rfl, by decide⟩
  obtain ⟨c', stats', server, first, hbuild, -, hserver, hset, hfirst, hdecide⟩ :=
    preview_guarded (s := {}) (l := ⟨7, 443, .stream, true, .whitelist, ""⟩) hids (by decide) rfl
      hbound (preview_eq_ok_iff.2 ⟨c, stats, h, rfl⟩)
  obtain rfl := hfirst.unique hids hguards
  refine ⟨c', stats', server, hbuild, hserver, ?_, ?_⟩
  · rw [hset]
    decide +kernel
  · have hdecision := hdecide (.ofStore borrowedGuards) oneSecond.lookup
      (accessRequest (idText 3) "192.0.2.7").headers 0 ⟨4, [], false⟩ .empty
      (answersInTime_ofStore borrowedGuards _) (by decide +kernel)
    rw [borrowedDecision, hdecision]
    decide +kernel

end Portcullis
