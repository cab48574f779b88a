import Portcullis.Compile.Binding
import Portcullis.Proofs.Text.Decimal

/-!
# What routes resolve to

Routing tables answer every question, so resolving their routes cannot fail.  This module says
what the outcome is without the questions, the reports and the failures.

* `Routing.targetOf?` and `Routing.bindingOf?` follow the references of one stream route through
  the tables.
* `Routing.bindingsOf` lists what a stream listener binds, and `Routing.bindingsOn` what all
  stream listeners of one port bind.  The order is that of the listener ids, then of the route
  indices, then of the route ids.
* `resolveStream_source` and `resolveHttp_source` say that resolving gives these lists.
* `poolName_injective` says that two pairs of an alias and a domain have two pool names.
-/

namespace Portcullis

open Portcullis.Text

namespace Routing

/-- Where a stream route leads; nowhere if a reference cannot be used. -/
def targetOf? (r : Routing) (x : StreamRoute) : Option String :=
  match x.destination with
  | .backend =>
    if trim x.targetAddress = "" ∨ x.targetPort = 0 then none
    else some (hostPort (trim x.targetAddress) x.targetPort.toNat)
  | .listener =>
    ((lastListener? r.listenersById x.targetListenId).filter fun l => 0 < l.port).map fun l =>
      localPort l.port.toInt
  | .sshLocal | .sshRemote =>
    ((r.sshPorts.get? x.sshPortId).filter fun p => p.port != 0).map fun p =>
      localPort p.port.toNat

/-- What a stream route binds; nothing if its domain is missing or it leads nowhere. -/
def bindingOf? (r : Routing) (lead : String) (x : StreamRoute) : Option StreamBinding :=
  (r.domains.get? x.domainId).bind fun d =>
    (r.targetOf? x).map fun t =>
      ⟨x.id, d, poolName lead x.aliasName d.id, t, x.balancing, x.isDefault⟩

/-- What the routes of a listener bind. -/
def bindingsOf (r : Routing) (lead : String) (l : Listener) : List StreamBinding :=
  (r.streamRoutesOf l.id).filterMap (r.bindingOf? lead)

/-- The stream listeners of a port among some listeners. -/
def streamOn (port : Int32) (ls : List Listener) : List Listener :=
  ls.filter fun l => l.kind = .stream ∧ l.port = port

/-- The stream listeners of a port, by id. -/
def streamListenersOn (r : Routing) (port : Int32) : List Listener :=
  streamOn port r.listenersById

/-- What the stream listeners of a port bind. -/
def bindingsOn (r : Routing) (lead : String) (port : Int32) : List StreamBinding :=
  (r.streamListenersOn port).flatMap (r.bindingsOf lead)

/-- The hosts that the http routes of a listener bind. -/
def hostsOf (r : Routing) (l : Listener) : List Domain :=
  (r.httpRoutesOf l.id).filterMap fun x => r.domains.get? x.domainId

/-- What is bound by a route is the route's own data, its domain, its pool and where it leads. -/
theorem bindingOf?_eq_some_iff {r : Routing} {lead : String} {x : StreamRoute}
    {b : StreamBinding} :
    r.bindingOf? lead x = some b ↔
      ∃ d t, r.domains.get? x.domainId = some d ∧ r.targetOf? x = some t ∧
        b = ⟨x.id, d, poolName lead x.aliasName d.id, t, x.balancing, x.isDefault⟩ := by
  simp only [bindingOf?, Option.bind_eq_some_iff, Option.map_eq_some_iff, exists_and_left]
  simp only [eq_comm (b := b)]

end Routing

/-! ## Names of pools -/

theorem poolName_ne_empty (lead aliasName : String) (id : UInt32) :
    poolName lead aliasName id ≠ "" := by
  have hdigits := Decimal.digits_ne_nil id.toNat
  unfold poolName idText Decimal.ofNat
  rw [Ne, ← String.toList_inj]
  split <;> simp [hdigits]

/-- The name of a pool gives the alias and the domain back. -/
theorem poolName_injective {lead a b : String} {i j : UInt32}
    (h : poolName lead a i = poolName lead b j) : a = b ∧ i = j := by
  unfold poolName idText Decimal.ofNat at h
  rw [← String.toList_inj] at h
  split at h <;> split at h
  · rename_i ha hb
    have hdigits : Decimal.digits i.toNat = Decimal.digits j.toNat := by simpa using h
    exact ⟨ha.trans hb.symm, UInt32.toNat_inj.1 (Decimal.digits_injective hdigits)⟩
  · have hdigits : Decimal.digits i.toNat = b.toList ++ '_' :: Decimal.digits j.toNat := by
      simpa using h
    exact absurd (by simp [hdigits]) (Decimal.notMem_digits (c := '_') rfl i.toNat)
  · have hdigits : a.toList ++ '_' :: Decimal.digits i.toNat = Decimal.digits j.toNat := by
      simpa using h
    exact absurd (by simp [← hdigits]) (Decimal.notMem_digits (c := '_') rfl j.toNat)
  · have hlists : a.toList ++ '_' :: Decimal.digits i.toNat =
        b.toList ++ '_' :: Decimal.digits j.toNat := by
      simpa using h
    obtain ⟨hlist, hid⟩ := Decimal.append_digits_inj (by decide) hlists
    exact ⟨String.toList_inj.1 hlist, UInt32.toNat_inj.1 hid⟩

/-! ## The order of routes -/

/-- The order of stream routes is the lexicographic order of index and id. -/
theorem StreamRoute.before_iff (a b : StreamRoute) :
    a.before b = true ↔ a.index < b.index ∨ a.index = b.index ∧ a.id ≤ b.id := by
  simp [StreamRoute.before]

theorem StreamRoute.before_trans (a b c : StreamRoute) (hab : a.before b = true)
    (hbc : b.before c = true) : a.before c = true := by
  rw [before_iff] at *
  rcases hab with hab | ⟨hab, ha⟩ <;> rcases hbc with hbc | ⟨hbc, hb⟩
  · exact .inl (UInt32.lt_trans hab hbc)
  · exact .inl (hbc ▸ hab)
  · exact .inl (hab ▸ hbc)
  · exact .inr ⟨hab.trans hbc, UInt32.le_trans ha hb⟩

theorem StreamRoute.before_total (a b : StreamRoute) :
    (a.before b || b.before a) = true := by
  rw [Bool.or_eq_true, before_iff, before_iff]
  by_cases h : a.index = b.index
  · rcases UInt32.le_total a.id b.id with hid | hid
    · exact .inl (.inr ⟨h, hid⟩)
    · exact .inr (.inr ⟨h.symm, hid⟩)
  · rcases UInt32.lt_or_lt_of_ne h with hlt | hlt
    · exact .inl (.inl hlt)
    · exact .inr (.inl hlt)

/-- The routes of a listener are in order already. -/
theorem mergeSort_streamRoutesOf (r : Routing) (id : UInt32) :
    (r.streamRoutesOf id).mergeSort StreamRoute.before = r.streamRoutesOf id :=
  List.mergeSort_of_pairwise
    (List.pairwise_mergeSort StreamRoute.before_trans StreamRoute.before_total _)

theorem byId_trans [Row ρ] (a b c : ρ) (hab : byId a b = true) (hbc : byId b c = true) :
    byId a c = true := by
  simp only [byId, decide_eq_true_eq] at *
  exact UInt32.le_trans hab hbc

theorem byId_total [Row ρ] (a b : ρ) : (byId a b || byId b a) = true := by
  simp only [byId, Bool.or_eq_true, decide_eq_true_eq]
  exact UInt32.le_total _ _

theorem mergeSort_httpRoutesOf (r : Routing) (id : UInt32) :
    (r.httpRoutesOf id).mergeSort byId = r.httpRoutesOf id :=
  List.mergeSort_of_pairwise (List.pairwise_mergeSort byId_trans byId_total _)

/-! ## Resolving through tables -/

@[simp] theorem Routing.domain?_source (r : Routing) (id : UInt32) :
    r.source.domain? id = .ok (r.domains.get? id) := rfl

@[simp] theorem Routing.sshPort?_source (r : Routing) (id : UInt32) :
    r.source.sshPort? id = .ok (r.sshPorts.get? id) := rfl

/-- A question that is answered gives what was found, and nothing to report. -/
@[simp] theorem readRow_ok (what : String) (id : UInt32) (found : Option α) :
    readRow what id (.ok found) = .ok ⟨found, []⟩ := rfl

/-- Tables always say where a route leads. -/
theorem StreamRoute.target?_source (r : Routing) (x : StreamRoute) :
    x.target? r.source r.listenersById = .ok ⟨r.targetOf? x, []⟩ := by
  unfold StreamRoute.target? Routing.targetOf?
  cases x.destination with
  | backend | listener => rfl
  | sshLocal | sshRemote =>
    simp only [Routing.sshPort?_source, readRow_ok]
    rfl

/-- Tables always say what a stream route binds. -/
theorem StreamRoute.resolve_source (r : Routing) (lead : String) (id : UInt32)
    (x : StreamRoute) :
    ∃ notes, x.resolve r.source r.listenersById lead id =
      .ok ⟨r.bindingOf? lead x, notes⟩ := by
  simp only [StreamRoute.resolve, Routing.bindingOf?, Routing.domain?_source, readRow_ok,
    target?_source, bind, Except.bind]
  cases r.domains.get? x.domainId with
  | none => exact ⟨_, rfl⟩
  | some d => cases r.targetOf? x <;> exact ⟨_, rfl⟩

/-- Tables always say which host an http route binds. -/
theorem HttpRoute.resolve_source (r : Routing) (id : UInt32) (x : HttpRoute) :
    ∃ notes, x.resolve r.source id = .ok ⟨r.domains.get? x.domainId, notes⟩ := by
  simp only [HttpRoute.resolve, Routing.domain?_source, readRow_ok, bind, Except.bind]
  cases r.domains.get? x.domainId <;> exact ⟨_, rfl⟩

/-- Where no route makes the store fail, what routes bind is collected in order, and the others
are counted. -/
theorem resolveEach_ok {resolve : α → Except StoreError (Fate β)} {f : α → Option β}
    (h : ∀ a, ∃ notes, resolve a = .ok ⟨f a, notes⟩) (rows : List α) :
    ∃ notes, resolveEach resolve rows =
      (none, ⟨rows.filterMap f, rows.countP fun a => (f a).isNone, notes⟩) := by
  induction rows with
  | nil => exact ⟨[], rfl⟩
  | cons a rest ih =>
    obtain ⟨notes, hnotes⟩ := ih
    obtain ⟨note, hnote⟩ := h a
    rw [resolveEach, hnote, hnotes]
    refine ⟨note ++ notes, ?_⟩
    cases hf : f a <;> simp [Resolution.cons, hf, Nat.add_comm]

/-- Resolving the routes of a stream listener gives what they bind. -/
theorem resolveStream_source (r : Routing) (lead : String) (l : Listener) :
    ∃ notes, resolveStream r.source r.listenersById lead l =
      (none, ⟨r.bindingsOf lead l,
        (r.streamRoutesOf l.id).countP fun x => (r.bindingOf? lead x).isNone, notes⟩) := by
  show ∃ notes, resolveEach _ ((r.streamRoutesOf l.id).mergeSort StreamRoute.before) = _
  rw [mergeSort_streamRoutesOf]
  exact resolveEach_ok (StreamRoute.resolve_source r lead l.id) _

/-- Resolving the routes of an http listener gives the hosts that they bind. -/
theorem resolveHttp_source (r : Routing) (l : Listener) :
    ∃ notes, resolveHttp r.source l =
      (none, ⟨r.hostsOf l,
        (r.httpRoutesOf l.id).countP fun x => (r.domains.get? x.domainId).isNone, notes⟩) := by
  show ∃ notes, resolveEach _ ((r.httpRoutesOf l.id).mergeSort byId) = _
  rw [mergeSort_httpRoutesOf]
  exact resolveEach_ok (HttpRoute.resolve_source r l.id) _

end Portcullis
