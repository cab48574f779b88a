import Portcullis.Admission.Endpoint
import Portcullis.Proofs.Admission.ListenerId

/-!
# Who is let in

The answer of the admission endpoint, said without its code: `Admitted` is what the rows of a
store and the headers of a request have to be.

* `AnswersInTime` relates a source to the store that it answers for.
* `prescribed` is the decision that a listener prescribes for an address, and
  `askListener_decision` says that it is made.
* `find_isAllowed_iff`: the decision allows exactly the requests that are admitted.
* `respond_status`: the endpoint answers 200 or 401 accordingly, and a disabled row hides no
  enabled row from it.
-/

namespace Portcullis

variable {ε : Type}

/-! ## The rows of a store -/

/-- An enabled row of a list holds an address. -/
def AccessList.Holds (list : AccessList ε) (ip : String) : Prop :=
  ∃ row ∈ list.rows, row.disabled = false ∧ row.ip = ip

/-- A number names the first listener that has it for its id. -/
def Store.Names (store : Store) (n : Int) (l : Listener) : Prop :=
  ∃ front rest, store.routing.listeners = front ++ l :: rest ∧ (l.id.toNat : Int) = n ∧
    ∀ other ∈ front, (other.id.toNat : Int) ≠ n

/-- A search finds a row where there is an enabled one, whatever stands before it. -/
theorem AccessList.find?_isSome_iff (list : AccessList ε) (ip : String) :
    (list.find? ip).isSome = true ↔ list.Holds ip := by
  unfold AccessList.find? AccessList.Holds
  rw [List.find?_isSome]
  simp only [Bool.and_eq_true, Bool.not_eq_true', beq_iff_eq]

theorem AccessList.find?_eq_none_iff (list : AccessList ε) (ip : String) :
    list.find? ip = none ↔ ¬list.Holds ip := by
  rw [← AccessList.find?_isSome_iff, Option.not_isSome_iff_eq_none]

instance (list : AccessList ε) (ip : String) : Decidable (list.Holds ip) :=
  decidable_of_iff _ (list.find?_isSome_iff ip)

/-- What a search finds is an enabled row of the address. -/
theorem AccessList.of_find?_eq_some {list : AccessList ε} {ip : String} {row : AccessRow ε}
    (h : list.find? ip = some row) : row ∈ list.rows ∧ row.disabled = false ∧ row.ip = ip := by
  have hrow := List.find?_some h
  simp only [Bool.and_eq_true, Bool.not_eq_true', beq_iff_eq] at hrow
  exact ⟨List.mem_of_find?_eq_some h, hrow⟩

theorem Store.listener?_eq_some_iff (store : Store) (id : UInt32) (l : Listener) :
    store.routing.listener? id = some l ↔ store.Names id.toNat l := by
  unfold Routing.listener? Store.Names
  rw [List.find?_eq_some_iff_append]
  constructor
  · rintro ⟨hl, front, rest, hlisteners, hfront⟩
    refine ⟨front, rest, hlisteners, by rw [eq_of_beq hl], fun other hother heq => ?_⟩
    have hid : other.id = id := UInt32.toNat_inj.mp (Int.ofNat.inj heq)
    simpa [hid] using hfront other hother
  · rintro ⟨front, rest, hlisteners, hl, hfront⟩
    have hid : l.id = id := UInt32.toNat_inj.mp (Int.ofNat.inj hl)
    refine ⟨by rw [hid, beq_self_eq_true], front, rest, hlisteners, fun other hother => ?_⟩
    have hne : other.id ≠ id := fun heq => hfront other hother (by rw [heq])
    simpa using hne

namespace Admission

open Portcullis.Net
open Portcullis.Telemetry
open Portcullis.Text

/-! ## Admitted requests -/

/-- The policy of a listener lets an address pass. -/
inductive Passes (store : Store) (ip : String) (l : Listener) : Prop where
  | unchecked (h : l.checked = false)
  | notBlacklisted (h : l.checked = true) (hmode : l.mode = .blacklist)
      (hnot : ¬store.blacklist.Holds ip)
  | whitelisted (h : l.checked = true) (hmode : l.mode = .whitelist)
      (hholds : store.whitelist.Holds ip)

/-- A request is let in: its address can be read, and either no listener is named and the address
is not blacklisted, or the first listener of the id that it names lets the address pass. -/
inductive Admitted (store : Store) (headers : Headers) : Prop where
  | everywhere {a : Address}
      (haddress : Address.read? (trim (header headers "realip_remote_addr")) = some a)
      (hzero : ∀ n, IntegerFront (header headers "listen_id").toList n → n = 0)
      (hnot : ¬store.blacklist.Holds a.text)
  | listener {a : Address} {n : Int} {l : Listener}
      (haddress : Address.read? (trim (header headers "realip_remote_addr")) = some a)
      (hfront : IntegerFront (header headers "listen_id").toList n)
      (hpos : 0 < n) (hmost : n ≤ 4294967295)
      (hnames : store.Names n l) (hpasses : Passes store a.text l)

theorem passes_blacklist_iff {store : Store} {ip : String} {l : Listener}
    (h : l.checked = true) (hmode : l.mode = .blacklist) :
    Passes store ip l ↔ ¬store.blacklist.Holds ip := by
  constructor
  · intro hpasses
    cases hpasses with
    | unchecked h' => simp [h] at h'
    | notBlacklisted _ _ hnot => exact hnot
    | whitelisted _ hmode' => simp [hmode] at hmode'
  · exact fun hnot => .notBlacklisted h hmode hnot

theorem passes_whitelist_iff {store : Store} {ip : String} {l : Listener}
    (h : l.checked = true) (hmode : l.mode = .whitelist) :
    Passes store ip l ↔ store.whitelist.Holds ip := by
  constructor
  · intro hpasses
    cases hpasses with
    | unchecked h' => simp [h] at h'
    | notBlacklisted _ hmode' => simp [hmode] at hmode'
    | whitelisted _ _ hholds => exact hholds
  · exact fun hholds => .whitelisted h hmode hholds

/-! ## Policies -/

/-- What the blacklist prescribes for an address. -/
def byBlacklist (store : Store) (ip : String) : Decision :=
  if store.blacklist.Holds ip then ⟨.deny, .blacklisted⟩ else ⟨.allow, .notBlacklisted⟩

/-- What the whitelist prescribes for an address. -/
def byWhitelist (store : Store) (ip : String) : Decision :=
  if store.whitelist.Holds ip then ⟨.allow, .whitelisted⟩ else ⟨.deny, .notWhitelisted⟩

/-- What a listener prescribes for an address. -/
def prescribed (store : Store) (l : Listener) (ip : String) : Decision :=
  if l.checked then
    match l.mode with
    | .blacklist => byBlacklist store ip
    | .whitelist => byWhitelist store ip
  else ⟨.allow, .checkDisabled⟩

theorem byBlacklist_isAllowed_iff (store : Store) (ip : String) :
    (byBlacklist store ip).isAllowed = true ↔ ¬store.blacklist.Holds ip := by
  unfold byBlacklist
  split
  · rename_i hholds
    exact iff_of_false Bool.false_ne_true (not_not_intro hholds)
  · rename_i hnot
    exact iff_of_true rfl hnot

theorem byWhitelist_isAllowed_iff (store : Store) (ip : String) :
    (byWhitelist store ip).isAllowed = true ↔ store.whitelist.Holds ip := by
  unfold byWhitelist
  split
  · rename_i hholds
    exact iff_of_true rfl hholds
  · rename_i hnot
    exact iff_of_false Bool.false_ne_true hnot

/-- A listener prescribes to let an address in exactly if the address passes. -/
theorem prescribed_isAllowed_iff (store : Store) (l : Listener) (ip : String) :
    (prescribed store l ip).isAllowed = true ↔ Passes store ip l := by
  unfold prescribed
  cases hchecked : l.checked with
  | false => exact iff_of_true rfl (.unchecked hchecked)
  | true =>
    cases hmode : l.mode with
    | blacklist =>
      rw [passes_blacklist_iff hchecked hmode]
      exact byBlacklist_isAllowed_iff store ip
    | whitelist =>
      rw [passes_whitelist_iff hchecked hmode]
      exact byWhitelist_isAllowed_iff store ip

/-! ## Sources that answer for a store -/

/-- A source gives the answers of a store, each within a limit. -/
structure AnswersInTime (source : AccessSource) (store : Store) (limit : Span) : Prop where
  listener : ∀ n id, ∃ d : Span, d.nanos ≤ limit.nanos ∧
    source.listener n id = ⟨.ok (store.routing.listener? id), some d⟩
  blacklisted : ∀ n ip, ∃ d : Span, d.nanos ≤ limit.nanos ∧
    source.blacklisted n ip = ⟨.ok (store.blacklist.find? ip), some d⟩
  whitelisted : ∀ n ip, ∃ d : Span, d.nanos ≤ limit.nanos ∧
    source.whitelisted n ip = ⟨.ok (store.whitelist.find? ip), some d⟩

/-- The store itself is such a source. -/
theorem answersInTime_ofStore (store : Store) (limit : Span) :
    AnswersInTime (.ofStore store) store limit where
  listener _ _ := ⟨⟨0⟩, Nat.zero_le _, rfl⟩
  blacklisted _ _ := ⟨⟨0⟩, Nat.zero_le _, rfl⟩
  whitelisted _ _ := ⟨⟨0⟩, Nat.zero_le _, rfl⟩

/-- An answer in time is used. -/
theorem ask_of_inTime {α : Type} {limit d : Span} {spent : List Span} {reply : Nat → Reply α}
    {a : α} (next : α → List Span → Inquiry) (hd : d.nanos ≤ limit.nanos)
    (h : reply spent.length = ⟨.ok a, some d⟩) :
    ask limit spent reply next = next a (spent ++ [d]) := by
  unfold ask
  rw [h]
  simp only [Reply.within, if_pos hd]

/-! ## The decision -/

section Decision

variable {source : AccessSource} {store : Store} {limit : Span}

/-- Asking the blacklist ends as it prescribes. -/
theorem askBlacklist_decision (h : AnswersInTime source store limit) (ip : String)
    (spent : List Span) :
    (askBlacklist source limit ip spent).1.decision = byBlacklist store ip := by
  obtain ⟨d, hd, hreply⟩ := h.blacklisted spent.length ip
  rw [askBlacklist, ask_of_inTime _ hd hreply, byBlacklist]
  by_cases hholds : store.blacklist.Holds ip
  · obtain ⟨row, hrow⟩ := Option.isSome_iff_exists.mp
      ((AccessList.find?_isSome_iff _ ip).mpr hholds)
    rw [hrow, if_pos hholds]
    rfl
  · rw [(AccessList.find?_eq_none_iff _ ip).mpr hholds, if_neg hholds]
    rfl

/-- Asking the whitelist ends as it prescribes. -/
theorem askWhitelist_decision (h : AnswersInTime source store limit) (ip : String)
    (spent : List Span) :
    (askWhitelist source limit ip spent).1.decision = byWhitelist store ip := by
  obtain ⟨d, hd, hreply⟩ := h.whitelisted spent.length ip
  rw [askWhitelist, ask_of_inTime _ hd hreply, byWhitelist]
  by_cases hholds : store.whitelist.Holds ip
  · obtain ⟨row, hrow⟩ := Option.isSome_iff_exists.mp
      ((AccessList.find?_isSome_iff _ ip).mpr hholds)
    rw [hrow, if_pos hholds]
    rfl
  · rw [(AccessList.find?_eq_none_iff _ ip).mpr hholds, if_neg hholds]
    rfl

/-- Asking for a listener that is found ends as the listener prescribes. -/
theorem askListener_decision (h : AnswersInTime source store limit) (ip : String) {id : UInt32}
    {l : Listener} (hl : store.routing.listener? id = some l) :
    (askListener source limit ip id).1.decision = prescribed store l ip := by
  obtain ⟨d, hd, hreply⟩ := h.listener 0 id
  rw [askListener, ask_of_inTime _ hd hreply, hl]
  unfold prescribed
  cases hchecked : l.checked with
  | false =>
    simp only [hchecked, Bool.not_false, if_true]
    rfl
  | true =>
    simp only [hchecked, Bool.not_true, Bool.false_eq_true, if_false, if_true]
    cases l.mode with
    | blacklist => exact askBlacklist_decision h ip _
    | whitelist => exact askWhitelist_decision h ip _

theorem askBlacklist_isAllowed_iff (h : AnswersInTime source store limit) (ip : String)
    (spent : List Span) :
    (askBlacklist source limit ip spent).1.decision.isAllowed = true ↔
      ¬store.blacklist.Holds ip := by
  rw [askBlacklist_decision h, byBlacklist_isAllowed_iff]

theorem askListener_isAllowed_iff (h : AnswersInTime source store limit) (ip : String)
    (id : UInt32) :
    (askListener source limit ip id).1.decision.isAllowed = true ↔
      ∃ l, store.Names id.toNat l ∧ Passes store ip l := by
  simp only [← Store.listener?_eq_some_iff]
  cases hfound : store.routing.listener? id with
  | none =>
    obtain ⟨d, hd, hreply⟩ := h.listener 0 id
    rw [askListener, ask_of_inTime _ hd hreply, hfound]
    refine iff_of_false Bool.false_ne_true ?_
    rintro ⟨l, hl, -⟩
    cases hl
  | some l =>
    rw [askListener_decision h ip hfound, prescribed_isAllowed_iff]
    exact ⟨fun hpasses => ⟨l, rfl, hpasses⟩, fun ⟨m, hm, hpasses⟩ => Option.some.inj hm ▸ hpasses⟩

/-- The decision allows exactly the admitted requests. -/
theorem find_isAllowed_iff (h : AnswersInTime source store limit) (headers : Headers) :
    (find source limit (.ofHeaders headers)).1.decision.isAllowed = true ↔
      Admitted store headers := by
  unfold find Request.ofHeaders canonical?
  cases haddress : Address.read? (trim (header headers "realip_remote_addr")) with
  | none =>
    refine iff_of_false Bool.false_ne_true ?_
    intro hadmitted
    cases hadmitted with
    | everywhere haddress' => simp [haddress] at haddress'
    | listener haddress' => simp [haddress] at haddress'
  | some a =>
    simp only [Option.map_some]
    cases hid : readListenerId (header headers "listen_id") with
    | none =>
      have hzero := readListenerId_eq_none_iff.mp hid
      simp only []
      rw [askBlacklist_isAllowed_iff h]
      constructor
      · exact fun hnot => .everywhere haddress hzero hnot
      · intro hadmitted
        cases hadmitted with
        | everywhere haddress' _ hnot =>
          rw [haddress] at haddress'
          rwa [Option.some.inj haddress']
        | listener _ hfront hpos =>
          have := hzero _ hfront
          omega
    | some m =>
      obtain ⟨n, hfront, hne⟩ := exists_integerFront hid
      obtain ⟨m', hread, hm, hids⟩ := listenerId?_of_integerFront hfront hne
      obtain rfl : m = m' := Option.some.inj (hid.symm.trans hread)
      have hadmitted : Admitted store headers ↔
          0 < n ∧ n ≤ 4294967295 ∧ ∃ l, store.Names n l ∧ Passes store a.text l := by
        constructor
        · intro hadmitted
          cases hadmitted with
          | everywhere _ hzero => exact absurd (hzero n hfront) hne
          | @listener a' n' l haddress' hfront' hpos hmost hnames hpasses =>
            obtain rfl := hfront.unique hfront'
            obtain rfl := Option.some.inj (haddress.symm.trans haddress')
            exact ⟨hpos, hmost, l, hnames, hpasses⟩
        · rintro ⟨hpos, hmost, l, hnames, hpasses⟩
          exact .listener haddress hfront hpos hmost hnames hpasses
      simp only [if_neg hm, hids, hadmitted]
      cases hlistener : listenerId? n with
      | none =>
        refine iff_of_false Bool.false_ne_true ?_
        rintro ⟨hpos, hmost, -⟩
        unfold listenerId? at hlistener
        rw [if_pos ⟨by omega, hmost⟩] at hlistener
        cases hlistener
      | some id =>
        obtain rfl := listenerId?_eq_some_iff.mp hlistener
        have hid := id.toNat_lt
        simp only []
        rw [askListener_isAllowed_iff h]
        constructor
        · exact fun hl => ⟨by omega, by omega, hl⟩
        · exact fun ⟨_, _, hl⟩ => hl

end Decision

/-! ## The answer -/

/-- An admission request whose questions take less than the time that it has is answered by its
decision. -/
theorem respond_of_inTime {source : AccessSource} {limits : Limits} {now : UInt64}
    {r : HttpRequest} {q : CounterQueue} {j : Journal}
    (hrequest : Span.total (find source limits.lookup (.ofHeaders r.headers)).2 <
      limits.request.nanos)
    (hpath : r.target.path = accessPath) (hmethod : r.method = "GET" ∨ r.method = "HEAD") :
    (respond source limits now r q j).1.status =
      if (find source limits.lookup (.ofHeaders r.headers)).1.decision.isAllowed then 200
      else 401 := by
  have hsome : limits.request.nanos ≠ 0 := by omega
  have hserved : ¬(r.method ≠ "GET" ∧ r.method ≠ "HEAD") := by
    rintro ⟨hget, hhead⟩
    rcases hmethod with h | h
    · exact hget h
    · exact hhead h
  have hknown : ¬(accessPath ≠ accessPath ∧ accessPath ≠ healthPath) := by
    rintro ⟨hne, -⟩
    exact hne rfl
  have haccess : accessPath ≠ healthPath := by decide
  unfold respond
  simp only [hpath, if_neg hsome, if_neg hknown, if_neg hserved, if_neg haccess, answerAccess]
  rw [if_neg (by omega)]

/-- The endpoint answers 200 to exactly the admitted requests and 401 to all others, where the
store answers in time. A disabled row of an address hides no enabled one. -/
theorem respond_status {source : AccessSource} {store : Store} {limits : Limits} {now : UInt64}
    {r : HttpRequest} {q : CounterQueue} {j : Journal}
    (hsource : AnswersInTime source store limits.lookup)
    (hrequest : Span.total (find source limits.lookup (.ofHeaders r.headers)).2 <
      limits.request.nanos)
    (hpath : r.target.path = accessPath) (hmethod : r.method = "GET" ∨ r.method = "HEAD") :
    ((respond source limits now r q j).1.status = 200 ↔ Admitted store r.headers) ∧
      (¬Admitted store r.headers → (respond source limits now r q j).1.status = 401) ∧
      (∀ ip, store.blacklist.Holds ip →
        ∃ row, store.blacklist.find? ip = some row ∧ row.disabled = false ∧ row.ip = ip) ∧
      ∀ ip, store.whitelist.Holds ip →
        ∃ row, store.whitelist.find? ip = some row ∧ row.disabled = false ∧ row.ip = ip := by
  rw [respond_of_inTime hrequest hpath hmethod, ← find_isAllowed_iff hsource]
  generalize (find source limits.lookup (.ofHeaders r.headers)).1.decision.isAllowed = allowed
  refine ⟨?_, fun hnot => if_neg hnot, fun ip hholds => ?_, fun ip hholds => ?_⟩
  · cases allowed <;> simp
  · obtain ⟨row, hrow⟩ := Option.isSome_iff_exists.mp
      ((AccessList.find?_isSome_iff _ _).mpr hholds)
    exact ⟨row, hrow, (AccessList.of_find?_eq_some hrow).2⟩
  · obtain ⟨row, hrow⟩ := Option.isSome_iff_exists.mp
      ((AccessList.find?_isSome_iff _ _).mpr hholds)
    exact ⟨row, hrow, (AccessList.of_find?_eq_some hrow).2⟩

/-- Two listeners with one id, the first of which is checked by the whitelist, and an address
with a disabled row before its enabled one. -/
def twoRows : Store where
  routing := { listeners := [⟨21, 443, .stream, true, .whitelist, ""⟩,
    ⟨21, 444, .stream, true, .blacklist, ""⟩] }
  blacklist := .ofRows [⟨4, "192.0.2.7", false, ⟨0, 0⟩, "", {}⟩]
  whitelist := .ofRows [⟨1, "192.0.2.7", true, ⟨0, 0⟩, "", ()⟩,
    ⟨2, "192.0.2.7", false, ⟨0, 0⟩, "", ()⟩]

/-- The limits of an endpoint that waits a second for an answer. -/
def oneSecond : Limits :=
  ⟨.ofSeconds 1, .ofSeconds 2⟩

/-- A request to the endpoint with an id and an address. -/
def accessRequest (id address : String) : HttpRequest where
  method := "GET"
  target := .resource accessPath
  headers := [("listen_id", Utf8.encode id), ("realip_remote_addr", Utf8.encode address)]

/-- The first listener of the id is the one that counts, and its address check finds the enabled
row. Without an id the blacklist decides. -/
theorem respond_status_twoRows :
    (respond (.ofStore twoRows) oneSecond 0 (accessRequest "+21abc" " 192.0.2.7 ") ⟨4, [], false⟩
        .empty).1.status = 200 ∧
      (respond (.ofStore twoRows) oneSecond 0 (accessRequest "id 21" "192.0.2.7") ⟨4, [], false⟩
        .empty).1.status = 401 := by
  have haddress : Address.read? (trim "192.0.2.7") = some (.v4 ⟨192, 0, 2, 7⟩) := by
    decide
  have hip : (Address.v4 ⟨192, 0, 2, 7⟩).text = "192.0.2.7" := by decide +kernel
  constructor
  · have hid : header (accessRequest "+21abc" " 192.0.2.7 ").headers "listen_id" = "+21abc" := by
      decide +kernel
    have hraw : header (accessRequest "+21abc" " 192.0.2.7 ").headers "realip_remote_addr" =
        "192.0.2.7" := by
      decide +kernel
    have hfront : IntegerFront "+21abc".toList 21 :=
      .plus ⟨List.cons_ne_nil '2' ['1'], List.all_eq_true.mp rfl, "abc".toList, by decide, by
        rintro c r h
        obtain ⟨rfl, -⟩ := List.cons.inj h
        rfl⟩
    refine ((respond_status (answersInTime_ofStore twoRows oneSecond.lookup)
      (by decide +kernel) rfl (Or.inl rfl)).1).mpr ?_
    refine .listener (by rw [hraw]; exact haddress) (by rw [hid]; exact hfront) (by decide)
      (by decide) ⟨[], _, rfl, rfl, by simp⟩ (.whitelisted rfl rfl ?_)
    rw [hip]
    exact ⟨⟨2, "192.0.2.7", false, ⟨0, 0⟩, "", ()⟩, by decide +kernel, rfl, rfl⟩
  · have hid : header (accessRequest "id 21" "192.0.2.7").headers "listen_id" = "id 21" := by
      decide +kernel
    have hraw : header (accessRequest "id 21" "192.0.2.7").headers "realip_remote_addr" =
        "192.0.2.7" := by
      decide +kernel
    refine (respond_status (answersInTime_ofStore twoRows oneSecond.lookup)
      (by decide +kernel) rfl (Or.inl rfl)).2.1 ?_
    intro hadmitted
    cases hadmitted with
    | everywhere haddress' _ hnot =>
      rw [hraw, haddress] at haddress'
      rw [← Option.some.inj haddress', hip] at hnot
      exact hnot ⟨⟨4, "192.0.2.7", false, ⟨0, 0⟩, "", {}⟩, by decide +kernel, rfl, rfl⟩
    | listener _ hfront =>
      rw [hid] at hfront
      exact (integerFront_iff.mp hfront).1 (by decide)


end Admission

end Portcullis
