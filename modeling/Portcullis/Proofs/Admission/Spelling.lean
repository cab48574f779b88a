import Portcullis.Proofs.Admission.Hearing
import Portcullis.Proofs.Admission.Verdict
import Portcullis.Proofs.Store.Entry

/-!
# Addresses and their spellings

A row of an access list is searched by text, and both the row and the source of a connection are in
canonical form when they meet. So a row is hit by the spellings of its address and by no other text.

* `Net.getD_canonical?_eq_text_iff`: a text that is kept in canonical form is the text of an address
  exactly if it is one of its spellings.
* `Request.roll?` is the list that a request is checked against, and `find_rows` says which row of
  it a finding is about.
* `hit_iff_sameAddress` is the main result, for each way in which a row can enter.
-/

namespace Portcullis.Net

open Portcullis.Text

theorem Address.text_inj {a b : Address} : a.text = b.text ↔ a = b := by
  constructor
  · intro h
    exact Option.some.inj (a.read?_text.symm.trans (h ▸ b.read?_text))
  · exact congrArg Address.text

/-- What is kept in place of a text is the text of an address exactly if the text spells the
address: a text that spells none is no such text either. -/
theorem getD_canonical?_eq_text_iff {raw : String} {a : Address} :
    (canonical? raw).getD raw = a.text ↔ Address.read? (trim raw) = some a := by
  unfold canonical?
  cases hread : Address.read? (trim raw) with
  | none =>
    rw [Option.map_none, Option.getD_none]
    refine iff_of_false (fun heq => ?_) nofun
    rw [heq, trim_of_noBlank fun _ => isBlank_of_mem_text, Address.read?_text] at hread
    cases hread
  | some b => rw [Option.map_some, Option.getD_some, Address.text_inj, Option.some.injEq]

end Portcullis.Net

namespace Portcullis

/-- A search finds a row of its address if no other row is enabled. -/
theorem AccessList.find?_of_only {ε : Type} {list : AccessList ε} {x : AccessRow ε}
    (hx : list.get? x.id = some x) (henabled : x.disabled = false)
    (honly : ∀ y ∈ list.rows, y.disabled = false → y.id = x.id) : list.find? x.ip = some x := by
  have hmem : x ∈ list.rows := (Table.get?_eq_some_iff.1 hx).1
  obtain ⟨y, hy⟩ := Option.isSome_iff_exists.1
    ((list.find?_isSome_iff x.ip).2 ⟨x, hmem, henabled, rfl⟩)
  obtain ⟨hrow, hon, -⟩ := of_find?_eq_some hy
  have hsame : list.get? x.id = some y := Table.get?_eq_some_iff.2 ⟨hrow, honly y hrow hon⟩
  rw [hy, ← hsame, hx]

end Portcullis

namespace Portcullis.Admission

open Portcullis.Net
open Portcullis.Text

/-! ## The list that a request is checked against -/

/-- The list of a mode. -/
def rollOf : CheckMode → Roll
  | .blacklist => .blacklist
  | .whitelist => .whitelist

/-- The list that a request is checked against, if any. -/
def Request.roll? (store : Store) (r : Request) : Option Roll :=
  match r.listenerId with
  | none => some .blacklist
  | some n =>
    if n = 0 then some .blacklist
    else
      (listenerId? n).bind fun id =>
        (store.routing.listener? id).bind fun l => if l.checked then some (rollOf l.mode) else none

/-- The rows that a list answers for an address, as references. -/
def refs (store : Store) (roll : Roll) (ip : String) : List RowRef :=
  ((store.list roll).find? ip).toList.map fun x => (roll, x.id)

theorem mem_refs_iff {store : Store} {roll roll' : Roll} {ip : String} {id : UInt32} :
    (roll, id) ∈ refs store roll' ip ↔
      roll' = roll ∧ ∃ x, (store.list roll).find? ip = some x ∧ x.id = id := by
  simp only [refs, List.mem_map, Option.mem_toList]
  constructor
  · intro ⟨x, hx, heq⟩
    obtain ⟨rfl, hid⟩ := Prod.mk.inj heq
    exact ⟨rfl, x, hx, hid⟩
  · intro ⟨heq, x, hx, hid⟩
    subst heq
    exact ⟨x, hx, by rw [hid]⟩

section Rows

variable {source : AccessSource} {store : Store} {limit : Span}

theorem askBlacklist_rows (h : AnswersInTime source store limit) (ip : String)
    (spent : List Span) :
    (askBlacklist source limit ip spent).1.rows = refs store .blacklist ip := by
  obtain ⟨d, hd, hreply⟩ := h.blacklisted spent.length ip
  rw [askBlacklist, ask_of_inTime _ hd hreply]
  show _ = (store.blacklist.find? ip).toList.map _
  cases store.blacklist.find? ip <;> rfl

theorem askWhitelist_rows (h : AnswersInTime source store limit) (ip : String)
    (spent : List Span) :
    (askWhitelist source limit ip spent).1.rows = refs store .whitelist ip := by
  obtain ⟨d, hd, hreply⟩ := h.whitelisted spent.length ip
  rw [askWhitelist, ask_of_inTime _ hd hreply]
  show _ = (store.whitelist.find? ip).toList.map _
  cases store.whitelist.find? ip <;> rfl

theorem askListener_rows (h : AnswersInTime source store limit) (ip : String) (id : UInt32) :
    (askListener source limit ip id).1.rows =
      ((store.routing.listener? id).bind fun l =>
        if l.checked then some (rollOf l.mode) else none).elim [] (refs store · ip) := by
  obtain ⟨d, hd, hreply⟩ := h.listener 0 id
  rw [askListener, ask_of_inTime _ hd hreply]
  cases store.routing.listener? id with
  | none => rfl
  | some l =>
    cases hchecked : l.checked with
    | false => simp [hchecked, Finding.rows]
    | true =>
      simp only [hchecked, Bool.not_true, Bool.false_eq_true, if_false, if_true,
        Option.bind_some, Option.elim_some]
      cases l.mode with
      | blacklist => exact askBlacklist_rows h ip _
      | whitelist => exact askWhitelist_rows h ip _

/-- A finding is about the row that the list of the request holds for the address that the source
spells. -/
theorem find_rows (h : AnswersInTime source store limit) (r : Request) :
    (find source limit r).1.rows =
      (canonical? r.address).elim [] fun ip => (r.roll? store).elim [] (refs store · ip) := by
  unfold find Request.roll?
  cases canonical? r.address with
  | none => rfl
  | some ip =>
    cases r.listenerId with
    | none => exact askBlacklist_rows h ip []
    | some n =>
      by_cases hn : n = 0
      · simp only [hn, if_true]
        exact askBlacklist_rows h ip []
      · simp only [if_neg hn]
        cases listenerId? n with
        | none => rfl
        | some id => exact askListener_rows h ip id

theorem mem_find_rows_iff (h : AnswersInTime source store limit) {r : Request} {roll : Roll}
    {id : UInt32} :
    (roll, id) ∈ (find source limit r).1.rows ↔
      r.roll? store = some roll ∧ ∃ a, Address.read? (trim r.address) = some a ∧
        ∃ x, (store.list roll).find? a.text = some x ∧ x.id = id := by
  rw [find_rows h, canonical?]
  cases Address.read? (trim r.address) with
  | none => simp
  | some a =>
    cases r.roll? store with
    | none => simp
    | some roll' => simp [mem_refs_iff]

end Rows

/-! ## Rows that have entered -/

section Entered

variable {source : AccessSource} {store : Store} {limit : Span} {roll : Roll}
  {r : AccessRow roll.Details}

/-- What is stored of a row that has entered. -/
theorem stored_of_entered (h : store.Entered roll r) : ∃ x, (store.list roll).get? r.id = some x ∧
    x.id = r.id ∧ x.disabled = r.disabled ∧ x.canonical = x ∧
    ∀ a : Address, x.ip = a.text ↔ Address.read? (trim r.ip) = some a := by
  obtain ⟨tally, hget⟩ := h.get?_list
  have hid := r.rowId_canonical
  have hdisabled := r.disabled_canonical
  have hip := r.ip_canonical
  have hcanonical := r.canonical_canonical
  generalize r.canonical = c at hget hid hdisabled hip hcanonical
  refine ⟨{ c with tally := tally }, hget, hid, hdisabled, ?_, fun a => ?_⟩
  · rw [c.canonical_withTally, hcanonical]
  · rw [← getD_canonical?_eq_text_iff, ← hip]

/-- A list matches addresses and not spellings: a request that is checked against the list that a
row has entered, in whichever way, hits the row exactly if the texts of both spell one address, as
long as no other row of the list is enabled. A row whose text spells none is hit by no request,
whatever else is in the list. And the row that is stored stays as it is when it enters again. -/
theorem hit_iff_sameAddress (h : AnswersInTime source store limit)
    (hentered : store.Entered roll r) :
    (r.disabled = false → (∀ x ∈ (store.list roll).rows, x.disabled = false → x.id = r.id) →
      ∀ request : Request, request.roll? store = some roll →
        ((roll, r.id) ∈ (find source limit request).1.rows ↔
          ∃ a, Address.read? (trim r.ip) = some a ∧
            Address.read? (trim request.address) = some a)) ∧
    (Address.read? (trim r.ip) = none →
      ∀ request : Request, (roll, r.id) ∉ (find source limit request).1.rows) ∧
    ∀ x, (store.list roll).get? r.id = some x → store.Keeps roll x := by
  obtain ⟨stored, hget, hid, hdisabled, hcanonical, hspells⟩ := stored_of_entered hentered
  have hspelled : ∀ request : Request, (roll, r.id) ∈ (find source limit request).1.rows →
      ∃ a, Address.read? (trim r.ip) = some a ∧ Address.read? (trim request.address) = some a := by
    intro request hhit
    obtain ⟨-, a, hread, x, hfind, hx⟩ := (mem_find_rows_iff h).1 hhit
    obtain ⟨hrow, -, hip⟩ := AccessList.of_find?_eq_some hfind
    have hsame : (store.list roll).get? r.id = some x := Table.get?_eq_some_iff.2 ⟨hrow, hx⟩
    obtain rfl : stored = x := Option.some.inj (hget.symm.trans hsame)
    exact ⟨a, (hspells a).1 hip, hread⟩
  refine ⟨fun henabled honly request hroll => ⟨hspelled request, ?_⟩, fun hnone request hhit => ?_,
    fun x hx => ?_⟩
  · intro ⟨a, hrow, hread⟩
    rw [← hid] at hget honly
    have hfind := AccessList.find?_of_only hget (hdisabled.trans henabled) honly
    rw [(hspells a).2 hrow] at hfind
    exact (mem_find_rows_iff h).2 ⟨hroll, a, hread, stored, hfind, hid⟩
  · obtain ⟨a, hrow, -⟩ := hspelled request hhit
    cases hnone.symm.trans hrow
  · obtain rfl : stored = x := Option.some.inj (hget.symm.trans hx)
    exact Store.keeps_of_canonical hcanonical (hid ▸ hget)

end Entered

/-- A row with capitals, long zeros and blank ends. -/
def spelledRow : AccessRow (Roll.Details .blacklist) :=
  ⟨7, " 2001:DB8:0:0::1 ", false, {}, "", {}⟩

/-- A disabled row of the same address. -/
def disabledRow : AccessRow (Roll.Details .blacklist) :=
  ⟨3, "2001:db8::1", true, {}, "", {}⟩

/-- A store that has taken over both rows. -/
def spelledStore : Store :=
  Store.empty.apply { blacklist := [disabledRow, spelledRow] }

/-- A request from the same address, with an IPv4 tail. -/
def tailRequest : Request :=
  ⟨none, "2001:db8::0.0.0.1", "", .http⟩

theorem hit_iff_sameAddress_tail :
    AnswersInTime (.ofStore spelledStore) spelledStore ⟨0⟩ ∧
      spelledStore.Entered .blacklist spelledRow ∧ spelledRow.disabled = false ∧
      (∀ x ∈ (spelledStore.list .blacklist).rows, x.disabled = false → x.id = spelledRow.id) ∧
      tailRequest.roll? spelledStore = some .blacklist ∧
      (Roll.blacklist, spelledRow.id) ∈
        (find (.ofStore spelledStore) ⟨0⟩ tailRequest).1.rows := by
  have hanswers := answersInTime_ofStore spelledStore ⟨0⟩
  have hrows : Snapshot.rows { blacklist := [disabledRow, spelledRow] } .blacklist =
      [disabledRow] ++ spelledRow :: [] := rfl
  have hentered : spelledStore.Entered .blacklist spelledRow := .apply .empty _ hrows nofun
  have honly : ∀ x ∈ spelledStore.blacklist.rows, x.disabled = false → x.id = 7 := by
    decide
  have hsame : Address.read? (trim spelledRow.ip) = Address.read? (trim tailRequest.address) := by
    decide +kernel
  have hread : (Address.read? (trim spelledRow.ip)).isSome = true := by decide
  obtain ⟨a, ha⟩ := Option.isSome_iff_exists.1 hread
  exact ⟨hanswers, hentered, rfl, honly, rfl,
    ((hit_iff_sameAddress hanswers hentered).1 rfl honly tailRequest rfl).2
      ⟨a, ha, hsame.symm.trans ha⟩⟩

end Portcullis.Admission
