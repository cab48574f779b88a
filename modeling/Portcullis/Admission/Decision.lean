import Portcullis.Admission.Request
import Portcullis.Counter.Update

/-!
# Admission decisions

Whether a connection is let in, by its source address and the policy of its listener.

* `find` asks the store at most two questions and gives a `Finding`: the case that applies.
* The verdict, the counter update and the warnings are functions of the finding.
* A question that fails, or is answered too late, denies.
-/

namespace Portcullis.Admission

open Portcullis.Text
open Portcullis.Telemetry

inductive Verdict where
  | allow
  | deny
  deriving DecidableEq, Repr

def Verdict.name : Verdict → String
  | allow => "allow"
  | deny => "deny"

/-- Why a verdict was reached. -/
inductive Reason where
  | invalidAddress
  | notBlacklisted
  | blacklisted
  | unknownListener
  | checkDisabled
  | whitelisted
  | notWhitelisted
  | storeError
  deriving DecidableEq, Repr

def Reason.name : Reason → String
  | invalidAddress => "invalid_address"
  | notBlacklisted => "not_blacklisted"
  | blacklisted => "blacklisted"
  | unknownListener => "unknown_listener"
  | checkDisabled => "check_disabled"
  | whitelisted => "whitelisted"
  | notWhitelisted => "not_whitelisted"
  | storeError => "store_error"

structure Decision where
  verdict : Verdict
  reason : Reason
  deriving DecidableEq, Repr

def Decision.isAllowed (d : Decision) : Bool :=
  d.verdict == .allow

/-! ## Asking the store -/

/-- An answer of the store and the time that it takes, if it ever comes. -/
structure Reply (α : Type) where
  result : Except StoreError α
  delay : Option Span

/-- The store as admission sees it. Each question is told how many were asked before it. -/
structure AccessSource where
  listener : Nat → UInt32 → Reply (Option Listener)
  blacklisted : Nat → String → Reply (Option BlockRow)
  whitelisted : Nat → String → Reply (Option AllowRow)

/-- An answer that comes at once. -/
def Reply.now (a : α) : Reply α :=
  ⟨.ok a, some ⟨0⟩⟩

/-- A store answers at once. -/
def AccessSource.ofStore (store : Store) : AccessSource where
  listener _ id := .now (store.routing.listener? id)
  blacklisted _ ip := .now (store.blacklist.find? ip)
  whitelisted _ ip := .now (store.whitelist.find? ip)

/-- Waits for an answer up to a limit, and tells how long the wait was. -/
def Reply.within (limit : Span) (r : Reply α) : Except StoreError α × Span :=
  match r.delay with
  | some d => if d.nanos ≤ limit.nanos then (r.result, d) else (.error (.timeout limit), limit)
  | none => (.error (.timeout limit), limit)

/-! ## Findings -/

/-- The case that applies to a request. -/
inductive Finding where
  | invalidAddress
  | outOfRange (id : Int)
  | unknownListener (id : UInt32)
  | unchecked
  | blacklisted (id : UInt32)
  | notBlacklisted
  | whitelisted (id : UInt32)
  | notWhitelisted
  | failed (e : StoreError)
  deriving DecidableEq, Repr

/-- A finding, and how long each question took. -/
abbrev Inquiry := Finding × List Span

/-- Asks one more question, and goes on with its answer. -/
def ask (limit : Span) (spent : List Span) (reply : Nat → Reply α)
    (next : α → List Span → Inquiry) : Inquiry :=
  match (reply spent.length).within limit with
  | (.ok a, span) => next a (spent ++ [span])
  | (.error e, span) => (.failed e, spent ++ [span])

/-- The blacklist is one for all listeners. -/
def askBlacklist (source : AccessSource) (limit : Span) (ip : String) (spent : List Span) :
    Inquiry :=
  ask limit spent (source.blacklisted · ip) fun found spent =>
    match found with
    | none => (.notBlacklisted, spent)
    | some row => (.blacklisted row.id, spent)

def askWhitelist (source : AccessSource) (limit : Span) (ip : String) (spent : List Span) :
    Inquiry :=
  ask limit spent (source.whitelisted · ip) fun found spent =>
    match found with
    | none => (.notWhitelisted, spent)
    | some row => (.whitelisted row.id, spent)

/-- Asks for a listener and follows its policy. -/
def askListener (source : AccessSource) (limit : Span) (ip : String) (id : UInt32) : Inquiry :=
  ask limit [] (source.listener · id) fun found spent =>
    match found with
    | none => (.unknownListener id, spent)
    | some l =>
      if !l.checked then (.unchecked, spent)
      else
        match l.mode with
        | .blacklist => askBlacklist source limit ip spent
        | .whitelist => askWhitelist source limit ip spent

/-- The id of a listener that a number can name. -/
def listenerId? (n : Int) : Option UInt32 :=
  if 0 ≤ n ∧ n ≤ 4294967295 then some n.toNat.toUInt32 else none

/-- Finds the case that applies to a request. -/
def find (source : AccessSource) (limit : Span) (r : Request) : Inquiry :=
  match Net.canonical? r.address with
  | none => (.invalidAddress, [])
  | some ip =>
    match r.listenerId with
    | none => askBlacklist source limit ip []
    | some n =>
      if n = 0 then askBlacklist source limit ip []
      else
        match listenerId? n with
        | none => (.outOfRange n, [])
        | some id => askListener source limit ip id

namespace Finding

/-- The decision in a case. -/
def decision : Finding → Decision
  | invalidAddress => ⟨.deny, .invalidAddress⟩
  | outOfRange _ | unknownListener _ => ⟨.deny, .unknownListener⟩
  | unchecked => ⟨.allow, .checkDisabled⟩
  | blacklisted _ => ⟨.deny, .blacklisted⟩
  | notBlacklisted => ⟨.allow, .notBlacklisted⟩
  | whitelisted _ => ⟨.allow, .whitelisted⟩
  | notWhitelisted => ⟨.deny, .notWhitelisted⟩
  | failed _ => ⟨.deny, .storeError⟩

/-- The hit that a case counts. -/
def update? (now : UInt64) : Finding → Option CounterUpdate
  | blacklisted id => some (.block id now)
  | whitelisted id => some (.access id now)
  | _ => none

/-- A listener id in a report. -/
def idDetail : Option Int → String
  | none => "None"
  | some n => "Some(" ++ Decimal.ofInt n ++ ")"

/-- What there is to report of a case besides the decision. -/
def notes (r : Request) : Finding → List Event
  | invalidAddress =>
    [⟨.decision, .error, "Source address is empty or unparseable", [("addr", r.address)]⟩]
  | outOfRange n =>
    [⟨.decision, .warn, "Admission check for out-of-range listener id",
      [("listener_id", Decimal.ofInt n)]⟩]
  | unknownListener id =>
    [⟨.decision, .warn, "Admission check for unknown listener",
      [("listener_id", Decimal.ofNat id.toNat)]⟩]
  | failed e =>
    [⟨.decision, .error, "Access store failed during admission check, denying",
      [("listener_id", idDetail r.listenerId), ("addr", r.address), ("error", e.message)]⟩]
  | _ => []

end Finding

/-! ## Deciding -/

/-- The report of a decision. -/
def Decision.note (d : Decision) (r : Request) : Event :=
  ⟨.decision, .info, "Admission decision",
    [("listener_id", Finding.idDetail r.listenerId), ("addr", r.address),
      ("remote_addr", r.rawAddress), ("kind", r.kind.name), ("verdict", d.verdict.name),
      ("reason", d.reason.name)]⟩

/-- The series that counts decisions. -/
def Decision.series (d : Decision) : Series :=
  ⟨"gatehouse_admission_decisions_total",
    [("verdict", d.verdict.name), ("reason", d.reason.name)]⟩

/-- Makes a finding known: its hit is queued, and the decision reported and counted. -/
def settle (f : Finding) (r : Request) (now : UInt64) (q : CounterQueue) (j : Journal) :
    CounterQueue × Journal :=
  let (q, j) :=
    match f.update? now with
    | some u => (record u q j).2
    | none => (q, j)
  (q, ((j.logAll (f.notes r)).log (f.decision.note r)).count f.decision.series)

/-- Decides on a request, and tells how long each question took. -/
def decide (source : AccessSource) (limit : Span) (r : Request) (now : UInt64)
    (q : CounterQueue) (j : Journal) : Decision × List Span × CounterQueue × Journal :=
  let (f, spent) := find source limit r
  let (q, j) := settle f r now q j
  (f.decision, spent, q, j)

end Portcullis.Admission
