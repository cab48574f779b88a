import Portcullis.Proofs.Admission.Faults
import Portcullis.Proofs.Admission.ListenerId

/-!
# Which listener is looked up

From the text of a header to the question that is asked first.

* `readListenerId_of_integerFront`: the number at the front of the text is the listener id, cut off
  at the greatest magnitude, unless it is zero.
* `asked_blacklistPlan` and `asked_listenerPlan` list what is asked about an address, for all
  listeners or for one.
* `lookup_exact` is the main result.  A number other than zero asks for the listener that has it
  for its id, or for nothing; it never asks the blacklist in place of a listener.
-/

namespace Portcullis.Admission

open Portcullis.Text
open Portcullis.Telemetry

/-! ## The number -/

/-- The nearest number of at most the greatest magnitude. -/
def saturate (n : Int) : Int :=
  max (-(maxMagnitude : Int)) (min n maxMagnitude)

/-- Cutting off the magnitude and then setting the sign is cutting off the number. -/
theorem signed_min (cs : List Char) (n : Nat) :
    signed cs (min n maxMagnitude) = saturate (signed cs n) := by
  unfold signed saturate
  split <;> omega

/-- Zero is no listener id, and every other number is one, cut off at the greatest magnitude. -/
theorem readListenerId_of_integerFront {raw : String} {n : Int}
    (h : IntegerFront raw.toList n) :
    readListenerId raw = if n = 0 then none else some (saturate n) := by
  obtain ⟨-, rfl⟩ := integerFront_iff.mp h
  have hzero : min (Decimal.value (idDigits raw.toList)) maxMagnitude = 0 ↔
      signed raw.toList (Decimal.value (idDigits raw.toList)) = 0 := by
    unfold signed maxMagnitude
    split <;> omega
  simp only [readListenerId_eq, hzero, signed_min]

theorem listenerId_ofHeaders (headers : Headers) :
    (Request.ofHeaders headers).listenerId = readListenerId (header headers "listen_id") := by
  rw [Request.ofHeaders]

theorem address_ofHeaders (headers : Headers) :
    (Request.ofHeaders headers).address = header headers "realip_remote_addr" := by
  rw [Request.ofHeaders]

/-! ## The questions -/

section Asked

variable {source : AccessSource} {limit : Span} {headers : Headers} {ip : String}

/-- For all listeners the blacklist is asked, and nothing else. -/
theorem asked_blacklistPlan (ip : String) (n : Nat) :
    (blacklistPlan ip).asked source limit n = [(n, .blacklisted ip)] := by
  rw [blacklistPlan, Plan.asked]
  rcases ((source.reply n (.blacklisted ip)).within limit).1 with e | _ | row <;> rfl

theorem asked_whitelistPlan (ip : String) (n : Nat) :
    (whitelistPlan ip).asked source limit n = [(n, .whitelisted ip)] := by
  rw [whitelistPlan, Plan.asked]
  rcases ((source.reply n (.whitelisted ip)).within limit).1 with e | _ | row <;> rfl

/-- For one listener the first question is for the listener, and at most one of the lists is asked
after it. -/
theorem asked_listenerPlan (ip : String) (id : UInt32) :
    ∃ later, (listenerPlan ip id).asked source limit 0 = (0, .listener id) :: later ∧
      (later = [] ∨ later = [(1, .blacklisted ip)] ∨ later = [(1, .whitelisted ip)]) := by
  rw [listenerPlan, Plan.asked]
  refine ⟨_, rfl, ?_⟩
  rcases ((source.reply 0 (.listener id)).within limit).1 with e | _ | l
  · exact .inl rfl
  · exact .inl rfl
  · cases hchecked : l.checked with
    | false => simp [hchecked, Plan.asked]
    | true =>
      cases hmode : l.mode with
      | blacklist => simp [hchecked, hmode, asked_blacklistPlan]
      | whitelist => simp [hchecked, hmode, asked_whitelistPlan]

/-- Without a listener id the request is one for all listeners. -/
theorem plan_of_none {r : Request} (hip : Net.canonical? r.address = some ip)
    (hid : r.listenerId = none) : plan r = blacklistPlan ip := by
  unfold plan
  rw [hip, hid]

/-- A listener id other than zero asks for its listener, if it can be the id of one. -/
theorem plan_of_some {r : Request} {m : Int} (hip : Net.canonical? r.address = some ip)
    (hid : r.listenerId = some m) (hm : m ≠ 0) :
    plan r = (listenerId? m).elim (.done (.outOfRange m)) (listenerPlan ip) := by
  unfold plan
  rw [hip, hid]
  simp only [if_neg hm]
  cases listenerId? m <;> rfl

end Asked

/-! ## The decision -/

/-- What the header of a listener id asks for, where the address can be read. With no number at the
front of its text, or zero, the blacklist is asked and nothing else. Any other number, however long,
is the listener id up to the greatest magnitude, and it never asks for all listeners: if a listener
can have it for its id, exactly that listener is looked up first; if not, nothing is asked and the
request is denied. The waits of the decision are those for the questions listed. -/
theorem lookup_exact {headers : Headers} {ip : String}
    (hip : Net.canonical? (header headers "realip_remote_addr") = some ip)
    (source : AccessSource) (limit : Span) (now : UInt64) (q : CounterQueue) (j : Journal) :
    ((∀ n, IntegerFront (header headers "listen_id").toList n → n = 0) →
      (Request.ofHeaders headers).listenerId = none ∧
        (plan (.ofHeaders headers)).asked source limit 0 = [(0, .blacklisted ip)]) ∧
    (∀ n, IntegerFront (header headers "listen_id").toList n → n ≠ 0 →
      (Request.ofHeaders headers).listenerId =
          some (max (-9223372036854775807) (min n 9223372036854775807)) ∧
        (∀ id : UInt32, n = id.toNat →
          find source limit (.ofHeaders headers) = askListener source limit ip id ∧
            ∃ later, (plan (.ofHeaders headers)).asked source limit 0 = (0, .listener id) :: later ∧
              (later = [] ∨ later = [(1, .blacklisted ip)] ∨ later = [(1, .whitelisted ip)])) ∧
        (n < 1 ∨ 4294967295 < n →
          (plan (.ofHeaders headers)).asked source limit 0 = [] ∧
            (decide source limit (.ofHeaders headers) now q j).1 = ⟨.deny, .unknownListener⟩ ∧
            (decide source limit (.ofHeaders headers) now q j).2.2.1 = q)) ∧
    (decide source limit (.ofHeaders headers) now q j).2.1 =
      ((plan (.ofHeaders headers)).asked source limit 0).map (source.wait limit) := by
  rw [← address_ofHeaders] at hip
  refine ⟨fun hzero => ?_, fun n hfront hn => ?_, ?_⟩
  · have hnone := readListenerId_eq_none_iff.mpr hzero
    rw [← listenerId_ofHeaders] at hnone
    exact ⟨hnone, by rw [plan_of_none hip hnone, asked_blacklistPlan]⟩
  · obtain ⟨m, hread, hm, hids⟩ := listenerId?_of_integerFront hfront hn
    rw [← listenerId_ofHeaders] at hread
    have hplan : plan (.ofHeaders headers) =
        (listenerId? n).elim (.done (.outOfRange m)) (listenerPlan ip) := by
      rw [plan_of_some hip hread hm, hids]
    have hsaturated := readListenerId_of_integerFront hfront
    rw [if_neg hn, ← listenerId_ofHeaders] at hsaturated
    refine ⟨hsaturated, fun id hid => ?_, fun hrange => ?_⟩
    · rw [listenerId?_eq_some_iff.mpr hid] at hplan
      rw [find_eq_run, hplan, askListener_eq_run]
      exact ⟨rfl, asked_listenerPlan ip id⟩
    · have hnone : listenerId? n = none := by
        unfold listenerId?
        rw [if_neg (by omega)]
      rw [hnone] at hplan
      rw [decide_eq, find_eq_run, hplan]
      exact ⟨rfl, rfl, settle_of_update?_eq_none rfl _ q j⟩
  · rw [decide_eq, find_eq_run, Plan.run_spent, List.nil_append, List.length_nil]

/-- A connection of one address that names a listener. -/
def naming (id : String) : Headers :=
  [("listen_id", Utf8.encode id), ("realip_remote_addr", Utf8.encode "192.0.2.7")]

/-- A number of twenty digits is cut off and names no listener. With zeros in front and a word
behind it, 21 names listener 21. -/
theorem lookup_exact_oddIds :
    (Request.ofHeaders (naming "-99999999999999999999")).listenerId =
        some (-9223372036854775807) ∧
      (decide (.ofStore {}) (.ofSeconds 1) (.ofHeaders (naming "-99999999999999999999")) 0
        ⟨4, [], false⟩ .empty).1 = ⟨.deny, .unknownListener⟩ ∧
      find (.ofStore {}) (.ofSeconds 1) (.ofHeaders (naming "+00000000000000000000021abc")) =
        askListener (.ofStore {}) (.ofSeconds 1) "192.0.2.7" 21 := by
  have hfront : IntegerFront (header (naming "-99999999999999999999") "listen_id").toList
      (-99999999999999999999) := integerFront_iff.mpr (by decide +kernel)
  have hfront' : IntegerFront
      (header (naming "+00000000000000000000021abc") "listen_id").toList 21 :=
    integerFront_iff.mpr (by decide +kernel)
  have hip : Net.canonical? (header (naming "-99999999999999999999") "realip_remote_addr") =
      some "192.0.2.7" := by decide +kernel
  have hip' : Net.canonical? (header (naming "+00000000000000000000021abc") "realip_remote_addr") =
      some "192.0.2.7" := by decide +kernel
  obtain ⟨hid, -, hdeny⟩ := (lookup_exact hip (.ofStore {}) (.ofSeconds 1) 0 ⟨4, [], false⟩
    .empty).2.1 _ hfront (by decide)
  obtain ⟨-, hlookup, -⟩ := (lookup_exact hip' (.ofStore {}) (.ofSeconds 1) 0 ⟨4, [], false⟩
    .empty).2.1 _ hfront' (by decide)
  exact ⟨hid, (hdeny (.inl (by decide))).2.1, (hlookup 21 rfl).1⟩

end Portcullis.Admission
