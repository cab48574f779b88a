import Portcullis.Admission.Source

/-!
# Faults only deny

A fault of the store never lets a connection in that would not be let in without it.

* `Plan` is what admission asks of a store, as a tree: a question, and how to go on for each
  answer.  `find_eq_run` says that `plan` is the plan of `find`.
* `Plan.asked` lists the questions that a run of a plan asks, and `Plan.run_spent` says that the
  waits of the run are theirs.
* `Plan.run_failed` and `Plan.run_degraded` hold for every plan: a question that fails ends the
  run, and a source with more faults gives the same finding or none.
* `decide_degraded` is the main result.
-/

namespace Portcullis.Admission

open Portcullis.Telemetry

/-! ## Questions -/

/-- A question to the store. -/
inductive Question where
  | listener (id : UInt32)
  | blacklisted (ip : String)
  | whitelisted (ip : String)
  deriving DecidableEq

/-- What a question is answered with. -/
abbrev Question.Answer : Question → Type
  | listener _ => Option Listener
  | blacklisted _ => Option BlockRow
  | whitelisted _ => Option AllowRow

/-- The reply to a question, by the number of those before it. -/
def AccessSource.reply (source : AccessSource) (n : Nat) : (q : Question) → Reply q.Answer
  | .listener id => source.listener n id
  | .blacklisted ip => source.blacklisted n ip
  | .whitelisted ip => source.whitelisted n ip

/-- How long a question takes, by the number of those before it. -/
def AccessSource.wait (source : AccessSource) (limit : Span) (asked : Nat × Question) : Span :=
  ((source.reply asked.1 asked.2).within limit).2

/-- A reply is an error, or does not come in time. -/
def Reply.Fails {α : Type} (limit : Span) (r : Reply α) : Prop :=
  (∃ e, r.result = .error e) ∨ ∀ d, r.delay = some d → limit.nanos < d.nanos

/-- Replies fail where waiting for them gives an error. -/
theorem Reply.fails_iff {α : Type} (limit : Span) (r : Reply α) :
    r.Fails limit ↔ ∃ e, (r.within limit).1 = .error e := by
  unfold Reply.Fails Reply.within
  cases r.delay with
  | none => exact iff_of_true (Or.inr fun _ h => nomatch h) ⟨_, rfl⟩
  | some d =>
    by_cases hd : d.nanos ≤ limit.nanos
    · simp only [if_pos hd]
      constructor
      · rintro (herror | hlate)
        · exact herror
        · have := hlate d rfl
          omega
      · exact Or.inl
    · simp only [if_neg hd]
      refine iff_of_true (Or.inr fun d' hd' => ?_) ⟨_, rfl⟩
      rw [← Option.some.inj hd']
      omega

/-- The second source answers like the first, save that some of its replies fail. -/
def AccessSource.Degrades (limit : Span) (good bad : AccessSource) : Prop :=
  ∀ n q, bad.reply n q = good.reply n q ∨ (bad.reply n q).Fails limit

/-! ## Plans -/

/-- What to ask, one question after another, up to the case that applies. -/
inductive Plan where
  | done (f : Finding)
  | ask (q : Question) (next : q.Answer → Plan)

namespace Plan

/-- Asks what a plan says. The waits so far tell how many questions were asked. -/
def run (source : AccessSource) (limit : Span) : Plan → List Span → Inquiry
  | done f, spent => (f, spent)
  | .ask q next, spent =>
    Admission.ask limit spent (source.reply · q) fun a spent => (next a).run source limit spent

/-- The questions that a run asks, each with the number of those before it. -/
def asked (source : AccessSource) (limit : Span) : Plan → Nat → List (Nat × Question)
  | done _, _ => []
  | .ask q next, n =>
    (n, q) ::
      match ((source.reply n q).within limit).1 with
      | .ok a => (next a).asked source limit (n + 1)
      | .error _ => []

variable {source good bad : AccessSource} {limit : Span}

theorem run_of_ok {q : Question} {next : q.Answer → Plan} {spent : List Span} {a : q.Answer}
    {d : Span} (h : (source.reply spent.length q).within limit = (.ok a, d)) :
    (ask q next).run source limit spent = (next a).run source limit (spent ++ [d]) := by
  rw [run, Admission.ask, h]

theorem run_of_error {q : Question} {next : q.Answer → Plan} {spent : List Span} {e : StoreError}
    {d : Span} (h : (source.reply spent.length q).within limit = (.error e, d)) :
    (ask q next).run source limit spent = (.failed e, spent ++ [d]) := by
  rw [run, Admission.ask, h]

/-- The waits of a run are those for the questions that it asks. -/
theorem run_spent (p : Plan) (spent : List Span) :
    (p.run source limit spent).2 =
      spent ++ (p.asked source limit spent.length).map (source.wait limit) := by
  induction p generalizing spent with
  | done f => rw [run, asked, List.map_nil, List.append_nil]
  | ask q next ih =>
    have hwait : source.wait limit (spent.length, q) =
        ((source.reply spent.length q).within limit).2 := rfl
    rw [asked, List.map_cons, hwait]
    rcases h : (source.reply spent.length q).within limit with ⟨e | a, d⟩
    · rw [run_of_error h]
      rfl
    · rw [run_of_ok h, ih, List.length_append, List.length_singleton, List.append_assoc]
      rfl

/-- A question that fails ends the run. -/
theorem run_failed (p : Plan) (spent : List Span) {n : Nat} {q : Question}
    (hasked : (n, q) ∈ p.asked source limit spent.length)
    (hfails : (source.reply n q).Fails limit) : ∃ e, (p.run source limit spent).1 = .failed e := by
  induction p generalizing spent with
  | done f => exact absurd hasked List.not_mem_nil
  | ask q' next ih =>
    rw [asked] at hasked
    rcases h : (source.reply spent.length q').within limit with ⟨e | a, d⟩
    · exact ⟨e, by rw [run_of_error h]⟩
    · rw [h] at hasked
      rw [run_of_ok h]
      rcases List.mem_cons.mp hasked with heq | hlater
      · obtain ⟨rfl, rfl⟩ := Prod.mk.inj heq
        obtain ⟨e, he⟩ := (Reply.fails_iff limit _).mp hfails
        rw [h] at he
        cases he
      · apply ih
        rw [List.length_append, List.length_singleton]
        exact hlater

/-- With more faults a run ends alike, or in a failure. -/
theorem run_degraded (h : good.Degrades limit bad) (p : Plan) (spent : List Span) :
    p.run bad limit spent = p.run good limit spent ∨
      ∃ e, (p.run bad limit spent).1 = .failed e := by
  induction p generalizing spent with
  | done f => exact Or.inl rfl
  | ask q next ih =>
    rcases hbad : (bad.reply spent.length q).within limit with ⟨e | a, d⟩
    · exact Or.inr ⟨e, by rw [run_of_error hbad]⟩
    · rcases h spent.length q with hsame | hfails
      · rw [run_of_ok hbad, run_of_ok (hsame ▸ hbad)]
        exact ih a (spent ++ [d])
      · obtain ⟨e, he⟩ := (Reply.fails_iff limit _).mp hfails
        rw [hbad] at he
        cases he

end Plan

/-! ## The plan of admission -/

def blacklistPlan (ip : String) : Plan :=
  .ask (.blacklisted ip) fun
    | none => .done .notBlacklisted
    | some row => .done (.blacklisted row.id)

def whitelistPlan (ip : String) : Plan :=
  .ask (.whitelisted ip) fun
    | none => .done .notWhitelisted
    | some row => .done (.whitelisted row.id)

def listenerPlan (ip : String) (id : UInt32) : Plan :=
  .ask (.listener id) fun
    | none => .done (.unknownListener id)
    | some l =>
      if !l.checked then .done .unchecked
      else
        match l.mode with
        | .blacklist => blacklistPlan ip
        | .whitelist => whitelistPlan ip

/-- What admission asks to decide on a request. -/
def plan (r : Request) : Plan :=
  match Net.canonical? r.address with
  | none => .done .invalidAddress
  | some ip =>
    match r.listenerId with
    | none => blacklistPlan ip
    | some n =>
      if n = 0 then blacklistPlan ip
      else
        match listenerId? n with
        | none => .done (.outOfRange n)
        | some id => listenerPlan ip id

section Find

variable (source : AccessSource) (limit : Span)

theorem askBlacklist_eq_run (ip : String) (spent : List Span) :
    askBlacklist source limit ip spent = (blacklistPlan ip).run source limit spent := by
  unfold askBlacklist blacklistPlan Plan.run
  congr 1
  funext found spent
  cases found <;> rfl

theorem askWhitelist_eq_run (ip : String) (spent : List Span) :
    askWhitelist source limit ip spent = (whitelistPlan ip).run source limit spent := by
  unfold askWhitelist whitelistPlan Plan.run
  congr 1
  funext found spent
  cases found <;> rfl

theorem askListener_eq_run (ip : String) (id : UInt32) :
    askListener source limit ip id = (listenerPlan ip id).run source limit [] := by
  unfold askListener listenerPlan Plan.run
  congr 1
  funext found spent
  cases found with
  | none => rfl
  | some l =>
    cases hchecked : l.checked with
    | false => simp [hchecked, Plan.run]
    | true =>
      cases hmode : l.mode with
      | blacklist => simp [hchecked, hmode, askBlacklist_eq_run]
      | whitelist => simp [hchecked, hmode, askWhitelist_eq_run]

/-- Finding the case that applies is running the plan. -/
theorem find_eq_run (r : Request) : find source limit r = (plan r).run source limit [] := by
  unfold find plan
  cases Net.canonical? r.address with
  | none => rfl
  | some ip =>
    cases r.listenerId with
    | none => exact askBlacklist_eq_run source limit ip []
    | some n =>
      by_cases hn : n = 0
      · simp only [if_pos hn]
        exact askBlacklist_eq_run source limit ip []
      · simp only [if_neg hn]
        cases listenerId? n with
        | none => rfl
        | some id => exact askListener_eq_run source limit ip id

end Find

/-! ## The decision -/

/-- A case that counts no hit leaves the queue alone. -/
theorem settle_of_update?_eq_none {f : Finding} {now : UInt64} (h : f.update? now = none)
    (r : Request) (q : CounterQueue) (j : Journal) : (settle f r now q j).1 = q := by
  unfold settle
  rw [h]

theorem decide_eq (source : AccessSource) (limit : Span) (r : Request) (now : UInt64)
    (q : CounterQueue) (j : Journal) :
    decide source limit r now q j =
      ((find source limit r).1.decision, (find source limit r).2,
        settle (find source limit r).1 r now q j) := by
  unfold decide
  rcases find source limit r with ⟨f, spent⟩
  rfl

/-- Faults can turn an allow into a deny and never the reverse: what is allowed in spite of more
faults is allowed without them. And where a question that was asked fails, the request is denied
for that reason and nothing is queued. The waits tell that `Plan.asked` lists the questions that
were asked. -/
theorem decide_degraded {good bad : AccessSource} {limit : Span} (h : good.Degrades limit bad)
    (r : Request) (now : UInt64) (q : CounterQueue) (j : Journal) :
    ((decide bad limit r now q j).1.isAllowed = true →
        (decide good limit r now q j).1.isAllowed = true) ∧
      (decide bad limit r now q j).2.1 =
        ((plan r).asked bad limit 0).map (bad.wait limit) ∧
      ∀ n question, (n, question) ∈ (plan r).asked bad limit 0 →
        (bad.reply n question).Fails limit →
          (decide bad limit r now q j).1 = ⟨.deny, .storeError⟩ ∧
            (decide bad limit r now q j).2.2.1 = q := by
  rw [decide_eq, decide_eq, find_eq_run, find_eq_run]
  refine ⟨fun hallowed => ?_, ?_, fun n question hasked hfails => ?_⟩
  · rcases Plan.run_degraded h (plan r) [] with hsame | ⟨e, hfailed⟩
    · rw [← hsame]
      exact hallowed
    · rw [hfailed] at hallowed
      cases hallowed
  · simp only [Plan.run_spent, List.nil_append, List.length_nil]
  · obtain ⟨e, hfailed⟩ := Plan.run_failed (plan r) [] hasked hfails
    rw [hfailed]
    exact ⟨rfl, settle_of_update?_eq_none rfl r q j⟩

/-- Faults in the answers of a store make a source that degrades it. -/
theorem degrades_spoiled (store : Store) (limit : Span) (fault : Nat → Option StoreError) :
    (AccessSource.ofStore store).Degrades limit
      ((AccessSource.ofStore store).spoiled fault (some ⟨0⟩)) := by
  intro n q
  cases hfault : fault n with
  | none =>
    left
    cases q <;> simp [AccessSource.reply, AccessSource.spoiled, AccessSource.ofStore,
      Reply.spoiled, Reply.now, hfault]
  | some e =>
    right
    left
    refine ⟨e, ?_⟩
    cases q <;> simp [AccessSource.reply, AccessSource.spoiled, Reply.spoiled, hfault]

/-- A listener that lets in one address. -/
def oneGuest : Store where
  routing := { listeners := [⟨21, 443, .stream, true, .whitelist, ""⟩] }
  whitelist := .ofRows [⟨1, "192.0.2.7", false, ⟨0, 0⟩, "", ()⟩]

/-- The address asks to be let in. -/
def guest : Request :=
  ⟨some 21, "192.0.2.7", "10.0.0.1", .stream⟩

/-- The store of `oneGuest` where one question has a fault, by the number of those before it. -/
def faultAt (n : Nat) : AccessSource :=
  (AccessSource.ofStore oneGuest).spoiled
    (fun m => if m = n then some (.corrupt "whitelist" 1 "not an address") else none) (some ⟨0⟩)

/-- A fault at a third question is never met, and the request is allowed with it and without. A
fault at the second question denies. -/
theorem decide_degraded_oneGuest :
    (decide (.ofStore oneGuest) (.ofSeconds 1) guest 0 ⟨4, [], false⟩ .empty).1.isAllowed = true ∧
      (decide (faultAt 1) (.ofSeconds 1) guest 0 ⟨4, [], false⟩ .empty).1 = ⟨.deny, .storeError⟩ ∧
      (decide (faultAt 1) (.ofSeconds 1) guest 0 ⟨4, [], false⟩ .empty).2.2.1 =
        ⟨4, [], false⟩ := by
  have hdegrades : ∀ n, (AccessSource.ofStore oneGuest).Degrades (.ofSeconds 1) (faultAt n) :=
    fun n => degrades_spoiled oneGuest (.ofSeconds 1) _
  constructor
  · apply (decide_degraded (hdegrades 2) guest 0 ⟨4, [], false⟩ .empty).1
    decide +kernel
  · apply (decide_degraded (hdegrades 1) guest 0 ⟨4, [], false⟩ .empty).2.2 1
      (.whitelisted "192.0.2.7")
    · decide +kernel
    · exact Or.inl ⟨_, rfl⟩

end Portcullis.Admission
