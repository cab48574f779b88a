import Portcullis.Proofs.Counter.Office
import Portcullis.Proofs.Store.Plain

/-!
# Verdicts do not depend on bookkeeping

What is decided depends on the requests and on what is done to the store, and not on what becomes of
the counts: the queue, the retries, the writer's moments and the fate of its writes.

* `Plan.Blind` says that a plan goes on alike whatever the rows that it is answered with have
  counted, and `blind_plan` that all plans of admission do.
* `Occasion.visible?` leaves what is not bookkeeping, and `Office.Alike` compares two offices apart
  from their books.
* `Alike.of_hidden` and `Alike.of_visible`: what is bookkeeping leaves an office like the other, and
  what is not takes two like offices to like offices.  `Alike.isSome_step` says that it can happen
  in both or in neither.
* `Office.decisions_of_visible` is the main result.
-/

namespace Portcullis.Admission

/-! ## Plans that do not see tallies -/

/-- An answer without tallies. -/
def Question.plain : (q : Question) → q.Answer → q.Answer
  | .listener _, found => found
  | .blacklisted _, found => found.map AccessRow.plain
  | .whitelisted _, found => found.map AccessRow.plain

/-- A plan that goes on alike whatever rows have counted. -/
inductive Plan.Blind : Plan → Prop where
  | done (f : Finding) : Blind (.done f)
  | ask (q : Question) (next : q.Answer → Plan) (hsame : ∀ a, next (q.plain a) = next a)
    (h : ∀ a, Blind (next a)) : Blind (.ask q next)

theorem blind_blacklistPlan (ip : String) : (blacklistPlan ip).Blind := by
  apply Plan.Blind.ask
  · intro found
    cases found <;> rfl
  · intro found
    cases found <;> exact .done _

theorem blind_whitelistPlan (ip : String) : (whitelistPlan ip).Blind := by
  apply Plan.Blind.ask
  · intro found
    cases found <;> rfl
  · intro found
    cases found <;> exact .done _

theorem blind_listenerPlan (ip : String) (id : UInt32) : (listenerPlan ip id).Blind := by
  apply Plan.Blind.ask
  · exact fun _ => rfl
  · intro found
    cases found with
    | none => exact .done _
    | some l =>
      dsimp only
      split
      · exact .done _
      · split
        · exact blind_blacklistPlan ip
        · exact blind_whitelistPlan ip

/-- Admission does not see tallies. -/
theorem blind_plan (r : Request) : (plan r).Blind := by
  unfold plan
  split
  · exact .done _
  · split
    · exact blind_blacklistPlan _
    · split
      · exact blind_blacklistPlan _
      · split
        · exact .done _
        · exact blind_listenerPlan _ _

/-- What a store answers. -/
def answer (store : Store) : (q : Question) → q.Answer
  | .listener id => store.routing.listener? id
  | .blacklisted ip => store.blacklist.find? ip
  | .whitelisted ip => store.whitelist.find? ip

/-- A store answers at once. -/
theorem within_reply_ofStore (store : Store) (n : Nat) (q : Question) (limit : Span) :
    ((AccessSource.ofStore store).reply n q).within limit = (.ok (answer store q), ⟨0⟩) := by
  have hnow : (AccessSource.ofStore store).reply n q = .now (answer store q) := by
    cases q <;> rfl
  rw [hnow, Reply.within, Reply.now]
  exact if_pos (Nat.zero_le _)

/-- A store without tallies answers without tallies. -/
theorem answer_plain (store : Store) (q : Question) :
    answer store.plain q = q.plain (answer store q) := by
  cases q with
  | listener id => rfl
  | blacklisted ip => exact AccessList.find?_plain _ ip
  | whitelisted ip => exact AccessList.find?_plain _ ip

theorem Question.rows_plain (q : Question) (a : q.Answer) : q.rows (q.plain a) = q.rows a := by
  cases q with
  | listener id => rfl
  | blacklisted ip => cases a <;> rfl
  | whitelisted ip => cases a <;> rfl

namespace Hearing

variable {h h' : Hearing} {store : Store} {limit : Span}

/-- A hearing goes on alike whatever the store has counted. -/
theorem hear_plain (hblind : h.plan.Blind) (store : Store) (limit : Span) :
    h.hear (.ofStore store.plain) limit = h.hear (.ofStore store) limit := by
  rw [hear, hear]
  cases hplan : h.plan with
  | done f => rfl
  | ask q next =>
    rw [hplan] at hblind
    cases hblind with
    | ask _ _ hsame _ =>
      simp only [within_reply_ofStore, answered, answer_plain, Question.rows_plain, hsame]

theorem blind_opened (r : Request) (time : UInt64) : (opened r time).plan.Blind := by
  simp only [opened]
  exact blind_plan r

theorem blind_hear (hblind : h.plan.Blind) {source : AccessSource}
    (hhear : h.hear source limit = some h') : h'.plan.Blind := by
  rw [hear] at hhear
  cases hplan : h.plan with
  | done f => rw [hplan] at hhear; cases hhear
  | ask q next =>
    rw [hplan] at hhear hblind
    cases hhear
    cases hblind with
    | ask _ _ _ hnext =>
      rcases (source.reply h.spent.length q).within limit with ⟨e | a, span⟩
      · exact .done _
      · exact hnext a

end Hearing

end Portcullis.Admission

namespace Portcullis

open Portcullis.Admission
open Portcullis.Telemetry

/-! ## Offices apart from their books -/

/-- What an occasion is apart from bookkeeping, if it is anything. -/
def Occasion.visible? : Occasion → Option Occasion
  | take => none
  | attempt .. => none
  | stop => none
  | change op => op.plain.map change
  | e => some e

/-- What is visible is the occasion itself, or a change apart from tallies. -/
theorem Occasion.visible?_cases {e v : Occasion} (h : e.visible? = some v) :
    (e = v ∧ ∀ op, v ≠ change op) ∨
      ∃ op o, e = change op ∧ op.plain = some o ∧ v = change o := by
  cases e with
  | arrive r time => cases h; exact .inl ⟨rfl, fun _ => Occasion.noConfusion⟩
  | ask i view limit => cases h; exact .inl ⟨rfl, fun _ => Occasion.noConfusion⟩
  | conclude i => cases h; exact .inl ⟨rfl, fun _ => Occasion.noConfusion⟩
  | take => cases h
  | attempt reply reached draw => cases h
  | stop => cases h
  | change op =>
    obtain ⟨o, ho, rfl⟩ := Option.map_eq_some_iff.1 h
    exact .inr ⟨op, o, rfl, ho, rfl⟩

/-- Questions are asked of the store. -/
def Occasion.AsksStore (e : Occasion) : Prop :=
  ∀ i view limit, e = ask i view limit → view = AccessSource.ofStore

namespace Office

/-- Two offices are alike apart from their books, their queues and what their stores have
counted. -/
structure Alike (m₁ m₂ : Office) : Prop where
  store : m₁.store.plain = m₂.store.plain
  hearings : m₁.hearings = m₂.hearings
  decisions : m₁.ledger.map (·.decision) = m₂.ledger.map (·.decision)
  blind : ∀ h ∈ m₁.hearings, h.plan.Blind

theorem plain_written (store : Store) (u : CounterUpdate) (reached : Bool) :
    (written store u reached).plain = store.plain := by
  rw [written]
  split
  · exact store.plain_count u
  · rfl

namespace Alike

variable {m₁ m₂ m₁' m₂' : Office}

theorem symm (h : Alike m₁ m₂) : Alike m₂ m₁ :=
  ⟨h.store.symm, h.hearings.symm, h.decisions.symm, h.hearings ▸ h.blind⟩

/-- Bookkeeping leaves an office like the other. -/
theorem of_hidden (h : Alike m₁ m₂) {e : Occasion} (hhidden : e.visible? = none)
    (he : m₁.step e = some m₁') : Alike m₁' m₂ := by
  rcases step_cases he with ⟨r, time, rfl, rfl⟩ |
    ⟨i, view, limit, before, after, rfl, hi, hhear, rfl⟩ | ⟨i, hearing, f, rfl, hi, hplan, rfl⟩ |
    ⟨u, rest, rfl, hclerk, hpending, rfl⟩ | ⟨reply, reached, draw, u, tries, rfl, hclerk, rfl⟩ |
    ⟨rfl, hthere, rfl⟩ | ⟨op, rfl, rfl⟩
  · cases hhidden
  · cases hhidden
  · cases hhidden
  · exact { h with }
  · have hstore := (plain_written m₁.store u reached).trans h.store
    rcases attempted_cases { m₁ with store := written m₁.store u reached } u tries reply draw
      with ⟨tries', hdone⟩ | ⟨e, tries', -, hagain⟩
    · rw [hdone]
      exact { h with store := hstore }
    · rw [hagain]
      exact { h with store := hstore }
  · exact { h with }
  · cases op with
    | count u => exact { h with store := (m₁.store.plain_count u).trans h.store }
    | _ => cases hhidden

/-- The same question to stores that are alike apart from tallies goes on alike. -/
theorem ask (h : Alike m₁ m₂) {i : Nat} {limit : Span}
    (he₁ : m₁.step (.ask i AccessSource.ofStore limit) = some m₁')
    (he₂ : m₂.step (.ask i AccessSource.ofStore limit) = some m₂') : Alike m₁' m₂' := by
  obtain ⟨before₁, hbefore₁, hnext₁⟩ := Option.bind_eq_some_iff.1 he₁
  obtain ⟨before₂, hbefore₂, hnext₂⟩ := Option.bind_eq_some_iff.1 he₂
  obtain ⟨after₁, hafter₁, hdone₁⟩ := Option.bind_eq_some_iff.1 hnext₁
  obtain ⟨after₂, hafter₂, hdone₂⟩ := Option.bind_eq_some_iff.1 hnext₂
  cases hdone₁
  cases hdone₂
  have hbefore : before₁ = before₂ := by
    rw [h.hearings, hbefore₂] at hbefore₁
    exact (Option.some.inj hbefore₁).symm
  have hblind : before₁.plan.Blind := h.blind _ (List.mem_of_getElem? hbefore₁)
  have hafter : after₁ = after₂ := by
    rw [← Hearing.hear_plain hblind, h.store, Hearing.hear_plain hblind, hbefore, hafter₂]
      at hafter₁
    exact (Option.some.inj hafter₁).symm
  constructor
  · exact h.store
  · show m₁.hearings.set i after₁ = m₂.hearings.set i after₂
    rw [h.hearings, hafter]
  · exact h.decisions
  · intro x hx
    rcases List.mem_or_eq_of_mem_set hx with hold | rfl
    · exact h.blind x hold
    · exact Hearing.blind_hear hblind hafter₁

/-- The same conclusion is the same decision. -/
theorem conclude (h : Alike m₁ m₂) {i : Nat} (he₁ : m₁.step (.conclude i) = some m₁')
    (he₂ : m₂.step (.conclude i) = some m₂') : Alike m₁' m₂' := by
  obtain ⟨hearing₁, hi₁, hdone₁⟩ := Option.bind_eq_some_iff.1 he₁
  obtain ⟨hearing₂, hi₂, hdone₂⟩ := Option.bind_eq_some_iff.1 he₂
  have hsame : hearing₁ = hearing₂ := by
    rw [h.hearings, hi₂] at hi₁
    exact (Option.some.inj hi₁).symm
  subst hsame
  cases hplan : hearing₁.plan with
  | ask q next => rw [hplan] at hdone₁; cases hdone₁
  | done f =>
    rw [hplan] at hdone₁ hdone₂
    cases hdone₁
    cases hdone₂
    constructor
    · exact h.store
    · show m₁.hearings.eraseIdx i = m₂.hearings.eraseIdx i
      rw [h.hearings]
    · show (m₁.ledger ++ [m₁.booking hearing₁ f]).map (·.decision) =
        (m₂.ledger ++ [m₂.booking hearing₁ f]).map (·.decision)
      rw [List.map_append, List.map_append, h.decisions]
      rfl
    · exact fun x hx => h.blind x (List.mem_of_mem_eraseIdx hx)

/-- What is not bookkeeping takes two like offices to like offices. -/
theorem of_visible (h : Alike m₁ m₂) {e₁ e₂ v : Occasion} (hv₁ : e₁.visible? = some v)
    (hv₂ : e₂.visible? = some v) (hasks : e₁.AsksStore) (he₁ : m₁.step e₁ = some m₁')
    (he₂ : m₂.step e₂ = some m₂') : Alike m₁' m₂' := by
  rcases Occasion.visible?_cases hv₁ with ⟨rfl, hno⟩ | ⟨op₁, o, rfl, ho₁, rfl⟩
  · rcases Occasion.visible?_cases hv₂ with ⟨rfl, -⟩ | ⟨op₂, o, -, -, heq⟩
    · cases e₂ with
      | arrive r time =>
        cases he₁
        cases he₂
        constructor
        · exact h.store
        · show m₁.hearings ++ [_] = m₂.hearings ++ [_]
          rw [h.hearings]
        · exact h.decisions
        · intro x hx
          rcases List.mem_append.1 hx with hold | hnew
          · exact h.blind x hold
          · rw [List.mem_singleton.1 hnew]
            exact Hearing.blind_opened r time
      | ask i view limit =>
        cases hasks i view limit rfl
        exact h.ask he₁ he₂
      | conclude i => exact h.conclude he₁ he₂
      | take => cases hv₁
      | attempt reply reached draw => cases hv₁
      | stop => cases hv₁
      | change op => exact absurd rfl (hno op)
    · exact absurd heq (hno o)
  · rcases Occasion.visible?_cases hv₂ with ⟨-, hno⟩ | ⟨op₂, o₂, rfl, ho₂, heq⟩
    · exact absurd rfl (hno o)
    · cases heq
      cases he₁
      cases he₂
      refine { h with store := ?_ }
      rw [Store.plain_perform ho₁, Store.plain_perform ho₂, h.store]

/-- What is not bookkeeping can happen in one office where it can happen in the other. -/
theorem isSome_step (h : Alike m₁ m₂) {e : Occasion} (hvisible : e.visible?.isSome = true) :
    (m₁.step e).isSome = (m₂.step e).isSome := by
  cases e with
  | arrive r time => rfl
  | ask i view limit =>
    simp only [step, h.hearings]
    cases m₂.hearings[i]? with
    | none => rfl
    | some hearing =>
      simp only [Option.bind_eq_bind, Option.bind_some, Hearing.hear]
      cases hearing.plan <;> rfl
  | conclude i =>
    simp only [step, h.hearings]
    cases m₂.hearings[i]? with
    | none => rfl
    | some hearing =>
      simp only [Option.bind_eq_bind, Option.bind_some]
      cases hearing.plan <;> rfl
  | take => cases hvisible
  | attempt reply reached draw => cases hvisible
  | stop => cases hvisible
  | change op => rfl

/-- A run of bookkeeping leaves an office like the other. -/
theorem of_hidden_run (h : Alike m₁ m₂) {es : List Occasion}
    (hhidden : ∀ e ∈ es, e.visible? = none) (hes : es.foldlM step m₁ = some m₁') :
    Alike m₁' m₂ := by
  induction es generalizing m₁ with
  | nil =>
    cases hes
    exact h
  | cons e rest ih =>
    obtain ⟨he, hrest⟩ := List.forall_mem_cons.1 hhidden
    rw [List.foldlM_cons] at hes
    obtain ⟨next, hnext, hlater⟩ := Option.bind_eq_some_iff.1 hes
    exact ih (h.of_hidden he hnext) hrest hlater

/-- Runs that are the same apart from bookkeeping end in like offices. -/
theorem of_run (h : Alike m₁ m₂) {es₁ es₂ : List Occasion}
    (hsame : es₁.filterMap Occasion.visible? = es₂.filterMap Occasion.visible?)
    (hasks : ∀ e ∈ es₁, e.AsksStore) (h₁ : es₁.foldlM step m₁ = some m₁')
    (h₂ : es₂.foldlM step m₂ = some m₂') : Alike m₁' m₂' := by
  induction es₁ generalizing m₁ m₂ es₂ with
  | nil =>
    cases h₁
    have hhidden := List.filterMap_eq_nil_iff.1 hsame.symm
    exact (h.symm.of_hidden_run hhidden h₂).symm
  | cons e rest ih =>
    obtain ⟨he, hrest⟩ := List.forall_mem_cons.1 hasks
    rw [List.foldlM_cons] at h₁
    obtain ⟨next₁, hnext₁, hlater₁⟩ := Option.bind_eq_some_iff.1 h₁
    cases hv : e.visible? with
    | none =>
      rw [List.filterMap_cons_none hv] at hsame
      exact ih (h.of_hidden hv hnext₁) hsame hrest hlater₁ h₂
    | some v =>
      -- The other run does its bookkeeping first, and then the same.
      rw [List.filterMap_cons_some hv] at hsame
      obtain ⟨before, e₂, after, rfl, hbefore, hv₂, hafter⟩ :=
        List.filterMap_eq_cons_iff.1 hsame.symm
      rw [List.foldlM_append] at h₂
      obtain ⟨mid, hmid, h₂⟩ := Option.bind_eq_some_iff.1 h₂
      rw [List.foldlM_cons] at h₂
      obtain ⟨next₂, hnext₂, hlater₂⟩ := Option.bind_eq_some_iff.1 h₂
      have hmiddle := (h.symm.of_hidden_run hbefore hmid).symm
      exact ih (hmiddle.of_visible hv hv₂ he hnext₁ hnext₂) hafter.symm hrest hlater₁ hlater₂

end Alike

/-- Bookkeeping does not influence verdicts. Take any two runs over one store in which the same is
decided and the same is done to the store, in the same order, apart from the counts that snapshots
and rows bring along. Let them differ in the queue, in the retries, in when the writer works or
stops and in the fate of its attempts. Then they come to the same decisions, and can go on with the
same. -/
theorem decisions_of_visible (store : Store) (s₁ s₂ : CounterSettings) (journal : Journal)
    {es₁ es₂ : List Occasion} {m₁ m₂ : Office}
    (hsame : es₁.filterMap Occasion.visible? = es₂.filterMap Occasion.visible?)
    (hasks : ∀ e ∈ es₁, e.AsksStore)
    (h₁ : es₁.foldlM step (.opened s₁ store journal) = some m₁)
    (h₂ : es₂.foldlM step (.opened s₂ store journal) = some m₂) :
    m₁.ledger.map (·.decision) = m₂.ledger.map (·.decision) ∧
      ∀ e, e.visible?.isSome = true → (m₁.step e).isSome = (m₂.step e).isSome := by
  have hopened : Alike (.opened s₁ store journal) (.opened s₂ store journal) :=
    ⟨rfl, rfl, rfl, nofun⟩
  have halike := hopened.of_run hsame hasks h₁ h₂
  exact ⟨halike.decisions, fun _ hvisible => halike.isSome_step hvisible⟩

def bannedRow : BlockRow where
  id := 7
  ip := "::"
  disabled := false
  tally := ⟨3, 40⟩
  description := ""
  details := {}

def bannedStore : Store where
  blacklist := ⟨[bannedRow], .cons nofun .nil⟩

/-- A decision about a row, a reload of the row as it was, and another decision. The writer has its
moments before the reload and at the end. -/
def knocks (before after : List Occasion) : List Occasion :=
  [.arrive ⟨none, "::", "", .unknown⟩ 50, .ask 0 AccessSource.ofStore ⟨0⟩, .conclude 0] ++ before ++
    [.change (.apply { blacklist := [bannedRow] }), .arrive ⟨none, "::", "", .unknown⟩ 60,
      .ask 0 AccessSource.ofStore ⟨0⟩, .conclude 0] ++ after

/-- One writer counts a hit before the reload, and the other tries to after it, and stops. -/
theorem decisions_of_visible_knocks :
    ∃ m₁ m₂ : Office,
      (knocks [.take, .attempt (.ok ()) true 0] []).foldlM step
        (.opened {} bannedStore .empty) = some m₁ ∧
      (knocks [] [.take, .attempt (.error (.timeout ⟨0⟩)) false 0, .stop]).foldlM step
        (.opened { queueCapacity := 0, maxAttempts := 2 } bannedStore .empty) = some m₂ ∧
      m₁.store.tally? .blacklist 7 = some ⟨4, 50⟩ ∧ m₂.store.tally? .blacklist 7 = some ⟨3, 40⟩ ∧
      m₁.ledger.map (·.decision) = m₂.ledger.map (·.decision) := by
  obtain ⟨m₁, hrun₁, hcounted⟩ : ∃ m₁,
      (knocks [.take, .attempt (.ok ()) true 0] []).foldlM step
        (.opened {} bannedStore .empty) = some m₁ ∧
      m₁.store.tally? .blacklist 7 = some ⟨4, 50⟩ := ⟨_, rfl, rfl⟩
  obtain ⟨m₂, hrun₂, hlost⟩ : ∃ m₂,
      (knocks [] [.take, .attempt (.error (.timeout ⟨0⟩)) false 0, .stop]).foldlM step
        (.opened { queueCapacity := 0, maxAttempts := 2 } bannedStore .empty) = some m₂ ∧
      m₂.store.tally? .blacklist 7 = some ⟨3, 40⟩ := ⟨_, rfl, rfl⟩
  have hasks : ∀ e ∈ knocks [.take, .attempt (.ok ()) true 0] [], e.AsksStore := by
    simp [knocks, Occasion.AsksStore]
  have hsame := decisions_of_visible bannedStore {} { queueCapacity := 0, maxAttempts := 2 } .empty
    (by rfl) hasks hrun₁ hrun₂
  exact ⟨m₁, m₂, hrun₁, hrun₂, hcounted, hlost, hsame.1⟩

end Office

end Portcullis
