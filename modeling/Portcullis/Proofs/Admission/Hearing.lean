import Portcullis.Proofs.Admission.Faults
import Portcullis.Proofs.Store.Tallies

/-!
# Decisions, question by question

Other things happen between the questions of one decision.  A `Hearing` is a decision on its way:
the plan that is left, and the rows that the questions so far have found.

* `Hearing.hear` asks one question.  `Hearing.run_hear` says that asking one source question by
  question comes to what `find` comes to at once.
* `Plan.Tells` says that a plan ends in a finding about the rows that its questions found, and about
  no others.  `tells_plan` says so of every request, and `Hearing.tells_hear` keeps it.
* `Finding.update?_eq`: a finding counts a hit of each of its rows.
-/

namespace Portcullis

/-- The hit of a row on one of the lists. -/
def Roll.update (roll : Roll) (id : UInt32) (time : UInt64) : CounterUpdate :=
  match roll with
  | .blacklist => .block id time
  | .whitelist => .access id time

end Portcullis

namespace Portcullis.Admission

/-! ## Rows -/

/-- A row of an access list, by its list and its id. -/
abbrev RowRef := Roll × UInt32

/-- The row of an access list that an answer returns. -/
def Question.rows : (q : Question) → q.Answer → List RowRef
  | .listener _, _ => []
  | .blacklisted _, found => found.toList.map fun row => (.blacklist, row.id)
  | .whitelisted _, found => found.toList.map fun row => (.whitelist, row.id)

/-- The rows that a finding is about. -/
def Finding.rows : Finding → List RowRef
  | blacklisted id => [(.blacklist, id)]
  | whitelisted id => [(.whitelist, id)]
  | _ => []

/-- A finding counts a hit of each of its rows. -/
theorem Finding.update?_eq (f : Finding) (time : UInt64) :
    (f.update? time).toList = f.rows.map fun (roll, id) => roll.update id time := by
  cases f <;> rfl

/-- The reasons that name a list are those of findings about its rows. -/
theorem Finding.rows_cases (f : Finding) :
    (∃ id, f = .blacklisted id) ∨ (∃ id, f = .whitelisted id) ∨
      (f.decision.reason ≠ .blacklisted ∧ f.decision.reason ≠ .whitelisted ∧ f.rows = []) := by
  cases f with
  | blacklisted id => exact .inl ⟨id, rfl⟩
  | whitelisted id => exact .inr (.inl ⟨id, rfl⟩)
  | _ => exact .inr (.inr ⟨nofun, nofun, rfl⟩)

/-! ## Plans that tell what was found -/

/-- After some rows were found, a plan ends in a finding about these and about what is still found,
and no question is left once a row was found. -/
inductive Plan.Tells : List RowRef → Plan → Prop where
  | done (f : Finding) : Tells f.rows (.done f)
  | ask (q : Question) (next : q.Answer → Plan) (h : ∀ a, Tells (q.rows a) (next a)) :
    Tells [] (.ask q next)

theorem Plan.Tells.rows_eq {rows : List RowRef} {f : Finding} (h : (Plan.done f).Tells rows) :
    rows = f.rows := by
  cases h
  rfl

theorem tells_blacklistPlan (ip : String) : (blacklistPlan ip).Tells [] := by
  apply Plan.Tells.ask
  intro found
  cases found with
  | none => exact .done .notBlacklisted
  | some row => exact .done (.blacklisted row.id)

theorem tells_whitelistPlan (ip : String) : (whitelistPlan ip).Tells [] := by
  apply Plan.Tells.ask
  intro found
  cases found with
  | none => exact .done .notWhitelisted
  | some row => exact .done (.whitelisted row.id)

theorem tells_listenerPlan (ip : String) (id : UInt32) : (listenerPlan ip id).Tells [] := by
  apply Plan.Tells.ask
  intro found
  cases found with
  | none => exact .done (.unknownListener id)
  | some l =>
    dsimp only
    split
    · exact .done .unchecked
    · split
      · exact tells_blacklistPlan ip
      · exact tells_whitelistPlan ip

/-- The plan of a request ends in a finding about the rows that it found. -/
theorem tells_plan (r : Request) : (plan r).Tells [] := by
  unfold plan
  split
  · exact .done .invalidAddress
  · split
    · exact tells_blacklistPlan _
    · split
      · exact tells_blacklistPlan _
      · split
        · exact .done (.outOfRange _)
        · exact tells_listenerPlan _ _

/-! ## Hearings -/

/-- A decision on its way: what is left to ask, how long the questions so far took, and the rows
that they found. A hit will be counted at the given time. -/
structure Hearing where
  request : Request
  time : UInt64
  plan : Plan
  spent : List Span := []
  rows : List RowRef := []

namespace Hearing

/-- A decision before its first question. -/
def opened (r : Request) (time : UInt64) : Hearing :=
  { request := r, time := time, plan := Admission.plan r }

/-- Goes on with an answer, or with an error in its place. -/
def answered (h : Hearing) (q : Question) (next : q.Answer → Plan) :
    Except StoreError q.Answer × Span → Hearing
  | (.ok a, span) =>
    { h with plan := next a, spent := h.spent ++ [span], rows := h.rows ++ q.rows a }
  | (.error e, span) => { h with plan := .done (.failed e), spent := h.spent ++ [span] }

/-- Asks the next question, if there is one. -/
def hear (h : Hearing) (source : AccessSource) (limit : Span) : Option Hearing :=
  match h.plan with
  | .done _ => none
  | .ask q next => some (h.answered q next ((source.reply h.spent.length q).within limit))

variable {h h' : Hearing} {source : AccessSource} {limit : Span}

/-- A source that is asked question by question gives the finding that it gives at once. -/
theorem run_hear (hhear : h.hear source limit = some h') :
    h'.plan.run source limit h'.spent = h.plan.run source limit h.spent := by
  rw [hear] at hhear
  cases hplan : h.plan with
  | done f => rw [hplan] at hhear; cases hhear
  | ask q next =>
    rw [hplan] at hhear
    cases hhear
    rw [Plan.run, Admission.ask]
    rcases (source.reply h.spent.length q).within limit with ⟨e | a, span⟩ <;> rfl

theorem request_opened (r : Request) (time : UInt64) : (opened r time).request = r := by
  simp only [opened]

theorem time_opened (r : Request) (time : UInt64) : (opened r time).time = time := by
  simp only [opened]

/-- A decision that is asked for comes to what `find` comes to. -/
theorem run_opened (source : AccessSource) (limit : Span) (r : Request) (time : UInt64) :
    (opened r time).plan.run source limit (opened r time).spent = find source limit r := by
  rw [find_eq_run]
  simp only [opened]

theorem tells_opened (r : Request) (time : UInt64) :
    (opened r time).plan.Tells (opened r time).rows := by
  simp only [opened]
  exact tells_plan r

/-- What a hearing has found it will tell. -/
theorem tells_hear (htells : h.plan.Tells h.rows) (hhear : h.hear source limit = some h') :
    h'.plan.Tells h'.rows := by
  rw [hear] at hhear
  cases hplan : h.plan with
  | done f => rw [hplan] at hhear; cases hhear
  | ask q next =>
    rw [hplan] at hhear htells
    cases hhear
    generalize hrows : h.rows = rows at htells
    cases htells with
    | ask _ _ hnext =>
      rcases (source.reply h.spent.length q).within limit with ⟨e | a, span⟩
      · show (Plan.done (.failed e)).Tells h.rows
        rw [hrows]
        exact .done (.failed e)
      · show (next a).Tells (h.rows ++ q.rows a)
        rw [hrows]
        exact hnext a

end Hearing

end Portcullis.Admission
