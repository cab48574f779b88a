import Mathlib.Order.Bounds.Basic
import Portcullis.Supervision.Process

/-!
# What polling can see

A new process is polled until it has exited or is live, and a deadline may cut the polling off.

* `Ends` is the loop, which on its own has no bound: sleep for an interval, look, and go on as long
  as there is nothing to see.
* `ends_wait` says that a wait is what the loop comes to, by induction on the polls that fit before
  the deadline.
* `Ends.cases_first` says what the loop comes to, by induction on the loop: the first poll that
  sees anything decides, unless it is later than the deadline.
* `wait_decides` is the main result.
-/

namespace Portcullis.Probe

/-! ## The loop -/

/-- Polling from a time on, after each interval, while there is nothing to see. The deadline ends
it during a sleep that would last longer. -/
inductive Ends (find : Nat → Option Probe) (interval deadline : Nat) : Nat → Probe × Span → Prop
    where
  | late {time : Nat} (hlate : deadline < time + interval) :
      Ends find interval deadline time (.timedOut, ⟨deadline⟩)
  | found {time : Nat} {p : Probe} (htime : time + interval ≤ deadline)
      (hfind : find (time + interval) = some p) :
      Ends find interval deadline time (p, ⟨time + interval⟩)
  | again {time : Nat} {outcome : Probe × Span} (htime : time + interval ≤ deadline)
      (hfind : find (time + interval) = none)
      (hrest : Ends find interval deadline (time + interval) outcome) :
      Ends find interval deadline time outcome

section Loop

variable {find : Nat → Option Probe} {interval deadline : Nat}

/-- The polls that fit before the deadline are those that the loop makes. -/
theorem ends_poll (find : Nat → Option Probe) {polls time : Nat}
    (hfits : time + polls * interval ≤ deadline)
    (hall : deadline < time + (polls + 1) * interval) :
    Ends find interval deadline time
      (match poll find interval polls (time + interval) with
        | some (p, moment) => (p, ⟨moment⟩)
        | none => (.timedOut, ⟨deadline⟩)) := by
  induction polls generalizing time with
  | zero =>
    rw [poll]
    exact .late (by omega)
  | succ polls ih =>
    rw [Nat.succ_mul] at hfits hall
    have htime : time + interval ≤ deadline := by
      have := Nat.zero_le (polls * interval)
      omega
    rw [poll]
    cases hfind : find (time + interval) with
    | some p => exact .found htime hfind
    | none =>
      refine .again htime hfind (ih ?_ ?_)
      · omega
      · omega

/-- The loop ends at the first poll that sees anything, and at the deadline if that comes first. -/
theorem Ends.cases_first {polls : Nat} {outcome : Probe × Span}
    (h : Ends find interval deadline (polls * interval) outcome)
    (hbefore : ∀ j, 0 < j → j ≤ polls → find (j * interval) = none) :
    (∃ k, IsLeast {k | 0 < k ∧ find (k * interval) ≠ none} k ∧ k * interval ≤ deadline ∧
      find (k * interval) = some outcome.1 ∧ outcome.2 = ⟨k * interval⟩) ∨
    (∀ k, 0 < k → k * interval ≤ deadline → find (k * interval) = none) ∧
      outcome = (.timedOut, ⟨deadline⟩) := by
  generalize htime : polls * interval = time at h
  induction h generalizing polls with
  | late hlate =>
    right
    refine ⟨?_, rfl⟩
    intro k hk hdeadline
    have hpolls : k < polls + 1 := by
      have hproducts : k * interval < (polls + 1) * interval := by
        rw [Nat.succ_mul]
        omega
      exact Nat.lt_of_mul_lt_mul_right hproducts
    exact hbefore k hk (by omega)
  | @found time p hdeadline hfind =>
    rw [← htime, ← Nat.succ_mul] at hdeadline hfind ⊢
    left
    refine ⟨polls + 1, ⟨⟨by omega, ?_⟩, ?_⟩, hdeadline, hfind, rfl⟩
    · rw [hfind]
      exact Option.some_ne_none p
    · intro k hk
      by_contra hless
      exact hk.2 (hbefore k hk.1 (by omega))
  | @again time outcome _ hfind _ ih =>
    rw [← htime, ← Nat.succ_mul] at hfind
    have hnext : (polls + 1) * interval = time + interval := by rw [Nat.succ_mul, htime]
    refine ih ?_ hnext
    intro j hj hle
    rcases Nat.lt_or_eq_of_le hle with hlt | heq
    · exact hbefore j hj (by omega)
    · rw [heq]
      exact hfind

end Loop

/-! ## Waiting -/

section Wait

variable {exits : Option (Span × ExitCode)} {isPresent : Nat → Bool} {interval deadline : Span}

/-- A wait is what the loop comes to, so that the loop always ends. -/
theorem ends_wait (exits : Option (Span × ExitCode)) (isPresent : Nat → Bool) (deadline : Span)
    (hinterval : 0 < interval.nanos) :
    Ends (look exits isPresent) interval.nanos deadline.nanos 0
      (wait exits isPresent interval deadline) := by
  have hfits := Nat.div_mul_le_self deadline.nanos interval.nanos
  have hall : deadline.nanos < (deadline.nanos / interval.nanos + 1) * interval.nanos := by
    rw [Nat.succ_mul]
    exact Nat.lt_div_mul_add hinterval
  rw [← Nat.zero_add (_ * _)] at hfits hall
  have hends := ends_poll (look exits isPresent) hfits hall
  rw [Nat.zero_add] at hends
  exact hends

/-- There is nothing to see as long as a process has neither exited nor written its pid file. -/
theorem look_eq_none_iff {time : Nat} :
    look exits isPresent time = none ↔ dueBy exits time = none ∧ isPresent time = false := by
  unfold look see
  cases dueBy exits time with
  | some code => exact iff_of_false (Option.some_ne_none _) (fun h => nomatch h.1)
  | none => cases isPresent time <;> decide

/-- Whether the pid file, if there has to be one, is there at a time. -/
def presence (pidFile : Option (Nat → Bool)) (time : Nat) : Bool :=
  pidFile.all (· time)

/-- A poll decides: at its time the process has exited, or its pid file is there. -/
def Decides (exits : Option (Span × ExitCode)) (isPresent : Nat → Bool) (interval : Span)
    (k : Nat) : Prop :=
  0 < k ∧ ((dueBy exits (k * interval.nanos)).isSome ∨ isPresent (k * interval.nanos) = true)

instance (k : Nat) : Decidable (Decides exits isPresent interval k) :=
  inferInstanceAs (Decidable (_ ∧ _))

theorem decides_iff {k : Nat} :
    Decides exits isPresent interval k ↔
      0 < k ∧ look exits isPresent (k * interval.nanos) ≠ none := by
  rw [Decides, ne_eq, look_eq_none_iff, not_and_or, Bool.not_eq_false, Option.isSome_iff_ne_none]

/-- A wait ends at the first poll that decides, and at the deadline if that comes first. -/
theorem wait_cases (exits : Option (Span × ExitCode)) (isPresent : Nat → Bool) (deadline : Span)
    (hinterval : 0 < interval.nanos) :
    (∃ k, IsLeast {k | Decides exits isPresent interval k} k ∧
      k * interval.nanos ≤ deadline.nanos ∧
      look exits isPresent (k * interval.nanos) =
        some (wait exits isPresent interval deadline).1 ∧
      (wait exits isPresent interval deadline).2 = ⟨k * interval.nanos⟩) ∨
    (∀ k, Decides exits isPresent interval k → deadline.nanos < k * interval.nanos) ∧
      wait exits isPresent interval deadline = (.timedOut, deadline) := by
  have hends := ends_wait exits isPresent deadline hinterval
  rw [← Nat.zero_mul interval.nanos] at hends
  rcases hends.cases_first (fun j hj hle => by omega) with
    ⟨k, hfirst, hdeadline, hlook, hmoment⟩ | ⟨hnothing, hlate⟩
  · left
    refine ⟨k, ?_, hdeadline, hlook, hmoment⟩
    simpa only [decides_iff] using hfirst
  · right
    refine ⟨?_, hlate⟩
    intro k hk
    rw [decides_iff] at hk
    by_contra hless
    exact hk.2 (hnothing k hk.1 (by omega))

/-- The first poll that decides sees an exit before it sees a pid file. -/
theorem wait_of_first {k : Nat} (hinterval : 0 < interval.nanos)
    (hfirst : IsLeast {k | Decides exits isPresent interval k} k)
    (hdeadline : k * interval.nanos ≤ deadline.nanos) :
    wait exits isPresent interval deadline =
      ((match dueBy exits (k * interval.nanos) with
        | some code => .exited code
        | none => .live), ⟨k * interval.nanos⟩) := by
  rcases wait_cases exits isPresent deadline hinterval with
    ⟨first, hleast, _, hlook, hmoment⟩ | ⟨hnothing, _⟩
  · have hsame : first = k := hleast.unique hfirst
    subst hsame
    refine Prod.ext ?_ hmoment
    unfold look see at hlook
    cases hdue : dueBy exits (first * interval.nanos) with
    | some code =>
      rw [hdue] at hlook
      exact (Option.some.inj hlook).symm
    | none =>
      simp only [hdue] at hlook
      split at hlook
      · exact (Option.some.inj hlook).symm
      · cases hlook
  · have hlate := hnothing k hfirst.1
    omega

/-- The first poll at which the process has exited, or its pid file is there, decides: for the exit
if there is one by then, also if the pid file is there, and else for a live process. Without such a
poll up to the deadline time is up. A process is never called live when it had exited by the poll
that decided, and polling always ends, no later than at the deadline. -/
theorem wait_decides (exits : Option (Span × ExitCode)) (pidFile : Option (Nat → Bool))
    (interval deadline : Span) (hinterval : 0 < interval.nanos) :
    (∀ k, IsLeast {k | Decides exits (presence pidFile) interval k} k →
      k * interval.nanos ≤ deadline.nanos →
        (∀ code, dueBy exits (k * interval.nanos) = some code →
          wait exits (presence pidFile) interval deadline =
            (.exited code, ⟨k * interval.nanos⟩)) ∧
        (dueBy exits (k * interval.nanos) = none →
          wait exits (presence pidFile) interval deadline = (.live, ⟨k * interval.nanos⟩))) ∧
    ((∀ k, Decides exits (presence pidFile) interval k → deadline.nanos < k * interval.nanos) →
      wait exits (presence pidFile) interval deadline = (.timedOut, deadline)) ∧
    ((wait exits (presence pidFile) interval deadline).1 = .live →
      dueBy exits (wait exits (presence pidFile) interval deadline).2.nanos = none) ∧
    Ends (look exits (presence pidFile)) interval.nanos deadline.nanos 0
      (wait exits (presence pidFile) interval deadline) ∧
    (wait exits (presence pidFile) interval deadline).2.nanos ≤ deadline.nanos := by
  have hcases := wait_cases exits (presence pidFile) deadline hinterval
  refine ⟨?_, ?_, ?_, ends_wait exits _ deadline hinterval, ?_⟩
  · intro k hfirst hdeadline
    have hwait := wait_of_first hinterval hfirst hdeadline
    constructor
    · intro code hexit
      rw [hwait, hexit]
    · intro hexit
      rw [hwait, hexit]
  · intro hlater
    rcases hcases with ⟨k, hfirst, hdeadline, _⟩ | ⟨_, hlate⟩
    · have hless := hlater k hfirst.1
      omega
    · exact hlate
  · intro hlive
    rcases hcases with ⟨k, hfirst, hdeadline, _, hmoment⟩ | ⟨_, hlate⟩
    · rw [hmoment]
      cases hexit : dueBy exits (k * interval.nanos) with
      | none => rfl
      | some code =>
        rw [wait_of_first hinterval hfirst hdeadline, hexit] at hlive
        cases hlive
    · rw [hlate] at hlive
      cases hlive
  · rcases hcases with ⟨k, _, hdeadline, _, hmoment⟩ | ⟨_, hlate⟩
    · rw [hmoment]
      exact hdeadline
    · rw [hlate]

/-- A process that writes its pid file and exits between two polls has exited. -/
theorem wait_decides_exited :
    0 < (⟨2⟩ : Span).nanos ∧
      wait (some (⟨5⟩, some 3)) (presence (some fun time => decide (5 ≤ time))) ⟨2⟩ ⟨10⟩ =
        (.exited (some 3), ⟨6⟩) := by
  refine ⟨by decide, ?_⟩
  have hfirst : IsLeast {k | Decides (some (⟨5⟩, some 3))
      (presence (some fun time => decide (5 ≤ time))) ⟨2⟩ k} 3 := by
    constructor
    · show Decides _ _ _ 3
      decide
    · intro k hk
      by_contra hless
      have hbefore : k = 0 ∨ k = 1 ∨ k = 2 := by omega
      rcases hbefore with rfl | rfl | rfl <;> exact absurd hk (by show ¬ Decides _ _ _ _; decide)
  exact ((wait_decides _ _ ⟨2⟩ ⟨10⟩ (by decide)).1 3 hfirst (by decide)).1 _ rfl

end Wait

end Portcullis.Probe
