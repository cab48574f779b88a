import Portcullis.Counter.Backoff
import Portcullis.Settings.Basic
import Portcullis.Store.Error
import Portcullis.Telemetry.Event

/-!
# Retrying

An operation of the store is tried again after failures that may go away by themselves, a
bounded number of times, with growing waits between the attempts.

`RetryPolicy.run` threads the state of the operation and tells what became of it, how many calls
were made and how long each wait was.
-/

namespace Portcullis

open Portcullis.Text
open Portcullis.Telemetry

/-- How often to try, and how long to wait in between. -/
structure RetryPolicy where
  maxAttempts : UInt32
  baseDelayMs : UInt64
  maxDelayMs : UInt64
  deriving DecidableEq, Repr

/-- At least one attempt is always made. -/
def CounterSettings.retryPolicy (s : CounterSettings) : RetryPolicy where
  maxAttempts := max s.maxAttempts 1
  baseDelayMs := s.baseDelayMs
  maxDelayMs := s.maxDelayMs

/-- What became of a retried operation: its value or its last error, the calls made, and the waits
between them in milliseconds. -/
structure Attempts (α : Type) where
  result : Except StoreError α
  calls : Nat
  waits : List UInt64
  notes : List Event

namespace RetryPolicy

/-- The wait before a retry, counted from one. -/
def delay (p : RetryPolicy) (retry : Nat) (draw : Nat) : UInt64 :=
  Backoff.delay retry.toUInt32 p.baseDelayMs p.maxDelayMs draw

def retrying (attempt : Nat) (wait : UInt64) (e : StoreError) : Event :=
  ⟨.retries, .debug, "Retrying store write",
    [("attempt", Decimal.ofNat attempt), ("delay_ms", Decimal.ofNat wait.toNat),
      ("error", e.message)]⟩

/-- Runs an operation from its `attempt`-th call on, when `left` more calls may follow this one. -/
def runFrom (p : RetryPolicy) (draw : Nat → Nat) (op : σ → Except StoreError α × σ)
    (attempt : Nat) : Nat → σ → Attempts α × σ
  | 0, s =>
    let (result, s) := op s
    (⟨result, attempt, [], []⟩, s)
  | left + 1, s =>
    match op s with
    | (.ok a, s) => (⟨.ok a, attempt, [], []⟩, s)
    | (.error e, s) =>
      if e.isRetryable then
        let wait := p.delay attempt (draw attempt)
        let (rest, s) := p.runFrom draw op (attempt + 1) left s
        ({ rest with waits := wait :: rest.waits, notes := retrying attempt wait e :: rest.notes },
          s)
      else (⟨.error e, attempt, [], []⟩, s)

/-- Runs an operation until it succeeds, fails for good, or attempts run out. -/
def run (p : RetryPolicy) (draw : Nat → Nat) (op : σ → Except StoreError α × σ) (s : σ) :
    Attempts α × σ :=
  p.runFrom draw op 1 (p.maxAttempts.toNat - 1) s

end RetryPolicy

end Portcullis
