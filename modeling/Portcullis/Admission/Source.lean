import Portcullis.Admission.Decision

/-!
# Unreliable sources

A store that admission asks may answer late or not at all.  `AccessSource.spoiled` makes such a
source from a reliable one: a fault takes the place of an answer, and a delay that of its time.
-/

namespace Portcullis.Admission

/-- The answer of a question with its fault, if it has one. -/
def Reply.spoiled (fault : Option StoreError) (delay : Option Span) (r : Reply α) : Reply α where
  result :=
    match fault with
    | some e => .error e
    | none => r.result
  delay := delay

/-- A source where each question, by the number of those before it, may have a fault, and all
answers take the same time. -/
def AccessSource.spoiled (source : AccessSource) (fault : Nat → Option StoreError)
    (delay : Option Span) : AccessSource where
  listener n id := (source.listener n id).spoiled (fault n) delay
  blacklisted n ip := (source.blacklisted n ip).spoiled (fault n) delay
  whitelisted n ip := (source.whitelisted n ip).spoiled (fault n) delay

end Portcullis.Admission
