/-!
# Following a file

A follower takes up the changes of a file, one reading for all changes that come close together.

* It waits for a change, lets the file rest, forgets the changes that have come meanwhile, and
  then reads.
* A change that comes after the forgetting stays pending, so that no change is left unread.
-/

namespace Portcullis

/-- What a follower is about to do. -/
inductive FollowerStage where
  | waiting
  | resting
  | reading
  deriving DecidableEq, Repr

/-- A follower and the changes that it has not taken note of. -/
structure Follower where
  pending : Nat := 0
  stage : FollowerStage := .waiting
  deriving DecidableEq, Repr

namespace Follower

/-- A change is announced. -/
def notice (f : Follower) : Follower :=
  { f with pending := f.pending + 1 }

/-- Takes note of one change, if one is pending. -/
def receive (f : Follower) : Follower :=
  match f.stage, f.pending with
  | .waiting, n + 1 => ⟨n, .resting⟩
  | _, _ => f

/-- The file has rested: all changes so far are forgotten. -/
def drain (f : Follower) : Follower :=
  match f.stage with
  | .resting => ⟨0, .reading⟩
  | _ => f

/-- The file has been read. -/
def finish (f : Follower) : Follower :=
  match f.stage with
  | .reading => { f with stage := .waiting }
  | _ => f

end Follower

end Portcullis
