import Mathlib.Logic.Relation

/-!
# Runs of a machine

A machine does one thing after the other. What can happen is a step that it may take or not, and a
condition says which of these steps may happen when.

* `Runs` are the runs under a condition, and `Runs.invariant` is the induction over them.
-/

namespace Portcullis

variable {S E : Type}

/-- A run in which things happen that a condition allows. -/
def Runs (step : S → E → Option S) (allowed : S → E → Prop) : S → S → Prop :=
  Relation.ReflTransGen fun m m' => ∃ e, allowed m e ∧ step m e = some m'

/-- Anything may happen. -/
def Anything (_ : S) (_ : E) : Prop :=
  True

namespace Runs

variable {f : S → E → Option S} {allowed allowed' : S → E → Prop} {m m' m'' : S}

theorem refl (m : S) : Runs f allowed m m :=
  Relation.ReflTransGen.refl

theorem trans (h : Runs f allowed m m') (h' : Runs f allowed m' m'') :
    Runs f allowed m m'' :=
  Relation.ReflTransGen.trans h h'

theorem step (h : Runs f allowed m m') (e : E) (hallowed : allowed m' e)
    (he : f m' e = some m'') : Runs f allowed m m'' :=
  Relation.ReflTransGen.tail h ⟨e, hallowed, he⟩

theorem one (e : E) (hallowed : allowed m e) (he : f m e = some m') : Runs f allowed m m' :=
  (refl m).step e hallowed he

/-- What every allowed step keeps, a run keeps. -/
theorem invariant {P : S → Prop} (h : Runs f allowed m m') (hm : P m)
    (hstep : ∀ m e m', P m → allowed m e → f m e = some m' → P m') : P m' := by
  induction h with
  | refl => exact hm
  | tail _ hlast ih =>
    obtain ⟨e, hallowed, he⟩ := hlast
    exact hstep _ e _ ih hallowed he

theorem mono (h : Runs f allowed m m') (hallowed : ∀ m e, allowed m e → allowed' m e) :
    Runs f allowed' m m' :=
  Relation.ReflTransGen.mono (fun m _ ⟨e, he, hstep⟩ => ⟨e, hallowed m e he, hstep⟩) m m' h

/-- Events that may always happen make a run, one after the other. -/
theorem of_foldlM {events : List E} (hallowed : ∀ e ∈ events, ∀ m, allowed m e)
    (h : events.foldlM f m = some m') : Runs f allowed m m' := by
  induction events generalizing m with
  | nil =>
    cases h
    exact refl _
  | cons e rest ih =>
    obtain ⟨he, hrest⟩ := List.forall_mem_cons.mp hallowed
    rw [List.foldlM_cons] at h
    obtain ⟨next, hnext, hlater⟩ := Option.bind_eq_some_iff.mp h
    exact (one e (he m) hnext).trans (ih hrest hlater)

/-- Does one thing after the other, as long as a check lets it. -/
def play (f : S → E → Option S) (check : S → E → Bool) (m : S) : List E → Option S
  | [] => some m
  | e :: rest => if check m e then (f m e).bind (play f check · rest) else none

end Runs

end Portcullis
