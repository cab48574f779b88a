import Portcullis.Compile.Binding

/-!
# Rows that cannot be read

A source of routes may fail at every question.  This module says what a failure does to the
resolution of a listener's routes.

* `RouteSource.lenient` is a source in which a row that is corrupt or gone is missing.
* `StreamRoute.failure?` and `HttpRoute.failure?` are the failures that a route meets, with the
  questions in the order in which they are asked.
* `outcome_resolveStream` and `outcome_resolveHttp` say that routes resolve as in the lenient
  source, reports apart.
* `fst_resolveStream` and `fst_resolveHttp` say that the first failure that a route meets ends the
  resolution, and nothing else does.
-/

namespace Portcullis

/-! ## Sources without unreadable rows -/

/-- The answer to a question about one row. A row that is corrupt or gone is missing. -/
def absentIfUnreadable (reply : Except StoreError (Option α)) : Except StoreError (Option α) :=
  match reply with
  | .error (.corrupt ..) | .error (.rowNotFound ..) => .ok none
  | reply => reply

/-- The failure that an answer is. -/
def failureOf (reply : Except StoreError α) : Option StoreError :=
  match reply with
  | .ok _ => none
  | .error e => some e

/-- A source in which rows that cannot be read are missing. -/
def RouteSource.lenient (source : RouteSource) : RouteSource :=
  { source with
    domain? := fun id => absentIfUnreadable (source.domain? id)
    sshPort? := fun id => absentIfUnreadable (source.sshPort? id) }

/-- The failure that a stream route meets. An ssh port is asked for only if the domain is there. -/
def StreamRoute.failure? (source : RouteSource) (x : StreamRoute) : Option StoreError :=
  match source.lenient.domain? x.domainId with
  | .error e => some e
  | .ok none => none
  | .ok (some _) =>
    match x.destination with
    | .backend | .listener => none
    | .sshLocal | .sshRemote => failureOf (source.lenient.sshPort? x.sshPortId)

/-- The failure that an http route meets. -/
def HttpRoute.failure? (source : RouteSource) (x : HttpRoute) : Option StoreError :=
  failureOf (source.lenient.domain? x.domainId)

/-- What comes of resolving routes, apart from the reports: the failure that ends it, what is bound,
and how many routes are left out. -/
def Resolution.outcome (x : Option StoreError × Resolution β) : Option StoreError × List β × Nat :=
  (x.1, x.2.bindings, x.2.skipped)

open Resolution

/-! ## One route -/

theorem absentIfUnreadable_idem (reply : Except StoreError (Option α)) :
    absentIfUnreadable (absentIfUnreadable reply) = absentIfUnreadable reply := by
  cases reply with
  | ok found => rfl
  | error e => cases e <;> rfl

/-- What one question finds is what the lenient answer says. -/
theorem binding_readRow (what : String) (id : UInt32) (reply : Except StoreError (Option α)) :
    (readRow what id reply).map Fate.binding = absentIfUnreadable reply := by
  cases reply with
  | ok found => rfl
  | error e => cases e <;> rfl

/-- Reading a lenient answer finds nothing new. -/
theorem binding_readRow_lenient (what : String) (id : UInt32)
    (reply : Except StoreError (Option α)) :
    (readRow what id (absentIfUnreadable reply)).map Fate.binding =
      (readRow what id reply).map Fate.binding := by
  rw [binding_readRow, binding_readRow, absentIfUnreadable_idem]

/-- Reports of a first question do not change what comes of the rest. -/
theorem binding_bind_congr {m m' : Except StoreError (Fate α)}
    {k k' : Fate α → Except StoreError (Fate β)} (hm : m.map Fate.binding = m'.map Fate.binding)
    (hk : ∀ x x', x.binding = x'.binding → (k x).map Fate.binding = (k' x').map Fate.binding) :
    (m >>= k).map Fate.binding = (m' >>= k').map Fate.binding := by
  cases m with
  | error e =>
    cases m' with
    | error e' =>
      obtain rfl : e = e' := Except.error.inj hm
      rfl
    | ok x' => cases hm
  | ok x =>
    cases m' with
    | error e' => cases hm
    | ok x' => exact hk x x' (Except.ok.inj hm)

/-- A stream route leads where it leads in the lenient source. -/
theorem StreamRoute.binding_target? (source : RouteSource) (ls : List Listener)
    (x : StreamRoute) :
    (x.target? source.lenient ls).map Fate.binding = (x.target? source ls).map Fate.binding := by
  unfold StreamRoute.target?
  cases x.destination with
  | backend | listener => rfl
  | sshLocal | sshRemote =>
    refine binding_bind_congr (binding_readRow_lenient _ _ _) fun row row' hrow => ?_
    rw [hrow]
    rfl

/-- A stream route binds what it binds in the lenient source. -/
theorem StreamRoute.binding_resolve (source : RouteSource) (ls : List Listener) (lead : String)
    (id : UInt32) (x : StreamRoute) :
    (x.resolve source.lenient ls lead id).map Fate.binding =
      (x.resolve source ls lead id).map Fate.binding := by
  unfold StreamRoute.resolve
  refine binding_bind_congr (binding_readRow_lenient _ _ _) fun d d' hd => ?_
  rw [hd]
  cases d'.binding with
  | none => rfl
  | some domain =>
    refine binding_bind_congr (x.binding_target? source ls) fun t t' ht => ?_
    rw [ht]
    cases t'.binding <;> rfl

/-- An http route binds what it binds in the lenient source. -/
theorem HttpRoute.binding_resolve (source : RouteSource) (id : UInt32) (x : HttpRoute) :
    (x.resolve source.lenient id).map Fate.binding = (x.resolve source id).map Fate.binding := by
  unfold HttpRoute.resolve
  refine binding_bind_congr (binding_readRow_lenient _ _ _) fun d d' hd => ?_
  rw [hd]
  cases d'.binding <;> rfl

/-- Where what follows a question cannot fail, only the question can. -/
theorem failureOf_bind {m : Except StoreError α} {k : α → Except StoreError β}
    (hk : ∀ a, failureOf (k a) = none) : failureOf (m >>= k) = failureOf m := by
  cases m with
  | error e => rfl
  | ok a => exact hk a

theorem failureOf_map (f : α → β) (m : Except StoreError α) :
    failureOf (m.map f) = failureOf m := by
  cases m <;> rfl

/-- Asking for a row fails as the lenient answer does. -/
theorem failureOf_readRow (what : String) (id : UInt32) (reply : Except StoreError (Option α)) :
    failureOf (readRow what id reply) = failureOf (absentIfUnreadable reply) := by
  rw [← binding_readRow what id, failureOf_map]

/-- Asking where a stream route leads fails only at an ssh port. -/
theorem StreamRoute.failureOf_target? (source : RouteSource) (ls : List Listener)
    (x : StreamRoute) :
    failureOf (x.target? source ls) =
      match x.destination with
      | .backend | .listener => none
      | .sshLocal | .sshRemote => failureOf (source.lenient.sshPort? x.sshPortId) := by
  unfold StreamRoute.target?
  cases x.destination with
  | backend | listener => rfl
  | sshLocal | sshRemote =>
    rw [failureOf_bind fun _ => rfl, failureOf_readRow]
    rfl

/-- A stream route fails to resolve exactly with the failure that it meets. -/
theorem StreamRoute.failureOf_resolve (source : RouteSource) (ls : List Listener) (lead : String)
    (id : UInt32) (x : StreamRoute) :
    failureOf (x.resolve source ls lead id) = x.failure? source := by
  unfold StreamRoute.resolve StreamRoute.failure?
  have hdomain := binding_readRow "domain" x.domainId (source.domain? x.domainId)
  rw [show source.lenient.domain? x.domainId = absentIfUnreadable (source.domain? x.domainId)
    from rfl, ← hdomain]
  cases readRow "domain" x.domainId (source.domain? x.domainId) with
  | error e => rfl
  | ok found =>
    obtain ⟨binding, notes⟩ := found
    cases binding with
    | none => rfl
    | some d =>
      show failureOf (x.target? source ls >>= _) = _
      rw [failureOf_bind fun t => by cases t.binding <;> rfl, failureOf_target?]
      rfl

/-- An http route fails to resolve exactly with the failure that it meets. -/
theorem HttpRoute.failureOf_resolve (source : RouteSource) (id : UInt32) (x : HttpRoute) :
    failureOf (x.resolve source id) = x.failure? source := by
  unfold HttpRoute.resolve
  rw [failureOf_bind fun d => by cases d.binding <;> rfl, failureOf_readRow]
  rfl

/-! ## All routes of a listener -/

/-- What comes of routes does not depend on what is reported of each. -/
theorem outcome_resolveEach {f g : α → Except StoreError (Fate β)}
    (h : ∀ a, (f a).map Fate.binding = (g a).map Fate.binding) (rows : List α) :
    outcome (resolveEach f rows) = outcome (resolveEach g rows) := by
  induction rows with
  | nil => rfl
  | cons a rest ih =>
    have ha := h a
    rw [resolveEach, resolveEach]
    cases hf : f a with
    | error e =>
      cases hg : g a with
      | error e' =>
        rw [hf, hg] at ha
        obtain rfl : e = e' := Except.error.inj ha
        rfl
      | ok y => rw [hf, hg] at ha; cases ha
    | ok x =>
      cases hg : g a with
      | error e' => rw [hf, hg] at ha; cases ha
      | ok y =>
        rw [hf, hg] at ha
        have hbinding : x.binding = y.binding := Except.ok.inj ha
        simp only [outcome, Prod.mk.injEq] at ih
        simp only [outcome, Resolution.cons, hbinding, ih]

/-- Routes resolve up to the first of them that fails. -/
theorem fst_resolveEach (resolve : α → Except StoreError (Fate β)) (rows : List α) :
    (resolveEach resolve rows).1 = rows.findSome? fun a => failureOf (resolve a) := by
  induction rows with
  | nil => rfl
  | cons a rest ih =>
    rw [resolveEach, List.findSome?_cons]
    cases resolve a with
    | error e => rfl
    | ok fate => exact ih

section Listener

variable (source : RouteSource) (ls : List Listener) (lead : String) (l : Listener)

/-- The routes of a stream listener resolve as in the lenient source. -/
theorem outcome_resolveStream :
    outcome (resolveStream source.lenient ls lead l) =
      outcome (resolveStream source ls lead l) := by
  unfold resolveStream
  rw [show source.lenient.streamRoutesOf l.id = source.streamRoutesOf l.id from rfl]
  cases source.streamRoutesOf l.id with
  | error e => rfl
  | ok routes => exact outcome_resolveEach (StreamRoute.binding_resolve source ls lead l.id) _

/-- The routes of an http listener resolve as in the lenient source. -/
theorem outcome_resolveHttp :
    outcome (resolveHttp source.lenient l) = outcome (resolveHttp source l) := by
  unfold resolveHttp
  rw [show source.lenient.httpRoutesOf l.id = source.httpRoutesOf l.id from rfl]
  cases source.httpRoutesOf l.id with
  | error e => rfl
  | ok routes => exact outcome_resolveEach (HttpRoute.binding_resolve source l.id) _

/-- The first failure that a route meets ends the resolution of a stream listener's routes. -/
theorem fst_resolveStream {routes : List StreamRoute}
    (h : source.streamRoutesOf l.id = .ok routes) :
    (resolveStream source ls lead l).1 =
      (routes.mergeSort StreamRoute.before).findSome? (·.failure? source) := by
  unfold resolveStream
  simp only [h, fst_resolveEach, StreamRoute.failureOf_resolve]

/-- The first failure that a route meets ends the resolution of an http listener's routes. -/
theorem fst_resolveHttp {routes : List HttpRoute} (h : source.httpRoutesOf l.id = .ok routes) :
    (resolveHttp source l).1 = (routes.mergeSort byId).findSome? (·.failure? source) := by
  unfold resolveHttp
  simp only [h, fst_resolveEach, HttpRoute.failureOf_resolve]

end Listener

end Portcullis
