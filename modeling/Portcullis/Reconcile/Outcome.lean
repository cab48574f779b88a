import Portcullis.Compile.Pass
import Portcullis.Supervision.Supervisor

/-!
# Reconciling

A pass compiles the routing rows and brings the proxy up to date: a proxy that is down is started,
and a running one is told to reload if the files changed or an earlier pass did not reach it.

`Reconciler.pass` is one pass over a compiler and a supervisor; the flag `stale` says that the
files hold something that the proxy has not been shown to load.
-/

namespace Portcullis

open Portcullis.Text
open Portcullis.Telemetry

/-- What came of a pass. -/
inductive Outcome where
  | applied (compiled : Compiled) (started : Bool)
  | unchanged
  | compileFailed (e : CompileError)
  | reloadFailed (e : SupervisorError)
  deriving DecidableEq, Repr

namespace Outcome

def isSuccess : Outcome → Bool
  | applied .. | unchanged => true
  | _ => false

def name : Outcome → String
  | applied .. => "applied"
  | unchanged => "unchanged"
  | compileFailed _ => "compile_failed"
  | reloadFailed _ => "reload_failed"

end Outcome

/-- What the reconciler remembers. -/
structure Reconciler where
  stale : Bool := false
  passes : Nat := 0
  deriving DecidableEq, Repr

/-- What a pass does to the proxy. -/
inductive Remedy where
  | start
  | reload
  | nothing
  deriving DecidableEq, Repr

/-- What a pass has to do after a compilation. -/
def Reconciler.remedy (r : Reconciler) (isRunning changed : Bool) : Remedy :=
  if !isRunning then .start else if !changed && !r.stale then .nothing else .reload

/-- Takes note whether the proxy has been brought up to date. -/
def Reconciler.settle (r : Reconciler) (compiled : Compiled) (started : Bool) :
    Except SupervisorError Unit → Outcome × Reconciler
  | .ok () => (.applied compiled started, { r with stale := false })
  | .error e => (.reloadFailed e, { r with stale := true })

/-- Counts a pass that has ended. -/
def Reconciler.count (r : Reconciler) : Reconciler :=
  { r with passes := r.passes + 1 }

/-- The reconciler with its compiler and its supervisor. -/
structure Control (σ : Type) where
  compiler : Compiler
  reconciler : Reconciler
  station : Station σ

namespace Control

variable {σ : Type} [Browsable σ]

/-- Compiles and keeps what the compiler did. -/
def compile (c : Control σ) (view : Except StoreError Routing) :
    Except CompileError Compiled × Control σ :=
  let (result, compiler, scene) :=
    c.compiler.compile view (⟨c.station.files, c.station.journal⟩ : Scene σ)
  (result,
    { c with
      compiler := compiler
      station := { c.station with files := scene.disk, journal := scene.journal } })

/-- Keeps what an operation on the proxy came to. -/
def settle (c : Control σ) (compiled : Compiled) (started : Bool)
    (result : Except SupervisorError Unit × Station σ) : Outcome × Control σ :=
  let (outcome, reconciler) := c.reconciler.settle compiled started result.1
  (outcome, { c with station := result.2, reconciler := reconciler })

/-- Brings the proxy up to date with what was compiled. -/
def bringUp (c : Control σ) (s : SupervisorSettings) (program : Program) (compiled : Compiled) :
    Outcome × Control σ :=
  match c.reconciler.remedy c.station.supervisor.isRunning compiled.changed with
  | .start => c.settle compiled true (c.station.start s program)
  | .reload => c.settle compiled false (c.station.reload s program)
  | .nothing => (.unchanged, c)

/-- One pass over the routing rows. -/
def pass (c : Control σ) (s : SupervisorSettings) (program : Program)
    (view : Except StoreError Routing) : Outcome × Control σ :=
  let (outcome, c) : Outcome × Control σ :=
    match c.compile view with
    | (.error e, c) => (.compileFailed e, c)
    | (.ok compiled, c) => c.bringUp s program compiled
  (outcome, { c with reconciler := c.reconciler.count })

end Control

end Portcullis
