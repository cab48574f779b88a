/-!
# Log events

What a part of the system reports about itself: where it happened, how grave it is, a fixed
message, and named details.
-/

namespace Portcullis.Telemetry

inductive Level where
  | error
  | warn
  | info
  | debug
  | trace
  deriving DecidableEq, Repr

namespace Level

def name : Level → String
  | error => "ERROR"
  | warn => "WARN"
  | info => "INFO"
  | debug => "DEBUG"
  | trace => "TRACE"

/-- How much is reported at a level: the graver levels come first. -/
def rank : Level → Nat
  | error => 1
  | warn => 2
  | info => 3
  | debug => 4
  | trace => 5

end Level

/-- The parts of the system that report events. -/
inductive Component where
  | compileRuns
  | compiler
  | compilerStream
  | compilerHttp
  | compilerWriter
  | decision
  | recorder
  | server
  | retries
  | store
  | reconcile
  | supervisor
  | watcher
  | signals
  | startup
  | logging
  | metrics
  deriving DecidableEq, Repr

/-- The path under which a component reports. -/
def Component.path : Component → String
  | compileRuns | compiler => "gatehouse::compiler"
  | compilerStream => "gatehouse::compiler::stream"
  | compilerHttp => "gatehouse::compiler::http"
  | compilerWriter => "gatehouse::compiler::writer"
  | decision => "gatehouse::oracle::decision"
  | recorder => "gatehouse::oracle::recorder"
  | server => "gatehouse::oracle::server"
  | retries => "gatehouse::resilience::retries"
  | store => "gatehouse::store::memory"
  | reconcile => "gatehouse::reconcile"
  | supervisor => "gatehouse::supervisor"
  | watcher => "gatehouse::config::watcher"
  | signals => "gatehouse::lifecycle::signals"
  | startup => "gatehouse::lifecycle::startup"
  | logging => "gatehouse::observability::logging"
  | metrics => "gatehouse::observability::metrics"

/-- A span of work with the events that arise in it. -/
structure Scope where
  path : String
  name : String
  fields : List String

/-- A compile pass. -/
def Scope.compile : Scope where
  path := "gatehouse::compiler"
  name := "compile"
  fields := ["pass_id"]

/-- The span in which the events of a component arise. That a pass failed is reported after it. -/
def Component.scope? : Component → Option Scope
  | compiler | compilerStream | compilerHttp | compilerWriter => some .compile
  | _ => none

/-- One reported event. -/
structure Event where
  component : Component
  level : Level
  message : String
  details : List (String × String)
  deriving DecidableEq, Repr

/-- The texts that an event is shown with. -/
def Event.words (e : Event) : List String :=
  [e.level.name, e.component.path, e.message] ++ e.details.flatMap fun (name, value) => [name, value]

end Portcullis.Telemetry
