/-!
# Phases of the proxy's life

A proxy is started, runs, reloads and is stopped, and may crash at any time while it runs.
-/

namespace Portcullis

/-- The phase that the proxy process is in. -/
inductive Phase where
  | stopped
  | starting
  | running
  | reloading
  | stopping
  | crashed
  deriving DecidableEq, Repr

namespace Phase

def all : List Phase :=
  [stopped, starting, running, reloading, stopping, crashed]

def name : Phase → String
  | stopped => "stopped"
  | starting => "starting"
  | running => "running"
  | reloading => "reloading"
  | stopping => "stopping"
  | crashed => "crashed"

/-- The value of a phase as a gauge. -/
def code : Phase → Nat
  | stopped => 0
  | starting => 1
  | running => 2
  | reloading => 3
  | stopping => 4
  | crashed => 5

/-- Whether the proxy serves in a phase. -/
def isLive : Phase → Bool
  | running | reloading => true
  | _ => false

/-- Whether no process is owned in a phase. -/
def isDown : Phase → Bool
  | stopped | crashed => true
  | _ => false

/-- The phase after the process has exited. -/
def afterExit : Phase → Phase
  | running | reloading => crashed
  | stopping => stopped
  | p => p

end Phase

end Portcullis
