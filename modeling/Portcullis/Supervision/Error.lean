import Portcullis.Files.Fault
import Portcullis.Supervision.Phase
import Portcullis.Time

/-!
# Why an operation on the proxy fails
-/

namespace Portcullis

open Portcullis.Text

inductive SupervisorError where
  | binaryNotFound (path : String)
  | spawn (fault : Fault)
  | probeTimeout (after : Span)
  | exitedDuringStartup (code : Option Int)
  | invalidState (operation : String) (phase : Phase)
  | configTest (stderr : String)
  | signal (reason : String)
  | stopTimeout (after : Span)
  deriving DecidableEq, Repr

/-- An exit code in a message; a process that a signal ended has none. -/
def exitCodeText : Option Int → String
  | some n => "Some(" ++ Decimal.ofInt n ++ ")"
  | none => "None"

def SupervisorError.message : SupervisorError → String
  | .binaryNotFound path => "proxy binary not found: " ++ path
  | .spawn f => "failed to spawn proxy: " ++ f.message
  | .probeTimeout t => "proxy did not become live within " ++ t.text
  | .exitedDuringStartup code =>
    "proxy exited during startup (exit code " ++ exitCodeText code ++ ")"
  | .invalidState operation phase => "cannot " ++ operation ++ " while " ++ phase.name
  | .configTest stderr => "proxy configuration test failed: " ++ stderr
  | .signal reason => "failed to signal proxy: " ++ reason
  | .stopTimeout t => "proxy did not exit within " ++ t.text ++ " and was killed"

end Portcullis
