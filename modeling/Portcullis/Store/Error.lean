import Portcullis.Files.Fault
import Portcullis.Time

/-!
# Store errors

Why the store did not answer.

* Errors of one row leave the rest of the store usable (`isRowLevel`).
* Errors that may go away by themselves are worth another try (`isRetryable`).
-/

namespace Portcullis

open Portcullis.Text

inductive StoreError where
  | unavailable (reason : String)
  | timeout (after : Span)
  | corrupt (table : String) (id : UInt32) (reason : String)
  | rowNotFound (table : String) (id : UInt32)
  | invalidSnapshot (reason : String)
  | io (fault : Fault)
  deriving DecidableEq, Repr

namespace StoreError

def message : StoreError → String
  | unavailable reason => "data store unavailable: " ++ reason
  | timeout after => "data store lookup timed out after " ++ after.text
  | corrupt table id reason =>
    "corrupt row in " ++ table ++ " (id " ++ Decimal.ofNat id.toNat ++ "): " ++ reason
  | rowNotFound table id => "row " ++ Decimal.ofNat id.toNat ++ " not found in " ++ table
  | invalidSnapshot reason => "invalid snapshot: " ++ reason
  | io fault => "data store I/O error: " ++ fault.message

/-- Whether the failure is confined to one row. -/
def isRowLevel : StoreError → Bool
  | corrupt .. | rowNotFound .. => true
  | _ => false

/-- Whether the failure may go away by itself. -/
def isRetryable : StoreError → Bool
  | unavailable _ | timeout _ | io _ => true
  | _ => false

end StoreError

end Portcullis
