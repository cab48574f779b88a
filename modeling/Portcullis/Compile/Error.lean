import Portcullis.Files.Staged
import Portcullis.Proxy.Piece
import Portcullis.Store.Error

/-!
# Why a compile pass fails

A pass fails because the routing rows contradict each other, because they cannot be read, or
because a file cannot be written.
-/

namespace Portcullis

inductive CompileError where
  | invalid (rejection : Proxy.Rejection)
  | store (error : StoreError)
  | write (fault : WriteFault)
  deriving DecidableEq, Repr

def CompileError.message : CompileError → String
  | .invalid r => "invalid proxy configuration: " ++ r.message
  | .store e => "failed to read routing state: " ++ e.message
  | .write f => "failed to write " ++ f.path ++ ": " ++ f.fault.message

end Portcullis
