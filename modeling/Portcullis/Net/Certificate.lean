import Portcullis.Files.Tree
import Portcullis.Settings.Basic

/-!
# Certificate files

A certificate and its key are two files, and both have to be there before they can be loaded.
-/

namespace Portcullis

/-- What is said of the first file that is missing. -/
def TlsSettings.missing? (s : TlsSettings) (files : Files) : Option String :=
  if !files.isPresent s.certPath then some ("Certificate file not found: " ++ s.certPath)
  else if !files.isPresent s.keyPath then some ("Private key file not found: " ++ s.keyPath)
  else none

end Portcullis
