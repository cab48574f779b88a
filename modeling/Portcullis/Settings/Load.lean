import Portcullis.Settings.Check
import Portcullis.Settings.Record
import Portcullis.Toml.Reader

/-!
# Settings from a file

`Settings.load` reads settings from a TOML file.  What it gives can be run with: settings with
complaints are refused as a whole, with all of the complaints.
-/

namespace Portcullis

open Portcullis.Text

/-- Why there are no settings to run with. -/
inductive SettingsError where
  | io (path : String) (fault : Fault)
  | unreadable
  | refused (complaints : List Complaint)
  deriving DecidableEq, Repr

def SettingsError.message : SettingsError → String
  | io path f => "failed to read " ++ path ++ ": " ++ f.message
  | unreadable => "parse error: not a document of settings"
  | refused cs => "validation failed: " ++ ", ".intercalate (cs.map Complaint.text)

namespace Settings

/-- The settings, if there is nothing to complain about. -/
def checked (files : Files) (s : Settings) : Except SettingsError Settings :=
  match s.complaints files with
  | [] => .ok s
  | complaints => .error (.refused complaints)

/-- The settings of a TOML document. -/
def parse (files : Files) (text : String) : Except SettingsError Settings :=
  match (Toml.read? text).bind (ofDatum? .toml) with
  | some s => s.checked files
  | none => .error .unreadable

/-- The settings of a file. -/
def load (files : Files) (path : String) : Except SettingsError Settings :=
  match files.read path with
  | .error f => .error (.io path f)
  | .ok bytes =>
    match Utf8.decode? bytes with
    | none => .error (.io path .invalidText)
    | some text => parse files text

end Settings

end Portcullis
