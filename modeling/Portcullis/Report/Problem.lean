import Portcullis.Compile.Error
import Portcullis.Datum.Basic
import Portcullis.Settings.Load
import Portcullis.Supervision.Error

/-!
# Failures as records

Every error as a record for machine readers: its kind under `error`, and under `message` its
text, where that does not depend on a parser's wording or on the operating system.
-/

namespace Portcullis

/-- A failure of a kind, with what else is known of it. -/
def problem (kind : String) (more : List (String × Datum)) : Datum :=
  .object (("error", .text kind) :: more)

/-- A failure of a kind with a text. -/
def explained (kind message : String) : Datum :=
  problem kind [("message", .text message)]

/-- The name of a kind of fault. -/
def Fault.name : Fault → String
  | .notFound => "NotFound"
  | .argumentsTooLong => "ArgumentListTooLong"
  | .noProgram => "Uncategorized"
  | .permissionDenied | .refused => "PermissionDenied"
  | .resourceBusy => "ResourceBusy"
  | .alreadyExists => "AlreadyExists"
  | .notADirectory => "NotADirectory"
  | .isADirectory => "IsADirectory"
  | .invalidArgument => "InvalidInput"
  | .nameTooLong => "InvalidFilename"
  | .directoryNotEmpty => "DirectoryNotEmpty"
  | .nulInName | .nulInArgument => "InvalidInput"
  | .invalidText => "InvalidData"

def Fault.field (f : Fault) : String × Datum :=
  ("io", .text f.name)

def Fault.toDatum (f : Fault) : Datum :=
  problem "Io" [f.field]

def Proxy.Rejection.kind : Proxy.Rejection → String
  | .invalidPort _ => "InvalidPort"
  | .duplicateKey .. => "DuplicateMapKey"
  | .duplicateDefault .. => "DuplicateDefault"
  | .duplicateMap _ => "DuplicateMap"
  | .empty _ => "Empty"

def Proxy.Rejection.toDatum (r : Proxy.Rejection) : Datum :=
  explained r.kind r.message

def StoreError.toDatum (e : StoreError) : Datum :=
  match e with
  | .unavailable _ => explained "Unavailable" e.message
  | .timeout _ => explained "Timeout" e.message
  | .corrupt .. => explained "Corrupt" e.message
  | .rowNotFound .. => explained "RowNotFound" e.message
  | .invalidSnapshot _ => problem "Snapshot" []
  | .io f => f.toDatum

def WriteFault.toDatum (f : WriteFault) : Datum :=
  problem "Write" [("path", .text f.path), f.fault.field]

def CompileError.toDatum (e : CompileError) : Datum :=
  match e with
  | .invalid r => problem "Invalid" [("cause", r.toDatum), ("message", .text e.message)]
  | .store s => problem "Store" [("cause", s.toDatum)]
  | .write f => f.toDatum

def SupervisorError.toDatum (e : SupervisorError) : Datum :=
  match e with
  | .binaryNotFound _ => explained "BinaryNotFound" e.message
  | .spawn f => problem "Spawn" [f.field]
  | .probeTimeout _ => explained "ProbeTimeout" e.message
  | .exitedDuringStartup _ => explained "ExitedDuringStartup" e.message
  | .invalidState .. => explained "InvalidState" e.message
  | .configTest _ => explained "ConfigTest" e.message
  | .signal _ => explained "Signal" e.message
  | .stopTimeout _ => explained "StopTimeout" e.message

def Complaint.toDatum (c : Complaint) : Datum :=
  .object [("field", .text c.field), ("message", .text c.message), ("text", .text c.text)]

/-- The complaints about settings. -/
def complaintsField (cs : List Complaint) : String × Datum :=
  ("errors", .list (cs.map Complaint.toDatum))

def SettingsError.toDatum (e : SettingsError) : Datum :=
  match e with
  | .io path f => problem "Io" [("path", .text path), f.field]
  | .unreadable => problem "Parse" []
  | .refused cs => problem "Validation" [complaintsField cs, ("message", .text e.message)]

/-- Nothing where an operation succeeded, and its failure otherwise. -/
def failure (encode : ε → Datum) : Except ε α → Datum
  | .ok _ => .null
  | .error e => encode e

end Portcullis
