/-!
# File faults

The ways in which a file operation or the start of a program fails, with the number and the
wording that the operating system has for each.
-/

namespace Portcullis

/-- Why a file operation or the start of a program failed. -/
inductive Fault where
  | notFound
  | argumentsTooLong
  | noProgram
  | permissionDenied
  | resourceBusy
  | alreadyExists
  | notADirectory
  | isADirectory
  | invalidArgument
  | nameTooLong
  | directoryNotEmpty
  | nulInName
  | nulInArgument
  | invalidText
  /-- Refused without asking the operating system. -/
  | refused
  deriving DecidableEq, Repr

def Fault.message : Fault → String
  | .notFound => "No such file or directory (os error 2)"
  | .argumentsTooLong => "Argument list too long (os error 7)"
  | .noProgram => "Exec format error (os error 8)"
  | .permissionDenied => "Permission denied (os error 13)"
  | .resourceBusy => "Device or resource busy (os error 16)"
  | .alreadyExists => "File exists (os error 17)"
  | .notADirectory => "Not a directory (os error 20)"
  | .isADirectory => "Is a directory (os error 21)"
  | .invalidArgument => "Invalid argument (os error 22)"
  | .nameTooLong => "File name too long (os error 36)"
  | .directoryNotEmpty => "Directory not empty (os error 39)"
  | .nulInName => "file name contained an unexpected NUL byte"
  | .nulInArgument => "nul byte found in provided data"
  | .invalidText => "stream did not contain valid UTF-8"
  | .refused => "permission denied"

end Portcullis
