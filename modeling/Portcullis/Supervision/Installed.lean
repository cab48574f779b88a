import Portcullis.Files.Deed
import Portcullis.Supervision.Process

/-!
# Installed programs

A program is run by the path of its binary.  `Installed.launch` says what becomes of an attempt:
the path may lead to the program, to something that cannot be run, or to nothing.

A binary without a slash in it is a bare name, which is looked up among the commands of the
system, none of which is a proxy.
-/

namespace Portcullis

/-- A program as a file. -/
structure Installed where
  /-- Where the file is, unless it has been taken away. -/
  place : Option Location
  content : List UInt8
  isExecutable : Bool

namespace Installed

/-- The least length of an argument that is too long, in bytes. -/
def maxArgument : Nat := 131072

/-- What a bare name leads to. Only directories have the names that every directory holds. -/
def lookUp (files : Files) (name : String) : Fault :=
  if name == "." || name == ".." then .permissionDenied
  else
    match files.find name with
    | .error f => f
    | .ok _ => .notFound

/-- Why a binary cannot be run, if it cannot. -/
def binaryFault? (p : Installed) (files : Files) (binary : String) : Option Fault :=
  if '/' ∉ binary.toList then some (lookUp files binary)
  else
    match files.find binary with
    | .error f => some f
    | .ok (_, .directory) => some .permissionDenied
    | .ok (place, .file content) =>
      if p.place ≠ some place || !p.isExecutable then some .permissionDenied
      else if content ≠ p.content then some .noProgram
      else none

/-- Runs a binary with arguments, where a run of the program amounts to `a`. -/
def launch (p : Installed) (files : Files) (binary : String) (arguments : List String) (a : α) :
    Except Fault α :=
  if (binary :: arguments).any fun word => '\x00' ∈ word.toList then .error .nulInArgument
  else
    match p.binaryFault? files binary with
    | some f => .error f
    | none =>
      if arguments.any fun word => maxArgument ≤ word.utf8ByteSize then .error .argumentsTooLong
      else .ok a

/-- The program after a change of files. -/
def after (p : Installed) (files : Files) (d : Deed) : Installed :=
  { p with place := p.place.bind (files.follow d) }

end Installed

end Portcullis
