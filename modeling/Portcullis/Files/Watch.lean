import Portcullis.Files.Deed

/-!
# Watching a file

A watch follows one file through the directory that it is in, so that a file that is replaced by
renaming is followed too.

* `Watch.start` needs the directory, but not the file.
* `Watch.fires` tells whether a deed touches the file: it may be written, made as a directory, or
  renamed from or to, but its removal goes unnoticed.
* A watch holds on to the directory that it started with: it moves with it and ends with it, and
  another directory in its old place is none of its business.
-/

namespace Portcullis

/-- A watch of a name in a directory. -/
structure Watch where
  /-- The place of the directory; a file will do, but nothing is ever in it. -/
  place : Location
  name : Option String
  /-- Whether the directory went by the watched name itself, so that what happens to it counts. -/
  isNamesake : Bool
  deriving DecidableEq, Repr

namespace Watch

/-- The path of the directory that a file is in. -/
def directoryPath (path : String) : String :=
  match Path.parent? path with
  | none => "."
  | some up => if up = "" then "." else up

/-- Watches the file that a path names. -/
def start (files : Files) (path : String) : Except Fault Watch :=
  let directory := directoryPath path
  let name := Path.fileName? path
  (files.find directory).map fun (place, _) => ⟨place, name, Path.fileName? directory == name⟩

/-- Whether a place is that of the watched file. -/
def covers (w : Watch) (place : Location) : Bool :=
  match place.getLast? with
  | some last => w.name == some last && place.dropLast == w.place
  | none => false

/-- Whether a deed touches the watched file. -/
def fires (w : Watch) (files : Files) (d : Deed) : Bool :=
  (files.touched d).any w.covers || w.isNamesake && (files.stirred d).contains w.place

/-- The watch after a deed, which ends when its directory goes. -/
def after? (w : Watch) (files : Files) (d : Deed) : Option Watch :=
  (files.follow d w.place).map fun place => { w with place := place }

end Watch

end Portcullis
