import Portcullis.Files.Disk

/-!
# Deeds

What a user of a file system does to it, as data: `Files.perform` does it.  The rest tells what
becomes of single places.

* `Files.touched` names the places that a watcher of the directory above hears of.
* `Files.stirred` names the places that a watcher of the place itself hears of.
* `Files.follow` finds again what stood at a place.
-/

namespace Portcullis

/-- A change that somebody makes to a tree of files. -/
inductive Deed where
  | write (path : String) (content : List UInt8)
  | makeDirs (path : String)
  | remove (path : String)
  | removeAll (path : String)
  | rename (source target : String)
  deriving DecidableEq, Repr

namespace Files

/-- Does a deed. What was done before a failure stays done. -/
def perform (t : Files) : Deed → Except Fault Unit × Files
  | .write path content => Disk.attempt (·.write path content) t
  | .makeDirs path => t.makeDirs path
  | .remove path => Disk.attempt (·.remove path) t
  | .removeAll path => t.removeAll path
  | .rename source target => Disk.attempt (·.rename source target) t

/-- The place that a path leads to, if it leads anywhere. -/
def place? (t : Files) (path : String) : Option Location :=
  (t.find path).toOption.map (·.1)

/-- The places from which and to which a deed moves something. -/
def moved? (t : Files) (d : Deed) : Option (Location × Location) :=
  match d, t.perform d with
  | .rename source target, (.ok (), after) =>
    match t.place? source, after.place? target with
    | some a, some b => if a = b then none else some (a, b)
    | _, _ => none
  | _, _ => none

/-- The places in one tree that are not in another. -/
def newPlaces (before after : Files) : List Location :=
  (after.entries.map (·.1)).filter fun p => (before.entryAt? p).isNone

/-- The files of one tree whose places are empty in another. -/
def lostFiles (before after : Files) : List Location :=
  before.entries.filterMap fun
    | (p, .file _) => if (after.entryAt? p).isNone then some p else none
    | (_, .directory) => none

/-- The file that a deed gives a content. -/
def written? (t : Files) (d : Deed) : Option Location :=
  match d, t.perform d with
  | .write path _, (.ok (), after) => after.place? path
  | _, _ => none

/-- The places that a deed makes, gives a content, or moves something from or to. A place where
something is removed is not among them. -/
def touched (t : Files) (d : Deed) : List Location :=
  match d with
  | .write .. => (t.written? d).toList
  | .makeDirs _ => newPlaces t (t.perform d).2
  | .rename .. => ((t.moved? d).map fun (a, b) => [a, b]).getD []
  | .remove _ | .removeAll _ => []

/-- The places where a deed gives what stood there a content, moves it, puts something over it, or
takes a file away. A directory that is taken away is not among them. -/
def stirred (t : Files) (d : Deed) : List Location :=
  match d with
  | .write .. | .makeDirs _ => (t.written? d).toList
  | .rename .. => t.touched d
  | .remove _ | .removeAll _ => lostFiles t (t.perform d).2

/-- Where a deed leaves what stood at a place, unless that is gone. -/
def follow (t : Files) (d : Deed) (place : Location) : Option Location :=
  match t.moved? d with
  | some (source, target) =>
    if source.isPrefixOf place then some (target ++ place.drop source.length)
    else if place = target then none else some place
  | none => if ((t.perform d).2.entryAt? place).isSome then some place else none

end Files

end Portcullis
