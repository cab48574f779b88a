import Portcullis.Files.Fault
import Portcullis.Files.Path
import Portcullis.Text.Utf8

/-!
# A tree of files

Directories and files by location, with the operations that programs use on them.  There are no
links, so each location has one path through directories.

* `Files.reach` walks a path and says which of its parts cannot be passed.
* `Files.read`, `Files.write`, `Files.makeDir`, `Files.rename`, `Files.remove` and
  `Files.removeDir` act on what a path leads to, or fail with the fault that a system with plain
  path lookup reports.
* `Files.makeDirs` and `Files.removeAll` take many steps and may stop halfway.
* `Files.listing` names everything below a location.
-/

namespace Portcullis

open Portcullis.Text

/-- A place in the tree, by names from the root. -/
abbrev Location := List String

/-- The location that an absolute path spells, read without looking. -/
def Location.ofPath (path : String) : Location :=
  (Path.segments path).filter (· != "")

/-- What stands at a location. -/
inductive Entry where
  | directory
  | file (content : List UInt8)
  deriving DecidableEq, Repr

/-- A tree of files. The root always exists; relative paths start at `workingDir`. -/
structure Files where
  entries : List (Location × Entry)
  workingDir : Location
  deriving Repr

namespace Files

/-- A tree with nothing but its root. -/
def empty : Files :=
  ⟨[], []⟩

def entryAt? (t : Files) (place : Location) : Option Entry :=
  if place = [] then some .directory else t.entries.lookup place

/-- Puts an entry at a location. -/
def put (t : Files) (place : Location) (e : Entry) : Files :=
  if (t.entries.lookup place).isSome then
    { t with entries := t.entries.map fun p => if p.1 = place then (place, e) else p }
  else { t with entries := t.entries ++ [(place, e)] }

/-- Takes away what stands at a location and below it. -/
def cut (t : Files) (place : Location) : Files :=
  { t with entries := t.entries.filter fun p => !place.isPrefixOf p.1 }

/-! ## Walking a path -/

/-- What the last step of a path names. -/
inductive LastStep where
  | root
  | here
  | up
  | name (s : String)
  deriving DecidableEq, Repr

/-- Where a path leads: a directory, a last step from there, and whether a slash follows it. -/
structure Reach where
  directory : Location
  last : LastStep
  slash : Bool

/-- The longest name that an entry may have, in bytes. -/
def maxName : Nat := 255

/-- The least length of a path that is too long, in bytes. -/
def maxPath : Nat := 4096

/-- Passes through directories. -/
def descend (t : Files) (here : Location) : List String → Except Fault Location
  | [] => .ok here
  | "." :: r => descend t here r
  | ".." :: r => descend t here.dropLast r
  | s :: r =>
    if maxName < s.utf8ByteSize then .error .nameTooLong
    else
      match t.entryAt? (here ++ [s]) with
      | none => .error .notFound
      | some (.file _) => .error .notADirectory
      | some .directory => descend t (here ++ [s]) r

def lastStep : String → LastStep
  | "." => .here
  | ".." => .up
  | s => .name s

/-- Walks a path up to its last step. -/
def reach (t : Files) (path : String) : Except Fault Reach :=
  if path = "" then .error .notFound
  else if '\x00' ∈ path.toList then .error .nulInName
  else if maxPath ≤ path.utf8ByteSize then .error .nameTooLong
  else
    let start := if Path.isAbsolute path then [] else t.workingDir
    let steps := (Path.segments path).filter (· != "")
    let slash := path.toList.getLast? == some '/'
    match steps.getLast? with
    | none => .ok ⟨[], .root, slash⟩
    | some s => (t.descend start steps.dropLast).map fun d => ⟨d, lastStep s, slash⟩

/-- What a path leads to. -/
def find (t : Files) (path : String) : Except Fault (Location × Entry) := do
  let r ← t.reach path
  match r.last with
  | .root => return ([], .directory)
  | .here => return (r.directory, .directory)
  | .up => return (r.directory.dropLast, .directory)
  | .name s =>
    if maxName < s.utf8ByteSize then throw .nameTooLong
    let place := r.directory ++ [s]
    match t.entryAt? place with
    | none => throw .notFound
    | some .directory => return (place, .directory)
    | some e => if r.slash then throw .notADirectory else return (place, e)

def isDirectory (t : Files) (path : String) : Bool :=
  match t.find path with
  | .ok (_, .directory) => true
  | _ => false

def isFile (t : Files) (path : String) : Bool :=
  match t.find path with
  | .ok (_, .file _) => true
  | _ => false

def isPresent (t : Files) (path : String) : Bool :=
  (t.find path).isOk

/-! ## Files -/

/-- The content of a file. -/
def read (t : Files) (path : String) : Except Fault (List UInt8) := do
  match ← t.find path with
  | (_, .file content) => return content
  | (_, .directory) => throw .isADirectory

/-- Gives a file a content; the file is made if it is missing. -/
def write (t : Files) (path : String) (content : List UInt8) : Except Fault Files := do
  let r ← t.reach path
  match r.last with
  | .name s =>
    if r.slash then throw .isADirectory
    if maxName < s.utf8ByteSize then throw .nameTooLong
    match t.entryAt? (r.directory ++ [s]) with
    | some .directory => throw .isADirectory
    | _ => return t.put (r.directory ++ [s]) (.file content)
  | _ => throw .isADirectory

/-- Takes a file away. -/
def remove (t : Files) (path : String) : Except Fault Files := do
  let r ← t.reach path
  match r.last with
  | .name s =>
    if maxName < s.utf8ByteSize then throw .nameTooLong
    match t.entryAt? (r.directory ++ [s]) with
    | none => throw .notFound
    | some .directory => throw .isADirectory
    | some (.file _) =>
      if r.slash then throw .notADirectory else return t.cut (r.directory ++ [s])
  | _ => throw .isADirectory

/-! ## Directories -/

/-- Makes a directory. -/
def makeDir (t : Files) (path : String) : Except Fault Files := do
  let r ← t.reach path
  match r.last with
  | .name s =>
    if maxName < s.utf8ByteSize then throw .nameTooLong
    match t.entryAt? (r.directory ++ [s]) with
    | none => return t.put (r.directory ++ [s]) .directory
    | some _ => throw .alreadyExists
  | _ => throw .alreadyExists

/-- Makes the first directory of a list, where missing ones above it come next in the list.
A directory that is there already will do. -/
def makeAlong (t : Files) : List String → Except Fault Unit × Files
  | [] => (.error .notFound, t)
  | path :: above =>
    if path = "" then (.ok (), t)
    else
      let settle (t : Files) (f : Fault) : Except Fault Unit × Files :=
        if t.isDirectory path then (.ok (), t) else (.error f, t)
      match t.makeDir path with
      | .ok t => (.ok (), t)
      | .error .notFound =>
        match t.makeAlong above with
        | (.error f, t) => (.error f, t)
        | (.ok (), t) =>
          match t.makeDir path with
          | .ok t => (.ok (), t)
          | .error f => settle t f
      | .error f => settle t f

/-- Makes a directory and the missing ones above it. -/
def makeDirs (t : Files) (path : String) : Except Fault Unit × Files :=
  t.makeAlong (Path.ancestors path)

/-- Whether anything stands below a location. -/
def isOccupied (t : Files) (place : Location) : Bool :=
  t.entries.any fun p => place.isPrefixOf p.1 && p.1 != place

/-- Takes away what stands below a location. -/
def clear (t : Files) (place : Location) : Files :=
  { t with entries := t.entries.filter fun p => !(place.isPrefixOf p.1 && p.1 != place) }

/-- Takes an empty directory away. -/
def removeDir (t : Files) (path : String) : Except Fault Files := do
  let r ← t.reach path
  match r.last with
  | .root => throw .resourceBusy
  | .here => throw .invalidArgument
  | .up => throw .directoryNotEmpty
  | .name s =>
    if maxName < s.utf8ByteSize then throw .nameTooLong
    let place := r.directory ++ [s]
    match t.entryAt? place with
    | none => throw .notFound
    | some (.file _) => throw .notADirectory
    | some .directory => if t.isOccupied place then throw .directoryNotEmpty else return t.cut place

/-- Takes a directory away with everything below it. What is below goes first, so it is gone also
where the directory itself stays; a path that led through it then leads nowhere, which is as
good. -/
def removeAll (t : Files) (path : String) : Except Fault Unit × Files :=
  match t.find path with
  | .error f => (.error f, t)
  | .ok (_, .file _) => (.error .notADirectory, t)
  | .ok (place, .directory) =>
    let t := t.clear place
    match t.removeDir path with
    | .ok t => (.ok (), t)
    | .error .notFound => (.ok (), t)
    | .error f => (.error f, t)

/-! ## Moving -/

/-- Moves what stands at one location, with everything below it, in place of another. -/
def move (t : Files) (source target : Location) : Files :=
  let rest := (t.cut target).cut source
  let moved := t.entries.filterMap fun p =>
    if source.isPrefixOf p.1 then some (target ++ p.1.drop source.length, p.2) else none
  { rest with entries := rest.entries ++ moved }

/-- Gives a file or directory another path, in place of a file or an empty directory there. -/
def rename (t : Files) (source target : String) : Except Fault Files := do
  let s ← t.reach source
  let d ← t.reach target
  match s.last, d.last with
  | .name sName, .name dName =>
    if maxName < sName.utf8ByteSize then throw .nameTooLong
    let sAt := s.directory ++ [sName]
    let dAt := d.directory ++ [dName]
    let some moved := t.entryAt? sAt | throw .notFound
    if maxName < dName.utf8ByteSize then throw .nameTooLong
    match moved, t.entryAt? dAt with
    | .file _, found =>
      if s.slash || d.slash then throw .notADirectory
      if dAt.isPrefixOf sAt && dAt != sAt then throw .directoryNotEmpty
      if found = some .directory then throw .isADirectory
      if sAt = dAt then return t else return t.move sAt dAt
    | .directory, found =>
      if sAt.isPrefixOf dAt && sAt != dAt then throw .invalidArgument
      if dAt.isPrefixOf sAt && dAt != sAt then throw .directoryNotEmpty
      if sAt = dAt then return t
      match found with
      | some (.file _) => throw .notADirectory
      | some .directory =>
        if t.isOccupied dAt then throw .directoryNotEmpty else return t.move sAt dAt
      | none => return t.move sAt dAt
  | _, _ => throw .resourceBusy

/-! ## Listing -/

/-- The files below a location, and its empty directories with a slash, by path from there. -/
def listing (t : Files) (place : Location) : List String :=
  let found := t.entries.filterMap fun (p, e) =>
    if place.isPrefixOf p && p != place then
      let path := "/".intercalate (p.drop place.length)
      match e with
      | .file _ => some path
      | .directory => if t.isOccupied p then none else some (path ++ "/")
    else none
  found.mergeSort fun a b => !(b < a)

end Files

end Portcullis
