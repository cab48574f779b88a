/-!
# Paths as text

What can be said of a path from its text alone: its components, its parent, its last name, and
the paths made from it.  Empty steps and steps `.` do not count, save for a `.` at the start of a
relative path; steps `..` are components like any other.
-/

namespace Portcullis.Path

/-- A component of a path. -/
inductive Component where
  | root
  | here
  | up
  | name (s : String)
  deriving DecidableEq, Repr

/-- The texts between the slashes. -/
def segments (path : String) : List String :=
  (path.toList.splitOn '/').map String.ofList

def isAbsolute (path : String) : Bool :=
  path.toList.head? == some '/'

/-- A step that leads nowhere. -/
def isIdle (segment : String) : Bool :=
  segment == "" || segment == "."

def componentOf (segment : String) : Component :=
  if segment == ".." then .up else .name segment

/-- What comes before the steps of a path, and its segments after that. -/
def split (path : String) : List Component × List String :=
  match segments path with
  | "" :: rest => if isAbsolute path then ([.root], rest) else ([], rest)
  | "." :: rest => ([.here], rest)
  | all => ([], all)

def components (path : String) : List Component :=
  let (front, rest) := split path
  front ++ (rest.filter fun s => !isIdle s).map componentOf

/-- Paths are the same where their components are. -/
def same (a b : String) : Bool :=
  components a == components b

/-- The name that a path ends in. -/
def fileName? (path : String) : Option String :=
  match (components path).getLast? with
  | some (.name s) => some s
  | _ => none

/-- Segments without the idle ones at the end. -/
def dropIdleEnd (segs : List String) : List String :=
  (segs.reverse.dropWhile isIdle).reverse

/-- The text of a path whose last component is dropped, unless that is the root or there is none. -/
def parent? (path : String) : Option String :=
  let (front, rest) := split path
  match front, dropIdleEnd rest with
  | [.root], [] => none
  | [.root], kept =>
    match dropIdleEnd kept.dropLast with
    | [] => some "/"
    | up => some ("/" ++ "/".intercalate up)
  | [], [] => none
  | [], kept => some ("/".intercalate (dropIdleEnd kept.dropLast))
  | _, [] => some ""
  | _, kept => some ("/".intercalate ("." :: dropIdleEnd kept.dropLast))

/-- A path followed by another, which stands alone if it is absolute. -/
def join (base path : String) : String :=
  if isAbsolute path then path
  else if base == "" || base.toList.getLast? == some '/' then base ++ path
  else base ++ "/" ++ path

/-- The path with another last name; a path that ends in no name is extended. -/
def withFileName (path name : String) : String :=
  match fileName? path with
  | some _ => join ((parent? path).getD "") name
  | none => join path name

/-- A name without its extension, which starts at the last point unless that is the first
character. -/
def stem (name : String) : String :=
  match name.toList.reverse.span (· != '.') with
  | (_, '.' :: before) => if before.isEmpty then name else String.ofList before.reverse
  | _ => name

/-- The path with another extension. -/
def withExtension (path extension : String) : String :=
  match fileName? path with
  | some name => withFileName path (stem name ++ "." ++ extension)
  | none => path

/-- The path and the paths above it, from parent to parent. Each parent is shorter. -/
def ancestors (path : String) : List String :=
  go (path.length + 1) path
where
  go : Nat → String → List String
    | 0, _ => []
    | fuel + 1, p => p :: ((parent? p).map (go fuel)).getD []

end Portcullis.Path
