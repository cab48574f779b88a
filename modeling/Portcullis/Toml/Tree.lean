import Portcullis.Datum.Basic

/-!
# Tables of a TOML document

A document adds to a tree of tables line by line, and every table may be defined once.

* A table exists because it has a header, because a header further down passes through it, or
  because a dotted key does.
* A header may define a table that only headers have passed through.
* A dotted key may add to tables that dotted keys made, and to no table with a header.
-/

namespace Portcullis.Toml

/-- Why a table exists. -/
inductive Origin where
  | headed
  | passed
  | dotted
  deriving DecidableEq, Repr

/-- What stands under a key. -/
inductive Node where
  | value (d : Datum)
  | table (origin : Origin) (members : List (String × Node))
  /-- Tables under repeated headers, of which the last can be added to. -/
  | tables (items : List (List (String × Node)))

/-- The content of a table in the order of its keys' first use. -/
abbrev Members := List (String × Node)

namespace Members

/-- Replaces what stands under a key. -/
def set (ms : Members) (key : String) (n : Node) : Members :=
  ms.map fun m => if m.1 == key then (key, n) else m

/-- Changes the table at the end of a path. Missing tables on the way are made; only a path of
dotted keys must not pass a table with a header. -/
def alter (way : Origin) (change : Origin → Members → Option Members) (origin : Origin) :
    List String → Members → Option Members
  | [], ms => change origin ms
  | key :: path, ms =>
    match ms.lookup key with
    | none => (alter way change way path []).map fun sub => ms ++ [(key, .table way sub)]
    | some (.value _) => none
    | some (.tables items) =>
      (alter way change .headed path (items.getLast?.getD [])).map fun sub =>
        ms.set key (.tables (items.dropLast ++ [sub]))
    | some (.table o sub) =>
      if way = .dotted ∧ o = .headed then none
      else (alter way change o path sub).map fun sub => ms.set key (.table o sub)

/-- Puts a value under a key that is not in use. -/
def enter (ms : Members) (key : String) (d : Datum) : Option Members :=
  if (ms.lookup key).isSome then none else some (ms ++ [(key, .value d)])

/-- Puts a value under a dotted key of a table. -/
def assign (path : List String) (key : String) (d : Datum) (ms : Members) : Option Members :=
  match path with
  | [] => ms.enter key d
  | _ =>
    ms.alter .dotted (fun origin ms => if origin = .dotted then ms.enter key d else none) .headed
      path

/-- Defines the table of a header. -/
def define (path : List String) (key : String) (root : Members) : Option Members :=
  root.alter .passed (fun _ ms =>
    match ms.lookup key with
    | none => some (ms ++ [(key, .table .headed [])])
    | some (.table .passed sub) =>
      some (ms.filter (fun m => m.1 != key) ++ [(key, .table .headed sub)])
    | _ => none) .headed path

/-- Adds a table under a repeated header. -/
def extend (path : List String) (key : String) (root : Members) : Option Members :=
  root.alter .passed (fun _ ms =>
    match ms.lookup key with
    | none => some (ms ++ [(key, .tables [[]])])
    | some (.tables items) => some (ms.set key (.tables (items ++ [[]])))
    | _ => none) .headed path

/-- Puts a value under a dotted key of the table at a path. -/
def assignAt (here path : List String) (key : String) (d : Datum) (root : Members) :
    Option Members :=
  root.alter .passed (fun _ ms => ms.assign path key d) .headed here

end Members

mutual

/-- A node as a datum; `spread` where its tables do not stand between braces. -/
def Node.toDatum (spread : Bool) : Node → Datum
  | .value d => d
  | .table _ ms => .record spread (Members.toData spread ms)
  | .tables items => .list (Members.listToData spread items)

def Members.toData (spread : Bool) : List (String × Node) → List (Option String × Datum)
  | [] => []
  | (key, n) :: ms => (some key, n.toDatum spread) :: Members.toData spread ms

def Members.listToData (spread : Bool) : List (List (String × Node)) → List Datum
  | [] => []
  | ms :: items => .record spread (Members.toData spread ms) :: Members.listToData spread items

end

end Portcullis.Toml
