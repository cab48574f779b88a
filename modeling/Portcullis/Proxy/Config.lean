import Portcullis.Proxy.Piece

/-!
# The proxy's configuration

The two top-level blocks of the proxy's configuration, and how pieces enter them.

* Pieces are checked when they enter a block, and a block keeps them in the order they came.
* The first pool of a name stays; a second map of a variable and a faulty server are refused.
* A `Config` holds one block of each kind, and a change of one leaves the other alone.
-/

namespace Portcullis.Proxy

open Portcullis.Text

/-- Which top-level block a piece belongs to. -/
inductive BlockKind where
  | stream
  | http
  deriving DecidableEq, Repr

/-- The name of a block in the proxy's grammar. -/
def BlockKind.name : BlockKind → String
  | .stream => "stream"
  | .http => "http"

/-- A top-level block. -/
structure Block where
  kind : BlockKind
  vars : List Directive
  pools : List Pool
  maps : List Map
  servers : List Server
  deriving DecidableEq, Repr

namespace Block

/-- A block without pieces. -/
def empty (kind : BlockKind) : Block :=
  ⟨kind, [], [], [], []⟩

/-- Adds a directive to the block itself. -/
def addVariable (b : Block) (name value : String) : Except Rejection Block :=
  (Directive.make name value).map fun d => { b with vars := b.vars ++ [d] }

/-- The pool of a name. -/
def pool? (b : Block) (name : String) : Option Pool :=
  b.pools.find? (·.name == name)

/-- Adds a pool unless its name is taken, and tells whether it was added. -/
def addPool (b : Block) (p : Pool) : Except Rejection (Bool × Block) :=
  if p.name = "" then .error (.empty "upstream name")
  else
    match b.pool? p.name with
    | some _ => .ok (false, b)
    | none => .ok (true, { b with pools := b.pools ++ [p] })

/-- Adds a target to the pool of a name. -/
def addTarget (b : Block) (name target : String) : Block :=
  { b with pools := b.pools.map fun p => if p.name = name then p.addTarget target else p }

/-- The map of an output variable. -/
def map? (b : Block) (output : String) : Option Map :=
  b.maps.find? (·.output == output)

/-- Adds a map unless its output variable is taken. -/
def addMap (b : Block) (m : Map) : Except Rejection Block :=
  match b.map? m.output with
  | some _ => .error (.duplicateMap m.output)
  | none => .ok { b with maps := b.maps ++ [m] }

/-- Adds a server that passes its check. -/
def addServer (b : Block) (s : Server) : Except Rejection Block :=
  s.check.map fun _ => { b with servers := b.servers ++ [s] }

def isEmpty (b : Block) : Bool :=
  b.vars.isEmpty && b.pools.isEmpty && b.maps.isEmpty && b.servers.isEmpty

/-- The block without its pieces. -/
def reset (b : Block) : Block :=
  empty b.kind

end Block

/-- A whole configuration: one block of each kind. -/
structure Config where
  stream : Block
  http : Block
  deriving DecidableEq, Repr

namespace Config

def empty : Config :=
  ⟨Block.empty .stream, Block.empty .http⟩

def block (c : Config) : BlockKind → Block
  | .stream => c.stream
  | .http => c.http

/-- Puts a block in place of the one of a kind. -/
def withBlock (c : Config) (kind : BlockKind) (b : Block) : Config :=
  match kind with
  | .stream => { c with stream := b }
  | .http => { c with http := b }

end Config

end Portcullis.Proxy
