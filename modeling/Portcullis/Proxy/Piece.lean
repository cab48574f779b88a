import Portcullis.Text.Blank
import Portcullis.Text.Decimal

/-!
# Pieces of a proxy configuration

Directives, backend pools, value maps and virtual servers, and why one of them is refused.

* A `Pool` holds each target once.
* A `Map` binds each literal key once, never the empty key, and the reserved key `default` only
  as its default value.
* `Server.check` says what a server must satisfy to be stored.
-/

namespace Portcullis.Proxy

open Portcullis.Text

/-- Why a piece is refused. -/
inductive Rejection where
  | invalidPort (port : Int)
  | duplicateKey (output key existing : String)
  | duplicateDefault (output existing : String)
  | duplicateMap (output : String)
  | empty (what : String)
  deriving DecidableEq, Repr

def Rejection.message : Rejection → String
  | .invalidPort port => "listen port " ++ Decimal.ofInt port ++ " is not in 1..=65535"
  | .duplicateKey output key existing =>
    "map " ++ output ++ ": key '" ++ key ++ "' is already bound to '" ++ existing ++ "'"
  | .duplicateDefault output existing =>
    "map " ++ output ++ ": default is already bound to '" ++ existing ++ "'"
  | .duplicateMap output => "map output variable " ++ output ++ " is declared twice"
  | .empty what => "empty " ++ what

/-! ## Directives -/

/-- A line `name value;`. -/
structure Directive where
  name : String
  value : String
  deriving DecidableEq, Repr

/-- A directive whose name is not blank. -/
def Directive.make (name value : String) : Except Rejection Directive :=
  if isAllBlank name then .error (.empty "directive name") else .ok ⟨name, value⟩

/-! ## Backend pools -/

/-- A named set of `address:port` targets. -/
structure Pool where
  name : String
  directives : List Directive
  targets : List String
  deriving DecidableEq, Repr

namespace Pool

/-- A pool without targets. -/
def named (name : String) : Pool :=
  ⟨name, [], []⟩

/-- Adds a balancing directive, if one is given. -/
def balanced (p : Pool) : Option String → Pool
  | some name => { p with directives := p.directives ++ [⟨name, ""⟩] }
  | none => p

/-- Adds a target at the end, unless the pool holds it. -/
def addTarget (p : Pool) (target : String) : Pool :=
  if target ∈ p.targets then p else { p with targets := p.targets ++ [target] }

end Pool

/-! ## Value maps -/

/-- The key that stands for every input without an entry. -/
def defaultKey : String := "default"

/-- A map from an input variable to an output variable by literal keys. -/
structure Map where
  input : String
  output : String
  entries : List (String × String)
  fallback : Option String
  deriving DecidableEq, Repr

namespace Map

/-- A map that binds nothing. -/
def between (input output : String) : Map :=
  ⟨input, output, [], none⟩

/-- Binds the default value, once. -/
def setDefault (m : Map) (value : String) : Except Rejection Map :=
  match m.fallback with
  | some existing => .error (.duplicateDefault m.output existing)
  | none => .ok { m with fallback := some value }

/-- Binds a key, once. -/
def addEntry (m : Map) (key value : String) : Except Rejection Map :=
  if key = defaultKey then m.setDefault value
  else if key = "" then .error (.empty "map key")
  else
    match m.entries.lookup key with
    | some existing => .error (.duplicateKey m.output key existing)
    | none => .ok { m with entries := m.entries ++ [(key, value)] }

/-- The value bound to a key. -/
def get? (m : Map) (key : String) : Option String :=
  if key = defaultKey then m.fallback else m.entries.lookup key

/-- The value that an input takes: that of its own key, or else the default. -/
def valueFor? (m : Map) (input : String) : Option String :=
  (m.entries.lookup input).or m.fallback

/-- The number of bindings, the default included. -/
def size (m : Map) : Nat :=
  m.entries.length + (if m.fallback.isSome then 1 else 0)

end Map

/-! ## Virtual servers -/

/-- A static page for some status codes. -/
structure ErrorPage where
  codes : List UInt16
  uri : String
  deriving DecidableEq, Repr

/-- A server block. -/
structure Server where
  port : Int
  isDefault : Bool
  name : Option String
  directives : List Directive
  errorPages : List ErrorPage
  deriving DecidableEq, Repr

namespace Server

/-- A server that only listens. -/
def listening (port : Int) : Server :=
  ⟨port, false, none, [], []⟩

/-- A server needs a port in range, directives with names, and error pages that bind codes to an
address; the first fault in this order is reported. -/
def check (s : Server) : Except Rejection Unit :=
  if ¬ (1 ≤ s.port ∧ s.port ≤ 65535) then .error (.invalidPort s.port)
  else if s.directives.any fun d => isAllBlank d.name then .error (.empty "directive name")
  else if s.errorPages.any fun p => p.codes.isEmpty || p.uri == "" then
    .error (.empty "error page binding")
  else .ok ()

end Server

end Portcullis.Proxy
