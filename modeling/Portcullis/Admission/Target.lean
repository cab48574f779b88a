/-!
# Request targets

What the request line of a request names: a path with or without a query, a whole URL, a host on
its own, or a star.

* `Target.read?` reads a target, or refuses a text that is none.
* `Target.path` is what a request is routed by.  A query and a fragment do not belong to it, and
  neither do the scheme and the host of a URL, whose path is never empty.
-/

namespace Portcullis.Admission

/-- What a request line names. -/
inductive Target where
  | star
  | authority
  | resource (path : String)
  deriving DecidableEq, Repr

namespace Target

/-- The path that a request is routed by. Only a resource has one that can be served. -/
def path : Target → String
  | star => "*"
  | authority => ""
  | resource path => path

/-- Whether a character is in one of some ranges of code points. -/
def isWithin (ranges : List (Nat × Nat)) (c : Char) : Bool :=
  ranges.any fun (first, last) => first ≤ c.toNat && c.toNat ≤ last

/-- The characters of a path. Braces and quotes are let through, as are all beyond ASCII. -/
def isPathChar : Char → Bool :=
  isWithin [(0x21, 0x22), (0x24, 0x3B), (0x3D, 0x3D), (0x40, 0x5F), (0x61, 0x10FFFF)]

def isQueryChar : Char → Bool :=
  isWithin [(0x21, 0x21), (0x24, 0x3B), (0x3D, 0x3D), (0x3F, 0x10FFFF)]

def isSchemeChar (c : Char) : Bool :=
  c.isAlphanum || c == '+' || c == '-' || c == '.' || c == '~'

/-- The characters of a host with what precedes and follows it. -/
def isHostChar : Char → Bool :=
  isWithin [(0x21, 0x21), (0x24, 0x2E), (0x30, 0x3B), (0x3D, 0x3D), (0x40, 0x5B), (0x5D, 0x5D),
    (0x5F, 0x5F), (0x61, 0x7A), (0x7E, 0x7E)]

/-- Whether a host ends before a character. -/
def endsHost (c : Char) : Bool :=
  c == '/' || c == '?' || c == '#'

/-! ## Paths -/

/-- The path at the front of a text, up to a query or a fragment that is well formed too. -/
def pathPart? (cs : List Char) : Option (List Char) :=
  let (path, rest) := cs.span fun c => c != '?' && c != '#'
  let query := rest.takeWhile (· != '#')
  if path.all isPathChar && (query.drop 1).all isQueryChar then some path else none

/-! ## Hosts -/

/-- What has been seen of a host: the colons, brackets and percent signs that still count. -/
structure HostScan where
  colons : Nat := 0
  opened : Bool := false
  closed : Bool := false
  escaped : Bool := false

/-- Takes one character. What precedes an `@` is no part of the host itself, and an address in
brackets has colons of its own. -/
def HostScan.step (s : HostScan) (c : Char) : Option HostScan :=
  match c with
  | ':' => if s.colons < 8 then some { s with colons := s.colons + 1 } else none
  | '[' => if s.escaped || s.opened then none else some { s with opened := true }
  | ']' =>
    if !s.opened || s.closed then none
    else some { s with closed := true, colons := 0, escaped := false }
  | '@' => some { s with colons := 0, escaped := false }
  | '%' => some { s with escaped := true }
  | c => if isHostChar c then some s else none

/-- Whether a text is a host, which a user and a port may accompany. -/
def isHost (cs : List Char) : Bool :=
  match cs.foldlM HostScan.step {} with
  | some s => s.opened == s.closed && s.colons ≤ 1 && !s.escaped && cs.getLast? != some '@'
  | none => false

/-! ## Schemes -/

/-- The longest scheme, in characters. -/
def maxScheme : Nat := 64

/-- What follows a scheme, if a text starts with one. -/
def afterScheme? (cs : List Char) : Option (List Char) :=
  match cs.span isSchemeChar with
  | (_, ':' :: '/' :: '/' :: rest) => some rest
  | _ => none

/-- The longest target, in bytes. -/
def maxLength : Nat := 65534

/-- The path of a URL after its scheme: the root if it has none. -/
def urlPath? (cs : List Char) : Option (List Char) :=
  let (host, rest) := cs.span fun c => !endsHost c
  if host.isEmpty || !isHost host then none
  else (pathPart? rest).map fun path => if path.isEmpty then ['/'] else path

/-- The target that a text denotes. -/
def read? (s : String) : Option Target :=
  let cs := s.toList
  let resource? (path : Option (List Char)) : Option Target :=
    path.map fun p => resource (String.ofList p)
  if cs.isEmpty || maxLength < s.utf8ByteSize then none
  else if s = "*" then some star
  else if cs.head? == some '/' then resource? (pathPart? cs)
  else
    match afterScheme? cs with
    | some rest =>
      if maxScheme < cs.length - rest.length - 3 then none else resource? (urlPath? rest)
    | none => if isHost cs then some authority else none

/-! ## Examples -/

example : (read? "/health?x#y").map path = some "/health" := by decide

example : (read? "https://u:p@h:99/health?x").map path = some "/health" := by decide

example : (read? "http://h#f").map path = some "/" := by decide

example : read? "h:80" = some authority := by decide

example : read? "h:80/health" = none := by decide

end Target

end Portcullis.Admission
