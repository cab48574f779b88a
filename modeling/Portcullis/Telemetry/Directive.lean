import Portcullis.Telemetry.Event
import Portcullis.Text.Blank
import Portcullis.Text.Decimal

/-!
# Directives of a log filter

A log filter is a list of directives between commas.  A directive shows the events of a target,
which is the front of a component's path, up to a level: `gatehouse::store=debug`.  Both parts
may be missing: a level on its own is for all targets, and a target on its own shows everything.

* Brackets after the target name a span, or a field in braces, or both.  A directive with a field
  is for the events that have it; one with a span, or with a field of a span, is for the events
  within that span.
* A level is a name in any case, or its number; `off` and zero show nothing.
* A piece of the list that is no directive says nothing.
-/

namespace Portcullis.Telemetry

open Portcullis.Text

/-- A field that a directive asks for, perhaps with a value. -/
structure FieldMatch where
  name : String
  isValued : Bool
  deriving DecidableEq, Repr

/-- One directive of a log filter. -/
structure Directive where
  target : Option String := none
  span : Option String := none
  field : Option FieldMatch := none
  /-- The greatest rank of a level that is shown; zero shows nothing. -/
  rank : Nat := Level.trace.rank
  deriving DecidableEq, Repr

namespace Directive

/-! ## Levels -/

/-- The names of levels in lower case, with the greatest rank that each shows. -/
def levelNames : List (String × Nat) :=
  [("off", 0), ("error", 1), ("warn", 2), ("info", 3), ("debug", 4), ("trace", 5)]

/-- The number of a level, which a plus sign may precede. -/
def levelNumber? (cs : List Char) : Option Nat :=
  let digits := if cs.head? == some '+' then cs.tail else cs
  (Decimal.read? digits).filter (· ≤ Level.trace.rank)

/-- The rank that a level shows. -/
def rank? (cs : List Char) : Option Nat :=
  (levelNumber? cs).or (levelNames.lookup (String.ofList (cs.map Char.toLower)))

/-! ## Reading -/

/-- Whether a target or a level may start with a character. No path of a component goes beyond
ASCII, so other targets need not be read. -/
def startsTarget (c : Char) : Bool :=
  c.isAlphanum || c == '-' || c == ':' || c == '_'

/-- Reads a level after its sign; no level at all shows everything. -/
def withLevel (d : Directive) (cs : List Char) : Option Directive :=
  if cs.isEmpty then some d else (rank? cs).map fun rank => { d with rank := rank }

/-- Reads what follows brackets: a level, or nothing but blanks. -/
def afterBrackets (d : Directive) : List Char → Option Directive
  | '=' :: level => d.withLevel level
  | cs => if cs.all isBlank then some d else none

/-- Reads a field in braces, after the opening one, and the bracket behind it. -/
def withField (d : Directive) (cs : List Char) : Option Directive :=
  match cs.span (· != '\x7d') with
  | (field, '\x7d' :: ']' :: rest) =>
    let name := field.takeWhile (· != '=')
    if field.isEmpty then none
    else
      let found : FieldMatch := ⟨String.ofList name, name.length != field.length⟩
      { d with field := some found }.afterBrackets rest
  | _ => none

/-- Reads what is in brackets, after the opening one. -/
def withBrackets (d : Directive) (cs : List Char) : Option Directive :=
  let (span, rest) := cs.span fun c => c != ']' && c != '\x7b'
  match rest with
  | ']' :: rest => { d with span := some (String.ofList span) }.afterBrackets rest
  | _ :: rest =>
    withField (if span.isEmpty then d else { d with span := some (String.ofList span) }) rest
  | [] => none

/-- The directive that a piece of a list denotes. -/
def read? (piece : List Char) : Option Directive :=
  let (front, rest) := piece.span fun c => c != '=' && c != '['
  let target : Directive := { target := some (String.ofList front) }
  match front, rest with
  | [], '[' :: rest => withBrackets {} rest
  | [], _ => none
  | c :: _, rest =>
    if !startsTarget c then none
    else
      match rest with
      | '=' :: level => target.withLevel level
      | _ :: rest => target.withBrackets rest
      | [] =>
        match rank? front with
        | some rank => some { rank := rank }
        | none => some target

/-- The directives of a list. -/
def readAll (s : String) : List Directive :=
  (s.toList.splitOn ',').filterMap read?

example : readAll "Debug,x=05,,y=info " =
    [{ rank := 4 }, { target := some "x", rank := 5 }] := by decide

example : readAll "y,x[span]=warn" =
    [{ target := some "y" }, { target := some "x", span := some "span", rank := 2 }] := by
  decide

end Directive

end Portcullis.Telemetry
