import Portcullis.Telemetry.Directive

/-!
# Which events are shown

A filter shows an event if the directive that knows most about it does: the one with the longest
target, then one that asks for a field, and of equals the last.  A directive for a span shows the
events within that span besides.
-/

namespace Portcullis.Telemetry

/-- A filter is a list of directives. -/
abbrev Filter := List Directive

namespace Directive

/-- Whether a directive asks for nothing but a target and a field. -/
def isPlain (d : Directive) : Bool :=
  d.span.isNone && !d.field.any (·.isValued)

/-- Whether the target of a directive is the front of a path. -/
def hasTarget (d : Directive) (path : String) : Bool :=
  d.target.all fun target => target.toList.isPrefixOf path.toList

/-- Whether a directive is for an event. -/
def isFor (d : Directive) (e : Event) : Bool :=
  d.isPlain && d.hasTarget e.component.path &&
    d.field.all fun f => f.name == "message" || e.details.any (·.1 == f.name)

/-- Whether a directive is for a span. The values of its fields are never known. -/
def isForSpan (d : Directive) (s : Scope) : Bool :=
  (d.span.isSome || d.field.isSome) && d.hasTarget s.path && d.span.all (· == s.name) &&
    d.field.all fun f => !f.isValued && s.fields.contains f.name

/-- How much a directive for an event knows about it: the length of its target, and the field. -/
def knowledge (d : Directive) : Nat × Option String :=
  ((d.target.map fun t => t.utf8ByteSize + 1).getD 0, d.field.map (·.name))

/-- Whether one directive knows no less than another. -/
def knowsAsMuch (d other : Directive) : Bool :=
  let (size, field) := d.knowledge
  let (otherSize, otherField) := other.knowledge
  otherSize < size || otherSize == size &&
    match field, otherField with
    | _, none => true
    | none, some _ => false
    | some a, some b => !(a < b)

end Directive

namespace Filter

/-- The directive that knows most about an event. -/
def decisive? (f : Filter) (e : Event) : Option Directive :=
  f.foldl (fun best d =>
    if d.isFor e && best.all d.knowsAsMuch then some d else best) none

/-- Whether an event is shown. -/
def shows (f : Filter) (e : Event) : Bool :=
  (f.decisive? e).any (e.level.rank ≤ ·.rank) ||
    e.component.scope?.any fun s => f.any fun d => d.isForSpan s && e.level.rank ≤ d.rank

/-- The filter that a text denotes. -/
def read (s : String) : Filter :=
  Directive.readAll s

end Filter

end Portcullis.Telemetry
