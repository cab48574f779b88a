import Portcullis.Text.Decimal

/-!
# Spans of time

A span counts nanoseconds.  `Span.text` writes it in the largest unit that leaves a whole part,
with no more decimals than it needs: `1.5s`, `100ms`, `1.5µs`, `0ns`.
-/

namespace Portcullis

open Portcullis.Text

/-- A length of time in nanoseconds. -/
structure Span where
  nanos : Nat
  deriving DecidableEq, Repr

namespace Span

def ofSeconds (n : Nat) : Span :=
  ⟨n * 1000000000⟩

def ofMillis (n : Nat) : Span :=
  ⟨n * 1000000⟩

/-- The nanoseconds of some spans together. -/
def total : List Span → Nat
  | [] => 0
  | s :: rest => s.nanos + total rest

/-- Whole milliseconds. -/
def millis (s : Span) : Nat :=
  s.nanos / 1000000

/-- A digit string of a given width. -/
def padded (width n : Nat) : List Char :=
  let ds := Decimal.digits n
  List.replicate (width - ds.length) '0' ++ ds

/-- The decimals of a part of a unit of `10 ^ places` nanoseconds, without trailing zeros. -/
def decimals (places part : Nat) : String :=
  let ds := ((padded places part).reverse.dropWhile (· == '0')).reverse
  if ds.isEmpty then "" else String.ofList ('.' :: ds)

/-- A span in a unit of `10 ^ places` nanoseconds. -/
def inUnit (s : Span) (places : Nat) (unit : String) : String :=
  let size := Nat.pow 10 places
  Decimal.ofNat (s.nanos / size) ++ decimals places (s.nanos % size) ++ unit

def text (s : Span) : String :=
  if 1000000000 ≤ s.nanos then s.inUnit 9 "s"
  else if 1000000 ≤ s.nanos then s.inUnit 6 "ms"
  else if 1000 ≤ s.nanos then s.inUnit 3 "µs"
  else s.inUnit 0 "ns"

end Span

end Portcullis
