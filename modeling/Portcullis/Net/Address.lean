import Portcullis.Text.Blank
import Portcullis.Text.Decimal

/-!
# Internet addresses

IPv4 and IPv6 addresses with their text forms.

* An IPv4 address is four decimal octets between points, each without leading zeros.
* An IPv6 address is eight groups of up to four hexadecimal digits between colons.  One `::` may
  stand for one or more zero groups, and the last two groups may be written as an IPv4 address.
* `Address.text` is the canonical form: lower case, no leading zeros, the first longest run of
  at least two zero groups as `::`, and IPv4-mapped addresses with an IPv4 tail.
* `canonical?` takes any spelling of an address, with blank ends, to its canonical form.
-/

namespace Portcullis.Net

open Portcullis.Text

/-- An IPv4 address by its octets. -/
structure Ipv4 where
  a : UInt8
  b : UInt8
  c : UInt8
  d : UInt8
  deriving DecidableEq, Repr

/-- An IPv6 address by its eight groups. -/
structure Ipv6 where
  groups : List UInt16
  size : groups.length = 8
  deriving DecidableEq

/-- An address of either family. -/
inductive Address where
  | v4 (ip : Ipv4)
  | v6 (ip : Ipv6)
  deriving DecidableEq

/-! ## Reading -/

/-- Reads something off the front of a text and gives the rest, or refuses. -/
abbrev Read (α : Type) := List Char → Option (α × List Char)

/-- Reads one given character. -/
def expect (c : Char) : List Char → Option (List Char)
  | x :: r => if x == c then some r else none
  | [] => none

/-- What a digit of a base up to sixteen stands for. -/
def digitOf? (base : Nat) (c : Char) : Option Nat :=
  let n :=
    if '0' ≤ c && c ≤ '9' then c.toNat - 48
    else if 'a' ≤ c && c ≤ 'f' then c.toNat - 87
    else if 'A' ≤ c && c ≤ 'F' then c.toNat - 55
    else base
  if n < base then some n else none

/-- The values of the longest digit run at the front, and the rest. -/
def digitSpan (base : Nat) : List Char → List Nat × List Char
  | [] => ([], [])
  | c :: r =>
    match digitOf? base c with
    | some n => let (ns, rest) := digitSpan base r; (n :: ns, rest)
    | none => ([], c :: r)

/-- The number of some digits in a base. -/
def ofDigits (base : Nat) (ns : List Nat) : Nat :=
  ns.foldl (fun n d => base * n + d) 0

/-- A decimal number up to a bound. -/
def bounded (most : Nat) : Read Nat := fun cs =>
  let (ns, rest) := digitSpan 10 cs
  if ns.isEmpty || most < ofDigits 10 ns then none else some (ofDigits 10 ns, rest)

/-- An octet: up to three digits, the first of several not zero. -/
def octet : Read UInt8 := fun cs =>
  let (ns, rest) := digitSpan 10 cs
  if ns.isEmpty || 3 < ns.length || (1 < ns.length && ns.head? == some 0) then none
  else if ofDigits 10 ns ≤ 255 then some ((ofDigits 10 ns).toUInt8, rest)
  else none

/-- A group: up to four hexadecimal digits. -/
def group : Read UInt16 := fun cs =>
  let (ns, rest) := digitSpan 16 cs
  if ns.isEmpty || 4 < ns.length then none else some ((ofDigits 16 ns).toUInt16, rest)

/-- Four octets between points. -/
def ipv4 : Read Ipv4 := fun cs => do
  let (a, cs) ← octet cs
  let (b, cs) ← expect '.' cs >>= octet
  let (c, cs) ← expect '.' cs >>= octet
  let (d, cs) ← expect '.' cs >>= octet
  return (⟨a, b, c, d⟩, cs)

/-- The two groups that an IPv4 tail stands for. -/
def Ipv4.groups (ip : Ipv4) : List UInt16 :=
  [ip.a.toUInt16 <<< 8 ||| ip.b.toUInt16, ip.c.toUInt16 <<< 8 ||| ip.d.toUInt16]

/-- Groups between colons, as many as there are up to a limit. The flag tells whether the last two
were written as an IPv4 address, which is tried first wherever two groups still fit. -/
def groupRun (first : Bool) : Nat → List Char → List UInt16 × Bool × List Char
  | 0, cs => ([], false, cs)
  | limit + 1, cs =>
    let separated := if first then some cs else expect ':' cs
    match if limit == 0 then none else separated >>= ipv4 with
    | some (ip, rest) => (ip.groups, true, rest)
    | none =>
      match separated >>= group with
      | none => ([], false, cs)
      | some (g, rest) =>
        let (gs, tail, rest) := groupRun false limit rest
        (g :: gs, tail, rest)

/-- The address of eight groups. -/
def Ipv6.ofGroups? (groups : List UInt16) : Option Ipv6 :=
  if size : groups.length = 8 then some ⟨groups, size⟩ else none

/-- Eight groups, or fewer around one `::`. -/
def ipv6 : Read Ipv6 := fun cs => do
  let (head, headTail, cs) := groupRun true 8 cs
  if head.length == 8 then return (← Ipv6.ofGroups? head, cs)
  if headTail then none
  let cs ← expect ':' cs >>= expect ':'
  let (tail, _, cs) := groupRun true (7 - head.length) cs
  let zeros := List.replicate (8 - head.length - tail.length) 0
  return (← Ipv6.ofGroups? (head ++ zeros ++ tail), cs)

/-- An address at the front of a text. -/
def address : Read Address := fun cs =>
  match ipv4 cs with
  | some (ip, rest) => some (.v4 ip, rest)
  | none => (ipv6 cs).map fun (ip, rest) => (.v6 ip, rest)

/-- What a reader makes of a whole text. -/
def whole? (read : Read α) (s : String) : Option α :=
  match read s.toList with
  | some (a, []) => some a
  | _ => none

/-- The address that a text denotes. -/
def Address.read? (s : String) : Option Address :=
  whole? address s

/-- The IPv6 address that a text denotes. -/
def Ipv6.read? (s : String) : Option Ipv6 :=
  whole? ipv6 s

/-! ## Writing -/

def Ipv4.text (ip : Ipv4) : String :=
  ".".intercalate ([ip.a, ip.b, ip.c, ip.d].map fun n => Decimal.ofNat n.toNat)

/-- The hexadecimal digits of a number, lower case. -/
def hexDigits (n : Nat) : List Char :=
  let digit := Char.ofNat (if n % 16 < 10 then 48 + n % 16 else 87 + n % 16)
  if n < 16 then [digit] else hexDigits (n / 16) ++ [digit]
termination_by n
decreasing_by omega

/-- Groups between colons. -/
def colonText (groups : List UInt16) : String :=
  ":".intercalate (groups.map fun g => String.ofList (hexDigits g.toNat))

/-- The length of the run of zero groups at the front. -/
def zeroRun (groups : List UInt16) : Nat :=
  (groups.takeWhile (· == 0)).length

/-- Where the first longest run of zero groups starts, and its length. -/
def longestZeroRun : List UInt16 → Nat × Nat
  | [] => (0, 0)
  | g :: gs =>
    let (start, length) := longestZeroRun gs
    let here := zeroRun (g :: gs)
    if length ≤ here then (0, here) else (start + 1, length)

/-- The IPv4 address behind an IPv4-mapped one. -/
def Ipv6.mapped? (ip : Ipv6) : Option Ipv4 :=
  match ip.groups with
  | [0, 0, 0, 0, 0, 0xFFFF, x, y] =>
    some ⟨(x >>> 8).toUInt8, x.toUInt8, (y >>> 8).toUInt8, y.toUInt8⟩
  | _ => none

def Ipv6.text (ip : Ipv6) : String :=
  match ip.mapped? with
  | some v4 => "::ffff:" ++ v4.text
  | none =>
    let (start, length) := longestZeroRun ip.groups
    if 1 < length then
      colonText (ip.groups.take start) ++ "::" ++ colonText (ip.groups.drop (start + length))
    else colonText ip.groups

/-- The canonical form of an address. -/
def Address.text : Address → String
  | .v4 ip => ip.text
  | .v6 ip => ip.text

/-- The canonical form of any spelling of an address, whose blank ends do not count. -/
def canonical? (raw : String) : Option String :=
  (Address.read? (trim raw)).map Address.text

end Portcullis.Net
