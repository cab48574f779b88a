import Portcullis.Datum.Basic
import Portcullis.Text.Decimal

/-!
# Numbers in TOML

Whole numbers in four bases and decimal fractions, with single underscores between digits.

* `number` reads either kind. A whole number has to fit into 64 bits, and a fraction must not be
  greater than every binary fraction of double precision.
* `moment` reads dates and times of day.
-/

namespace Portcullis.Toml

open Portcullis.Text

/-! ## Digits -/

/-- More digits, each after an underscore at most, without the underscores. -/
def moreDigits (isDigit : Char → Bool) : List Char → Option (List Char × List Char)
  | [] => some ([], [])
  | ['_'] => none
  | '_' :: d :: r =>
    if isDigit d then do
      let (ds, rest) ← moreDigits isDigit r
      return (d :: ds, rest)
    else none
  | d :: r =>
    if isDigit d then do
      let (ds, rest) ← moreDigits isDigit r
      return (d :: ds, rest)
    else some ([], d :: r)

/-- Digits, at least one. -/
def digitGroup (isDigit : Char → Bool) : List Char → Option (List Char × List Char)
  | d :: r =>
    if isDigit d then do
      let (ds, rest) ← moreDigits isDigit r
      return (d :: ds, rest)
    else none
  | [] => none

/-- An integer part: zero alone, or digits that do not start with zero. -/
def wholePart : List Char → Option (List Char × List Char)
  | '0' :: r => some (['0'], r)
  | s => digitGroup Char.isDigit s

/-- A sign, if one is there: whether there is one, whether it is minus, and what follows. -/
def sign : List Char → Bool × Bool × List Char
  | '-' :: r => (true, true, r)
  | '+' :: r => (true, false, r)
  | r => (false, false, r)

/-! ## Whole numbers -/

/-- A whole number that fits into 64 bits with a sign. -/
def whole? (negative : Bool) (magnitude : Nat) : Option Datum :=
  if negative then
    if magnitude ≤ 9223372036854775808 then some (.whole (-(magnitude : Int))) else none
  else if magnitude ≤ 9223372036854775807 then some (.whole magnitude) else none

/-- What a digit stands for in any base up to sixteen. -/
def digitValue (c : Char) : Nat :=
  if c.isDigit then c.toNat - 48 else if 'a' ≤ c then c.toNat - 87 else c.toNat - 55

/-- A whole number in a base, after its mark. -/
def based (base : Nat) (isDigit : Char → Bool) (s : List Char) :
    Option (Datum × List Char) := do
  let (ds, rest) ← digitGroup isDigit s
  let d ← whole? false (ds.foldl (fun n c => base * n + digitValue c) 0)
  return (d, rest)

/-! ## Fractions -/

/-- Half a step above the greatest fraction of double precision. -/
def doubleLimit : Nat := Nat.pow 2 1024 - Nat.pow 2 970

/-- Whether `mantissa * 10 ^ power` rounds to no finite fraction of double precision. -/
def isExcessive (mantissa : Nat) (power : Int) : Bool :=
  let size := (Decimal.digits mantissa).length + power
  if mantissa = 0 || size < 309 then false
  else if 309 < size then true
  else if 0 ≤ power then doubleLimit ≤ mantissa * Nat.pow 10 power.toNat
  else doubleLimit * Nat.pow 10 (-power).toNat ≤ mantissa

/-- A fraction after its point, if one is there. -/
def fraction : List Char → Option (List Char × List Char)
  | '.' :: r => digitGroup Char.isDigit r
  | r => some ([], r)

/-- An exponent after its letter, if one is there. -/
def exponent : List Char → Option (Option Int × List Char)
  | 'e' :: r | 'E' :: r => do
    let (_, negative, r) := sign r
    let (ds, rest) ← digitGroup Char.isDigit r
    let n : Int := Decimal.value ds
    return (some (if negative then -n else n), rest)
  | r => some (none, r)

/-- A fraction in plain characters. -/
def fractionText (negative : Bool) (ds fs : List Char) (power : Option Int) : String :=
  (if negative then "-" else "") ++ String.ofList ds ++
    (if fs.isEmpty then "" else "." ++ String.ofList fs) ++
    (power.map fun n => "e" ++ Decimal.ofInt n).getD ""

/-- A number in base ten, after its sign. -/
def decimal (negative : Bool) (s : List Char) : Option (Datum × List Char) := do
  let (ds, s) ← wholePart s
  let (fs, s) ← fraction s
  let (power, s) ← exponent s
  match fs, power with
  | [], none => return (← whole? negative (Decimal.value ds), s)
  | _, _ =>
    if !negative && isExcessive (Decimal.value (ds ++ fs)) (power.getD 0 - fs.length) then none
    else return (.decimal (fractionText negative ds fs power), s)

/-- A number. -/
def number (s : List Char) : Option (Datum × List Char) :=
  let (signed, negative, r) := sign s
  match r with
  | 'i' :: 'n' :: 'f' :: r => some (.decimal "inf", r)
  | 'n' :: 'a' :: 'n' :: r => some (.decimal "nan", r)
  | '0' :: 'x' :: h =>
    if signed then none
    else based 16 (fun c => c.isDigit || ('a' ≤ c && c ≤ 'f') || ('A' ≤ c && c ≤ 'F')) h
  | '0' :: 'o' :: o => if signed then none else based 8 (fun c => '0' ≤ c && c ≤ '7') o
  | '0' :: 'b' :: b => if signed then none else based 2 (fun c => c == '0' || c == '1') b
  | r => decimal negative r

/-! ## Dates and times -/

/-- A number of a fixed count of digits, between two bounds. -/
def fixed (count least most : Nat) (s : List Char) : Option (Nat × List Char) :=
  let ds := s.take count
  let n := Decimal.value ds
  if ds.length = count ∧ ds.all Char.isDigit ∧ least ≤ n ∧ n ≤ most then some (n, s.drop count)
  else none

/-- What follows a mark at the front. -/
def after? (mark : Char) : List Char → Option (List Char)
  | c :: r => if c == mark then some r else none
  | [] => none

def isLeap (year : Nat) : Bool :=
  year % 4 == 0 && (year % 100 != 0 || year % 400 == 0)

def daysIn (year : Nat) : Nat → Nat
  | 2 => if isLeap year then 29 else 28
  | 4 | 6 | 9 | 11 => 30
  | _ => 31

/-- What follows a date. -/
def date? (s : List Char) : Option (List Char) := do
  let (year, s) ← fixed 4 0 9999 s
  let s ← after? '-' s
  let (month, s) ← fixed 2 1 12 s
  let s ← after? '-' s
  let (_, s) ← fixed 2 1 (daysIn year month) s
  return s

/-- What follows a time of day. A minute may have one second more than sixty. -/
def time? (s : List Char) : Option (List Char) := do
  let (_, s) ← fixed 2 0 23 s
  let s ← after? ':' s
  let (_, s) ← fixed 2 0 59 s
  let s ← after? ':' s
  let (_, s) ← fixed 2 0 60 s
  match s with
  | '.' :: d :: r => if d.isDigit then return r.dropWhile Char.isDigit else none
  | s => return s

/-- What follows an offset from universal time, if one is there. -/
def offset? : List Char → Option (List Char)
  | 'Z' :: r | 'z' :: r => some r
  | '+' :: r | '-' :: r => do
    let (_, s) ← fixed 2 0 23 r
    let s ← after? ':' s
    let (_, s) ← fixed 2 0 59 s
    return s
  | s => some s

/-- What follows a date or a time of day or both, where an offset needs both. -/
def moment? (s : List Char) : Option (List Char) :=
  match date? s with
  | none => time? s
  | some (c :: r) =>
    if c == 'T' || c == 't' || c == ' ' then
      match time? r with
      | some r => offset? r
      | none => some (c :: r)
    else some (c :: r)
  | some [] => some []

/-- A date or time as a datum: a record that no reader of settings knows the member of. -/
def moment (s : List Char) : Option (Datum × List Char) :=
  (moment? s).map fun rest =>
    (.object [("$moment", .text (String.ofList (s.take (s.length - rest.length))))], rest)

end Portcullis.Toml
