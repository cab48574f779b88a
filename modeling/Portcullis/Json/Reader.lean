import Portcullis.Datum.Basic
import Portcullis.Text.Decimal
import Portcullis.Text.Utf8

/-!
# Reading JSON

The JSON grammar over scanned text.  A string literal with stray bytes or with unpaired
surrogates is read as `garbled`, so that a reader of the result may still pass over it.

* `literal` reads the rest of a string after its opening quote, `number` a number.
* `value` reads one value, and `read?` a whole document.
-/

namespace Portcullis.Json

open Portcullis.Text

/-- The blanks that JSON allows between tokens. -/
def isSpace : Option Char → Bool
  | some c => c == ' ' || c == '\n' || c == '\r' || c == '\t'
  | none => false

def skipSpace (s : Scan) : Scan :=
  s.dropWhile isSpace

/-! ## Strings -/

/-- What one step of a string literal denotes: a character, a stray byte, or a UTF-16 unit. -/
inductive Piece where
  | char (c : Char)
  | stray
  | unit (u : Nat)

/-- The character that a one-letter escape stands for. -/
def escaped? : Char → Option Char
  | '"' => some '"'
  | '\\' => some '\\'
  | '/' => some '/'
  | 'b' => some '\x08'
  | 'f' => some '\x0c'
  | 'n' => some '\n'
  | 'r' => some '\r'
  | 't' => some '\t'
  | _ => none

/-- What a hexadecimal digit stands for. -/
def hexDigit? : Option Char → Option Nat
  | some c =>
    if '0' ≤ c && c ≤ '9' then some (c.toNat - 48)
    else if 'a' ≤ c && c ≤ 'f' then some (c.toNat - 87)
    else if 'A' ≤ c && c ≤ 'F' then some (c.toNat - 55)
    else none
  | none => none

/-- The number of four hexadecimal digits. -/
def hexUnit? (a b c d : Option Char) : Option Nat := do
  let a ← hexDigit? a
  let b ← hexDigit? b
  let c ← hexDigit? c
  let d ← hexDigit? d
  return ((a * 16 + b) * 16 + c) * 16 + d

/-- The pieces up to the closing quote, and what follows it. -/
def pieces : Scan → Option (List Piece × Scan)
  | some '"' :: r => some ([], r)
  | some '\\' :: some 'u' :: a :: b :: c :: d :: r => do
    let u ← hexUnit? a b c d
    let (ps, rest) ← pieces r
    return (.unit u :: ps, rest)
  | some '\\' :: some e :: r => do
    let c ← escaped? e
    let (ps, rest) ← pieces r
    return (.char c :: ps, rest)
  | some c :: r =>
    if c == '\\' || c.toNat < 0x20 then none
    else do
      let (ps, rest) ← pieces r
      return (.char c :: ps, rest)
  | none :: r => do
    let (ps, rest) ← pieces r
    return (.stray :: ps, rest)
  | [] => none

def isHighSurrogate (u : Nat) : Bool :=
  0xD800 ≤ u && u ≤ 0xDBFF

def isLowSurrogate (u : Nat) : Bool :=
  0xDC00 ≤ u && u ≤ 0xDFFF

/-- The characters of some pieces, where each surrogate stands in a pair. -/
def assemble : List Piece → Option (List Char)
  | [] => some []
  | .char c :: r => (assemble r).map (c :: ·)
  | .stray :: _ => none
  | .unit u :: r =>
    if isHighSurrogate u then
      match r with
      | .unit v :: r =>
        if isLowSurrogate v then
          (assemble r).map (Char.ofNat (0x10000 + (u - 0xD800) * 1024 + (v - 0xDC00)) :: ·)
        else none
      | _ => none
    else if isLowSurrogate u then none
    else (assemble r).map (Char.ofNat u :: ·)

/-- The text of a string after its opening quote, `none` if it denotes no text. -/
def literal (s : Scan) : Option (Option String × Scan) :=
  (pieces s).map fun (ps, rest) => ((assemble ps).map String.ofList, rest)

/-! ## Numbers -/

/-- The digits at the front, and the rest. -/
def digitRun : Scan → List Char × Scan
  | some c :: r =>
    if c.isDigit then
      let (ds, rest) := digitRun r
      (c :: ds, rest)
    else ([], some c :: r)
  | s => ([], s)

/-- An integer part: zero alone, or digits that do not start with zero. -/
def wholePart : Scan → Option (List Char × Scan)
  | some '0' :: r => some (['0'], r)
  | s =>
    match digitRun s with
    | ([], _) => none
    | found => some found

/-- A fraction, with its point, if one is there. -/
def fraction : Scan → Option (List Char × Scan)
  | some '.' :: r =>
    match digitRun r with
    | ([], _) => none
    | (ds, rest) => some ('.' :: ds, rest)
  | s => some ([], s)

/-- The digits of an exponent after its sign. -/
def exponentDigits (mark : List Char) (s : Scan) : Option (List Char × Scan) :=
  match digitRun s with
  | ([], _) => none
  | (ds, rest) => some (mark ++ ds, rest)

/-- An exponent, with its letter, if one is there. -/
def exponent : Scan → Option (List Char × Scan)
  | some 'e' :: some '-' :: r | some 'E' :: some '-' :: r => exponentDigits ['e', '-'] r
  | some 'e' :: some '+' :: r | some 'E' :: some '+' :: r => exponentDigits ['e'] r
  | some 'e' :: r | some 'E' :: r => exponentDigits ['e'] r
  | s => some ([], s)

/-- The minus sign, if one is there. -/
def sign : Scan → Bool × Scan
  | some '-' :: r => (true, r)
  | s => (false, s)

/-- A number. Minus zero is no whole number. -/
def number (s : Scan) : Option (Datum × Scan) := do
  let (negative, s) := sign s
  let (whole, s) ← wholePart s
  let (part, s) ← fraction s
  let (power, s) ← exponent s
  let n := Decimal.value whole
  let datum :=
    if part.isEmpty && power.isEmpty && !(negative && n == 0) then
      .whole (if negative then -n else n)
    else .decimal (String.ofList ((if negative then ['-'] else []) ++ whole ++ part ++ power))
  return (datum, s)

/-! ## Values -/

mutual

/-- A value at the front, after blanks. The fuel bounds the number of nested readings. -/
def value : Nat → Scan → Option (Datum × Scan)
  | 0, _ => none
  | fuel + 1, s =>
    match skipSpace s with
    | some 'n' :: some 'u' :: some 'l' :: some 'l' :: r => some (.null, r)
    | some 't' :: some 'r' :: some 'u' :: some 'e' :: r => some (.flag true, r)
    | some 'f' :: some 'a' :: some 'l' :: some 's' :: some 'e' :: r => some (.flag false, r)
    | some '"' :: r =>
      (literal r).map fun (t, rest) => (t.elim .garbled .text, rest)
    | some '[' :: r =>
      match skipSpace r with
      | some ']' :: r => some (.list [], r)
      | r => (items fuel r).map fun (ds, rest) => (.list ds, rest)
    | some '\x7b' :: r =>
      match skipSpace r with
      | some '\x7d' :: r => some (.record false [], r)
      | r => (members fuel r).map fun (ms, rest) => (.record false ms, rest)
    | s => number s

/-- The items of a list up to its closing bracket, at least one. -/
def items : Nat → Scan → Option (List Datum × Scan)
  | 0, _ => none
  | fuel + 1, s => do
    let (d, s) ← value fuel s
    match skipSpace s with
    | some ']' :: r => return ([d], r)
    | some ',' :: r =>
      let (ds, rest) ← items fuel r
      return (d :: ds, rest)
    | _ => none

/-- The members of a record up to its closing brace, at least one. -/
def members : Nat → Scan → Option (List (Option String × Datum) × Scan)
  | 0, _ => none
  | fuel + 1, s =>
    match skipSpace s with
    | some '"' :: r => do
      let (name, s) ← literal r
      match skipSpace s with
      | some ':' :: r =>
        let (d, s) ← value fuel r
        match skipSpace s with
        | some '\x7d' :: r => return ([(name, d)], r)
        | some ',' :: r =>
          let (ms, rest) ← members fuel r
          return ((name, d) :: ms, rest)
        | _ => none
      | _ => none
    | _ => none

end

/-- The value of a document that holds one value and blanks. -/
def read? (s : Scan) : Option Datum := do
  let (d, rest) ← value (2 * s.length + 2) s
  if (skipSpace rest).isEmpty then return d else none

end Portcullis.Json
