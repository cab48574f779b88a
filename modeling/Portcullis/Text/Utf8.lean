/-!
# Text read from bytes

Bytes as they come from a file, read as UTF-8 without giving up at the first fault.

* A *scan* is a list of symbols: `some c` for a character, and `none` for a byte that belongs to
  no character.  A reader may skip a stray byte where it does not have to understand the text.
* `decode` scans bytes and `decode?` insists on well-formed text.
* `encode` writes the bytes of a text.
-/

namespace Portcullis.Text

/-- Characters read from bytes, with `none` for each byte that belongs to no character. -/
abbrev Scan := List (Option Char)

namespace Utf8

/-- The payload of a continuation byte. -/
def tail? (b : UInt8) : Option Nat :=
  if 0x80 ≤ b && b ≤ 0xBF then some (b.toNat - 0x80) else none

/-- The character of a code point that is no surrogate and needs at least `least` to be
written in this length. -/
def charAt? (least n : Nat) : Option Char :=
  if h : least ≤ n ∧ n.isValidChar then some (Char.ofNatAux n h.2) else none

/-- The character at the front of some bytes, with the number of bytes it takes. -/
def front? : List UInt8 → Option (Char × Nat)
  | [] => none
  | a :: r =>
    if a < 0x80 then (charAt? 0 a.toNat).map (·, 1)
    else if 0xC2 ≤ a && a ≤ 0xDF then
      match r with
      | b :: _ => do
        let x ← tail? b
        (charAt? 0x80 ((a.toNat - 0xC0) * 64 + x)).map (·, 2)
      | _ => none
    else if 0xE0 ≤ a && a ≤ 0xEF then
      match r with
      | b :: c :: _ => do
        let x ← tail? b
        let y ← tail? c
        (charAt? 0x800 (((a.toNat - 0xE0) * 64 + x) * 64 + y)).map (·, 3)
      | _ => none
    else if 0xF0 ≤ a && a ≤ 0xF4 then
      match r with
      | b :: c :: d :: _ => do
        let x ← tail? b
        let y ← tail? c
        let z ← tail? d
        (charAt? 0x10000 ((((a.toNat - 0xF0) * 64 + x) * 64 + y) * 64 + z)).map (·, 4)
      | _ => none
    else none

/-- Reads bytes as characters, byte for byte where that fails. -/
def decode (bytes : List UInt8) : Scan :=
  match bytes with
  | [] => []
  | b :: r =>
    match front? (b :: r) with
    | some (c, n) => some c :: decode (r.drop (n - 1))
    | none => none :: decode r
termination_by bytes.length
decreasing_by
  · simp only [List.length_drop, List.length_cons]; omega
  · simp

/-- Reads well-formed text. -/
def decode? (bytes : List UInt8) : Option String :=
  ((decode bytes).mapM id).map String.ofList

/-- The bytes of a text. -/
def encode (s : String) : List UInt8 :=
  s.toUTF8.toList

end Utf8

/-- A text as a scan without stray bytes. -/
def Scan.ofString (s : String) : Scan :=
  s.toList.map some

/-- The characters of a scan, unless it holds a stray byte. -/
def Scan.chars? (s : Scan) : Option (List Char) :=
  s.mapM id

end Portcullis.Text
