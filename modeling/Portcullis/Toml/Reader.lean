import Portcullis.Text.Utf8
import Portcullis.Toml.Number
import Portcullis.Toml.Quoted
import Portcullis.Toml.Tree

/-!
# Reading TOML

A document is a sequence of lines: comments, headers, and keys with values.  A key with a value
belongs to the table of the last header above it.

* `key` reads a dotted key, `value` a value, and `statement` a line.
* `read?` reads a document as a record.
-/

namespace Portcullis.Toml

open Portcullis.Text

/-- Nesting, of values or of keys, stays below this depth. -/
def depthLimit : Nat := 80

/-! ## Keys -/

def isBare (c : Char) : Bool :=
  c.isAlphanum || c == '-' || c == '_'

/-- A key without dots. -/
def simpleKey : List Char → Option (String × List Char)
  | '"' :: r => (basic r).map fun (cs, rest) => (String.ofList cs, rest)
  | '\'' :: r => (literal r).map fun (cs, rest) => (String.ofList cs, rest)
  | s =>
    match s.takeWhile isBare with
    | [] => none
    | cs => some (String.ofList cs, s.dropWhile isBare)

/-- The parts of a dotted key, with blanks around each. The fuel bounds their number. -/
def keyParts : Nat → List Char → Option (List String × List Char)
  | 0, _ => none
  | fuel + 1, s => do
    let (k, s) ← simpleKey (skipSpace s)
    match skipSpace s with
    | '.' :: r =>
      let (ks, rest) ← keyParts fuel r
      return (k :: ks, rest)
    | rest => return ([k], rest)

/-- A dotted key: the parts before the last one, and the last one. -/
def key (s : List Char) : Option ((List String × String) × List Char) := do
  let (ks, rest) ← keyParts (s.length + 1) s
  let last ← ks.getLast?
  if ks.length < depthLimit then return ((ks.dropLast, last), rest) else none

/-! ## Lines -/

/-- Leaves out a comment. -/
def skipComment : List Char → List Char
  | '#' :: r => r.dropWhile isPlain
  | s => s

/-- What follows the end of a line, which blanks and a comment may precede. -/
def lineEnd? (s : List Char) : Option (List Char) :=
  match skipComment (skipSpace s) with
  | [] => some []
  | s => lineBreak? s

/-- Leaves out blanks, line breaks and whole comments. The fuel bounds the number of comments. -/
def skipGaps : Nat → List Char → List Char
  | 0, s => s
  | fuel + 1, s =>
    match skipLines s with
    | '#' :: r =>
      match lineBreak? (r.dropWhile isPlain) with
      | some rest => skipGaps fuel rest
      | none => '#' :: r
    | s => s

/-! ## Values -/

mutual

/-- A value at the front. Lists and inline tables nest no deeper than `room`; the fuel bounds the
number of nested readings. -/
def value : Nat → Nat → List Char → Option (Datum × List Char)
  | 0, _, _ => none
  | fuel + 1, room, s =>
    match s with
    | '"' :: _ | '\'' :: _ => (quoted s).map fun (cs, rest) => (.text (String.ofList cs), rest)
    | '[' :: r =>
      match room with
      | 0 => none
      | room + 1 =>
        match skipGaps fuel r with
        | ']' :: r => some (.list [], r)
        | r => (items fuel room r).map fun (ds, rest) => (.list ds, rest)
    | '\x7b' :: r =>
      match room with
      | 0 => none
      | room + 1 =>
        match skipSpace r with
        | '\x7d' :: r => some (.record false [], r)
        | r => (pairs fuel room [] r).map fun (ms, rest) =>
          (.record false (Members.toData false ms), rest)
    | 't' :: 'r' :: 'u' :: 'e' :: r => some (.flag true, r)
    | 'f' :: 'a' :: 'l' :: 's' :: 'e' :: r => some (.flag false, r)
    | s => (moment s).or (number s)

/-- The items of a list up to its closing bracket. -/
def items : Nat → Nat → List Char → Option (List Datum × List Char)
  | 0, _, _ => none
  | fuel + 1, room, s => do
    let (d, s) ← value fuel room s
    match skipGaps fuel s with
    | ']' :: r => return ([d], r)
    | ',' :: r =>
      match skipGaps fuel r with
      | ']' :: r => return ([d], r)
      | r =>
        let (ds, rest) ← items fuel room r
        return (d :: ds, rest)
    | _ => none

/-- The members of an inline table up to its closing brace, added to those before them. -/
def pairs : Nat → Nat → Members → List Char → Option (Members × List Char)
  | 0, _, _, _ => none
  | fuel + 1, room, ms, s => do
    let ((path, k), s) ← key s
    let s ← after? '=' s
    let (d, s) ← value fuel room (skipSpace s)
    let ms ← ms.assign path k d
    match skipSpace s with
    | '\x7d' :: r => return (ms, r)
    | ',' :: r => pairs fuel room ms r
    | _ => none

end

/-! ## Documents -/

/-- The tables of a document up to a line, and the header that is in force there. -/
structure Draft where
  root : Members := []
  here : List String := []

/-- A header, after its opening brackets. -/
def header (close : List Char → Option (List Char))
    (define : List String → String → Members → Option Members) (d : Draft) (s : List Char) :
    Option (Draft × List Char) := do
  let ((path, k), s) ← key s
  let s ← close s
  let rest ← lineEnd? s
  let root ← define path k d.root
  return (⟨root, path ++ [k]⟩, rest)

/-- One line that is not blank. -/
def statement (d : Draft) : List Char → Option (Draft × List Char)
  | '#' :: r => (lineEnd? ('#' :: r)).map (d, ·)
  | '[' :: '[' :: r =>
    header (fun s => (after? ']' s).bind (after? ']')) (fun p k ms => ms.extend p k) d r
  | '[' :: r => header (after? ']') (fun p k ms => ms.define p k) d r
  | s => do
    let ((path, k), s) ← key s
    let s ← after? '=' s
    let (v, s) ← value (2 * s.length + 2) (depthLimit - 1) (skipSpace s)
    let rest ← lineEnd? s
    let root ← d.root.assignAt d.here path k v
    return ({ d with root := root }, rest)

/-- The lines of a document. The fuel bounds their number. -/
def lines : Nat → Draft → List Char → Option Draft
  | 0, _, _ => none
  | fuel + 1, d, s =>
    match skipLines s with
    | [] => some d
    | s => do
      let (d, rest) ← statement d s
      lines fuel d rest

/-- The record that a document denotes, before which a byte order mark may stand. -/
def read? (text : String) : Option Datum :=
  let s := text.toList
  let s := if s.head? == some '\ufeff' then s.drop 1 else s
  (lines (s.length + 1) {} s).map fun d => .record true (Members.toData true d.root)

end Portcullis.Toml
