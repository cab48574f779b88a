import Portcullis.Datum.Basic
import Portcullis.Text.Decimal

/-!
# Writing JSON

A datum as JSON text, on one line or indented by two blanks a level.

* `quoted` writes a string: quotes, backslashes and control characters are escaped, and nothing
  else is.
* `print` writes a datum in a layout.
-/

namespace Portcullis.Json

open Portcullis.Text

/-- Where line breaks and blanks stand. -/
inductive Layout where
  | compact
  | indented
  deriving DecidableEq

/-- A hexadecimal digit in lower case. -/
def hexDigit (n : Nat) : Char :=
  Char.ofNat (if n < 10 then 48 + n else 87 + n)

/-- A character within a string. -/
def escape (c : Char) : List Char :=
  if c == '"' then ['\\', '"']
  else if c == '\\' then ['\\', '\\']
  else if c == '\x08' then ['\\', 'b']
  else if c == '\x0c' then ['\\', 'f']
  else if c == '\n' then ['\\', 'n']
  else if c == '\r' then ['\\', 'r']
  else if c == '\t' then ['\\', 't']
  else if c.toNat < 0x20 then
    ['\\', 'u', '0', '0', hexDigit (c.toNat / 16), hexDigit (c.toNat % 16)]
  else [c]

def quoted (s : String) : List Char :=
  '"' :: s.toList.flatMap escape ++ ['"']

/-- What stands before an item, a member or a closing bracket on a level. -/
def Layout.gap (layout : Layout) (level : Nat) : List Char :=
  match layout with
  | .compact => []
  | .indented => '\n' :: List.replicate (2 * level) ' '

/-- What stands between a member's name and its value. -/
def Layout.colon : Layout → List Char
  | .compact => [':']
  | .indented => [':', ' ']

/-- Parts on a level between brackets, which stand together when there is no part. -/
def Layout.bracket (layout : Layout) (level : Nat) (left right : Char)
    (parts : List (List Char)) : List Char :=
  match parts with
  | [] => [left, right]
  | p :: ps =>
    let gap := layout.gap (level + 1)
    left :: gap ++ p ++ ps.flatMap (fun q => ',' :: gap ++ q) ++ layout.gap level ++ [right]

mutual

/-- A datum whose closing bracket stands on a level. -/
def printAt (layout : Layout) (level : Nat) : Datum → List Char
  | .null => "null".toList
  | .flag b => (if b then "true" else "false").toList
  | .whole n => (Decimal.ofInt n).toList
  | .decimal literal => literal.toList
  | .text s => quoted s
  | .garbled => quoted ""
  | .list ds => layout.bracket level '[' ']' (printItems layout (level + 1) ds)
  | .record _ ms => layout.bracket level '\x7b' '\x7d' (printMembers layout (level + 1) ms)

def printItems (layout : Layout) (level : Nat) : List Datum → List (List Char)
  | [] => []
  | d :: ds => printAt layout level d :: printItems layout level ds

def printMembers (layout : Layout) (level : Nat) :
    List (Option String × Datum) → List (List Char)
  | [] => []
  | (name, d) :: ms =>
    (quoted (name.getD "") ++ layout.colon ++ printAt layout level d) ::
      printMembers layout level ms

end

/-- The text of a datum. -/
def print (layout : Layout) (d : Datum) : String :=
  String.ofList (printAt layout 0 d)

end Portcullis.Json
