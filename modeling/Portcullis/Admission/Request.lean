import Portcullis.Text.Blank
import Portcullis.Text.Decimal
import Portcullis.Text.Utf8

/-!
# Admission requests

What the proxy's hook tells about a connection, in headers.

* Header names do not depend on case, the first value of a name counts, and a value with bytes
  other than tabs and visible ASCII reads as empty.
* The listener id is the integer at the front of its header; zero, or no digit, asks for the
  check that holds for all listeners.
-/

namespace Portcullis.Admission

open Portcullis.Text

/-- Which layer of the proxy asks. It does not influence the answer. -/
inductive CheckKind where
  | stream
  | http
  | unknown
  deriving DecidableEq, Repr

namespace CheckKind

def name : CheckKind → String
  | stream => "stream"
  | http => "http"
  | unknown => "unknown"

/-- The kind that a text names, in any case and with blank ends. -/
def read (raw : String) : CheckKind :=
  match String.ofList ((trimChars raw.toList).map Char.toLower) with
  | "stream" => stream
  | "http" => http
  | _ => unknown

end CheckKind

/-- A connection that asks to be let in. -/
structure Request where
  /-- None asks for the check that holds for all listeners. -/
  listenerId : Option Int
  /-- The source address behind trusted proxies. -/
  address : String
  rawAddress : String
  kind : CheckKind
  deriving DecidableEq, Repr

/-- Headers in the order in which they came. -/
abbrev Headers := List (String × List UInt8)

/-- Header names are compared without regard to ASCII case. -/
def sameName (a b : String) : Bool :=
  a.toList.map Char.toLower == b.toList.map Char.toLower

/-- A byte that a readable header value may hold. -/
def isVisible (b : UInt8) : Bool :=
  b == 9 || (32 ≤ b && b ≤ 126)

/-- The text of a header value; empty if it holds anything but tabs and visible ASCII. -/
def valueText (value : List UInt8) : String :=
  if value.all isVisible then
    String.ofList (trimChars (value.map fun b => Char.ofNat b.toNat))
  else ""

/-- The text of the first header of a name; empty if there is none. -/
def header (headers : Headers) (name : String) : String :=
  match headers.find? fun h => sameName h.1 name with
  | some (_, value) => valueText value
  | none => ""

/-- The greatest magnitude of an id. -/
def maxMagnitude : Nat := 9223372036854775807

/-- A sign at the front of a text: whether it is a minus sign, and what follows it. -/
def splitSign : List Char → Bool × List Char
  | '-' :: r => (true, r)
  | '+' :: r => (false, r)
  | r => (false, r)

/-- The integer at the front of a text, of limited magnitude, unless it is zero. -/
def readListenerId (raw : String) : Option Int :=
  let (negative, rest) := splitSign raw.toList
  let digits := rest.takeWhile Char.isDigit
  let magnitude := min (Decimal.value digits) maxMagnitude
  if magnitude = 0 then none
  else some (if negative then -(magnitude : Int) else magnitude)

/-- The request that some headers make. -/
def Request.ofHeaders (headers : Headers) : Request where
  listenerId := readListenerId (header headers "listen_id")
  address := header headers "realip_remote_addr"
  rawAddress := header headers "remote_addr"
  kind := .read (header headers "type")

end Portcullis.Admission
