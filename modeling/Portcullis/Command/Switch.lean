import Portcullis.Admission.Request

/-!
# Switches of a command line

Reading arguments by a list of known switches: long names after two hyphens, short ones after one,
with the value attached or in the next argument.

* A switch is given at most once, and a value that starts with a hyphen has to be attached.
* Reading stops at the first fault, or where help is asked for.
-/

namespace Portcullis.Command

open Portcullis.Text

/-- What a switch takes. -/
inductive Taken where
  | nothing
  | text
  /-- A path, which is not empty. -/
  | path
  /-- A number of 32 bits. -/
  | number
  deriving DecidableEq, Repr

/-- A known switch. -/
structure Switch where
  long : String
  short : Option Char := none
  takes : Taken := .text
  isRequired : Bool := false
  default : Option String := none
  help : String := ""
  deriving DecidableEq, Repr

/-- Why there is nothing to run. -/
inductive Stop where
  | help
  | misuse
  deriving DecidableEq, Repr

/-- The switches that were given, by long name, with their values. -/
abbrev Given := List (String × String)

/-- A whole number, which a sign may precede. -/
def integer? (s : String) : Option Int :=
  match s.toList with
  | '-' :: digits => (Decimal.read? digits).map fun n => -Int.ofNat n
  | '+' :: digits => (Decimal.read? digits).map Int.ofNat
  | digits => (Decimal.read? digits).map Int.ofNat

/-- A number of 32 bits. Any spelling of it as an integer will do, so zero may be negative. -/
def number? (s : String) : Option UInt32 :=
  (integer? s).bind fun n =>
    if 0 ≤ n && n ≤ 4294967295 then some n.toNat.toUInt32 else none

namespace Switch

/-- Whether a switch can take a value. -/
def accepts (o : Switch) (value : String) : Bool :=
  match o.takes with
  | .nothing => false
  | .text => true
  | .path => value != ""
  | .number => (number? value).isSome

/-- Gives a switch, with its value. -/
def give (o : Switch) (value : String) (given : Given) : Except Stop Given :=
  if (given.lookup o.long).isSome then .error .misuse else .ok (given ++ [(o.long, value)])

/-- Gives a switch a value that it can take. -/
def giveValue (o : Switch) (value : String) (given : Given) : Except Stop Given :=
  if o.accepts value then o.give value given else .error .misuse

end Switch

/-! ## Arguments -/

/-- What has been read: the switches given, and the one that waits for its value. -/
structure Reading where
  given : Given := []
  waiting : Option Switch := none

/-- A name with its attached value, if it has one. -/
def splitValue (cs : List Char) : String × Option String :=
  match cs.span (· != '=') with
  | (name, '=' :: value) => (String.ofList name, some (String.ofList value))
  | (name, _) => (String.ofList name, none)

/-- Reads a long switch, after its hyphens. -/
def readLong (known : List Switch) (r : Reading) (cs : List Char) : Except Stop Reading :=
  let (name, value) := splitValue cs
  if name = "help" then .error (if value.isSome then .misuse else .help)
  else
    match known.find? (·.long == name), value with
    | none, _ => .error .misuse
    | some o, none =>
      if o.takes = .nothing then (o.give "" r.given).map ({ given := · })
      else .ok { r with waiting := some o }
    | some o, some value => (o.giveValue value r.given).map ({ given := · })

/-- Reads a short switch, after its hyphen, with the value attached to it. -/
def readShort (known : List Switch) (r : Reading) (c : Char) (rest : List Char) :
    Except Stop Reading :=
  if c = 'h' then .error .help
  else
    match known.find? (·.short == some c), rest with
    | none, _ => .error .misuse
    | some o, [] => .ok { r with waiting := some o }
    | some o, '=' :: value => (o.giveValue (String.ofList value) r.given).map ({ given := · })
    | some o, value => (o.giveValue (String.ofList value) r.given).map ({ given := · })

/-- Reads one argument. -/
def readArgument (known : List Switch) (r : Reading) (argument : String) :
    Except Stop Reading :=
  match argument.toList, r.waiting with
  | '-' :: _ :: _, some _ => .error .misuse
  | '-' :: '-' :: cs, none => readLong known r cs
  | '-' :: c :: cs, none => readShort known r c cs
  | _, some o => (o.giveValue argument r.given).map ({ given := · })
  | _, none => .error .misuse

/-- Reads arguments. Two hyphens alone end them, and nothing may follow. -/
def readArguments (known : List Switch) (r : Reading) : List String → Except Stop Reading
  | [] => .ok r
  | ["--"] => .ok r
  | "--" :: _ => .error .misuse
  | a :: rest =>
    match readArgument known r a with
    | .ok r => readArguments known r rest
    | .error e => .error e

/-- The switches that some arguments give, all required ones among them. -/
def readSwitches (known : List Switch) (arguments : List String) : Except Stop Given :=
  match readArguments known {} arguments with
  | .error e => .error e
  | .ok r =>
    if r.waiting.isSome then .error .misuse
    else if known.all fun o => !o.isRequired || (r.given.lookup o.long).isSome then .ok r.given
    else .error .misuse

/-- The value of a switch, or its default. -/
def Switch.value? (o : Switch) (given : Given) : Option String :=
  (given.lookup o.long).or o.default

end Portcullis.Command
