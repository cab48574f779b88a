import Portcullis.Command.Switch

/-!
# Commands

What can be asked for on the command line, and the help texts.

* `Command.read` reads a whole command line.
* `helpText` lays switches out in two columns.
-/

namespace Portcullis

/-- A question to a running oracle. -/
structure CheckQuestion where
  listenId : UInt32
  address : String
  url : String
  kind : String
  deriving DecidableEq, Repr

inductive Command where
  | check (q : CheckQuestion)
  | compile (config : Option String) (state : String) (write : Bool)
  | blacklist (state : String)
  deriving DecidableEq, Repr

namespace Command

/-- The name that the program goes by. -/
def programName : String := "gatehouse-cli"

/-! ## The switches of each command -/

def listenIdSwitch : Switch where
  long := "listen-id"
  short := some 'l'
  takes := .number
  default := some "0"
  help := "Listener id; 0 selects the global blacklist check"

def addressSwitch : Switch where
  long := "addr"
  short := some 'a'
  isRequired := true
  help := "Source address to check"

def urlSwitch : Switch where
  long := "url"
  short := some 'u'
  default := some "http://127.0.0.1:3000"

def kindSwitch : Switch where
  long := "kind"
  default := some "stream"

def configSwitch : Switch where
  long := "config"
  short := some 'c'
  takes := .path
  help := "Gateway settings (TOML); defaults apply when omitted"

def stateSwitch : Switch where
  long := "state"
  short := some 's'
  takes := .path
  isRequired := true
  help := "Routing snapshot (JSON)"

def writeSwitch : Switch where
  long := "write"
  takes := .nothing
  help := "Atomically replace the configured output files"

/-- A command as it is named and described. -/
structure Topic where
  name : String
  about : String
  switches : List Switch

def checkTopic : Topic where
  name := "check"
  about := "Ask a running oracle whether an address would be admitted"
  switches := [listenIdSwitch, addressSwitch, urlSwitch, kindSwitch]

def compileTopic : Topic where
  name := "compile"
  about := "Compile proxy configuration from a routing snapshot"
  switches := [configSwitch, stateSwitch, writeSwitch]

def blacklistTopic : Topic where
  name := "blacklist"
  about := "List administrator-owned blacklist entries, most recent block first"
  switches := [stateSwitch]

def topics : List Topic :=
  [checkTopic, compileTopic, blacklistTopic]

/-! ## Help -/

/-- A name as a placeholder for a value. -/
def placeholder (name : String) : String :=
  "<" ++ String.ofList (name.toList.map fun c => if c == '-' then '_' else c.toUpper) ++ ">"

namespace Switch

/-- A switch by its long name, with a placeholder for its value. -/
def longText (o : Switch) : String :=
  "--" ++ o.long ++ if o.takes = .nothing then "" else " " ++ placeholder o.long

/-- A switch by both names. -/
def text (o : Switch) : String :=
  match o.short with
  | some c => String.ofList ['-', c, ',', ' '] ++ o.longText
  | none => "    " ++ o.longText

/-- What is said of a switch. -/
def remark (o : Switch) : String :=
  match o.default with
  | some d =>
    (if o.help = "" then "" else o.help ++ " ") ++ "[default: " ++ d ++ "]"
  | none => o.help

end Switch

/-- Rows of two columns, of which the first is as wide as it has to be. -/
def columns (rows : List (String × String)) : String :=
  let width := (rows.map (·.1.length)).foldl max 0
  String.join (rows.map fun (left, right) =>
    "  " ++ left ++ String.ofList (List.replicate (width - left.length + 2) ' ') ++ right ++ "\n")

def helpRow : String × String :=
  ("-h, --help", "Print help")

/-- A help text: what it is about, how it is used, and what there is to choose from. -/
def helpText (about usage rest : String) : String :=
  about ++ "\n\nUsage: " ++ programName ++ " " ++ usage ++ "\n\n" ++ rest

def Topic.usage (t : Topic) : String :=
  " ".intercalate
    (t.name :: (if t.switches.any (!·.isRequired) then ["[OPTIONS]"] else []) ++
      (t.switches.filter (·.isRequired)).map Switch.longText)

def Topic.helpText (t : Topic) : String :=
  Command.helpText t.about t.usage
    ("Options:\n" ++ columns ((t.switches.map fun o => (o.text, o.remark)) ++ [helpRow]))

def helpAbout : String := "Print this message or the help of the given subcommand(s)"

/-- The help of the whole program. -/
def overview : String :=
  helpText "Operator CLI for the gatehouse control plane" "<COMMAND>"
    ("Commands:\n" ++ columns ((topics.map fun t => (t.name, t.about)) ++ [("help", helpAbout)]) ++
      "\nOptions:\n" ++ columns [helpRow])

/-- The help of the command that prints help. -/
def helpHelp : String :=
  helpText helpAbout "help [COMMAND]..."
    ("Arguments:\n" ++ columns [("[COMMAND]...", "Print help for the subcommand(s)")])

/-! ## Reading -/

/-- What a command line asks for. -/
inductive Asked where
  | run (c : Command)
  | help (text : String)
  | misuse
  deriving DecidableEq, Repr

/-- The command that given switches make. -/
def Topic.command? (t : Topic) (given : Given) : Option Command := do
  match t.name with
  | "check" =>
    return .check {
      listenId := ← (listenIdSwitch.value? given).bind number?
      address := ← addressSwitch.value? given
      url := ← urlSwitch.value? given
      kind := ← kindSwitch.value? given }
  | "compile" =>
    return .compile (configSwitch.value? given) (← stateSwitch.value? given)
      (writeSwitch.value? given).isSome
  | _ => return .blacklist (← stateSwitch.value? given)

/-- Reads the arguments after a command's name. -/
def Topic.read (t : Topic) (arguments : List String) : Asked :=
  match readSwitches t.switches arguments with
  | .ok given => (t.command? given).elim .misuse .run
  | .error .help => .help t.helpText
  | .error .misuse => .misuse

def topic? (name : String) : Option Topic :=
  topics.find? (·.name == name)

/-- Whether an argument asks for help right away. -/
def asksForHelp (argument : String) : Bool :=
  argument == "--help" || (['-', 'h']).isPrefixOf argument.toList

/-- Reads a command line. -/
def read : List String → Asked
  | [] => .misuse
  | ["help"] => .help overview
  | ["help", "help"] => .help helpHelp
  | ["help", name] => (topic? name).elim .misuse fun t => .help t.helpText
  | name :: rest =>
    if asksForHelp name then .help overview
    else (topic? name).elim .misuse fun t => t.read rest

end Command

end Portcullis
