import Portcullis.Admission.Endpoint
import Portcullis.Command.Basic
import Portcullis.Compile.Pass
import Portcullis.Settings.Load
import Portcullis.Store.Persist

/-!
# Running commands

What a command prints, the status that it ends with, and the files that it leaves.

* A misused command line ends with status 2, and a command that fails with status 1.
* Only `compile` with `--write` changes files.
-/

namespace Portcullis.Command

open Portcullis.Text
open Portcullis.Admission

/-- What a command leaves behind. -/
structure Ending where
  status : Nat
  out : String
  err : String
  files : Files

/-- How a question is put over the network: a URL and headers get a status, or no answer. -/
abbrev Client := String → Headers → Option Nat

def failed (message : String) (files : Files) : Ending :=
  ⟨1, "", "Error: " ++ message ++ "\n", files⟩

/-! ## Check -/

/-- Where a question goes. -/
def CheckQuestion.target (q : CheckQuestion) : String :=
  String.ofList (q.url.toList.reverse.dropWhile (· == '/')).reverse ++ accessPath

def CheckQuestion.headers (q : CheckQuestion) : Headers :=
  [("listen_id", Utf8.encode (Decimal.ofNat q.listenId.toNat)),
    ("realip_remote_addr", Utf8.encode q.address),
    ("remote_addr", Utf8.encode q.address),
    ("type", Utf8.encode q.kind)]

def runCheck (client : Client) (q : CheckQuestion) (files : Files) : Ending :=
  match client (CheckQuestion.target q) (CheckQuestion.headers q) with
  | none => failed "error sending request" files
  | some 200 => ⟨0, "allow\n", "", files⟩
  | some 401 => ⟨0, "deny\n", "", files⟩
  | some n =>
    ⟨2, "", "Error: oracle returned status " ++ Decimal.ofNat n ++ "\n", files⟩

/-! ## Compile -/

/-- Both texts under their paths. -/
def listing (c : Compiled) : String :=
  "# " ++ c.streamPath ++ "\n" ++ c.stream ++ "\n# " ++ c.httpPath ++ "\n" ++ c.http

/-- What is said about a compilation. -/
def remarks (write : Bool) (c : Compiled) : String :=
  (if c.stats.skippedRoutes = 0 then ""
    else "warning: " ++ Decimal.ofNat c.stats.skippedRoutes ++ " route(s) skipped\n") ++
  if !write then "" else if c.changed then "written\n" else "unchanged\n"

/-- Compiles, and writes the files if wanted. -/
def compiled (s : ProxySettings) (write : Bool) (view : Routing) (files : Files) :
    Except CompileError Compiled × Files :=
  if write then
    let (result, _, scene) :=
      Compiler.compile { settings := s } (.ok view) (⟨files, .empty⟩ : Scene Files)
    (result, scene.disk)
  else ((preview s (.ok view)).1, files)

/-- The settings of a file, or the defaults. -/
def settings (config : Option String) (files : Files) : Except SettingsError Settings :=
  match config with
  | some path => Settings.load files path
  | none => .ok {}

def runCompile (config : Option String) (state : String) (write : Bool) (files : Files) : Ending :=
  match settings config files with
  | .error e => failed e.message files
  | .ok s =>
    match (Store.load files state).1 with
    | .error e => failed e.message files
    | .ok store =>
      match compiled s.proxy write store.routing files with
      | (.error e, files) => failed e.message files
      | (.ok c, files) => ⟨0, listing c, remarks write c, files⟩

/-! ## Blacklist -/

def runBlacklist (state : String) (files : Files) : Ending :=
  match (Store.load files state).1 with
  | .error e => failed e.message files
  | .ok store =>
    let rows := Datum.list (store.ownBlacklist.map BlockRow.toDatum)
    ⟨0, Json.print .indented rows ++ "\n", "", files⟩

/-! ## All commands -/

/-- The files that settings name. -/
def settingsPaths (s : Settings) : List String :=
  [s.proxy.streamPath, s.proxy.httpPath] ++
    match s.oracle.tls with
    | some tls => [tls.certPath, tls.keyPath]
    | none => []

/-- The files that a command may look at, as far as the files that are there tell. -/
def paths (files : Files) : Command → List String
  | .check _ => []
  | .compile config state _ =>
    let named : Option Settings := do
      let bytes ← (files.read (← config)).toOption
      (Toml.read? (← Utf8.decode? bytes)).bind (Settings.ofDatum? .toml)
    config.toList ++ [state] ++ settingsPaths (named.getD {})
  | .blacklist state => [state]

def run (client : Client) (files : Files) : Command → Ending
  | .check q => runCheck client q files
  | .compile config state write => runCompile config state write files
  | .blacklist state => runBlacklist state files

/-- Runs a command line. -/
def execute (client : Client) (arguments : List String) (files : Files) : Ending :=
  match read arguments with
  | .run c => run client files c
  | .help text => ⟨0, text, "", files⟩
  | .misuse => ⟨2, "", overview, files⟩

end Portcullis.Command
