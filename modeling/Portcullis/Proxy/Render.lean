import Portcullis.Proxy.Config

/-!
# The proxy's grammar

The text of a block in the grammar that the proxy reads.

* `quoted` wraps a token that the grammar would split or end.
* `Block.lines` lists the lines of a block: its own directives, then pools, maps and servers,
  each part followed by an empty line unless it is the last.
-/

namespace Portcullis.Proxy

open Portcullis.Text

/-- The characters that end a token, or would start another kind of token. -/
def isSpecial (c : Char) : Bool :=
  isBlank c || c == ';' || c == '\x7b' || c == '\x7d' || c == '"' || c == '\'' || c == '#'

/-- Whether a token has to stand in quotes. -/
def needsQuotes (token : String) : Bool :=
  token == "" || token.toList.any isSpecial

/-- A character between quotes. -/
def quotedChar (c : Char) : List Char :=
  if c == '\\' || c == '"' then ['\\', c] else [c]

/-- A token, in quotes if it needs them. -/
def quoted (token : String) : String :=
  if needsQuotes token then
    String.ofList ('"' :: token.toList.flatMap quotedChar ++ ['"'])
  else token

/-- A line on a level. -/
def indent (level : Nat) (line : String) : String :=
  String.ofList (List.replicate (4 * level) ' ' ++ line.toList)

/-- A directive's line. Its value may hold several tokens and is written as it is. -/
def Directive.line (d : Directive) : String :=
  if d.value = "" then d.name ++ ";" else d.name ++ " " ++ d.value ++ ";"

/-- A block's part: an opening line, inner lines and a closing brace. -/
def braced (head : String) (inner : List String) : List String :=
  indent 1 (head ++ " \x7b") :: inner.map (indent 2) ++ [indent 1 "\x7d"]

def Pool.lines (p : Pool) : List String :=
  braced ("upstream " ++ p.name)
    (p.directives.map Directive.line ++ p.targets.map fun t => "server " ++ t ++ ";")

def Map.lines (m : Map) : List String :=
  braced ("map " ++ m.input ++ " " ++ m.output)
    (m.entries.map (fun (key, value) => quoted key ++ " " ++ quoted value ++ ";") ++
      m.fallback.toList.map fun value => "default " ++ quoted value ++ ";")

def ErrorPage.line (p : ErrorPage) : String :=
  "error_page " ++ " ".intercalate (p.codes.map fun c => Decimal.ofNat c.toNat) ++ " " ++
    quoted p.uri ++ ";"

def Server.lines (s : Server) : List String :=
  braced "server"
    (("listen " ++ Decimal.ofInt s.port ++ (if s.isDefault then " default_server;" else ";")) ::
      s.name.toList.map (fun name => "server_name " ++ quoted name ++ ";") ++
      s.directives.map Directive.line ++ s.errorPages.map ErrorPage.line)

/-- The parts of a block, each as its lines. -/
def Block.parts (b : Block) : List (List String) :=
  (if b.vars.isEmpty then [] else [b.vars.map fun d => indent 1 d.line]) ++
    b.pools.map Pool.lines ++ b.maps.map Map.lines ++ b.servers.map Server.lines

/-- The first line of every generated file. -/
def header : String :=
  "# Generated by gatehouse. Manual edits are overwritten."

def Block.lines (b : Block) : List String :=
  header :: (b.kind.name ++ " \x7b") :: (b.parts.intersperse [""]).flatten ++ ["\x7d"]

/-- Lines as text, each ended by a line break. -/
def unlines (lines : List String) : String :=
  String.ofList (lines.flatMap fun l => l.toList ++ ['\n'])

/-- The text of a block. -/
def Block.render (b : Block) : String :=
  unlines b.lines

end Portcullis.Proxy
