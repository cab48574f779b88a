import Portcullis.Compile.Group
import Portcullis.Proxy.Config
import Portcullis.Settings.Basic

/-!
# From groups to blocks

The pieces of the proxy's configuration that groups of bindings ask for.

* A stream group gives its pools, one map from server names to pools, and one server.
* An http group gives a server per host and a default server with the error page.
* Where a piece is refused, the pieces before it are already in the block.
-/

namespace Portcullis

open Portcullis.Proxy

/-- The map input: the server name that the client asked for. -/
def serverNameVariable : String := "$ssl_preread_server_name"

/-- The output variable of a port's map. -/
def portVariable (port : Int32) : String :=
  "$ffstream" ++ portText port

/-- The status codes that the default server answers with a page. -/
def gatewayErrorCodes : List UInt16 := [500, 502, 503, 504]

/-! ## Stream -/

/-- Binds a route in a map. -/
def StreamBinding.bind (r : StreamBinding) (m : Map) : Except Rejection Map :=
  if r.isDefault then m.setDefault r.pool else m.addEntry r.domain.name r.pool

/-- Adds the pool and the target of each binding to the block, and its name to the map. -/
def emitBindings (b : Block) (m : Map) : List StreamBinding → Block × Except Rejection Map
  | [] => (b, .ok m)
  | r :: rest =>
    match b.addPool ((Pool.named r.pool).balanced r.balancing.directive?) with
    | .error e => (b, .error e)
    | .ok (_, b) =>
      let b := b.addTarget r.pool r.target
      match r.bind m with
      | .error e => (b, .error e)
      | .ok m => emitBindings b m rest

/-- The server of a stream port. -/
def StreamGroup.server (s : ProxySettings) (g : StreamGroup) : Server :=
  { Server.listening g.port.toInt with
    directives :=
      [⟨"set", s.listenIdVariable ++ " " ++ idText g.listenerId⟩,
        ⟨"js_access", s.accessHook⟩,
        ⟨"proxy_pass", portVariable g.port⟩,
        ⟨"ssl_preread", "on"⟩] }

/-- Adds what a group binds to the block; nothing, if it binds nothing. -/
def StreamGroup.emit (s : ProxySettings) (b : Block) (g : StreamGroup) :
    Block × Except Rejection Unit :=
  if g.bindings.isEmpty then (b, .ok ())
  else
    match emitBindings b (Map.between serverNameVariable (portVariable g.port)) g.bindings with
    | (b, .error e) => (b, .error e)
    | (b, .ok m) =>
      match b.addMap m with
      | .error e => (b, .error e)
      | .ok b =>
        match b.addServer (g.server s) with
        | .error e => (b, .error e)
        | .ok b => (b, .ok ())

/-- Adds part after part to a block, up to the first that is refused. -/
def emitEach (emit : Block → α → Block × Except Rejection Unit) (b : Block) :
    List α → Block × Except Rejection Unit
  | [] => (b, .ok ())
  | a :: rest =>
    match emit b a with
    | (b, .error e) => (b, .error e)
    | (b, .ok ()) => emitEach emit b rest

/-- Adds all stream groups to a block, behind the script; nothing, if none binds anything. -/
def emitStream (s : ProxySettings) (b : Block) (groups : List StreamGroup) :
    Block × Except Rejection Unit :=
  if groups.all (·.bindings.isEmpty) then (b, .ok ())
  else
    match b.addVariable "js_import" s.script with
    | .error e => (b, .error e)
    | .ok b => emitEach (StreamGroup.emit s) b groups

/-! ## Http -/

/-- Adds one server to a block. -/
def emitServer (b : Block) (s : Server) : Block × Except Rejection Unit :=
  match b.addServer s with
  | .error e => (b, .error e)
  | .ok b => (b, .ok ())

/-- The servers of an http port: one per host, and the default server. -/
def HttpGroup.servers (s : ProxySettings) (g : HttpGroup) : List Server :=
  let plain := Server.listening g.port.toInt
  g.hosts.map (fun h => { plain with name := some h.name }) ++
    [{ plain with isDefault := true, errorPages := [⟨gatewayErrorCodes, s.errorPageUri⟩] }]

/-- Adds the servers of a group to the block; none, if it has no hosts. -/
def HttpGroup.emit (s : ProxySettings) (b : Block) (g : HttpGroup) :
    Block × Except Rejection Unit :=
  if g.hosts.isEmpty then (b, .ok ()) else emitEach emitServer b (g.servers s)

/-- Adds all http groups to a block. -/
def emitHttp (s : ProxySettings) (b : Block) (groups : List HttpGroup) :
    Block × Except Rejection Unit :=
  emitEach (HttpGroup.emit s) b groups

end Portcullis
