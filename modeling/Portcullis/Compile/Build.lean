import Portcullis.Compile.Emission
import Portcullis.Compile.Error
import Portcullis.Proxy.Render

/-!
# From rows to configuration

`build` makes the whole configuration of some routing rows, and `preview` its two texts.  Both
are functions of the rows and the settings alone.
-/

namespace Portcullis

open Portcullis.Proxy
open Portcullis.Telemetry

/-- How much a configuration holds. -/
structure Stats where
  listeners : Nat := 0
  pools : Nat := 0
  maps : Nat := 0
  streamServers : Nat := 0
  httpServers : Nat := 0
  /-- Routes left out because a reference leads nowhere. -/
  skippedRoutes : Nat := 0
  deriving DecidableEq, Repr

/-- The two generated texts and where they belong. -/
structure Compiled where
  stream : String
  http : String
  streamPath : String
  httpPath : String
  /-- Whether a file has to change, or had to. -/
  changed : Bool
  stats : Stats
  deriving DecidableEq, Repr

/-- What the listeners bind, by port. -/
structure Gathered where
  streams : List StreamGroup := []
  https : List HttpGroup := []
  skipped : Nat := 0
  notes : List Event := []

namespace Gathered

/-- Counts and reports what became of a listener's routes. -/
def account (g : Gathered) (skipped : Nat) (notes : List Event) : Gathered :=
  { g with skipped := g.skipped + skipped, notes := g.notes ++ notes }

/-- Adds what a listener binds. -/
def add (source : RouteSource) (listeners : List Listener) (lead : String) (g : Gathered)
    (l : Listener) : Option StoreError × Gathered :=
  match l.kind with
  | .stream =>
    let (failure, found) := resolveStream source listeners lead l
    let g := g.account found.skipped found.notes
    match failure with
    | some e => (some e, g)
    | none =>
      let (groups, notes) := StreamGroup.insert l.port l.id found.bindings g.streams
      (none, { g.account 0 notes with streams := groups })
  | .http =>
    let (failure, found) := resolveHttp source l
    let g := g.account found.skipped found.notes
    match failure with
    | some e => (some e, g)
    | none =>
      let (groups, notes) := HttpGroup.insert l.port found.bindings g.https
      (none, { g.account 0 notes with https := groups })

/-- Adds what listeners bind, in order, up to the first failure of the store. -/
def addAll (source : RouteSource) (listeners : List Listener) (lead : String) (g : Gathered) :
    List Listener → Option StoreError × Gathered
  | [] => (none, g)
  | l :: rest =>
    match g.add source listeners lead l with
    | (some e, g) => (some e, g)
    | (none, g) => g.addAll source listeners lead rest

end Gathered

/-- What all listeners bind, by id. -/
def gather (r : Routing) (lead : String) : Option StoreError × Gathered :=
  Gathered.addAll r.source r.listenersById lead {} r.listenersById

/-- The configuration that gathered groups ask for. -/
def emitConfig (s : ProxySettings) (g : Gathered) : Except CompileError Config :=
  match emitStream s (Block.empty .stream) g.streams with
  | (_, .error e) => .error (.invalid e)
  | (stream, .ok ()) =>
    match emitHttp s (Block.empty .http) g.https with
    | (_, .error e) => .error (.invalid e)
    | (http, .ok ()) => .ok ⟨stream, http⟩

/-- How much a configuration of some rows holds. -/
def Stats.of (r : Routing) (g : Gathered) (c : Config) : Stats where
  listeners := r.listeners.length
  pools := c.stream.pools.length
  maps := c.stream.maps.length
  streamServers := c.stream.servers.length
  httpServers := c.http.servers.length
  skippedRoutes := g.skipped

/-- The configuration of some routing rows, and what there is to report. -/
def build (s : ProxySettings) (r : Routing) :
    Except CompileError (Config × Stats) × List Event :=
  match gather r s.poolPrefix with
  | (some e, g) => (.error (.store e), g.notes)
  | (none, g) => ((emitConfig s g).map fun c => (c, Stats.of r g c), g.notes)

/-- Both texts of a configuration. -/
def Compiled.of (s : ProxySettings) (c : Config) (stats : Stats) : Compiled where
  stream := c.stream.render
  http := c.http.render
  streamPath := s.streamPath
  httpPath := s.httpPath
  changed := false
  stats := stats

/-- Both texts of the configuration of some routing rows, which may not be readable. -/
def preview (s : ProxySettings) (view : Except StoreError Routing) :
    Except CompileError Compiled × List Event :=
  match view with
  | .error e => (.error (.store e), [])
  | .ok r =>
    let (result, notes) := build s r
    (result.map fun (c, stats) => .of s c stats, notes)

end Portcullis
