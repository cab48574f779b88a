import Portcullis.Store.Error
import Portcullis.Store.Table

/-!
# Routing tables

The rows that decide how the proxy routes, as they stand at one instant.

* Listeners and routes keep the order in which they came; domains and ssh ports are tables.
* `RouteSource` is what a reader of routes needs, and may fail at every question.
-/

namespace Portcullis

/-- All routing rows. -/
structure Routing where
  listeners : List Listener := []
  domains : Table Domain := .empty
  streamRoutes : List StreamRoute := []
  httpRoutes : List HttpRoute := []
  sshPorts : Table SshPort := .empty

/-- Puts a row behind the others, without the one that had its id. -/
def upsert [Row ρ] (rows : List ρ) (r : ρ) : List ρ :=
  rows.filter (fun x => Row.id x != Row.id r) ++ [r]

/-- The order of ids. -/
def byId [Row ρ] (a b : ρ) : Bool :=
  Row.id a ≤ Row.id b

/-- The order of a listener's stream routes: by index, then by id. -/
def StreamRoute.before (a b : StreamRoute) : Bool :=
  a.index < b.index || (a.index == b.index && a.id ≤ b.id)

namespace Routing

/-- All listeners by id. -/
def listenersById (r : Routing) : List Listener :=
  r.listeners.mergeSort byId

/-- The stream routes of a listener in their order. -/
def streamRoutesOf (r : Routing) (listenId : UInt32) : List StreamRoute :=
  (r.streamRoutes.filter (·.listenId == listenId)).mergeSort StreamRoute.before

/-- The http routes of a listener by id. -/
def httpRoutesOf (r : Routing) (listenId : UInt32) : List HttpRoute :=
  (r.httpRoutes.filter (·.listenId == listenId)).mergeSort byId

/-- The first listener of an id. -/
def listener? (r : Routing) (id : UInt32) : Option Listener :=
  r.listeners.find? (·.id == id)

end Routing

/-- A place to ask for routes and for the rows that they refer to. -/
structure RouteSource where
  streamRoutesOf : UInt32 → Except StoreError (List StreamRoute)
  httpRoutesOf : UInt32 → Except StoreError (List HttpRoute)
  domain? : UInt32 → Except StoreError (Option Domain)
  sshPort? : UInt32 → Except StoreError (Option SshPort)

/-- Routing tables answer every question. -/
def Routing.source (r : Routing) : RouteSource where
  streamRoutesOf id := .ok (r.streamRoutesOf id)
  httpRoutesOf id := .ok (r.httpRoutesOf id)
  domain? id := .ok (r.domains.get? id)
  sshPort? id := .ok (r.sshPorts.get? id)

end Portcullis
