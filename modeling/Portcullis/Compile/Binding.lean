import Portcullis.Net.Address
import Portcullis.Store.Routing
import Portcullis.Telemetry.Event
import Portcullis.Text.Blank

/-!
# Resolving routes

A route refers to rows by id.  Resolving follows the references and gives what the route binds:
for a stream route a pool and a target, for an http route a host.

* A route that refers to nothing usable is left out, with a warning, and a reference that cannot
  be read counts as missing.  Every other failure of the store ends the resolution.
* `resolveEach` resolves routes in order and counts those left out.
-/

namespace Portcullis

open Portcullis.Text
open Portcullis.Telemetry

/-- What became of one route: what it binds, if anything, and what there is to report. -/
structure Fate (β : Type) where
  binding : Option β
  notes : List Event

/-- What became of some routes. -/
structure Resolution (β : Type) where
  bindings : List β
  skipped : Nat
  notes : List Event

namespace Resolution

variable {β : Type}

def empty : Resolution β :=
  ⟨[], 0, []⟩

/-- The fate of one more route, before those of others. -/
def cons (fate : Fate β) (rest : Resolution β) : Resolution β where
  bindings := fate.binding.toList ++ rest.bindings
  skipped := (if fate.binding.isNone then 1 else 0) + rest.skipped
  notes := fate.notes ++ rest.notes

end Resolution

/-- Resolves routes in order, up to the first failure of the store. -/
def resolveEach (resolve : α → Except StoreError (Fate β)) :
    List α → Option StoreError × Resolution β
  | [] => (none, .empty)
  | a :: rest =>
    match resolve a with
    | .error e => (some e, .empty)
    | .ok fate =>
      let (failure, others) := resolveEach resolve rest
      (failure, others.cons fate)

/-- The numeral of an id. -/
def idText (id : UInt32) : String :=
  Decimal.ofNat id.toNat

/-- Asks for a row. A row that cannot be read counts as missing, with a warning. -/
def readRow (what : String) (id : UInt32) (reply : Except StoreError (Option α)) :
    Except StoreError (Fate α) :=
  match reply with
  | .ok found => .ok ⟨found, []⟩
  | .error e =>
    if e.isRowLevel then
      .ok ⟨none, [⟨.compiler, .warn, "Skipping unreadable row",
        [("what", what), ("id", idText id), ("error", e.message)]⟩]⟩
    else .error e

/-! ## Stream routes -/

/-- A stream route with its references followed. -/
structure StreamBinding where
  routeId : UInt32
  domain : Domain
  pool : String
  target : String
  balancing : Balancing
  isDefault : Bool
  deriving DecidableEq, Repr

/-- The name of the pool of an alias and a domain. -/
def poolName (lead aliasName : String) (domainId : UInt32) : String :=
  if aliasName = "" then lead ++ idText domainId else lead ++ aliasName ++ "_" ++ idText domainId

/-- A host with a port. An IPv6 address stands in brackets. -/
def hostPort (host : String) (port : Nat) : String :=
  if (Net.Ipv6.read? host).isSome then "[" ++ host ++ "]:" ++ Decimal.ofNat port
  else host ++ ":" ++ Decimal.ofNat port

/-- A port of this host. -/
def localPort (port : Int) : String :=
  "127.0.0.1:" ++ Decimal.ofInt port

/-- The listener of an id; of several, the last in the list. -/
def lastListener? (listeners : List Listener) (id : UInt32) : Option Listener :=
  listeners.reverse.find? (·.id == id)

/-- Where a stream route leads. -/
def StreamRoute.target? (source : RouteSource) (listeners : List Listener) (r : StreamRoute) :
    Except StoreError (Fate String) :=
  match r.destination with
  | .backend =>
    let host := trim r.targetAddress
    .ok ⟨if host = "" ∨ r.targetPort = 0 then none else some (hostPort host r.targetPort.toNat), []⟩
  | .listener =>
    .ok ⟨((lastListener? listeners r.targetListenId).filter fun l => 0 < l.port).map fun l =>
      localPort l.port.toInt, []⟩
  | .sshLocal | .sshRemote => do
    let row ← readRow "ssh_port" r.sshPortId (source.sshPort? r.sshPortId)
    return ⟨(row.binding.filter fun p => p.port != 0).map fun p => localPort p.port.toNat,
      row.notes⟩

/-- Resolves a stream route of a listener. -/
def StreamRoute.resolve (source : RouteSource) (listeners : List Listener) (lead : String)
    (listenerId : UInt32) (r : StreamRoute) : Except StoreError (Fate StreamBinding) := do
  let domain ← readRow "domain" r.domainId (source.domain? r.domainId)
  match domain.binding with
  | none =>
    return ⟨none, domain.notes ++
      [⟨.compilerStream, .warn, "Stream route references a missing domain, skipping",
        [("route_id", idText r.id), ("domain_id", idText r.domainId),
          ("listener_id", idText listenerId)]⟩]⟩
  | some d =>
    let target ← r.target? source listeners
    match target.binding with
    | none =>
      return ⟨none, domain.notes ++ target.notes ++
        [⟨.compilerStream, .warn, "Stream route destination cannot be resolved, skipping",
          [("route_id", idText r.id), ("destination_type", r.destination.name),
            ("listener_id", idText listenerId)]⟩]⟩
    | some t =>
      return ⟨some ⟨r.id, d, poolName lead r.aliasName d.id, t, r.balancing, r.isDefault⟩,
        domain.notes ++ target.notes⟩

/-- Resolves the routes of a stream listener, by index and id. -/
def resolveStream (source : RouteSource) (listeners : List Listener) (lead : String)
    (listener : Listener) : Option StoreError × Resolution StreamBinding :=
  match source.streamRoutesOf listener.id with
  | .error e => (some e, .empty)
  | .ok routes =>
    resolveEach (StreamRoute.resolve source listeners lead listener.id)
      (routes.mergeSort StreamRoute.before)

/-! ## Http routes -/

/-- Resolves an http route of a listener. -/
def HttpRoute.resolve (source : RouteSource) (listenerId : UInt32) (r : HttpRoute) :
    Except StoreError (Fate Domain) := do
  let domain ← readRow "domain" r.domainId (source.domain? r.domainId)
  match domain.binding with
  | some d => return ⟨some d, domain.notes⟩
  | none =>
    return ⟨none, domain.notes ++
      [⟨.compilerHttp, .warn, "HTTP route references a missing domain, skipping",
        [("route_id", idText r.id), ("domain_id", idText r.domainId),
          ("listener_id", idText listenerId)]⟩]⟩

/-- Resolves the routes of an http listener, by id. -/
def resolveHttp (source : RouteSource) (listener : Listener) :
    Option StoreError × Resolution Domain :=
  match source.httpRoutesOf listener.id with
  | .error e => (some e, .empty)
  | .ok routes => resolveEach (HttpRoute.resolve source listener.id) (routes.mergeSort byId)

end Portcullis
