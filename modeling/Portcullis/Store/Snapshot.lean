import Portcullis.Datum.Slots
import Portcullis.Store.Row

/-!
# Snapshots

The whole content of a store as a list of rows per table, and the JSON form of each row.

* `toDatum` writes every field of a row.
* `ofDatum?` needs the fields without a default, checks every number's range and passes over
  members that a row does not have.
-/

namespace Portcullis

open Datum

/-- What a name stands for, in both directions. -/
abbrev Names (α : Type) := List (String × α)

/-- The name of a value. -/
def nameOf [DecidableEq α] (names : Names α) (a : α) : String :=
  ((names.find? fun p => p.2 = a).map (·.1)).getD ""

def ListenKind.names : Names ListenKind :=
  [("stream", .stream), ("http", .http)]

def CheckMode.names : Names CheckMode :=
  [("blacklist", .blacklist), ("whitelist", .whitelist)]

def Destination.names : Names Destination :=
  [("upstream", .backend), ("listen", .listener), ("ssh_local", .sshLocal),
    ("ssh_remote", .sshRemote)]

def TunnelDirection.names : Names TunnelDirection :=
  [("none", .none), ("in", .inward), ("out", .outward)]

def Balancing.names : Names Balancing :=
  [("none", .none), ("round_robin", .roundRobin), ("least_conn", .leastConn),
    ("ip_hash", .ipHash), ("random", .random)]

/-- The datum of a value that goes by a name. -/
def named [DecidableEq α] (names : Names α) (a : α) : Datum :=
  .text (nameOf names a)

def count32 (n : UInt32) : Datum :=
  .whole n.toNat

def count64 (n : UInt64) : Datum :=
  .whole n.toNat

/-! ## Rows -/

namespace Listener

def fields : List String :=
  ["id", "listen_port", "kind", "enable_address_check", "address_check_mode", "description"]

def toDatum (l : Listener) : Datum :=
  .object
    [("id", count32 l.id),
      ("listen_port", .whole l.port.toInt),
      ("kind", named ListenKind.names l.kind),
      ("enable_address_check", .flag l.checked),
      ("address_check_mode", named CheckMode.names l.mode),
      ("description", .text l.description)]

def ofDatum? (d : Datum) : Option Listener := do
  let slots ← Slots.ofDatum? .json fields d
  return {
    id := ← slots.require "id" u32?
    port := Int32.ofInt (← slots.require "listen_port" (whole? (-2147483648) 2147483647))
    kind := ← slots.require "kind" (Dialect.json.choice? ListenKind.names)
    checked := ← slots.fallback "enable_address_check" false flag?
    mode := ← slots.fallback "address_check_mode" .blacklist
      (Dialect.json.choice? CheckMode.names)
    description := ← slots.fallback "description" "" text? }

end Listener

namespace Domain

def fields : List String :=
  ["id", "name"]

def toDatum (d : Domain) : Datum :=
  .object [("id", count32 d.id), ("name", .text d.name)]

def ofDatum? (d : Datum) : Option Domain := do
  let slots ← Slots.ofDatum? .json fields d
  return {
    id := ← slots.require "id" u32?
    name := ← slots.require "name" text? }

end Domain

namespace StreamRoute

def fields : List String :=
  ["id", "domain_id", "listen_id", "destination_type", "destination_listen_id",
    "destination_address", "destination_port", "index", "load_balancing_algorithm",
    "alias_name", "is_default", "ssh_tunnel", "ssh_port_id"]

def toDatum (r : StreamRoute) : Datum :=
  .object
    [("id", count32 r.id),
      ("domain_id", count32 r.domainId),
      ("listen_id", count32 r.listenId),
      ("destination_type", named Destination.names r.destination),
      ("destination_listen_id", count32 r.targetListenId),
      ("destination_address", .text r.targetAddress),
      ("destination_port", .whole r.targetPort.toNat),
      ("index", count32 r.index),
      ("load_balancing_algorithm", named Balancing.names r.balancing),
      ("alias_name", .text r.aliasName),
      ("is_default", .flag r.isDefault),
      ("ssh_tunnel", named TunnelDirection.names r.tunnel),
      ("ssh_port_id", count32 r.sshPortId)]

def ofDatum? (d : Datum) : Option StreamRoute := do
  let slots ← Slots.ofDatum? .json fields d
  return {
    id := ← slots.require "id" u32?
    domainId := ← slots.require "domain_id" u32?
    listenId := ← slots.require "listen_id" u32?
    destination := ← slots.fallback "destination_type" .backend
      (Dialect.json.choice? Destination.names)
    targetListenId := ← slots.fallback "destination_listen_id" 0 u32?
    targetAddress := ← slots.fallback "destination_address" "" text?
    targetPort := ← slots.fallback "destination_port" 0 u16?
    index := ← slots.fallback "index" 0 u32?
    balancing := ← slots.fallback "load_balancing_algorithm" .none
      (Dialect.json.choice? Balancing.names)
    aliasName := ← slots.fallback "alias_name" "" text?
    isDefault := ← slots.fallback "is_default" false flag?
    tunnel := ← slots.fallback "ssh_tunnel" .none (Dialect.json.choice? TunnelDirection.names)
    sshPortId := ← slots.fallback "ssh_port_id" 0 u32? }

end StreamRoute

namespace HttpRoute

def fields : List String :=
  ["id", "domain_id", "listen_id"]

def toDatum (r : HttpRoute) : Datum :=
  .object
    [("id", count32 r.id), ("domain_id", count32 r.domainId), ("listen_id", count32 r.listenId)]

def ofDatum? (d : Datum) : Option HttpRoute := do
  let slots ← Slots.ofDatum? .json fields d
  return {
    id := ← slots.require "id" u32?
    domainId := ← slots.require "domain_id" u32?
    listenId := ← slots.require "listen_id" u32? }

end HttpRoute

namespace SshPort

def fields : List String :=
  ["id", "port"]

def toDatum (p : SshPort) : Datum :=
  .object [("id", count32 p.id), ("port", .whole p.port.toNat)]

def ofDatum? (d : Datum) : Option SshPort := do
  let slots ← Slots.ofDatum? .json fields d
  return {
    id := ← slots.require "id" u32?
    port := ← slots.require "port" u16? }

end SshPort

namespace BlockRow

def fields : List String :=
  ["id", "ip", "disabled", "last_update", "last_block", "count_block", "ip_location_id",
    "description", "is_imported"]

def toDatum (r : BlockRow) : Datum :=
  .object
    [("id", count32 r.id),
      ("ip", .text r.ip),
      ("disabled", .flag r.disabled),
      ("last_update", count64 r.details.lastUpdate),
      ("last_block", count64 r.tally.last),
      ("count_block", count64 r.tally.count),
      ("ip_location_id", .ofOption count32 r.details.locationId),
      ("description", .text r.description),
      ("is_imported", .flag r.details.imported)]

def ofDatum? (d : Datum) : Option BlockRow := do
  let slots ← Slots.ofDatum? .json fields d
  return {
    id := ← slots.require "id" u32?
    ip := ← slots.require "ip" text?
    disabled := ← slots.fallback "disabled" false flag?
    tally := {
      count := ← slots.fallback "count_block" 0 u64?
      last := ← slots.fallback "last_block" 0 u64? }
    description := ← slots.fallback "description" "" text?
    details := {
      lastUpdate := ← slots.fallback "last_update" 0 u64?
      locationId := ← slots.optional "ip_location_id" u32?
      imported := ← slots.fallback "is_imported" false flag? } }

end BlockRow

namespace AllowRow

def fields : List String :=
  ["id", "ip", "disabled", "last_access", "count_access", "description"]

def toDatum (r : AllowRow) : Datum :=
  .object
    [("id", count32 r.id),
      ("ip", .text r.ip),
      ("disabled", .flag r.disabled),
      ("last_access", count64 r.tally.last),
      ("count_access", count64 r.tally.count),
      ("description", .text r.description)]

def ofDatum? (d : Datum) : Option AllowRow := do
  let slots ← Slots.ofDatum? .json fields d
  return {
    id := ← slots.require "id" u32?
    ip := ← slots.require "ip" text?
    disabled := ← slots.fallback "disabled" false flag?
    tally := {
      count := ← slots.fallback "count_access" 0 u64?
      last := ← slots.fallback "last_access" 0 u64? }
    description := ← slots.fallback "description" "" text?
    details := () }

end AllowRow

/-! ## The whole store -/

/-- The rows of a store, table by table. -/
structure Snapshot where
  listeners : List Listener := []
  domains : List Domain := []
  streamRoutes : List StreamRoute := []
  httpRoutes : List HttpRoute := []
  sshPorts : List SshPort := []
  blacklist : List BlockRow := []
  whitelist : List AllowRow := []
  deriving DecidableEq, Repr

namespace Snapshot

def empty : Snapshot := {}

def fields : List String :=
  ["listeners", "domains", "stream_routes", "http_routes", "ssh_ports", "blacklist", "whitelist"]

def toDatum (s : Snapshot) : Datum :=
  .object
    [("listeners", .list (s.listeners.map Listener.toDatum)),
      ("domains", .list (s.domains.map Domain.toDatum)),
      ("stream_routes", .list (s.streamRoutes.map StreamRoute.toDatum)),
      ("http_routes", .list (s.httpRoutes.map HttpRoute.toDatum)),
      ("ssh_ports", .list (s.sshPorts.map SshPort.toDatum)),
      ("blacklist", .list (s.blacklist.map BlockRow.toDatum)),
      ("whitelist", .list (s.whitelist.map AllowRow.toDatum))]

def ofDatum? (d : Datum) : Option Snapshot := do
  let slots ← Slots.ofDatum? .json fields d
  return {
    listeners := ← slots.fallback "listeners" [] (list? Listener.ofDatum?)
    domains := ← slots.fallback "domains" [] (list? Domain.ofDatum?)
    streamRoutes := ← slots.fallback "stream_routes" [] (list? StreamRoute.ofDatum?)
    httpRoutes := ← slots.fallback "http_routes" [] (list? HttpRoute.ofDatum?)
    sshPorts := ← slots.fallback "ssh_ports" [] (list? SshPort.ofDatum?)
    blacklist := ← slots.fallback "blacklist" [] (list? BlockRow.ofDatum?)
    whitelist := ← slots.fallback "whitelist" [] (list? AllowRow.ofDatum?) }

end Snapshot

end Portcullis
