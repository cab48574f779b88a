/-!
# Rows

The rows that the store keeps: listeners, domains and routes for the proxy's routing, and the two
access lists.

* A row has an id, and ids are what rows refer to each other by.
* The rows of both access lists share one shape, `AccessRow`, which counts hits in a `Tally`;
  a blacklist row holds a few details more.
-/

namespace Portcullis

/-- Things with an id. -/
class Row (ρ : Type) where
  id : ρ → UInt32

/-- The layer at which a listener is bound. -/
inductive ListenKind where
  | stream
  | http
  deriving DecidableEq, Repr

/-- Which access list an address check consults. -/
inductive CheckMode where
  | blacklist
  | whitelist
  deriving DecidableEq, Repr

/-- A bound port with its admission policy. -/
structure Listener where
  id : UInt32
  port : Int32
  kind : ListenKind
  checked : Bool := false
  mode : CheckMode := .blacklist
  description : String := ""
  deriving DecidableEq, Repr

structure Domain where
  id : UInt32
  name : String
  deriving DecidableEq, Repr

/-- Where a stream route leads. -/
inductive Destination where
  | backend
  | listener
  | sshLocal
  | sshRemote
  deriving DecidableEq, Repr

def Destination.name : Destination → String
  | .backend => "Upstream"
  | .listener => "Listen"
  | .sshLocal => "SshLocal"
  | .sshRemote => "SshRemote"

/-- The direction of an ssh tunnel. -/
inductive TunnelDirection where
  | none
  | inward
  | outward
  deriving DecidableEq, Repr

/-- How a pool spreads connections. -/
inductive Balancing where
  | none
  | roundRobin
  | leastConn
  | ipHash
  | random
  deriving DecidableEq, Repr

/-- The directive of a balancing. Round robin is what the proxy does without one. -/
def Balancing.directive? : Balancing → Option String
  | .none | .roundRobin => Option.none
  | .leastConn => some "least_conn"
  | .ipHash => some "ip_hash"
  | .random => some "random"

/-- A route of a stream listener, by the server name that a client asks for. -/
structure StreamRoute where
  id : UInt32
  domainId : UInt32
  listenId : UInt32
  destination : Destination := .backend
  targetListenId : UInt32 := 0
  targetAddress : String := ""
  targetPort : UInt16 := 0
  /-- Orders the routes of a listener. -/
  index : UInt32 := 0
  balancing : Balancing := .none
  /-- Sets the pools of an alias apart; empty for none. -/
  aliasName : String := ""
  /-- Takes every connection that no other route of the listener takes. -/
  isDefault : Bool := false
  tunnel : TunnelDirection := .none
  sshPortId : UInt32 := 0
  deriving DecidableEq, Repr

/-- A virtual host of an http listener. -/
structure HttpRoute where
  id : UInt32
  domainId : UInt32
  listenId : UInt32
  deriving DecidableEq, Repr

structure SshPort where
  id : UInt32
  port : UInt16
  deriving DecidableEq, Repr

/-- How often an access row was hit, and when last, in seconds since 1970. -/
structure Tally where
  count : UInt64 := 0
  last : UInt64 := 0
  deriving DecidableEq, Repr

namespace Tally

/-- One more hit. -/
def hit (t : Tally) (time : UInt64) : Tally :=
  ⟨t.count + 1, max t.last time⟩

/-- The larger count and the later hit. -/
def merge (a b : Tally) : Tally :=
  ⟨max a.count b.count, max a.last b.last⟩

end Tally

/-- A row of an access list. -/
structure AccessRow (details : Type) where
  id : UInt32
  ip : String
  disabled : Bool
  tally : Tally
  description : String
  details : details
  deriving DecidableEq, Repr

/-- What a blacklist row holds besides. -/
structure BlockDetails where
  lastUpdate : UInt64 := 0
  locationId : Option UInt32 := none
  /-- The row came from a feed and not from an administrator. -/
  imported : Bool := false
  deriving DecidableEq, Repr

abbrev BlockRow := AccessRow BlockDetails

abbrev AllowRow := AccessRow Unit

instance : Row Listener := ⟨Listener.id⟩

instance : Row Domain := ⟨Domain.id⟩

instance : Row StreamRoute := ⟨StreamRoute.id⟩

instance : Row HttpRoute := ⟨HttpRoute.id⟩

instance : Row SshPort := ⟨SshPort.id⟩

instance : Row (AccessRow details) := ⟨AccessRow.id⟩

end Portcullis
