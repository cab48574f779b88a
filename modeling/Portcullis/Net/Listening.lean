import Portcullis.Net.Socket

/-!
# Listening

Who listens where, on a host that has no network but its own.

* An address can be listened on if it is the host's own, or stands for all of its addresses.
* Two listeners collide where a connection could be meant for both.  The address that stands for
  all of IPv6 stands for IPv4 too.
* Port zero asks for any free port, so that it never collides.
-/

namespace Portcullis.Net

/-- Why nobody can listen on an address. -/
inductive ListenFault where
  | inUse
  | notLocal
  deriving DecidableEq, Repr

def ListenFault.message : ListenFault → String
  | .inUse => "Address already in use (os error 98)"
  | .notLocal => "Cannot assign requested address (os error 99)"

/-- The address that stands for all of a family. -/
def Ipv4.isAny (ip : Ipv4) : Bool :=
  ip == ⟨0, 0, 0, 0⟩

@[inherit_doc Ipv4.isAny]
def Ipv6.isAny (ip : Ipv6) : Bool :=
  ip.groups.all (· == 0)

/-- The host's own addresses, and those of groups that it may be a member of. -/
def Ipv4.isLocal (ip : Ipv4) : Bool :=
  ip.isAny || ip.a == 127 || (224 ≤ ip.a && ip.a < 240) || ip == ⟨255, 255, 255, 255⟩

namespace Address

/-- An address without the detour over IPv6. -/
def plain : Address → Address
  | .v4 ip => .v4 ip
  | .v6 ip => (ip.mapped?.map .v4).getD (.v6 ip)

/-- Whether the host can listen on an address. -/
def isLocal (a : Address) : Bool :=
  match a.plain with
  | .v4 ip => ip.isLocal
  | .v6 ip => ip.isAny || ip.groups == [0, 0, 0, 0, 0, 0, 0, 1]

/-- Whether two addresses have one in common. -/
def meets (a b : Address) : Bool :=
  match a.plain, b.plain with
  | .v4 x, .v4 y => x == y || x.isAny || y.isAny
  | .v6 x, .v6 y => x == y || x.isAny || y.isAny
  | .v6 x, .v4 _ => x.isAny
  | .v4 _, .v6 y => y.isAny

end Address

/-- Whether two listeners collide. -/
def Socket.collides (a b : Socket) : Bool :=
  a.port != 0 && a.port == b.port && a.address.meets b.address

/-- The socket addresses that somebody listens on. -/
abbrev Network := List Socket

/-- Listens on a socket address. -/
def Network.listen (n : Network) (s : Socket) : Except ListenFault Network :=
  if !s.address.isLocal then .error .notLocal
  else if n.any s.collides then .error .inUse
  else .ok (s :: n)

end Portcullis.Net
