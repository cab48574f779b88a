import Portcullis.Net.Address

/-!
# Socket addresses

An address with a port: `1.2.3.4:80`, or `[::1]:80` where an IPv6 address may name its scope
after a percent sign.
-/

namespace Portcullis.Net

/-- An address, a scope for IPv6, and a port. -/
structure Socket where
  address : Address
  scope : Nat
  port : UInt16
  deriving DecidableEq

/-- A colon and a port number. -/
def portPart : Read UInt16 := fun cs => do
  let (n, rest) ← expect ':' cs >>= bounded 65535
  return (n.toUInt16, rest)

/-- A scope after a percent sign, zero if there is none. -/
def scopePart : Read Nat := fun cs =>
  match cs with
  | '%' :: r => bounded 4294967295 r
  | _ => some (0, cs)

def socketV4 : Read Socket := fun cs => do
  let (ip, cs) ← ipv4 cs
  let (port, cs) ← portPart cs
  return (⟨.v4 ip, 0, port⟩, cs)

def socketV6 : Read Socket := fun cs => do
  let (ip, cs) ← expect '[' cs >>= ipv6
  let (scope, cs) ← scopePart cs
  let (port, cs) ← expect ']' cs >>= portPart
  return (⟨.v6 ip, scope, port⟩, cs)

/-- The socket address that a text denotes. -/
def Socket.read? (s : String) : Option Socket :=
  (whole? socketV4 s).orElse fun _ => whole? socketV6 s

end Portcullis.Net
