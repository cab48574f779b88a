import Portcullis.Store.Routing

/-!
# Unreliable lookups

A place to ask for routes may list them in another order, or fail at some questions.
`RouteSource.spoiled` and `RouteSource.reversed` make such places from reliable ones.
-/

namespace Portcullis

/-- A question to a source of routes. -/
inductive Lookup where
  | domain (id : UInt32)
  | sshPort (id : UInt32)
  | routes (listenId : UInt32)
  deriving DecidableEq, Repr

namespace RouteSource

/-- The answer of a question that may have a fault. -/
def orFault (fault : Option StoreError) (answer : Except StoreError α) : Except StoreError α :=
  match fault with
  | some e => .error e
  | none => answer

/-- A source where some questions have a fault. -/
def spoiled (source : RouteSource) (fault : Lookup → Option StoreError) : RouteSource where
  streamRoutesOf id := orFault (fault (.routes id)) (source.streamRoutesOf id)
  httpRoutesOf id := orFault (fault (.routes id)) (source.httpRoutesOf id)
  domain? id := orFault (fault (.domain id)) (source.domain? id)
  sshPort? id := orFault (fault (.sshPort id)) (source.sshPort? id)

/-- A source that lists routes the other way round. -/
def reversed (source : RouteSource) : RouteSource :=
  { source with
    streamRoutesOf := fun id => (source.streamRoutesOf id).map List.reverse
    httpRoutesOf := fun id => (source.httpRoutesOf id).map List.reverse }

end RouteSource

end Portcullis
