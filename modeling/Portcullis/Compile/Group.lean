import Portcullis.Compile.Binding

/-!
# Groups of bindings by port

Listeners may share a port.  What their routes bind is gathered by port, in the order in which
ports first occur.

* A stream group keeps the id of the first listener on its port.
* An http group holds each host name once.
-/

namespace Portcullis

open Portcullis.Text
open Portcullis.Telemetry

/-- What is bound on one port of the stream layer. -/
structure StreamGroup where
  port : Int32
  listenerId : UInt32
  bindings : List StreamBinding
  deriving DecidableEq, Repr

/-- What is bound on one port of the http layer. -/
structure HttpGroup where
  port : Int32
  hosts : List Domain
  deriving DecidableEq, Repr

def portText (port : Int32) : String :=
  Decimal.ofInt port.toInt

/-- Adds what a stream listener binds to the group of its port. -/
def StreamGroup.insert (port : Int32) (id : UInt32) (bindings : List StreamBinding) :
    List StreamGroup → List StreamGroup × List Event
  | [] => ([⟨port, id, bindings⟩], [])
  | g :: rest =>
    if g.port = port then
      ({ g with bindings := g.bindings ++ bindings } :: rest,
        [⟨.compilerStream, .warn, "Several stream listeners share a port, merging their routes",
          [("port", portText port), ("listener_id", idText id),
            ("kept_listener_id", idText g.listenerId)]⟩])
    else
      let (rest, notes) := StreamGroup.insert port id bindings rest
      (g :: rest, notes)

/-- Adds hosts to those of a port. A name that is bound there already is left out. -/
def addHosts (port : Int32) (held : List Domain) : List Domain → List Domain × List Event
  | [] => (held, [])
  | h :: rest =>
    if held.any (·.name == h.name) then
      let (held, notes) := addHosts port held rest
      (held, ⟨.compilerHttp, .warn,
        "Virtual host bound twice on the same port, keeping the first",
        [("port", portText port), ("host", h.name)]⟩ :: notes)
    else addHosts port (held ++ [h]) rest

/-- Adds what an http listener binds to the group of its port. -/
def HttpGroup.insert (port : Int32) (hosts : List Domain) :
    List HttpGroup → List HttpGroup × List Event
  | [] =>
    let (held, notes) := addHosts port [] hosts
    ([⟨port, held⟩], notes)
  | g :: rest =>
    if g.port = port then
      let (held, notes) := addHosts port g.hosts hosts
      (⟨port, held⟩ :: rest, notes)
    else
      let (rest, notes) := HttpGroup.insert port hosts rest
      (g :: rest, notes)

end Portcullis
