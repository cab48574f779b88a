import Portcullis.Admission.Decision
import Portcullis.Counter.Retry
import Portcullis.Reconcile.Outcome
import Portcullis.Report.Problem

/-!
# Results as records

What operations give, and what the parts of a configuration hold, as records for machine readers.
-/

namespace Portcullis

/-- A count. -/
def Datum.count (n : Nat) : Datum :=
  .whole n

/-! ## Proxy configurations -/

namespace Proxy

def Directive.toDatum (d : Directive) : Datum :=
  .texts [d.name, d.value]

def Pool.toDatum (p : Pool) : Datum :=
  .object
    [("name", .text p.name), ("directives", .list (p.directives.map Directive.toDatum)),
      ("servers", .texts p.targets)]

def Map.toDatum (m : Map) : Datum :=
  .object
    [("source", .text m.input), ("variable", .text m.output),
      ("default", .ofOption .text m.fallback),
      ("entries", .list (m.entries.map fun (k, v) => .texts [k, v])),
      ("len", .count m.size), ("is_empty", .flag (m.size == 0))]

def ErrorPage.toDatum (p : ErrorPage) : Datum :=
  .object [("codes", .list (p.codes.map fun c => .count c.toNat)), ("uri", .text p.uri)]

def Server.toDatum (s : Server) : Datum :=
  .object
    [("port", .whole s.port), ("default_server", .flag s.isDefault),
      ("name", .ofOption .text s.name),
      ("directives", .list (s.directives.map Directive.toDatum)),
      ("error_pages", .list (s.errorPages.map ErrorPage.toDatum))]

/-- Everything that a block holds, in order. -/
def Block.toDatum (b : Block) : Datum :=
  .object
    [("kind", .text b.kind.name),
      ("is_empty", .flag b.isEmpty),
      ("variables", .list (b.vars.map Directive.toDatum)),
      ("upstreams", .list (b.pools.map Pool.toDatum)),
      ("maps", .list (b.maps.map Map.toDatum)),
      ("servers", .list (b.servers.map Server.toDatum))]

end Proxy

/-! ## Compiled routing -/

def StreamBinding.toDatum (b : StreamBinding) : Datum :=
  .object
    [("route_id", .count b.routeId.toNat), ("domain", b.domain.toDatum),
      ("upstream_name", .text b.pool), ("target", .text b.target),
      ("balancing", named Balancing.names b.balancing), ("is_default", .flag b.isDefault)]

def Stats.toDatum (s : Stats) : Datum :=
  .object
    [("listeners", .count s.listeners), ("upstreams", .count s.pools), ("maps", .count s.maps),
      ("stream_servers", .count s.streamServers), ("http_servers", .count s.httpServers),
      ("skipped_routes", .count s.skippedRoutes)]

def Compiled.toDatum (c : Compiled) : Datum :=
  .object
    [("stream", .text c.stream), ("http", .text c.http), ("changed", .flag c.changed),
      ("stats", c.stats.toDatum), ("stream_path", .text c.streamPath),
      ("http_path", .text c.httpPath)]

def Compiled.resultToDatum : Except CompileError Compiled → Datum
  | .ok c => c.toDatum
  | .error e => e.toDatum

def Outcome.toDatum (o : Outcome) : Datum :=
  .object
    ([("outcome", .text o.name), ("success", .flag o.isSuccess)] ++
      match o with
      | .applied c started =>
        [("started", .flag started), ("changed", .flag c.changed), ("stats", c.stats.toDatum)]
      | .unchanged => []
      | .compileFailed e => [("cause", e.toDatum)]
      | .reloadFailed e => [("cause", e.toDatum)])

/-! ## Settings -/

/-- Settings with what follows from them. -/
def Settings.overview (s : Settings) : Datum :=
  .object
    [("config", s.toDatum),
      ("stream_path", .text s.proxy.streamPath),
      ("http_path", .text s.proxy.httpPath),
      ("lookup_timeout", .text s.oracle.lookupTimeout.text),
      ("start_timeout", .text s.supervisor.startTimeout.text),
      ("stop_timeout", .text s.supervisor.stopTimeout.text),
      ("probe_interval", .text s.supervisor.probeInterval.text),
      ("max_attempts", .count s.counters.retryPolicy.maxAttempts.toNat),
      ("filter", .text s.observability.filter)]

/-! ## Admission and telemetry -/

def Admission.Decision.toDatum (d : Admission.Decision) : Datum :=
  .list [.text d.verdict.name, .text d.reason.name, .flag d.isAllowed]

def Telemetry.Event.toDatum (e : Telemetry.Event) : Datum :=
  .list
    [.text e.component.path, .text e.level.name, .text e.message,
      .object (e.details.map fun (name, value) => (name, .text value))]

end Portcullis
