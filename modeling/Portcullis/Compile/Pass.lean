import Portcullis.Compile.Build
import Portcullis.Files.Staged

/-!
# Compile passes

A pass makes the configuration anew and replaces the two files that the proxy reads, unless they
hold it already.

* Both files change together: contents are staged before the first rename, and where a rename
  fails the files renamed before it are restored.
* A failed pass leaves the files, and the last good result, as they were.
-/

namespace Portcullis

open Portcullis.Text
open Portcullis.Telemetry

variable {σ : Type} [Disk σ]

/-- A staged content, with what its target held before. -/
structure Replacement where
  staged : Staged
  previous : Option String

namespace Pass

/-- Gives up staged contents. -/
def discardAll (rs : List Replacement) (s : σ) : σ :=
  rs.foldl (fun s r => r.staged.discard s) s

/-- Stages the contents that differ from what their targets hold, given in order as target,
content and what is held. Where one cannot be staged the others are given up. -/
def stageAll (s : σ) (done : List Replacement) :
    List (String × String × Option String) → Except WriteFault (List Replacement) × σ
  | [] => (.ok done, s)
  | (target, content, held) :: rest =>
    if held = some content then stageAll s done rest
    else
      match Staged.stage target content s with
      | (.ok f, s) => stageAll s (done ++ [⟨f, held⟩]) rest
      | (.error e, s) => (.error e, discardAll done s)

/-- Restores the targets of replacements; what cannot be restored is reported. -/
def restoreAll (w : Scene σ) : List Replacement → Scene σ
  | [] => w
  | r :: rest =>
    match restore r.staged.target r.previous w with
    | (.ok (), w) => restoreAll w rest
    | (.error e, w) =>
      let note : Event :=
        ⟨.compiler, .error, "Failed to restore previous configuration file",
          [("path", r.staged.target), ("error", (CompileError.write e).message)]⟩
      restoreAll { w with journal := w.journal.log note } rest

/-- Commits replacements in order. Where one fails, the rest is given up and those before it,
which come latest first, are restored. -/
def commitAll (w : Scene σ) (committed : List Replacement) :
    List Replacement → Except WriteFault Unit × Scene σ
  | [] => (.ok (), w)
  | r :: rest =>
    match r.staged.commit w with
    | (.ok (), w) => commitAll w (r :: committed) rest
    | (.error e, w) =>
      (.error e, restoreAll { w with disk := discardAll rest w.disk } committed)

/-- Gives both files their texts, and tells whether one of them had to change. -/
def replaceFiles (c : Compiled) (w : Scene σ) : Except WriteFault Bool × Scene σ :=
  let stream := currentText w.disk c.streamPath
  let http := currentText w.disk c.httpPath
  match stageAll w.disk []
      [(c.streamPath, c.stream, stream), (c.httpPath, c.http, http)] with
  | (.error e, s) => (.error e, { w with disk := s })
  | (.ok rs, s) =>
    match commitAll { w with disk := s } [] rs with
    | (.error e, w) => (.error e, w)
    | (.ok (), w) => (.ok (!rs.isEmpty), w)

def finished (c : Compiled) : Event :=
  let n (n : Nat) := Decimal.ofNat n
  ⟨.compiler, .info, "Compile pass finished",
    [("changed", if c.changed then "true" else "false"),
      ("listeners", n c.stats.listeners),
      ("upstreams", n c.stats.pools),
      ("stream_servers", n c.stats.streamServers),
      ("http_servers", n c.stats.httpServers),
      ("skipped_routes", n c.stats.skippedRoutes)]⟩

/-- A pass without its bookkeeping. -/
def attempt (s : ProxySettings) (view : Except StoreError Routing) (w : Scene σ) :
    Except CompileError Compiled × Scene σ :=
  let (result, notes) := preview s view
  let w := { w with journal := w.journal.logAll notes }
  match result with
  | .error e => (.error e, w)
  | .ok c =>
    match replaceFiles c w with
    | (.error e, w) => (.error (.write e), w)
    | (.ok changed, w) =>
      let c := { c with changed := changed }
      (.ok c, { w with journal := w.journal.log (finished c) })

end Pass

/-- Compiles routing rows, and keeps the last good result. -/
structure Compiler where
  settings : ProxySettings
  last : Option Compiled := none

def compileTotal (result : String) : Series :=
  ⟨"gatehouse_compile_total", [("result", result)]⟩

/-- Runs a whole pass over routing rows, which may not be readable. -/
def Compiler.compile (c : Compiler) (view : Except StoreError Routing) (w : Scene σ) :
    Except CompileError Compiled × Compiler × Scene σ :=
  match Pass.attempt c.settings view w with
  | (.ok result, w) =>
    let journal := (w.journal.count (compileTotal "ok")).gauge
      ⟨"gatehouse_compile_skipped_routes", []⟩ result.stats.skippedRoutes
    (.ok result, { c with last := some result }, { w with journal := journal })
  | (.error e, w) =>
    let journal := (w.journal.count (compileTotal "error")).log
      ⟨.compileRuns, .error, "Compile pass failed, keeping previous configuration",
        [("error", e.message)]⟩
    (.error e, c, { w with journal := journal })

end Portcullis
