import Portcullis.Files.Disk
import Portcullis.Telemetry.Journal

/-!
# Replacing files in one step

A new content is first written to a hidden sibling of its target and then renamed over it, so
that a reader of the target sees the old content or the new one, and nothing between.

* `Staged.stage` writes the sibling, `Staged.commit` renames it and `Staged.discard` gives it up.
  Where one of the first two fails the sibling is removed.
* `restore` brings back what a target held before.
-/

namespace Portcullis

open Portcullis.Text
open Portcullis.Telemetry

/-- A disk, and what has been reported while working on it. -/
structure Scene (σ : Type) where
  disk : σ
  journal : Journal

/-- Which file could not be written, and why. -/
structure WriteFault where
  path : String
  fault : Fault
  deriving DecidableEq, Repr

/-- A content that waits beside its target. -/
structure Staged where
  draft : String
  target : String
  deriving DecidableEq, Repr

variable {σ : Type} [Disk σ]

/-- The text of a file, unless it cannot be read or is no text. -/
def currentText (s : σ) (path : String) : Option String :=
  match Disk.read s path with
  | .ok bytes => Utf8.decode? bytes
  | .error _ => none

namespace Staged

/-- The hidden sibling of a target. -/
def draftOf (target : String) : String :=
  Path.withFileName target ("." ++ (Path.fileName? target).getD "compiled" ++ ".tmp")

/-- Writes a content beside a target, whose directory is made if it is missing. -/
def stage (target content : String) (s : σ) : Except WriteFault Staged × σ :=
  let write (s : σ) : Except WriteFault Staged × σ :=
    let draft := draftOf target
    match Disk.write draft (Utf8.encode content) s with
    | (.ok (), s) => (.ok ⟨draft, target⟩, s)
    | (.error f, s) => (.error ⟨draft, f⟩, (Disk.remove draft s).2)
  match Path.parent? target with
  | none => write s
  | some parent =>
    match Disk.makeDirs parent s with
    | (.ok (), s) => write s
    | (.error f, s) => (.error ⟨parent, f⟩, s)

/-- Puts a staged content in place of its target. -/
def commit (f : Staged) (w : Scene σ) : Except WriteFault Unit × Scene σ :=
  match Disk.rename f.draft f.target w.disk with
  | (.ok (), s) =>
    (.ok (), ⟨s, w.journal.log
      ⟨.compilerWriter, .debug, "Replaced compiled file", [("path", f.target)]⟩⟩)
  | (.error e, s) => (.error ⟨f.target, e⟩, { w with disk := (Disk.remove f.draft s).2 })

/-- Gives a staged content up. -/
def discard (f : Staged) (s : σ) : σ :=
  (Disk.remove f.draft s).2

end Staged

/-- Gives a target the content that it held before, or takes it away if there was none. -/
def restore (target : String) (previous : Option String) (w : Scene σ) :
    Except WriteFault Unit × Scene σ :=
  match previous with
  | some content =>
    match Staged.stage target content w.disk with
    | (.ok f, s) => f.commit { w with disk := s }
    | (.error e, s) => (.error e, { w with disk := s })
  | none =>
    match Disk.remove target w.disk with
    | (.ok (), s) => (.ok (), { w with disk := s })
    | (.error .notFound, s) => (.ok (), { w with disk := s })
    | (.error e, s) => (.error ⟨target, e⟩, { w with disk := s })

end Portcullis
