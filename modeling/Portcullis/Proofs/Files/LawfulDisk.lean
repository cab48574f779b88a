import Portcullis.Files.Staged
import Mathlib.Data.List.Nodup

/-!
# Disks that keep their word

What the writer of generated files relies on, for any disk and any pattern of faults.

* `LawfulDisk` says what an operation does to the contents of files, where it succeeds and where
  it fails.  A failed write leaves anything in the file that was written; a rename is done or not
  done.
* `Disk.Apart` says that some targets and their hidden siblings are different files.
-/

namespace Portcullis

/-- A disk on which paths name files. A file holds bytes or is absent. -/
class LawfulDisk (σ : Type) [Disk σ] where
  File : Type
  fileAt : String → File
  content? : σ → File → Option (List UInt8)
  read_present : ∀ (s : σ) path bytes, content? s (fileAt path) = some bytes →
    Disk.read s path = .ok bytes
  read_absent : ∀ (s : σ) path, content? s (fileAt path) = none →
    ∃ e, Disk.read s path = .error e
  makeDirs_content : ∀ (s : σ) path, content? (Disk.makeDirs path s).2 = content? s
  write_ok : ∀ (s : σ) path bytes, (Disk.write path bytes s).1 = .ok () →
    content? (Disk.write path bytes s).2 (fileAt path) = some bytes
  write_other : ∀ (s : σ) path bytes f, f ≠ fileAt path →
    content? (Disk.write path bytes s).2 f = content? s f
  rename_target : ∀ (s : σ) source target, (content? s (fileAt source)).isSome →
    fileAt source ≠ fileAt target → (Disk.rename source target s).1 = .ok () →
    content? (Disk.rename source target s).2 (fileAt target) = content? s (fileAt source)
  rename_source : ∀ (s : σ) source target, (content? s (fileAt source)).isSome →
    fileAt source ≠ fileAt target → (Disk.rename source target s).1 = .ok () →
    content? (Disk.rename source target s).2 (fileAt source) = none
  rename_other : ∀ (s : σ) source target f, (content? s (fileAt source)).isSome →
    f ≠ fileAt source → f ≠ fileAt target →
    content? (Disk.rename source target s).2 f = content? s f
  rename_error : ∀ (s : σ) source target e, (Disk.rename source target s).1 = .error e →
    content? (Disk.rename source target s).2 = content? s
  remove_ok : ∀ (s : σ) path, (Disk.remove path s).1 = .ok () →
    content? (Disk.remove path s).2 (fileAt path) = none
  remove_notFound : ∀ (s : σ) path, (Disk.remove path s).1 = .error .notFound →
    content? (Disk.remove path s).2 (fileAt path) = none
  remove_other : ∀ (s : σ) path f, f ≠ fileAt path →
    content? (Disk.remove path s).2 f = content? s f

namespace Disk

open LawfulDisk
open Staged (draftOf)

variable {σ : Type} [Disk σ]

/-- A file was removed, or was not there. -/
def Removed (r : Except Fault Unit) : Prop :=
  r = .ok () ∨ r = .error .notFound

variable [LawfulDisk σ]

variable (σ) in
/-- Targets and their hidden siblings are different files. -/
def Apart (targets : List String) : Prop :=
  ((targets ++ targets.map draftOf).map (fileAt : String → File σ)).Nodup

namespace Apart

variable {targets : List String} {t u : String}

theorem nodup (h : Apart σ targets) : targets.Nodup :=
  (List.nodup_append.mp (List.Nodup.of_map _ h)).1

/-- Different targets are different files. -/
theorem files_ne (h : Apart σ targets) (ht : t ∈ targets) (hu : u ∈ targets) (hne : t ≠ u) :
    (fileAt t : File σ) ≠ fileAt u := by
  rw [Apart, List.map_append, List.nodup_append] at h
  intro heq
  exact hne (List.inj_on_of_nodup_map h.1 ht hu heq)

/-- No hidden sibling is a target. -/
theorem draft_ne (h : Apart σ targets) (ht : t ∈ targets) (hu : u ∈ targets) :
    (fileAt (draftOf t) : File σ) ≠ fileAt u := by
  rw [Apart, List.map_append, List.nodup_append] at h
  have hdraft : (fileAt (draftOf t) : File σ) ∈ (targets.map draftOf).map fileAt :=
    List.mem_map_of_mem (List.mem_map_of_mem ht)
  exact (h.2.2 _ (List.mem_map_of_mem hu) _ hdraft).symm

/-- Different targets have different hidden siblings. -/
theorem drafts_ne (h : Apart σ targets) (ht : t ∈ targets) (hu : u ∈ targets) (hne : t ≠ u) :
    (fileAt (draftOf t) : File σ) ≠ fileAt (draftOf u) := by
  rw [Apart, List.map_append, List.nodup_append, List.map_map] at h
  intro heq
  exact hne (List.inj_on_of_nodup_map h.2.1 ht hu heq)

end Apart

end Disk

end Portcullis
