import Portcullis.Proofs.Files.LawfulDisk
import Portcullis.Proofs.Text.Utf8

/-!
# One file at a time

What staging, committing, giving up and restoring do to the contents of a disk, with one lemma
for each way in which an operation ends.  None of them touches a file other than the target and
its hidden sibling, and only `Staged.commit` and `restore` touch the target.

* `Staged.stage_ok`, `Staged.stage_error`: a content is beside its target, or nothing new is.
* `Staged.commit_ok`, `Staged.content?_of_rename_error`: the target was replaced, or it is as it
  was.
* `Forgiving` is what a writer of two files takes for granted: that it can clean up.
* `restore_of_restorable`: a target gets its earlier text back, or goes away again.
-/

namespace Portcullis

open Portcullis.Text
open LawfulDisk
open Staged (draftOf)

variable {σ : Type} [Disk σ]

/-! ## The shape of the operations -/

namespace Staged

/-- The first part of staging: the directory of the target, if it has one. -/
def makeRoom (target : String) (s : σ) : Except WriteFault Unit × σ :=
  match Path.parent? target with
  | none => (.ok (), s)
  | some parent =>
    ((Disk.makeDirs parent s).1.mapError (⟨parent, ·⟩), (Disk.makeDirs parent s).2)

/-- The second part of staging: the hidden sibling. -/
def writeDraft (target content : String) (s : σ) : Except WriteFault Staged × σ :=
  match Disk.write (draftOf target) (Utf8.encode content) s with
  | (.ok (), s) => (.ok ⟨draftOf target, target⟩, s)
  | (.error f, s) => (.error ⟨draftOf target, f⟩, (Disk.remove (draftOf target) s).2)

theorem stage_eq (target content : String) (s : σ) :
    stage target content s =
      match makeRoom target s with
      | (.ok (), s) => writeDraft target content s
      | (.error e, s) => (.error e, s) := by
  unfold stage makeRoom
  cases Path.parent? target with
  | none => rfl
  | some parent =>
    rcases hmake : Disk.makeDirs parent s with ⟨f | _, s₁⟩
    · simp only [hmake, Except.mapError]
    · simp only [hmake, Except.mapError]
      rfl

/-- What has been staged tells its target and the hidden sibling. -/
theorem eq_of_stage_ok {target content : String} {s s' : σ} {f : Staged}
    (h : stage target content s = (.ok f, s')) : f = ⟨draftOf target, target⟩ := by
  rw [stage_eq] at h
  rcases hroom : makeRoom target s with ⟨e | _, s₁⟩
  · simp [hroom] at h
  · simp only [hroom, writeDraft] at h
    split at h
    · simp only [Prod.mk.injEq, Except.ok.injEq] at h
      exact h.1.symm
    · simp at h

/-- Where committing fails, the rename has failed and the hidden sibling was removed. -/
theorem eq_of_commit_error {target : String} {w w' : Scene σ} {e : WriteFault}
    (h : commit ⟨draftOf target, target⟩ w = (.error e, w')) :
    (∃ f, (Disk.rename (draftOf target) target w.disk).1 = .error f) ∧
      w'.disk = (Disk.remove (draftOf target)
        (Disk.rename (draftOf target) target w.disk).2).2 := by
  unfold commit at h
  rcases hrename : Disk.rename (draftOf target) target w.disk with ⟨f | _, s₁⟩
  · simp only [hrename, Prod.mk.injEq] at h
    obtain ⟨-, rfl⟩ := h
    exact ⟨⟨f, rfl⟩, rfl⟩
  · simp [hrename] at h

end Staged

/-! ## Reading -/

variable [LawfulDisk σ]

/-- A file is absent or holds a text. -/
def Textual (s : σ) (path : String) : Prop :=
  ∀ bytes, content? s (fileAt path) = some bytes → ∃ text, bytes = Utf8.encode text

/-- The current text tells the content of a file that holds no more than text. -/
theorem content?_eq_currentText {s : σ} {path : String} (h : Textual s path) :
    content? s (fileAt path) = (currentText s path).map Utf8.encode := by
  unfold currentText
  cases hcontent : content? s (fileAt path) with
  | none =>
    obtain ⟨e, he⟩ := read_absent s path hcontent
    rw [he]
    rfl
  | some bytes =>
    obtain ⟨text, rfl⟩ := h bytes hcontent
    rw [read_present s path _ hcontent]
    show _ = (Utf8.decode? (Utf8.encode text)).map Utf8.encode
    rw [Utf8.decode?_encode]
    rfl

/-- A removed file is absent. -/
theorem Disk.content?_remove {s : σ} {path : String} (h : Removed (Disk.remove path s).1) :
    content? (Disk.remove path s).2 (fileAt path) = none := by
  rcases h with h | h
  · exact remove_ok s path h
  · exact remove_notFound s path h

/-! ## Staging -/

namespace Staged

theorem makeRoom_content (target : String) (s : σ) :
    content? (makeRoom target s).2 = content? s := by
  unfold makeRoom
  cases Path.parent? target with
  | none => rfl
  | some parent => exact makeDirs_content s parent

/-- A staged content is beside its target, and all other files are as they were. -/
theorem stage_ok {target content : String} {s s' : σ} {f : Staged}
    (h : stage target content s = (.ok f, s')) :
    content? s' (fileAt (draftOf target)) = some (Utf8.encode content) ∧
      ∀ g, g ≠ fileAt (draftOf target) → content? s' g = content? s g := by
  have hsame := makeRoom_content target s
  rw [stage_eq] at h
  rcases hroom : makeRoom target s with ⟨e | _, s₁⟩
  · simp [hroom] at h
  · have hok := write_ok s₁ (draftOf target) (Utf8.encode content)
    have hother := write_other s₁ (draftOf target) (Utf8.encode content)
    rw [hroom] at hsame
    simp only [hroom, writeDraft] at h
    rcases hwrite : Disk.write (draftOf target) (Utf8.encode content) s₁ with ⟨f | _, s₂⟩
    · simp [hwrite] at h
    · rw [hwrite] at hok hother
      simp only [hwrite, Prod.mk.injEq] at h
      obtain ⟨-, rfl⟩ := h
      refine ⟨hok rfl, fun g hg => ?_⟩
      rw [hother g hg, hsame]

/-- Where staging fails the hidden sibling is absent, or was not touched, and all other files are
as they were. -/
theorem stage_error {target content : String} {s s' : σ} {e : WriteFault}
    (hdiscard : ∀ s : σ, Disk.Removed (Disk.remove (draftOf target) s).1)
    (h : stage target content s = (.error e, s')) :
    (content? s' (fileAt (draftOf target)) = none ∨
        content? s' (fileAt (draftOf target)) = content? s (fileAt (draftOf target))) ∧
      ∀ g, g ≠ fileAt (draftOf target) → content? s' g = content? s g := by
  have hsame := makeRoom_content target s
  rw [stage_eq] at h
  rcases hroom : makeRoom target s with ⟨f | _, s₁⟩
  · rw [hroom] at hsame
    simp only [hroom, Prod.mk.injEq] at h
    obtain ⟨-, rfl⟩ := h
    exact ⟨Or.inr (congrFun hsame _), fun g _ => congrFun hsame g⟩
  · have hother := write_other s₁ (draftOf target) (Utf8.encode content)
    rw [hroom] at hsame
    simp only [hroom, writeDraft] at h
    rcases hwrite : Disk.write (draftOf target) (Utf8.encode content) s₁ with ⟨f | _, s₂⟩
    · rw [hwrite] at hother
      simp only [hwrite, Prod.mk.injEq] at h
      obtain ⟨-, rfl⟩ := h
      refine ⟨Or.inl (Disk.content?_remove (hdiscard s₂)), fun g hg => ?_⟩
      rw [remove_other s₂ _ g hg, hother g hg, hsame]
    · simp [hwrite] at h

/-! ## Committing -/

/-- A committed target holds what was beside it, and all other files are as they were. -/
theorem commit_ok {target : String} {w w' : Scene σ}
    (hstaged : (content? w.disk (fileAt (draftOf target))).isSome)
    (hne : (fileAt (draftOf target) : File σ) ≠ fileAt target)
    (h : commit ⟨draftOf target, target⟩ w = (.ok (), w')) :
    content? w'.disk (fileAt target) = content? w.disk (fileAt (draftOf target)) ∧
      content? w'.disk (fileAt (draftOf target)) = none ∧
      ∀ g, g ≠ fileAt (draftOf target) → g ≠ fileAt target →
        content? w'.disk g = content? w.disk g := by
  have htarget := rename_target w.disk (draftOf target) target hstaged hne
  have hsource := rename_source w.disk (draftOf target) target hstaged hne
  have hother := fun g => rename_other w.disk (draftOf target) target g hstaged
  unfold commit at h
  rcases hrename : Disk.rename (draftOf target) target w.disk with ⟨f | _, s₁⟩
  · simp [hrename] at h
  · rw [hrename] at htarget hsource hother
    simp only [hrename, Prod.mk.injEq, true_and] at h
    subst h
    exact ⟨htarget rfl, hsource rfl, hother⟩

/-- After a failed rename the hidden sibling is removed, and all other files are as they were. -/
theorem content?_of_rename_error {target : String} {s : σ} {f : Fault}
    (hdiscard : ∀ s : σ, Disk.Removed (Disk.remove (draftOf target) s).1)
    (h : (Disk.rename (draftOf target) target s).1 = .error f) :
    content? (Disk.remove (draftOf target) (Disk.rename (draftOf target) target s).2).2
        (fileAt (draftOf target)) = none ∧
      ∀ g, g ≠ fileAt (draftOf target) →
        content? (Disk.remove (draftOf target) (Disk.rename (draftOf target) target s).2).2 g =
          content? s g := by
  refine ⟨Disk.content?_remove (hdiscard _), fun g hg => ?_⟩
  rw [remove_other _ _ g hg, rename_error s _ _ f h]

end Staged

/-! ## Restoring -/

/-- Every operation succeeds that restores a target from here, with whatever content. -/
structure Restorable (target : String) (s : σ) : Prop where
  room : (Staged.makeRoom target s).1 = .ok ()
  write : ∀ bytes, (Disk.write (draftOf target) bytes (Staged.makeRoom target s).2).1 = .ok ()
  rename : ∀ bytes, (Disk.rename (draftOf target) target
    (Disk.write (draftOf target) bytes (Staged.makeRoom target s).2).2).1 = .ok ()
  remove : Disk.Removed (Disk.remove target s).1

variable (σ) in
/-- What a writer of two files takes for granted: hidden siblings can be removed, and where the
rename over the second file fails, the first can be restored. Nothing is said of the other
operations: each may fail. -/
structure Forgiving (first second : String) : Prop where
  discards : ∀ t ∈ [first, second], ∀ s : σ, Disk.Removed (Disk.remove (draftOf t) s).1
  rollsBack : ∀ (s : σ) (e : Fault), (content? s (fileAt (draftOf second))).isSome →
    (Disk.rename (draftOf second) second s).1 = .error e →
    Restorable first
      (Disk.remove (draftOf second) (Disk.rename (draftOf second) second s).2).2

/-- A target that can be restored gets its earlier text back, or goes away again. The hidden
sibling that this may take does not stay. -/
theorem restore_of_restorable {target : String} {w : Scene σ} (h : Restorable target w.disk)
    (hne : (fileAt (draftOf target) : File σ) ≠ fileAt target) (previous : Option String) :
    ∃ w', restore target previous w = (.ok (), w') ∧
      content? w'.disk (fileAt target) = previous.map Utf8.encode ∧
      (content? w'.disk (fileAt (draftOf target)) = none ∨
        content? w'.disk (fileAt (draftOf target)) =
          content? w.disk (fileAt (draftOf target))) ∧
      ∀ g, g ≠ fileAt (draftOf target) → g ≠ fileAt target →
        content? w'.disk g = content? w.disk g := by
  cases previous with
  | some content =>
    have hroom := h.room
    have hwrite := h.write (Utf8.encode content)
    have hrename := h.rename (Utf8.encode content)
    obtain ⟨s₁, hstage, hcommit⟩ : ∃ s₁,
        Staged.stage target content w.disk = (.ok ⟨draftOf target, target⟩, s₁) ∧
          (Disk.rename (draftOf target) target s₁).1 = .ok () := by
      rw [Staged.stage_eq]
      rcases hmade : Staged.makeRoom target w.disk with ⟨r, s₁⟩
      rw [hmade] at hroom hwrite hrename
      simp only at hroom
      subst hroom
      rcases hwritten : Disk.write (draftOf target) (Utf8.encode content) s₁ with ⟨r, s₂⟩
      rw [hwritten] at hwrite hrename
      simp only at hwrite
      subst hwrite
      refine ⟨s₂, ?_, hrename⟩
      simp only [Staged.writeDraft, hwritten]
    obtain ⟨hdraft, hother⟩ := Staged.stage_ok hstage
    have hstaged : (content? s₁ (fileAt (draftOf target))).isSome := by
      rw [hdraft]
      rfl
    obtain ⟨w₂, hdone⟩ : ∃ w₂,
        Staged.commit ⟨draftOf target, target⟩ ⟨s₁, w.journal⟩ = (.ok (), w₂) := by
      unfold Staged.commit
      rcases hr : Disk.rename (draftOf target) target s₁ with ⟨r, s₂⟩
      rw [hr] at hcommit
      simp only at hcommit
      subst hcommit
      exact ⟨_, rfl⟩
    obtain ⟨htarget, hsource, hrest⟩ := Staged.commit_ok hstaged hne hdone
    refine ⟨w₂, ?_, htarget.trans hdraft, Or.inl hsource, fun g hg hg' => ?_⟩
    · rw [restore, hstage]
      exact hdone
    · rw [hrest g hg hg']
      exact hother g hg
  | none =>
    have hremoved := h.remove
    have hgone := Disk.content?_remove hremoved
    have hother := remove_other w.disk target
    rcases hr : Disk.remove target w.disk with ⟨r, s₁⟩
    rw [hr] at hremoved hgone hother
    refine ⟨⟨s₁, w.journal⟩, ?_, hgone, Or.inr (hother _ hne), fun g _ hg' => hother g hg'⟩
    rcases hremoved with hok | hmissing
    · simp only at hok
      subst hok
      rw [restore, hr]
    · simp only at hmissing
      subst hmissing
      rw [restore, hr]

end Portcullis
