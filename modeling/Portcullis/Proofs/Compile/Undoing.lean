import Portcullis.Proofs.Compile.Outputs
import Portcullis.Proofs.Files.Walks

/-!
# Taking a replacement back

A pass that fails puts back what a target held before. What it held is kept as a text or as nothing,
and a file that holds no text is kept as nothing.

* `Staged.Replaceable` says that a target is a file that can be replaced, and
  `Staged.replaceable_of_commit` that one that has been replaced is.
* From there `Replaceable.restore_text` gives the target any text, and `Replaceable.restore_nothing`
  takes it away: neither fails.
* `restore_undoes_iff` is the main result: a target is afterwards as it was exactly if it was absent
  or a file of text, and else it is gone. `restore_loses` is a file that goes so.
-/

namespace Portcullis

open Portcullis.Text
open Files (ChangedAt Stay)
open Staged (draftOf)

variable {t u v : Files} {target content : String} {bytes : List UInt8} {f : Staged}
  {w w' : Scene Files}

theorem Disk.attempt_of_ok {act : Files → Except Fault Files} (h : act t = .ok u) :
    Disk.attempt act t = (.ok (), u) := by
  rw [Disk.attempt, h]

namespace Staged

/-! ## Once more -/

/-- The directory of a target that has been made need not be made again. -/
theorem makeRoom_again (h : (makeRoom target t).1 = .ok ())
    (hstay : Stay (makeRoom target t).2 v) : makeRoom target v = (.ok (), v) := by
  unfold makeRoom at *
  cases hparent : Path.parent? target with
  | none => rfl
  | some parent =>
    simp only [hparent] at h hstay
    have hmade : (t.makeAlong (Path.ancestors parent)).1 = .ok () := by
      cases hmake : (t.makeAlong (Path.ancestors parent)).1 with
      | ok a => rfl
      | error e =>
        have hdirs : (Disk.makeDirs parent t).1 = .error e := hmake
        rw [hdirs] at h
        cases h
    have hagain : Disk.makeDirs parent v = (.ok (), v) := Files.makeAlong_again hmade hstay
    simp only [hagain]
    rfl

/-- Where a content was staged, the directory of the target was made and the hidden sibling
written. -/
theorem steps_of_stage (h : stage target content t = (.ok f, u)) :
    (makeRoom target t).1 = .ok () ∧
      (makeRoom target t).2.write (draftOf target) (Utf8.encode content) = .ok u := by
  rw [stage_eq] at h
  rcases hroom : makeRoom target t with ⟨e | _, s⟩
  · rw [hroom] at h
    cases h
  · rw [hroom] at h
    simp only [writeDraft] at h
    split at h
    · next hwrite =>
      cases h
      exact ⟨rfl, Disk.attempt_eq_ok hwrite⟩
    · cases h

/-- A target is a file with some content, and nothing stands in the way of replacing it. -/
structure Replaceable (t : Files) (target : String) (bytes : List UInt8) : Prop where
  sound : t.Sound
  room : makeRoom target t = (.ok (), t)
  draft : t.Walks (draftOf target)
  free : t.entryAt? (t.aim (draftOf target)) ≠ some .directory
  holds : t.Holds target bytes

/-- What has been replaced can be replaced again. -/
theorem replaceable_of_commit (hsound : w.disk.Sound)
    (hstage : stage target content w.disk = (.ok f, u))
    (hcommit : commit ⟨draftOf target, target⟩ { w with disk := u } = (.ok (), w')) :
    Replaceable w'.disk target (Utf8.encode content) := by
  obtain ⟨hroom, hwrite⟩ := steps_of_stage hstage
  have hmade := changedAt_makeRoom hsound target
  have hwritten := (ChangedAt.write hmade.sound hwrite).1.stay
  obtain ⟨hstaged, hcontent⟩ := changedAt_stage hsound hstage
  rw [← hstaged.stay.aim] at hcontent
  obtain ⟨hcommitted, hholds, hgone⟩ := changedAt_commit (w := { w with disk := u }) hstaged.sound
    hcontent hcommit
  have hlater := hwritten.trans hcommitted.stay
  refine ⟨hcommitted.sound, makeRoom_again hroom hlater,
    hlater.walks (Files.walks_of_write hwrite), ?_, hholds⟩
  -- The hidden sibling is gone, or it leads to the target.
  rw [hcommitted.stay.aim]
  by_cases hsame : u.aim (draftOf target) = u.aim target
  · rw [hsame, ← hcommitted.stay.aim]
    exact Files.ne_directory_of_contentAt? hholds.contentAt?
  · simp [hgone hsame]

/-! ## Giving back and taking away -/

theorem Replaceable.exists_stage (h : Replaceable t target bytes) (text : String) :
    ∃ u, stage target text t = (.ok ⟨draftOf target, target⟩, u) := by
  have hwrite : Disk.write (draftOf target) (Utf8.encode text) t =
      (.ok (), t.put (t.aim (draftOf target)) (.file (Utf8.encode text))) :=
    Disk.attempt_of_ok (h.draft.write h.free _)
  rw [stage_eq, h.room]
  simp only [writeDraft, hwrite]
  exact ⟨_, rfl⟩

/-- What has been staged for such a target can be committed. -/
theorem Replaceable.exists_commit (h : Replaceable w.disk target bytes)
    (hstage : stage target content w.disk = (.ok f, u)) :
    ∃ w', commit ⟨draftOf target, target⟩ { w with disk := u } = (.ok (), w') := by
  obtain ⟨hstaged, hcontent⟩ := changedAt_stage h.sound hstage
  rw [← hstaged.stay.aim] at hcontent
  -- The target still holds what it held, or the draft that leads to it has been written.
  have hfree : u.entryAt? (u.aim target) ≠ some .directory := by
    by_cases hsame : u.aim (draftOf target) = u.aim target
    · rw [← hsame]
      exact Files.ne_directory_of_contentAt? hcontent
    · rw [hstaged.stay.aim, hstaged.stay.aim] at hsame
      have hfile := hstaged.contentAt? (w.disk.aim target) (by simpa using Ne.symm hsame)
      rw [h.holds.contentAt?, ← hstaged.stay.aim] at hfile
      exact Files.ne_directory_of_contentAt? hfile
  obtain ⟨v, hrename⟩ := Files.Walks.rename hstaged.sound.parent (hstaged.stay.walks h.draft)
    (hstaged.stay.walks h.holds.walk) hcontent hfree
  have hdone : Disk.rename (draftOf target) target u = (.ok (), v) := Disk.attempt_of_ok hrename
  simp only [commit, hdone]
  exact ⟨_, rfl⟩

/-- Any text can be put in place of what a target holds. -/
theorem Replaceable.restore_text (h : Replaceable w.disk target bytes) (text : String) :
    ∃ w', restore target (some text) w = (.ok (), w') ∧ Stay w.disk w'.disk ∧
      w'.disk.Holds target (Utf8.encode text) := by
  obtain ⟨u, hstage⟩ := h.exists_stage text
  obtain ⟨w', hcommit⟩ := h.exists_commit hstage
  obtain ⟨hchanged, hholds, -⟩ := changedAt_replace h.sound hstage hcommit
  refine ⟨w', ?_, hchanged.stay, hholds⟩
  rw [restore, hstage]
  exact hcommit

/-- A target can be taken away. -/
theorem Replaceable.restore_nothing (h : Replaceable w.disk target bytes) :
    ∃ w', restore target none w = (.ok (), w') ∧ Stay w.disk w'.disk ∧
      w'.disk.find target = .error .notFound := by
  have hfile := Files.contentAt?_eq_some_iff.1 h.holds.contentAt?
  have hstay := h.sound.parent.stay_cut hfile
  have hremove : Disk.remove target w.disk = (.ok (), w.disk.cut (w.disk.aim target)) :=
    Disk.attempt_of_ok (Files.Walks.remove h.holds.walk h.holds.contentAt?)
  refine ⟨{ w with disk := w.disk.cut (w.disk.aim target) }, ?_, hstay, ?_⟩
  · simp only [restore, hremove]
  · refine Files.Walks.find_of_none (hstay.walks h.holds.walk) ?_
    rw [hstay.aim]
    exact Files.entryAt?_cut_self _ (Files.ne_root_of_file hfile)

end Staged

/-! ## What is put back -/

/-- What is kept of a file is its text, if it can be read and is one. -/
theorem Files.currentText_eq (t : Files) (path : String) :
    currentText t path = (t.read path).toOption.bind Utf8.decode? := by
  have hread : Disk.read t path = t.read path := rfl
  rw [currentText, hread]
  cases t.read path <;> rfl

/-- A target that was absent or a file is replaced, and gets back what was read of it before. This
succeeds. The target is then as it was exactly if the file, if there was one, held a text; if it is
not, it is gone. -/
theorem restore_undoes_iff {w₁ : Scene Files} (hsound : w.disk.Sound)
    (hprior : w.disk.find target = .error .notFound ∨
      ∃ place bytes, w.disk.find target = .ok (place, .file bytes))
    (hstage : Staged.stage target content w.disk = (.ok f, u))
    (hcommit : f.commit { w with disk := u } = (.ok (), w₁)) :
    w₁.disk.read target = .ok (Utf8.encode content) ∧
      ∃ w₂, restore target (currentText w.disk target) w₁ = (.ok (), w₂) ∧
        (w₂.disk.find target = w.disk.find target ↔
          ∀ bytes, w.disk.read target = .ok bytes → (Utf8.decode? bytes).isSome) ∧
        (w₂.disk.find target ≠ w.disk.find target → w₂.disk.find target = .error .notFound) := by
  obtain rfl := Staged.eq_of_stage_ok hstage
  have hstay := (Staged.changedAt_replace hsound hstage hcommit).1.stay
  have hreplaced := Staged.replaceable_of_commit hsound hstage hcommit
  refine ⟨Files.read_eq_ok_iff.2 hreplaced.holds, ?_⟩
  rw [Files.currentText_eq]
  rcases hprior with hnone | ⟨place, bytes, hfile⟩
  · -- Nothing was there: nothing is read, and the target goes away again.
    have hfault : w.disk.read target = .error .notFound := by
      rw [Files.read, hnone]
      rfl
    obtain ⟨w₂, hrestore, -, hgone⟩ := hreplaced.restore_nothing
    refine ⟨w₂, ?_, ?_, fun _ => hgone⟩
    · rw [hfault]
      exact hrestore
    · refine iff_of_true (hgone.trans hnone.symm) fun bytes hbytes => ?_
      rw [hfault] at hbytes
      cases hbytes
  · have hholds := Files.holds_of_find hfile
    have hbefore := Files.Walks.find_of_file hholds.walk hholds.contentAt?
    have hbytes := Files.read_eq_ok_iff.2 hholds
    have hall : (∀ bytes', w.disk.read target = .ok bytes' → (Utf8.decode? bytes').isSome) ↔
        (Utf8.decode? bytes).isSome := by
      simp [hbytes]
    have hkept : (w.disk.read target).toOption.bind Utf8.decode? = Utf8.decode? bytes := by
      rw [hbytes]
      rfl
    rw [hall, hkept]
    cases hdecode : Utf8.decode? bytes with
    | none =>
      obtain ⟨w₂, hrestore, -, hgone⟩ := hreplaced.restore_nothing
      refine ⟨w₂, hrestore, iff_of_false ?_ Bool.false_ne_true, fun _ => hgone⟩
      simp [hgone, hbefore]
    | some text =>
      obtain ⟨w₂, hrestore, hstay₂, hholds₂⟩ := hreplaced.restore_text text
      have hafter : w₂.disk.find target = w.disk.find target := by
        rw [Files.Walks.find_of_file hholds₂.walk hholds₂.contentAt?, (hstay.trans hstay₂).aim,
          hbefore, Utf8.eq_encode_of_decode? hdecode]
      exact ⟨w₂, hrestore, iff_of_true hafter rfl, fun hne => absurd hafter hne⟩

/-! ## Two files -/

def livePath : String := "/conf/stream.conf"

/-- A tree with one file. -/
def liveTree (bytes : List UInt8) : Files :=
  ((Files.empty.perform (.makeDirs "/conf")).2.perform (.write livePath bytes)).2

theorem sound_liveTree (bytes : List UInt8) : (liveTree bytes).Sound :=
  (Files.sound_empty.perform (.makeDirs "/conf") (Files.entryAt?_root _)).perform _
    (Files.entryAt?_root _)

theorem restore_undoes_text : ∃ f u w₁ w₂,
    Staged.stage livePath "new" (liveTree (Utf8.encode "é")) = (.ok f, u) ∧
      f.commit ⟨u, .empty⟩ = (.ok (), w₁) ∧
      restore livePath (currentText (liveTree (Utf8.encode "é")) livePath) w₁ = (.ok (), w₂) ∧
      w₂.disk.find livePath = (liveTree (Utf8.encode "é")).find livePath := by
  obtain ⟨u, w₁, hstage, hcommit⟩ : ∃ u w₁,
      Staged.stage livePath "new" (liveTree (Utf8.encode "é")) =
          (.ok ⟨draftOf livePath, livePath⟩, u) ∧
        Staged.commit ⟨draftOf livePath, livePath⟩ (⟨u, .empty⟩ : Scene Files) = (.ok (), w₁) := by
    refine ⟨_, _, Prod.ext ?_ rfl, Prod.ext ?_ rfl⟩ <;> decide
  have hprior : (liveTree (Utf8.encode "é")).find livePath =
      .ok (["conf", "stream.conf"], .file (Utf8.encode "é")) := by
    decide +kernel
  obtain ⟨-, w₂, hrestore, hback, -⟩ := restore_undoes_iff
    (w := ⟨liveTree (Utf8.encode "é"), .empty⟩) (sound_liveTree _) (.inr ⟨_, _, hprior⟩)
    hstage hcommit
  refine ⟨_, u, w₁, w₂, hstage, hcommit, hrestore, hback.mpr ?_⟩
  intro bytes hbytes
  rw [Files.read, hprior] at hbytes
  cases hbytes
  rw [Utf8.decode?_encode]
  rfl

/-- A file whose one byte is no text is replaced, restored without a fault, and gone. -/
theorem restore_loses : (liveTree [0xC3]).Sound ∧
    ∃ f u w₁ w₂, Staged.stage livePath "new" (liveTree [0xC3]) = (.ok f, u) ∧
      f.commit ⟨u, .empty⟩ = (.ok (), w₁) ∧
      restore livePath (currentText (liveTree [0xC3]) livePath) w₁ = (.ok (), w₂) ∧
      (liveTree [0xC3]).find livePath = .ok (["conf", "stream.conf"], .file [0xC3]) ∧
      w₂.disk.find livePath = .error .notFound := by
  refine ⟨sound_liveTree _, ⟨draftOf livePath, livePath⟩, _, _, _, Prod.ext ?_ rfl, Prod.ext ?_ rfl,
    Prod.ext ?_ rfl, ?_, ?_⟩ <;> decide +kernel

end Portcullis
