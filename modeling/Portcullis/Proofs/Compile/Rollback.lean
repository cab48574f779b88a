import Portcullis.Compile.Pass
import Portcullis.Proofs.Files.Staged
import Portcullis.Proofs.Files.Trial

/-!
# A failed pass changes nothing

A compile pass that fails leaves the files of the proxy, and the last good result, as they were
before it.

* `Pass.Underway` is what holds of the disk in the middle of a pass: how it differs from the disk
  that the pass began with, given the targets that are replaced already and those whose content
  waits beside them.
* `Pass.stageAll_cases`, `Pass.commitAll_error` and `Pass.giveUp_underway` carry it through the
  loops of a pass, and `Pass.commitBoth_error` puts the first file back.
* `Compiler.compile_error_restores` is the main result.
-/

namespace Portcullis

open Portcullis.Text
open LawfulDisk
open Staged (draftOf)

namespace Pass

variable {σ : Type} [Disk σ] [LawfulDisk σ]

/-! ## The middle of a pass -/

/-- How a disk `s` in the middle of a pass differs from the disk `s₀` before it. -/
structure Underway (targets : List String) (s₀ s : σ) (committed pending : List String) :
    Prop where
  /-- Hidden siblings apart, only committed targets have changed. -/
  others : ∀ g : File σ, (∀ t ∈ targets, g ≠ fileAt (draftOf t)) →
    (∀ t ∈ committed, g ≠ fileAt t) → content? s g = content? s₀ g
  /-- A pending content waits beside its target. -/
  staged : ∀ t ∈ pending, (content? s (fileAt (draftOf t))).isSome
  /-- No other hidden sibling was left. -/
  drafts : ∀ t ∈ targets, t ∉ pending → content? s (fileAt (draftOf t)) = none ∨
    content? s (fileAt (draftOf t)) = content? s₀ (fileAt (draftOf t))

namespace Underway

variable {targets committed pending : List String} {s₀ s s' : σ} {t : String}

theorem start (targets : List String) (s : σ) : Underway targets s s [] [] where
  others _ _ _ := rfl
  staged _ h := absurd h List.not_mem_nil
  drafts _ _ _ := Or.inr rfl

/-- A content was staged. -/
theorem stage (h : Underway targets s₀ s [] pending) (hapart : Disk.Apart σ targets)
    (hpending : ∀ u ∈ pending, u ∈ targets) (ht : t ∈ targets)
    (hdraft : (content? s' (fileAt (draftOf t))).isSome)
    (hsame : ∀ g, g ≠ fileAt (draftOf t) → content? s' g = content? s g) :
    Underway targets s₀ s' [] (pending ++ [t]) where
  others g hg hg' := by
    rw [hsame g (hg t ht)]
    exact h.others g hg hg'
  staged u hu := by
    by_cases hut : u = t
    · rw [hut]
      exact hdraft
    · have hmem : u ∈ pending := by simpa [hut] using hu
      rw [hsame _ (hapart.drafts_ne (hpending u hmem) ht hut)]
      exact h.staged u hmem
  drafts u hu hnot := by
    obtain ⟨hmem, hut⟩ : u ∉ pending ∧ u ≠ t := by simpa [not_or] using hnot
    rw [hsame _ (hapart.drafts_ne hu ht hut)]
    exact h.drafts u hu hmem

/-- Nothing but a hidden sibling has changed, which was not waiting and does not stay. -/
theorem clear (h : Underway targets s₀ s committed pending) (hapart : Disk.Apart σ targets)
    (hpending : ∀ u ∈ pending, u ∈ targets) (ht : t ∈ targets) (hnot : t ∉ pending)
    (hdraft : content? s' (fileAt (draftOf t)) = none ∨
      content? s' (fileAt (draftOf t)) = content? s (fileAt (draftOf t)))
    (hsame : ∀ g, g ≠ fileAt (draftOf t) → content? s' g = content? s g) :
    Underway targets s₀ s' committed pending where
  others g hg hg' := by
    rw [hsame g (hg t ht)]
    exact h.others g hg hg'
  staged u hu := by
    have hut : u ≠ t := fun heq => hnot (heq ▸ hu)
    rw [hsame _ (hapart.drafts_ne (hpending u hu) ht hut)]
    exact h.staged u hu
  drafts u hu hmem := by
    by_cases hut : u = t
    · rw [hut]
      rcases hdraft with hgone | hkept
      · exact Or.inl hgone
      · rw [hkept]
        exact h.drafts t ht hnot
    · rw [hsame _ (hapart.drafts_ne hu ht hut)]
      exact h.drafts u hu hmem

/-- A content that was waiting is gone, and nothing else has changed. -/
theorem drop (h : Underway targets s₀ s committed (t :: pending)) (hapart : Disk.Apart σ targets)
    (hpending : ∀ u ∈ pending, u ∈ targets) (ht : t ∈ targets) (hnot : t ∉ pending)
    (hdraft : content? s' (fileAt (draftOf t)) = none)
    (hsame : ∀ g, g ≠ fileAt (draftOf t) → content? s' g = content? s g) :
    Underway targets s₀ s' committed pending where
  others g hg hg' := by
    rw [hsame g (hg t ht)]
    exact h.others g hg hg'
  staged u hu := by
    have hut : u ≠ t := fun heq => hnot (heq ▸ hu)
    rw [hsame _ (hapart.drafts_ne (hpending u hu) ht hut)]
    exact h.staged u (List.mem_cons_of_mem t hu)
  drafts u hu hmem := by
    by_cases hut : u = t
    · rw [hut]
      exact Or.inl hdraft
    · rw [hsame _ (hapart.drafts_ne hu ht hut)]
      exact h.drafts u hu (by simp [hut, hmem])

/-- A waiting content took the place of its target. -/
theorem commit (h : Underway targets s₀ s committed (t :: pending))
    (hapart : Disk.Apart σ targets) (hpending : ∀ u ∈ pending, u ∈ targets) (ht : t ∈ targets)
    (hnot : t ∉ pending) (hdraft : content? s' (fileAt (draftOf t)) = none)
    (hsame : ∀ g, g ≠ fileAt (draftOf t) → g ≠ fileAt t → content? s' g = content? s g) :
    Underway targets s₀ s' (t :: committed) pending where
  others g hg hg' := by
    rw [hsame g (hg t ht) (hg' t List.mem_cons_self)]
    exact h.others g hg fun u hu => hg' u (List.mem_cons_of_mem t hu)
  staged u hu := by
    have hut : u ≠ t := fun heq => hnot (heq ▸ hu)
    rw [hsame _ (hapart.drafts_ne (hpending u hu) ht hut) (hapart.draft_ne (hpending u hu) ht)]
    exact h.staged u (List.mem_cons_of_mem t hu)
  drafts u hu hmem := by
    by_cases hut : u = t
    · rw [hut]
      exact Or.inl hdraft
    · rw [hsame _ (hapart.drafts_ne hu ht hut) (hapart.draft_ne hu ht)]
      exact h.drafts u hu (by simp [hut, hmem])

/-- A committed target holds again what it held before the pass. -/
theorem restore (h : Underway targets s₀ s (t :: committed) [])
    (hapart : Disk.Apart σ targets) (ht : t ∈ targets)
    (htarget : content? s' (fileAt t) = content? s₀ (fileAt t))
    (hdraft : content? s' (fileAt (draftOf t)) = none ∨
      content? s' (fileAt (draftOf t)) = content? s (fileAt (draftOf t)))
    (hsame : ∀ g, g ≠ fileAt (draftOf t) → g ≠ fileAt t → content? s' g = content? s g) :
    Underway targets s₀ s' committed [] where
  others g hg hg' := by
    by_cases hgt : g = fileAt t
    · rw [hgt]
      exact htarget
    · rw [hsame g (hg t ht) hgt]
      apply h.others g hg
      intro u hu
      rcases List.mem_cons.mp hu with rfl | hu
      · exact hgt
      · exact hg' u hu
  staged _ hu := absurd hu List.not_mem_nil
  drafts u hu hmem := by
    by_cases hut : u = t
    · rw [hut]
      rcases hdraft with hgone | hkept
      · exact Or.inl hgone
      · rw [hkept]
        exact h.drafts t ht List.not_mem_nil
    · rw [hsame _ (hapart.drafts_ne hu ht hut) (hapart.draft_ne hu ht)]
      exact h.drafts u hu hmem

end Underway

/-! ## The loops of a pass -/

/-- The replacements of targets, given with what they held. -/
def replacements (jobs : List (String × Option String)) : List Replacement :=
  jobs.map fun (target, held) => ⟨⟨draftOf target, target⟩, held⟩

variable {targets : List String} {s₀ : σ}

/-- Giving up all that waits ends the waiting. -/
theorem discardAll_underway {committed : List String} {pending : List (String × Option String)}
    {s : σ} (h : Underway targets s₀ s committed (pending.map Prod.fst))
    (hapart : Disk.Apart σ targets)
    (hdiscard : ∀ t ∈ targets, ∀ s : σ, Disk.Removed (Disk.remove (draftOf t) s).1)
    (hpending : ∀ p ∈ pending, p.1 ∈ targets) (hnodup : (pending.map Prod.fst).Nodup) :
    Underway targets s₀ (discardAll (replacements pending) s) committed [] := by
  induction pending generalizing s with
  | nil => exact h
  | cons p rest ih =>
    obtain ⟨target, held⟩ := p
    obtain ⟨ht, hrest⟩ := List.forall_mem_cons.mp hpending
    rw [List.map_cons, List.nodup_cons] at hnodup
    apply ih _ hrest hnodup.2
    apply Underway.drop h hapart (List.forall_mem_map.mpr hrest) ht hnodup.1
    · exact Disk.content?_remove (hdiscard target ht s)
    · exact remove_other s (draftOf target)

/-- Staging ends with targets that hold something else, in their order, and their contents
waiting; or it fails, and nothing waits any more. -/
theorem stageAll_cases (jobs : List (String × String × Option String))
    (done : List (String × Option String)) {s : σ}
    (h : Underway targets s₀ s [] (done.map Prod.fst)) (hapart : Disk.Apart σ targets)
    (hdiscard : ∀ t ∈ targets, ∀ s : σ, Disk.Removed (Disk.remove (draftOf t) s).1)
    (hdone : ∀ p ∈ done, p.1 ∈ targets) (hjobs : ∀ j ∈ jobs, j.1 ∈ targets)
    (hnodup : (done.map Prod.fst ++ jobs.map Prod.fst).Nodup) :
    (∃ added s', stageAll s (replacements done) jobs =
          (.ok (replacements (done ++ added)), s') ∧
        added.Sublist (jobs.map fun j => (j.1, j.2.2)) ∧
        Underway targets s₀ s' [] ((done ++ added).map Prod.fst)) ∨
      ∃ e s', stageAll s (replacements done) jobs = (.error e, s') ∧
        Underway targets s₀ s' [] [] := by
  induction jobs generalizing done s with
  | nil =>
    refine Or.inl ⟨[], s, ?_, List.Sublist.refl [], ?_⟩
    · rw [stageAll, List.append_nil]
    · rwa [List.append_nil]
  | cons job rest ih =>
    obtain ⟨target, content, held⟩ := job
    obtain ⟨ht, hrest⟩ := List.forall_mem_cons.mp hjobs
    have hpending : ∀ u ∈ done.map Prod.fst, u ∈ targets := List.forall_mem_map.mpr hdone
    rw [List.map_cons] at hnodup
    rw [stageAll]
    by_cases hheld : held = some content
    · rw [if_pos hheld]
      have hskip := hnodup.sublist (List.Sublist.append_left (List.sublist_cons_self _ _) _)
      rcases ih done h hdone hrest hskip with ⟨added, s', hstage, hsub, hu⟩ | hfail
      · exact Or.inl ⟨added, s', hstage, hsub.cons _, hu⟩
      · exact Or.inr hfail
    · rw [if_neg hheld]
      rcases hone : Staged.stage target content s with ⟨f | f, s₁⟩
      · have hnot : target ∉ done.map Prod.fst := by
          intro hmem
          exact (List.nodup_append.mp hnodup).2.2 target hmem target List.mem_cons_self rfl
        obtain ⟨hdraft, hsame⟩ := Staged.stage_error (hdiscard target ht) hone
        have hnow := h.clear hapart hpending ht hnot hdraft hsame
        exact Or.inr ⟨f, _, rfl,
          discardAll_underway hnow hapart hdiscard hdone (List.nodup_append.mp hnodup).1⟩
      · obtain ⟨hdraft, hsame⟩ := Staged.stage_ok hone
        have hnow : Underway targets s₀ s₁ [] ((done ++ [(target, held)]).map Prod.fst) := by
          rw [List.map_append, List.map_singleton]
          exact h.stage hapart hpending ht (by rw [hdraft]; rfl) hsame
        have hdone' : ∀ p ∈ done ++ [(target, held)], p.1 ∈ targets :=
          List.forall_mem_append.mpr ⟨hdone, List.forall_mem_singleton.mpr ht⟩
        have hnodup' : ((done ++ [(target, held)]).map Prod.fst ++ rest.map Prod.fst).Nodup := by
          rw [List.map_append, List.map_singleton, List.append_assoc]
          exact hnodup
        have hnext : replacements done ++ [⟨f, held⟩] = replacements (done ++ [(target, held)]) := by
          rw [Staged.eq_of_stage_ok hone, replacements, replacements, List.map_append]
          rfl
        simp only [hnext]
        rcases ih _ hnow hdone' hrest hnodup' with ⟨added, s', hstage, hsub, hu⟩ | hfail
        · rw [List.append_assoc] at hstage hu
          exact Or.inl ⟨(target, held) :: added, s', hstage, hsub.cons_cons _, hu⟩
        · exact Or.inr hfail

/-- Where committing fails, the rename over one of the targets has failed: those before it are
committed, and those after it are still waiting. What follows is clean-up. -/
theorem commitAll_error {committed pending : List (String × Option String)} {w w' : Scene σ}
    {e : WriteFault}
    (h : Underway targets s₀ w.disk (committed.map Prod.fst) (pending.map Prod.fst))
    (hapart : Disk.Apart σ targets) (hpending : ∀ p ∈ pending, p.1 ∈ targets)
    (hnodup : (pending.map Prod.fst).Nodup)
    (hcommit : commitAll w (replacements committed) (replacements pending) = (.error e, w')) :
    ∃ front p rest, ∃ s : σ, ∃ f j, pending = front ++ p :: rest ∧
      Underway targets s₀ s ((front.reverse ++ committed).map Prod.fst)
        ((p :: rest).map Prod.fst) ∧
      (Disk.rename (draftOf p.1) p.1 s).1 = .error f ∧
      w' = restoreAll
        ⟨discardAll (replacements rest)
          (Disk.remove (draftOf p.1) (Disk.rename (draftOf p.1) p.1 s).2).2, j⟩
        (replacements (front.reverse ++ committed)) := by
  induction pending generalizing committed w with
  | nil => simp [replacements, commitAll] at hcommit
  | cons p rest ih =>
    obtain ⟨target, held⟩ := p
    obtain ⟨ht, hrest⟩ := List.forall_mem_cons.mp hpending
    rcases hone : Staged.commit ⟨draftOf target, target⟩ w with ⟨f | _, w₁⟩
    · obtain ⟨⟨f, hrename⟩, hdisk⟩ := Staged.eq_of_commit_error hone
      refine ⟨[], (target, held), rest, w.disk, f, w₁.journal, rfl, h, hrename, ?_⟩
      simp only [replacements, List.map_cons, commitAll, hone, Prod.mk.injEq] at hcommit
      rw [← hcommit.2, hdisk]
      rfl
    · rw [List.map_cons] at h hnodup
      rw [List.nodup_cons] at hnodup
      have hwaits := h.staged target List.mem_cons_self
      obtain ⟨-, hdraft, hsame⟩ := Staged.commit_ok hwaits (hapart.draft_ne ht ht) hone
      have hnow : Underway targets s₀ w₁.disk (((target, held) :: committed).map Prod.fst)
          (rest.map Prod.fst) :=
        h.commit hapart (List.forall_mem_map.mpr hrest) ht hnodup.1 hdraft hsame
      have hrun : commitAll w₁ (replacements ((target, held) :: committed)) (replacements rest) =
          (.error e, w') := by
        rw [← hcommit]
        simp only [replacements, List.map_cons, commitAll, hone]
      obtain ⟨front, p, later, s, f, j, hsplit, hu, hrename, hw'⟩ := ih hnow hrest hnodup.2 hrun
      refine ⟨(target, held) :: front, p, later, s, f, j, ?_, ?_, hrename, ?_⟩
      · rw [hsplit, List.cons_append]
      · rw [List.reverse_cons, List.append_assoc]
        exact hu
      · rw [List.reverse_cons, List.append_assoc]
        exact hw'

/-- Where the rename over a target fails, what is given up leaves the committed targets alone. -/
theorem giveUp_underway {committed : List String} {p : String × Option String}
    {rest : List (String × Option String)} {s : σ} {f : Fault}
    (h : Underway targets s₀ s committed ((p :: rest).map Prod.fst))
    (hapart : Disk.Apart σ targets)
    (hdiscard : ∀ t ∈ targets, ∀ s : σ, Disk.Removed (Disk.remove (draftOf t) s).1)
    (hpending : ∀ q ∈ p :: rest, q.1 ∈ targets) (hnodup : ((p :: rest).map Prod.fst).Nodup)
    (hrename : (Disk.rename (draftOf p.1) p.1 s).1 = .error f) :
    Underway targets s₀ (discardAll (replacements rest)
      (Disk.remove (draftOf p.1) (Disk.rename (draftOf p.1) p.1 s).2).2) committed [] := by
  obtain ⟨hp, hrest⟩ := List.forall_mem_cons.mp hpending
  rw [List.map_cons, List.nodup_cons] at hnodup
  obtain ⟨hgone, hsame⟩ := Staged.content?_of_rename_error (hdiscard p.1 hp) hrename
  have hdropped := h.drop hapart (List.forall_mem_map.mpr hrest) hp hnodup.1 hgone hsame
  exact discardAll_underway hdropped hapart hdiscard hrest hnodup.2

/-! ## Whole passes -/

/-- Replacing two files, or one of them, ends the pass with both as they were, where the rename
over one of them fails. -/
theorem commitBoth_error {first second : String × Option String}
    {added : List (String × Option String)} {w w' : Scene σ} {e : WriteFault}
    (h : Underway [first.1, second.1] s₀ w.disk [] (added.map Prod.fst))
    (hapart : Disk.Apart σ [first.1, second.1]) (hforgive : Forgiving σ first.1 second.1)
    (hadded : added.Sublist [first, second])
    (hheld : content? s₀ (fileAt first.1) = first.2.map Utf8.encode)
    (hcommit : commitAll w [] (replacements added) = (.error e, w')) :
    Underway [first.1, second.1] s₀ w'.disk [] [] := by
  have hnames : (added.map Prod.fst).Sublist [first.1, second.1] := hadded.map Prod.fst
  have hmem : ∀ p ∈ added, p.1 ∈ [first.1, second.1] :=
    fun p hp => hnames.subset (List.mem_map_of_mem hp)
  have hnodup := hapart.nodup.sublist hnames
  have hwaits : Underway [first.1, second.1] s₀ w.disk
      (([] : List (String × Option String)).map Prod.fst) (added.map Prod.fst) := h
  obtain ⟨front, p, rest, s, f, j, hsplit, hu, hrename, rfl⟩ :=
    commitAll_error hwaits hapart hmem hnodup hcommit
  rw [hsplit, List.forall_mem_append] at hmem
  rw [hsplit, List.map_append, List.nodup_append] at hnodup
  have hclear := giveUp_underway hu hapart hforgive.discards hmem.2 hnodup.2.1 hrename
  cases front with
  | nil => exact hclear
  | cons q front =>
    -- With a target before it, the one that fails is the second of two.
    have hlength := hadded.length_le
    rw [hsplit] at hlength hadded
    simp only [List.length_append, List.length_cons, List.length_nil] at hlength
    obtain rfl : front = [] := List.eq_nil_of_length_eq_zero (by omega)
    obtain rfl : rest = [] := List.eq_nil_of_length_eq_zero (by omega)
    have hboth : [q] ++ [p] = [first, second] := hadded.eq_of_length rfl
    obtain ⟨rfl, hps⟩ := List.cons.inj hboth
    obtain rfl := (List.cons.inj hps).1
    have hq : q.1 ∈ [q.1, p.1] := List.mem_cons_self
    have hback := hforgive.rollsBack s f (hu.staged p.1 List.mem_cons_self) hrename
    obtain ⟨w₁, hrestore, htarget, hdraft, hother⟩ :=
      restore_of_restorable (w := ⟨_, j⟩) hback (hapart.draft_ne hq hq) q.2
    rw [← hheld] at htarget
    have hrun : restoreAll ⟨discardAll (replacements [])
        (Disk.remove (draftOf p.1) (Disk.rename (draftOf p.1) p.1 s).2).2, j⟩
        (replacements ([q].reverse ++ [])) = w₁ := by
      have hstep := hrestore
      simp only [replacements, discardAll, List.map_nil, List.foldl_nil, List.append_nil,
        List.reverse_singleton, List.map_cons, restoreAll] at hstep ⊢
      rw [hstep]
    rw [hrun]
    exact hclear.restore hapart hq htarget hdraft hother

/-- Where the two files cannot be replaced both are as they were. -/
theorem replaceFiles_error {c : Compiled} {w w' : Scene σ} {e : WriteFault}
    (hapart : Disk.Apart σ [c.streamPath, c.httpPath])
    (hforgive : Forgiving σ c.streamPath c.httpPath)
    (htext : Textual w.disk c.streamPath)
    (h : replaceFiles c w = (.error e, w')) :
    Underway [c.streamPath, c.httpPath] w.disk w'.disk [] [] := by
  have hstaged := stageAll_cases [(c.streamPath, c.stream, currentText w.disk c.streamPath),
    (c.httpPath, c.http, currentText w.disk c.httpPath)] []
    (Underway.start [c.streamPath, c.httpPath] w.disk) hapart hforgive.discards
    (fun p hp => absurd hp List.not_mem_nil) (by simp) hapart.nodup
  unfold replaceFiles at h
  rcases hstaged with ⟨added, s₁, hstage, hsub, hu⟩ | ⟨f, s₁, hstage, hu⟩
  · simp only [replacements, List.map_nil, List.nil_append] at hstage
    simp only [hstage] at h
    split at h
    · next hrun =>
      simp only [Prod.mk.injEq] at h
      rw [← h.2]
      exact commitBoth_error (w := ⟨s₁, w.journal⟩) hu hapart hforgive hsub
        (content?_eq_currentText htext) hrun
    · simp at h
  · simp only [replacements, List.map_nil] at hstage
    simp only [hstage, Prod.mk.injEq] at h
    rw [← h.2]
    exact hu

/-- The texts of a preview belong where the settings say. -/
theorem paths_of_preview {s : ProxySettings} {view : Except StoreError Routing} {c : Compiled}
    (h : (preview s view).1 = .ok c) : c.streamPath = s.streamPath ∧ c.httpPath = s.httpPath := by
  unfold preview at h
  cases view with
  | error e => cases h
  | ok r =>
    rcases hbuild : build s r with ⟨e | ⟨config, stats⟩, notes⟩
    · simp [hbuild, Except.map] at h
    · simp only [hbuild, Except.map, Except.ok.injEq] at h
      rw [← h]
      exact ⟨rfl, rfl⟩

/-- A pass without its bookkeeping that fails leaves the files as they were. -/
theorem attempt_error {s : ProxySettings} {view : Except StoreError Routing} {w w' : Scene σ}
    {e : CompileError} (hapart : Disk.Apart σ [s.streamPath, s.httpPath])
    (hforgive : Forgiving σ s.streamPath s.httpPath)
    (htext : Textual w.disk s.streamPath)
    (h : attempt s view w = (.error e, w')) :
    Underway [s.streamPath, s.httpPath] w.disk w'.disk [] [] := by
  unfold attempt at h
  rcases hpreview : preview s view with ⟨f | c, notes⟩
  · simp only [hpreview, Prod.mk.injEq] at h
    rw [← h.2]
    exact Underway.start _ w.disk
  · obtain ⟨hstream, hhttp⟩ := paths_of_preview (by rw [hpreview] : (preview s view).1 = .ok c)
    rw [← hstream, ← hhttp] at hapart hforgive ⊢
    rw [← hstream] at htext
    simp only [hpreview] at h
    split at h
    · next f w₁ hreplace =>
      have hu := replaceFiles_error (w := { w with journal := w.journal.logAll notes })
        hapart hforgive htext hreplace
      simp only [Prod.mk.injEq] at h
      rw [← h.2]
      exact hu
    · simp at h

end Pass

variable {σ : Type} [Disk σ] [LawfulDisk σ]

/-- A pass that fails, for whatever reason and after whatever faults, leaves both files that the
proxy reads as they were, absent or with their text. Of the hidden siblings none is left that was
not there before, no other file has changed, and the last good result is kept. The first file is
the one that may have to be restored, and a text is all that can be. -/
theorem Compiler.compile_error_restores {c c' : Compiler} {view : Except StoreError Routing}
    {w w' : Scene σ} {e : CompileError}
    (hapart : Disk.Apart σ [c.settings.streamPath, c.settings.httpPath])
    (hforgive : Forgiving σ c.settings.streamPath c.settings.httpPath)
    (htext : Textual w.disk c.settings.streamPath)
    (h : c.compile view w = (.error e, c', w')) :
    (∀ t ∈ [c.settings.streamPath, c.settings.httpPath],
        content? w'.disk (fileAt t) = content? w.disk (fileAt t)) ∧
      (∀ t ∈ [c.settings.streamPath, c.settings.httpPath],
        content? w'.disk (fileAt (draftOf t)) = none ∨
          content? w'.disk (fileAt (draftOf t)) = content? w.disk (fileAt (draftOf t))) ∧
      (∀ g : File σ, (∀ t ∈ [c.settings.streamPath, c.settings.httpPath],
        g ≠ fileAt (draftOf t)) → content? w'.disk g = content? w.disk g) ∧
      c'.last = c.last := by
  unfold Compiler.compile at h
  rcases hattempt : Pass.attempt c.settings view w with ⟨f | result, w₁⟩
  · have hu := Pass.attempt_error hapart hforgive htext hattempt
    simp only [hattempt, Prod.mk.injEq] at h
    obtain ⟨-, rfl, rfl⟩ := h
    have hothers := fun g hg => hu.others g hg fun t ht => absurd ht List.not_mem_nil
    refine ⟨fun t ht => ?_, fun t ht => hu.drafts t ht List.not_mem_nil, hothers, rfl⟩
    exact hothers (fileAt t) fun u hmem => (hapart.draft_ne hmem ht).symm
  · simp [hattempt] at h

/-- A disk without a stream configuration, on which the second rename of a pass fails. -/
def secondRename : Trial where
  files path := if path = "/opt/app/nginx/conf/http.conf" then some (Utf8.encode "old") else none
  plan := [none, none, none, none, none, some .permissionDenied]

/-- The first file was in place when the second rename failed, and it is gone again. -/
theorem compile_error_restores_secondRename :
    ∃ e c' w', Compiler.compile ⟨{}, none⟩ (.ok {}) ⟨secondRename, .empty⟩ = (.error e, c', w') ∧
      e = .write ⟨"/opt/app/nginx/conf/http.conf", .permissionDenied⟩ ∧
      w'.disk.files "/opt/app/nginx/conf/stream.conf" = none ∧
      w'.disk.files "/opt/app/nginx/conf/http.conf" = some (Utf8.encode "old") ∧
      w'.disk.files "/opt/app/nginx/conf/.stream.conf.tmp" = none := by
  have hstream : ProxySettings.streamPath {} = "/opt/app/nginx/conf/stream.conf" := by
    decide
  have hhttp : ProxySettings.httpPath {} = "/opt/app/nginx/conf/http.conf" := by
    decide
  have hdraft : draftOf "/opt/app/nginx/conf/stream.conf" =
      "/opt/app/nginx/conf/.stream.conf.tmp" := by
    decide
  have hpaths : [ProxySettings.streamPath {}, ProxySettings.httpPath {}] =
      ["/opt/app/nginx/conf/stream.conf", "/opt/app/nginx/conf/http.conf"] := by
    rw [hstream, hhttp]
  have hapart : Disk.Apart Trial [ProxySettings.streamPath {}, ProxySettings.httpPath {}] := by
    show List.Nodup (List.map (id : String → String) _)
    decide +kernel
  have htext : Textual secondRename (ProxySettings.streamPath {}) := by
    have habsent : secondRename.files (ProxySettings.streamPath {}) = none := by
      decide
    intro bytes hbytes
    cases habsent.symm.trans hbytes
  have hrun : (Compiler.compile ⟨{}, none⟩ (.ok {}) ⟨secondRename, .empty⟩).1 =
      .error (.write ⟨"/opt/app/nginx/conf/http.conf", .permissionDenied⟩) := by
    decide +kernel
  obtain ⟨hlive, hdrafts, -, -⟩ := Compiler.compile_error_restores (c := ⟨{}, none⟩)
    (w := ⟨secondRename, .empty⟩) hapart (Trial.forgiving _ _) htext (Prod.ext hrun rfl)
  refine ⟨_, _, _, Prod.ext hrun rfl, rfl, ?_, ?_, ?_⟩
  · exact hlive _ (by rw [hpaths]; exact List.mem_cons_self)
  · exact hlive "/opt/app/nginx/conf/http.conf" (by rw [hpaths]; simp)
  · rcases hdrafts "/opt/app/nginx/conf/stream.conf" (by rw [hpaths]; simp) with h | h <;>
      rw [hdraft] at h <;> exact h

end Portcullis
