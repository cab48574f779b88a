import Portcullis.Proofs.Compile.Rollback

/-!
# A pass that succeeds writes what it compiled

After a compile pass that succeeds both files of the proxy hold the compiled texts, and where the
pass says that nothing changed the disk is as it was.

* `Delivered` says what a disk is after files were given their texts, by what it was before.
* `Pass.stageAll_ok` and `Pass.commitAll_ok` follow the contents through the two loops of a pass.
* `Compiler.compile_ok` is the main result, and `Compiler.compile_of_inPlace` says that a pass that
  has nothing to do succeeds.
-/

namespace Portcullis

open Portcullis.Text
open LawfulDisk
open Staged (draftOf)

variable {σ : Type} [Disk σ] [LawfulDisk σ]

/-- The current text of a file tells the bytes that it holds. -/
theorem currentText_eq_some_iff {s : σ} {path text : String} :
    currentText s path = some text ↔ content? s (fileAt path) = some (Utf8.encode text) := by
  constructor
  · intro h
    unfold currentText at h
    cases hcontent : content? s (fileAt path) with
    | none =>
      obtain ⟨e, he⟩ := read_absent s path hcontent
      rw [he] at h
      cases h
    | some bytes =>
      rw [read_present s path bytes hcontent] at h
      rw [Utf8.eq_encode_of_decode? h]
  · intro h
    rw [currentText, read_present s path _ h]
    exact Utf8.decode?_encode text

/-- Files, given by path and text, hold their texts. -/
def InPlace (files : List (String × String)) (s : σ) : Prop :=
  ∀ f ∈ files, content? s (fileAt f.1) = some (Utf8.encode f.2)

/-- What a disk was and what it is after files were given their texts. -/
structure Delivered (files : List (String × String)) (s s' : σ) : Prop where
  inPlace : InPlace files s'
  /-- Nothing is done where there is nothing to do. -/
  idle : InPlace files s → s' = s
  /-- No hidden sibling was written for a file that held its text. -/
  spared : ∀ f ∈ files, content? s (fileAt f.1) = some (Utf8.encode f.2) →
    content? s' (fileAt (draftOf f.1)) = content? s (fileAt (draftOf f.1))
  /-- The hidden sibling that was written for another file is gone. -/
  cleared : ∀ f ∈ files, content? s (fileAt f.1) ≠ some (Utf8.encode f.2) →
    content? s' (fileAt (draftOf f.1)) = none
  others : ∀ g, (∀ f ∈ files, g ≠ fileAt (draftOf f.1) ∧ g ≠ fileAt f.1) →
    content? s' g = content? s g

/-- The files of a configuration. -/
def Compiled.files (c : Compiled) : List (String × String) :=
  [(c.streamPath, c.stream), (c.httpPath, c.http)]

namespace Pass

/-! ## The loops of a pass -/

/-- A target, the content that it shall have, and the one that it holds. -/
abbrev Job := String × String × Option String

/-- What is staged for a job. -/
def Job.replacement (job : Job) : Replacement :=
  ⟨⟨draftOf job.1, job.1⟩, job.2.2⟩

/-- The jobs whose target does not hold its content yet. -/
def wanted (jobs : List Job) : List Job :=
  jobs.filter fun job => job.2.2 ≠ some job.2.1

theorem wanted_cons_of_held {job : Job} (h : job.2.2 = some job.2.1) (rest : List Job) :
    wanted (job :: rest) = wanted rest :=
  List.filter_cons_of_neg (by simpa using h)

theorem wanted_cons {job : Job} (h : job.2.2 ≠ some job.2.1) (rest : List Job) :
    wanted (job :: rest) = job :: wanted rest :=
  List.filter_cons_of_pos (by simpa using h)

variable {targets : List String}

omit [LawfulDisk σ] in
/-- A job is passed over if its target holds the content, and otherwise staged. -/
theorem stageAll_cons_ok {target content : String} {held : Option String} {rest : List Job}
    {done rs : List Replacement} {s s' : σ}
    (h : stageAll s done ((target, content, held) :: rest) = (.ok rs, s')) :
    held = some content ∧ stageAll s done rest = (.ok rs, s') ∨
      held ≠ some content ∧ ∃ s₁, Staged.stage target content s = (.ok ⟨draftOf target, target⟩, s₁) ∧
        stageAll s₁ (done ++ [Job.replacement (target, content, held)]) rest = (.ok rs, s') := by
  rw [stageAll] at h
  by_cases hheld : held = some content
  · rw [if_pos hheld] at h
    exact .inl ⟨hheld, h⟩
  · rw [if_neg hheld] at h
    rcases hone : Staged.stage target content s with ⟨e | f, s₁⟩
    · simp [hone] at h
    · simp only [hone] at h
      obtain rfl := Staged.eq_of_stage_ok hone
      exact .inr ⟨hheld, s₁, rfl, h⟩

omit [LawfulDisk σ] in
/-- Replacements are committed one after the other. -/
theorem commitAll_cons_ok {r : Replacement} {rest committed : List Replacement} {w w' : Scene σ}
    (h : commitAll w committed (r :: rest) = (.ok (), w')) :
    ∃ w₁, r.staged.commit w = (.ok (), w₁) ∧ commitAll w₁ (r :: committed) rest = (.ok (), w') := by
  rw [commitAll] at h
  rcases hone : r.staged.commit w with ⟨e | _, w₁⟩
  · simp [hone] at h
  · simp only [hone] at h
    exact ⟨w₁, rfl, h⟩

/-- Staging leaves each wanted content beside its target. -/
theorem stageAll_ok (hapart : Disk.Apart σ targets) {jobs : List Job} {done rs : List Replacement}
    {s s' : σ} (hjobs : ∀ j ∈ jobs, j.1 ∈ targets) (hnodup : (jobs.map Prod.fst).Nodup)
    (h : stageAll s done jobs = (.ok rs, s')) :
    rs = done ++ (wanted jobs).map Job.replacement ∧ (wanted jobs = [] → s' = s) ∧
      (∀ j ∈ wanted jobs, content? s' (fileAt (draftOf j.1)) = some (Utf8.encode j.2.1)) ∧
      ∀ g, (∀ j ∈ wanted jobs, g ≠ fileAt (draftOf j.1)) → content? s' g = content? s g := by
  induction jobs generalizing done s with
  | nil =>
    cases h
    exact ⟨(List.append_nil _).symm, fun _ => rfl, fun j hj => absurd hj List.not_mem_nil,
      fun _ _ => rfl⟩
  | cons job rest ih =>
    obtain ⟨target, content, held⟩ := job
    obtain ⟨ht, hrest⟩ := List.forall_mem_cons.mp hjobs
    rw [List.map_cons, List.nodup_cons] at hnodup
    obtain ⟨hheld, h⟩ | ⟨hheld, s₁, hone, h⟩ := stageAll_cons_ok h
    · rw [wanted_cons_of_held hheld]
      exact ih hrest hnodup.2 h
    · rw [wanted_cons hheld]
      obtain ⟨hdraft, hsame⟩ := Staged.stage_ok hone
      obtain ⟨hrs, -, hcontents, hothers⟩ := ih hrest hnodup.2 h
      -- The drafts of the other targets are other files.
      have hne : ∀ j ∈ wanted rest, (fileAt (draftOf target) : File σ) ≠ fileAt (draftOf j.1) := by
        intro j hj
        have hjrest : j ∈ rest := List.mem_of_mem_filter hj
        have hmem : j.1 ∈ rest.map Prod.fst := List.mem_map_of_mem hjrest
        refine hapart.drafts_ne ht (hrest j hjrest) fun heq => hnodup.1 ?_
        rwa [← heq] at hmem
      refine ⟨?_, fun hnil => (by cases hnil), ?_, ?_⟩
      · rw [hrs, List.append_assoc]
        rfl
      · rw [List.forall_mem_cons]
        exact ⟨(hothers _ hne).trans hdraft, hcontents⟩
      · intro g hg
        obtain ⟨hgt, hgrest⟩ := List.forall_mem_cons.mp hg
        exact (hothers g hgrest).trans (hsame g hgt)

/-- Committing gives each target the content beside it. -/
theorem commitAll_ok (hapart : Disk.Apart σ targets) {jobs : List Job} {committed : List Replacement}
    {w w' : Scene σ} (hjobs : ∀ j ∈ jobs, j.1 ∈ targets) (hnodup : (jobs.map Prod.fst).Nodup)
    (hstaged : ∀ j ∈ jobs, (content? w.disk (fileAt (draftOf j.1))).isSome)
    (h : commitAll w committed (jobs.map Job.replacement) = (.ok (), w')) :
    (∀ j ∈ jobs, content? w'.disk (fileAt j.1) = content? w.disk (fileAt (draftOf j.1))) ∧
      (∀ j ∈ jobs, content? w'.disk (fileAt (draftOf j.1)) = none) ∧
      ∀ g, (∀ j ∈ jobs, g ≠ fileAt (draftOf j.1) ∧ g ≠ fileAt j.1) →
        content? w'.disk g = content? w.disk g := by
  induction jobs generalizing committed w with
  | nil =>
    cases h
    exact ⟨fun j hj => absurd hj List.not_mem_nil, fun j hj => absurd hj List.not_mem_nil,
      fun _ _ => rfl⟩
  | cons job rest ih =>
    obtain ⟨ht, hrest⟩ := List.forall_mem_cons.mp hjobs
    obtain ⟨hwaits, hlater⟩ := List.forall_mem_cons.mp hstaged
    rw [List.map_cons, List.nodup_cons] at hnodup
    have hother : ∀ j ∈ rest, j.1 ≠ job.1 := by
      intro j hj heq
      exact hnodup.1 (heq ▸ List.mem_map_of_mem hj)
    rw [List.map_cons] at h
    obtain ⟨w₁, hone, h⟩ := commitAll_cons_ok h
    obtain ⟨htarget, hgone, hsame⟩ := Staged.commit_ok hwaits (hapart.draft_ne ht ht) hone
    have hdraft : ∀ j ∈ rest,
        content? w₁.disk (fileAt (draftOf j.1)) = content? w.disk (fileAt (draftOf j.1)) := by
      intro j hj
      exact hsame _ (hapart.drafts_ne (hrest j hj) ht (hother j hj))
        (hapart.draft_ne (hrest j hj) ht)
    have hwaits' : ∀ j ∈ rest, (content? w₁.disk (fileAt (draftOf j.1))).isSome := by
      intro j hj
      rw [hdraft j hj]
      exact hlater j hj
    obtain ⟨hcommitted, hcleared, hothers⟩ := ih hrest hnodup.2 hwaits' h
    have hkept : content? w'.disk (fileAt job.1) = content? w₁.disk (fileAt job.1) := by
      refine hothers _ fun j hj => ⟨(hapart.draft_ne (hrest j hj) ht).symm, ?_⟩
      exact hapart.files_ne ht (hrest j hj) (hother j hj).symm
    have hkept' : content? w'.disk (fileAt (draftOf job.1)) =
        content? w₁.disk (fileAt (draftOf job.1)) := by
      refine hothers _ fun j hj => ⟨?_, hapart.draft_ne ht (hrest j hj)⟩
      exact hapart.drafts_ne ht (hrest j hj) (hother j hj).symm
    refine ⟨?_, ?_, fun g hg => ?_⟩
    · rw [List.forall_mem_cons]
      exact ⟨hkept.trans htarget, fun j hj => (hcommitted j hj).trans (hdraft j hj)⟩
    · rw [List.forall_mem_cons]
      exact ⟨hkept'.trans hgone, hcleared⟩
    · obtain ⟨hgjob, hgrest⟩ := List.forall_mem_cons.mp hg
      exact (hothers g hgrest).trans (hsame g hgjob.1 hgjob.2)

/-- Both loops replace what is wanted and nothing else. -/
theorem loops_ok (hapart : Disk.Apart σ targets) {jobs : List Job} {rs : List Replacement}
    {w w' : Scene σ} {s : σ} (hjobs : ∀ j ∈ jobs, j.1 ∈ targets)
    (hnodup : (jobs.map Prod.fst).Nodup) (hstage : stageAll w.disk [] jobs = (.ok rs, s))
    (hcommit : commitAll { w with disk := s } [] rs = (.ok (), w')) :
    (∀ j ∈ wanted jobs, content? w'.disk (fileAt j.1) = some (Utf8.encode j.2.1) ∧
        content? w'.disk (fileAt (draftOf j.1)) = none) ∧
      (∀ g, (∀ j ∈ wanted jobs, g ≠ fileAt (draftOf j.1) ∧ g ≠ fileAt j.1) →
        content? w'.disk g = content? w.disk g) ∧
      (rs = [] ↔ wanted jobs = []) ∧ (wanted jobs = [] → w'.disk = w.disk) := by
  have hsub : (wanted jobs).Sublist jobs := List.filter_sublist
  obtain ⟨hrs, hidle, hcontents, hstaged⟩ := stageAll_ok hapart hjobs hnodup hstage
  rw [List.nil_append] at hrs
  subst hrs
  have hwaits : ∀ j ∈ wanted jobs, (content? s (fileAt (draftOf j.1))).isSome := by
    intro j hj
    rw [hcontents j hj]
    rfl
  obtain ⟨hcommitted, hcleared, hothers⟩ :=
    commitAll_ok hapart (fun j hj => hjobs j (hsub.subset hj)) (hnodup.sublist (hsub.map _))
      hwaits hcommit
  refine ⟨fun j hj => ⟨(hcommitted j hj).trans (hcontents j hj), hcleared j hj⟩, fun g hg => ?_,
    List.map_eq_nil_iff, fun hnone => ?_⟩
  · exact (hothers g hg).trans (hstaged g fun j hj => (hg j hj).1)
  · rw [hnone] at hcommit
    cases hcommit
    exact hidle hnone

/-! ## Files and texts -/

/-- The jobs of giving files their texts. -/
def jobsFor (files : List (String × String)) (s : σ) : List Job :=
  files.map fun f => (f.1, f.2, currentText s f.1)

omit [LawfulDisk σ] in
theorem map_target_jobsFor (files : List (String × String)) (s : σ) :
    (jobsFor files s).map Prod.fst = files.map Prod.fst := by
  rw [jobsFor, List.map_map]
  rfl

variable {files : List (String × String)} {s : σ}

/-- There is something to do for the files that do not hold their texts. -/
theorem mem_wanted_jobsFor_iff {job : Job} :
    job ∈ wanted (jobsFor files s) ↔
      ∃ f ∈ files, content? s (fileAt f.1) ≠ some (Utf8.encode f.2) ∧
        job = (f.1, f.2, currentText s f.1) := by
  rw [wanted, List.mem_filter, jobsFor, List.mem_map]
  constructor
  · rintro ⟨⟨f, hf, rfl⟩, hwanted⟩
    exact ⟨f, hf, fun hheld => by simp [currentText_eq_some_iff.mpr hheld] at hwanted, rfl⟩
  · rintro ⟨f, hf, hheld, rfl⟩
    refine ⟨⟨f, hf, rfl⟩, ?_⟩
    simpa [currentText_eq_some_iff] using hheld

theorem wanted_jobsFor_eq_nil_iff : wanted (jobsFor files s) = [] ↔ InPlace files s := by
  rw [List.eq_nil_iff_forall_not_mem]
  constructor
  · intro h f hf
    by_contra hheld
    exact h _ (mem_wanted_jobsFor_iff.mpr ⟨f, hf, hheld, rfl⟩)
  · intro h job hjob
    obtain ⟨f, hf, hheld, -⟩ := mem_wanted_jobsFor_iff.mp hjob
    exact hheld (h f hf)

/-- A file that holds its text, and its hidden sibling, are none of those that are replaced. -/
theorem apart_of_held (hapart : Disk.Apart σ (files.map Prod.fst)) {f : String × String}
    (hf : f ∈ files) (hheld : content? s (fileAt f.1) = some (Utf8.encode f.2)) :
    ∀ g ∈ [(fileAt f.1 : File σ), fileAt (draftOf f.1)], ∀ j ∈ wanted (jobsFor files s),
      g ≠ fileAt (draftOf j.1) ∧ g ≠ fileAt j.1 := by
  intro g hg j hj
  obtain ⟨f', hf', hheld', rfl⟩ := mem_wanted_jobsFor_iff.mp hj
  have ht : f.1 ∈ files.map Prod.fst := List.mem_map_of_mem hf
  have ht' : f'.1 ∈ files.map Prod.fst := List.mem_map_of_mem hf'
  have hne : f.1 ≠ f'.1 := by
    intro heq
    obtain rfl := List.inj_on_of_nodup_map hapart.nodup hf hf' heq
    exact hheld' hheld
  rcases List.mem_pair.mp hg with rfl | rfl
  · exact ⟨(hapart.draft_ne ht' ht).symm, hapart.files_ne ht ht' hne⟩
  · exact ⟨hapart.drafts_ne ht ht' hne, hapart.draft_ne ht ht'⟩

/-- Both loops give the files their texts. There was nothing to replace if the files held them. -/
theorem delivered_of_loops {rs : List Replacement} {w w' : Scene σ}
    (hapart : Disk.Apart σ (files.map Prod.fst))
    (hstage : stageAll w.disk [] (jobsFor files w.disk) = (.ok rs, s))
    (hcommit : commitAll { w with disk := s } [] rs = (.ok (), w')) :
    Delivered files w.disk w'.disk ∧ (rs = [] ↔ InPlace files w.disk) := by
  have htargets := map_target_jobsFor files w.disk
  obtain ⟨hdone, hothers, hnil, hidle⟩ := loops_ok hapart
    (fun j hj => htargets ▸ List.mem_map_of_mem hj) (htargets ▸ hapart.nodup) hstage hcommit
  rw [wanted_jobsFor_eq_nil_iff] at hnil hidle
  have hjob : ∀ f ∈ files, content? w.disk (fileAt f.1) ≠ some (Utf8.encode f.2) →
      (f.1, f.2, currentText w.disk f.1) ∈ wanted (jobsFor files w.disk) :=
    fun f hf hheld => mem_wanted_jobsFor_iff.mpr ⟨f, hf, hheld, rfl⟩
  refine ⟨⟨fun f hf => ?_, hidle, fun f hf hheld => ?_, fun f hf hheld => ?_, fun g hg => ?_⟩, hnil⟩
  · by_cases hheld : content? w.disk (fileAt f.1) = some (Utf8.encode f.2)
    · exact (hothers _ (apart_of_held hapart hf hheld _ (by simp))).trans hheld
    · exact (hdone _ (hjob f hf hheld)).1
  · exact hothers _ (apart_of_held hapart hf hheld _ (by simp))
  · exact (hdone _ (hjob f hf hheld)).2
  · refine hothers g fun j hj => ?_
    obtain ⟨f, hf, -, rfl⟩ := mem_wanted_jobsFor_iff.mp hj
    exact hg f hf

/-! ## Whole passes -/

/-- Where both files could be replaced they have got their texts. -/
theorem replaceFiles_ok {c : Compiled} {w w' : Scene σ} {changed : Bool}
    (hapart : Disk.Apart σ [c.streamPath, c.httpPath])
    (h : replaceFiles c w = (.ok changed, w')) :
    Delivered c.files w.disk w'.disk ∧ (changed = false ↔ InPlace c.files w.disk) := by
  rw [replaceFiles] at h
  split at h
  · simp at h
  · next rs s hstage =>
    split at h
    · simp at h
    · next w₁ hcommit =>
      simp only [Prod.mk.injEq, Except.ok.injEq] at h
      obtain ⟨rfl, rfl⟩ := h
      have hapart' : Disk.Apart σ (c.files.map Prod.fst) := hapart
      obtain ⟨hdelivered, hnothing⟩ := delivered_of_loops hapart' hstage hcommit
      refine ⟨hdelivered, ?_⟩
      rw [Bool.not_eq_false', List.isEmpty_iff, hnothing]

/-- Where both files hold their texts nothing is done. -/
theorem replaceFiles_of_inPlace {c : Compiled} {w : Scene σ} (h : InPlace c.files w.disk) :
    replaceFiles c w = (.ok false, w) := by
  have hstream := currentText_eq_some_iff.mpr (h (c.streamPath, c.stream) (by simp [Compiled.files]))
  have hhttp := currentText_eq_some_iff.mpr (h (c.httpPath, c.http) (by simp [Compiled.files]))
  simp only at hstream hhttp
  simp only [replaceFiles, stageAll, hstream, hhttp, if_true, commitAll, List.isEmpty_nil,
    Bool.not_true]

omit [Disk σ] [LawfulDisk σ] in
/-- What is seen in advance does not count as a change. -/
theorem changed_of_preview {s : ProxySettings} {view : Except StoreError Routing} {c : Compiled}
    (h : (preview s view).1 = .ok c) : c.changed = false := by
  unfold preview at h
  cases view with
  | error e => cases h
  | ok r =>
    rcases hbuild : build s r with ⟨e | ⟨config, stats⟩, notes⟩
    · simp [hbuild, Except.map] at h
    · simp only [hbuild, Except.map, Except.ok.injEq] at h
      rw [← h]
      rfl

omit [LawfulDisk σ] in
/-- A pass without its bookkeeping that succeeds has replaced the files by what was to be seen in
advance. -/
theorem replaceFiles_of_attempt {s : ProxySettings} {view : Except StoreError Routing}
    {w w' : Scene σ} {c : Compiled} (h : attempt s view w = (.ok c, w')) :
    (preview s view).1 = .ok { c with changed := false } ∧
      ∃ journal w₁, replaceFiles { c with changed := false } ⟨w.disk, journal⟩ =
        (.ok c.changed, w₁) ∧ w'.disk = w₁.disk := by
  unfold attempt at h
  rcases hpreview : preview s view with ⟨f | c₁, notes⟩
  · simp [hpreview] at h
  · have hunchanged := changed_of_preview (c := c₁) (by rw [hpreview])
    simp only [hpreview] at h
    split at h
    · simp at h
    · next changed w₁ hreplace =>
      simp only [Prod.mk.injEq, Except.ok.injEq] at h
      obtain ⟨rfl, rfl⟩ := h
      have hsame : c₁ = { c₁ with changed := false } := by rw [← hunchanged]
      rw [hsame] at hreplace
      exact ⟨congrArg Except.ok hsame, _, w₁, hreplace, rfl⟩

/-- A pass without its bookkeeping that finds both files in place succeeds, whatever the disk would
make of a write. -/
theorem attempt_of_inPlace {s : ProxySettings} {view : Except StoreError Routing} {w : Scene σ}
    {c : Compiled} (hpreview : (preview s view).1 = .ok c) (h : InPlace c.files w.disk) :
    (attempt s view w).1 = .ok { c with changed := false } ∧
      (attempt s view w).2.disk = w.disk := by
  rcases hboth : preview s view with ⟨result, notes⟩
  obtain rfl : result = .ok c := by rw [← hpreview, hboth]
  have hreplace := replaceFiles_of_inPlace (w := ⟨w.disk, w.journal.logAll notes⟩) h
  simp only [attempt, hboth, hreplace, and_self]

end Pass

omit [LawfulDisk σ] in
/-- A compile pass that succeeds keeps the result of the pass without its bookkeeping. -/
theorem Compiler.attempt_of_compile {c c' : Compiler} {view : Except StoreError Routing}
    {w w' : Scene σ} {result : Compiled} (h : c.compile view w = (.ok result, c', w')) :
    ∃ w₁, Pass.attempt c.settings view w = (.ok result, w₁) ∧ w'.disk = w₁.disk ∧
      c'.last = some result := by
  unfold Compiler.compile at h
  rcases hattempt : Pass.attempt c.settings view w with ⟨f | result₁, w₁⟩
  · simp [hattempt] at h
  · simp only [hattempt, Prod.mk.injEq, Except.ok.injEq] at h
    obtain ⟨rfl, rfl, rfl⟩ := h
    exact ⟨w₁, rfl, rfl, rfl⟩

/-- After a compile pass that succeeds both files that the proxy reads have got the texts that were
to be seen in advance. Its result is kept, and says whether one of the files lacked its text. -/
theorem Compiler.compile_ok {c c' : Compiler} {view : Except StoreError Routing} {w w' : Scene σ}
    {result : Compiled} (hapart : Disk.Apart σ [c.settings.streamPath, c.settings.httpPath])
    (h : c.compile view w = (.ok result, c', w')) :
    (preview c.settings view).1 = .ok { result with changed := false } ∧
      Delivered result.files w.disk w'.disk ∧
      (result.changed = false ↔ InPlace result.files w.disk) ∧ c'.last = some result := by
  obtain ⟨w₁, hattempt, hdisk, hlast⟩ := c.attempt_of_compile h
  obtain ⟨hpreview, journal, w₂, hreplace, hdisk'⟩ := Pass.replaceFiles_of_attempt hattempt
  obtain ⟨hstream, hhttp⟩ := Pass.paths_of_preview hpreview
  rw [← hstream, ← hhttp] at hapart
  obtain ⟨hdelivered, hchanged⟩ := Pass.replaceFiles_ok hapart hreplace
  rw [hdisk, hdisk']
  exact ⟨hpreview, hdelivered, hchanged, hlast⟩

/-- A compile pass that finds both files in place succeeds and does nothing to the disk. -/
theorem Compiler.compile_of_inPlace {c : Compiler} {view : Except StoreError Routing} {w : Scene σ}
    {result : Compiled} (hpreview : (preview c.settings view).1 = .ok result)
    (h : InPlace result.files w.disk) :
    (c.compile view w).1 = .ok { result with changed := false } ∧
      (c.compile view w).2.2.disk = w.disk := by
  obtain ⟨hresult, hdisk⟩ := Pass.attempt_of_inPlace hpreview h
  rcases hattempt : Pass.attempt c.settings view w with ⟨r, w₁⟩
  rw [hattempt] at hresult hdisk
  obtain rfl : r = .ok { result with changed := false } := hresult
  simp only [Compiler.compile, hattempt, true_and]
  exact hdisk

omit [LawfulDisk σ] in
theorem Compiler.settings_compile (c : Compiler) (view : Except StoreError Routing) (w : Scene σ) :
    (c.compile view w).2.1.settings = c.settings := by
  unfold Compiler.compile
  split <;> rfl

end Portcullis
