import Portcullis.Proofs.Compile.Replacement
import Portcullis.Proofs.Files.Places
import Portcullis.Proofs.Routing.Reading
import Portcullis.Proofs.Routing.VirtualHosts
import Portcullis.Settings.Check

/-!
# Two outputs in one tree

A disk may take two paths for one file, or the hidden sibling of a path for the file of another.
Settings are refused if their two output paths are the same as paths, and the files can still get in
each other's way.

* `Staged.changedAt_stage` and `Staged.changedAt_commit` say which places a content goes through.
* `Staged.staged_both`, `Staged.holds_of_both` and `Staged.apart_of_both` follow two contents that
  are staged together.
* `Compiled.Unhindered` says when the two files of a configuration do not get in each other's way:
  this depends on where their paths lead, and on which of the two lacks its text.
* `Compiler.compile_bothOutputs` is the main result: a pass that succeeds leaves both texts in place
  in exactly this case.
-/

namespace Portcullis

open Portcullis.Proxy
open Portcullis.Text
open Files (ChangedAt)
open Staged (draftOf)

variable {t u : Files} {path target content text : String}

/-! ## One file at a time -/

/-- The current text of a path is that of the file that it leads to. -/
theorem Files.currentText_eq_some_iff :
    currentText t path = some text ↔ t.Holds path (Utf8.encode text) := by
  have hread : Disk.read t path = t.read path := rfl
  rw [← Files.read_eq_ok_iff, currentText, hread]
  constructor
  · intro h
    split at h
    · next bytes hbytes => rw [hbytes, Utf8.eq_encode_of_decode? h]
    · cases h
  · intro h
    rw [h]
    exact Utf8.decode?_encode text

/-- Paths that lead to one place are not found to hold two texts. -/
theorem Files.Holds.text_eq {other : String} (h : t.Holds path (Utf8.encode text))
    (h' : t.Holds target (Utf8.encode other)) (hsame : t.aim path = t.aim target) :
    text = other := by
  have hcontent := h.contentAt?
  rw [hsame, h'.contentAt?] at hcontent
  have hdecoded := congrArg Utf8.decode? (Option.some.inj hcontent)
  rw [Utf8.decode?_encode, Utf8.decode?_encode] at hdecoded
  exact (Option.some.inj hdecoded).symm

/-- An operation of a tree that succeeds is done. -/
theorem Disk.attempt_eq_ok {act : Files → Except Fault Files}
    (h : Disk.attempt act t = (.ok (), u)) : act t = .ok u := by
  unfold Disk.attempt at h
  split at h
  · next hact =>
    cases h
    exact hact
  · cases h

namespace Staged

theorem changedAt_makeRoom (h : t.Sound) (target : String) :
    ChangedAt [] t (makeRoom target t).2 := by
  unfold makeRoom
  cases Path.parent? target with
  | none => exact .refl h
  | some parent => exact .makeAlong h _

/-- Staging a content changes the hidden sibling of its target. -/
theorem changedAt_stage {f : Staged} (h : t.Sound) (hstage : stage target content t = (.ok f, u)) :
    ChangedAt [t.aim (draftOf target)] t u ∧
      u.contentAt? (t.aim (draftOf target)) = some (Utf8.encode content) := by
  have hroom := changedAt_makeRoom h target
  rw [stage_eq] at hstage
  rcases hmake : makeRoom target t with ⟨e | _, v⟩
  · rw [hmake] at hstage
    cases hstage
  · rw [hmake] at hstage hroom
    simp only [writeDraft] at hstage
    split at hstage
    · next hwrite =>
      cases hstage
      obtain ⟨hchanged, hcontent⟩ := ChangedAt.write hroom.sound (Disk.attempt_eq_ok hwrite)
      rw [hroom.stay.aim] at hchanged hcontent
      exact ⟨hroom.trans hchanged, hcontent⟩
    · cases hstage

/-- What is committed is renamed. -/
theorem rename_of_commit {f : Staged} {w w' : Scene Files} (h : f.commit w = (.ok (), w')) :
    w.disk.rename f.draft f.target = .ok w'.disk := by
  unfold commit at h
  split at h
  · next hrename =>
    cases h
    exact Disk.attempt_eq_ok hrename
  · cases h

/-- Committing gives a target the content of its hidden sibling, which is gone then. -/
theorem changedAt_commit {w w' : Scene Files} {bytes : List UInt8} (h : w.disk.Sound)
    (hcontent : w.disk.contentAt? (w.disk.aim (draftOf target)) = some bytes)
    (hcommit : commit ⟨draftOf target, target⟩ w = (.ok (), w')) :
    ChangedAt [w.disk.aim (draftOf target), w.disk.aim target] w.disk w'.disk ∧
      w'.disk.Holds target bytes ∧
      (w.disk.aim (draftOf target) ≠ w.disk.aim target →
        w'.disk.entryAt? (w.disk.aim (draftOf target)) = none) :=
  ChangedAt.rename h hcontent (rename_of_commit hcommit)

/-- A target whose content is staged and committed at once has it afterwards, and nothing is left at
its hidden sibling. -/
theorem changedAt_replace {f : Staged} {w w' : Scene Files} (h : w.disk.Sound)
    (hstage : stage target content w.disk = (.ok f, u))
    (hcommit : commit ⟨draftOf target, target⟩ { w with disk := u } = (.ok (), w')) :
    ChangedAt [w.disk.aim (draftOf target), w.disk.aim target] w.disk w'.disk ∧
      w'.disk.Holds target (Utf8.encode content) ∧
      (w.disk.aim (draftOf target) ≠ w.disk.aim target →
        w'.disk.entryAt? (w.disk.aim (draftOf target)) = none) := by
  obtain ⟨hstaged, hcontent⟩ := changedAt_stage h hstage
  rw [← hstaged.stay.aim] at hcontent
  obtain ⟨hcommitted, hholds, hgone⟩ := changedAt_commit (w := { w with disk := u }) hstaged.sound
    hcontent hcommit
  rw [hstaged.stay.aim, hstaged.stay.aim] at hcommitted hgone
  exact ⟨(hstaged.trans hcommitted).mono (by simp), hholds, hgone⟩

/-- A text elsewhere outlasts this unless it stands at the target or at its hidden sibling. -/
theorem holds_iff_of_replace {f : Staged} {w w' : Scene Files} (h : w.disk.Sound)
    (hstage : stage target content w.disk = (.ok f, u))
    (hcommit : commit ⟨draftOf target, target⟩ { w with disk := u } = (.ok (), w'))
    (hold : w.disk.Holds path (Utf8.encode text)) (hne : text ≠ content) :
    w'.disk.Holds path (Utf8.encode text) ↔
      w.disk.aim path ≠ w.disk.aim target ∧ w.disk.aim (draftOf target) ≠ w.disk.aim path := by
  obtain ⟨hchanged, hholds, hgone⟩ := changedAt_replace h hstage hcommit
  constructor
  · intro hpath
    have htarget : w.disk.aim path ≠ w.disk.aim target := fun hsame =>
      hne (hpath.text_eq hholds (by rw [hchanged.stay.aim, hchanged.stay.aim, hsame]))
    refine ⟨htarget, fun hdraft => ?_⟩
    have hcontent := hpath.contentAt?
    rw [← hdraft] at htarget
    rw [hchanged.stay.aim, ← hdraft, Files.contentAt?_eq_some_iff, hgone htarget] at hcontent
    cases hcontent
  · rintro ⟨htarget, hdraft⟩
    exact hchanged.holds hold (by simp [htarget, hdraft.symm])

end Staged

/-! ## Both files -/

namespace Staged

section Both

variable {a b other : String} {f g : Staged} {v : Files} {w w₁ w₂ : Scene Files}

/-- Of two contents the one that is staged last waits at its hidden sibling, and the other does too
unless that is its own. -/
theorem staged_both (h : t.Sound) (hstage : stage a content t = (.ok f, u))
    (hstage' : stage b other u = (.ok g, v)) :
    v.Sound ∧ (∀ path, v.aim path = t.aim path) ∧
      v.contentAt? (t.aim (draftOf b)) = some (Utf8.encode other) ∧
      (t.aim (draftOf a) ≠ t.aim (draftOf b) →
        v.contentAt? (t.aim (draftOf a)) = some (Utf8.encode content)) := by
  obtain ⟨hu, hcontent⟩ := changedAt_stage h hstage
  obtain ⟨hv, hother⟩ := changedAt_stage hu.sound hstage'
  have haim (path : String) : v.aim path = t.aim path := by
    rw [hv.stay.aim, hu.stay.aim]
  rw [hu.stay.aim] at hv hother
  refine ⟨hv.sound, haim, hother, fun hdrafts => ?_⟩
  rw [hv.contentAt? _ (by simpa using hdrafts), hcontent]

/-- Two targets have their contents when both were staged and then both committed, if they are
different and the second is not staged over the first. -/
theorem holds_of_both (h : w.disk.Sound) (hstage : stage a content w.disk = (.ok f, u))
    (hstage' : stage b other u = (.ok g, v))
    (hcommit : commit ⟨draftOf a, a⟩ { w with disk := v } = (.ok (), w₁))
    (hcommit' : commit ⟨draftOf b, b⟩ w₁ = (.ok (), w₂)) (htargets : w.disk.aim a ≠ w.disk.aim b)
    (hdraft : w.disk.aim (draftOf b) ≠ w.disk.aim a) :
    w₂.disk.Holds a (Utf8.encode content) ∧ w₂.disk.Holds b (Utf8.encode other) := by
  obtain ⟨hv, haim, hother, hcontent⟩ := staged_both h hstage hstage'
  have hdrafts : w.disk.aim (draftOf a) ≠ w.disk.aim (draftOf b) := by
    -- One sibling for both would be gone with the first rename, and the second would fail.
    intro hsame
    rw [← hsame, ← haim] at hother
    obtain ⟨hchanged, -, hgone⟩ := changedAt_commit (w := { w with disk := v }) hv hother hcommit
    obtain ⟨-, -, -, -, -, hthere⟩ := Files.reach_of_rename (rename_of_commit hcommit')
    rw [hchanged.stay.aim, haim, ← hsame, ← haim, hgone] at hthere
    · cases hthere
    · rw [haim, haim, hsame]
      exact hdraft
  have hcontent' : v.contentAt? (v.aim (draftOf a)) = some (Utf8.encode content) := by
    rw [haim, hcontent hdrafts]
  obtain ⟨h₁, hholds, -⟩ := changedAt_commit (w := { w with disk := v }) hv hcontent' hcommit
  have hother' : w₁.disk.contentAt? (w₁.disk.aim (draftOf b)) = some (Utf8.encode other) := by
    rw [h₁.stay.aim, haim, h₁.contentAt? _ (by simp [haim, hdrafts.symm, hdraft]), hother]
  obtain ⟨h₂, hholds', -⟩ := changedAt_commit h₁.sound hother' hcommit'
  refine ⟨h₂.holds hholds ?_, hholds'⟩
  simp [h₁.stay.aim, haim, hdraft.symm, htargets]

/-- If they have their contents then, they are different and the second was not staged over the
first. -/
theorem apart_of_both (h : w.disk.Sound) (hstage : stage a content w.disk = (.ok f, u))
    (hstage' : stage b other u = (.ok g, v))
    (hcommit : commit ⟨draftOf a, a⟩ { w with disk := v } = (.ok (), w₁))
    (hcommit' : commit ⟨draftOf b, b⟩ w₁ = (.ok (), w₂)) (hne : content ≠ other)
    (hholds : w₂.disk.Holds a (Utf8.encode content))
    (hholds' : w₂.disk.Holds b (Utf8.encode other)) :
    w.disk.aim a ≠ w.disk.aim b ∧ w.disk.aim (draftOf b) ≠ w.disk.aim a := by
  obtain ⟨hv, haim, hother, hcontent⟩ := staged_both h hstage hstage'
  have haim₁ (path : String) : w₁.disk.aim path = w.disk.aim path := by
    rw [Files.aim_of_rename (rename_of_commit hcommit), haim]
  have haim₂ (path : String) : w₂.disk.aim path = w.disk.aim path := by
    rw [Files.aim_of_rename (rename_of_commit hcommit'), haim₁]
  have htargets : w.disk.aim a ≠ w.disk.aim b := fun hsame =>
    hne (hholds.text_eq hholds' (by rw [haim₂, haim₂, hsame]))
  refine ⟨htargets, fun hdraft => ?_⟩
  obtain ⟨bytes, hwaits⟩ : ∃ bytes, v.contentAt? (v.aim (draftOf a)) = some bytes := by
    rw [haim]
    by_cases hsame : w.disk.aim (draftOf a) = w.disk.aim (draftOf b)
    · rw [hsame]
      exact ⟨_, hother⟩
    · exact ⟨_, hcontent hsame⟩
  -- What the second rename takes away is what the first has put in place.
  obtain ⟨h₁, hfirst, -⟩ := changedAt_commit (w := { w with disk := v }) hv hwaits hcommit
  have hfirst' := hfirst.contentAt?
  rw [haim₁, ← hdraft, ← haim₁] at hfirst'
  obtain ⟨-, -, hgone⟩ := changedAt_commit h₁.sound hfirst' hcommit'
  rw [haim₁, haim₁, hdraft] at hgone
  have hlast := hholds.contentAt?
  rw [haim₂, Files.contentAt?_eq_some_iff, hgone htargets] at hlast
  cases hlast

end Both

end Staged

/-- The two files of a configuration do not get in each other's way when they are replaced. -/
structure Compiled.Unhindered (c : Compiled) (t : Files) : Prop where
  /-- They are two files. -/
  targets : t.aim c.streamPath ≠ t.aim c.httpPath
  /-- Where the stream text would be staged in the other file, it is in place, or the other file is
  to be replaced after it. -/
  streamDraft : t.aim (draftOf c.streamPath) = t.aim c.httpPath →
    currentText t c.streamPath = some c.stream ∨ currentText t c.httpPath ≠ some c.http
  /-- Where the http text would be staged in the stream file, it is in place. -/
  httpDraft : t.aim (draftOf c.httpPath) = t.aim c.streamPath →
    currentText t c.httpPath = some c.http

/-- Where both files could be replaced, they have got their texts exactly if they did not get in
each other's way. -/
theorem Pass.holds_iff_of_replaceFiles {c : Compiled} {w w' : Scene Files} {changed : Bool}
    (h : w.disk.Sound) (hne : c.stream ≠ c.http)
    (hreplace : replaceFiles c w = (.ok changed, w')) :
    w'.disk.Holds c.streamPath (Utf8.encode c.stream) ∧
      w'.disk.Holds c.httpPath (Utf8.encode c.http) ↔ c.Unhindered w.disk := by
  rw [replaceFiles] at hreplace
  split at hreplace
  · cases hreplace
  next rs s hstage =>
  split at hreplace
  · cases hreplace
  next w₁ hcommit =>
  obtain rfl : w₁ = w' := congrArg Prod.snd hreplace
  obtain ⟨hs, hstage⟩ | ⟨hs, s₁, hone, hstage⟩ := stageAll_cons_ok hstage <;>
    obtain ⟨hh, hstage⟩ | ⟨hh, s₂, htwo, hstage⟩ := stageAll_cons_ok hstage <;> cases hstage
  · -- Nothing is to be done.
    cases hcommit
    have hstream := Files.currentText_eq_some_iff.1 hs
    have hhttp := Files.currentText_eq_some_iff.1 hh
    have htargets : w.disk.aim c.streamPath ≠ w.disk.aim c.httpPath := fun hsame =>
      hne (hstream.text_eq hhttp hsame)
    exact iff_of_true ⟨hstream, hhttp⟩ ⟨htargets, fun _ => .inl hs, fun _ => hh⟩
  · -- The http text replaces what its file held.
    obtain ⟨w₂, hcommitted, hcommit⟩ := commitAll_cons_ok hcommit
    cases hcommit
    obtain ⟨-, hhttp, -⟩ := Staged.changedAt_replace h htwo hcommitted
    rw [and_iff_left hhttp, Staged.holds_iff_of_replace h htwo hcommitted
      (Files.currentText_eq_some_iff.1 hs) hne]
    constructor
    · rintro ⟨htargets, hdraft⟩
      exact ⟨htargets, fun _ => .inl hs, fun hsame => absurd hsame hdraft⟩
    · intro hclear
      exact ⟨hclear.targets, fun hsame => hh (hclear.httpDraft hsame)⟩
  · -- The stream text does.
    obtain ⟨w₂, hcommitted, hcommit⟩ := commitAll_cons_ok hcommit
    cases hcommit
    obtain ⟨-, hstream, -⟩ := Staged.changedAt_replace h hone hcommitted
    rw [and_iff_right hstream, Staged.holds_iff_of_replace h hone hcommitted
      (Files.currentText_eq_some_iff.1 hh) hne.symm]
    constructor
    · rintro ⟨htargets, hdraft⟩
      exact ⟨htargets.symm, fun hsame => absurd hsame hdraft, fun _ => hh⟩
    · intro hclear
      refine ⟨hclear.targets.symm, fun hsame => ?_⟩
      rcases hclear.streamDraft hsame with hin | hout
      · exact hs hin
      · exact hout hh
  · -- Both are staged before the first is committed.
    obtain ⟨w₂, hcommitted, hcommit⟩ := commitAll_cons_ok hcommit
    obtain ⟨w₃, hcommitted', hcommit⟩ := commitAll_cons_ok hcommit
    cases hcommit
    constructor
    · rintro ⟨hstream, hhttp⟩
      obtain ⟨htargets, hdraft⟩ :=
        Staged.apart_of_both h hone htwo hcommitted hcommitted' hne hstream hhttp
      exact ⟨htargets, fun _ => .inr hh, fun hsame => absurd hsame hdraft⟩
    · intro hclear
      exact Staged.holds_of_both h hone htwo hcommitted hcommitted' hclear.targets fun hsame =>
        hh (hclear.httpDraft hsame)

/-! ## Whole passes -/

/-- The two texts of a configuration differ in the name of their block. -/
theorem texts_ne_of_preview {s : ProxySettings} {view : Except StoreError Routing} {c : Compiled}
    (h : (preview s view).1 = .ok c) : c.stream ≠ c.http := by
  cases view with
  | error e => cases h
  | ok r =>
    obtain ⟨config, stats, hbuild, rfl⟩ := preview_eq_ok_iff.1 h
    have hstream : config.stream.kind = .stream := (emitStream_vars (build_ok hbuild).1).1
    have hhttp : config.http.kind = .http := by
      rw [emitEach_servers_ok HttpGroup.emit_ok (build_ok hbuild).2]
      rfl
    intro heq
    have hchars : config.stream.render.toList = config.http.render.toList := congrArg _ heq
    rw [Block.toList_render, Block.toList_render, hstream, hhttp] at hchars
    simp [BlockKind.name] at hchars

/-- Settings without complaints have two paths that are not the same. -/
theorem Settings.not_same_of_complaints {s : Settings} {files : Files}
    (h : s.complaints files = []) : Path.same s.proxy.streamPath s.proxy.httpPath = false := by
  simp only [Settings.complaints, ProxySettings.complaints, demand, List.append_eq_nil_iff] at h
  obtain ⟨⟨⟨⟨-, ⟨-, hpaths⟩, -⟩, -⟩, -⟩, -⟩ := h
  simpa using hpaths

/-- After a compile pass of accepted settings that succeeds in a sound tree, both files hold the
rendered texts exactly if they did not get in each other's way. Paths that start at the root and
never lead up lead to different files if they are accepted. -/
theorem Compiler.compile_bothOutputs {settings : Settings} {files : Files} {last : Option Compiled}
    {view : Except StoreError Routing} {w w' : Scene Files} {c' : Compiler} {result : Compiled}
    (haccepted : settings.complaints files = []) (hsound : w.disk.Sound)
    (h : Compiler.compile ⟨settings.proxy, last⟩ view w = (.ok result, c', w')) :
    (preview settings.proxy view).1 = .ok { result with changed := false } ∧
      (currentText w'.disk settings.proxy.streamPath = some result.stream ∧
          currentText w'.disk settings.proxy.httpPath = some result.http ↔
        result.Unhindered w.disk) ∧
      (Path.IsPlain settings.proxy.streamPath → Path.IsPlain settings.proxy.httpPath →
        w.disk.aim settings.proxy.streamPath ≠ w.disk.aim settings.proxy.httpPath) := by
  obtain ⟨w₁, hattempt, hdisk, -⟩ := Compiler.attempt_of_compile h
  obtain ⟨hpreview, journal, w₂, hreplace, hdisk'⟩ := Pass.replaceFiles_of_attempt hattempt
  obtain ⟨hstream, hhttp⟩ := Pass.paths_of_preview hpreview
  refine ⟨hpreview, ?_, fun hplain hplain' hsame => ?_⟩
  · have hboth := Pass.holds_iff_of_replaceFiles (w := ⟨w.disk, journal⟩) hsound
      (texts_ne_of_preview hpreview) hreplace
    rw [Files.currentText_eq_some_iff, Files.currentText_eq_some_iff, hdisk, hdisk', ← hstream,
      ← hhttp]
    exact hboth.trans ⟨fun hclear => ⟨hclear.1, hclear.2, hclear.3⟩,
      fun hclear => ⟨hclear.1, hclear.2, hclear.3⟩⟩
  · have hfalse := Settings.not_same_of_complaints haccepted
    rw [Files.same_of_aim_eq hplain hplain' hsame] at hfalse
    cases hfalse

/-- With the settings as they are by default both files get their texts in an empty tree. -/
theorem Compiler.compile_bothOutputs_byDefault :
    ∃ result c' w', Compiler.compile ⟨({} : Settings).proxy, none⟩ (.ok {}) ⟨Files.empty, .empty⟩ =
        (.ok result, c', w') ∧
      currentText w'.disk ({} : Settings).proxy.streamPath = some result.stream ∧
      currentText w'.disk ({} : Settings).proxy.httpPath = some result.http := by
  have hok : (Compiler.compile ⟨({} : Settings).proxy, none⟩ (.ok {})
      ⟨Files.empty, .empty⟩).1.isOk = true := by
    decide +kernel
  rcases hrun : Compiler.compile ⟨({} : Settings).proxy, none⟩ (.ok {}) ⟨Files.empty, .empty⟩ with
    ⟨e | result, c', w'⟩
  · rw [hrun] at hok
    cases hok
  have haccepted : ({} : Settings).complaints Files.empty = [] := by
    decide +kernel
  obtain ⟨hpreview, hboth, hplain⟩ := Compiler.compile_bothOutputs haccepted Files.sound_empty hrun
  obtain ⟨hstream, hhttp⟩ := Pass.paths_of_preview hpreview
  simp only at hstream hhttp
  have hclear : result.Unhindered Files.empty := by
    refine ⟨?_, fun hsame => absurd hsame ?_, fun hsame => absurd hsame ?_⟩ <;>
      rw [hstream, hhttp]
    · exact hplain (by decide) (by decide)
    · decide +kernel
    · decide +kernel
  exact ⟨result, c', w', rfl, hboth.2 hclear⟩

/-- Settings whose http output is the hidden sibling of the stream output. -/
def siblingOutputs : Settings :=
  { proxy := { httpConfig := "conf/.stream.conf.tmp" } }

/-- A tree in which the http output has its text already, and there is no stream output. -/
def httpInPlace : Files :=
  ((Files.empty.perform (.makeDirs "/opt/app/nginx/conf")).2.perform
    (.write "/opt/app/nginx/conf/.stream.conf.tmp"
      (Utf8.encode "# Generated by gatehouse. Manual edits are overwritten.\nhttp \x7b\n\x7d\n"))).2

/-- Such settings are accepted. A pass that has only the stream text to write stages it in the http
output, which is gone afterwards, and succeeds. -/
theorem Compiler.compile_siblingOutputs :
    siblingOutputs.complaints httpInPlace = [] ∧ httpInPlace.Sound ∧
    ∃ result c' w', Compiler.compile ⟨siblingOutputs.proxy, none⟩ (.ok {}) ⟨httpInPlace, .empty⟩ =
        (.ok result, c', w') ∧
      currentText httpInPlace siblingOutputs.proxy.httpPath = some result.http ∧
      currentText w'.disk siblingOutputs.proxy.streamPath = some result.stream ∧
      currentText w'.disk siblingOutputs.proxy.httpPath = none := by
  have hsound : httpInPlace.Sound :=
    (Files.sound_empty.perform (.makeDirs "/opt/app/nginx/conf") (Files.entryAt?_root _)).perform _
      (Files.entryAt?_root _)
  refine ⟨by decide +kernel, hsound, ?_⟩
  have hends : (Compiler.compile ⟨siblingOutputs.proxy, none⟩ (.ok {})
        ⟨httpInPlace, .empty⟩).1.toOption.map Compiled.http =
          currentText httpInPlace siblingOutputs.proxy.httpPath ∧
      (Compiler.compile ⟨siblingOutputs.proxy, none⟩ (.ok {})
        ⟨httpInPlace, .empty⟩).1.toOption.map Compiled.stream =
          currentText (Compiler.compile ⟨siblingOutputs.proxy, none⟩ (.ok {})
            ⟨httpInPlace, .empty⟩).2.2.disk siblingOutputs.proxy.streamPath ∧
      currentText (Compiler.compile ⟨siblingOutputs.proxy, none⟩ (.ok {})
        ⟨httpInPlace, .empty⟩).2.2.disk siblingOutputs.proxy.httpPath = none ∧
      (currentText httpInPlace siblingOutputs.proxy.httpPath).isSome = true := by
    decide +kernel
  rcases hrun : Compiler.compile ⟨siblingOutputs.proxy, none⟩ (.ok {}) ⟨httpInPlace, .empty⟩ with
    ⟨e | result, c', w'⟩
  · rw [hrun] at hends
    rw [← hends.1] at hends
    cases hends.2.2.2
  · rw [hrun] at hends
    obtain ⟨hheld, hstream, hlost, -⟩ := hends
    exact ⟨result, c', w', rfl, hheld.symm, hstream.symm, hlost⟩

end Portcullis
