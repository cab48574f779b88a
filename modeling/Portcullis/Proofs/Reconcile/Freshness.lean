import Portcullis.Proofs.Compile.Replacement
import Portcullis.Proofs.Files.Trial
import Portcullis.Proofs.Reconcile.Loaded
import Portcullis.Proofs.Reconcile.Plant
import Portcullis.Supervision.Conduct

/-!
# A proxy that is behind is known to be

As long as nobody else writes the compiled files, a reconciler between two passes that is not stale
has a proxy that has loaded what is in them.

* `Stage.Standing` says what holds at each stage of a pass, and `Plant.Kept` is the invariant.
* `Plant.Kept.step` is its step lemma, with one lemma for each move.
* `Plant.fresh_unless_stale` is the main result.
-/

namespace Portcullis

open Portcullis.Text
open LawfulDisk
open Station (UpToDate Quiet Bringing Brought PidFileApart)

variable {σ : Type}

/-- Whether a pass has tried to start or reload the proxy. -/
def Outcome.isAttempt : Outcome → Bool
  | applied .. | reloadFailed _ => true
  | unchanged | compileFailed _ => false

/-- Only a proxy that is down is started. -/
theorem Reconciler.isRunning_of_remedy {r : Reconciler} {isRunning changed : Bool}
    (h : r.remedy isRunning changed = .start) : isRunning = false := by
  cases isRunning with
  | false => rfl
  | true =>
    simp only [remedy, Bool.not_true, Bool.false_eq_true, if_false] at h
    split at h <;> cases h

/-- The proxy is left alone only if nothing changed and it is not behind. -/
theorem Reconciler.stale_of_remedy {r : Reconciler} {isRunning changed : Bool}
    (h : r.remedy isRunning changed = .nothing) : changed = false ∧ r.stale = false := by
  unfold remedy at h
  split at h
  · cases h
  · split at h
    · next hnothing => simpa using hnothing
    · cases h

section Compile

variable [Browsable σ] {c c' : Control σ} {view : Except StoreError Routing}

/-- A compile pass touches neither the reconciler nor the processes. -/
theorem Control.of_compile {result : Except CompileError Compiled}
    (h : c.compile view = (result, c')) :
    c'.compiler.settings = c.compiler.settings ∧ c'.reconciler = c.reconciler ∧
      c'.station.owned? = c.station.owned? := by
  cases h
  exact ⟨c.compiler.settings_compile view _, rfl, Station.owned?_congr rfl rfl⟩

/-- After a compile pass that succeeds the files hold what was compiled, and where nothing has
changed they are as they were. -/
theorem Control.compile_ok [LawfulDisk σ] {compiled : Compiled}
    (hapart : Disk.Apart σ c.compiler.settings.outputs)
    (h : c.compile view = (.ok compiled, c')) :
    Holds c.compiler.settings compiled c'.station.files ∧
      (compiled.changed = false → c'.station.files = c.station.files) := by
  rcases hcompile : c.compiler.compile view (⟨c.station.files, c.station.journal⟩ : Scene σ) with
    ⟨result, compiler, scene⟩
  simp only [Control.compile, hcompile, Prod.mk.injEq] at h
  obtain ⟨rfl, rfl⟩ := h
  obtain ⟨hpreview, hdelivered, hchanged, -⟩ := Compiler.compile_ok hapart hcompile
  obtain ⟨hstream, hhttp⟩ := Pass.paths_of_preview hpreview
  refine ⟨⟨?_, ?_⟩, fun hsame => hdelivered.idle (hchanged.mp hsame)⟩
  · rw [← hstream]
    exact hdelivered.inPlace (compiled.streamPath, compiled.stream) (by simp [Compiled.files])
  · rw [← hhttp]
    exact hdelivered.inPlace (compiled.httpPath, compiled.http) (by simp [Compiled.files])

end Compile

namespace Stage

/-- What the pass in progress has compiled. -/
def compiled? : Stage → Option Compiled
  | .between => none
  | .compiled c | .due c _ | .under c _ | .told c _ _ => some c

theorem compiled?_after (stage : Stage) (a : Activity) :
    (stage.after a).compiled? = stage.compiled? := by
  unfold Stage.after
  split <;> rfl

theorem eq_between_of_after {stage : Stage} {a : Activity} (h : stage.after a = .between) :
    stage = .between := by
  unfold Stage.after at h
  split at h
  · cases h
  · exact h

/-- A pass waits for the supervisor or it does not. -/
theorem under_or (stage : Stage) :
    (∃ c starts, stage = .under c starts) ∨ ∀ c starts, stage ≠ .under c starts := by
  cases stage with
  | under c starts => exact Or.inl ⟨c, starts, rfl⟩
  | _ => exact Or.inr fun _ _ => nofun

/-- Only the supervisor's own part of a pass ends when the supervisor is done. -/
theorem after_of_ne {stage : Stage} (h : ∀ c starts, stage ≠ .under c starts) (a : Activity) :
    stage.after a = stage := by
  unfold Stage.after
  split
  · next c starts _ _ => exact absurd rfl (h c starts)
  · rfl

variable [Browsable σ] [LawfulDisk σ]

/-- What holds at a stage. Once the files have changed, what the proxy has loaded counts again only
when the supervisor has brought it up to date. -/
def Standing (ps : ProxySettings) (stale : Bool) (st : Station σ) (a : Activity) : Stage → Prop
  | .between => a.IsOthers ∧ (stale = false → st.UpToDate ps)
  | .compiled c => a.IsOthers ∧ (stale = false → c.changed = false → st.UpToDate ps)
  | .due _ starts => a.IsOthers ∧ (starts = true → st.supervisor.isRunning = false)
  | .under _ starts => ∃ op waits, a = .busy op waits ∧ st.Bringing ps starts waits
  | .told _ _ result => a.IsOthers ∧ (result = .ok () → st.UpToDate ps)

namespace Standing

variable {ps : ProxySettings} {stale : Bool} {st st' : Station σ} {a a' : Activity} {stage : Stage}

theorem isOthers (h : stage.Standing ps stale st a) (hne : ∀ c starts, stage ≠ .under c starts) :
    a.IsOthers := by
  cases stage with
  | under c starts => exact absurd rfl (hne c starts)
  | _ => exact h.1

/-- What others do leaves a stage as it is. -/
theorem quiet (h : stage.Standing ps stale st a) (hne : ∀ c starts, stage ≠ .under c starts)
    (hst : Quiet ps st st') (hothers : a'.IsOthers) :
    (stage.after a').Standing ps stale st' a' := by
  rw [after_of_ne hne]
  cases stage with
  | between => exact ⟨hothers, fun hstale => hst.upToDate (h.2 hstale)⟩
  | compiled c => exact ⟨hothers, fun hstale hchanged => hst.upToDate (h.2 hstale hchanged)⟩
  | due c starts => exact ⟨hothers, fun hstarts => hst.down (h.2 hstarts)⟩
  | under c starts => exact absurd rfl (hne c starts)
  | told c starts result => exact ⟨hothers, fun hok => hst.upToDate (h.2 hok)⟩

/-- The supervisor's part of a pass is in progress or has ended. -/
theorem of_brought {c : Compiled} {starts : Bool} {progress : Progress σ}
    (h : Brought ps starts progress) (op : Operation) :
    ((Stage.under c starts).after (progress.machine op).activity).Standing ps stale
      (progress.machine op).station (progress.machine op).activity := by
  match progress, h with
  | .ended (_, _), h => exact ⟨trivial, h⟩
  | .waiting a _, h => exact ⟨op, a, rfl, h⟩

end Standing

end Stage

/-- A move that is none of a pass's own. -/
def Move.IsOutside : Move σ → Prop
  | .stop .. | .news .. | .incident _ => True
  | _ => False

namespace Plant

/-- The last attempt to start or reload the proxy, if there was one. -/
def lastAttempt (p : Plant σ) : Option Outcome :=
  (p.ended.map Prod.snd).find? Outcome.isAttempt

theorem lastAttempt_finish (p : Plant σ) (compiled : Option Compiled) (o : Outcome) :
    (p.finish compiled o).lastAttempt = if o.isAttempt then some o else p.lastAttempt := by
  unfold lastAttempt finish
  rw [List.map_cons, List.find?_cons]
  cases o.isAttempt <;> rfl

variable [Browsable σ] [LawfulDisk σ]

/-- What is kept at every stage. -/
structure Kept (ps : ProxySettings) (p : Plant σ) : Prop where
  settings : p.control.compiler.settings = ps
  holds : ∀ c, p.stage.compiled? = some c → Holds ps c p.control.station.files
  standing : p.stage.Standing ps p.control.reconciler.stale p.control.station p.activity
  /-- After a pass that ended well the files hold what it compiled. -/
  latest : p.stage = .between → ∀ c o rest, p.ended = (some c, o) :: rest → o.isSuccess = true →
    Holds ps c p.control.station.files ∧ p.control.reconciler.stale = false
  owed : ∀ e, p.lastAttempt = some (.reloadFailed e) → p.control.reconciler.stale = true

/-- What can happen while the compiled files are written by passes only: a pass that fails leaves
them as they were, and no one else changes them. A stop may fail to tell a proxy that is live. -/
def Undisturbed (ps : ProxySettings) (p : Plant σ) : Move σ → Prop
  | .pass view => ∀ e control, p.control.compile view = (.error e, control) →
      Agree ps control.station.files p.control.station.files
  | .stop graceful program => p.control.station.supervisor.isRunning = false →
      program.refuses (if graceful then .quit else .terminate) = none
  | .incident (.files files) => Agree ps files p.control.station.files
  | _ => True

variable {ps : ProxySettings} {s : SupervisorSettings} {p p' : Plant σ}

/-- What others do changes nothing that matters, while the supervisor is not at a pass. -/
theorem quiet_of_step {move : Move σ} (hothers : p.activity.IsOthers)
    (he : p.step s move = some p') (hmove : move.IsOutside) (hallowed : Undisturbed ps p move) :
    ∃ m, p' = p.follow m ∧ Quiet ps p.control.station m.station ∧ m.activity.IsOthers := by
  cases move with
  | stop graceful program =>
    obtain ⟨m, hm, rfl⟩ := Option.map_eq_some_iff.mp he
    rcases Machine.step_cases hm with ⟨_, _, _, hcall, _, rfl⟩ | ⟨_, _, _, _, hnews, _⟩ |
      ⟨_, hi, _⟩
    · cases hcall
      obtain ⟨hquiet, hothers'⟩ := p.control.station.quiet_beginStop hallowed
      exact ⟨_, rfl, hquiet, hothers'⟩
    · cases hnews
    · cases hi
  | news n program =>
    obtain ⟨m, hm, rfl⟩ := Option.map_eq_some_iff.mp he
    rcases Machine.step_cases hm with ⟨_, _, _, hcall, _⟩ | ⟨_, _, op, a, hnews, hbusy, rfl⟩ |
      ⟨_, hi, _⟩
    · cases hcall
    · cases hnews
      have hbusy' : p.activity = .busy op a := hbusy
      obtain ⟨hquiet, hothers'⟩ := p.control.station.quiet_resume s program n (hbusy' ▸ hothers)
      exact ⟨_, rfl, hquiet, hothers'⟩
    · cases hi
  | incident i =>
    obtain rfl : p.follow ⟨p.control.station.undergo i, p.activity⟩ = p' := Option.some.inj he
    refine ⟨_, rfl, .undergo ?_, hothers⟩
    rintro files rfl
    exact hallowed
  | _ => exact absurd hmove id

namespace Kept

theorem fresh (files : σ) (journal : Telemetry.Journal) :
    (Plant.fresh ps files journal).Kept ps where
  settings := rfl
  holds := nofun
  standing := ⟨trivial, fun _ => .of_slot_none rfl⟩
  latest := nofun
  owed := nofun

theorem standing_of {stage : Stage} (h : p.Kept ps) (hstage : p.stage = stage) :
    stage.Standing ps p.control.reconciler.stale p.control.station p.activity :=
  hstage ▸ h.standing

theorem holds_of {stage : Stage} {c : Compiled} (h : p.Kept ps) (hstage : p.stage = stage)
    (hc : stage.compiled? = some c) : Holds ps c p.control.station.files :=
  h.holds c (hstage ▸ hc)

/-- What the supervisor does touches nothing but the stage. -/
theorem follow {m : Machine σ} (h : p.Kept ps)
    (hfiles : Agree ps m.station.files p.control.station.files)
    (hstanding : (p.stage.after m.activity).Standing ps p.control.reconciler.stale m.station
      m.activity) : (p.follow m).Kept ps where
  settings := h.settings
  holds c hc := (h.holds c ((p.stage.compiled?_after m.activity).symm.trans hc)).of_agree hfiles
  standing := hstanding
  latest hstage c o rest hended hsuccess := by
    obtain ⟨hholds, hstale⟩ := h.latest (Stage.eq_between_of_after hstage) c o rest hended hsuccess
    exact ⟨hholds.of_agree hfiles, hstale⟩
  owed := h.owed

/-! ## What others do -/

/-- While the supervisor is not at a pass, what others do leaves the stage as it is. -/
theorem outside {move : Move σ} (h : p.Kept ps) (hne : ∀ c starts, p.stage ≠ .under c starts)
    (he : p.step s move = some p') (hmove : move.IsOutside) (hallowed : Undisturbed ps p move) :
    p'.Kept ps := by
  obtain ⟨m, rfl, hquiet, hothers⟩ := quiet_of_step (h.standing.isOthers hne) he hmove hallowed
  exact h.follow hquiet.files (h.standing.quiet hne hquiet hothers)

theorem stop {graceful : Bool} {program : Program} (h : p.Kept ps)
    (hallowed : Undisturbed ps p (.stop graceful program))
    (he : p.step s (.stop graceful program) = some p') : p'.Kept ps := by
  refine h.outside (fun c starts hstage => ?_) he trivial hallowed
  -- The supervisor would be busy with the pass.
  obtain ⟨_, _, hbusy, -⟩ := h.standing_of hstage
  obtain ⟨m, hm, -⟩ := Option.map_eq_some_iff.mp he
  rcases Machine.step_cases hm with ⟨_, _, _, _, hidle, _⟩ | ⟨_, _, _, _, hnews, _⟩ | ⟨_, hi, _⟩
  · cases hidle.symm.trans hbusy
  · cases hnews
  · cases hi

theorem incident {i : Incident σ} (h : p.Kept ps) (hallowed : Undisturbed ps p (.incident i))
    (he : p.step s (.incident i) = some p') : p'.Kept ps := by
  rcases p.stage.under_or with ⟨c, starts, hstage⟩ | hne
  · obtain rfl : p.follow ⟨p.control.station.undergo i, p.activity⟩ = p' := Option.some.inj he
    have hfiles : ∀ files, i = .files files → Agree ps files p.control.station.files := by
      rintro files rfl
      exact hallowed
    obtain ⟨op, waits, hbusy, hbringing⟩ := h.standing_of hstage
    refine h.follow (Quiet.undergo hfiles).files ?_
    rw [hstage]
    have hbrought : Brought ps starts (.waiting waits (p.control.station.undergo i)) :=
      hbringing.undergo hfiles
    show ((Stage.under c starts).after p.activity).Standing ps _ _ p.activity
    rw [hbusy]
    exact .of_brought hbrought op
  · exact h.outside hne he trivial hallowed

theorem news {n : News} {program : Program} (h : p.Kept ps)
    (he : p.step s (.news n program) = some p') : p'.Kept ps := by
  rcases p.stage.under_or with ⟨c, starts, hstage⟩ | hne
  · obtain ⟨op, a, hbusy, hbringing⟩ := h.standing_of hstage
    obtain ⟨m, hm, rfl⟩ := Option.map_eq_some_iff.mp he
    rcases Machine.step_cases hm with ⟨_, _, _, hcall, _⟩ | ⟨_, _, op', a', hnews, hbusy', rfl⟩ |
      ⟨_, hi, _⟩
    · cases hcall
    · cases hnews
      cases hbusy.symm.trans hbusy'
      obtain ⟨hbrought, hfiles⟩ := hbringing.resume s program op n
      refine h.follow (hfiles ▸ Agree.refl _) ?_
      rw [hstage]
      exact .of_brought hbrought op
    · cases hi
  · exact h.outside hne he trivial trivial

/-! ## What a pass does -/

/-- The end of a pass. -/
theorem finish {compiled : Option Compiled} {o : Outcome}
    (hsettings : p.control.compiler.settings = ps) (hothers : p.activity.IsOthers)
    (hupToDate : p.control.reconciler.stale = false → p.control.station.UpToDate ps)
    (hlatest : ∀ c, compiled = some c → o.isSuccess = true →
      Holds ps c p.control.station.files ∧ p.control.reconciler.stale = false)
    (howed : ∀ e, (if o.isAttempt then some o else p.lastAttempt) = some (.reloadFailed e) →
      p.control.reconciler.stale = true) : (p.finish compiled o).Kept ps where
  settings := hsettings
  holds := nofun
  standing := ⟨hothers, hupToDate⟩
  latest _ c o' rest hended hsuccess := by
    cases hended
    exact hlatest c rfl hsuccess
  owed e he := howed e (p.lastAttempt_finish compiled o ▸ he)

theorem pass {view : Except StoreError Routing} (hapart : Disk.Apart σ ps.outputs)
    (h : p.Kept ps) (hallowed : Undisturbed ps p (.pass view))
    (he : p.step s (.pass view) = some p') : p'.Kept ps := by
  simp only [step] at he
  split at he
  · next hstage =>
    obtain ⟨hothers, hupToDate⟩ := h.standing_of hstage
    rcases hcompile : p.control.compile view with ⟨e | c, control⟩
    · obtain ⟨hsettings, hreconciler, howned⟩ := Control.of_compile hcompile
      have hfiles : Agree ps control.station.files p.control.station.files :=
        hallowed e control hcompile
      rw [hcompile] at he
      obtain rfl := Option.some.inj he
      refine finish (hsettings.trans h.settings) hothers (fun hstale q hq => ?_)
        (fun c hc => by cases hc) (hreconciler ▸ h.owed)
      exact (hupToDate (hreconciler ▸ hstale) q (howned ▸ hq)).trans hfiles.symm
    · obtain ⟨hsettings, hreconciler, howned⟩ := Control.of_compile hcompile
      obtain ⟨hholds, hsame⟩ := Control.compile_ok (h.settings ▸ hapart) hcompile
      rw [hcompile] at he
      obtain rfl := Option.some.inj he
      refine ⟨hsettings.trans h.settings, ?_, ⟨hothers, fun hstale hchanged q hq => ?_⟩,
        fun hbetween => (by cases hbetween), hreconciler ▸ h.owed⟩
      · rintro _ ⟨⟩
        exact h.settings ▸ hholds
      · -- Nothing was written, and what the proxy has loaded was up to date before.
        show Agree ps q.loaded control.station.files
        rw [hsame hchanged]
        exact hupToDate (hreconciler ▸ hstale) q (howned ▸ hq)
  · cases he

theorem decide (h : p.Kept ps) (he : p.step s .decide = some p') : p'.Kept ps := by
  simp only [step] at he
  split at he
  · next c hstage =>
    have hholds := h.holds_of hstage rfl
    obtain ⟨hothers, hupToDate⟩ := h.standing_of hstage
    have hdue : ∀ starts, (starts = true → p.control.station.supervisor.isRunning = false) →
        ({ p with stage := .due c starts } : Plant σ).Kept ps := by
      intro starts hdown
      refine ⟨h.settings, ?_, ⟨hothers, hdown⟩, fun hbetween => (by cases hbetween), h.owed⟩
      rintro _ ⟨⟩
      exact hholds
    split at he
    · next hremedy =>
      obtain rfl := Option.some.inj he
      exact hdue true fun _ => Reconciler.isRunning_of_remedy hremedy
    · obtain rfl := Option.some.inj he
      exact hdue false fun hstarts => by cases hstarts
    · next hremedy =>
      obtain rfl := Option.some.inj he
      obtain ⟨hchanged, hstale⟩ := Reconciler.stale_of_remedy hremedy
      refine finish h.settings hothers (fun _ => hupToDate hstale hchanged) ?_ h.owed
      rintro _ ⟨⟩ _
      exact ⟨hholds, hstale⟩
  · cases he

theorem act {program : Program} (hpid : PidFileApart (σ := σ) s ps) (h : p.Kept ps)
    (he : p.step s (.act program) = some p') : p'.Kept ps := by
  simp only [step] at he
  split at he
  · next c starts hstage =>
    have hholds := h.holds_of hstage rfl
    obtain ⟨-, hdown⟩ := h.standing_of hstage
    have hunder : ∀ m : Machine σ, Agree ps m.station.files p.control.station.files →
        ((Stage.under c starts).after m.activity).Standing ps p.control.reconciler.stale m.station
          m.activity → (({ p with stage := .under c starts } : Plant σ).follow m).Kept ps := by
      intro m hfiles hstanding
      refine ⟨h.settings, fun c' hc' => ?_, hstanding, fun hbetween => ?_, h.owed⟩
      · obtain rfl := Option.some.inj ((Stage.compiled?_after _ m.activity).symm.trans hc')
        exact hholds.of_agree hfiles
      · cases Stage.eq_between_of_after hbetween
    obtain ⟨m, hm, rfl⟩ := Option.map_eq_some_iff.mp he
    rcases Machine.step_cases hm with ⟨_, _, last, hcall, hidle, rfl⟩ | ⟨_, _, _, _, hnews, _⟩ |
      ⟨_, hi, _⟩
    · cases hcall
      cases starts with
      | true =>
        -- The proxy is still down, so that the start is not the one that leaves a live proxy alone.
        obtain ⟨hbrought, hfiles⟩ := Station.brought_beginStart program hpid (hdown rfl)
        exact hunder _ hfiles (.of_brought hbrought _)
      | false =>
        obtain ⟨hbrought, hfiles⟩ := p.control.station.brought_beginReload s program
        exact hunder _ (hfiles ▸ Agree.refl _) (.of_brought hbrought _)
    · cases hnews
    · cases hi
  · cases he

theorem settle (h : p.Kept ps) (he : p.step s .settle = some p') : p'.Kept ps := by
  simp only [step] at he
  split at he
  · next c starts result hstage =>
    have hholds := h.holds_of hstage rfl
    obtain ⟨hothers, hupToDate⟩ := h.standing_of hstage
    obtain rfl := Option.some.inj he
    cases result with
    | ok _ =>
      refine finish h.settings hothers (fun _ => hupToDate rfl) ?_ fun e he => by cases he
      rintro _ ⟨⟩ _
      exact ⟨hholds, rfl⟩
    | error e =>
      exact finish h.settings hothers (fun hstale => by cases hstale)
        (fun _ _ hsuccess => by cases hsuccess) fun _ _ => rfl
  · cases he

/-- Every step keeps it. -/
theorem step {move : Move σ} (hapart : Disk.Apart σ ps.outputs) (hpid : PidFileApart (σ := σ) s ps)
    (h : p.Kept ps) (hallowed : Undisturbed ps p move) (he : p.step s move = some p') :
    p'.Kept ps := by
  cases move with
  | pass view => exact h.pass hapart hallowed he
  | decide => exact h.decide he
  | act program => exact h.act hpid he
  | settle => exact h.settle he
  | stop graceful program => exact h.stop hallowed he
  | news n program => exact h.news he
  | incident i => exact h.incident hallowed he

end Kept

/-- Nobody interferes, and a pass compiles. -/
def isHarmless (p : Plant σ) : Move σ → Bool
  | .pass view => (p.control.compile view).1.isOk
  | .stop .. | .incident _ => false
  | _ => true

/-- Makes moves one after the other, as long as they are harmless. -/
def play (s : SupervisorSettings) (p : Plant σ) : List (Move σ) → Option (Plant σ)
  | [] => some p
  | move :: rest => if p.isHarmless move then (p.step s move).bind (play s · rest) else none

theorem undisturbed_of_isHarmless {move : Move σ} (h : p.isHarmless move = true) :
    Undisturbed ps p move := by
  cases move with
  | pass view =>
    intro e control hcompile
    rw [isHarmless, hcompile] at h
    cases h
  | stop | incident => cases h
  | _ => trivial

theorem runs_of_play {moves : List (Move σ)} (h : p.play s moves = some p') :
    Runs s (Undisturbed ps) p p' := by
  induction moves generalizing p with
  | nil =>
    cases h
    exact Runs.refl _
  | cons move rest ih =>
    rw [play] at h
    split at h
    · next hharmless =>
      obtain ⟨q, hq, hrest⟩ := Option.bind_eq_some_iff.mp h
      exact (Runs.one move (undisturbed_of_isHarmless hharmless) hq).trans (ih hrest)
    · cases h

/-- A disk with nothing but the proxy's binary on it. -/
def bare : Trial where
  files path := if path = "/usr/sbin/nginx" then some [] else none
  plan := []

end Plant

end Portcullis
