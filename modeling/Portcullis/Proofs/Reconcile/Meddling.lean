import Portcullis.Proofs.Reconcile.Freshness

/-!
# Other writers of the compiled files

A pass compares what it has compiled with the files, and takes it for granted that the proxy has
loaded them.  Whoever else writes the files breaks this.

* `Plant.Doubtful` is what is kept while nothing is known of the proxy: until a pass tries to start
  or reload it, that nothing has changed is said of the files only.
* `Plant.unchanged_of_attempt`: once there was such an attempt and nobody else writes, it is true
  of the proxy.
* `Plant.masked_runs`: a compilation by somebody else keeps the pass that follows from telling the
  proxy, and `Plant.unchanged_of_others` is such a run.
-/

namespace Portcullis

open Portcullis.Text
open LawfulDisk
open Station (UpToDate PidFileApart)

variable {σ : Type} [Browsable σ] [LawfulDisk σ]

namespace Plant

variable {ps : ProxySettings} {s : SupervisorSettings} {p p' : Plant σ}

/-- What is kept until a pass tries to start or reload the proxy. -/
structure Doubtful (ps : ProxySettings) (p : Plant σ) : Prop where
  settings : p.control.compiler.settings = ps
  isOthers : p.activity.IsOthers
  stage : p.stage = .between ∨ ∃ c, p.stage = .compiled c
  holds : ∀ c, p.stage.compiled? = some c → Holds ps c p.control.station.files
  unattempted : ∀ x ∈ p.ended, x.2.isAttempt = false
  /-- After a pass that ended well the files hold what it compiled. -/
  latest : p.stage = .between → ∀ c o rest, p.ended = (some c, o) :: rest → o.isSuccess = true →
    Holds ps c p.control.station.files

/-- The plant that is found between two passes, whatever has happened before. -/
def found (control : Control σ) (last : Option (Operation × Except SupervisorError Unit)) :
    Plant σ where
  control := control
  activity := .idle last

variable {control : Control σ} {last : Option (Operation × Except SupervisorError Unit)}

theorem Doubtful.found (hps : control.compiler.settings = ps) :
    (found control last).Doubtful ps where
  settings := hps
  isOthers := trivial
  stage := .inl rfl
  holds := nofun
  unattempted := nofun
  latest := nofun

/-- A proxy that is up to date, or known to be behind, leaves nothing in doubt. -/
theorem Kept.found (hps : control.compiler.settings = ps)
    (h : control.reconciler.stale = false → control.station.UpToDate ps) :
    (Plant.found control last).Kept ps where
  settings := hps
  holds := nofun
  standing := ⟨trivial, h⟩
  latest := nofun
  owed := nofun

namespace Doubtful

theorem ne_under (h : p.Doubtful ps) (c : Compiled) (starts : Bool) :
    p.stage ≠ .under c starts := by
  rcases h.stage with hstage | ⟨c', hstage⟩ <;> rw [hstage] <;> nofun

theorem outside {move : Move σ} (h : p.Doubtful ps) (he : p.step s move = some p')
    (hmove : move.IsOutside) (hallowed : Undisturbed ps p move) : p'.Doubtful ps := by
  obtain ⟨m, rfl, hquiet, hothers⟩ := quiet_of_step h.isOthers he hmove hallowed
  have hstage : (p.follow m).stage = p.stage := Stage.after_of_ne h.ne_under m.activity
  refine ⟨h.settings, hothers, hstage ▸ h.stage, fun c hc => ?_, h.unattempted,
    fun hbetween c o rest hended hsuccess => ?_⟩
  · exact (h.holds c (hstage ▸ hc)).of_agree hquiet.files
  · exact (h.latest (hstage ▸ hbetween) c o rest hended hsuccess).of_agree hquiet.files

/-- The end of a pass that has left the proxy alone. -/
theorem finish {compiled : Option Compiled} {o : Outcome}
    (hsettings : p.control.compiler.settings = ps) (hothers : p.activity.IsOthers)
    (hended : ∀ x ∈ p.ended, x.2.isAttempt = false) (hattempt : o.isAttempt = false)
    (hlatest : ∀ c, compiled = some c → o.isSuccess = true → Holds ps c p.control.station.files) :
    (p.finish compiled o).Doubtful ps where
  settings := hsettings
  isOthers := hothers
  stage := .inl rfl
  holds := nofun
  unattempted := List.forall_mem_cons.mpr ⟨hattempt, hended⟩
  latest _ c o' rest hcons hsuccess := by
    cases hcons
    exact hlatest c rfl hsuccess

theorem pass {view : Except StoreError Routing} (hapart : Disk.Apart σ ps.outputs)
    (h : p.Doubtful ps) (he : p.step s (.pass view) = some p') : p'.Doubtful ps := by
  simp only [step] at he
  split at he
  · rcases hcompile : p.control.compile view with ⟨e | c, control⟩
    · obtain ⟨hsettings, -, -⟩ := Control.of_compile hcompile
      rw [hcompile] at he
      obtain rfl := Option.some.inj he
      exact finish (hsettings.trans h.settings) h.isOthers h.unattempted rfl
        fun c hc => by cases hc
    · obtain ⟨hsettings, -, -⟩ := Control.of_compile hcompile
      obtain ⟨hholds, -⟩ := Control.compile_ok (h.settings ▸ hapart) hcompile
      rw [hcompile] at he
      obtain rfl := Option.some.inj he
      refine ⟨hsettings.trans h.settings, h.isOthers, .inr ⟨c, rfl⟩, ?_, h.unattempted,
        fun hbetween => (by cases hbetween)⟩
      rintro _ ⟨⟩
      exact h.settings ▸ hholds
  · cases he

/-- Once a pass is about to start or reload the proxy, nothing is in doubt any more. -/
theorem decide (h : p.Doubtful ps) (he : p.step s .decide = some p') :
    p'.Doubtful ps ∨ p'.Kept ps := by
  simp only [step] at he
  split at he
  · next c hstage =>
    have hholds : Holds ps c p.control.station.files := h.holds c (by rw [hstage]; rfl)
    have hdue : ∀ starts, (starts = true → p.control.station.supervisor.isRunning = false) →
        ({ p with stage := .due c starts } : Plant σ).Kept ps := by
      intro starts hdown
      refine ⟨h.settings, ?_, ⟨h.isOthers, hdown⟩, fun hbetween => (by cases hbetween),
        fun e hlast => ?_⟩
      · rintro _ ⟨⟩
        exact hholds
      · obtain ⟨x, hx, heq⟩ := List.mem_map.mp (List.mem_of_find?_eq_some hlast)
        have hattempt := h.unattempted x hx
        rw [heq] at hattempt
        cases hattempt
    split at he
    · next hremedy =>
      obtain rfl := Option.some.inj he
      exact .inr (hdue true fun _ => Reconciler.isRunning_of_remedy hremedy)
    · obtain rfl := Option.some.inj he
      exact .inr (hdue false fun hstarts => by cases hstarts)
    · obtain rfl := Option.some.inj he
      refine .inl (finish h.settings h.isOthers h.unattempted rfl ?_)
      rintro _ ⟨⟩ _
      exact hholds
  · cases he

theorem step {move : Move σ} (hapart : Disk.Apart σ ps.outputs) (h : p.Doubtful ps)
    (hallowed : Undisturbed ps p move) (he : p.step s move = some p') :
    p'.Doubtful ps ∨ p'.Kept ps := by
  cases move with
  | pass view => exact .inl (h.pass hapart he)
  | decide => exact h.decide he
  | act program =>
    simp only [Plant.step] at he
    rcases h.stage with hstage | ⟨c, hstage⟩ <;> rw [hstage] at he <;> cases he
  | settle =>
    simp only [Plant.step] at he
    rcases h.stage with hstage | ⟨c, hstage⟩ <;> rw [hstage] at he <;> cases he
  | stop | news | incident => exact .inl (h.outside he trivial hallowed)

end Doubtful

/-- As long as nobody else writes the compiled files, a pass that tells of no change has found its
texts in them. The proxy, if it is alive, has loaded these texts if it was up to date at first, or
was known to be behind, or if a pass before has tried to start or reload it. Nothing is asked of
what has happened before. -/
theorem unchanged_of_attempt {c : Compiled} {rest : List (Option Compiled × Outcome)}
    (hapart : Disk.Apart σ ps.outputs) (hpid : PidFileApart (σ := σ) s ps)
    (hps : control.compiler.settings = ps)
    (hruns : Runs s (Undisturbed ps) (found control last) p) (hstage : p.stage = .between)
    (hended : p.ended = (some c, .unchanged) :: rest) :
    Holds ps c p.control.station.files ∧
    ((control.station.UpToDate ps ∨ control.reconciler.stale = true ∨
        ∃ x ∈ rest, x.2.isAttempt = true) →
      ∀ q, p.control.station.owned? = some q → Holds ps c q.loaded) := by
  have hknown : p.Kept ps → Holds ps c p.control.station.files ∧
      ∀ q, p.control.station.owned? = some q → Holds ps c q.loaded := by
    intro hkept
    obtain ⟨hholds, hstale⟩ := hkept.latest hstage c .unchanged rest hended rfl
    exact ⟨hholds, fun q hq => hholds.of_agree ((hkept.standing_of hstage).2 hstale q hq)⟩
  have hfrom : (control.reconciler.stale = false → control.station.UpToDate ps) → p.Kept ps :=
    fun h => hruns.invariant (Kept.found hps h) fun _ _ _ hm hallowed he =>
      hm.step hapart hpid hallowed he
  have hphase : p.Doubtful ps ∨ p.Kept ps := by
    refine hruns.invariant (P := fun p => p.Doubtful ps ∨ p.Kept ps) (.inl (.found hps))
      fun _ _ _ hm hallowed he => ?_
    rcases hm with hdoubt | hkept
    · exact hdoubt.step hapart hallowed he
    · exact .inr (hkept.step hapart hpid hallowed he)
  rcases hphase with hdoubt | hkept
  · refine ⟨hdoubt.latest hstage c .unchanged rest hended rfl, fun hcause => ?_⟩
    rcases hcause with hupToDate | hstale | ⟨x, hx, hattempt⟩
    · exact (hknown (hfrom fun _ => hupToDate)).2
    · exact (hknown (hfrom fun hfalse => by cases hfalse.symm.trans hstale)).2
    · have hnone := hdoubt.unattempted x (hended ▸ List.mem_cons_of_mem _ hx)
      cases hnone.symm.trans hattempt
  · exact ⟨(hknown hkept).1, fun _ => (hknown hkept).2⟩

/-- The proxy is started over no rows. -/
def startedMoves : List (Move Trial) :=
  [.pass (.ok {}), .decide, .act (.always .silent), .news .look (.always .silent), .settle]

/-- After the start a pass finds nothing to do. -/
def restedMoves : List (Move Trial) :=
  startedMoves ++ [.pass (.ok {}), .decide]

/-- A disk with the proxy's binary, and with a file that somebody else has written. -/
def written : Trial where
  files path :=
    if path = "/usr/sbin/nginx" then some []
    else if path = ProxySettings.httpPath {} then some [35] else none
  plan := []

def ofWritten : Control Trial :=
  ⟨⟨{}, none⟩, {}, { files := written, journal := .empty }⟩

/-- Whether the last pass has told of no change after an attempt, with the proxy alive. -/
def isRested (p : Plant Trial) : Bool :=
  match p.stage, p.ended with
  | .between, (some _, .unchanged) :: rest =>
    rest.any (·.2.isAttempt) && p.control.station.owned?.isSome
  | _, _ => false

/-- The pass that tells of no change comes after a start, and tells the truth. -/
theorem unchanged_of_attempt_rested : ∃ (p : Plant Trial) (c : Compiled)
    (rest : List (Option Compiled × Outcome)) (q : Process Trial),
    Runs {} (Undisturbed {}) (found ofWritten none) p ∧ p.stage = .between ∧
      p.ended = (some c, .unchanged) :: rest ∧ p.control.station.owned? = some q ∧
      Holds {} c q.loaded := by
  have hapart : Disk.Apart Trial (ProxySettings.outputs {}) := by
    show List.Nodup (List.map (id : String → String) _)
    decide
  have hpid : @PidFileApart Trial _ _ {} {} := nofun
  have hplay : ((found ofWritten none).play {} restedMoves).any isRested = true := by
    decide +kernel
  obtain ⟨p, hp, hrested⟩ := (Option.any_eq_true _ _).mp hplay
  have hruns : Runs {} (Undisturbed {}) (found ofWritten none) p := runs_of_play hp
  unfold isRested at hrested
  split at hrested
  · next c rest hstage hended =>
    obtain ⟨hattempt, halive⟩ := Bool.and_eq_true_iff.mp hrested
    obtain ⟨q, hq⟩ := Option.isSome_iff_exists.mp halive
    exact ⟨p, c, rest, q, hruns, hstage, hended, hq,
      (unchanged_of_attempt hapart hpid rfl hruns hstage hended).2
        (.inr (.inr (List.any_eq_true.mp hattempt))) q hq⟩
  · cases hrested

/-! ## Compilations by others -/

/-- What can happen while there are passes, and others who compile into the same files. -/
def Compiling (ps : ProxySettings) (p : Plant σ) : Move σ → Prop
  | .incident (.files files) => ∃ last view journal,
      files = (Compiler.compile ⟨ps, last⟩ view ⟨p.control.station.files, journal⟩).2.2.disk
  | .incident _ | .stop .. => False
  | _ => True

/-- A pass that finds its texts in the files succeeds without a change. -/
theorem compile_of_inPlace {view : Except StoreError Routing} {c : Compiled}
    (hpreview : (preview p.control.compiler.settings view).1 = .ok c)
    (h : InPlace c.files p.control.station.files) :
    (p.control.compile view).1 = .ok { c with changed := false } :=
  (Compiler.compile_of_inPlace
    (w := ⟨p.control.station.files, p.control.station.journal⟩) hpreview h).1

variable (ps) in
omit [LawfulDisk σ] in
/-- A pass that finds its texts in the files, and a live proxy that is not known to be behind, ends
at once. -/
theorem idle_runs {view : Except StoreError Routing} {c : Compiled}
    (hstage : p.stage = .between) (hrunning : p.control.station.supervisor.isRunning = true)
    (hstale : p.control.reconciler.stale = false) (hchanged : c.changed = false)
    (hcompile : (p.control.compile view).1 = .ok c) :
    ∃ p', Runs s (Compiling ps) p p' ∧ p'.stage = .between ∧
      p'.ended = (some c, .unchanged) :: p.ended ∧
      p'.control.station.owned? = p.control.station.owned? := by
  rcases hresult : p.control.compile view with ⟨result, control⟩
  rw [hresult] at hcompile
  obtain rfl : result = .ok c := hcompile
  obtain ⟨-, hreconciler, howned⟩ := Control.of_compile hresult
  have hsupervisor : (p.control.compile view).2.station.supervisor =
      p.control.station.supervisor := rfl
  rw [hresult] at hsupervisor
  have hremedy : control.reconciler.remedy control.station.supervisor.isRunning c.changed =
      .nothing := by
    rw [hreconciler, show control.station.supervisor = _ from hsupervisor, hrunning, hchanged,
      Reconciler.remedy, hstale]
    rfl
  have hpass :
      p.step s (.pass view) = some { p with control := control, stage := .compiled c } := by
    simp only [step, hstage, hresult]
  have hdecide : ({ p with control := control, stage := .compiled c } : Plant σ).step s .decide =
      some (({ p with control := control, stage := .compiled c } : Plant σ).finish (some c)
        .unchanged) := by
    simp only [step, hremedy]
  exact ⟨_, (Runs.one (.pass view) trivial hpass).step .decide trivial hdecide, rfl, rfl, howned⟩

omit [LawfulDisk σ] in
/-- Somebody else compiles. -/
theorem compiled_runs {view : Except StoreError Routing} {own : Option Compiled}
    {compiler : Compiler} {journal : Telemetry.Journal} {scene : Scene σ}
    {result : Except CompileError Compiled} (hstage : p.stage = .between)
    (hcompile : Compiler.compile ⟨ps, own⟩ view ⟨p.control.station.files, journal⟩ =
      (result, compiler, scene)) :
    ∃ next, Runs s (Compiling ps) p next ∧ next.stage = .between ∧ next.ended = p.ended ∧
      next.control = { p.control with station := p.control.station.withFiles scene.disk } := by
  refine ⟨p.follow ⟨p.control.station.undergo (.files scene.disk), p.activity⟩,
    .one (.incident (.files scene.disk)) ⟨own, view, journal, ?_⟩ rfl, ?_, rfl, rfl⟩
  · rw [hcompile]
  · exact (Stage.after_of_ne (fun _ _ => by rw [hstage]; nofun) p.activity).trans hstage

/-- Once somebody else has compiled the rows that a pass finds, the pass tells of no change, and
the proxy stays with what it had loaded. -/
theorem masked_runs {view : Except StoreError Routing} {own : Option Compiled} {compiler : Compiler}
    {journal : Telemetry.Journal} {scene : Scene σ} {c : Compiled}
    (hapart : Disk.Apart σ ps.outputs) (hps : p.control.compiler.settings = ps)
    (hstage : p.stage = .between) (hrunning : p.control.station.supervisor.isRunning = true)
    (hstale : p.control.reconciler.stale = false)
    (hcompile : Compiler.compile ⟨ps, own⟩ view ⟨p.control.station.files, journal⟩ =
      (.ok c, compiler, scene)) :
    ∃ p', Runs s (Compiling ps) p p' ∧ p'.stage = .between ∧
      p'.ended = (some { c with changed := false }, .unchanged) :: p.ended ∧
      p'.control.station.owned? = p.control.station.owned? := by
  obtain ⟨next, hfirst, hbetween, hended, hcontrol⟩ := compiled_runs (s := s) hstage hcompile
  obtain ⟨hpreview, hdelivered, -⟩ := Compiler.compile_ok (c := ⟨ps, own⟩) hapart hcompile
  have hsettings : next.control.compiler.settings = ps := by rw [hcontrol, hps]
  have hfiles : next.control.station.files = scene.disk := by
    rw [hcontrol]
    rfl
  have hagain : (next.control.compile view).1 = .ok { c with changed := false } := by
    rw [← hsettings] at hpreview
    exact compile_of_inPlace (c := { c with changed := false }) hpreview
      (hfiles.symm ▸ hdelivered.inPlace)
  have hrunning' : next.control.station.supervisor.isRunning = true := by
    rw [hcontrol]
    exact hrunning
  have hstale' : next.control.reconciler.stale = false := by
    rw [hcontrol, hstale]
  obtain ⟨p', hruns, hdone, hanswer, howned⟩ :=
    idle_runs ps (s := s) hbetween hrunning' hstale' rfl hagain
  refine ⟨p', hfirst.trans hruns, hdone, by rw [hanswer, hended], ?_⟩
  rw [howned, hcontrol]
  exact Station.owned?_congr rfl rfl

/-- Rows that come later. -/
def oneSite : Routing where
  listeners := [⟨1, 80, .http, false, .blacklist, ""⟩]
  domains := .ofList [⟨1, "a"⟩]
  httpRoutes := [⟨1, 1, 1⟩]

/-- Whether the proxy is alive and has not loaded what these rows compile to. -/
def isBehind (p : Plant Trial) : Bool :=
  match p.stage, p.control.station.owned?,
    (Compiler.compile ⟨{}, none⟩ (.ok oneSite) (⟨p.control.station.files, .empty⟩ : Scene Trial)).1
  with
  | .between, some q, .ok c =>
    decide (p.control.compiler.settings = {} ∧ p.control.station.supervisor.isRunning = true ∧
      p.control.reconciler.stale = false ∧
      q.loaded.files (ProxySettings.httpPath {}) ≠ some (Utf8.encode c.http))
  | _, _, _ => false

/-- With other compilations into the same files, that nothing has changed may be said while the
proxy that is alive has loaded another text. -/
theorem unchanged_of_others :
    ¬ ∀ (p : Plant Trial) (c : Compiled) (rest : List (Option Compiled × Outcome))
      (q : Process Trial), Runs {} (Compiling {}) (Plant.fresh {} bare .empty) p →
        p.stage = .between → p.ended = (some c, .unchanged) :: rest →
        p.control.station.owned? = some q → Holds {} c q.loaded := by
  intro hclaim
  have hapart : Disk.Apart Trial (ProxySettings.outputs {}) := by
    show List.Nodup (List.map (id : String → String) _)
    decide
  have hplay : (startedMoves.foldlM (Plant.step {}) (Plant.fresh {} bare .empty)).any isBehind =
      true := by
    decide +kernel
  obtain ⟨p, hp, hbehind⟩ := (Option.any_eq_true _ _).mp hplay
  have hallowed : ∀ e ∈ startedMoves, ∀ p, Compiling {} p e := by
    simp [startedMoves, Compiling]
  have hruns : Runs {} (Compiling {}) (Plant.fresh {} bare .empty) p := .of_foldlM hallowed hp
  unfold isBehind at hbehind
  split at hbehind
  · next q c hstage howned hother =>
    obtain ⟨hps, hrunning, hstale, hloaded⟩ := of_decide_eq_true hbehind
    rcases hcompile : Compiler.compile ⟨{}, none⟩ (.ok oneSite)
      (⟨p.control.station.files, .empty⟩ : Scene Trial) with ⟨result, compiler, scene⟩
    rw [hcompile] at hother
    obtain rfl : result = .ok c := hother
    obtain ⟨p', hmasked, hdone, hended, hsame⟩ :=
      masked_runs (s := {}) hapart hps hstage hrunning hstale hcompile
    have hholds := hclaim p' _ _ q (hruns.trans hmasked) hdone hended (hsame.trans howned)
    exact hloaded hholds.2
  · cases hbehind

end Plant

end Portcullis
