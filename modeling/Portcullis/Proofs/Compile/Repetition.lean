import Portcullis.Proofs.Compile.Replacement
import Portcullis.Proofs.Files.Trial
import Portcullis.Proofs.Runs

/-!
# One pass after the other

Callers that want a compile pass wait for the compiler's lock.  Who holds it reads the store, which
may change at any time, and compiles what was read.

* `Workshop` is the machine, and `Workshop.step` what can happen in it.
* `Workshop.Completed` says what a pass that succeeds has done, whatever the disk was like.
* `Workshop.Settled` says that the configuration of the store as it is is in place.  It stays so
  until the store changes, and passes do nothing (`Settled.run`).
* `Workshop.run_exact` is the main result.
-/

namespace Portcullis

open LawfulDisk

variable {σ : Type}

/-- What the holder of a compiler's lock has come to. -/
inductive Turn where
  | free
  | taken
  /-- The store has been read. -/
  | seen (view : Except StoreError Routing)

/-- A compiler with its callers, the store that it reads and the disk that it writes. -/
structure Workshop (σ : Type) where
  compiler : Compiler
  store : Except StoreError Routing
  scene : Scene σ
  /-- How many callers wait for the lock. -/
  waiting : Nat := 0
  turn : Turn := .free
  /-- What the callers were told, the latest first. -/
  answers : List (Except CompileError Compiled) := []

namespace Workshop

/-- What can happen. The store may become any. -/
inductive Event where
  | call
  | enter
  | look
  | finish
  | mutate (store : Except StoreError Routing)

/-- Whether an event leaves the store alone. -/
def Event.IsCalm : Event → Prop
  | .mutate _ => False
  | _ => True

/-- Nobody changes the store. -/
def Calm (_ : Workshop σ) (e : Event) : Prop :=
  e.IsCalm

/-- Whether a caller was told that a file has changed. -/
def hasChanged : Except CompileError Compiled → Bool
  | .ok c => c.changed
  | .error _ => false

section Machine

variable [Disk σ]

/-- Compiles what was read, and gives the lock back. -/
def conclude (w : Workshop σ) (view : Except StoreError Routing) : Workshop σ :=
  let (answer, compiler, scene) := w.compiler.compile view w.scene
  { w with
    compiler := compiler, scene := scene, turn := .free, answers := answer :: w.answers }

def step (w : Workshop σ) : Event → Option (Workshop σ)
  | .call => some { w with waiting := w.waiting + 1 }
  | .enter =>
    match w.turn, w.waiting with
    | .free, n + 1 => some { w with waiting := n, turn := .taken }
    | _, _ => none
  | .look =>
    match w.turn with
    | .taken => some { w with turn := .seen w.store }
    | _ => none
  | .finish =>
    match w.turn with
    | .seen view => some (w.conclude view)
    | _ => none
  | .mutate store => some { w with store := store }

/-- What has been read is what there is. -/
def UpToDate (w : Workshop σ) : Prop :=
  ∀ view, w.turn = .seen view → view = w.store

variable {w w' : Workshop σ} {e : Event}

/-- A pass comes to its end, or nothing happens to the compiler, the disk and the callers that were
answered. -/
theorem step_cases (h : w.step e = some w') :
    (∃ view, e = .finish ∧ w.turn = .seen view ∧ w' = w.conclude view) ∨
      (w'.compiler = w.compiler ∧ w'.scene = w.scene ∧ w'.answers = w.answers ∧
        (e.IsCalm → w'.store = w.store ∧ (w.UpToDate → w'.UpToDate))) := by
  cases e with
  | call =>
    cases h
    exact Or.inr ⟨rfl, rfl, rfl, fun _ => ⟨rfl, id⟩⟩
  | enter =>
    simp only [step] at h
    split at h
    · cases h
      exact Or.inr ⟨rfl, rfl, rfl, fun _ => ⟨rfl, fun _ _ => nofun⟩⟩
    · cases h
  | look =>
    simp only [step] at h
    split at h
    · cases h
      refine Or.inr ⟨rfl, rfl, rfl, fun _ => ⟨rfl, fun _ view hview => ?_⟩⟩
      cases hview
      rfl
    · cases h
  | finish =>
    simp only [step] at h
    split at h
    · next view hturn =>
      cases h
      exact Or.inl ⟨view, rfl, hturn, rfl⟩
    · cases h
  | mutate store =>
    cases h
    exact Or.inr ⟨rfl, rfl, rfl, False.elim⟩

theorem settings_conclude (w : Workshop σ) (view : Except StoreError Routing) :
    (w.conclude view).compiler.settings = w.compiler.settings :=
  w.compiler.settings_compile view w.scene

theorem upToDate_conclude (w : Workshop σ) (view : Except StoreError Routing) :
    (w.conclude view).UpToDate :=
  fun _ => nofun

theorem settings_step (h : w.step e = some w') :
    w'.compiler.settings = w.compiler.settings := by
  rcases step_cases h with ⟨view, -, -, rfl⟩ | ⟨hcompiler, -⟩
  · exact w.settings_conclude view
  · rw [hcompiler]

end Machine

variable [Disk σ] [LawfulDisk σ] {ps : ProxySettings} {c : Compiled} {w w' w'' : Workshop σ}

/-! ## One pass -/

/-- What a pass has done that succeeds with a result, where it found `w` and left `w'`. -/
structure Completed (ps : ProxySettings) (view : Except StoreError Routing) (w w' : Workshop σ)
    (c : Compiled) : Prop where
  /-- The result is what was to be seen in advance, but for the change. -/
  result : (preview ps view).1 = .ok { c with changed := false }
  paths : c.files.map Prod.fst = [ps.streamPath, ps.httpPath]
  delivered : Delivered c.files w.scene.disk w'.scene.disk
  changed : c.changed = false ↔ InPlace c.files w.scene.disk
  last : w'.compiler.last = some c

theorem completed_conclude {view : Except StoreError Routing}
    (hapart : Disk.Apart σ [ps.streamPath, ps.httpPath]) (hps : w.compiler.settings = ps)
    (h : (w.conclude view).answers = .ok c :: w.answers) :
    Completed ps view w (w.conclude view) c := by
  subst hps
  rcases hcompile : w.compiler.compile view w.scene with ⟨answer, compiler, scene⟩
  simp only [conclude, hcompile, List.cons.injEq, and_true] at h ⊢
  subst h
  obtain ⟨hresult, hdelivered, hchanged, hlast⟩ := Compiler.compile_ok hapart hcompile
  obtain ⟨hstream, hhttp⟩ := Pass.paths_of_preview hresult
  refine ⟨hresult, ?_, hdelivered, hchanged, hlast⟩
  rw [← hstream, ← hhttp]
  rfl

/-! ## A store that stays as it is -/

/-- The configuration of the store as it is is in place. -/
structure Settled (ps : ProxySettings) (c : Compiled) (w : Workshop σ) : Prop where
  settings : w.compiler.settings = ps
  upToDate : w.UpToDate
  result : (preview ps w.store).1 = .ok c
  inPlace : InPlace c.files w.scene.disk

/-- A pass that has read the store as it is settles the configuration. -/
theorem Completed.settled {view : Except StoreError Routing}
    (h : Completed ps view w (w.conclude view) c) (hps : w.compiler.settings = ps)
    (hview : view = w.store) : (w.conclude view).Settled ps { c with changed := false } where
  settings := (w.settings_conclude view).trans hps
  upToDate := w.upToDate_conclude view
  result := hview ▸ h.result
  inPlace := h.delivered.inPlace

/-- Where the configuration is in place a pass does nothing, and says so. -/
theorem Settled.conclude {view : Except StoreError Routing} (h : w.Settled ps c)
    (hturn : w.turn = .seen view) :
    (w.conclude view).Settled ps c ∧ (w.conclude view).scene.disk = w.scene.disk ∧
      (w.conclude view).answers = .ok c :: w.answers := by
  obtain rfl := h.upToDate view hturn
  have hresult : (preview w.compiler.settings w.store).1 = .ok c := h.settings.symm ▸ h.result
  obtain ⟨hanswer, hdisk⟩ := Compiler.compile_of_inPlace hresult h.inPlace
  have hunchanged : { c with changed := false } = c := by
    rw [← Pass.changed_of_preview hresult]
  refine ⟨⟨(w.settings_conclude _).trans h.settings, w.upToDate_conclude _, h.result, ?_⟩, hdisk, ?_⟩
  · show InPlace c.files (w.compiler.compile w.store w.scene).2.2.disk
    rw [hdisk]
    exact h.inPlace
  · show (w.compiler.compile w.store w.scene).1 :: w.answers = _
    rw [hanswer, hunchanged]

theorem Settled.step {e : Event} (h : w.Settled ps c) (hcalm : e.IsCalm)
    (he : w.step e = some w') :
    w'.Settled ps c ∧ w'.scene.disk = w.scene.disk ∧
      (w'.answers = w.answers ∨ w'.answers = .ok c :: w.answers) := by
  rcases step_cases he with ⟨view, -, hturn, rfl⟩ | ⟨hcompiler, hscene, hanswers, hrest⟩
  · obtain ⟨hsettled, hdisk, hanswers⟩ := h.conclude hturn
    exact ⟨hsettled, hdisk, Or.inr hanswers⟩
  · obtain ⟨hstore, hupToDate⟩ := hrest hcalm
    refine ⟨⟨?_, hupToDate h.upToDate, ?_, ?_⟩, congrArg _ hscene, Or.inl hanswers⟩
    · rw [hcompiler, h.settings]
    · rw [hstore, h.result]
    · rw [hscene]
      exact h.inPlace

/-- As long as the store stays as it is, all passes have the same result and nothing is written. -/
theorem Settled.run (h : w.Settled ps c) (hrun : Runs Workshop.step Calm w w') :
    w'.Settled ps c ∧ w'.scene.disk = w.scene.disk ∧
      ∃ n, w'.answers = List.replicate n (.ok c) ++ w.answers := by
  refine hrun.invariant (P := fun m => m.Settled ps c ∧ m.scene.disk = w.scene.disk ∧
    ∃ n, m.answers = List.replicate n (.ok c) ++ w.answers) ⟨h, rfl, 0, rfl⟩
    fun m e m' hm hcalm he => ?_
  obtain ⟨hsettled, hdisk, n, hn⟩ := hm
  obtain ⟨hsettled', hdisk', hanswers⟩ := hsettled.step hcalm he
  refine ⟨hsettled', hdisk'.trans hdisk, ?_⟩
  rcases hanswers with hsame | hmore
  · exact ⟨n, hsame.trans hn⟩
  · exact ⟨n + 1, by rw [hmore, hn, List.replicate_succ, List.cons_append]⟩

/-- The answers given so far tell of no change, or of one, which settled the configuration. -/
def ChangedOnce (ps : ProxySettings) (before : List (Except CompileError Compiled))
    (w : Workshop σ) : Prop :=
  ∃ later, w.answers = later ++ before ∧ (later.countP hasChanged = 0 ∨
    later.countP hasChanged = 1 ∧ ∃ c, w.Settled ps c)

theorem ChangedOnce.step {before : List (Except CompileError Compiled)} {e : Event}
    (hapart : Disk.Apart σ [ps.streamPath, ps.httpPath]) (hps : w.compiler.settings = ps)
    (hupToDate : w.UpToDate) (h : w.ChangedOnce ps before) (hcalm : e.IsCalm)
    (he : w.step e = some w') : w'.ChangedOnce ps before := by
  obtain ⟨later, hlater, hnone | ⟨hone, c, hsettled⟩⟩ := h
  · rcases step_cases he with ⟨view, -, hturn, rfl⟩ | ⟨-, -, hanswers, -⟩
    · rcases hanswer : (w.compiler.compile view w.scene).1 with f | c
      · have hanswers : (w.conclude view).answers = .error f :: w.answers := congrArg (· :: _) hanswer
        refine ⟨.error f :: later, by rw [hanswers, hlater, List.cons_append], Or.inl ?_⟩
        simpa [hasChanged] using hnone
      · have hanswers : (w.conclude view).answers = .ok c :: w.answers := congrArg (· :: _) hanswer
        have hcompleted := completed_conclude hapart hps hanswers
        refine ⟨.ok c :: later, by rw [hanswers, hlater, List.cons_append], ?_⟩
        cases hchanged : c.changed with
        | false => exact Or.inl (by simpa [hasChanged, hchanged] using hnone)
        | true =>
          refine Or.inr ⟨?_, _, hcompleted.settled hps (hupToDate view hturn)⟩
          have hsaid : hasChanged (.ok c) = true := hchanged
          rw [List.countP_cons_of_pos hsaid, hnone]
    · exact ⟨later, hanswers.trans hlater, Or.inl hnone⟩
  · obtain ⟨hsettled', -, hanswers⟩ := hsettled.step hcalm he
    have hunchanged : c.changed = false := Pass.changed_of_preview hsettled.result
    rcases hanswers with hsame | hmore
    · exact ⟨later, hsame.trans hlater, Or.inr ⟨hone, c, hsettled'⟩⟩
    · refine ⟨.ok c :: later, by rw [hmore, hlater, List.cons_append], Or.inr ⟨?_, c, hsettled'⟩⟩
      have hsaid : ¬hasChanged (.ok c) = true := by simp [hasChanged, hunchanged]
      rw [List.countP_cons_of_neg hsaid, hone]

/-- As long as the store stays as it is, at most one pass says that a file has changed. -/
theorem changedOnce_of_runs (hapart : Disk.Apart σ [ps.streamPath, ps.httpPath])
    (hps : w.compiler.settings = ps) (hupToDate : w.UpToDate)
    (hrun : Runs Workshop.step Calm w w') : w'.ChangedOnce ps w.answers := by
  have hkept : w'.compiler.settings = ps ∧ w'.UpToDate ∧ w'.ChangedOnce ps w.answers := by
    refine hrun.invariant (P := fun m => m.compiler.settings = ps ∧ m.UpToDate ∧
      m.ChangedOnce ps w.answers) ⟨hps, hupToDate, [], rfl, Or.inl rfl⟩ fun m e m' hm hcalm he => ?_
    obtain ⟨hsettings, hcurrent, honce⟩ := hm
    refine ⟨(settings_step he).trans hsettings, ?_, honce.step hapart hsettings hcurrent hcalm he⟩
    rcases step_cases he with ⟨view, -, -, rfl⟩ | ⟨-, -, -, hrest⟩
    · exact m.upToDate_conclude view
    · exact (hrest hcalm).2 hcurrent
  exact hkept.2.2

/-! ## All runs -/

/-- However callers and changes of the store mix, a pass that succeeds has given both files its
texts and touched no other, and its result, which is kept, says a change exactly if one of them
lacked its text. From then on, until the store changes, all passes have the same result without a
change, and write nothing. And as long as the store does not change, at most one of all the passes
tells of a change. -/
theorem run_exact {start : Workshop σ} (hapart : Disk.Apart σ [ps.streamPath, ps.httpPath])
    (hps : start.compiler.settings = ps) (hrun : Runs Workshop.step Anything start w) :
    (∀ view w' c, w.turn = .seen view → w.step .finish = some w' →
      w'.answers = .ok c :: w.answers →
        Completed ps view w w' c ∧
        (view = w.store → ∀ w'', Runs Workshop.step Calm w' w'' →
          w''.scene.disk = w'.scene.disk ∧
          ∃ n, w''.answers = List.replicate n (.ok { c with changed := false }) ++ w'.answers)) ∧
    (w.UpToDate → ∀ w', Runs Workshop.step Calm w w' →
      ∃ later, w'.answers = later ++ w.answers ∧ later.countP hasChanged ≤ 1) := by
  have hsettings : w.compiler.settings = ps :=
    hrun.invariant hps fun m e m' hm _ he => (settings_step he).trans hm
  refine ⟨fun view w' c hturn hfinish hanswers => ?_, fun hupToDate w' hcalm => ?_⟩
  · obtain rfl : w.conclude view = w' := by
      simpa only [Workshop.step, hturn, Option.some.injEq] using hfinish
    have hcompleted := completed_conclude hapart hsettings hanswers
    refine ⟨hcompleted, fun hview w'' hcalm => ?_⟩
    exact ((hcompleted.settled hsettings hview).run hcalm).2
  · obtain ⟨later, hlater, hnone | ⟨hone, -⟩⟩ :=
      changedOnce_of_runs hapart hsettings hupToDate hcalm
    · exact ⟨later, hlater, by omega⟩
    · exact ⟨later, hlater, by omega⟩

/-- A disk with an old file for one of the two contexts. -/
def halfOld : Trial where
  files path := if path = ProxySettings.httpPath {} then some [35] else none
  plan := []

/-- Two callers at one compiler, one of whom has the lock and has read the store. -/
def shared : Workshop Trial where
  compiler := ⟨{}, none⟩
  store := .ok {}
  scene := ⟨halfOld, .empty⟩
  waiting := 1
  turn := .seen (.ok {})

/-- The first of two callers is told that a file has changed, and the second that none has. -/
theorem run_exact_twoCallers :
    ∃ start w w' c, Runs Workshop.step Anything start shared ∧
      shared.step .finish = some w ∧ Runs Workshop.step Calm w w' ∧
      Completed {} (.ok {}) shared w c ∧ c.changed = true ∧
      w'.answers = [.ok { c with changed := false }, .ok c] ∧ w'.scene.disk = w.scene.disk ∧
      w'.answers.countP hasChanged ≤ 1 := by
  have hapart : Disk.Apart Trial [ProxySettings.streamPath {}, ProxySettings.httpPath {}] := by
    show List.Nodup (List.map (id : String → String) _)
    decide +kernel
  have hrun : Runs Workshop.step Anything { shared with waiting := 0, turn := .free } shared :=
    Runs.of_foldlM (fun (e : Event) (_ : e ∈ [.call, .call, .enter, .look]) _ => trivial) rfl
  have hfinish : shared.step .finish = some (shared.conclude (.ok {})) := rfl
  obtain ⟨hpass, hcalls⟩ := run_exact hapart rfl hrun
  have hanswer : hasChanged (shared.compiler.compile (.ok {}) shared.scene).1 = true := by
    decide +kernel
  rcases hresult : (shared.compiler.compile (.ok {}) shared.scene).1 with f | c
  · rw [hresult] at hanswer
    cases hanswer
  · rw [hresult] at hanswer
    have hanswers : (shared.conclude (.ok {})).answers = [.ok c] := congrArg (· :: []) hresult
    obtain ⟨hcompleted, hrepeat⟩ := hpass (.ok {}) _ c rfl hfinish hanswers
    have hagain : Runs Workshop.step Calm (shared.conclude (.ok {}))
        (conclude { shared.conclude (.ok {}) with waiting := 0, turn := .seen (.ok {}) } (.ok {})) :=
      Runs.of_foldlM (show ∀ e ∈ [Event.enter, .look, .finish], ∀ m, Calm m e by simp [Calm, Event.IsCalm])
        rfl
    obtain ⟨hdisk, n, hn⟩ := hrepeat rfl _ hagain
    obtain rfl : n = 1 := by
      have hlength := congrArg List.length hn
      rw [hanswers, List.length_append, List.length_replicate] at hlength
      exact (Nat.add_right_cancel hlength).symm
    have hcalm : Runs Workshop.step Calm shared (shared.conclude (.ok {})) :=
      Runs.one .finish trivial hfinish
    obtain ⟨later, hlater, hcount⟩ := hcalls (fun _ hview => by cases hview; rfl) _
      (hcalm.trans hagain)
    refine ⟨_, _, _, c, hrun, hfinish, hagain, hcompleted, hanswer, ?_, hdisk, ?_⟩
    · rw [hn, hanswers]
      rfl
    · rw [hlater, shared, List.append_nil]
      exact hcount

end Workshop

end Portcullis
