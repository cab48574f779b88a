import Portcullis.Compile.Build
import Portcullis.Proofs.Files.LawfulDisk
import Portcullis.Proofs.Supervision.Machine

/-!
# What the proxy has loaded

The compiled files, and what a process has loaded of them, while the supervisor works on the proxy.

* `Station.UpToDate` says that the owned process has loaded the compiled files as they are.
* `Station.Quiet` is what incidents and stops do to it: whatever was true of the files and of the
  owned process stays true.
* `Station.Brought` is what a start or a reload does to it: the operation has failed, or is in
  progress with a process that has loaded the files, or the owned process is up to date.
-/

namespace Portcullis

open Portcullis.Text
open LawfulDisk

variable {σ : Type} [Browsable σ] [LawfulDisk σ]

/-- The files that a compile pass writes. -/
def ProxySettings.outputs (ps : ProxySettings) : List String :=
  [ps.streamPath, ps.httpPath]

/-- Two disks have the same compiled files. -/
def Agree (ps : ProxySettings) (a b : σ) : Prop :=
  ∀ t ∈ ps.outputs, content? a (fileAt t) = content? b (fileAt t)

/-- The compiled files hold what was compiled. -/
def Holds (ps : ProxySettings) (c : Compiled) (a : σ) : Prop :=
  content? a (fileAt ps.streamPath) = some (Utf8.encode c.stream) ∧
    content? a (fileAt ps.httpPath) = some (Utf8.encode c.http)

section Files

variable {ps : ProxySettings} {a b c : σ} {compiled : Compiled}

theorem Agree.refl (a : σ) : Agree ps a a :=
  fun _ _ => rfl

theorem Agree.symm (h : Agree ps a b) : Agree ps b a :=
  fun t ht => (h t ht).symm

theorem Agree.trans (h : Agree ps a b) (h' : Agree ps b c) : Agree ps a c :=
  fun t ht => (h t ht).trans (h' t ht)

theorem Holds.of_agree (h : Holds ps compiled a) (hagree : Agree ps b a) : Holds ps compiled b :=
  ⟨(hagree _ (by simp [ProxySettings.outputs])).trans h.1,
    (hagree _ (by simp [ProxySettings.outputs])).trans h.2⟩

end Files

/-- What holds of an activity that no pass has asked for. -/
def Activity.IsOthers : Activity → Prop
  | .idle _ => True
  | .busy _ (.drained _) | .busy _ (.killed _) => True
  | .busy _ _ => False

namespace Station

variable {ps : ProxySettings} {st st' : Station σ} {pid : Nat}

/-- The owned process, as long as it is alive, has loaded the compiled files as they are. -/
def UpToDate (ps : ProxySettings) (st : Station σ) : Prop :=
  ∀ q, st.owned? = some q → Agree ps q.loaded st.files

omit [LawfulDisk σ] [Browsable σ] in
theorem owned?_eq_some {q : Process σ} :
    st.owned? = some q ↔
      ∃ pid, st.supervisor.slot = some pid ∧ st.process? pid = some q ∧ q.exit = none := by
  simp only [owned?, Option.filter_eq_some_iff, Option.bind_eq_some_iff, Option.isNone_iff_eq_none]
  constructor
  · rintro ⟨⟨pid, hslot, hq⟩, hexit⟩
    exact ⟨pid, hslot, hq, hexit⟩
  · rintro ⟨pid, hslot, hq, hexit⟩
    exact ⟨⟨pid, hslot, hq⟩, hexit⟩

omit [LawfulDisk σ] [Browsable σ] in
theorem owned?_congr (hslot : st'.supervisor.slot = st.supervisor.slot)
    (hprocesses : st'.processes = st.processes) : st'.owned? = st.owned? := by
  have hprocess : st'.process? = st.process? := funext fun _ => process?_congr hprocesses
  rw [owned?, owned?, hslot, hprocess]

theorem UpToDate.of_slot_none (h : st.supervisor.slot = none) : st.UpToDate ps := by
  intro q hq
  obtain ⟨pid, hslot, -⟩ := owned?_eq_some.mp hq
  cases h.symm.trans hslot

theorem UpToDate.of_exited (hslot : st.supervisor.slot = some pid)
    (hexit : (st.exit? pid).isSome) : st.UpToDate ps := by
  intro q hq
  obtain ⟨pid', hslot', hq', hnone⟩ := owned?_eq_some.mp hq
  obtain rfl := Option.some.inj (hslot.symm.trans hslot')
  rw [exit?, hq', Option.bind_some, hnone] at hexit
  cases hexit

theorem UpToDate.processExits (h : st.UpToDate ps) (pid : Nat) (code : ExitCode) :
    (st.processExits pid code).UpToDate ps := by
  intro q hq
  obtain ⟨pid', hslot, hq', hexit⟩ := owned?_eq_some.mp hq
  rw [slot_processExits] at hslot
  rw [process?_processExits] at hq'
  obtain ⟨q₀, hq₀, rfl⟩ := Option.map_eq_some_iff.mp hq'
  rw [files_processExits]
  split at hexit
  · cases hexit
  · next hnot =>
    rw [if_neg hnot]
    exact h q₀ (owned?_eq_some.mpr ⟨pid', hslot, hq₀, hexit⟩)

theorem UpToDate.onProcess (h : st.UpToDate ps) {f : Process σ → Process σ}
    (hpid : ∀ q, (f q).pid = q.pid) (hexit : ∀ q, (f q).exit = q.exit)
    (hloaded : ∀ q, (f q).loaded = q.loaded) (pid : Nat) : (st.onProcess pid f).UpToDate ps := by
  intro q hq
  obtain ⟨pid', hslot, hq', hnone⟩ := owned?_eq_some.mp hq
  rw [process?_onProcess hpid] at hq'
  obtain ⟨q₀, hq₀, rfl⟩ := Option.map_eq_some_iff.mp hq'
  split at hnone
  · next heq =>
    rw [if_pos heq, hloaded]
    exact h q₀ (owned?_eq_some.mpr ⟨pid', hslot, hq₀, (hexit q₀).symm.trans hnone⟩)
  · next heq =>
    rw [if_neg heq]
    exact h q₀ (owned?_eq_some.mpr ⟨pid', hslot, hq₀, hnone⟩)

theorem UpToDate.withFiles (h : st.UpToDate ps) {files : σ} (hfiles : Agree ps files st.files) :
    (st.withFiles files).UpToDate ps :=
  fun q hq => (h q hq).trans hfiles.symm

/-! ## What others do

Incidents, and stops: they load nothing, and nothing is live afterwards that was down before. -/

/-- What a change leaves alone that no pass has asked for. -/
structure Quiet (ps : ProxySettings) (st st' : Station σ) : Prop where
  files : Agree ps st'.files st.files
  upToDate : st.UpToDate ps → st'.UpToDate ps
  down : st.supervisor.isRunning = false → st'.supervisor.isRunning = false

/-- Nothing is changed that matters. -/
theorem Quiet.of_eq (hfiles : st'.files = st.files) (hsupervisor : st'.supervisor = st.supervisor)
    (hprocesses : st'.processes = st.processes) : Quiet ps st st' where
  files := hfiles ▸ Agree.refl _
  upToDate h := by
    intro q hq
    rw [owned?_congr (congrArg Supervisor.slot hsupervisor) hprocesses] at hq
    rw [hfiles]
    exact h q hq
  down h := by rwa [hsupervisor]

theorem Quiet.undergo {i : Incident σ}
    (hfiles : ∀ files, i = .files files → Agree ps files st.files) :
    Quiet ps st (st.undergo i) := by
  cases i with
  | exit pid code =>
    refine ⟨?_, fun h => h.processExits pid code, fun h => isRunning_processExits_of_not h pid code⟩
    show Agree ps (st.processExits pid code).files st.files
    rw [files_processExits]
    exact Agree.refl _
  | files files =>
    exact ⟨hfiles files rfl, fun h => h.withFiles (hfiles files rfl), id⟩
  | turn pid change =>
    refine ⟨Agree.refl _, fun h => ?_, id⟩
    exact h.onProcess (f := (·.turned change)) (fun _ => rfl) (fun _ => rfl) (fun _ => rfl) pid

/-- A process that is told to stop, or killed, loads nothing. -/
theorem UpToDate.receive {signal : Signal} (h : st.UpToDate ps) (hsignal : signal ≠ .hangup)
    (pid : Nat) (files : σ) : (st.onProcess pid (·.receive signal files)).UpToDate ps :=
  h.onProcess (f := (·.receive signal files)) (fun _ => rfl) (fun _ => rfl)
    (fun _ => if_neg hsignal) pid

/-- A stop leaves nothing live that was down, if it can tell the process where the proxy is down. -/
theorem quiet_beginStop (st : Station σ) {program : Program} {graceful : Bool}
    (htold : st.supervisor.isRunning = false →
      program.refuses (if graceful then .quit else .terminate) = none) :
    Quiet ps st ((st.beginStop program graceful).machine (.stop graceful)).station ∧
      ((st.beginStop program graceful).machine (.stop graceful)).activity.IsOthers := by
  rcases st.beginStop_cases program graceful with ⟨hslot, journal, hbegin⟩ |
    ⟨pid, _, _, journal, hbegin⟩ | ⟨pid, hslot, _, reason, hrefuses, journal, hbegin⟩ |
    ⟨pid, _, _, journal, hbegin⟩
  · rw [hbegin]
    exact ⟨⟨Agree.refl _, fun _ => .of_slot_none hslot, fun _ => rfl⟩, trivial⟩
  · rw [hbegin]
    exact ⟨⟨Agree.refl _, fun _ => .of_slot_none rfl, fun _ => rfl⟩, trivial⟩
  · have howned : (((st.withSlot (some pid)).withPhase .running).withJournal journal).owned? =
        st.owned? := owned?_congr hslot.symm rfl
    have hrunning : ¬ st.supervisor.isRunning = false := by
      intro hdown
      cases (htold hdown).symm.trans hrefuses
    rw [hbegin]
    exact ⟨⟨Agree.refl _, fun h q hq => h q (howned ▸ hq), fun h => absurd h hrunning⟩, trivial⟩
  · rw [hbegin]
    exact ⟨⟨Agree.refl _, fun _ => .of_slot_none rfl, fun _ => rfl⟩, trivial⟩

/-- News of a stop leaves nothing live that was down. -/
theorem quiet_resume (st : Station σ) (s : SupervisorSettings) (program : Program) {op : Operation}
    {a : Await} (n : News) (hothers : (Activity.busy op a).IsOthers) :
    Quiet ps st ((st.resume s program a n).machine op).station ∧
      ((st.resume s program a n).machine op).activity.IsOthers := by
  have hresumed := st.resumed s program a n
  generalize st.resume s program a n = progress at hresumed ⊢
  have hentered : Quiet ps st (st.enter .stopped) := by
    obtain ⟨journal, henter⟩ := st.enter_eq_withJournal .stopped
    rw [henter]
    exact ⟨Agree.refl _, id, fun _ => rfl⟩
  cases hresumed with
  | still => exact ⟨.of_eq rfl rfl rfl, hothers⟩
  | drained => exact ⟨hentered, trivial⟩
  | killed => exact ⟨hentered, trivial⟩
  | @undrained pid =>
    rcases st.insist_cases s program pid with ⟨_, e, journal, hinsist⟩ | ⟨journal, hinsist⟩ |
      ⟨journal, hinsist⟩ <;> rw [hinsist]
    · exact ⟨.of_eq rfl rfl rfl, trivial⟩
    · exact ⟨.of_eq rfl rfl rfl, trivial⟩
    · have hkilled : st.UpToDate ps → (st.onProcess pid (·.receive .kill st.files)).UpToDate ps :=
        fun h => h.receive (by decide) pid st.files
      exact ⟨⟨Agree.refl _, hkilled, id⟩, trivial⟩
  | live | missed | late | fallen | tested => cases hothers

/-! ## What a pass has done

While an operation of a pass is in progress the process that may become the owned one has loaded
the compiled files as they are, or is about to. -/

/-- What holds while an operation of a pass waits. -/
def Bringing (ps : ProxySettings) (st : Station σ) : Bool → Await → Prop
  | true, .live pid => ∀ q, st.process? pid = some q → Agree ps q.loaded st.files
  | true, .fallen _ => True
  | false, .verdict pid => st.supervisor.slot = some pid
  | _, _ => False

/-- What holds when an operation of a pass has come so far: it is in progress, or the owned process
is up to date unless the operation has failed. -/
def Brought (ps : ProxySettings) (starts : Bool) : Progress σ → Prop
  | .ended (result, st) => result = .ok () → st.UpToDate ps
  | .waiting a st => st.Bringing ps starts a

theorem Bringing.undergo {starts : Bool} {a : Await} (h : st.Bringing ps starts a)
    {i : Incident σ} (hfiles : ∀ files, i = .files files → Agree ps files st.files) :
    (st.undergo i).Bringing ps starts a := by
  match starts, a, h with
  | true, .fallen _, _ => trivial
  | false, .verdict pid, h =>
    cases i with
    | exit q code => exact (slot_processExits st q code).trans h
    | files files => exact h
    | turn q change => exact h
  | true, .live pid, h =>
    intro q hq
    cases i with
    | exit pid' code =>
      have hq' : (st.processExits pid' code).process? pid = some q := hq
      rw [process?_processExits] at hq'
      obtain ⟨q₀, hq₀, rfl⟩ := Option.map_eq_some_iff.mp hq'
      show Agree ps _ (st.processExits pid' code).files
      rw [files_processExits]
      split <;> exact h q₀ hq₀
    | files files => exact (h q hq).trans (hfiles files rfl).symm
    | turn pid' change =>
      have hq' : (st.onProcess pid' (·.turned change)).process? pid = some q := hq
      rw [process?_onProcess (f := (·.turned change)) fun _ => rfl] at hq'
      obtain ⟨q₀, hq₀, rfl⟩ := Option.map_eq_some_iff.mp hq'
      show Agree ps _ st.files
      split <;> exact h q₀ hq₀

/-- The pid file is none of the compiled files. -/
def PidFileApart (s : SupervisorSettings) (ps : ProxySettings) : Prop :=
  ∀ path ∈ s.pidPath, ∀ t ∈ ps.outputs, (fileAt t : File σ) ≠ fileAt path

theorem agree_clearPidFile {s : SupervisorSettings} (hpid : PidFileApart (σ := σ) s ps) :
    Agree ps (st.clearPidFile s.pidPath).files st.files := by
  intro t ht
  cases hpath : s.pidPath with
  | none => rfl
  | some path =>
    simp only [clearPidFile]
    split
    · exact remove_other st.files path _ (hpid path hpath t ht)
    · rfl

/-- A start of a proxy that is down is in progress, with a process that loaded the files as they
are, or has failed. -/
theorem brought_beginStart {s : SupervisorSettings} (program : Program)
    (hpid : PidFileApart (σ := σ) s ps) (hdown : st.supervisor.isRunning = false) :
    Brought ps true (st.beginStart s program) ∧
      Agree ps ((st.beginStart s program).machine .start).station.files st.files := by
  have hcleared : Agree ps (st.clearPidFile s.pidPath).files st.files := agree_clearPidFile hpid
  rcases st.beginStart_cases s program with ⟨hrunning, _⟩ | ⟨_, _, hbegin⟩ |
    ⟨_, _, _, e, journal, hbegin⟩ | ⟨_, conduct, _, journal, hbegin⟩
  · rw [hdown] at hrunning
    cases hrunning
  · rw [hbegin]
    exact ⟨nofun, Agree.refl _⟩
  · rw [hbegin]
    exact ⟨nofun, hcleared⟩
  · rw [hbegin]
    refine ⟨fun q hq => ?_, hcleared⟩
    let cleared := (st.clearPidFile s.pidPath).withPhase .starting
    have hnext : st.nextPid = cleared.nextPid := by
      rw [nextPid, nextPid, processes_withPhase, processes_clearPidFile]
    have hq' : (cleared.spawn conduct).process? st.nextPid = some q := hq
    rw [hnext, process?_spawn] at hq'
    obtain rfl := Option.some.inj hq'
    exact Agree.refl _

/-- A process that could be told to reload has loaded the files as they are, if it is alive. -/
theorem upToDate_signalReload {program : Program} (hslot : st.supervisor.slot = some pid) :
    Brought ps false (.ended (st.signalReload program pid)) := by
  rcases st.signalReload_cases program pid with ⟨_, reason, journal, hsignal⟩ |
    ⟨hexit, journal, hsignal⟩ | ⟨_, journal, hsignal⟩ <;> rw [hsignal]
  · exact nofun
  · exact fun _ => .of_exited hslot hexit
  · intro _ q hq
    obtain ⟨pid', hslot', hq', -⟩ := owned?_eq_some.mp hq
    obtain rfl := Option.some.inj (hslot.symm.trans hslot')
    have hfound : (st.onProcess pid (·.receive .hangup st.files)).process? pid = some q := hq'
    rw [process?_onProcess (f := (·.receive .hangup st.files)) fun _ => rfl] at hfound
    obtain ⟨q₀, hq₀, rfl⟩ := Option.map_eq_some_iff.mp hfound
    rw [if_pos (pid_of_process? hq₀)]
    exact Agree.refl _

omit [Browsable σ] [LawfulDisk σ] in
theorem files_signalReload (program : Program) (pid : Nat) :
    (st.signalReload program pid).2.files = st.files := by
  rcases st.signalReload_cases program pid with ⟨_, reason, journal, hsignal⟩ |
    ⟨_, journal, hsignal⟩ | ⟨_, journal, hsignal⟩ <;> rw [hsignal] <;> rfl

/-- A reload has failed, or is in progress, or its process has loaded the files as they are. -/
theorem brought_beginReload (st : Station σ) (s : SupervisorSettings) (program : Program) :
    Brought ps false (st.beginReload s program) ∧
      ((st.beginReload s program).machine .reload).station.files = st.files := by
  rcases st.beginReload_cases s program with ⟨e, hbegin⟩ | ⟨pid, hslot, _, hbegin⟩ |
    ⟨pid, hslot, _, hbegin⟩ <;> rw [hbegin]
  · exact ⟨nofun, rfl⟩
  · exact ⟨hslot, rfl⟩
  · exact ⟨upToDate_signalReload hslot, files_signalReload program pid⟩

/-- News takes an operation of a pass on. -/
theorem Bringing.resume {a : Await} {starts : Bool} (h : st.Bringing ps starts a)
    (s : SupervisorSettings) (program : Program) (op : Operation) (n : News) :
    Brought ps starts (st.resume s program a n) ∧
      ((st.resume s program a n).machine op).station.files = st.files := by
  have hresumed := st.resumed s program a n
  generalize st.resume s program a n = progress at hresumed ⊢
  cases hresumed with
  | still => exact ⟨h, rfl⟩
  | @live pid hexit =>
    cases starts with
    | false => cases h
    | true =>
      obtain ⟨journal, hlive⟩ := st.goLive_eq pid
      rw [hlive]
      refine ⟨fun _ q hq => ?_, rfl⟩
      obtain ⟨pid', hslot, hq', -⟩ := owned?_eq_some.mp hq
      obtain rfl := Option.some.inj hslot
      exact h q hq'
  | @missed pid code hexit =>
    obtain ⟨e, journal, hmiss⟩ := st.missStart_eq pid code
    rw [hmiss]
    exact ⟨nofun, rfl⟩
  | @late pid =>
    cases starts with
    | false => cases h
    | true => exact ⟨trivial, files_send program pid .kill st⟩
  | @fallen pid =>
    obtain ⟨e, journal, hdrop⟩ := st.dropStart_eq s pid
    rw [hdrop]
    exact ⟨nofun, rfl⟩
  | @tested pid run =>
    cases starts with
    | true => cases h
    | false =>
      rcases st.judge_cases program pid run with ⟨e, tested, journal, hjudge⟩ | ⟨tested, hjudge⟩ <;>
        rw [hjudge]
      · exact ⟨nofun, rfl⟩
      · have hslot : (st.withTested tested).supervisor.slot = some pid := h
        exact ⟨upToDate_signalReload hslot, files_signalReload program pid⟩
  | drained | undrained | killed => cases starts <;> cases h

end Station

end Portcullis
