import Portcullis.Proofs.Supervision.Performance
import Portcullis.Proofs.Supervision.Probe
import Portcullis.Settings.Check
import Portcullis.Supervision.Conduct

/-!
# Starts with accepted settings

Settings are accepted one by one, whereas a start goes well only if the process is polled before its
time is up.

* `SupervisorSettings.pollInterval_le_iff` says when there is a poll in time.
* `Probe.wait_of_early` and `Probe.wait_of_late` say what polling comes to where no pid file is
  needed, so that the first poll decides if there is one.
* `Station.start_live` and `Station.start_timedOut` are the two ways for a start to end then.
* `Station.start_of_accepted` says which of the two it is, and `Station.start_unpolled` is a start
  with accepted settings that kills a healthy process.
-/

namespace Portcullis

/-! ## Accepted settings -/

theorem demand_eq_nil_iff {condition : Bool} {field message : String} :
    demand condition field message = [] ↔ condition = true := by
  cases condition with
  | true => exact iff_of_true rfl rfl
  | false => exact iff_of_false (List.cons_ne_nil _ _) Bool.false_ne_true

/-- Accepted settings have some time between two polls. -/
theorem Settings.probeInterval_of_complaints {s : Settings} {files : Files}
    (h : s.complaints files = []) : 0 < s.supervisor.probeIntervalMs.toNat := by
  simp only [Settings.complaints, SupervisorSettings.complaints, List.append_eq_nil_iff,
    demand_eq_nil_iff, bne_iff_ne, ne_eq] at h
  obtain ⟨⟨⟨_, _, hpoll⟩, _⟩, _⟩ := h
  rw [← UInt64.toNat_inj] at hpoll
  exact Nat.pos_of_ne_zero hpoll

namespace SupervisorSettings

variable {s : SupervisorSettings}

theorem pollInterval_eq (h : 0 < s.probeIntervalMs.toNat) :
    s.pollInterval = .ofMillis s.probeIntervalMs.toNat := by
  have hmax : max s.probeIntervalMs.toNat 1 = s.probeIntervalMs.toNat := by omega
  rw [pollInterval, hmax]

/-- There is a poll before the time is up if the interval, in milliseconds, fits in the seconds. -/
theorem pollInterval_le_iff (h : 0 < s.probeIntervalMs.toNat) :
    s.pollInterval.nanos ≤ s.startTimeout.nanos ↔
      s.probeIntervalMs.toNat ≤ s.startTimeoutSecs.toNat * 1000 := by
  rw [pollInterval_eq h]
  show s.probeIntervalMs.toNat * 1000000 ≤ s.startTimeoutSecs.toNat * 1000000000 ↔ _
  omega

/-- Where no file is named none has to be there. -/
theorem pidPath_eq_none (h : s.pidFile = none) : s.pidPath = none := by
  rw [pidPath, h]
  rfl

theorem pollInterval_pos (s : SupervisorSettings) : 0 < s.pollInterval.nanos := by
  show 0 < max s.probeIntervalMs.toNat 1 * 1000000
  omega

end SupervisorSettings

/-! ## Polling without a pid file -/

/-- What does not come by some time has not come before. -/
theorem dueBy_of_le {α : Type} {due : Option (Span × α)} {time before : Nat} (hle : before ≤ time)
    (h : dueBy due time = none) : dueBy due before = none := by
  cases due with
  | none => rfl
  | some moment =>
    unfold dueBy at h ⊢
    simp only [ite_eq_right_iff, reduceCtorEq, imp_false] at h ⊢
    omega

namespace Probe

variable {exits : Option (Span × ExitCode)} {interval deadline : Span}

/-- A process that is alive at the first poll is live. -/
theorem wait_of_early (hinterval : 0 < interval.nanos) (hle : interval.nanos ≤ deadline.nanos)
    (halive : dueBy exits interval.nanos = none) :
    wait exits (fun _ => true) interval deadline = (.live, interval) := by
  have hfirst : IsLeast {k | Decides exits (fun _ => true) interval k} 1 :=
    ⟨⟨Nat.one_pos, .inr rfl⟩, fun k hk => hk.1⟩
  rw [← Nat.one_mul interval.nanos] at halive hle
  rw [wait_of_first hinterval hfirst hle, halive, Nat.one_mul]

/-- Without a poll before the deadline time is up. -/
theorem wait_of_late (isPresent : Nat → Bool) (hinterval : 0 < interval.nanos)
    (hlt : deadline.nanos < interval.nanos) :
    wait exits isPresent interval deadline = (.timedOut, deadline) := by
  rcases wait_cases exits isPresent deadline hinterval with
    ⟨k, hfirst, hdeadline, _⟩ | ⟨_, hlate⟩
  · have hk : 1 * interval.nanos ≤ k * interval.nanos := Nat.mul_le_mul_right _ hfirst.1.1
    omega
  · exact hlate

end Probe

/-! ## Starting -/

namespace Station

variable {σ : Type} {s : SupervisorSettings} {program : Program} {st : Station σ}
  {conduct : Conduct}

/-- A station whose supervisor has just started a process. -/
def launched (st : Station σ) (conduct : Conduct) : Station σ :=
  (st.withPhase .starting).spawn conduct

theorem isAlive_launched (st : Station σ) (conduct : Conduct) :
    (st.launched conduct).isAlive st.nextPid = true :=
  isAlive_spawn conduct

theorem conductOf_launched [Browsable σ] (st : Station σ) (conduct : Conduct) :
    (st.launched conduct).conductOf st.nextPid = conduct := by
  rw [conductOf, launched]
  show ((((st.withPhase .starting).spawn conduct).process?
    (st.withPhase .starting).nextPid).map _).getD _ = conduct
  rw [process?_spawn]
  rfl

variable [Browsable σ]

/-- A start that can run the binary waits for the new process. -/
theorem start_eq (hpidFile : s.pidFile = none) (hdown : st.supervisor.isRunning = false)
    (hbinary : s.lacksBinary st.files = false)
    (hrun : program.run s.runArguments = .ok conduct) :
    ∃ journal, st.start s program =
      ((st.launched conduct).withJournal journal).awaitLive s program st.nextPid := by
  have hpath := SupervisorSettings.pidPath_eq_none hpidFile
  rcases st.beginStart_cases s program with ⟨hrunning, _⟩ | ⟨_, hlacks, _⟩ | ⟨_, f, hfails, _⟩ |
    ⟨_, conduct', hruns, journal, hbegin⟩
  · rw [hdown] at hrunning
    cases hrunning
  · rw [hbinary] at hlacks
    cases hlacks
  · rw [hrun] at hfails
    cases hfails
  · rw [hrun] at hruns
    cases hruns
    rw [hpath] at hbegin
    refine ⟨journal, ?_⟩
    show finish s program (st.beginStart s program) = _
    rw [hbegin]
    rfl

/-- Without a pid file the polling of a new process looks at its exit alone. -/
theorem probe_launched (hpidFile : s.pidFile = none) (journal : Telemetry.Journal) :
    ((st.launched conduct).withJournal journal).probe s st.nextPid =
      Probe.wait conduct.exits (fun _ => true) s.pollInterval s.startTimeout := by
  have hconduct : ((st.launched conduct).withJournal journal).conductOf st.nextPid = conduct :=
    conductOf_launched st conduct
  have hsees : ∀ files : σ, s.seesPidFile files = true := by
    intro files
    rw [SupervisorSettings.seesPidFile, SupervisorSettings.pidPath_eq_none hpidFile]
  simp only [probe, hconduct, hsees]

/-- What polling found is what a start comes to. -/
theorem awaitLive_eq {pid : Nat} {found : Probe} {t : Span}
    (hprobe : st.probe s pid = (found, t)) :
    st.awaitLive s program pid = (st.await pid t).conclude s program pid found := by
  unfold awaitLive
  rw [hprobe]

/-- A process that is alive at the first poll is owned from then on. -/
theorem start_live (hpidFile : s.pidFile = none) (hdown : st.supervisor.isRunning = false)
    (hbinary : s.lacksBinary st.files = false)
    (hrun : program.run s.runArguments = .ok conduct)
    (halive : dueBy conduct.exits s.pollInterval.nanos = none)
    (hpolled : s.pollInterval.nanos ≤ s.startTimeout.nanos) :
    (st.start s program).1 = .ok () ∧
      (st.start s program).2.supervisor.phase = .running ∧
      (st.start s program).2.supervisor.slot = some st.nextPid ∧
      (st.start s program).2.isAlive st.nextPid = true := by
  obtain ⟨journal, hstart⟩ := start_eq hpidFile hdown hbinary hrun
  have hnew : ((st.launched conduct).withJournal journal).isAlive st.nextPid = true :=
    isAlive_launched st conduct
  have hconduct : ((st.launched conduct).withJournal journal).conductOf st.nextPid = conduct :=
    conductOf_launched st conduct
  have hprobe : ((st.launched conduct).withJournal journal).probe s st.nextPid =
      (.live, s.pollInterval) := by
    rw [probe_launched hpidFile]
    exact Probe.wait_of_early s.pollInterval_pos hpolled halive
  have hawait : ((st.launched conduct).withJournal journal).await st.nextPid s.pollInterval =
      ((st.launched conduct).withJournal journal).idleFor st.nextPid s.pollInterval := by
    rw [await_eq (isAlive_iff.mp hnew).2, hconduct, halive]
  obtain ⟨journal', hlive⟩ := goLive_eq
    (((st.launched conduct).withJournal journal).idleFor st.nextPid s.pollInterval) st.nextPid
  rw [hstart, awaitLive_eq hprobe, hawait, conclude, hlive]
  exact ⟨rfl, rfl, rfl, isAlive_idleFor hnew s.pollInterval⟩

/-- Without a poll before its time is up a process is killed. -/
theorem start_timedOut (hpidFile : s.pidFile = none) (hdown : st.supervisor.isRunning = false)
    (hbinary : s.lacksBinary st.files = false)
    (hrun : program.run s.runArguments = .ok conduct)
    (hunpolled : s.startTimeout.nanos < s.pollInterval.nanos) :
    (st.start s program).1 = .error (.probeTimeout s.startTimeout) ∧
      (st.start s program).2.supervisor.phase = .stopped := by
  obtain ⟨journal, hstart⟩ := start_eq hpidFile hdown hbinary hrun
  have hprobe : ((st.launched conduct).withJournal journal).probe s st.nextPid =
      (.timedOut, s.startTimeout) := by
    rw [probe_launched hpidFile]
    exact Probe.wait_of_late _ s.pollInterval_pos hunpolled
  rw [hstart, awaitLive_eq hprobe, conclude, dropStart, supervisor_report, phase_enter]
  exact ⟨rfl, rfl⟩

/-- With accepted settings that name no pid file, a binary that can be run, and a process that does
not exit by itself before its time is up, a start goes well exactly if the interval between polls is
no longer than the time for starting: the process is live and owned. Else it is killed unpolled. -/
theorem start_of_accepted {settings : Settings} {files : Files}
    (haccepted : settings.complaints files = [])
    (hpidFile : settings.supervisor.pidFile = none)
    (hdown : st.supervisor.isRunning = false)
    (hbinary : settings.supervisor.lacksBinary st.files = false)
    (hrun : program.run settings.supervisor.runArguments = .ok conduct)
    (hstays : dueBy conduct.exits settings.supervisor.startTimeout.nanos = none) :
    (settings.supervisor.probeIntervalMs.toNat ≤
        settings.supervisor.startTimeoutSecs.toNat * 1000 →
      (st.start settings.supervisor program).1 = .ok () ∧
        (st.start settings.supervisor program).2.supervisor.phase = .running ∧
        (st.start settings.supervisor program).2.supervisor.slot = some st.nextPid ∧
        (st.start settings.supervisor program).2.isAlive st.nextPid = true) ∧
    (settings.supervisor.startTimeoutSecs.toNat * 1000 <
        settings.supervisor.probeIntervalMs.toNat →
      (st.start settings.supervisor program).1 =
          .error (.probeTimeout settings.supervisor.startTimeout) ∧
        (st.start settings.supervisor program).2.supervisor.phase = .stopped) := by
  have hpositive := Settings.probeInterval_of_complaints haccepted
  have hpolled := SupervisorSettings.pollInterval_le_iff hpositive
  constructor
  · intro hfits
    have hle := hpolled.mpr hfits
    exact start_live hpidFile hdown hbinary hrun (dueBy_of_le hle hstays) hle
  · intro hlonger
    refine start_timedOut hpidFile hdown hbinary hrun ?_
    by_contra hle
    have hfits := hpolled.mp (Nat.not_lt.mp hle)
    omega

/-- A binary by its bare name, and everything else as it is by default. -/
def bareName : Settings :=
  { supervisor := { binary := "nginx" } }

/-- Nothing has been started yet, and there are no files. -/
def unstarted : Station Files :=
  { files := Files.empty, journal := .empty }

/-- With the times as they are by default a process that runs on is live. -/
theorem start_of_accepted_bareName :
    bareName.complaints Files.empty = [] ∧
      bareName.supervisor.lacksBinary unstarted.files = false ∧
      (unstarted.start bareName.supervisor (.always .silent)).1 = .ok () ∧
      (unstarted.start bareName.supervisor (.always .silent)).2.supervisor.phase = .running := by
  have haccepted : bareName.complaints Files.empty = [] := by decide +kernel
  have hbinary : bareName.supervisor.lacksBinary unstarted.files = false := by decide
  have hdown : unstarted.supervisor.isRunning = false := rfl
  have hrun : (Program.always .silent).run bareName.supervisor.runArguments = .ok .silent := rfl
  have hlive := (start_of_accepted haccepted rfl hdown hbinary hrun rfl).1 (by decide)
  exact ⟨haccepted, hbinary, hlive.1, hlive.2.1⟩

/-- One second to start, and a poll every one and a half. -/
def hurried : Settings :=
  { supervisor := { binary := "nginx", startTimeoutSecs := 1, probeIntervalMs := 1500 } }

/-- Such settings are accepted. A process that would have run on is killed before the first poll. -/
theorem start_unpolled :
    hurried.complaints Files.empty = [] ∧
      hurried.supervisor.pidFile = none ∧
      hurried.supervisor.lacksBinary unstarted.files = false ∧
      Conduct.silent.exits = none ∧
      (unstarted.start hurried.supervisor (.always .silent)).1 =
        .error (.probeTimeout (.ofSeconds 1)) ∧
      (unstarted.start hurried.supervisor (.always .silent)).2.supervisor.phase = .stopped ∧
      (unstarted.start hurried.supervisor (.always .silent)).2.exit? unstarted.nextPid =
        some none := by
  have hbinary : hurried.supervisor.lacksBinary unstarted.files = false := by decide
  have hlate : hurried.supervisor.startTimeout.nanos < hurried.supervisor.pollInterval.nanos := by
    decide
  have hdown : unstarted.supervisor.isRunning = false := rfl
  have hrun : (Program.always .silent).run hurried.supervisor.runArguments = .ok .silent := rfl
  have hkilled := start_timedOut rfl hdown hbinary hrun hlate
  refine ⟨by decide +kernel, rfl, hbinary, rfl, hkilled.1, hkilled.2, ?_⟩
  decide

end Station

end Portcullis
