import JebaoFlow.Proof.Sight

/-!
# The journal and the dashboard

The journal is what the observer writes down for itself, the dashboard shows what it told the
service. Both follow its events: the journal by the change of a signature, the dashboard by the
time of a read. As long as a pump's reads come in order the two agree, over restarts as well, since
the journal of the new process goes on where the old one's ended.
-/

namespace JebaoFlow

open HomeAssistant Run

variable {site : Site} {deviceId : String}

/-! ## Reads in order -/

theorem sight_reads (events : List ObserverEvent) : (Sight.of deviceId events).reads
    = (events.filter (fun event => event.deviceId = deviceId)).filterMap ObserverEvent.state := by
  induction events using List.reverseRecOn with
  | nil => rfl
  | append_singleton events event ih =>
      unfold Sight.of at ih ⊢
      rw [List.foldl_append, List.foldl_cons, List.foldl_nil,
        Sight.see_reads _ event (fun _ => 0), ih, List.filter_append, List.filterMap_append]
      unfold deliveredRead
      dsimp only
      by_cases heq : event.deviceId = deviceId
      · rw [if_pos heq, List.filter_cons_of_pos (by simpa using heq)]
        cases hstate : event.state <;> simp [hstate]
      · rw [if_neg heq, List.filter_cons_of_neg (by simpa using heq)]
        rfl

/-- The reads of a pump came in order. -/
def Sight.InOrder (sight : Sight) : Prop :=
  sight.reads.Pairwise (fun a b => a.observedAt < b.observedAt)

/-- In order, the latest read is the last one that was reported. -/
theorem Sight.InOrder.newest {events : List ObserverEvent} (h : (Sight.of deviceId events).InOrder) :
    (Sight.of deviceId events).newest = lastReported events deviceId := by
  unfold Sight.newest acceptedReads
  rw [Records.records_of_pairwise h, sight_reads]
  rfl

/-! ## The journal of a run -/

namespace Installation

/-- The observer's steps keep its records. -/
def Keeps (h : Installation site) : Event → Prop
  | .observer action _ => KeepsRecords h.observer action
  | .deployment _ => True

/-- **The journal stays true, also over a restart.** -/
theorem journalInv_installation {h : Installation site} (event : Event)
    (hinv : JournalInv site.cfg h.observer) (hkeeps : h.Keeps event) :
    JournalInv site.cfg (h.step event).observer := by
  cases event with
  | observer action clks => exact journalInv_step hinv hkeeps
  | deployment event =>
      cases event with
      | daemon event => cases event <;> exact hinv
      | restart clk =>
          unfold step
          dsimp only
          split
          · exact journalInv_file h.observer.file
          · exact hinv
      | will | subscribe | lose | deliver | reload => exact hinv

theorem journal_exec {service : ServiceState} {events : List Event}
    (hkeeps : Each step Keeps (start service : Installation site) events) :
    JournalInv site.cfg (exec step (start service : Installation site) events).observer := by
  have hstep : ∀ (h : Installation site) event, h.Keeps event → JournalInv site.cfg h.observer →
      JournalInv site.cfg (h.step event).observer :=
    fun _ event hkept hinv => journalInv_installation event hinv hkept
  exact (always_of_each hstep (fun _ hinv => hinv) hkeeps journalInv_init).last

end Installation

/-! ## What both say -/

/-- What the entities of a pump show of what was recorded. -/
structure RecordShown (conv : Conversions) (site : Site) (runtime : LiveRuntime)
    (device : DeviceConfig) (online : Bool) (recorded : DeviceState) : Prop where
  running : DeviceRunningSensor.isOn runtime (site.deviceEntity device "actual_running")
    = if online then some recorded.enabled else none
  actualPower : ActualPowerSensor.nativeValue runtime (site.deviceEntity device "actual_power")
    = .ok (some (recorded.power.val : ℤ))
  actualMode : ActualModeSensor.nativeValue conv runtime (site.deviceEntity device "actual_mode")
    = some (PyStr.ofString recorded.mode)

theorem SameSignature.operation {a b : DeviceState} (h : SameSignature a b) :
    a.enabled = b.enabled ∧ a.power = b.power ∧ a.mode = b.mode := by
  rcases h with rfl | h
  · exact ⟨rfl, rfl, rfl⟩
  · unfold DeviceState.sameSignature at h
    simp only [Bool.and_eq_true, beq_iff_eq] at h
    obtain ⟨⟨⟨⟨⟨⟨henabled, hpower⟩, hmode⟩, _⟩, _⟩, _⟩, _⟩ := h
    exact ⟨henabled, hpower, hmode⟩

/-- A pump that was read and whose newest read has the signature of what was recorded. -/
theorem SightShown.recorded {conv : Conversions} {runtime : LiveRuntime} {device : DeviceConfig}
    {online : Bool} {sight : Sight} {state recorded : DeviceState}
    (h : SightShown conv site runtime device online sight) (hnewest : sight.newest = some state)
    (hsame : SameSignature recorded state) :
    RecordShown conv site runtime device (online && decide (sight.answers = some true)) recorded := by
  obtain ⟨henabled, hpower, hmode⟩ := hsame.operation
  refine ⟨?_, ?_, ?_⟩
  · rw [h.running, hnewest, henabled]
    simp only [Bool.and_eq_true, decide_eq_true_eq, Option.map_some]
  · rw [h.actualPower, hnewest, hpower]
    rfl
  · rw [h.actualMode, hnewest, hmode]
    rfl

/--
**The dashboard and the journal agree.**

Take any run of the whole installation, restarts included, in which no record of the observer is
lost or overtaken by one that says something else. Whenever the daemon has nothing left to publish,
everything has arrived and nothing is being appended to the journal, what the entities show of a
pump that was read since the last start, with its reads in order, is what the journal recorded of it
last.
-/
theorem dashboard_agrees_with_journal {clk : Clock} {service : ServiceState}
    (hinit : GroupControlService.init site.cfg site.units clk = .ok service) (conv : Conversions)
    {events : List Installation.Event}
    (hkeeps : Each Installation.step Installation.Keeps
      (Installation.start service : Installation site) events) :
    let h := exec Installation.step (Installation.start service : Installation site) events
    h.deployment.AtRest → h.observer.appending = false →
      ∃ stopping, h.deployment.adapter.link = .online stopping .waiting .waiting
        ∧ ∀ device ∈ site.cfg.devices, (Sight.of device.id h.observer.events).InOrder →
          (Sight.of device.id h.observer.events).reads ≠ [] →
          ∃ recorded, lastRecorded h.observer.file device.id = some recorded
            ∧ RecordShown conv site h.deployment.home.state.1 device
              (!stopping && decide ((Sight.of device.id h.observer.events).answers = some true))
              recorded := by
  intro h hrest hidle
  have hinv : h.Inv := Installation.inv_exec hinit events
  have hjournal : JournalInv site.cfg h.observer := Installation.journal_exec hkeeps
  obtain ⟨stopping, hlink, hshown⟩ := dashboard_rest hinv conv hrest
  refine ⟨stopping, hlink, fun device hdevice horder hread => ?_⟩
  obtain ⟨state, hstate⟩ : ∃ state, (Sight.of device.id h.observer.events).newest = some state := by
    unfold Sight.newest acceptedReads
    rw [Records.records_of_pairwise horder]
    exact Option.isSome_iff_exists.mp (List.getLast?_isSome.mpr hread)
  obtain ⟨recorded, hrecorded, hsame⟩ := hjournal.current hidle device.id state
    (horder.newest.symm.trans hstate)
  exact ⟨recorded, hrecorded, (hshown device hdevice).recorded hstate hsame⟩

theorem dashboard_agrees_with_journal_wavemakers : ∃ recorded,
    lastRecorded wavemakersAfter.observer.file "left" = some recorded
      ∧ ActualPowerSensor.nativeValue wavemakersAfter.deployment.home.state.1
        ((tankSite pairedTank).deviceEntity leftWavemaker "actual_power")
          = .ok (some (recorded.power.val : ℤ)) := by
  have hinit := @startState_eq pairedTank steadyUnits (fun _ => 0) (by decide +kernel)
  have hkeeps : Each Installation.step Installation.Keeps
      (Installation.start (startState pairedTank steadyUnits (fun _ => 0)) :
        Installation (tankSite pairedTank)) wavemakersRun := by
    refine ⟨trivial, trivial, trivial, trivial, trivial, trivial, trivial, trivial, trivial, trivial,
      ?_, ?_, ?_, ?_, ?_, ?_, ?_, keepsRecords_of_oldest (by decide +kernel), ?_,
      trivial, trivial, trivial, trivial, trivial, trivial, trivial, trivial, trivial⟩
    all_goals exact keepsRecords_of (by simp) (by simp)
  obtain ⟨_, _, hshown⟩ := @dashboard_agrees_with_journal (tankSite pairedTank) _ _ hinit
    plainConversions _ hkeeps wavemakersAfter_atRest (by decide +kernel)
  obtain ⟨recorded, hrecorded, hrecord⟩ := hshown leftWavemaker (List.mem_cons_self ..)
    (List.pairwise_singleton _ (wavemakerAt 30)) (List.cons_ne_nil (wavemakerAt 30) [])
  exact ⟨recorded, hrecorded, hrecord.actualPower⟩

end JebaoFlow
