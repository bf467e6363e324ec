import JebaoFlow.Proof.Loops

/-!
# What an observation can do

`ObserveOutcome` lists the ways `record_observer_event` can go from a state that
satisfies `ServiceInv`: the event is ignored, or it is merged into one device
record and the records of the device's groups are rewritten or left alone.
-/

namespace JebaoFlow

open PyFloat

variable {cfg : AppConfig} {units : UnitSource}

/-! ## Outcomes -/

/-- The record an event makes of the current one, and whether that is a semantic change. -/
def mergeEvent (current : DeviceStatePayload) (event : ObserverEvent) :
    DeviceStatePayload × Bool :=
  match event.state with
  | some state => mergeRead current state
  | none => mergeReport current event

/-- The event is a read newer than what is recorded, or a status report. -/
def Fresh (current : DeviceStatePayload) (event : ObserverEvent) : Prop :=
  ∀ state, event.state = some state → isStale current state = false

instance (current : DeviceStatePayload) (event : ObserverEvent) :
    Decidable (Fresh current event) :=
  match h : event.state with
  | none => isTrue (fun state hs => by rw [h] at hs; cases hs)
  | some state => decidable_of_iff (isStale current state = false)
      ⟨fun hf state' hs => by rw [h] at hs; cases hs; exact hf, fun hf => hf state h⟩

/-- The event recomputes the health of the device's groups. -/
def refreshes (current : DeviceStatePayload) (event : ObserverEvent) : Bool :=
  event.state.isSome || (mergeEvent current event).2

/-- The state a merged event leaves. -/
structure Merged (cfg : AppConfig) (units : UnitSource) (clk : Clock) (event : ObserverEvent)
    (current : DeviceStatePayload) (s s' : ServiceState) : Prop where
  device : s'.deviceStates = s.deviceStates.set event.deviceId (mergeEvent current event).1
  refreshed : refreshes current event = true →
    Refreshed cfg units clk (observedGroup (mergeEvent current event).2) current.groupIds
      s'.deviceStates s.states s'.states
  unrefreshed : refreshes current event = false → s'.states = s.states
  results : s'.results = s.results
  deviceResults : s'.deviceResults = s.deviceResults
  published : ∀ did seen, s.lastPublishedSeenAt.get? did = some seen →
    ∃ seen', s'.lastPublishedSeenAt.get? did = some seen'

inductive ObserveOutcome (cfg : AppConfig) (units : UnitSource) (clk : Clock)
    (event : ObserverEvent) (s : ServiceState) : Except PyError Unit → ServiceState → Prop where
  | unknown (hdevice : s.deviceStates.get? event.deviceId = none) :
      ObserveOutcome cfg units clk event s (.ok ()) s
  | stale {current : DeviceStatePayload}
      (hcur : s.deviceStates.get? event.deviceId = some current)
      (hstale : ¬ Fresh current event) :
      ObserveOutcome cfg units clk event s (.ok ()) s
  | merged {d : DeviceConfig} {current : DeviceStatePayload} {s' : ServiceState}
      (hd : d ∈ cfg.devices) (hid : d.id = event.deviceId)
      (hcur : s.deviceStates.get? event.deviceId = some current)
      (hfresh : Fresh current event) (hmerged : Merged cfg units clk event current s s') :
      ObserveOutcome cfg units clk event s (.ok ()) s'

/-! ## What a merge leaves alone -/

/-- An observation writes none of the desired fields. -/
theorem mergeEvent_fields (current : DeviceStatePayload) (event : ObserverEvent) :
    (mergeEvent current event).1.deviceId = current.deviceId
      ∧ (mergeEvent current event).1.groupIds = current.groupIds
      ∧ (mergeEvent current event).1.enabled = current.enabled
      ∧ (mergeEvent current event).1.power = current.power
      ∧ (mergeEvent current event).1.controlMode = current.controlMode
      ∧ (mergeEvent current event).1.lastRequestId = current.lastRequestId := by
  unfold mergeEvent
  cases event.state with
  | none => exact ⟨rfl, rfl, rfl, rfl, rfl, rfl⟩
  | some state => exact ⟨rfl, rfl, rfl, rfl, rfl, rfl⟩

/-- The health report never says emergency stop. -/
theorem observedStatus_ne_emergencyStop (members : List GroupMemberState) :
    observedStatus members ≠ .emergencyStop := by
  unfold observedStatus
  dsimp only
  repeat' split
  all_goals exact fun h => GroupState.noConfusion h

/-! ## The inversion -/

/-- `_mark_dirty` touches the publication marks only. -/
theorem markDirty_if (publish : Bool) (s : ServiceState) (dids gids : List String) :
    ∃ devices groups flag, (if publish then markDirty s dids gids else s)
      = { s with dirtyDevices := devices, dirtyGroups := groups, updateEvent := flag } := by
  cases publish with
  | true => exact ⟨_, _, _, rfl⟩
  | false => exact ⟨_, _, _, rfl⟩

theorem recordHeartbeat_ok {d : DeviceConfig} {event : ObserverEvent} {s : ServiceState}
    (changed : Bool) (hinv : ServiceInv cfg s) (hd : d ∈ cfg.devices)
    (hid : d.id = event.deviceId) (deviceStates : Dict String DeviceStatePayload) :
    ∃ heartbeat published, recordHeartbeat cfg event changed { s with deviceStates := deviceStates }
        = .ok (heartbeat, { s with
            deviceStates := deviceStates
            lastPublishedSeenAt := published })
      ∧ ∀ did seen, s.lastPublishedSeenAt.get? did = some seen →
          ∃ seen', published.get? did = some seen' := by
  unfold recordHeartbeat
  cases event.state with
  | none => exact ⟨false, s.lastPublishedSeenAt, rfl, fun _ seen h => ⟨seen, h⟩⟩
  | some state =>
      obtain ⟨last, hlast⟩ := hinv.published d hd
      rw [hid] at hlast
      dsimp only
      rw [hlast]
      dsimp only
      cases hpub : changed || heartbeatDue cfg last state.observedAt with
      | false => exact ⟨_, s.lastPublishedSeenAt, rfl, fun _ seen h => ⟨seen, h⟩⟩
      | true =>
          refine ⟨_, s.lastPublishedSeenAt.set event.deviceId (some state.observedAt), rfl, ?_⟩
          intro did seen h
          rw [Dict.get?_set]
          by_cases he : event.deviceId = did
          · rw [if_pos he]
            exact ⟨_, rfl⟩
          · rw [if_neg he]
            exact ⟨seen, h⟩

theorem storeObservation_ok (units : UnitSource) (clk : Clock) {d : DeviceConfig}
    {event : ObserverEvent} {current : DeviceStatePayload} {s : ServiceState}
    (hinv : ServiceInv cfg s) (hd : d ∈ cfg.devices) (hid : d.id = event.deviceId)
    (hcur : s.deviceStates.get? event.deviceId = some current) :
    ∃ s', storeObservation cfg units clk event (mergeEvent current event).1
        (mergeEvent current event).2 s = (.ok (), s')
      ∧ Merged cfg units clk event current s s' := by
  have hdinv := hinv.deviceInv hd (hid ▸ hcur)
  obtain ⟨_, hgroups, _⟩ := mergeEvent_fields current event
  -- the heartbeat lookup succeeds: every configured device has an entry
  obtain ⟨heartbeat, published, hheart, hpublished⟩ := recordHeartbeat_ok (mergeEvent current event).2
    hinv hd hid (s.deviceStates.set event.deviceId (mergeEvent current event).1)
  unfold storeObservation
  dsimp only
  rw [hheart]
  dsimp only
  -- whether or not it publishes, marking only writes the dirty sets and the event
  obtain ⟨dd, dg, flag, hdirty⟩ := markDirty_if ((mergeEvent current event).2 || heartbeat)
    { s with
      deviceStates := s.deviceStates.set event.deviceId (mergeEvent current event).1
      lastPublishedSeenAt := published } [event.deviceId] []
  rw [hdirty, hgroups]
  cases hrefresh : event.state.isSome || (mergeEvent current event).2 with
  | false =>
      rw [if_neg Bool.false_ne_true]
      dsimp only
      obtain ⟨dd', dg', flag', hdirty'⟩ := markDirty_if ((mergeEvent current event).2 || heartbeat)
        { s with
          deviceStates := s.deviceStates.set event.deviceId (mergeEvent current event).1
          lastPublishedSeenAt := published
          dirtyDevices := dd
          dirtyGroups := dg
          updateEvent := flag } [] current.groupIds
      rw [hdirty']
      refine ⟨_, rfl, rfl, fun h => ?_, fun _ => rfl, rfl, rfl, hpublished⟩
      exact absurd (hrefresh.symm.trans h) Bool.false_ne_true
  | true =>
      rw [if_pos rfl]
      obtain ⟨states, hloop, href⟩ := refreshLoop_ok units clk
        (observedGroup (mergeEvent current event).2) current.groupIds 0
        { s with
          deviceStates := s.deviceStates.set event.deviceId (mergeEvent current event).1
          lastPublishedSeenAt := published
          dirtyDevices := dd
          dirtyGroups := dg
          updateEvent := flag } hdinv.groupIds_nodup
        (fun gid hgid => by
          obtain ⟨g, _, _, _, state, hstate, hg⟩ := hinv.named_group hdinv hgid
          exact ⟨g, state, hstate, hg⟩)
      unfold refreshGroupObservation
      rw [hloop]
      dsimp only
      obtain ⟨dd', dg', flag', hdirty'⟩ := markDirty_if ((mergeEvent current event).2 || heartbeat)
        { s with
          states := states
          deviceStates := s.deviceStates.set event.deviceId (mergeEvent current event).1
          lastPublishedSeenAt := published
          dirtyDevices := dd
          dirtyGroups := dg
          updateEvent := flag } [] current.groupIds
      rw [hdirty']
      refine ⟨_, rfl, rfl, fun _ => href, fun h => ?_, rfl, rfl, hpublished⟩
      exact absurd (hrefresh.symm.trans h) (fun hc => Bool.noConfusion hc)

/-- **Every call of `record_observer_event` is one of the listed outcomes.** -/
theorem recordObserverEvent_outcome (units : UnitSource) (clk : Clock) (event : ObserverEvent)
    {s : ServiceState} (hinv : ServiceInv cfg s) :
    ObserveOutcome cfg units clk event s (recordObserverEvent cfg units clk event s).1
      (recordObserverEvent cfg units clk event s).2 := by
  unfold recordObserverEvent
  cases hcur : s.deviceStates.get? event.deviceId with
  | none => exact .unknown hcur
  | some current =>
      -- a device with a record is a configured one, so its merge goes through
      obtain ⟨d, hid, hdinv⟩ := hinv.device event.deviceId current hcur
      obtain ⟨s', hstore, hmerged⟩ := storeObservation_ok units clk hinv hdinv.mem hid hcur
      dsimp only
      cases hstate : event.state with
      | some state =>
          dsimp only
          by_cases hstale : isStale current state = true
          · rw [if_pos hstale]
            refine .stale hcur (fun hf => ?_)
            rw [hf state hstate] at hstale
            exact Bool.noConfusion hstale
          · rw [if_neg hstale]
            have hmerge : mergeEvent current event = mergeRead current state := by
              unfold mergeEvent
              rw [hstate]
            rw [hmerge] at hstore
            rw [hstore]
            refine .merged hdinv.mem hid hcur (fun state' h => ?_) hmerged
            rw [hstate] at h
            cases h
            exact Bool.not_eq_true _ ▸ hstale
      | none =>
          have hmerge : mergeEvent current event = mergeReport current event := by
            unfold mergeEvent
            rw [hstate]
          rw [hmerge] at hstore
          dsimp only
          rw [hstore]
          refine .merged hdinv.mem hid hcur (fun state' h => ?_) hmerged
          rw [hstate] at h
          cases h

end JebaoFlow
