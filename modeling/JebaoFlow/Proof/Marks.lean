import JebaoFlow.Proof.Answers
import JebaoFlow.Proof.Revisions

/-!
# What is marked for publication

An observation marks a device and its groups when it changes their content, and
otherwise moves only what a subscriber is not owed. Nothing else marks anything,
and a command leaves the marks as they are: whoever hands the command in has to
publish what it wrote.
-/

namespace JebaoFlow

variable {cfg : AppConfig} {units : UnitSource}

/-! ## The dirty sets -/

/-- Marks are added, none is taken away. -/
structure MarksMore (s s' : ServiceState) : Prop where
  devices : s.dirtyDevices ⊆ s'.dirtyDevices
  groups : s.dirtyGroups ⊆ s'.dirtyGroups

theorem MarksMore.trans {s s' s'' : ServiceState} (h : MarksMore s s') (h' : MarksMore s' s'') :
    MarksMore s s'' :=
  ⟨h.devices.trans h'.devices, h.groups.trans h'.groups⟩

theorem SameBesides.marksMore {s s' : ServiceState} (h : SameBesides s s') : MarksMore s s' :=
  ⟨h.dirtyDevices ▸ Finset.Subset.refl _, h.dirtyGroups ▸ Finset.Subset.refl _⟩

theorem markDirty_if_marksMore (publish : Bool) (s : ServiceState) (dids gids : List String) :
    MarksMore s (if publish then markDirty s dids gids else s) := by
  cases publish with
  | true => exact ⟨Finset.subset_union_left, Finset.subset_union_left⟩
  | false => exact ⟨Finset.Subset.refl _, Finset.Subset.refl _⟩

/-- A merge that is stored adds marks, and one that changes anything marks all it touches. -/
theorem storeObservation_marks {clk : Clock} {event : ObserverEvent} {updated : DeviceStatePayload}
    {changed : Bool} {s s' : ServiceState}
    (h : storeObservation cfg units clk event updated changed s = (.ok (), s')) :
    MarksMore s s' ∧ (changed = true → event.deviceId ∈ s'.dirtyDevices
      ∧ ∀ gid ∈ updated.groupIds, gid ∈ s'.dirtyGroups) := by
  unfold storeObservation at h
  dsimp only at h
  split at h
  · cases h
  · rename_i heartbeat s₂ hheart
    obtain ⟨published, rfl⟩ := recordHeartbeat_writes hheart
    have hfirst := markDirty_if_marksMore (changed || heartbeat) { s with
      deviceStates := s.deviceStates.set event.deviceId updated
      lastPublishedSeenAt := published } [event.deviceId] []
    have hdevice : changed = true → event.deviceId ∈ (if changed || heartbeat then markDirty { s with
        deviceStates := s.deviceStates.set event.deviceId updated
        lastPublishedSeenAt := published } [event.deviceId] [] else { s with
          deviceStates := s.deviceStates.set event.deviceId updated
          lastPublishedSeenAt := published }).dirtyDevices := by
      intro hchanged
      rw [hchanged, Bool.true_or, if_pos rfl]
      unfold markDirty
      exact Finset.mem_union_right _ (by simp)
    generalize (if changed || heartbeat then markDirty { s with
        deviceStates := s.deviceStates.set event.deviceId updated
        lastPublishedSeenAt := published } [event.deviceId] [] else { s with
          deviceStates := s.deviceStates.set event.deviceId updated
          lastPublishedSeenAt := published }) = s₃ at h hfirst hdevice
    -- the refresh of the groups writes records only
    have hloop : SameBesides s₃ (if event.state.isSome || changed then
        forEach (fun i groupId s => refreshGroupObservation cfg units (clk i) groupId changed s) 0
          updated.groupIds s₃ else (.ok (), s₃)).2 := by
      split
      · exact forEach_besides (fun i groupId s => refreshWith_besides cfg units
          (observedGroup changed) (clk i) groupId s) updated.groupIds 0 s₃
      · exact SameBesides.refl s₃
    split at h
    · cases h
    · rename_i s₄ hrefreshed
      rw [hrefreshed] at hloop
      have hlast := markDirty_if_marksMore (changed || heartbeat) s₄ [] updated.groupIds
      obtain rfl := (Prod.mk.inj h).2
      have hwrite : MarksMore s { s with
          deviceStates := s.deviceStates.set event.deviceId updated
          lastPublishedSeenAt := published } := ⟨Finset.Subset.refl _, Finset.Subset.refl _⟩
      have hmore := (hfirst.trans hloop.marksMore).trans hlast
      refine ⟨hwrite.trans hmore, fun hchanged => ⟨?_, ?_⟩⟩
      · exact (hloop.marksMore.trans hlast).devices (hdevice hchanged)
      · intro gid hgid
        rw [hchanged, Bool.true_or, if_pos rfl]
        unfold markDirty
        exact Finset.mem_union_right _ (List.mem_toFinset.mpr hgid)

/-- **An observation adds marks, and marks whatever content it changes.** -/
theorem recordObserverEvent_marks (units : UnitSource) (clk : Clock) (event : ObserverEvent)
    {s : ServiceState} (hinv : ServiceInv cfg s) :
    MarksMore s (recordObserverEvent cfg units clk event s).2
      ∧ ∀ current, s.deviceStates.get? event.deviceId = some current → Fresh current event →
        (mergeEvent current event).2 = true →
        event.deviceId ∈ (recordObserverEvent cfg units clk event s).2.dirtyDevices
          ∧ ∀ gid ∈ current.groupIds,
            gid ∈ (recordObserverEvent cfg units clk event s).2.dirtyGroups := by
  have hsame : MarksMore s s := ⟨Finset.Subset.refl _, Finset.Subset.refl _⟩
  unfold recordObserverEvent
  cases hcur : s.deviceStates.get? event.deviceId with
  | none => exact ⟨hsame, fun _ hc => by cases hc⟩
  | some current =>
      obtain ⟨d, hid, hdinv⟩ := hinv.device event.deviceId current hcur
      obtain ⟨s', hstore, _⟩ := storeObservation_ok units clk hinv hdinv.mem hid hcur
      obtain ⟨hmore, hmarked⟩ := storeObservation_marks hstore
      rw [(mergeEvent_fields current event).2.1] at hmarked
      dsimp only
      cases hstate : event.state with
      | some state =>
          dsimp only
          by_cases hstale : isStale current state = true
          · rw [if_pos hstale]
            refine ⟨hsame, fun current' hc hfresh => ?_⟩
            cases hc
            rw [hfresh state hstate] at hstale
            cases hstale
          · rw [if_neg hstale]
            have hmerge : mergeEvent current event = mergeRead current state := by
              unfold mergeEvent
              rw [hstate]
            rw [hmerge] at hstore
            rw [hstore]
            refine ⟨hmore, fun current' hc _ => ?_⟩
            cases hc
            exact hmarked
      | none =>
          have hmerge : mergeEvent current event = mergeReport current event := by
            unfold mergeEvent
            rw [hstate]
          rw [hmerge] at hstore
          dsimp only
          rw [hstore]
          refine ⟨hmore, fun current' hc _ => ?_⟩
          cases hc
          exact hmarked

/-- No command marks anything. -/
theorem GroupAnswer.marksMore {groupId requestId : String} {s s' : ServiceState}
    {r : Except PyError GroupCommandResult} (h : GroupAnswer groupId requestId s r s') :
    MarksMore s s' := by
  have hremember : ∀ t result, MarksMore t (remember t result).2 := by
    intro t result
    constructor <;> simp only [remember, Finset.Subset.refl]
  cases h with
  | replayed => exact (SameBesides.refl s).marksMore
  | refused => exact hremember s _
  | raised _ hbesides => exact hbesides.marksMore
  | executed _ hbesides => exact hbesides.marksMore.trans (hremember _ _)

theorem DeviceAnswer.marksMore {requestId : String} {s s' : ServiceState}
    {r : Except PyError DeviceCommandResult} (h : DeviceAnswer requestId s r s') :
    MarksMore s s' := by
  have hremember : ∀ t result, MarksMore t (rememberDevice t result).2 := by
    intro t result
    constructor <;> simp only [rememberDevice, Finset.Subset.refl]
  cases h with
  | replayed => exact (SameBesides.refl s).marksMore
  | refused => exact hremember s _
  | raised _ hbesides => exact hbesides.marksMore
  | executed _ _ hbesides => exact hbesides.marksMore.trans (hremember _ _)

end JebaoFlow
