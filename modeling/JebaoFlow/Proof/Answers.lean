import JebaoFlow.Mqtt.Service

/-!
# What a command answers

`GroupAnswer` and `DeviceAnswer` list the ways a command call can return: from the
cache, with a refusal, with an exception, or executed. Unlike the outcomes of the
two operations they ask nothing of the state, and they say what the call does to
everything that is not a group or device record.
-/

namespace JebaoFlow

variable (cfg : AppConfig) (units : UnitSource)

/-! ## Besides the records -/

/-- Everything but the group and device records is as it was. -/
structure SameBesides (s s' : ServiceState) : Prop where
  results : s'.results = s.results
  deviceResults : s'.deviceResults = s.deviceResults
  dirtyDevices : s'.dirtyDevices = s.dirtyDevices
  dirtyGroups : s'.dirtyGroups = s.dirtyGroups
  published : s'.lastPublishedSeenAt = s.lastPublishedSeenAt
  updateEvent : s'.updateEvent = s.updateEvent

theorem SameBesides.refl (s : ServiceState) : SameBesides s s := ⟨rfl, rfl, rfl, rfl, rfl, rfl⟩

theorem SameBesides.trans {s s' s'' : ServiceState} (h : SameBesides s s')
    (h' : SameBesides s' s'') : SameBesides s s'' :=
  ⟨h'.results.trans h.results, h'.deviceResults.trans h.deviceResults,
    h'.dirtyDevices.trans h.dirtyDevices, h'.dirtyGroups.trans h.dirtyGroups,
    h'.published.trans h.published, h'.updateEvent.trans h.updateEvent⟩

/-- A loop whose iterations write records only writes records only. -/
theorem forEach_besides {α : Type} {body : ℕ → α → ServiceState → Except PyError Unit × ServiceState}
    (hbody : ∀ i x s, SameBesides s (body i x s).2) :
    ∀ (l : List α) (i : ℕ) (s : ServiceState), SameBesides s (forEach body i l s).2 := by
  intro l
  induction l with
  | nil => exact fun _ s => SameBesides.refl s
  | cons x xs ih =>
      intro i s
      have hone := hbody i x s
      rw [forEach]
      cases hb : body i x s with
      | mk r s' =>
          rw [hb] at hone
          cases r with
          | error e => exact hone
          | ok u => exact hone.trans (ih (i + 1) s')

theorem refreshWith_besides
    (write : GroupStatePayload → Dict String GroupMemberState → GroupStatePayload)
    (now : ℚ) (groupId : String) (s : ServiceState) :
    SameBesides s (refreshWith cfg units write now groupId s).2 := by
  unfold refreshWith
  split
  · exact SameBesides.refl s
  · split
    · exact SameBesides.refl s
    · exact ⟨rfl, rfl, rfl, rfl, rfl, rfl⟩

theorem syncDevice_besides (groupState : GroupStatePayload) (rawTargets : Dict String DeviceTarget)
    (force : Bool) (member : String × GroupMemberState) (s : ServiceState) :
    SameBesides s (syncDevice groupState rawTargets force member s).2 := by
  unfold syncDevice
  split
  · exact SameBesides.refl s
  · split
    · exact SameBesides.refl s
    · dsimp only
      split
      · exact SameBesides.refl s
      · exact ⟨rfl, rfl, rfl, rfl, rfl, rfl⟩

theorem syncGroupDevices_besides (now : ℚ) (groupId : String) (force : Bool) (s : ServiceState) :
    SameBesides s (syncGroupDevices cfg units now groupId force s).2 := by
  unfold syncGroupDevices
  split
  · exact SameBesides.refl s
  · split
    · exact SameBesides.refl s
    · exact forEach_besides (fun _ member s => syncDevice_besides ..) _ _ s

/-! ## The two caches -/

@[simp] theorem remember_results (s : ServiceState) (result : GroupCommandResult) :
    (remember s result).2.results
      = ((s.results.set result.requestId result).moveToEnd result.requestId).trimTo
        maxDeduplicationEntries := by simp only [remember]
@[simp] theorem remember_deviceResults (s : ServiceState) (result : GroupCommandResult) :
    (remember s result).2.deviceResults = s.deviceResults := by unfold remember; rfl

@[simp] theorem rememberDevice_results (s : ServiceState) (result : DeviceCommandResult) :
    (rememberDevice s result).2.results = s.results := by unfold rememberDevice; rfl
@[simp] theorem rememberDevice_deviceResults (s : ServiceState) (result : DeviceCommandResult) :
    (rememberDevice s result).2.deviceResults
      = ((s.deviceResults.set result.requestId result).moveToEnd result.requestId).trimTo
        maxDeduplicationEntries := by simp only [rememberDevice]

/-! ## Group commands -/

inductive GroupAnswer (groupId requestId : String) (s : ServiceState) :
    Except PyError GroupCommandResult → ServiceState → Prop where
  /-- The request id was seen before: the recorded result comes back, nothing changes. -/
  | replayed {result : GroupCommandResult} (hold : s.results.get? requestId = some result) :
      GroupAnswer groupId requestId s (.ok result) s
  | refused (hnew : s.results.get? requestId = none) (revision : ℕ) (reason : String) :
      GroupAnswer groupId requestId s
        (.ok ⟨requestId, groupId, false, revision, some reason⟩)
        (remember s ⟨requestId, groupId, false, revision, some reason⟩).2
  | raised (hnew : s.results.get? requestId = none) {e : PyError} {s' : ServiceState}
      (hbesides : SameBesides s s') : GroupAnswer groupId requestId s (.error e) s'
  | executed (hnew : s.results.get? requestId = none) {s' : ServiceState}
      (hbesides : SameBesides s s') (revision : ℕ) :
      GroupAnswer groupId requestId s (.ok ⟨requestId, groupId, true, revision, none⟩)
        (remember s' ⟨requestId, groupId, true, revision, none⟩).2

/-- The part of `apply` after the checks raises, or records an accepted result. -/
theorem commit_answer (clk : Clock) (groupId : String) (current : GroupStatePayload)
    (command : GroupCommand) {s : ServiceState}
    (hnew : s.results.get? command.requestId = none) :
    GroupAnswer groupId command.requestId s (commit cfg units clk groupId current command s).1
      (commit cfg units clk groupId current command s).2 := by
  unfold commit
  dsimp only
  split
  · exact .raised hnew (SameBesides.refl s)
  · rename_i members _
    have hwrite : SameBesides s { s with
        states := s.states.set groupId { patched current command with members := members } } :=
      ⟨rfl, rfl, rfl, rfl, rfl, rfl⟩
    have hsync := hwrite.trans (syncGroupDevices_besides cfg units (clk 1) groupId
      (forcesGroupControl command) _)
    split
    · rename_i hs
      rw [hs] at hsync
      exact .raised hnew hsync
    · rename_i hs
      rw [hs] at hsync
      have hrefresh := hsync.trans (refreshWith_besides cfg units (refreshedGroup false) (clk 2)
        groupId _)
      unfold refreshGroupMembers
      split
      · rename_i hr
        rw [hr] at hrefresh
        exact .raised hnew hrefresh
      · rename_i hr
        rw [hr] at hrefresh
        exact .executed hnew hrefresh _

/-- **Every call of `apply` answers in one of the listed ways.** -/
theorem apply_answer (clk : Clock) (groupId : String)
    (command : GroupCommand) (s : ServiceState) :
    GroupAnswer groupId command.requestId s (apply cfg units clk groupId command s).1
      (apply cfg units clk groupId command s).2 := by
  unfold apply
  split
  · rename_i hold
    exact .replayed hold
  · rename_i hnew
    split
    · exact .refused hnew 0 _
    · split
      · exact .raised hnew (SameBesides.refl s)
      · split
        · exact .refused hnew _ _
        · exact commit_answer cfg units clk groupId _ command hnew

/-! ## Device commands -/

inductive DeviceAnswer (requestId : String) (s : ServiceState) :
    Except PyError DeviceCommandResult → ServiceState → Prop where
  | replayed {result : DeviceCommandResult} (hold : s.deviceResults.get? requestId = some result) :
      DeviceAnswer requestId s (.ok result) s
  | refused (hnew : s.deviceResults.get? requestId = none) (deviceId : String) (revision : ℕ)
      (reason : String) :
      DeviceAnswer requestId s (.ok ⟨requestId, deviceId, false, revision, some reason⟩)
        (rememberDevice s ⟨requestId, deviceId, false, revision, some reason⟩).2
  | raised (hnew : s.deviceResults.get? requestId = none) {e : PyError} {s' : ServiceState}
      (hbesides : SameBesides s s') : DeviceAnswer requestId s (.error e) s'
  | executed (hnew : s.deviceResults.get? requestId = none) (deviceId : String) {s' : ServiceState}
      (hbesides : SameBesides s s') (revision : ℕ) :
      DeviceAnswer requestId s (.ok ⟨requestId, deviceId, true, revision, none⟩)
        (rememberDevice s' ⟨requestId, deviceId, true, revision, none⟩).2

theorem commitDevice_answer (clk : Clock) (deviceId : String) (updated : DeviceStatePayload)
    (command : DeviceCommand) {s : ServiceState}
    (hnew : s.deviceResults.get? command.requestId = none) :
    DeviceAnswer command.requestId s
      (commitDevice cfg units clk deviceId updated command s).1
      (commitDevice cfg units clk deviceId updated command s).2 := by
  have hwrite : SameBesides s { s with deviceStates := s.deviceStates.set deviceId updated } :=
    ⟨rfl, rfl, rfl, rfl, rfl, rfl⟩
  have hloop := hwrite.trans (forEach_besides
    (fun i groupId s => refreshWith_besides cfg units (refreshedGroup true) (clk i)
      groupId s) updated.groupIds 1 _)
  unfold commitDevice refreshGroupMembers
  dsimp only
  split
  · rename_i hl
    rw [hl] at hloop
    exact .raised hnew hloop
  · rename_i hl
    rw [hl] at hloop
    exact .executed hnew deviceId hloop _

/-- **Every call of `apply_device` answers in one of the listed ways.** -/
theorem applyDevice_answer (clk : Clock) (deviceId : String)
    (command : DeviceCommand) (s : ServiceState) :
    DeviceAnswer command.requestId s (applyDevice cfg units clk deviceId command s).1
      (applyDevice cfg units clk deviceId command s).2 := by
  unfold applyDevice
  split
  · rename_i hold
    exact .replayed hold
  · rename_i hnew
    split
    · exact .refused hnew deviceId 0 _
    · rename_i current _
      split
      · exact .refused hnew _ _ _
      · split
        · exact .raised hnew (SameBesides.refl s)
        · exact .refused hnew _ _ _
        · split
          · exact .raised hnew (SameBesides.refl s)
          · split
            · split
              · exact .refused hnew _ _ _
              · split
                · exact .raised hnew (SameBesides.refl s)
                · exact commitDevice_answer cfg units clk deviceId _ command hnew
            · split
              · exact .refused hnew _ _ _
              · exact commitDevice_answer cfg units clk deviceId _ command hnew

/-! ## Observations -/

/-- The heartbeat writes when a device was last published, and nothing else. -/
theorem recordHeartbeat_writes {cfg : AppConfig} {event : ObserverEvent} {changed heartbeat : Bool}
    {s s' : ServiceState} (h : recordHeartbeat cfg event changed s = .ok (heartbeat, s')) :
    ∃ published, s' = { s with lastPublishedSeenAt := published } := by
  unfold recordHeartbeat at h
  split at h
  · cases h
    exact ⟨_, rfl⟩
  · split at h
    · cases h
    · dsimp only at h
      split at h
      · cases h
        exact ⟨_, rfl⟩
      · cases h
        exact ⟨_, rfl⟩

/-- The two result caches are as they were. -/
structure SameResults (s s' : ServiceState) : Prop where
  results : s'.results = s.results
  deviceResults : s'.deviceResults = s.deviceResults

theorem SameResults.trans {s s' s'' : ServiceState} (h : SameResults s s')
    (h' : SameResults s' s'') : SameResults s s'' :=
  ⟨h'.results.trans h.results, h'.deviceResults.trans h.deviceResults⟩

theorem markDirty_if_results (publish : Bool) (s : ServiceState) (deviceIds groupIds : List String) :
    SameResults s (if publish then markDirty s deviceIds groupIds else s) := by
  cases publish with
  | true => exact ⟨rfl, rfl⟩
  | false => exact ⟨rfl, rfl⟩

/-- An observation answers no command. -/
theorem storeObservation_results (clk : Clock) (event : ObserverEvent)
    (updated : DeviceStatePayload) (changed : Bool) (s : ServiceState) :
    SameResults s (storeObservation cfg units clk event updated changed s).2 := by
  unfold storeObservation
  dsimp only
  split
  · exact ⟨rfl, rfl⟩
  · rename_i heartbeat s₂ hheart
    obtain ⟨published, rfl⟩ := recordHeartbeat_writes hheart
    have hwrite : SameResults s { s with
        deviceStates := s.deviceStates.set event.deviceId updated
        lastPublishedSeenAt := published } := ⟨rfl, rfl⟩
    have hmarked := hwrite.trans (markDirty_if_results (changed || heartbeat) _ [event.deviceId] [])
    have hloop : ∀ (refresh : Bool) s₃, SameResults s₃ (if refresh then
        forEach (fun i groupId s => refreshGroupObservation cfg units (clk i) groupId changed s) 0
          updated.groupIds s₃ else (.ok (), s₃)).2 := by
      intro refresh s₃
      cases refresh with
      | true =>
          have h := forEach_besides (fun i groupId s => refreshWith_besides cfg units
            (observedGroup changed) (clk i) groupId s) updated.groupIds 0 s₃
          exact ⟨h.results, h.deviceResults⟩
      | false => exact ⟨rfl, rfl⟩
    have hrefreshed := hmarked.trans (hloop (event.state.isSome || changed) _)
    split
    · rename_i hr
      rw [hr] at hrefreshed
      exact hrefreshed
    · rename_i hr
      rw [hr] at hrefreshed
      exact hrefreshed.trans (markDirty_if_results _ _ _ _)

theorem recordObserverEvent_results (clk : Clock) (event : ObserverEvent) (s : ServiceState) :
    SameResults s (recordObserverEvent cfg units clk event s).2 := by
  unfold recordObserverEvent
  split
  · exact ⟨rfl, rfl⟩
  · split
    · split
      · exact ⟨rfl, rfl⟩
      · exact storeObservation_results ..
    · exact storeObservation_results ..

end JebaoFlow
