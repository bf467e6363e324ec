import JebaoFlow.Proof.Changes

/-!
# The emergency latch

An accepted emergency stop leaves the group's status at `EMERGENCY_STOP`, and
while it stays there every new group or device command is turned away. The status
is also the field in which the observer reports health, so the latch holds along
a run exactly as long as no observation recomputes that report.
-/

namespace JebaoFlow

variable {cfg : AppConfig} {units : UnitSource}

/-- The group is in emergency stop, and turns away everything but its release. -/
structure Latched (cfg : AppConfig) (units : UnitSource) (g : GroupConfig) (s : ServiceState) :
    Prop where
  status : HasStatus g.id .emergencyStop s
  group : ∀ clk command, s.results.get? command.requestId = none →
    command.action ≠ some .clearEmergency →
    ∃ result, (apply cfg units clk g.id command s).1 = .ok result ∧ result.accepted = false
  device : ∀ did ∈ g.deviceIds, ∀ clk command, s.deviceResults.get? command.requestId = none →
    ∃ result, (applyDevice cfg units clk did command s).1 = .ok result ∧ result.accepted = false

/-- The operation is a newly executed, accepted `CLEAR_EMERGENCY` for the group. -/
def Releases (cfg : AppConfig) (units : UnitSource) (gid : String) (s : ServiceState) :
    ServiceOp → Prop
  | .apply groupId command clk => groupId = gid ∧ command.action = some .clearEmergency
      ∧ s.results.get? command.requestId = none
      ∧ ∃ result, (apply cfg units clk groupId command s).1 = .ok result ∧ result.accepted = true
  | _ => False

/-- What a status report says about a device: online flag, error and status. -/
def reported (current : DeviceStatePayload) (event : ObserverEvent) :
    Option Bool × Option String × DeviceStatus :=
  match event.status with
  | .unmapped => (none, event.error, .unmapped)
  | .connecting =>
      (if current.online = some false then some false else current.online, event.error, .connecting)
  | _ => (some false, event.error, .offline)

/-- A read newer than the last one, or a report that says something new. -/
def Informs (current : DeviceStatePayload) (event : ObserverEvent) : Prop :=
  match event.state with
  | some state => ∀ seen, current.lastSeenAt = some seen → seen < state.observedAt
  | none => (current.online, current.error, current.status) ≠ reported current event

/-- The operation is an observation that informs about a member of the group. -/
def InformsGroup (gid : String) (s : ServiceState) : ServiceOp → Prop
  | .observe event _ => ∃ current, s.deviceStates.get? event.deviceId = some current
      ∧ gid ∈ current.groupIds ∧ Informs current event
  | _ => False

/-! ## Which observations recompute a group -/

theorem isStale_eq_false_iff {current : DeviceStatePayload} {state : DeviceState} :
    isStale current state = false
      ↔ ∀ seen, current.lastSeenAt = some seen → seen < state.observedAt := by
  unfold isStale
  cases current.lastSeenAt with
  | none => exact ⟨fun _ seen h => absurd h (Option.some_ne_none seen).symm, fun _ => rfl⟩
  | some last =>
      rw [Option.any_some, decide_eq_false_iff_not, not_le]
      exact ⟨fun h seen hs => Option.some.inj hs ▸ h, fun h => h last rfl⟩

theorem informs_iff {current : DeviceStatePayload} {event : ObserverEvent} :
    Informs current event ↔ Fresh current event ∧ refreshes current event = true := by
  unfold Informs Fresh refreshes
  cases hstate : event.state with
  | some state =>
      dsimp only
      rw [← isStale_eq_false_iff]
      exact ⟨fun h => ⟨fun state' hs => Option.some.inj hs ▸ h, rfl⟩, fun h => h.1 state rfl⟩
  | none =>
      have hmerge : (mergeEvent current event).2
          = decide ((current.online, current.error, current.status) ≠ reported current event) := by
        unfold mergeEvent reported
        rw [hstate]
        unfold mergeReport
        cases event.status <;> rfl
      rw [hmerge, Option.isSome_none, Bool.false_or, decide_eq_true_eq]
      exact ⟨fun h => ⟨fun state hs => absurd hs (Option.some_ne_none state).symm, h⟩, fun h => h.2⟩

/-! ## What the latch turns away -/

theorem rejection_of_emergencyStop {current : GroupStatePayload} {command : GroupCommand}
    (hstop : current.status = .emergencyStop) (haction : command.action ≠ some .clearEmergency) :
    rejection cfg current command ≠ none := by
  intro h
  exact haction ((rejection_eq_none_iff.mp h).lock hstop)

/-- In a well-formed state the status alone makes the latch. -/
theorem latched_iff {g : GroupConfig} {s : ServiceState} (hinv : ServiceInv cfg s)
    (hg : g ∈ cfg.groups) : Latched cfg units g s ↔ HasStatus g.id .emergencyStop s := by
  refine ⟨Latched.status, fun hstatus => ⟨hstatus, ?_, ?_⟩⟩
  · intro clk command hnew haction
    obtain ⟨state, hstate, hstop⟩ := hstatus
    have hout := apply_outcome units clk g.id command hinv
    generalize apply cfg units clk g.id command s = out at hout
    obtain ⟨r, s'⟩ := out
    cases hout with
    | replayed hold => rw [hnew] at hold; cases hold
    | unknown _ _ hresult => exact ⟨_, rfl, hresult⟩
    | rejected _ _ _ _ _ hresult => exact ⟨_, rfl, hresult⟩
    | accepted _ _ _ hcur hpass =>
        rw [hstate] at hcur
        cases hcur
        exact absurd hpass (rejection_of_emergencyStop hstop haction)
  · intro did hdid clk command hnew
    obtain ⟨state, hstate, hstop⟩ := hstatus
    -- the lock is found by walking the groups the device record names
    have hlocked : ∀ current, s.deviceStates.get? did = some current →
        ¬ Unlocked s current.groupIds := by
      intro current hcur hlock
      obtain ⟨d, rfl, hdinv⟩ := hinv.device did current hcur
      exact hlock g.id (hdinv.mem_groupIds.mpr ⟨g, hg, rfl, hdid⟩) state hstate hstop
    have hout := applyDevice_outcome units clk did command hinv
    generalize applyDevice cfg units clk did command s = out at hout
    obtain ⟨r, s'⟩ := out
    cases hout with
    | replayed hold => rw [hnew] at hold; cases hold
    | unknown _ _ hresult => exact ⟨_, rfl, hresult⟩
    | rejected _ _ _ _ _ hresult => exact ⟨_, rfl, hresult⟩
    | resumed _ _ _ hcur hpass => exact absurd hpass.lock (hlocked _ hcur)
    | patched _ _ _ hcur hpass => exact absurd hpass.lock (hlocked _ hcur)

/-! ## One step -/

/-- A locked group is only written by its release. -/
theorem hasStatus_apply {s s' : ServiceState} {gid groupId : String} {clk : Clock}
    {command : GroupCommand} {r : Except PyError GroupCommandResult}
    (hout : ApplyOutcome cfg units clk groupId command s r s')
    (hrelease : groupId = gid → command.action = some .clearEmergency →
      s.results.get? command.requestId = none → ∀ result, r = .ok result →
      result.accepted = false)
    (h : HasStatus gid .emergencyStop s) : HasStatus gid .emergencyStop s' := by
  cases hout with
  | replayed => exact h
  | unknown => exact h.congr (remember_states ..)
  | rejected => exact h.congr (remember_states ..)
  | @accepted g current _ hnew _ hid hcur hpass result hacc =>
      by_cases heq : groupId = gid
      · subst heq
        obtain ⟨state, hstate, hstop⟩ := h
        rw [hcur] at hstate
        cases hstate
        -- what passes the lock is a release, and the run has none for this group
        have haction := (rejection_eq_none_iff.mp hpass).lock hstop
        have := hrelease rfl haction hnew result rfl
        rw [hacc.accepted] at this
        cases this
      · exact (hacc.hasStatus_other (hid ▸ heq)).mpr h

/-- A device command keeps every status. -/
theorem hasStatus_applyDevice {s : ServiceState} {gid deviceId : String} {clk : Clock}
    {command : DeviceCommand} {status : GroupState} (hinv : ServiceInv cfg s)
    (h : HasStatus gid status s) :
    HasStatus gid status (applyDevice cfg units clk deviceId command s).2 := by
  have hch := changed_step units hinv (.applyDevice deviceId command clk)
  generalize hs' : serviceStep cfg units s (.applyDevice deviceId command clk) = s' at hch
  show HasStatus gid status (serviceStep cfg units s (.applyDevice deviceId command clk))
  rw [hs']
  cases hch with
  | idle hstates => exact h.congr hstates
  | resumed hexec _ _ _ _ _ _ hst => exact (hst.hasStatus_iff hinv hexec.mem hexec.record rfl).mpr h
  | overridden hexec _ hst => exact (hst.hasStatus_iff hinv hexec.mem hexec.record rfl).mpr h

/-- An observation keeps an emergency stop exactly when it does not inform about a member. -/
theorem hasStatus_observe {s s' : ServiceState} {gid : String} {clk : Clock}
    {event : ObserverEvent} {r : Except PyError Unit}
    (hout : ObserveOutcome cfg units clk event s r s') (h : HasStatus gid .emergencyStop s) :
    HasStatus gid .emergencyStop s' ↔ ¬ InformsGroup gid s (.observe event clk) := by
  cases hout with
  | unknown hdevice =>
      refine ⟨fun _ hinf => ?_, fun _ => h⟩
      obtain ⟨current, hcur, _⟩ := hinf
      rw [hdevice] at hcur
      cases hcur
  | stale hcur hstale =>
      refine ⟨fun _ hinf => ?_, fun _ => h⟩
      obtain ⟨current, hcur', _, hinf⟩ := hinf
      rw [hcur] at hcur'
      cases hcur'
      exact hstale (informs_iff.mp hinf).1
  | @merged _ current _ _ _ hcur hfresh hmerged =>
      -- the groups a merge refreshes are those its device record names
      have hiff : InformsGroup gid s (.observe event clk)
          ↔ gid ∈ current.groupIds ∧ refreshes current event = true := by
        constructor
        · rintro ⟨current', hcur', hgid, hinf⟩
          rw [hcur] at hcur'
          cases hcur'
          exact ⟨hgid, (informs_iff.mp hinf).2⟩
        · rintro ⟨hgid, hrefresh⟩
          exact ⟨current, hcur, hgid, informs_iff.mpr ⟨hfresh, hrefresh⟩⟩
      rw [hiff]
      obtain ⟨state, hstate, hstop⟩ := h
      cases hrefresh : refreshes current event with
      | false =>
          refine ⟨fun _ hc => Bool.noConfusion hc.2, fun _ => ?_⟩
          exact ⟨state, (hmerged.unrefreshed hrefresh).symm ▸ hstate, hstop⟩
      | true =>
          have href := hmerged.refreshed hrefresh
          by_cases hgid : gid ∈ current.groupIds
          · obtain ⟨after, hafter, _, _, _, rfl⟩ := href.rewritten gid hgid state hstate
            refine ⟨fun h' => ?_, fun hn => absurd ⟨hgid, rfl⟩ hn⟩
            obtain ⟨after', hafter', hstop'⟩ := h'
            rw [hafter] at hafter'
            cases hafter'
            -- the refreshed status is a health report
            exact absurd hstop' (observedStatus_ne_emergencyStop _)
          · refine ⟨fun _ hc => hgid hc.1, fun _ => ?_⟩
            exact ⟨state, (href.frame gid hgid).trans hstate, hstop⟩

/-- **From a latched state, one operation that does not release keeps the latch or informs.** -/
theorem latched_step {g : GroupConfig} (hg : g ∈ cfg.groups) (s : ServiceState) (op : ServiceOp)
    (hop : ¬ Releases cfg units g.id s op) (hinv : ServiceInv cfg s) (h : Latched cfg units g s) :
    Latched cfg units g (serviceStep cfg units s op) ↔ ¬ InformsGroup g.id s op := by
  rw [latched_iff (serviceInv_step s op hinv) hg]
  cases op with
  | apply groupId command clk =>
      refine ⟨fun _ hc => hc, fun _ => ?_⟩
      refine hasStatus_apply (apply_outcome units clk groupId command hinv) ?_ h.status
      intro hid haction hnew result hresult
      by_contra haccepted
      rw [Bool.not_eq_false] at haccepted
      exact hop ⟨hid, haction, hnew, result, hresult, haccepted⟩
  | applyDevice deviceId command clk =>
      refine ⟨fun _ hc => hc, fun _ => ?_⟩
      exact hasStatus_applyDevice hinv h.status
  | observe event clk =>
      exact hasStatus_observe (recordObserverEvent_outcome units clk event hinv) h.status

/-- An accepted emergency stop latches. -/
theorem latched_of_stop {g : GroupConfig} {s : ServiceState} {clk : Clock} {stop : GroupCommand}
    {result : GroupCommandResult} (hinv : ServiceInv cfg s) (hg : g ∈ cfg.groups)
    (haction : stop.action = some .emergencyStop) (hnew : s.results.get? stop.requestId = none)
    (hresult : (apply cfg units clk g.id stop s).1 = .ok result) (haccepted : result.accepted = true) :
    Latched cfg units g (apply cfg units clk g.id stop s).2 := by
  have hout := apply_outcome units clk g.id stop hinv
  rw [latched_iff (hout.serviceInv hinv) hg]
  rw [hresult] at hout
  generalize (apply cfg units clk g.id stop s).2 = s' at hout
  obtain ⟨g', _, hid, current, _, _, hacc⟩ := hout.executed hnew haccepted
  obtain ⟨members, hself, _⟩ := hacc.group_self
  refine ⟨_, hid ▸ hself, ?_⟩
  exact (patched_status current stop).trans (by rw [haction])

/--
**An emergency stop stays latched exactly until an observation informs about a member.**

From the state an accepted `EMERGENCY_STOP` leaves, along any run without an
accepted release, the latch holds at every point if and only if no observation
of the run carries a new read of a member or a report that changes its record.
-/
theorem emergency_latch_iff {g : GroupConfig} {s : ServiceState} {clk : Clock}
    {stop : GroupCommand} {result : GroupCommandResult} {ops : List ServiceOp}
    (hs : Reachable cfg units s) (hg : g ∈ cfg.groups)
    (haction : stop.action = some .emergencyStop) (hnew : s.results.get? stop.requestId = none)
    (hresult : (apply cfg units clk g.id stop s).1 = .ok result) (haccepted : result.accepted = true)
    (hops : Run.Each (serviceStep cfg units) (fun s op => ¬ Releases cfg units g.id s op)
      (apply cfg units clk g.id stop s).2 ops) :
    Run.Always (serviceStep cfg units) (Latched cfg units g) (apply cfg units clk g.id stop s).2 ops
      ↔ Run.Each (serviceStep cfg units) (fun s op => ¬ InformsGroup g.id s op)
          (apply cfg units clk g.id stop s).2 ops := by
  have hinv := reachable_inv hs
  refine Run.always_iff_each (fun s op _ h => serviceInv_step s op h) (latched_step hg) hops ?_
    (latched_of_stop hinv hg haction hnew hresult haccepted)
  exact (apply_outcome units clk g.id stop hinv).serviceInv hinv

/-- The tank after its stop button was pressed. -/
def stoppedTank : ServiceState :=
  (apply reefTank steadyUnits (fun _ => 1) "flow" plainStop
    (startState reefTank steadyUnits (fun _ => 0))).2

/-- A stop followed by rejected commands only. -/
theorem emergency_latch_iff_reefTank :
    Run.Always (serviceStep reefTank steadyUnits) (Latched reefTank steadyUnits reefFlow) stoppedTank
      [.apply "flow" { requestId := "restart1", enabled := some true } (fun _ => 2)] := by
  have hstart : starts reefTank steadyUnits (fun _ => 0) = true := by decide +kernel
  have hsome : ((apply reefTank steadyUnits (fun _ => 1) "flow" plainStop
      (startState reefTank steadyUnits (fun _ => 0))).1.toOption.any (·.accepted)) = true := by
    decide +kernel
  obtain ⟨result, hresult, haccepted⟩ := (Option.any_eq_true ..).mp hsome
  refine (emergency_latch_iff (reachable_startState hstart []) (List.mem_singleton.mpr rfl) rfl
    (by decide +kernel) (PyError.toOption_eq_some hresult) haccepted ?_).mpr ?_
  · exact ⟨fun h => absurd h.2.1 (by decide), trivial⟩
  · exact ⟨fun h => h, trivial⟩

/--
**One poll of a pump releases the latch.** The stop is accepted, nothing releases
it, and after the next read of the left pump the group is no longer stopped.
-/
theorem emergency_latch_released_by_poll :
    Reachable reefTank steadyUnits (startState reefTank steadyUnits (fun _ => 0))
      ∧ (apply reefTank steadyUnits (fun _ => 1) "flow" plainStop
          (startState reefTank steadyUnits (fun _ => 0))).1
        = .ok { requestId := "stop-001", groupId := "flow", accepted := true, revision := 1 }
      ∧ Latched reefTank steadyUnits reefFlow stoppedTank
      ∧ Run.Each (serviceStep reefTank steadyUnits)
          (fun s op => ¬ Releases reefTank steadyUnits "flow" s op) stoppedTank
          [.observe leftPoll (fun _ => 2)]
      ∧ ¬ Run.Always (serviceStep reefTank steadyUnits) (Latched reefTank steadyUnits reefFlow)
          stoppedTank [.observe leftPoll (fun _ => 2)] := by
  have hstart : starts reefTank steadyUnits (fun _ => 0) = true := by decide +kernel
  have hreach := reachable_startState hstart []
  have hresult : (apply reefTank steadyUnits (fun _ => 1) "flow" plainStop
      (startState reefTank steadyUnits (fun _ => 0))).1
        = .ok { requestId := "stop-001", groupId := "flow", accepted := true, revision := 1 } := by
    decide +kernel
  refine ⟨hreach, hresult, ?_, ⟨fun h => h, trivial⟩, fun h => ?_⟩
  · exact latched_of_stop (reachable_inv hreach) (List.mem_singleton.mpr rfl) rfl
      (by decide +kernel) hresult rfl
  · obtain ⟨state, hstate, hstop⟩ := h.last.status
    have hrunning : ((Run.exec (serviceStep reefTank steadyUnits) stoppedTank
        [.observe leftPoll (fun _ => 2)]).states.get? "flow").map (·.status) = some .degraded := by
      decide +kernel
    have hflow : (Run.exec (serviceStep reefTank steadyUnits) stoppedTank
        [.observe leftPoll (fun _ => 2)]).states.get? "flow" = some state := hstate
    rw [hflow, Option.map_some, hstop] at hrunning
    cases hrunning

end JebaoFlow
