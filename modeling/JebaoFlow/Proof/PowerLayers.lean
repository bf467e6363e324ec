import JebaoFlow.Proof.PatternEnvelope
import JebaoFlow.Proof.StatusReport

/-!
# The two limit layers of a desired power

A pump has its own limits and, while its group controls it, the limits of the
group. The calculator clamps to the group's limits only, an individual patch
checks a new power against the pump's own limits only, and neither looks again
when just the enabled flag changes. Both layers hold wherever the settings of the
groups leave room for the pumps in them.
-/

namespace JebaoFlow

open PyFloat

variable {cfg : AppConfig} {units : UnitSource}

/-- The power lies within the current limits of some group of the device. -/
def WithinGroup (cfg : AppConfig) (s : ServiceState) (did : String) (power : ℕ) : Prop :=
  ∃ g ∈ cfg.groups, did ∈ g.deviceIds ∧ ∃ state, s.states.get? g.id = some state
    ∧ state.minPower.val ≤ power ∧ power ≤ state.maxPower.val

/-- An enabled record passes the device's limits and, under group control, a group's. -/
def WithinLayers (cfg : AppConfig) (s : ServiceState) (d : DeviceConfig)
    (state : DeviceStatePayload) : Prop :=
  state.enabled = true → d.limits.Contains state.power.val
    ∧ (state.controlMode = .group → WithinGroup cfg s d.id state.power.val)

/-- The group layer only depends on the limits of the group records. -/
theorem WithinGroup.mono {s s' : ServiceState} {did : String} {power : ℕ}
    (hkeep : ∀ gid before, s.states.get? gid = some before →
      ∃ after, s'.states.get? gid = some after ∧ SameDesired before after)
    (h : WithinGroup cfg s did power) : WithinGroup cfg s' did power := by
  obtain ⟨g, hg, hdid, state, hstate, hlo, hhi⟩ := h
  obtain ⟨after, hafter, hsame⟩ := hkeep g.id state hstate
  refine ⟨g, hg, hdid, after, hafter, ?_, ?_⟩
  · rw [hsame.minPower]
    exact hlo
  · rw [hsame.maxPower]
    exact hhi

theorem WithinLayers.mono {s s' : ServiceState} {d : DeviceConfig} {state : DeviceStatePayload}
    (hkeep : ∀ gid before, s.states.get? gid = some before →
      ∃ after, s'.states.get? gid = some after ∧ SameDesired before after)
    (h : WithinLayers cfg s d state) : WithinLayers cfg s' d state := by
  intro hon
  obtain ⟨hdevice, hgroup⟩ := h hon
  exact ⟨hdevice, fun hmode => (hgroup hmode).mono hkeep⟩

section Commanded

variable {s s' : ServiceState} {g : GroupConfig} {current : GroupStatePayload}
  {command : GroupCommand} {clk : Clock} {result : GroupCommandResult}

end Commanded

/-! ## One step -/

section Step

variable {s s' : ServiceState} {clk : Clock}

end Step

/-! ## The start -/

/-- The first targets of a configured group are due to its members. -/
theorem Started.targets {clk : Clock} {s₀ : ServiceState} {g : GroupConfig}
    {state : GroupStatePayload} (hstart : Started cfg units clk s₀) (hg : g ∈ cfg.groups)
    (hstate : s₀.states.get? g.id = some state) (now : ℚ) :
    ∃ targets, startTargets cfg units now g = .ok targets ∧ TargetsFor g
      ⟨state.minPower, state.maxPower, (hstart.inv.groupInv hg hstate).range⟩ g.enabled targets := by
  have hinv := hstart.inv.groupInv hg hstate
  obtain ⟨hc, _⟩ := hstart.group g hg state hstate
  obtain ⟨targets, htargets, hfor⟩ := hinv.targets units now
  rw [hc.targets hg hinv.groupId] at htargets
  rw [hc.enabled] at hfor
  exact ⟨targets, htargets, hfor⟩

theorem Started.due {clk : Clock} {s₀ : ServiceState} {g : GroupConfig} {state : GroupStatePayload}
    {now : ℚ} {targets : Dict String DeviceTarget} {target : DeviceTarget} {m : GroupMember}
    (hstart : Started cfg units clk s₀) (hg : g ∈ cfg.groups)
    (hstate : s₀.states.get? g.id = some state) (htargets : startTargets cfg units now g = .ok targets)
    (hm : m ∈ g.members) (htarget : targets.get? m.device = some target) :
    target.For m ⟨state.minPower, state.maxPower, (hstart.inv.groupInv hg hstate).range⟩ g.enabled := by
  obtain ⟨targets', htargets', hfor⟩ := hstart.targets hg hstate now
  obtain ⟨target', htarget', hdue⟩ := hfor.member m hm
  cases htargets.symm.trans htargets'
  cases htarget.symm.trans htarget'
  exact hdue

/-- A grouped device starts with the target of the first of its groups. -/
theorem Started.grouped {clk : Clock} {s₀ : ServiceState} {d : DeviceConfig} {g : GroupConfig}
    (hstart : Started cfg units clk s₀) (hd : d ∈ cfg.devices)
    (hfirst : (cfg.groupsOf d.id).head? = some g) :
    g ∈ cfg.groups ∧ d.id ∈ g.deviceIds ∧ ∃ device i targets target,
      s₀.deviceStates.get? d.id = some device ∧ device.enabled = g.enabled
      ∧ device.controlMode = .group ∧ cfg.groups[i]? = some g
      ∧ startTargets cfg units (clk i) g = .ok targets ∧ targets.get? d.id = some target
      ∧ device.power = target.power := by
  obtain ⟨hg, hmem⟩ := AppConfig.mem_groupsOf.mp (List.mem_of_head? hfirst)
  obtain ⟨device, hget⟩ := hstart.inv.device_present d hd
  have hwith := hstart.device d hd device hget
  unfold StartsWith at hwith
  cases hgroups : cfg.groupsOf d.id with
  | nil => rw [hgroups] at hfirst; cases hfirst
  | cons g' rest =>
      rw [hgroups] at hwith hfirst
      cases hfirst
      obtain ⟨henabled, hmode, i, targets, target, hi, htargets, htarget, hpower⟩ := hwith
      exact ⟨hg, hmem, device, i, targets, target, hget, henabled, hmode, hi, htargets, htarget,
        hpower⟩

end JebaoFlow
