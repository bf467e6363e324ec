import JebaoFlow.Groups.Calculator

/-!
# Application configuration

The parts of the YAML configuration the daemon's core reads. As with the group
models, the validators are fields: an `AppConfig` is a configuration that
`AppConfig.model_validate` returned.
-/

namespace JebaoFlow

open PyFloat

inductive DeviceType
  | wavemaker | returnPump | dosingPump
  deriving DecidableEq, Repr

inductive RuntimeMode
  | observer | control
  deriving DecidableEq, Repr

structure MqttConfig where
  topicPrefix : String
  topicPrefix_ne : topicPrefix ≠ "" := by decide

structure RuntimeConfig where
  mode : RuntimeMode := .observer
  dryRun : Bool := true

structure ObserverConfig where
  enabled : Bool := true
  publishHeartbeatSeconds : PyFloat := fin 300
  heartbeat_ge : (fin 30).le publishHeartbeatSeconds = true := by decide +kernel
  heartbeat_le : publishHeartbeatSeconds.le (fin 86400) = true := by decide +kernel

/-- The pattern `^[0-9a-f]{32}$`. -/
def isProductKey (s : String) : Bool :=
  s.toList.length == 32
    && s.toList.all (fun c => ('0' ≤ c && c ≤ '9') || ('a' ≤ c && c ≤ 'f'))

/-- A MAC address as the validator leaves it: 12 hexadecimal digits. -/
def isCompactMac (s : String) : Bool :=
  s.toList.length == 12
    && s.toList.all (fun c => ('0' ≤ c && c ≤ '9') || ('a' ≤ c && c ≤ 'f'))

structure DeviceIdentityConfig where
  deviceId : Option String := none
  macAddress : Option String := none
  selector : (deviceId.isSome || macAddress.isSome) = true
  deviceId_ne : deviceId ≠ some "" := by decide
  macAddress_ok : macAddress.all isCompactMac = true := by decide
  deriving DecidableEq

structure DeviceControlConfig where
  minimumCommandIntervalMs : ℕ := 1000
  allowHardwareWrites : Bool := false
  readbackAttempts : ℕ := 3
  interval_ge : 100 ≤ minimumCommandIntervalMs := by decide
  attempts_ge : 1 ≤ readbackAttempts := by decide
  attempts_le : readbackAttempts ≤ 10 := by decide

/-- The default limits, `30..100`. -/
def PowerLimits.standard : PowerLimits := ⟨⟨30, by decide⟩, ⟨100, by decide⟩, by decide⟩

structure DeviceConfig where
  id : String
  name : String
  type : DeviceType
  productKey : Option String := none
  address : Option String := none
  discoveryAuto : Bool := true
  identity : Option DeviceIdentityConfig := none
  enabled : Bool := true
  limits : PowerLimits := .standard
  control : DeviceControlConfig := {}
  id_ok : isIdentifier id = true := by decide
  name_ne : name ≠ "" := by decide
  productKey_ok : productKey.all isProductKey = true := by decide
  location : (address.isSome || discoveryAuto) = true := by decide

/-- The two pumps of a small tank. -/
def leftPump : DeviceConfig := { id := "left", name := "Left", type := .wavemaker }

def rightPump : DeviceConfig := { id := "right", name := "Right", type := .wavemaker }

structure AppConfig where
  mqtt : MqttConfig
  runtime : RuntimeConfig := {}
  observer : ObserverConfig := {}
  devices : List DeviceConfig
  groups : List GroupConfig
  devices_ne : devices ≠ []
  device_ids_unique : (devices.map DeviceConfig.id).Nodup
  group_ids_unique : (groups.map GroupConfig.id).Nodup
  /-- No group references an unknown device. -/
  members_known : ∀ g ∈ groups, ∀ m ∈ g.members, m.device ∈ devices.map DeviceConfig.id
  vendor_ids_unique :
    (devices.filterMap (fun d => d.identity.bind DeviceIdentityConfig.deviceId)).Nodup
  mac_addresses_unique :
    (devices.filterMap (fun d => d.identity.bind DeviceIdentityConfig.macAddress)).Nodup
  /-- A control-mode deployment never starts on a pattern that has no implementation. -/
  patterns_supported : runtime.mode = .control →
    ∀ g ∈ groups, g.default.pattern ∈ supportedPatterns

namespace AppConfig

variable (cfg : AppConfig)

/-- `self._groups[group_id]`. -/
def group? (groupId : String) : Option GroupConfig :=
  cfg.groups.find? (fun g => g.id = groupId)

/-- `_device_config(device_id)`; `next` on an empty generator raises `StopIteration`. -/
def deviceConfig (deviceId : String) : Except PyError DeviceConfig :=
  match cfg.devices.find? (fun d => d.id = deviceId) with
  | some device => .ok device
  | none => .error .stopIteration

/-- The groups a device is a member of, in configuration order. -/
def groupsOf (deviceId : String) : List GroupConfig :=
  cfg.groups.filter (fun g => g.members.any (fun m => m.device = deviceId))

variable {cfg}

/-- The identifiers tell the configured groups apart. -/
theorem group_eq {g h : GroupConfig} (hg : g ∈ cfg.groups) (hh : h ∈ cfg.groups)
    (hid : g.id = h.id) : g = h :=
  List.inj_on_of_nodup_map cfg.group_ids_unique hg hh hid

theorem device_eq {d e : DeviceConfig} (hd : d ∈ cfg.devices) (he : e ∈ cfg.devices)
    (hid : d.id = e.id) : d = e :=
  List.inj_on_of_nodup_map cfg.device_ids_unique hd he hid

theorem group?_eq_some_iff {groupId : String} {g : GroupConfig} :
    cfg.group? groupId = some g ↔ g ∈ cfg.groups ∧ g.id = groupId := by
  constructor
  · intro h
    exact ⟨List.mem_of_find?_eq_some h, by simpa using List.find?_some h⟩
  · rintro ⟨hmem, rfl⟩
    cases hf : cfg.group? g.id with
    | none =>
        have := List.find?_eq_none.mp hf g hmem
        simp at this
    | some g' =>
        have hid : g'.id = g.id := by simpa using List.find?_some hf
        rw [group_eq (List.mem_of_find?_eq_some hf) hmem hid]

theorem deviceConfig_of_mem {device : DeviceConfig} (h : device ∈ cfg.devices) :
    cfg.deviceConfig device.id = .ok device := by
  unfold deviceConfig
  cases hf : cfg.devices.find? (fun d => decide (d.id = device.id)) with
  | none =>
      have := List.find?_eq_none.mp hf device h
      simp at this
  | some d =>
      have hid : d.id = device.id := by simpa using List.find?_some hf
      rw [device_eq (List.mem_of_find?_eq_some hf) h hid]

/-- A member of a configured group is a configured device. -/
theorem deviceConfig_member {g : GroupConfig} {m : GroupMember} (hg : g ∈ cfg.groups)
    (hm : m ∈ g.members) : ∃ device ∈ cfg.devices, device.id = m.device
      ∧ cfg.deviceConfig m.device = .ok device := by
  obtain ⟨device, hd, hid⟩ := List.mem_map.mp (cfg.members_known g hg m hm)
  exact ⟨device, hd, hid, hid ▸ deviceConfig_of_mem hd⟩

theorem mem_groupsOf {deviceId : String} {g : GroupConfig} :
    g ∈ cfg.groupsOf deviceId ↔ g ∈ cfg.groups ∧ deviceId ∈ g.deviceIds := by
  unfold groupsOf GroupConfig.deviceIds
  simp only [List.mem_filter, List.any_eq_true, decide_eq_true_eq, List.mem_map]

end AppConfig

end JebaoFlow
