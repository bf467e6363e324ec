import JebaoFlow.HomeAssistant.Dashboard
import JebaoFlow.Proof.Deployed

/-!
# What the platforms make of the daemon's configuration

The configuration lists a descriptor of every group and every device. No factory fails on one
of them, and what it makes depends on the mode of the daemon and the kind of the pump alone.
-/

namespace JebaoFlow

open HomeAssistant Run

/-! ## What a site offers -/

namespace HomeAssistant

/-- The entities of a group: while the daemon only observes, the sensors alone. -/
def Platform.groupControls (mode : RuntimeMode) : Platform → List String
  | .binarySensor => ["availability", "hardware_lock"]
  | .sensor => ["status"]
  | .button => if mode = .control then
      ["start_feed", "stop_feed", "emergency_stop", "clear_emergency", "resume_all_members"] else []
  | .number => if mode = .control then
      ["power", "min_power", "max_power", "period", "transition"] else []
  | .select => if mode = .control then ["pattern"] else []
  | .switch => if mode = .control then ["enabled"] else []

/-- A pump that can be set: not a dosing pump. -/
def Settable (cfg : AppConfig) (device : DeviceConfig) : Prop :=
  cfg.runtime.mode = .control ∧ device.type ≠ .dosingPump

instance (cfg : AppConfig) (device : DeviceConfig) : Decidable (Settable cfg device) := by
  unfold Settable
  infer_instance

/-- The entities of a device. -/
def Platform.deviceControls (cfg : AppConfig) (device : DeviceConfig) : Platform → List String
  | .binarySensor => ["device_availability", "actual_running", "device_problem"]
  | .sensor => if device.type = .dosingPump then ["device_status", "schedule"]
      else ["device_status", "actual_power", "actual_mode", "schedule"]
  | .button => if Settable cfg device ∧ cfg.groupsOf device.id ≠ [] then ["resume_group"] else []
  | .number => if Settable cfg device then ["device_power"] else []
  | .select => []
  | .switch => if Settable cfg device then ["device_enabled"] else []

end HomeAssistant

/-- A descriptor of the configuration, and what is to be made of it. -/
structure Offer where
  id : PyStr
  descriptor : Object
  entities : List Entity

namespace Site

variable (site : Site)

def groupEntity (group : GroupConfig) (control : String) : Entity :=
  .group {
    entryId := site.entryId
    groupId := PyStr.ofString group.id
    groupName := PyStr.ofString group.name
    control }

def deviceEntity (device : DeviceConfig) (control : String) : Entity :=
  .device {
    entryId := site.entryId
    deviceId := PyStr.ofString device.id
    deviceName := PyStr.ofString device.name
    deviceType := PyStr.ofString device.type.text
    controls := (deviceControls site.cfg device).map PyStr.ofString
    control
    range := if control = "device_power" then
        some (.fin (device.limits.minPower.val : ℤ), .fin (device.limits.maxPower.val : ℤ))
      else none }

/-- The descriptor of a device in the daemon's configuration. -/
def describe (device : DeviceConfig) : DeviceDescriptor where
  id := device.id
  name := device.name
  type := device.type
  grouped := site.cfg.groups.any (fun group => group.members.any (fun m => device.id = m.device))
  ui := if device.type = .wavemaker then "flow_member" else "simple_equipment"
  controls := deviceControls site.cfg device
  observables := deviceObservables device
  minPower := device.limits.minPower
  maxPower := device.limits.maxPower

/-- What the daemon of a site offers to a loop. -/
def offers : Loop → List Offer
  | .groups platform => site.cfg.groups.map (fun group => {
      id := PyStr.ofString group.id
      descriptor := Object.of (GroupDescriptor.json { id := group.id, name := group.name })
      entities := (platform.groupControls site.cfg.runtime.mode).map (site.groupEntity group) })
  | .devices platform => site.cfg.devices.map (fun device => {
      id := PyStr.ofString device.id
      descriptor := Object.of (site.describe device).json
      entities := (platform.deviceControls site.cfg device).map (site.deviceEntity device) })

/-- Everything a loop is to hand over. -/
def entities (loop : Loop) : List Entity := (site.offers loop).flatMap Offer.entities

end Site

variable {site : Site} {conv : Conversions} {runtime : LiveRuntime} {loop : Loop}

/-! ## The configuration as it is read -/

/-- The entry has the daemon's configuration. -/
structure Informed (site : Site) (runtime : LiveRuntime) : Prop where
  entry : runtime.entryId = site.entryId
  config : runtime.systemConfig = Object.of (systemConfig site.daemon site.cfg).json

theorem getOr_object (fields : List (String × Json)) (key : String) (default : Json) :
    getOr (Object.of (Json.object fields)) key default = (Dict.lookupEntries key fields).getD default := by
  unfold getOr Json.object Object.of
  dsimp only
  rw [lookup_object]

theorem item_object {fields : List (String × Json)} {key : String} {value : Json}
    (h : Dict.lookupEntries key fields = some value) :
    item (Object.of (Json.object fields)) key = .ok value := by
  unfold item Json.object Object.of
  dsimp only
  rw [lookup_object, h]

theorem filterMap_objects {α : Type} (write : α → List (String × Json)) : ∀ items : List α,
    (items.map (fun a => Json.object (write a))).filterMap asObject
      = items.map (fun a => Object.of (Json.object (write a)))
  | [] => rfl
  | a :: items => by
      rw [List.map_cons, List.map_cons, List.filterMap_cons, filterMap_objects write items]
      rfl

section Config

variable (hconfig : runtime.systemConfig = Object.of (systemConfig site.daemon site.cfg).json)

include hconfig

theorem configured_of_config (key : String) (default : Json) :
    runtime.configured key default = getOr (Object.of (systemConfig site.daemon site.cfg).json) key
      default := by
  unfold LiveRuntime.configured getOr
  rw [hconfig]

theorem runtimeMode_of_config :
    runtime.runtimeMode conv.str = PyStr.ofString site.cfg.runtime.mode.text := by
  unfold LiveRuntime.runtimeMode
  rw [configured_of_config hconfig]
  unfold SystemConfigPayload.json
  rw [getOr_object]
  rfl

theorem instanceId_of_config : runtime.instanceId conv.str = PyStr.ofString site.daemon.id := by
  unfold LiveRuntime.instanceId
  rw [configured_of_config hconfig]
  unfold SystemConfigPayload.json
  rw [getOr_object]
  rfl

theorem observerMode_of_config :
    runtime.observerMode conv.str = decide (site.cfg.runtime.mode = .observer) := by
  unfold LiveRuntime.observerMode
  rw [runtimeMode_of_config hconfig, decide_eq_decide, ofString_injective.eq_iff]
  cases site.cfg.runtime.mode <;> decide

theorem descriptors_of_config : ∀ loop : Loop,
    loop.descriptors runtime = (site.offers loop).map Offer.descriptor
  | .groups platform => by
      show runtime.descriptors "groups" = _
      unfold LiveRuntime.descriptors
      rw [configured_of_config hconfig]
      unfold SystemConfigPayload.json
      rw [getOr_object]
      show List.filterMap _ (((systemConfig site.daemon site.cfg).groups).map GroupDescriptor.json) = _
      refine (filterMap_objects (fun g : GroupDescriptor =>
        [("id", Json.text g.id), ("name", Json.text g.name)]) _).trans ?_
      unfold systemConfig Site.offers
      rw [List.map_map, List.map_map]
      rfl
  | .devices platform => by
      show runtime.descriptors "devices" = _
      unfold LiveRuntime.descriptors
      rw [configured_of_config hconfig]
      unfold SystemConfigPayload.json
      rw [getOr_object]
      show List.filterMap _ (((systemConfig site.daemon site.cfg).devices).map DeviceDescriptor.json) = _
      refine (filterMap_objects (fun d : DeviceDescriptor =>
        [("id", Json.text d.id), ("name", Json.text d.name), ("type", Json.text d.type.text),
          ("grouped", .bool d.grouped), ("ui", Json.text d.ui),
          ("controls", .list (d.controls.map Json.text)),
          ("observables", .list (d.observables.map Json.text)), ("min_power", Json.percent d.minPower),
          ("max_power", Json.percent d.maxPower)]) _).trans ?_
      unfold systemConfig Site.offers
      rw [List.map_map, List.map_map]
      rfl

end Config

/-! ## The factories on what is offered -/

theorem identifier_ne {id : String} (h : isIdentifier id = true) : PyStr.ofString id ≠ [] := by
  intro hnil
  have hempty : id = "" := String.toList_inj.mp (List.map_eq_nil_iff.mp hnil)
  rw [hempty] at h
  exact absurd h (by decide)

/-- Every offer is recognised by its identifier. -/
theorem identifierOf_offer : ∀ {loop : Loop}, ∀ offer ∈ site.offers loop,
    identifierOf conv offer.descriptor = some offer.id
  | .groups platform, offer, hoffer => by
      obtain ⟨group, _, rfl⟩ := List.mem_map.mp hoffer
      unfold identifierOf GroupDescriptor.json
      rw [getOr_object]
      exact if_neg (identifier_ne group.id_ok)
  | .devices platform, offer, hoffer => by
      obtain ⟨device, _, rfl⟩ := List.mem_map.mp hoffer
      unfold identifierOf DeviceDescriptor.json
      rw [getOr_object]
      exact if_neg (identifier_ne device.id_ok)

theorem contains_texts (word : String) (words : List String) :
    (Json.list (words.map Json.text)).contains word = .ok (decide (word ∈ words)) := by
  refine congrArg Except.ok ?_
  rw [List.any_map]
  rw [Bool.eq_iff_iff, List.any_eq_true, decide_eq_true_eq]
  constructor
  · rintro ⟨w, hw, hsame⟩
    obtain rfl := ofString_injective (of_decide_eq_true hsame)
    exact hw
  · exact fun hw => ⟨word, hw, decide_eq_true rfl⟩

theorem mapM_ok {α β : Type} {make : α → Except PyError β} {f : α → β}
    (h : ∀ a, make a = .ok (f a)) (items : List α) : items.mapM make = .ok (items.map f) := by
  rw [funext h]
  exact List.mapM_pure

theorem texts_list (words : List String) :
    (Json.list (words.map Json.text)).texts conv = .ok (words.map PyStr.ofString) := by
  refine congrArg Except.ok ?_
  rw [List.map_map]
  rfl

theorem hundred_lt_floatBound : 100 < floatBound := by
  unfold floatBound
  have hbound : ∀ exponent, 100 < 2 ^ exponent * (2 ^ 54 - 1) := fun exponent =>
    (by norm_num : 100 < 2 ^ 54 - 1).trans_le
      (Nat.le_mul_of_pos_left _ (Nat.two_pow_pos exponent))
  exact hbound _

theorem groupEntities_offer (hentry : runtime.entryId = site.entryId) (group : GroupConfig)
    (controls : List String) :
    groupEntities conv runtime controls
        (Object.of (GroupDescriptor.json { id := group.id, name := group.name }))
      = .ok (controls.map (site.groupEntity group)) := by
  refine mapM_ok (fun control => ?_) controls
  unfold GroupEntity.create GroupDescriptor.json
  rw [PyError.bind_of_ok (item_object rfl), PyError.bind_of_ok (item_object rfl), hentry]
  rfl

section Devices

variable (hentry : runtime.entryId = site.entryId) (device : DeviceConfig)

include hentry

/-- A device entity that is no power number. -/
theorem deviceEntity_create (control : String) :
    DeviceEntity.create conv runtime (Object.of (site.describe device).json) control
      = .ok {
        entryId := site.entryId
        deviceId := PyStr.ofString device.id
        deviceName := PyStr.ofString device.name
        deviceType := PyStr.ofString device.type.text
        controls := (deviceControls site.cfg device).map PyStr.ofString
        control } := by
  unfold DeviceEntity.create DeviceDescriptor.json
  rw [PyError.bind_of_ok (item_object rfl), PyError.bind_of_ok (item_object rfl),
    PyError.bind_of_ok (item_object rfl), getOr_object]
  show (Json.list (((site.describe device).controls).map Json.text)).texts conv >>= _ = _
  rw [PyError.bind_of_ok (texts_list _), hentry]
  rfl

theorem deviceEntities_offer {controls : List String} (hpower : "device_power" ∉ controls) :
    deviceEntities conv runtime controls (Object.of (site.describe device).json)
      = .ok (controls.map (site.deviceEntity device)) := by
  unfold deviceEntities
  have hmake : ∀ control, (DeviceEntity.create conv runtime (Object.of (site.describe device).json)
      control >>= fun entity => Except.ok (Entity.device entity)) = .ok (.device {
        entryId := site.entryId
        deviceId := PyStr.ofString device.id
        deviceName := PyStr.ofString device.name
        deviceType := PyStr.ofString device.type.text
        controls := (deviceControls site.cfg device).map PyStr.ofString
        control }) := by
    intro control
    rw [PyError.bind_of_ok (deviceEntity_create hentry device control)]
  refine (mapM_ok hmake controls).trans (congrArg Except.ok (List.map_congr_left ?_))
  intro control hcontrol
  have hne : control ≠ "device_power" := fun heq => hpower (heq ▸ hcontrol)
  unfold Site.deviceEntity
  rw [if_neg hne]

theorem devicePowerNumber_offer :
    DevicePowerNumber.create conv runtime (Object.of (site.describe device).json)
      = .ok [site.deviceEntity device "device_power"] := by
  have hfloat : ∀ p : Percent, (Json.percent p).toFloat conv = .ok (.fin (p.val : ℤ)) :=
    fun p => if_pos (p.property.trans_lt hundred_lt_floatBound)
  unfold DevicePowerNumber.create
  rw [PyError.bind_of_ok (deviceEntity_create hentry device _)]
  unfold DeviceDescriptor.json
  rw [getOr_object, getOr_object]
  show (Json.percent device.limits.minPower).toFloat conv >>= _ = _
  rw [PyError.bind_of_ok (hfloat _)]
  show (Json.percent device.limits.maxPower).toFloat conv >>= _ = _
  rw [PyError.bind_of_ok (hfloat _)]
  rfl

end Devices

/-- A list of words in the descriptor of a device. -/
theorem ifListed_offer {device : DeviceConfig} {key word : String} {words : List String}
    {make : Except PyError (List Entity)}
    (hkey : getOr (Object.of (site.describe device).json) key (.list [])
      = .list (words.map Json.text)) :
    ifListed key word (Object.of (site.describe device).json) make
      = if word ∈ words then make else .ok [] := by
  unfold ifListed
  rw [hkey, PyError.bind_of_ok (contains_texts word words)]
  by_cases hword : word ∈ words
  · rw [if_pos hword, if_pos (decide_eq_true hword)]
  · rw [if_neg hword, if_neg (by rw [decide_eq_true_eq]; exact hword)]

theorem describe_controls (device : DeviceConfig) :
    getOr (Object.of (site.describe device).json) "controls" (.list [])
      = .list ((deviceControls site.cfg device).map Json.text) := by
  unfold DeviceDescriptor.json
  rw [getOr_object]
  rfl

theorem describe_observables (device : DeviceConfig) :
    getOr (Object.of (site.describe device).json) "observables" (.list [])
      = .list ((deviceObservables device).map Json.text) := by
  unfold DeviceDescriptor.json
  rw [getOr_object]
  rfl

theorem enabled_mem_deviceControls {device : DeviceConfig} :
    "enabled" ∈ deviceControls site.cfg device ↔ Settable site.cfg device := by
  unfold deviceControls Settable
  cases site.cfg.runtime.mode <;> split_ifs <;> simp_all

theorem power_mem_deviceControls {device : DeviceConfig} :
    "power" ∈ deviceControls site.cfg device ↔ Settable site.cfg device := by
  unfold deviceControls Settable
  cases site.cfg.runtime.mode <;> split_ifs <;> simp_all

theorem resume_mem_deviceControls {device : DeviceConfig} :
    "resume_group" ∈ deviceControls site.cfg device
      ↔ Settable site.cfg device ∧ site.cfg.groupsOf device.id ≠ [] := by
  unfold deviceControls Settable
  cases site.cfg.runtime.mode <;> split_ifs <;> simp_all

/-- What is listed under `controls` is an empty list in observer mode anyway. -/
theorem unlessObserving_offer (h : Informed site runtime) {make : Except PyError (List Entity)} :
    unlessObserving conv runtime make
      = if site.cfg.runtime.mode = .control then make else .ok [] := by
  unfold unlessObserving
  rw [observerMode_of_config h.config]
  cases site.cfg.runtime.mode <;> rfl

/-- What is made of a device that lists a word under its controls. -/
theorem settable_offer (h : Informed site runtime) {device : DeviceConfig} {word control : String}
    {P : Prop} [Decidable P] {make : Except PyError (List Entity)}
    (hmake : make = .ok [site.deviceEntity device control])
    (hiff : word ∈ deviceControls site.cfg device ↔ P) :
    unlessObserving conv runtime
        (ifListed "controls" word (Object.of (site.describe device).json) make)
      = .ok ((if P then [control] else []).map (site.deviceEntity device)) := by
  rw [unlessObserving_offer h, ifListed_offer (describe_controls device), hmake]
  by_cases hlisted : word ∈ deviceControls site.cfg device
  · have hmode : site.cfg.runtime.mode = .control := by
      cases hobserver : site.cfg.runtime.mode with
      | control => rfl
      | observer =>
          unfold deviceControls at hlisted
          rw [if_pos hobserver] at hlisted
          cases hlisted
    rw [if_pos hmode, if_pos hlisted, if_pos (hiff.mp hlisted)]
    rfl
  · rw [if_neg hlisted, ite_self, if_neg (fun hP => hlisted (hiff.mpr hP))]
    rfl

/-- **Every factory makes what is offered.** -/
theorem factory_offer (h : Informed site runtime) : ∀ {loop : Loop}, ∀ offer ∈ site.offers loop,
    loop.factory conv runtime offer.descriptor = .ok offer.entities
  | .groups platform, offer, hoffer => by
      obtain ⟨group, _, rfl⟩ := List.mem_map.mp hoffer
      have hmade := fun controls => @groupEntities_offer site conv _ h.entry group controls
      have hcontrol : ∀ controls, (unlessObserving conv runtime (groupEntities conv runtime controls
          (Object.of (GroupDescriptor.json { id := group.id, name := group.name }))))
            = .ok ((if site.cfg.runtime.mode = .control then controls else []).map
                (site.groupEntity group)) := by
        intro controls
        rw [unlessObserving_offer h, hmade]
        split <;> rfl
      cases platform with
      | binarySensor | sensor => exact hmade _
      | button | number | select | switch => exact hcontrol _
  | .devices platform, offer, hoffer => by
      obtain ⟨device, _, rfl⟩ := List.mem_map.mp hoffer
      cases platform with
      | binarySensor => exact deviceEntities_offer h.entry device (by decide)
      | select => rfl
      | button =>
          exact settable_offer h (deviceEntities_offer h.entry device (by decide))
            resume_mem_deviceControls
      | number =>
          exact settable_offer h (devicePowerNumber_offer h.entry device) power_mem_deviceControls
      | switch =>
          exact settable_offer h (deviceEntities_offer h.entry device (by decide))
            enabled_mem_deviceControls
      | sensor =>
          have hlisted : ∀ word control : String, control ≠ "device_power" →
              ifListed "observables" word (Object.of (site.describe device).json)
                (deviceEntities conv runtime [control] (Object.of (site.describe device).json))
              = .ok ((if word ∈ deviceObservables device then [control] else []).map
                  (site.deviceEntity device)) := by
            intro word control hcontrol
            rw [ifListed_offer (describe_observables device), deviceEntities_offer h.entry device
              (by rw [List.mem_singleton]; exact hcontrol.symm)]
            split <;> rfl
          show Platform.sensor.deviceFactory conv runtime (Object.of (site.describe device).json) = _
          unfold Platform.deviceFactory
          dsimp only
          rw [PyError.bind_of_ok (deviceEntities_offer h.entry device (by decide)),
            PyError.bind_of_ok (hlisted _ _ (by decide)), PyError.bind_of_ok (hlisted _ _ (by decide)),
            PyError.bind_of_ok (hlisted _ _ (by decide)), ← List.map_append, ← List.map_append,
            ← List.map_append]
          refine congrArg (fun controls => Except.ok (List.map (site.deviceEntity device) controls)) ?_
          unfold deviceObservables Platform.deviceControls
          split <;> rfl

theorem offers_nodup : ∀ loop : Loop, ((site.offers loop).map Offer.id).Nodup
  | .groups platform => by
      unfold Site.offers
      rw [List.map_map]
      have hids := List.Nodup.map ofString_injective site.cfg.group_ids_unique
      rw [List.map_map] at hids
      exact hids
  | .devices platform => by
      unfold Site.offers
      rw [List.map_map]
      have hids := List.Nodup.map ofString_injective site.cfg.device_ids_unique
      rw [List.map_map] at hids
      exact hids

end JebaoFlow
