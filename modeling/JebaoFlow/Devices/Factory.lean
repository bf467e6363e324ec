import JebaoFlow.Config
import JebaoFlow.Devices.Stack

/-!
# Adapters from the configuration

The observer's device factory. Its gate for hardware writes is shut whatever the configuration
says; the constructor refuses an empty address and a product it does not know.
-/

namespace JebaoFlow

theorem known_of_getProductSchema {productKey : String} {schema : ProductSchema}
    (h : getProductSchema productKey = .ok schema) : schema ∈ knownSchemas := by
  unfold getProductSchema at h
  split at h
  · rename_i hfound
    cases h
    exact List.mem_of_find?_eq_some hfound
  · cases h

theorem DeviceConfig.id_ne (config : DeviceConfig) : config.id ≠ "" := by
  intro hempty
  have hid := config.id_ok
  rw [hempty] at hid
  exact absurd hid (by decide)

/-- `create_read_only_lan_device`; the adapter is on a session with that address. -/
def createReadOnlyLanDevice (config : DeviceConfig) (address productKey : String) :
    Except PyError LanJebaoDevice :=
  if address = "" then .error (.valueError "device id and address are required")
  else
    match h : getProductSchema productKey with
    | .error e => .error e
    | .ok schema => .ok {
        deviceId := config.id
        schema
        powerLimits := config.limits
        minimumCommandIntervalMs := config.control.minimumCommandIntervalMs
        readbackAttempts := config.control.readbackAttempts
        allowHardwareWrites := false
        known := known_of_getProductSchema h
        id_ne := config.id_ne
        interval_ge := config.control.interval_ge
        attempts_pos := config.control.attempts_ge }

end JebaoFlow
