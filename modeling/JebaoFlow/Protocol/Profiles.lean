import JebaoFlow.Protocol.Schema

/-!
# Audited product profiles

The operational datapoints of the known products.
-/

namespace JebaoFlow

def boolDatapoint (id : ℕ) (name : String) (bitOffset : ℕ) (byteOffset : ℕ := 0)
    (kind : DatapointKind := .writable) (name_ne : name ≠ "" := by decide) : Datapoint where
  id
  name
  dataType := .bool
  kind
  position := { byteOffset, bitOffset, unit := .bit }
  name_ne

def enumDatapoint (id : ℕ) (name : String) (bitOffset length : ℕ) (values : List String)
    (name_ne : name ≠ "" := by decide) (values_ne : values ≠ [] := by decide)
    (length_pos : 0 < length := by decide) : Datapoint where
  id
  name
  dataType := .enum
  kind := .writable
  position := { byteOffset := 0, bitOffset, length, unit := .bit, length_pos }
  enumValues := values
  name_ne
  enum_values := fun _ => values_ne

def uint8Datapoint (id : ℕ) (name : String) (byteOffset : ℕ) (minimum maximum : ℤ)
    (values : List String := []) (name_ne : name ≠ "" := by decide)
    (range : minimum ≤ maximum := by decide) : Datapoint where
  id
  name
  dataType := .uint8
  kind := .writable
  position := { byteOffset }
  enumValues := values
  numeric := some { minimum, maximum, range }
  name_ne
  enum_values := fun h => DataType.noConfusion h
  numeric_spec := fun _ => rfl

def faults (startId byteOffset : ℕ) : List Datapoint :=
  [boolDatapoint startId "Fault_Overcurrent" 0 byteOffset .fault,
   boolDatapoint (startId + 1) "Fault_Overvoltage" 1 byteOffset .fault,
   boolDatapoint (startId + 2) "Fault_OverTemp" 2 byteOffset .fault,
   boolDatapoint (startId + 3) "Fault_Undervoltage" 3 byteOffset .fault,
   boolDatapoint (startId + 4) "Fault_Lockedrotor" 4 byteOffset .fault,
   boolDatapoint (startId + 5) "Fault_no_liveload" 5 byteOffset .fault,
   boolDatapoint (startId + 6) "Fault_UART" 6 byteOffset .fault]

def dcPumpPro : ProductSchema where
  name := "DC Pump Pro (WiFi+BLE)"
  productKey := "0696a19599bc484f8e1866f5ccf4ee7e"
  rawStatusSize := 402
  attributeFlagsSize := 8
  attributeValuesSize := 401
  bitGroupWidth := 1
  attributes :=
    [boolDatapoint 0 "SwitchON" 0,
     boolDatapoint 1 "TimerON" 1,
     uint8Datapoint 2 "Mode" 1 0 255 ["constant", "pulse", "sine", "random", "feed"],
     uint8Datapoint 3 "Flow" 2 0 100,
     uint8Datapoint 4 "Frequency" 3 0 100,
     uint8Datapoint 5 "FeedTime" 4 1 60,
     uint8Datapoint 6 "AutoMode" 5 0 255 ["constant", "pulse", "sine", "random", "feed"],
     uint8Datapoint 7 "AutoFlow" 6 0 100,
     uint8Datapoint 8 "AutoFreq" 7 0 100,
     uint8Datapoint 9 "AutoFeedTime" 8 1 60]
    ++ faults 60 401
  enabledAttribute := some "SwitchON"
  powerAttribute := some "Flow"
  modeAttribute := some "Mode"
  frequencyAttribute := some "Frequency"
  ids_unique := by decide +kernel
  names_unique := by decide +kernel
  logical_known := by decide +kernel
  within_status := by decide +kernel
  within_control := by decide +kernel

def dosingPump : ProductSchema where
  name := "Dosing Pump (no AP time-sync)"
  productKey := "5b3c136fd4b74f3fb2a366a254c76c9a"
  rawStatusSize := 394
  attributeFlagsSize := 3
  attributeValuesSize := 391
  bitGroupWidth := 2
  attributes :=
    [boolDatapoint 0 "switch" 0,
     boolDatapoint 1 "channe1" 1,
     boolDatapoint 2 "channe2" 2,
     boolDatapoint 3 "channe3" 3,
     boolDatapoint 4 "channe4" 4,
     boolDatapoint 5 "Timer1ON" 5,
     boolDatapoint 6 "Timer2ON" 6,
     boolDatapoint 7 "Timer3ON" 7,
     boolDatapoint 8 "Timer4ON" 8,
     boolDatapoint 9 "CALSW" 9,
     enumDatapoint 10 "CALSet" 10 2 ["calibrate_1", "calibrate_2", "calibrate_3", "calibrate_4"],
     uint8Datapoint 11 "IntervalT1" 2 0 30,
     uint8Datapoint 12 "IntervalT2" 3 0 30,
     uint8Datapoint 13 "IntervalT3" 4 0 30,
     uint8Datapoint 14 "IntervalT4" 5 0 30,
     uint8Datapoint 15 "Calib1" 6 10 100,
     boolDatapoint 21 "OpenCircuit" 0 392 .alert,
     boolDatapoint 22 "Fault_UART" 0 393 .fault]
  enabledAttribute := some "switch"
  controlSupported := false
  ids_unique := by decide +kernel
  names_unique := by decide +kernel
  logical_known := by decide +kernel
  within_status := by decide +kernel
  within_control := by decide +kernel

def localWavemaker : ProductSchema where
  name := "Local Wavemaker (with AP time-sync)"
  productKey := "1d8c63eaccac4205b92c84d77d5a08fb"
  rawStatusSize := 401
  attributeFlagsSize := 8
  attributeValuesSize := 400
  bitGroupWidth := 2
  attributes :=
    [boolDatapoint 0 "SwitchON" 0,
     boolDatapoint 1 "PulseTide" 1,
     boolDatapoint 2 "FeedSwitch" 2,
     boolDatapoint 3 "TimerON" 3,
     boolDatapoint 4 "AutoPulseTide" 4,
     enumDatapoint 5 "Mode" 5 2 ["classic", "sine", "random", "constant"],
     enumDatapoint 6 "Linkage" 7 2 ["independent", "master", "slave"],
     enumDatapoint 7 "AutoMode" 9 3 ["stopped", "classic", "sine", "random", "constant", "feed"],
     uint8Datapoint 8 "Flow" 2 0 100,
     uint8Datapoint 9 "Frequency" 3 0 100,
     uint8Datapoint 10 "FeedTime" 4 1 60,
     uint8Datapoint 11 "AutoFlow" 5 0 100,
     uint8Datapoint 12 "AutoFreq" 6 0 100,
     uint8Datapoint 13 "AutoFeedTime" 7 1 60]
    ++ faults 64 400
  enabledAttribute := some "SwitchON"
  powerAttribute := some "Flow"
  modeAttribute := some "Mode"
  frequencyAttribute := some "Frequency"
  ids_unique := by decide +kernel
  names_unique := by decide +kernel
  logical_known := by decide +kernel
  within_status := by decide +kernel
  within_control := by decide +kernel

def aquariumPump : ProductSchema where
  name := "Aquarium Pump (WiFi+BLE)"
  productKey := "6a5c47b3ea364ecb841b47f5997a1775"
  rawStatusSize := 302
  attributeFlagsSize := 8
  attributeValuesSize := 301
  bitGroupWidth := 1
  attributes :=
    [boolDatapoint 0 "SwitchON" 0,
     boolDatapoint 1 "Mode" 1,
     boolDatapoint 2 "FeedSwitch" 2,
     boolDatapoint 3 "TimerON" 3,
     enumDatapoint 4 "AutoMode" 4 2 ["stopped", "auto", "feed"],
     uint8Datapoint 5 "Motor_Speed" 1 0 100,
     uint8Datapoint 6 "FeedTime" 2 1 60,
     uint8Datapoint 7 "AutoGears" 3 0 100,
     uint8Datapoint 8 "AutoFeedTime" 4 1 60]
    ++ faults 59 301
  enabledAttribute := some "SwitchON"
  powerAttribute := some "Motor_Speed"
  ids_unique := by decide +kernel
  names_unique := by decide +kernel
  logical_known := by decide +kernel
  within_status := by decide +kernel
  within_control := by decide +kernel

def localWavemakerPro : ProductSchema where
  name := "Local Wavemaker Pro (WiFi+BLE)"
  productKey := "50dbc92221fd4d33ae69a1fedd43b555"
  rawStatusSize := 452
  attributeFlagsSize := 8
  attributeValuesSize := 451
  bitGroupWidth := 1
  attributes :=
    [boolDatapoint 0 "SwitchON" 0,
     boolDatapoint 1 "TimerON" 1,
     enumDatapoint 2 "Linkage" 2 2 ["independent", "master", "sync_slave", "async_slave"],
     uint8Datapoint 3 "Mode" 1 0 255
       ["pulse", "sine", "constant", "random", "tidal", "nutrient_transport", "circulation",
        "feed", "custom"],
     uint8Datapoint 4 "Flow" 2 0 100,
     uint8Datapoint 5 "Frequency" 3 0 100,
     uint8Datapoint 6 "Cust_Wav_Freq" 4 0 100,
     uint8Datapoint 7 "FeedTime" 5 1 60,
     uint8Datapoint 8 "AutoMode" 6 0 255
       ["pulse", "sine", "constant", "random", "tidal", "nutrient_transport", "circulation",
        "feed", "custom"],
     uint8Datapoint 9 "AutoFlow" 7 0 100,
     uint8Datapoint 10 "AutoFreq" 8 0 100,
     uint8Datapoint 11 "Auto_Cust_Wav_Freq" 9 0 100,
     uint8Datapoint 12 "AutoFeedTime" 10 1 60]
    ++ faults 63 451
  enabledAttribute := some "SwitchON"
  powerAttribute := some "Flow"
  modeAttribute := some "Mode"
  frequencyAttribute := some "Frequency"
  ids_unique := by decide +kernel
  names_unique := by decide +kernel
  logical_known := by decide +kernel
  within_status := by decide +kernel
  within_control := by decide +kernel

/-- `KNOWN_SCHEMAS`, by product key. -/
def knownSchemas : List ProductSchema :=
  [dcPumpPro, dosingPump, localWavemaker, aquariumPump, localWavemakerPro]

def getProductSchema (productKey : String) : Except PyError ProductSchema :=
  match knownSchemas.find? (fun schema => schema.productKey = productKey) with
  | some schema => .ok schema
  | none => .error (.keyError s!"unsupported product key '{productKey}'")

end JebaoFlow
