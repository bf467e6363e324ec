import Mathlib.Data.List.FinRange
import JebaoFlow.Lib.Bytes
import JebaoFlow.Protocol.Models

/-!
# Schedules of the pumps

Four product families keep 48 daily slots in their status buffer, with offsets, slot
sizes, modes and parameter bytes of their own. Decoding is selected by product key and
only reads: a populated slot that makes no sense is listed as invalid and nothing is
made up for it.
-/

namespace JebaoFlow

open Bytes

/-- `SLOT_CAPACITY`. -/
def slotCapacity : ℕ := 48

def dcPumpProProductKey : String := "0696a19599bc484f8e1866f5ccf4ee7e"
def localWavemakerProductKey : String := "1d8c63eaccac4205b92c84d77d5a08fb"
def localWavemakerProProductKey : String := "50dbc92221fd4d33ae69a1fedd43b555"
def aquariumPumpProductKey : String := "6a5c47b3ea364ecb841b47f5997a1775"

structure ScheduleSpec where
  rawStatusSize : ℕ
  slotOffset : ℕ
  slotSize : ℕ
  ymdOffset : ℕ
  hmsOffset : ℕ
  modes : List String
  decodeParameters : String → Bytes → Except PyError (Dict String Scalar)

/-- `data[index]`. -/
def byteAt (data : Bytes) (index : ℕ) : Except PyError ℕ :=
  match data[index]? with
  | some b => .ok b.toNat
  | none => .error (.indexError "index out of range")

/-! ## Parameters -/

/-- A dictionary of the named bytes of a slot. -/
def namedBytes (slot : Bytes) (fields : List (String × ℕ)) : Except PyError (Dict String Scalar) :=
  Dict.collect Prod.fst (fun field => (byteAt slot field.2).map (fun b => some (.int b)))
    fields Dict.empty

def dcParameters (_mode : String) (slot : Bytes) : Except PyError (Dict String Scalar) :=
  namedBytes slot [("flow", 5), ("frequency", 6), ("feed_time", 7)]

def localWavemakerParameters (mode : String) (slot : Bytes) :
    Except PyError (Dict String Scalar) := do
  let pulseTide ← byteAt slot 7
  if ¬ (pulseTide = 0 ∨ pulseTide = 1) then
    .error (.valueError "pulse/tide selector is outside its audited boolean range")
  else
    let parameters ← namedBytes slot
      [(if mode = "feed" then "feed_time" else "flow", 5), ("frequency", 6)]
    pure (parameters.set "pulse_tide" (.bool (pulseTide != 0)))

def localWavemakerProParameters (_mode : String) (slot : Bytes) :
    Except PyError (Dict String Scalar) :=
  namedBytes slot [("flow", 5), ("frequency", 6), ("feed_time", 7), ("custom_frequency", 8)]

def aquariumPumpParameters (mode : String) (slot : Bytes) : Except PyError (Dict String Scalar) :=
  namedBytes slot [(if mode = "feed" then "feed_time" else "gears", 5)]

/-- `_SPECS`. -/
def scheduleSpecs : List (String × ScheduleSpec) :=
  [(dcPumpProProductKey,
      { rawStatusSize := 402, slotOffset := 9, slotSize := 8, ymdOffset := 393, hmsOffset := 397
        modes := ["constant", "unverified_1", "unverified_2", "random", "feed"]
        decodeParameters := dcParameters }),
   (localWavemakerProductKey,
      { rawStatusSize := 401, slotOffset := 8, slotSize := 8, ymdOffset := 392, hmsOffset := 396
        modes := ["stopped", "classic", "sine", "random", "constant", "feed"]
        decodeParameters := localWavemakerParameters }),
   (localWavemakerProProductKey,
      { rawStatusSize := 452, slotOffset := 11, slotSize := 9, ymdOffset := 443, hmsOffset := 447
        modes := ["pulse", "sine", "constant", "random", "tidal", "nutrient_transport",
          "circulation", "feed", "custom"]
        decodeParameters := localWavemakerProParameters }),
   (aquariumPumpProductKey,
      { rawStatusSize := 302, slotOffset := 13, slotSize := 6, ymdOffset := 5, hmsOffset := 9
        modes := ["stopped", "auto", "feed"]
        decodeParameters := aquariumPumpParameters })]

/-- `_SPECS.get(product_key)`. -/
def scheduleSpec? (productKey : String) : Option ScheduleSpec :=
  (scheduleSpecs.find? (fun spec => spec.1 = productKey)).map Prod.snd

/-! ## Times -/

/-- An unused slot is all `0x00` or all `0xee`. -/
def isUnused (slot : Bytes) : Bool :=
  slot = zeros slot.length ∨ slot = List.replicate slot.length 0xEE

/-- `f"{n:02d}"`, of a number below 100. -/
def twoDigits (n : ℕ) : List Char := [Nat.digitChar (n / 10), Nat.digitChar (n % 10)]

def formatTime (hour minute : ℕ) (allow24 : Bool) : Except PyError String :=
  if hour ≤ 23 ∧ minute ≤ 59 then .ok (String.ofList (twoDigits hour ++ ':' :: twoDigits minute))
  else if allow24 = true ∧ hour = 24 ∧ minute = 0 then .ok "24:00"
  else .error (.valueError "schedule time is outside its supported wall-clock range")

def isLeapYear (year : ℕ) : Bool := year % 4 = 0 ∧ (year % 100 ≠ 0 ∨ year % 400 = 0)

def daysInMonth (year month : ℕ) : ℕ :=
  if month = 2 then if isLeapYear year then 29 else 28
  else if month = 4 ∨ month = 6 ∨ month = 9 ∨ month = 11 then 30
  else 31

/-- The proleptic Gregorian ordinal of a day, `1` for the first day of year 1. -/
def dateOrdinal (year month day : ℕ) : ℕ :=
  (year - 1) * 365 + (year - 1) / 4 - (year - 1) / 100 + (year - 1) / 400
    + ((List.range' 1 (month - 1)).map (daysInMonth year)).sum + day

/-- `datetime(year, month, day, hour, minute, second)`, in microseconds since 1970. -/
def makeDatetime (year month day hour minute second : ℕ) : Except PyError Datetime :=
  if ¬ (1 ≤ year ∧ year ≤ 9999) then
    .error (.valueError s!"year {year} is out of range")
  else if ¬ (1 ≤ month ∧ month ≤ 12) then
    .error (.valueError "month must be in 1..12")
  else if ¬ (1 ≤ day ∧ day ≤ daysInMonth year month) then
    .error (.valueError "day is out of range for month")
  else if ¬ hour ≤ 23 then .error (.valueError "hour must be in 0..23")
  else if ¬ minute ≤ 59 then .error (.valueError "minute must be in 0..59")
  else if ¬ second ≤ 59 then .error (.valueError "second must be in 0..59")
  else
    let days : ℤ := dateOrdinal year month day - dateOrdinal 1970 1 1
    .ok ((((days * 24 + hour) * 60 + minute) * 60 + second) * 1000000)

/-- The clock of the device; one that is unset or shows no real moment is left out. -/
def decodeDeviceLocalTime (raw : Bytes) (spec : ScheduleSpec) : Except PyError (Option Datetime) :=
  let ymd := slice raw spec.ymdOffset 4
  let hms := slice raw spec.hmsOffset 4
  if isUnused (ymd ++ hms) then .ok none
  else do
    if (← byteAt hms 0) ≠ 0 then .ok none
    else
      let year := (← byteAt ymd 0) * 100 + (← byteAt ymd 1)
      match makeDatetime year (← byteAt ymd 2) (← byteAt ymd 3) (← byteAt hms 1) (← byteAt hms 2)
        (← byteAt hms 3) with
      | .ok moment => .ok (some moment)
      | .error (.valueError _) => .ok none
      | .error e => .error e

/-! ## Slots -/

/-- The pattern of `ScheduleEntry.start`. -/
def isStartTime (text : String) : Bool :=
  match text.toList with
  | [a, b, ':', c, d] =>
      (((a = '0' ∨ a = '1') ∧ b.isDigit) ∨ (a = '2' ∧ '0' ≤ b ∧ b ≤ '3'))
        ∧ '0' ≤ c ∧ c ≤ '5' ∧ d.isDigit
  | _ => false

/-- The pattern of `ScheduleEntry.end`. -/
def isEndTime (text : String) : Bool := isStartTime text || text == "24:00"

/-- The validators of `ScheduleEntry`; the index of a slot is one by its type. -/
def ScheduleEntry.validate (slot : Fin 48) (start «end» mode : String) (modeCode : ℕ)
    (parameters : Dict String Scalar) : Except PyError ScheduleEntry :=
  if isStartTime start = false then .error (.validationError "start: String should match pattern")
  else if isEndTime «end» = false then
    .error (.validationError "end: String should match pattern")
  else if mode = "" then
    .error (.validationError "mode: String should have at least 1 character")
  else if h : modeCode < 256 then
    .ok { slot, start, «end», mode, modeCode := ⟨modeCode, h⟩, parameters }
  else .error (.validationError "mode_code: Input should be less than or equal to 255")

/-- What is read from a populated slot. -/
structure SlotFields where
  start : String
  «end» : String
  mode : String
  modeCode : ℕ
  parameters : Dict String Scalar

namespace ScheduleSpec

variable (spec : ScheduleSpec)

/-- `raw[start : start + spec.slot_size]`. -/
def slot (raw : Bytes) (index : Fin 48) : Bytes :=
  slice raw (spec.slotOffset + index * spec.slotSize) spec.slotSize

/-- The `try` block of the loop. -/
def readSlot (slot : Bytes) : Except PyError SlotFields := do
  let start ← formatTime (← byteAt slot 0) (← byteAt slot 1) false
  let «end» ← formatTime (← byteAt slot 2) (← byteAt slot 3) true
  let modeCode ← byteAt slot 4
  match spec.modes[modeCode]? with
  | none => .error (.indexError "tuple index out of range")
  | some mode =>
      let parameters ← spec.decodeParameters mode slot
      pure { start, «end», mode, modeCode, parameters }

/-- The loop over the slots. -/
def decodeSlots (raw : Bytes) : List (Fin 48) → List ScheduleEntry → List (Fin 48) →
    Except PyError (List ScheduleEntry × List (Fin 48))
  | [], entries, invalidSlots => .ok (entries, invalidSlots)
  | index :: indexes, entries, invalidSlots =>
      if isUnused (spec.slot raw index) then decodeSlots raw indexes entries invalidSlots
      else
        match spec.readSlot (spec.slot raw index) with
        | .ok fields => do
            let entry ← ScheduleEntry.validate index fields.start fields.end fields.mode
              fields.modeCode fields.parameters
            decodeSlots raw indexes (entries ++ [entry]) invalidSlots
        | .error (.indexError _) => decodeSlots raw indexes entries (invalidSlots ++ [index])
        | .error (.valueError _) => decodeSlots raw indexes entries (invalidSlots ++ [index])
        | .error e => .error e

end ScheduleSpec

/-- Decode a known pump schedule; products without one have none. -/
def decodeSchedule (productKey : String) (raw : Bytes) (enabled : Bool) :
    Except PyError (Option DeviceSchedule) :=
  match scheduleSpec? productKey with
  | none => .ok none
  | some spec =>
      if raw.length ≠ spec.rawStatusSize then
        .error (.valueError (s!"schedule status for {productKey} must be {spec.rawStatusSize} bytes, "
          ++ s!"got {raw.length}"))
      else do
        let (entries, invalidSlots) ← spec.decodeSlots raw (List.finRange slotCapacity) [] []
        let deviceLocalTime ← decodeDeviceLocalTime raw spec
        pure (some { enabled, deviceLocalTime, entries, invalidSlots })

end JebaoFlow
