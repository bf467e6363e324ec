import JebaoFlow.Lib.Dict
import JebaoFlow.Lib.Unicode

/-!
# Schedules in Home Assistant

The sensor of the integration shows the schedule of a device payload, which is JSON from
the broker. It takes nothing on trust: what does not look like a slot is left out, and the
parameters of a slot are filtered and cut. A time is checked character by character and
then converted, and the conversion can still raise.
-/

namespace JebaoFlow.HomeAssistant

open PyStr

/-- A JSON value as the host parses it; numbers can be infinite or a NaN. -/
inductive Json
  | null
  | bool (b : Bool)
  | int (i : ℤ)
  | float (x : PyFloat)
  | str (s : PyStr)
  | list (items : List Json)
  | dict (items : List (PyStr × Json))

/-- `item.get(key)`. -/
def field (items : List (PyStr × Json)) (key : String) : Json :=
  (Dict.lookupEntries (ofString key) items).getD .null

/-- `_SCHEDULE_SLOT_CAPACITY`. -/
def scheduleSlotCapacity : ℕ := 48

/-- `_is_schedule_time`, with what the conversions raise. -/
def isScheduleTime : Json → Except PyError Bool
  | .str [a, b, colon, c, d] =>
      if colon ≠ ofChar ':' then .ok false
      else if !isdigit [a, b] || !isdigit [c, d] then .ok false
      else if [a, b, colon, c, d] = ofString "24:00" then .ok true
      else do
        let hour ← PyStr.int [a, b]
        if ¬ hour < 24 then .ok false
        else
          let minute ← PyStr.int [c, d]
          .ok (decide (minute < 60))
  | _ => .ok false

/-- `_schedule_scalar`: the value when it is safe, cut if it is text. -/
def scheduleScalar : Json → Option Json
  | .null => some .null
  | .bool b => some (.bool b)
  | .int i => some (.int i)
  | .float x => if x.isFinite then some (.float x) else none
  | .str s => some (.str (s.take 80))
  | .list _ | .dict _ => none

/-- A key that looks like raw bytes, in any case. -/
def looksRaw (key : PyStr) : Bool :=
  contains (ofString "hex") (lower key) || (ofString "raw").isPrefixOf (lower key)

/-- One round of the loop over the parameters. -/
def keepParameter (safe : Dict PyStr Json) (entry : PyStr × Json) : Dict PyStr Json :=
  let normalizedKey := (strip entry.1).take 64
  if normalizedKey = [] ∨ looksRaw normalizedKey = true then safe
  else
    match scheduleScalar entry.2 with
    | some value => safe.set normalizedKey value
    | none => safe

/-- The filtered parameters of a slot. -/
def safeParameters : Json → Dict PyStr Json
  | .dict items => (items.take 16).foldl keepParameter Dict.empty
  | _ => Dict.empty

/-- What is shown of a slot. -/
structure ShownEntry where
  slot : ℤ
  start : PyStr
  «end» : PyStr
  mode : PyStr
  modeCode : ℤ
  parameters : Dict PyStr Json

/-- The mode and its code, when both will do. -/
def checkedMode (items : List (PyStr × Json)) : Option (PyStr × ℤ) :=
  match field items "mode", field items "mode_code" with
  | .str mode, .int modeCode =>
      if strip mode ≠ [] ∧ 0 ≤ modeCode ∧ modeCode ≤ 255 then some (mode, modeCode) else none
  | _, _ => none

/-- The slot of an item, when it is one. -/
def checkedSlot (items : List (PyStr × Json)) : Option ℤ :=
  match field items "slot" with
  | .int slot => if 0 ≤ slot ∧ slot < scheduleSlotCapacity then some slot else none
  | _ => none

/-- One round of `_schedule_entries`: the checks, in their order, and the entry. -/
def scheduleEntry : Json → Except PyError (Option ShownEntry)
  | .dict items =>
      match checkedSlot items with
      | none => .ok none
      | some slot => do
          let startsWell ← isScheduleTime (field items "start")
          if startsWell = false then .ok none
          else
            let endsWell ← isScheduleTime (field items "end")
            if endsWell = false then .ok none
            else
              match checkedMode items, field items "start", field items "end" with
              | some (mode, modeCode), .str start, .str stop =>
                  .ok (some {
                    slot, start, «end» := stop
                    mode := (strip mode).take 64
                    modeCode
                    parameters := safeParameters (field items "parameters") })
              | _, _, _ => .ok none
  | _ => .ok none

/-- The loop of `_schedule_entries`. -/
def scheduleEntriesFrom : List Json → Except PyError (List ShownEntry)
  | [] => .ok []
  | item :: items => do
      let entry ← scheduleEntry item
      let entries ← scheduleEntriesFrom items
      .ok (entry.toList ++ entries)

def scheduleEntries : Json → Except PyError (List ShownEntry)
  | .list items => scheduleEntriesFrom (items.take scheduleSlotCapacity)
  | _ => .ok []

def invalidScheduleSlots : Json → List ℤ
  | .list items =>
      (items.take scheduleSlotCapacity).filterMap (fun item => match item with
        | .int slot => if 0 ≤ slot ∧ slot < scheduleSlotCapacity then some slot else none
        | _ => none)
  | _ => []

end JebaoFlow.HomeAssistant
