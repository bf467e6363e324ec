import JebaoFlow.HomeAssistant.Calls
import JebaoFlow.Proof.Readings

/-!
# From a call to the record it changes

A call that leaves is a valid command, under the topic of what it is about, unless a time is
asked for that is not a number. What becomes of it is up to the daemon, and shows when everything
has arrived.
-/

namespace JebaoFlow

open HomeAssistant PyStr Run

variable {site : Site} {conv : Conversions} {runtime : LiveRuntime} {requestId id : String}
  {published : PublishedCommand}

/-! ## What can be asked -/

namespace HomeAssistant

/-- The check the host makes before a number is set; it lets a NaN through. -/
def InRange (least greatest value : PyFloat) : Prop :=
  value.lt least = false ∧ greatest.lt value = false

/-- The call is one of an entity of the device, and the host lets it through. -/
def DeviceCall.Offered (cfg : AppConfig) (device : DeviceConfig) : DeviceCall → Prop
  | .turn _ => "device_enabled" ∈ Platform.deviceControls cfg device .switch
  | .setPower value => "device_power" ∈ Platform.deviceControls cfg device .number
      ∧ InRange (.fin (device.limits.minPower.val : ℤ)) (.fin (device.limits.maxPower.val : ℤ)) value
  | .resume => "resume_group" ∈ Platform.deviceControls cfg device .button

/-- The call is one of an entity of a group, and the host lets it through. -/
def GroupCall.Offered : GroupCall → Prop
  | .turn _ | .selectPattern _ => True
  | .setNumber description value => description ∈ numberDescriptions
      ∧ InRange (.fin (description.nativeMinValue : ℤ)) (.fin (description.nativeMaxValue : ℤ)) value
  | .press action => action ∈ buttonActions

/-- What is asked for is not a NaN. -/
def GroupCall.IsNumber : GroupCall → Prop
  | .setNumber _ value => value ≠ .nan
  | .turn _ | .selectPattern _ | .press _ => True

end HomeAssistant

/-! ## Reading the fields back -/

theorem lookup_asked {key : String} {value : Option Json} : ∀ {asked : List (String × Option Json)},
    (asked.map Prod.fst).Nodup → (key, value) ∈ asked →
    Dict.lookupEntries key (asked.filterMap (fun field => field.2.map (fun value => (field.1, value))))
      = value
  | (other, found) :: asked, hnd, hmem => by
      rw [List.map_cons, List.nodup_cons] at hnd
      have hkept : (key, value) ∈ asked → other ≠ key := fun hrest heq =>
        hnd.1 (heq ▸ List.mem_map.mpr ⟨_, hrest, rfl⟩)
      rcases List.mem_cons.mp hmem with heq | hrest
      · cases heq
        cases value with
        | some json =>
            show Dict.lookupEntries key ((key, json) :: _) = some json
            rw [Dict.lookupEntries, if_pos rfl]
        | none =>
            -- nothing further is written under the key
            have hnone : Dict.lookupEntries key (asked.filterMap
                (fun field => field.2.map (fun value => (field.1, value)))) = none := by
              rw [← Option.not_isSome_iff_eq_none, Dict.lookupEntries_isSome_iff]
              intro hkey
              obtain ⟨written, hwritten, rfl⟩ := List.mem_map.mp hkey
              obtain ⟨field, hfield, hsome⟩ := List.mem_filterMap.mp hwritten
              obtain ⟨json, _, rfl⟩ := Option.map_eq_some_iff.mp hsome
              exact hnd.1 (List.mem_map.mpr ⟨field, hfield, rfl⟩)
            exact hnone
      · have hrest' := lookup_asked hnd.2 hrest
        cases found with
        | none => exact hrest'
        | some json =>
            show Dict.lookupEntries key ((other, json) :: _) = value
            rw [Dict.lookupEntries, if_neg (hkept hrest)]
            exact hrest'

/-- What was asked for can be read back. -/
theorem lookup_commandFields {asked : List (String × Option Json)} {key : String}
    {value : Option Json} (hnd : (("request_id" :: "source" :: asked.map Prod.fst)).Nodup)
    (hmem : (key, value) ∈ asked) :
    Dict.lookupEntries (ofString key) (commandFields requestId asked) = value := by
  obtain ⟨hrequest, hnd⟩ := List.nodup_cons.mp hnd
  obtain ⟨hsource, hnd⟩ := List.nodup_cons.mp hnd
  have hkey : key ∈ asked.map Prod.fst := List.mem_map.mpr ⟨_, hmem, rfl⟩
  have hnotRequest : "request_id" ≠ key := by
    rintro rfl
    exact hrequest (List.mem_cons_of_mem _ hkey)
  have hnotSource : "source" ≠ key := by
    rintro rfl
    exact hsource hkey
  unfold commandFields
  rw [lookup_object]
  show Dict.lookupEntries key (("request_id", _) :: ("source", _) :: _) = value
  rw [Dict.lookupEntries, if_neg hnotRequest, Dict.lookupEntries, if_neg hnotSource]
  exact lookup_asked hnd hmem

theorem lookup_requestId (asked : List (String × Option Json)) :
    Dict.lookupEntries (ofString "request_id") (commandFields requestId asked)
      = some (.text requestId) := by
  unfold commandFields
  rw [lookup_object]
  rfl

/-- Two commands with the same fields ask for the same under every key. -/
theorem asked_inj {keys : List String} (hnd : ("request_id" :: "source" :: keys).Nodup)
    {asked asked' : List (String × Option Json)} {requestId' : String}
    (hkeys : asked.map Prod.fst = keys) (hkeys' : asked'.map Prod.fst = keys)
    (h : commandFields requestId asked = commandFields requestId' asked') {α : Type} {write : α → Json}
    (hwrite : Function.Injective write) {a b : Option α} {key : String} (i : ℕ)
    (ha : asked[i]? = some (key, a.map write)) (hb : asked'[i]? = some (key, b.map write)) : a = b := by
  refine Option.map_injective hwrite ?_
  rw [← lookup_commandFields (hkeys ▸ hnd) (List.mem_of_getElem? ha), h,
    lookup_commandFields (hkeys' ▸ hnd) (List.mem_of_getElem? hb)]

theorem requestId_inj {asked asked' : List (String × Option Json)} {requestId' : String}
    (h : commandFields requestId asked = commandFields requestId' asked') : requestId = requestId' := by
  have hlookup := congrArg (Dict.lookupEntries (ofString "request_id")) h
  rw [lookup_requestId, lookup_requestId] at hlookup
  exact ofString_injective (Json.str.inj (Option.some.inj hlookup))

theorem percent_injective : Function.Injective Json.percent :=
  fun _ _ h => Subtype.ext (Int.ofNat_inj.mp (Json.int.inj h))

theorem patternText_injective : Function.Injective (fun kind : PatternKind => Json.text kind.text) := by
  intro a b h
  have htext : a.text = b.text := ofString_injective (Json.str.inj h)
  revert htext
  cases a <;> cases b <;> decide

theorem groupAction_injective :
    Function.Injective (fun action : GroupAction => Json.text action.text) := by
  intro a b h
  have htext : a.text = b.text := ofString_injective (Json.str.inj h)
  revert htext
  cases a <;> cases b <;> decide

theorem deviceAction_injective :
    Function.Injective (fun action : DeviceAction => Json.text action.text) := by
  rintro ⟨⟩ ⟨⟩ _
  rfl

theorem bool_injective : Function.Injective Json.bool := fun _ _ => Json.bool.inj

/-- A time that is asked for, in a range of its own. -/
theorem time_injective {p : PyFloat → Prop} :
    Function.Injective (fun time : { x : PyFloat // p x } => Json.float time.val) :=
  fun _ _ h => Subtype.ext (Json.float.inj h)

/-- **A command is determined by the fields it is sent as.** -/
theorem DeviceCommand.wire_injective : Function.Injective DeviceCommand.wire := by
  rintro ⟨requestId, enabled, power, action, _, _⟩ ⟨requestId', enabled', power', action', _, _⟩ h
  have hnd : ["request_id", "source", "enabled", "power", "action"].Nodup := by decide
  obtain rfl : requestId = requestId' := requestId_inj h
  obtain rfl : enabled = enabled' := asked_inj hnd rfl rfl h bool_injective 0 rfl rfl
  obtain rfl : power = power' := asked_inj hnd rfl rfl h percent_injective 1 rfl rfl
  obtain rfl : action = action' := asked_inj hnd rfl rfl h deviceAction_injective 2 rfl rfl
  rfl

theorem GroupCommand.wire_injective : Function.Injective GroupCommand.wire := by
  rintro ⟨requestId, enabled, pattern, power, low, high, period, time, action, _, _⟩
    ⟨requestId', enabled', pattern', power', low', high', period', time', action', _, _⟩ h
  have hnd : ["request_id", "source", "enabled", "pattern", "power", "min_power", "max_power",
      "period_seconds", "transition_seconds", "action"].Nodup := by decide
  obtain rfl : requestId = requestId' := requestId_inj h
  obtain rfl : enabled = enabled' := asked_inj hnd rfl rfl h bool_injective 0 rfl rfl
  obtain rfl : pattern = pattern' := asked_inj hnd rfl rfl h patternText_injective 1 rfl rfl
  obtain rfl : power = power' := asked_inj hnd rfl rfl h percent_injective 2 rfl rfl
  obtain rfl : low = low' := asked_inj hnd rfl rfl h percent_injective 3 rfl rfl
  obtain rfl : high = high' := asked_inj hnd rfl rfl h percent_injective 4 rfl rfl
  obtain rfl : period = period' := asked_inj hnd rfl rfl h time_injective 5 rfl rfl
  obtain rfl : time = time' := asked_inj hnd rfl rfl h time_injective 6 rfl rfl
  obtain rfl : action = action' := asked_inj hnd rfl rfl h groupAction_injective 7 rfl rfl
  rfl

/-! ## What is sent -/

/-- A command with one change: its topic and its fields. -/
structure Carries (runtime : LiveRuntime) (collection id requestId key : String) (value : Json)
    (published : PublishedCommand) : Prop where
  topic : published.topic = levelTopic runtime.topicPrefix collection id "command"
  entries : published.payload.entries = commandFields requestId [(key, some value)]

theorem asyncCommand_carries {collection key : String} {value : Json}
    (hkey : key ≠ "request_id" ∧ key ≠ "source") (str : Json → PyStr)
    (h : (runtime.view str).asyncCommand collection (ofString requestId) id [(ofString key, value)]
      = .ok published) :
    Carries runtime collection id requestId key value published := by
  have htopic : published.topic = levelTopic (runtime.view str).topicPrefix collection id "command" :=
    asyncCommand_topic h
  refine ⟨htopic, ?_⟩
  unfold JebaoFlowRuntime.asyncCommand at h
  split at h
  · cases h
  split at h
  · cases h
  cases h
  have hsource : (Dict.empty.set (ofString "request_id") (Json.str (ofString requestId))).get?
      (ofString "source") = none := by
    rw [Dict.get?_set, if_neg (ofString_injective.ne (by decide))]
    rfl
  have hnew : ((Dict.empty.set (ofString "request_id") (Json.str (ofString requestId))).set
      (ofString "source") (.str (ofString "home_assistant"))).get? (ofString key) = none := by
    rw [Dict.get?_set, if_neg (ofString_injective.ne hkey.2.symm), Dict.get?_set,
      if_neg (ofString_injective.ne hkey.1.symm)]
    rfl
  show (Dict.set _ (ofString key) value).entries = _
  rw [Dict.entries_set_of_new hnew, Dict.entries_set_of_new hsource]
  rfl

theorem groupCall_carries {key : String} {value : Json} (hkey : key ≠ "request_id" ∧ key ≠ "source")
    (h : groupCall conv runtime (ofString requestId) id key value = .ok published) :
    Carries runtime "groups" id requestId key value published := by
  unfold groupCall at h
  cases hsent : runtime.asyncGroupCommand conv.str (ofString requestId) id [(ofString key, value)] with
  | error e =>
      rw [hsent] at h
      cases h
  | ok sent =>
      rw [hsent] at h
      cases h
      exact asyncCommand_carries hkey conv.str hsent

theorem deviceCall_carries {key : String} {value : Json} (hkey : key ≠ "request_id" ∧ key ≠ "source")
    (h : deviceCall conv runtime (ofString requestId) id key value = .ok published) :
    Carries runtime "devices" id requestId key value published := by
  unfold deviceCall at h
  cases hsent : runtime.asyncDeviceCommand conv.str (ofString requestId) id [(ofString key, value)] with
  | error e =>
      rw [hsent] at h
      cases h
  | ok sent =>
      rw [hsent] at h
      cases h
      exact asyncCommand_carries hkey conv.str hsent

/-- A number that is rounded stays in its range. -/
theorem round_mem {value : PyFloat} {i : ℤ} {least greatest : ℕ}
    (hrange : InRange (.fin (least : ℤ)) (.fin (greatest : ℤ)) value) (h : value.round = .ok i) :
    (least : ℤ) ≤ i ∧ i ≤ greatest := by
  cases value with
  | fin q =>
      have hleast : ((least : ℤ) : ℚ) ≤ q := not_lt.mp (of_decide_eq_false hrange.1)
      have hgreatest : q ≤ ((greatest : ℤ) : ℚ) := not_lt.mp (of_decide_eq_false hrange.2)
      cases h
      exact ⟨le_pyRound hleast, pyRound_le hgreatest⟩
  | inf negative => cases h
  | nan => cases h

theorem roundCall_ok {value : PyFloat} {send : Json → Except CallError PublishedCommand}
    {least greatest : ℕ} (hrange : InRange (.fin (least : ℤ)) (.fin (greatest : ℤ)) value)
    (h : (roundCall value >>= send) = .ok published) :
    ∃ n : ℕ, value.round = .ok (n : ℤ) ∧ n ≤ greatest ∧ send (.nat n) = .ok published := by
  unfold roundCall at h
  cases hround : value.round with
  | error e =>
      rw [hround] at h
      cases h
  | ok i =>
      rw [hround] at h
      obtain ⟨hlow, hhigh⟩ := round_mem hrange hround
      obtain ⟨n, rfl⟩ := Int.eq_ofNat_of_zero_le ((Int.natCast_nonneg least).trans hlow)
      exact ⟨n, rfl, Int.ofNat_le.mp hhigh, h⟩

/-- A number that is asked for is rounded. -/
def RoundsTo (value : PyFloat) (percent : Option Percent) : Prop :=
  ∃ power, percent = some power ∧ value.round = .ok (power.val : ℤ)

/-- What the command of a call asks for. -/
def HomeAssistant.DeviceCall.Asks (command : DeviceCommand) : DeviceCall → Prop
  | .turn enabled => command.enabled = some enabled ∧ command.power = none ∧ command.action = none
  | .setPower value => command.enabled = none ∧ RoundsTo value command.power ∧ command.action = none
  | .resume => command.action = some .resumeGroup

def HomeAssistant.GroupCall.Asks (command : GroupCommand) : GroupCall → Prop
  | .turn enabled => command.enabled = some enabled
  | .setNumber description value =>
    description.field = "power" ∧ RoundsTo value command.power
      ∨ description.field = "min_power" ∧ RoundsTo value command.minPower
      ∨ description.field = "max_power" ∧ RoundsTo value command.maxPower
      ∨ description.field = "period_seconds" ∧ command.periodSeconds.map Subtype.val = some value
      ∨ description.field = "transition_seconds"
        ∧ command.transitionSeconds.map Subtype.val = some value
  | .selectPattern option => ∃ kind ∈ supportedPatterns, command.pattern = some kind
      ∧ ofString kind.text = option
  | .press action => ∃ kind, command.action = some kind ∧ kind.text = action

/-- **A call on a device is a command of the daemon.** -/
theorem deviceCall_command {cfg : AppConfig} {device : DeviceConfig} {call : DeviceCall}
    (hid : isRequestId requestId = true) (hoffered : call.Offered cfg device)
    (h : call.send conv runtime (ofString requestId) id = .ok published) :
    published.topic = levelTopic runtime.topicPrefix "devices" id "command"
      ∧ ∃ command : DeviceCommand, command.requestId = requestId
        ∧ published.payload.entries = command.wire ∧ call.Asks command := by
  cases call with
  | turn enabled =>
      obtain ⟨htopic, hentries⟩ := deviceCall_carries (by decide) h
      exact ⟨htopic, { requestId, requestId_ok := hid, enabled := some enabled, changed := rfl }, rfl,
        hentries, rfl, rfl, rfl⟩
  | setPower value =>
      obtain ⟨n, hn, hgreatest, hsend⟩ := roundCall_ok hoffered.2 h
      obtain ⟨htopic, hentries⟩ := deviceCall_carries (by decide) hsend
      let power : Percent := ⟨n, hgreatest.trans device.limits.maxPower.property⟩
      exact ⟨htopic, { requestId, requestId_ok := hid, power := some power, changed := rfl }, rfl,
        hentries, rfl, ⟨power, rfl, hn⟩, rfl⟩
  | resume =>
      obtain ⟨htopic, hentries⟩ := deviceCall_carries (by decide) h
      exact ⟨htopic, { requestId, requestId_ok := hid, action := some .resumeGroup, changed := rfl },
        rfl, hentries, rfl⟩

/-! ## What is sent to a group -/

/-- A number that the host lets through is within the wider bounds of the daemon. -/
theorem HomeAssistant.InRange.between {least greatest bound : ℕ} {value : PyFloat}
    (h : InRange (.fin (least : ℤ)) (.fin (greatest : ℤ)) value) (hnumber : value ≠ .nan)
    (hle : greatest ≤ bound) : (PyFloat.fin (least : ℤ)).le value = true
      ∧ value.le (.fin (bound : ℤ)) = true := by
  cases value with
  | fin q =>
      have hleast : ((least : ℤ) : ℚ) ≤ q := not_lt.mp (of_decide_eq_false h.1)
      have hgreatest : q ≤ ((greatest : ℤ) : ℚ) := not_lt.mp (of_decide_eq_false h.2)
      have hcast : ((greatest : ℤ) : ℚ) ≤ ((bound : ℤ) : ℚ) := Int.cast_le.mpr (Int.ofNat_le.mpr hle)
      exact ⟨decide_eq_true hleast, decide_eq_true (hgreatest.trans hcast)⟩
  | inf negative =>
      cases negative with
      | false => cases h.2
      | true => cases h.1
  | nan => exact absurd rfl hnumber

/-- The pattern that can be chosen is one the daemon has. -/
theorem mem_patterns {str : Json → PyStr} {option : PyStr} (hconfig : runtime.systemConfig = []
      ∨ runtime.systemConfig = Object.of (systemConfig site.daemon site.cfg).json)
    (h : option ∈ runtime.patterns str) :
    ∃ kind ∈ supportedPatterns, option = ofString kind.text := by
  unfold LiveRuntime.patterns at h
  rcases hconfig with hnone | hsome
  · unfold LiveRuntime.configured at h
    rw [hnone] at h
    cases h
  · rw [configured_of_config hsome] at h
    unfold SystemConfigPayload.json at h
    rw [getOr_object] at h
    obtain ⟨_, hitem, rfl⟩ := List.mem_map.mp h
    obtain ⟨kind, hkind, rfl⟩ := List.mem_map.mp hitem
    exact ⟨kind, (List.mem_insertionSort _).mp hkind, rfl⟩

/-- **A call on a group is a command of the daemon.** -/
theorem groupCall_command {call : GroupCall} (hconfig : runtime.systemConfig = []
      ∨ runtime.systemConfig = Object.of (systemConfig site.daemon site.cfg).json)
    (hid : isRequestId requestId = true) (hoffered : call.Offered) (hnumber : call.IsNumber)
    (h : call.send conv runtime (ofString requestId) id = .ok published) :
    published.topic = levelTopic runtime.topicPrefix "groups" id "command"
      ∧ ∃ command : GroupCommand, command.requestId = requestId
        ∧ published.payload.entries = command.wire ∧ call.Asks command := by
  cases call with
  | turn enabled =>
      obtain ⟨htopic, hentries⟩ := groupCall_carries (by decide) h
      exact ⟨htopic, { requestId, requestId_ok := hid, enabled := some enabled, changed := rfl }, rfl,
        hentries, rfl⟩
  | setNumber description value =>
      obtain ⟨hmem, hrange⟩ := hoffered
      simp only [numberDescriptions, List.mem_cons, List.not_mem_nil, or_false] at hmem
      -- the powers are rounded, the times are not
      rcases hmem with rfl | rfl | rfl | rfl | rfl
      · obtain ⟨n, hn, hgreatest, hsend⟩ := roundCall_ok hrange h
        obtain ⟨htopic, hentries⟩ := groupCall_carries (by decide) hsend
        let power : Percent := ⟨n, hgreatest⟩
        exact ⟨htopic, { requestId, requestId_ok := hid, power := some power, changed := rfl }, rfl,
          hentries, Or.inl ⟨rfl, power, rfl, hn⟩⟩
      · obtain ⟨n, hn, hgreatest, hsend⟩ := roundCall_ok hrange h
        obtain ⟨htopic, hentries⟩ := groupCall_carries (by decide) hsend
        let power : Percent := ⟨n, hgreatest⟩
        exact ⟨htopic, { requestId, requestId_ok := hid, minPower := some power, changed := rfl },
          rfl, hentries, Or.inr (Or.inl ⟨rfl, power, rfl, hn⟩)⟩
      · obtain ⟨n, hn, hgreatest, hsend⟩ := roundCall_ok hrange h
        obtain ⟨htopic, hentries⟩ := groupCall_carries (by decide) hsend
        let power : Percent := ⟨n, hgreatest⟩
        exact ⟨htopic, { requestId, requestId_ok := hid, maxPower := some power, changed := rfl },
          rfl, hentries, Or.inr (Or.inr (Or.inl ⟨rfl, power, rfl, hn⟩))⟩
      · obtain ⟨htopic, hentries⟩ := groupCall_carries (by decide) h
        let period : PeriodSeconds := ⟨value, hrange.between hnumber (by decide)⟩
        exact ⟨htopic, { requestId, requestId_ok := hid, periodSeconds := some period, changed := rfl },
          rfl, hentries, Or.inr (Or.inr (Or.inr (Or.inl ⟨rfl, rfl⟩)))⟩
      · obtain ⟨htopic, hentries⟩ := groupCall_carries (by decide) h
        let time : TransitionSeconds := ⟨value, hrange.between hnumber (by decide)⟩
        exact ⟨htopic, { requestId, requestId_ok := hid, transitionSeconds := some time, changed := rfl },
          rfl, hentries, Or.inr (Or.inr (Or.inr (Or.inr ⟨rfl, rfl⟩)))⟩
  | selectPattern option =>
      unfold GroupCall.send PatternSelect.selectOption at h
      dsimp only at h
      split at h
      · cases h
      · rename_i hlisted
        obtain ⟨kind, hkind, rfl⟩ := mem_patterns hconfig (not_not.mp hlisted)
        obtain ⟨htopic, hentries⟩ := groupCall_carries (by decide) h
        exact ⟨htopic, { requestId, requestId_ok := hid, pattern := some kind, changed := rfl }, rfl,
          hentries, kind, hkind, rfl, rfl⟩
  | press action =>
      obtain ⟨htopic, hentries⟩ := groupCall_carries (by decide) h
      obtain ⟨kind, rfl⟩ : ∃ kind : GroupAction, kind.text = action := by
        simp only [GroupCall.Offered, buttonActions, List.mem_cons, List.not_mem_nil, or_false]
          at hoffered
        rcases hoffered with rfl | rfl | rfl | rfl | rfl
        · exact ⟨.startFeed, rfl⟩
        · exact ⟨.stopFeed, rfl⟩
        · exact ⟨.emergencyStop, rfl⟩
        · exact ⟨.clearEmergency, rfl⟩
        · exact ⟨.resumeAllMembers, rfl⟩
      exact ⟨htopic, { requestId, requestId_ok := hid, action := some kind, changed := rfl }, rfl,
        hentries, kind, rfl, rfl⟩

theorem GroupCommand.lookup_times (command : GroupCommand) :
    Dict.lookupEntries (ofString "period_seconds") command.wire
        = command.periodSeconds.map (fun p => .float p.val)
      ∧ Dict.lookupEntries (ofString "transition_seconds") command.wire
        = command.transitionSeconds.map (fun t => .float t.val) := by
  have hnd : ["request_id", "source", "enabled", "pattern", "power", "min_power", "max_power",
      "period_seconds", "transition_seconds", "action"].Nodup := by decide
  constructor
  · exact lookup_commandFields hnd (List.mem_of_getElem? (i := 5) rfl)
  · exact lookup_commandFields hnd (List.mem_of_getElem? (i := 6) rfl)

/-- A time under its key is the one the command asks for. -/
theorem lookup_time {p : PyFloat → Prop} {time : Option { x : PyFloat // p x }} {value : PyFloat}
    (h : some (Json.float value) = time.map (fun t => Json.float t.val)) : p value := by
  obtain ⟨t, _, ht⟩ := Option.map_eq_some_iff.mp h.symm
  exact Json.float.inj ht ▸ t.property

/-- **No command asks for a time that is not a number.** -/
theorem groupCall_nan {call : GroupCall} (hoffered : call.Offered) (hnan : ¬ call.IsNumber)
    (h : call.send conv runtime (ofString requestId) id = .ok published) :
    published.topic = levelTopic runtime.topicPrefix "groups" id "command"
      ∧ ∀ command : GroupCommand, published.payload.entries ≠ command.wire := by
  cases call with
  | turn | selectPattern | press => exact absurd trivial hnan
  | setNumber description value =>
      obtain rfl : value = .nan := not_not.mp hnan
      have hmem := hoffered.1
      simp only [numberDescriptions, List.mem_cons, List.not_mem_nil, or_false] at hmem
      -- a NaN cannot be rounded to a power
      rcases hmem with rfl | rfl | rfl | rfl | rfl
      · cases h
      · cases h
      · cases h
      · obtain ⟨htopic, hentries⟩ := groupCall_carries (by decide) h
        refine ⟨htopic, fun command heq => ?_⟩
        have hlookup := congrArg (Dict.lookupEntries (ofString "period_seconds")) (hentries.symm.trans heq)
        rw [lookup_commandFields (by decide) (List.mem_singleton_self _), command.lookup_times.1] at hlookup
        cases (lookup_time hlookup).1
      · obtain ⟨htopic, hentries⟩ := groupCall_carries (by decide) h
        refine ⟨htopic, fun command heq => ?_⟩
        have hlookup := congrArg (Dict.lookupEntries (ofString "transition_seconds"))
          (hentries.symm.trans heq)
        rw [lookup_commandFields (by decide) (List.mem_singleton_self _), command.lookup_times.2] at hlookup
        cases (lookup_time hlookup).1

/-! ## What the daemon makes of it -/

theorem level_of_identifier (h : isIdentifier id = true) : IsLevel id :=
  topicSegment_level (topicSegment_identifier h)

/--
**Every call that leaves is a valid command for what it is about.**

Take any run of the deployment. What a user asks of an entity of a group or of a device, as far as
the host lets it through, is either refused on the spot or published as the fields of exactly one
valid command, which asks for just that, under a topic that the daemon reads as that group or device.
Only a time that is not a number, which the host lets through, is published as no valid command.
-/
theorem calls_are_commands {clk : Clock} {service : ServiceState}
    (hinit : GroupControlService.init site.cfg site.units clk = .ok service) (conv : Conversions)
    (events : List Deployment.Event) (hid : isRequestId requestId = true) :
    let d := exec Deployment.step (Deployment.start service : Deployment site) events
    (∀ group ∈ site.cfg.groups, ∀ call : GroupCall, call.Offered → ∀ published,
      call.send conv d.home.state.1 (ofString requestId) group.id = .ok published →
        site.topics.parseDeviceCommand published.topic = none
          ∧ site.topics.parseGroupCommand published.topic = some group.id
          ∧ (call.IsNumber → (∃! command : GroupCommand, published.payload.entries = command.wire)
            ∧ ∃ command : GroupCommand, published.payload.entries = command.wire
              ∧ command.requestId = requestId ∧ call.Asks command)
          ∧ (¬ call.IsNumber → ∀ command : GroupCommand, published.payload.entries ≠ command.wire))
      ∧ ∀ device ∈ site.cfg.devices, ∀ call : DeviceCall, call.Offered site.cfg device → ∀ published,
        call.send conv d.home.state.1 (ofString requestId) device.id = .ok published →
          site.topics.parseDeviceCommand published.topic = some device.id
            ∧ (∃! command : DeviceCommand, published.payload.entries = command.wire)
            ∧ ∃ command : DeviceCommand, published.payload.entries = command.wire
              ∧ command.requestId = requestId ∧ call.Asks command := by
  intro d
  have hbacked := (Deployment.inv_exec hinit events : d.Inv).home.backed
  have hprefix : d.home.state.1.topicPrefix = site.topics.topicPrefix := d.home.state.2
  unfold MqttTopics.parseDeviceCommand MqttTopics.parseGroupCommand
  refine ⟨fun group _ call hoffered published hsent => ?_,
    fun device _ call hoffered published hsent => ?_⟩
  · have hlevel := level_of_identifier group.id_ok
    have htopic : published.topic
        = levelTopic d.home.state.1.topicPrefix "groups" group.id "command" := by
      by_cases hnumber : call.IsNumber
      · exact (groupCall_command hbacked.config hid hoffered hnumber hsent).1
      · exact (groupCall_nan hoffered hnumber hsent).1
    rw [parseCommand_eq, parseCommand_eq, htopic, hprefix]
    refine ⟨levelOf_eq_none (by decide) (by decide) hlevel.2 (Or.inl (by decide)),
      levelOf_eq_some_iff.mpr ⟨rfl, hlevel⟩, fun hnumber => ?_, fun hnan => ?_⟩
    · obtain ⟨_, command, hrequest, hentries, hasks⟩ :=
        groupCall_command hbacked.config hid hoffered hnumber hsent
      refine ⟨⟨command, hentries, fun other hother => ?_⟩, command, hentries, hrequest, hasks⟩
      exact GroupCommand.wire_injective (hother.symm.trans hentries)
    · exact (groupCall_nan hoffered hnan hsent).2
  · obtain ⟨htopic, command, hrequest, hentries, hasks⟩ := deviceCall_command hid hoffered hsent
    rw [parseCommand_eq, htopic, hprefix]
    refine ⟨levelOf_eq_some_iff.mpr ⟨rfl, level_of_identifier device.id_ok⟩,
      ⟨command, hentries, fun other hother => ?_⟩, command, hentries, hrequest, hasks⟩
    exact DeviceCommand.wire_injective (hother.symm.trans hentries)

/-- A daemon connects, and the entry learns that it takes commands. -/
def freshRun : List Deployment.Event :=
  .subscribe :: (.connect :: List.replicate 8 .greet).map .daemon
    ++ [.deliver "flow/system/availability", .deliver "flow/system/config"]

/-- The entry after that. -/
abbrev freshEntry : LiveRuntime :=
  (exec Deployment.step (Deployment.start (startState reefTank steadyUnits (fun _ => 0)) :
    Deployment (tankSite reefTank)) freshRun).home.state.1

/-- Half a percent is asked of the left pump, and sent. -/
theorem calls_are_commands_reefTank : ∃ published : PublishedCommand,
    (tankSite reefTank).topics.parseDeviceCommand published.topic = some "left"
      ∧ ∃ command : DeviceCommand, published.payload.entries = command.wire
        ∧ RoundsTo (.fin 62.5) command.power := by
  have hinit := @startState_eq reefTank steadyUnits (fun _ => 0) (by decide +kernel)
  have hcommands := @calls_are_commands (tankSite reefTank) "5bd1e995" _ _ hinit plainConversions
    freshRun (by decide)
  have hleaves : ((DeviceCall.setPower (.fin 62.5)).send plainConversions freshEntry
      (ofString "5bd1e995") leftPump.id).toOption.isSome = true := by decide +kernel
  have hoffered : (DeviceCall.setPower (.fin 62.5)).Offered reefTank leftPump := by
    refine ⟨by decide, ?_, ?_⟩ <;> decide +kernel
  cases hsent : (DeviceCall.setPower (.fin 62.5)).send plainConversions freshEntry (ofString "5bd1e995") leftPump.id with
  | error e =>
      rw [hsent] at hleaves
      cases hleaves
  | ok published =>
      obtain ⟨htopic, _, command, hentries, _, _, hrounds, _⟩ :=
        hcommands.2 leftPump (List.mem_cons_self ..) _ hoffered published hsent
      exact ⟨published, htopic, command, hentries, hrounds⟩

end JebaoFlow
