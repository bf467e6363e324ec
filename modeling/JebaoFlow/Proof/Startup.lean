import JebaoFlow.Mqtt.Topics
import JebaoFlow.Proof.Start

/-!
# Which configurations start

The validators of a configuration and the constructors behind them check ranges
of their own. A validated configuration starts exactly when it also lies within
what the group payloads and the topic builder ask for.
-/

namespace JebaoFlow

open PyFloat

variable {cfg : AppConfig} {units : UnitSource}

/-! ## Topic prefixes -/

theorem mem_stripSlashes {text : String} {c : Char} (hc : c ≠ '/') :
    c ∈ (stripSlashes text).toList ↔ c ∈ text.toList := by
  have hdrop : ∀ l : List Char, c ∈ l.dropWhile (· == '/') ↔ c ∈ l := by
    intro l
    refine ⟨fun h => (List.dropWhile_suffix _).subset h, fun h => ?_⟩
    rw [← List.takeWhile_append_dropWhile (p := (· == '/')) (l := l)] at h
    rcases List.mem_append.mp h with htaken | hleft
    · have hslash := @List.mem_takeWhile_imp _ (fun c => c == '/') _ _ htaken
      exact absurd (beq_iff_eq.mp hslash) hc
    · exact hleft
  unfold stripSlashes
  rw [String.toList_ofList, List.mem_reverse, hdrop, List.mem_reverse, hdrop]

/-- What is left of a prefix is empty exactly when the prefix is all slashes. -/
theorem stripSlashes_ne {text : String} :
    stripSlashes text ≠ "" ↔ ∃ c ∈ text.toList, c ≠ '/' := by
  constructor
  · intro hne
    by_contra hall
    refine hne ?_
    have hnil : text.toList.dropWhile (· == '/') = [] :=
      List.dropWhile_eq_nil_iff.mpr (fun c hc =>
        beq_iff_eq.mpr (by_contra (fun hslash => hall ⟨c, hc, hslash⟩)))
    unfold stripSlashes
    rw [hnil]
    rfl
  · rintro ⟨c, hmem, hc⟩ hempty
    have hleft := (mem_stripSlashes hc).mpr hmem
    rw [hempty] at hleft
    exact absurd hleft List.not_mem_nil

/-- A text that topics can start with. -/
structure IsTopicPrefix (text : String) : Prop where
  named : ∃ c ∈ text.toList, c ≠ '/'
  no_plus : '+' ∉ text.toList
  no_hash : '#' ∉ text.toList

theorem create_returns_iff {text : String} :
    (∃ topics, MqttTopics.create text = .ok topics) ↔ IsTopicPrefix text := by
  have hplus := @mem_stripSlashes text '+' (by decide)
  have hhash := @mem_stripSlashes text '#' (by decide)
  unfold MqttTopics.create
  dsimp only
  simp only [hplus, hhash]
  constructor
  · rintro ⟨topics, h⟩
    split at h
    · cases h
    · rename_i hok
      simp only [not_or] at hok
      exact ⟨stripSlashes_ne.mp hok.1, hok.2.1, hok.2.2⟩
  · rintro ⟨hnamed, hplus, hhash⟩
    rw [if_neg]
    · exact ⟨_, rfl⟩
    · rintro (hempty | h | h)
      · exact stripSlashes_ne.mpr hnamed hempty
      · exact hplus h
      · exact hhash h

/-! ## Group records -/

/-- The defaults of a group lie within what its payload asks for. -/
structure DefaultsStart (g : GroupConfig) : Prop where
  period_ge : (fin 1).le g.default.periodSeconds = true
  period_le : g.default.periodSeconds.le (fin 86400) = true
  transition_le : g.default.transitionSeconds.le (fin 3600) = true

/-- A loop over items that are all served returns. -/
theorem mapM_returns {α β : Type} {f : α → Except PyError β} : ∀ {l : List α},
    (∀ x ∈ l, ∃ b, f x = .ok b) → ∃ bs, l.mapM f = .ok bs
  | [], _ => ⟨[], rfl⟩
  | x :: xs, h => by
      obtain ⟨b, hb⟩ := h x (List.mem_cons_self ..)
      obtain ⟨bs, hbs⟩ := mapM_returns (fun y hy => h y (List.mem_cons_of_mem _ hy))
      refine ⟨b :: bs, ?_⟩
      rw [List.mapM_cons, PyError.bind_of_ok hb, PyError.bind_of_ok hbs]
      rfl

/-- The lock is read off the members' devices, which are configured. -/
theorem hardwareWritesLocked_returns {g : GroupConfig} (hg : g ∈ cfg.groups) :
    ∃ locked, hardwareWritesLocked cfg g = .ok locked := by
  unfold hardwareWritesLocked
  split
  · exact ⟨true, rfl⟩
  · obtain ⟨devices, hdevices⟩ := mapM_returns (f := fun m : GroupMember => cfg.deviceConfig m.device)
      (l := g.members) (fun m hm => by
        obtain ⟨device, _, _, hdevice⟩ := AppConfig.deviceConfig_member hg hm
        exact ⟨device, hdevice⟩)
    rw [PyError.bind_of_ok hdevices]
    exact ⟨_, rfl⟩

/-- The payload checks what the group's own validator does not. -/
theorem initialPayload_returns_iff {g : GroupConfig} {locked : Bool} :
    (∃ state, initialPayload cfg g locked = .ok state)
      ↔ DefaultsStart g := by
  unfold initialPayload
  constructor
  · rintro ⟨state, h⟩
    split at h
    · rename_i hperiod
      split at h
      · rename_i htransition
        exact ⟨hperiod.1, hperiod.2, htransition.2⟩
      · cases h
    · cases h
  · rintro ⟨hlo, hhi, htransition⟩
    rw [dif_pos ⟨hlo, hhi⟩, dif_pos ⟨g.default.transition_ge, htransition⟩]
    exact ⟨_, rfl⟩

theorem initialState_returns_iff (units : UnitSource) {g : GroupConfig} (hg : g ∈ cfg.groups)
    (now : ℚ) : (∃ state, initialState cfg units now g = .ok state) ↔ DefaultsStart g := by
  obtain ⟨locked, hlocked⟩ := hardwareWritesLocked_returns hg
  unfold initialState
  rw [PyError.bind_of_ok hlocked]
  constructor
  · rintro ⟨state, h⟩
    obtain ⟨payload, hpayload, _⟩ := PyError.bind_eq_ok h
    exact initialPayload_returns_iff.mp ⟨payload, hpayload⟩
  · intro hdefaults
    obtain ⟨payload, hpayload⟩ := (@initialPayload_returns_iff cfg g locked).mpr hdefaults
    obtain ⟨hconf, hid⟩ := initialPayload_ok hpayload
    obtain ⟨_, members, _, _, hmembers, _⟩ := calculateMembers_ok units hg hid hconf.range
      (hconf.supported hg) now Dict.empty
    rw [PyError.bind_of_ok hpayload, PyError.bind_of_ok hmembers]
    exact ⟨_, rfl⟩

/-! ## Device records -/

/-- A device starts with what its first group asks for, which has an entry for it. -/
theorem initialDeviceState_returns {states : Dict String GroupStatePayload} {d : DeviceConfig}
    (hstates : ∀ g ∈ cfg.groups, ∃ now record, initialState cfg units now g = .ok record
      ∧ states.get? g.id = some record) :
    ∃ state, initialDeviceState cfg states d = .ok state := by
  have houtput : ∃ output, initialOutput states d ((cfg.groupsOf d.id).map GroupConfig.id)
      = .ok output := by
    cases hgroups : cfg.groupsOf d.id with
    | nil => exact ⟨_, rfl⟩
    | cons g rest =>
        obtain ⟨hg, hdid⟩ := AppConfig.mem_groupsOf.mp (hgroups ▸ List.mem_cons_self ..)
        obtain ⟨now, record, hrecord, hget⟩ := hstates g hg
        obtain ⟨_, hinv, _⟩ := initialState_ok hg hrecord
        have hkey : d.id ∈ record.members.keys := by
          rw [hinv.keys]
          exact hdid
        obtain ⟨member, hmember⟩ := Option.isSome_iff_exists.mp (Dict.mem_keys_iff.mp hkey)
        refine ⟨(record.enabled, member.targetPower), ?_⟩
        rw [List.map_cons, initialOutput, hget]
        dsimp only
        rw [hmember]
  obtain ⟨output, houtput⟩ := houtput
  unfold initialDeviceState
  dsimp only
  rw [PyError.bind_of_ok houtput]
  exact ⟨_, rfl⟩

/-! ## The constructors -/

/-- A comprehension returns exactly when each of its items is built. -/
theorem buildAll_returns_iff {α β : Type} {key : α → String} {build : ℕ → α → Except PyError β} :
    ∀ {l : List α} {i : ℕ} {d : Dict String β}, (∃ d', buildAll key build i l d = .ok d')
      ↔ ∀ j x, l[j]? = some x → ∃ b, build (i + j) x = .ok b := by
  intro l
  induction l with
  | nil => exact fun {i d} => ⟨fun _ j x h => (nomatch h), fun _ => ⟨d, rfl⟩⟩
  | cons x xs ih =>
      intro i d
      rw [buildAll]
      cases hb : build i x with
      | error e =>
          constructor
          · rintro ⟨_, h⟩
            cases h
          · intro h
            obtain ⟨b, hok⟩ := h 0 x rfl
            rw [Nat.add_zero, hb] at hok
            cases hok
      | ok b =>
          dsimp only
          rw [ih]
          constructor
          · intro h j y hy
            cases j with
            | zero =>
                cases hy
                exact ⟨b, hb⟩
            | succ j =>
                obtain ⟨b', hb'⟩ := h j y hy
                exact ⟨b', by rwa [← Nat.add_assoc, Nat.add_right_comm]⟩
          · intro h j y hy
            obtain ⟨b', hb'⟩ := h (j + 1) y hy
            exact ⟨b', by rwa [← Nat.add_assoc, Nat.add_right_comm] at hb'⟩

/-- **The service is constructed exactly when the defaults of every group start.** -/
theorem init_returns_iff (cfg : AppConfig) (units : UnitSource) (clk : Clock) :
    (∃ s, GroupControlService.init cfg units clk = .ok s) ↔ ∀ g ∈ cfg.groups, DefaultsStart g := by
  unfold GroupControlService.init
  constructor
  · rintro ⟨s, h⟩ g hg
    obtain ⟨states, hstates, _⟩ := PyError.bind_eq_ok h
    obtain ⟨i, record, _, hrecord, _⟩ := (buildAll_ok hstates cfg.group_ids_unique).2 g hg
    exact (initialState_returns_iff units hg _).mp ⟨record, hrecord⟩
  · intro hdefaults
    obtain ⟨states, hstates⟩ : ∃ states, buildAll GroupConfig.id
        (fun i group => initialState cfg units (clk i) group) 0 cfg.groups Dict.empty = .ok states :=
      buildAll_returns_iff.mpr (fun j g hj => by
        have hg := List.mem_of_getElem? hj
        exact (initialState_returns_iff units hg _).mpr (hdefaults g hg))
    have hrecord : ∀ g ∈ cfg.groups, ∃ now record, initialState cfg units now g = .ok record
        ∧ states.get? g.id = some record := by
      intro g hg
      obtain ⟨j, record, _, hrecord, hget⟩ := (buildAll_ok hstates cfg.group_ids_unique).2 g hg
      exact ⟨_, record, hrecord, hget⟩
    obtain ⟨deviceStates, hdevices⟩ : ∃ deviceStates, buildAll DeviceConfig.id
        (fun _ device => initialDeviceState cfg states device) 0 cfg.devices Dict.empty
          = .ok deviceStates :=
      buildAll_returns_iff.mpr (fun _ _ _ => initialDeviceState_returns hrecord)
    obtain ⟨final, hloop, _⟩ := @closingLoop_ok cfg units clk
      { states
        results := Dict.empty
        deviceStates
        deviceResults := Dict.empty
        dirtyDevices := ∅
        dirtyGroups := ∅
        lastPublishedSeenAt := Dict.setAll DeviceConfig.id (fun _ => none) cfg.devices Dict.empty
        updateEvent := false } hrecord
    rw [PyError.bind_of_ok hstates, PyError.bind_of_ok hdevices]
    dsimp only
    rw [hloop]
    exact ⟨_, rfl⟩

/--
**A validated configuration starts exactly when its defaults and its topic prefix do.**

The validators of the configuration let a period below a second or above a day, a
transition above an hour, and a prefix of slashes or with a wildcard go through; the
constructors of the service and of the adapter refuse each of them, and nothing else.
-/
theorem configuration_starts_iff (cfg : AppConfig) (units : UnitSource) (clk : Clock) :
    ((∃ s, GroupControlService.init cfg units clk = .ok s)
        ∧ ∃ topics, MqttTopics.create cfg.mqtt.topicPrefix = .ok topics)
      ↔ (∀ g ∈ cfg.groups, DefaultsStart g) ∧ IsTopicPrefix cfg.mqtt.topicPrefix :=
  and_congr (init_returns_iff cfg units clk) create_returns_iff

/-- A group that changes its output twice a second. -/
def hastyFlow : GroupConfig :=
  { reefFlow with
    default := { flowDefaults with
      periodSeconds := fin (1 / 2)
      period_gt := by decide +kernel } }

def hastyTank : AppConfig := tankOf [hastyFlow] (by decide) (by decide) (by decide)

/-- **A validated configuration does not start**: its period is positive, but below a second. -/
theorem configuration_refused_hastyTank :
    ¬ ((∃ s, GroupControlService.init hastyTank steadyUnits (fun _ => 0) = .ok s)
      ∧ ∃ topics, MqttTopics.create hastyTank.mqtt.topicPrefix = .ok topics) := by
  rintro ⟨⟨s, h⟩, _⟩
  have hdefaults := (init_returns_iff hastyTank steadyUnits (fun _ => 0)).mp ⟨s, h⟩ hastyFlow
    (List.mem_singleton_self _)
  exact absurd hdefaults.period_ge (by decide +kernel)

end JebaoFlow
