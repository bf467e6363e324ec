import JebaoFlow.Proof.LanWrites

/-!
# Every cached value can be asked for again

The cache of verified values only holds what some write call asked for, and each
entry of it can be asked for on its own: the checks of a request look at one
datapoint at a time, and so does the construction of a control frame. What a
state of the adapter suppresses is therefore exactly what its cache says.
-/

namespace JebaoFlow

open Bytes

variable {schema : ProductSchema} {dev : LanJebaoDevice}

/-! ## Building one entry of a frame -/

/-- Whether bits fit does not depend on the buffer they go into. -/
theorem placeBits_ok {destination written : Bytes} {byteOffset bitOffset length value : ℕ}
    (h : placeBits schema destination byteOffset bitOffset length value = .ok written)
    (destination' : Bytes) :
    ∃ written', placeBits schema destination' byteOffset bitOffset length value = .ok written' := by
  unfold placeBits at h ⊢
  split at h
  · rename_i hgroup
    rw [if_pos hgroup]
    obtain ⟨bytes, hbytes, _⟩ := PyError.bind_eq_ok h
    have hnew := lt_of_le_of_lt Nat.right_le_or (toBytesBig_ok_iff.mp ⟨bytes, hbytes⟩)
    obtain ⟨bytes', hbytes'⟩ := toBytesBig_ok_iff.mpr (group_lt hnew destination')
    dsimp only
    rw [hbytes']
    exact ⟨_, rfl⟩
  · rename_i hplain
    rw [if_neg hplain]
    exact ⟨_, rfl⟩

/-- Nor does whether a value can be placed. -/
theorem placeValue_ok {destination written : Bytes} {datapoint : Datapoint} {requested : Value}
    (h : placeValue schema destination datapoint requested = .ok written) (destination' : Bytes) :
    ∃ written', placeValue schema destination' datapoint requested = .ok written' := by
  unfold placeValue at h ⊢
  dsimp only at h ⊢
  cases hunit : datapoint.position.unit with
  | bit =>
      rw [hunit] at h
      obtain ⟨rawValue, hraw, h⟩ := PyError.bind_eq_ok h
      dsimp only
      rw [hraw]
      split at h
      · rename_i hrange
        obtain ⟨written', hwritten'⟩ := placeBits_ok h destination'
        exact ⟨written', (if_pos hrange).trans hwritten'⟩
      · cases h
  | byte =>
      rw [hunit] at h
      dsimp only at h ⊢
      split at h
      · obtain ⟨rawBytes, hraw, h⟩ := PyError.bind_eq_ok h
        rw [hraw]
        split at h
        · cases h
        · rename_i hlen
          exact ⟨_, if_neg hlen⟩
      · cases h
      · cases h
      · split at h
        · cases h
        · obtain ⟨rawBytes, hraw, _⟩ := PyError.bind_eq_ok h
          rw [hraw]
          exact ⟨_, rfl⟩

/-- Every change of a frame names a writable datapoint that takes its value. -/
theorem placeChanges_entry : ∀ {changes : List (String × Value)} {buffers written : Bytes × Bytes},
    placeChanges schema changes buffers = .ok written → ∀ e ∈ changes,
    ∃ datapoint destination bytes, schema.byName e.1 = .ok datapoint
      ∧ datapoint.isWritable = true ∧ placeValue schema destination datapoint e.2 = .ok bytes := by
  intro changes
  induction changes with
  | nil => exact fun _ e he => absurd he List.not_mem_nil
  | cons change changes ih =>
      intro buffers written h e he
      obtain ⟨name, requested⟩ := change
      obtain ⟨flags, values⟩ := buffers
      rw [placeChanges] at h
      obtain ⟨datapoint, hname, h⟩ := PyError.bind_eq_ok h
      split at h
      · cases h
      · rename_i hwritable
        obtain ⟨bytes, hplace, h⟩ := PyError.bind_eq_ok h
        rcases List.mem_cons.mp he with rfl | he
        · exact ⟨datapoint, values, bytes, hname, not_not.mp hwritable, hplace⟩
        · exact ih h e he

/-- **A change of a frame that can be built makes a frame of its own.** -/
theorem buildControlPayload_single {changes : Dict String Value} {payload : Bytes} {name : String}
    {value : Value} (h : buildControlPayload schema changes = .ok payload)
    (hget : changes.get? name = some value) :
    ∃ payload', buildControlPayload schema (single name value) = .ok payload' := by
  unfold buildControlPayload at h ⊢
  split at h
  · cases h
  · rename_i hcontrol
    rw [if_neg hcontrol]
    split at h
    · cases h
    · obtain ⟨_, hplaced, _⟩ := PyError.bind_eq_ok h
      obtain ⟨datapoint, destination, bytes, hname, hwritable, hplace⟩ :=
        placeChanges_entry hplaced (name, value) (Dict.get?_eq_some_iff.mp hget)
      obtain ⟨bytes', hplace'⟩ := placeValue_ok hplace (zeros schema.attributeValuesSize)
      have hone : placeChanges schema (single name value).entries
          (zeros schema.attributeFlagsSize, zeros schema.attributeValuesSize)
          = .ok (setBit (zeros schema.attributeFlagsSize) (datapoint.id / 8) (datapoint.id % 8) true,
              bytes') := by
        show placeChanges schema [(name, value)] _ = _
        rw [placeChanges, hname]
        show (if _ then _ else _) = _
        rw [if_neg (not_not.mpr hwritable), hplace']
        rfl
      have hne : (single name value).entries ≠ [] := List.cons_ne_nil _ _
      rw [if_neg hne, hone]
      exact ⟨_, rfl⟩

/-! ## Asking for one entry of a request -/

theorem LanError.bind_eq_ok {α β : Type} {x : Except LanError α} {f : α → Except LanError β} {b : β}
    (h : (x >>= f) = .ok b) : ∃ a, x = .ok a ∧ f a = .ok b := by
  cases x with
  | error e => exact Except.noConfusion rfl rfl (heq_of_eq h)
  | ok a => exact ⟨a, rfl, h⟩

/-- Every entry can be asked for by a call of its own. -/
def Askable (dev : LanJebaoDevice) (changes : Dict String Value) : Prop :=
  ∀ name value, changes.get? name = some value →
    ∃ call : WriteCall, call.changes dev = .ok (single name value)

/-- Every entry of the changes meets `P`. -/
def EachEntry (P : String → Value → Prop) (changes : Dict String Value) : Prop :=
  ∀ name value, changes.get? name = some value → P name value

section EachEntry

variable {P : String → Value → Prop}

theorem eachEntry_single {name : String} {value : Value} (h : P name value) :
    EachEntry P (single name value) := by
  intro name' value' hget
  obtain ⟨rfl, rfl⟩ := get?_single.mp hget
  exact h

theorem EachEntry.set {changes : Dict String Value} {name : String} {value : Value}
    (h : EachEntry P changes) (hnew : P name value) : EachEntry P (changes.set name value) := by
  intro name' value' hget
  rw [Dict.get?_set] at hget
  split at hget
  · rename_i heq
    subst heq
    cases hget
    exact hnew
  · exact h name' value' hget

theorem addMode_each {mode : Option String} {changes changes' : Dict String Value}
    (hmode : ∀ name mode, dev.mappedModeAttribute = .ok name → P name (.str mode))
    (h : EachEntry P changes) (hadd : dev.addMode mode changes = .ok changes') :
    EachEntry P changes' := by
  unfold LanJebaoDevice.addMode at hadd
  cases mode with
  | none =>
      cases hadd
      exact h
  | some mode =>
      obtain ⟨name, hname, hadd⟩ := LanError.bind_eq_ok hadd
      cases hadd
      exact h.set (hmode name mode hname)

theorem addFrequency_each {frequency : Option Percent} {changes changes' : Dict String Value}
    (hfrequency : ∀ name value, 0 ≤ value ∧ value ≤ 100 →
      dev.requireLogicalAttribute .frequency = .ok name → P name (.int value))
    (h : EachEntry P changes) (hadd : dev.addFrequency frequency changes = .ok changes') :
    EachEntry P changes' := by
  unfold LanJebaoDevice.addFrequency at hadd
  cases frequency with
  | none =>
      cases hadd
      exact h
  | some frequency =>
      obtain ⟨name, hname, hadd⟩ := LanError.bind_eq_ok hadd
      cases hadd
      have hrange : (0 : ℤ) ≤ (frequency.val : ℤ) ∧ (frequency.val : ℤ) ≤ 100 := by
        have := frequency.property
        omega
      exact h.set (hfrequency name frequency.val hrange hname)

/-- **The changes of a target are the entries of single requests.** -/
theorem targetChanges_each {target : DeviceTarget} {changes : Dict String Value}
    (henabled : ∀ name enabled, dev.requireLogicalAttribute .enabled = .ok name →
      P name (.bool enabled))
    (hpower : ∀ name power, dev.validatePower power = .ok () →
      dev.requireLogicalAttribute .power = .ok name → P name (.int power))
    (hmode : ∀ name mode, dev.mappedModeAttribute = .ok name → P name (.str mode))
    (hfrequency : ∀ name value, 0 ≤ value ∧ value ≤ 100 →
      dev.requireLogicalAttribute .frequency = .ok name → P name (.int value))
    (h : dev.targetChanges target = .ok changes) : EachEntry P changes := by
  unfold LanJebaoDevice.targetChanges at h
  obtain ⟨enabledName, hname, h⟩ := LanError.bind_eq_ok h
  have hswitch : EachEntry P (single enabledName (.bool target.enabled)) :=
    eachEntry_single (henabled enabledName target.enabled hname)
  split at h
  · cases h
    exact hswitch
  · obtain ⟨_, hvalid, h⟩ := LanError.bind_eq_ok h
    obtain ⟨powerName, hpowerName, h⟩ := LanError.bind_eq_ok h
    have hpowered := hswitch.set (hpower powerName target.power.val hvalid hpowerName)
    obtain ⟨modeChanges, hadded, h⟩ := LanError.bind_eq_ok h
    exact addFrequency_each hfrequency (addMode_each hmode hpowered hadded) h

end EachEntry

theorem Askable.single (call : WriteCall) {name : String} {value : Value}
    (h : call.changes dev = .ok (single name value)) :
    Askable dev (JebaoFlow.single name value) :=
  eachEntry_single (P := fun name value => ∃ call : WriteCall,
    call.changes dev = .ok (JebaoFlow.single name value)) ⟨call, h⟩

theorem enabledChanges_eq {name : String} (h : dev.requireLogicalAttribute .enabled = .ok name)
    (enabled : Bool) : dev.enabledChanges enabled = .ok (single name (.bool enabled)) := by
  unfold LanJebaoDevice.enabledChanges
  rw [h]
  rfl

theorem powerChanges_eq {name : String} {power : ℤ} (hvalid : dev.validatePower power = .ok ())
    (h : dev.requireLogicalAttribute .power = .ok name) :
    dev.powerChanges power = .ok (single name (.int power)) := by
  unfold LanJebaoDevice.powerChanges
  rw [hvalid, h]
  rfl

theorem modeChanges_eq {name : String} (h : dev.mappedModeAttribute = .ok name) (mode : String) :
    dev.modeChanges mode = .ok (single name (.str mode)) := by
  unfold LanJebaoDevice.modeChanges
  rw [h]
  rfl

theorem frequencyChanges_eq {name : String} {value : ℤ} (hrange : 0 ≤ value ∧ value ≤ 100)
    (h : dev.requireLogicalAttribute .frequency = .ok name) :
    dev.frequencyChanges value = .ok (single name (.int value)) := by
  unfold LanJebaoDevice.frequencyChanges
  rw [if_neg (not_not.mpr hrange), h]
  rfl

theorem targetChanges_askable {target : DeviceTarget} {changes : Dict String Value}
    (h : dev.targetChanges target = .ok changes) : Askable dev changes :=
  targetChanges_each
    (fun _ enabled hname => ⟨.setEnabled enabled, enabledChanges_eq hname enabled⟩)
    (fun _ power hvalid hname => ⟨.setPower power, powerChanges_eq hvalid hname⟩)
    (fun _ mode hname => ⟨.setMode mode, modeChanges_eq hname mode⟩)
    (fun _ value hrange hname => ⟨.setFrequency value, frequencyChanges_eq hrange hname⟩) h

/-- **Whatever a call asks for, each entry of it can be asked for on its own.** -/
theorem changes_askable {call : WriteCall} {changes : Dict String Value}
    (h : call.changes dev = .ok changes) : Askable dev changes := by
  cases call with
  | setEnabled enabled =>
      obtain ⟨name, hname, heq⟩ := LanError.bind_eq_ok h
      cases heq
      exact Askable.single _ h
  | setPower power =>
      obtain ⟨_, _, heq⟩ := LanError.bind_eq_ok h
      obtain ⟨name, hname, heq⟩ := LanError.bind_eq_ok heq
      cases heq
      exact Askable.single _ h
  | setMode mode =>
      obtain ⟨name, hname, heq⟩ := LanError.bind_eq_ok h
      cases heq
      exact Askable.single _ h
  | setFrequency value =>
      have hfreq : dev.frequencyChanges value = .ok changes := h
      unfold LanJebaoDevice.frequencyChanges at hfreq
      split at hfreq
      · cases hfreq
      · obtain ⟨name, _, heq⟩ := LanError.bind_eq_ok hfreq
        cases heq
        exact Askable.single _ h
  | writeTarget target => exact targetChanges_askable h

/-! ## The cache -/

/-- What is cached can be asked for, and nothing but the cache decides what becomes of it. -/
structure CacheInv (dev : LanJebaoDevice) (s : LanState) : Prop where
  askable : Askable dev s.lastSentValues
  buildable : ∀ name value, s.lastSentValues.get? name = some value →
    dev.allowHardwareWrites = true
      ∧ ∃ payload, buildControlPayload dev.schema (single name value) = .ok payload

/-- A verified write adds exactly its own changes to the cache. -/
theorem get?_update {cache changes : Dict String Value} (name : String) :
    (Dict.setAll Prod.fst Prod.snd changes.entries cache).get? name
      = (changes.get? name).or (cache.get? name) := by
  cases hget : changes.get? name with
  | some value =>
      rw [Option.some_or]
      exact Dict.get?_setAll_of_mem (a := (name, value)) changes.nodup
        (Dict.get?_eq_some_iff.mp hget)
  | none =>
      rw [Option.none_or]
      refine Dict.get?_setAll_of_notMem changes.nodup (fun hmem => ?_)
      obtain ⟨e, he, rfl⟩ := List.mem_map.mp hmem
      rw [Dict.get?_eq_some_iff.mpr he] at hget
      cases hget

theorem CacheInv.congr {s s' : LanState} (h : CacheInv dev s)
    (hcache : s'.lastSentValues = s.lastSentValues) : CacheInv dev s' :=
  ⟨hcache ▸ h.askable, hcache ▸ h.buildable⟩

theorem cacheInv_empty {s : LanState} (hcache : s.lastSentValues = Dict.empty) : CacheInv dev s :=
  ⟨fun _ _ hget => (by rw [hcache] at hget; cases hget),
    fun _ _ hget => (by rw [hcache] at hget; cases hget)⟩

theorem LanOutcome.cacheInv {s s' : LanState} {op : LanOp} (h : CacheInv dev s)
    (hout : LanOutcome dev s op s') : CacheInv dev s' := by
  cases hout with
  | connected _ _ hcache =>
      rcases hcache with hcache | hcache
      · exact h.congr hcache
      · exact cacheInv_empty hcache
  | disconnected _ _ hcache =>
      rcases hcache with hcache | hcache
      · exact h.congr hcache
      · exact cacheInv_empty hcache
  | unread => exact h
  | read _ hcache => exact h.congr hcache
  | unasked => exact h
  | wrote hasked hout =>
      cases hout with
      | refused => exact h
      | suppressed => exact h
      | unverified _ _ _ hcache => exact h.congr hcache
      | verified hsent _ _ hcache =>
          obtain ⟨payload, hbuild⟩ := hsent.payload
          refine ⟨fun name value hget => ?_, fun name value hget => ?_⟩
          · rw [hcache, get?_update, Option.or_eq_some_iff] at hget
            rcases hget with hget | ⟨_, hget⟩
            · exact changes_askable hasked name value hget
            · exact h.askable name value hget
          · rw [hcache, get?_update, Option.or_eq_some_iff] at hget
            rcases hget with hget | ⟨_, hget⟩
            · exact ⟨hsent.allowed, buildControlPayload_single hbuild hget⟩
            · exact h.buildable name value hget

theorem cacheInv_step (s : LanState) (op : LanOp) (h : CacheInv dev s) :
    CacheInv dev (lanStep dev s op) := (lanStep_outcome dev s op).cacheInv h

/-- **Asking again for a cached value returns without touching the session.** -/
theorem CacheInv.ask {s : LanState} (h : CacheInv dev s) {name : String} {value : Value}
    (hget : s.lastSentValues.get? name = some value) (io : WriteIo) :
    ∃ call : WriteCall, call.changes dev = .ok (single name value)
      ∧ call.run dev io s = (.ok (), s) := by
  obtain ⟨call, hcall⟩ := h.askable name value hget
  obtain ⟨hallow, payload, hbuild⟩ := h.buildable name value hget
  refine ⟨call, hcall, ?_⟩
  have hcached : shows s.lastSentValues (single name value) = true :=
    shows_single.mpr ⟨value, hget, value.eq_refl⟩
  rw [run_eq, hcall]
  show dev.applyChanges (single name value) io s = _
  unfold LanJebaoDevice.applyChanges
  rw [if_neg (not_not.mpr hallow), hbuild]
  exact if_pos hcached

end JebaoFlow
