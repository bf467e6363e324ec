import JebaoFlow.Lib.Run
import JebaoFlow.Proof.ControlPayload
import JebaoFlow.Proof.LanCache

/-!
# Safe control payloads

What the adapter hands to the session is safe to send: writes are enabled, the
payload flags nothing but the four logical attributes, touches no value bit of
another datapoint, and its power is one the configuration allows. The entries of a
request decide this, and every public call makes its entries the same way.
-/

namespace JebaoFlow

open Bytes

variable {dev : LanJebaoDevice} {changes : Dict String Value} {s s' : LanState}

/-! ## Safe payloads -/

/-- The datapoints behind the adapter's calls, as far as the product has them. -/
def ProductSchema.logicalAttributes (schema : ProductSchema) : List (Option String) :=
  [schema.enabledAttribute, schema.powerAttribute, schema.modeAttribute, schema.frequencyAttribute]

/-- Within the configured limits and on the configured step. -/
def PowerAllowed (dev : LanJebaoDevice) (power : ℤ) : Prop :=
  (dev.powerLimits.minPower.val : ℤ) ≤ power ∧ power ≤ dev.powerLimits.maxPower.val
    ∧ (dev.powerStep : ℤ) ∣ power

/-- The flags and the values of a frame are safe to send. -/
structure SafeFrame (dev : LanJebaoDevice) (flags values : Bytes) : Prop where
  logical : ∀ i, bit flags i = true →
    ∃ a ∈ dev.schema.attributes, a.id = i ∧ some a.name ∈ dev.schema.logicalAttributes
  /-- A value bit that is set belongs to a flagged datapoint. -/
  unflagged : ∀ i, bit values i = true →
    ∃ a ∈ dev.schema.attributes, bit flags a.id = true ∧ dev.schema.occupies a i = true
  power : ∀ a ∈ dev.schema.attributes, dev.schema.powerAttribute = some a.name →
    bit flags a.id = true → ∃ power, dev.schema.decodeAttribute values a = .ok (.int power)
      ∧ PowerAllowed dev power

/-- The payload is a safe frame, the flags from the last byte to the first. -/
def SafePayload (dev : LanJebaoDevice) (payload : Bytes) : Prop :=
  ∃ flags values, flags.length = dev.schema.attributeFlagsSize
    ∧ values.length = dev.schema.attributeValuesSize
    ∧ payload = controlAction :: flags.reverse ++ values ∧ SafeFrame dev flags values

/-- The control payloads handed over so far, newest first. -/
def LanState.payloads (s : LanState) : List Bytes :=
  s.history.filterMap (fun event => match event with
    | .control _ payload _ => some payload
    | .status _ => none)

/-! ## What a request asks for -/

/-- A logical attribute, and an allowed power where it is the power. -/
def AllowedEntry (dev : LanJebaoDevice) (name : String) (value : Value) : Prop :=
  some name ∈ dev.schema.logicalAttributes ∧ (dev.schema.powerAttribute = some name →
    ∃ power, value = .int power ∧ PowerAllowed dev power)

theorem validatePower_ok {power : ℤ} (h : dev.validatePower power = .ok ()) :
    PowerAllowed dev power := by
  unfold LanJebaoDevice.validatePower at h
  split at h
  · cases h
  · rename_i hrange
    split at h
    · cases h
    · rename_i hstep
      obtain ⟨hlow, hhigh⟩ := not_not.mp hrange
      exact ⟨hlow, hhigh, Int.dvd_of_emod_eq_zero (not_not.mp hstep)⟩

/-- The attribute behind a capability, by the source's own table. -/
theorem requireLogicalAttribute_ok {name : String} :
    (dev.requireLogicalAttribute .enabled = .ok name → dev.schema.enabledAttribute = some name)
      ∧ (dev.requireLogicalAttribute .power = .ok name → dev.schema.powerAttribute = some name)
      ∧ (dev.requireLogicalAttribute .mode = .ok name → dev.schema.modeAttribute = some name)
      ∧ (dev.requireLogicalAttribute .frequency = .ok name →
          dev.schema.frequencyAttribute = some name) := by
  unfold LanJebaoDevice.requireLogicalAttribute
  dsimp only
  refine ⟨fun h => ?_, fun h => ?_, fun h => ?_, fun h => ?_⟩ <;> split at h <;> cases h <;>
    assumption

/-- An entry for a logical attribute that is not the power. -/
theorem allowedEntry_of_ne {name : String} {value : Value}
    (hlogical : some name ∈ dev.schema.logicalAttributes)
    (hne : dev.schema.powerAttribute ≠ some name) : AllowedEntry dev name value :=
  ⟨hlogical, fun h => absurd h hne⟩

theorem allowedEntry_enabled {name : String}
    (h : dev.requireLogicalAttribute .enabled = .ok name) (value : Value) :
    AllowedEntry dev name value := by
  have hname := requireLogicalAttribute_ok.1 h
  refine allowedEntry_of_ne (by simp [ProductSchema.logicalAttributes, hname]) (fun hpower => ?_)
  exact (known_power_name dev.schema dev.known name hpower).1 hname

theorem allowedEntry_power {name : String} {power : ℤ} (hvalid : dev.validatePower power = .ok ())
    (h : dev.requireLogicalAttribute .power = .ok name) : AllowedEntry dev name (.int power) := by
  have hname := requireLogicalAttribute_ok.2.1 h
  exact ⟨by simp [ProductSchema.logicalAttributes, hname],
    fun _ => ⟨power, rfl, validatePower_ok hvalid⟩⟩

theorem allowedEntry_mode {name : String} (h : dev.mappedModeAttribute = .ok name) (value : Value) :
    AllowedEntry dev name value := by
  unfold LanJebaoDevice.mappedModeAttribute at h
  obtain ⟨required, hrequired, h⟩ := LanError.bind_eq_ok h
  have hsame : required = name := by
    split at h
    · cases h
    · split at h
      · cases h
      · cases h
        rfl
  subst hsame
  have hname := requireLogicalAttribute_ok.2.2.1 hrequired
  refine allowedEntry_of_ne (by simp [ProductSchema.logicalAttributes, hname]) (fun hpower => ?_)
  exact (known_power_name dev.schema dev.known required hpower).2.1 hname

theorem allowedEntry_frequency {name : String}
    (h : dev.requireLogicalAttribute .frequency = .ok name) (value : Value) :
    AllowedEntry dev name value := by
  have hname := requireLogicalAttribute_ok.2.2.2 h
  refine allowedEntry_of_ne (by simp [ProductSchema.logicalAttributes, hname]) (fun hpower => ?_)
  exact (known_power_name dev.schema dev.known name hpower).2.2 hname

/-- **Every request, whatever its argument, asks for allowed entries.** -/
theorem request_allowed {request : WriteRequest} (h : request.changes dev = .ok changes) :
    EachEntry (AllowedEntry dev) changes := by
  cases request with
  | setEnabled enabled =>
      obtain ⟨name, hname, heq⟩ := LanError.bind_eq_ok h
      cases heq
      exact eachEntry_single (allowedEntry_enabled hname enabled.value)
  | setPower power =>
      cases power with
      | int power =>
          obtain ⟨_, hvalid, heq⟩ := LanError.bind_eq_ok h
          obtain ⟨name, hname, heq⟩ := LanError.bind_eq_ok heq
          cases heq
          exact eachEntry_single (allowedEntry_power hvalid hname)
      | bool b => cases h
      | str text => cases h
      | object o => cases h
  | setMode mode =>
      obtain ⟨name, hname, heq⟩ := LanError.bind_eq_ok h
      cases heq
      exact eachEntry_single (allowedEntry_mode hname mode.value)
  | setFrequency value =>
      cases value with
      | int value =>
          have hfrequency : dev.frequencyChanges value = .ok changes := h
          unfold LanJebaoDevice.frequencyChanges at hfrequency
          split at hfrequency
          · cases hfrequency
          · obtain ⟨name, hname, heq⟩ := LanError.bind_eq_ok hfrequency
            cases heq
            exact eachEntry_single (allowedEntry_frequency hname _)
      | bool b => cases h
      | str text => cases h
      | object o => cases h
  | writeTarget target =>
      exact targetChanges_each (fun _ enabled hname => allowedEntry_enabled hname _)
        (fun _ _ hvalid hname => allowedEntry_power hvalid hname)
        (fun _ _ hname => allowedEntry_mode hname _)
        (fun _ _ _ hname => allowedEntry_frequency hname _) h

/-! ## What a request is built into -/

/-- **Allowed entries make a safe payload.** -/
theorem safePayload_of_allowed {payload : Bytes} (hallowed : EachEntry (AllowedEntry dev) changes)
    (h : buildControlPayload dev.schema changes = .ok payload) : SafePayload dev payload := by
  obtain ⟨_, flags, values, hpayload, hplaced⟩ := buildControlPayload_ok h
  have hwidth := known_width dev.schema dev.known
  have hsized : Sized dev.schema (zeros dev.schema.attributeFlagsSize,
      zeros dev.schema.attributeValuesSize) := ⟨zeros_length _, zeros_length _⟩
  have hbuffers := placeChanges_placed hwidth changes.entries hsized hplaced
  obtain ⟨hflags, hvalues⟩ := hbuffers.sized hsized
  -- a flag is set exactly when a change names its datapoint
  have hflagged : ∀ i, bit flags i = true
      ↔ ∃ a ∈ dev.schema.attributes, a.id = i ∧ a.name ∈ changes.entries.map Prod.fst := by
    intro i
    rw [hbuffers.flags i, bit_zeros]
    simp only [Bool.false_eq_true, false_or]
  have hentry : ∀ a : Datapoint, a.name ∈ changes.entries.map Prod.fst →
      ∃ value, (a.name, value) ∈ changes.entries ∧ AllowedEntry dev a.name value := by
    intro a hname
    obtain ⟨⟨name, value⟩, hmem, rfl⟩ := List.mem_map.mp hname
    exact ⟨value, hmem, hallowed _ value (Dict.get?_eq_some_iff.mpr hmem)⟩
  refine ⟨flags, values, hflags, hvalues, hpayload, ⟨fun i hi => ?_, fun i hi => ?_,
    fun a ha hpower hset => ?_⟩⟩
  · obtain ⟨a, ha, hid, hname⟩ := (hflagged i).mp hi
    obtain ⟨value, _, hentry⟩ := hentry a hname
    exact ⟨a, ha, hid, hentry.1⟩
  -- the values start as zeros, and only the changes write into them
  · by_contra hnone
    have hkept := hbuffers.values.bits i (fun ⟨a, ha, hname, hoccupies⟩ =>
      hnone ⟨a, ha, (hflagged a.id).mpr ⟨a, ha, rfl, hname⟩, hoccupies⟩)
    rw [bit_zeros] at hkept
    exact Bool.noConfusion (hi.symm.trans hkept)
  · obtain ⟨b, hb, hid, hname⟩ := (hflagged a.id).mp hset
    -- ids are unique, so the change behind the flag is the one of the power
    have hself := List.inj_on_of_nodup_map dev.schema.ids_unique hb ha hid
    subst hself
    obtain ⟨value, hmem, hentry⟩ := hentry b hname
    obtain ⟨power, rfl, hpowerAllowed⟩ := hentry.2 hpower
    obtain ⟨hplain, hexclusive⟩ := known_power_plain dev.known hb hpower
    have hread := placeChanges_number hwidth hb hplain hexclusive changes.entries hsized
      changes.nodup hmem hplaced
    exact ⟨power, hread, hpowerAllowed⟩

/-! ## Runs -/

/-- Everything handed over was allowed to go out, and is safe. -/
def HandedOverSafely (dev : LanJebaoDevice) (payload : Bytes) : Prop :=
  dev.allowHardwareWrites = true ∧ dev.schema.controlSupported = true ∧ SafePayload dev payload

theorem payloads_statuses (statuses : List Bytes) (h : s'.history
    = statuses.map SessionEvent.status ++ s.history) : s'.payloads = s.payloads := by
  unfold LanState.payloads
  rw [h]
  exact filterMap_statuses (fun _ => rfl) statuses s.history

theorem sent_safely {io : WriteIo} {payload : Bytes}
    (hallowed : EachEntry (AllowedEntry dev) changes) (hout : Transmits dev changes io s)
    (hbuild : buildControlPayload dev.schema changes = .ok payload) : HandedOverSafely dev payload :=
  ⟨hout.allowed, (buildControlPayload_ok hbuild).1, safePayload_of_allowed hallowed hbuild⟩

/-- Changes are handed over in the payload that is built of them, or not at all. -/
theorem applyChanges_payloads (dev : LanJebaoDevice) (changes : Dict String Value) (io : WriteIo)
    (s : LanState) : (dev.applyChanges changes io s).2.payloads = s.payloads
      ∨ ∃ payload, Transmits dev changes io s ∧ buildControlPayload dev.schema changes = .ok payload
        ∧ (dev.applyChanges changes io s).2.payloads = payload :: s.payloads := by
  have hhist := applyChanges_history dev changes io s
  generalize (dev.applyChanges changes io s).2 = s' at hhist ⊢
  -- acknowledged or not, one frame went out; reading back adds none
  cases hhist with
  | quiet => exact Or.inl rfl
  | raised hout hbuild _ hhistory =>
      refine Or.inr ⟨_, hout, hbuild, ?_⟩
      unfold LanState.payloads
      rw [hhistory]
      rfl
  | @recorded payload statuses _ hout hbuild _ hhistory =>
      exact Or.inr ⟨payload, hout, hbuild, payloads_statuses (s := { s with
        history := .control changes payload io.startedAt :: s.history }) statuses hhistory⟩

/-- **Writing a target hands over what its preview shows, or nothing.** -/
theorem writeTarget_previewed {target : DeviceTarget} {plan : ControlPlan}
    (h : dev.previewTarget target = .ok plan) (io : WriteIo) (s : LanState) :
    (adapterStep dev s (.write (.writeTarget target) io)).payloads = s.payloads
      ∨ (adapterStep dev s (.write (.writeTarget target) io)).payloads
        = plan.payload :: s.payloads := by
  show (dev.write (dev.targetChanges target) io s).2.payloads = _
    ∨ (dev.write (dev.targetChanges target) io s).2.payloads = _
  unfold LanJebaoDevice.previewTarget at h
  cases hchanges : dev.targetChanges target with
  | error e =>
      rw [hchanges] at h
      cases h
  | ok changes =>
      rw [hchanges] at h
      refine (applyChanges_payloads dev changes io s).imp_right ?_
      rintro ⟨payload, _, hbuild, hpayloads⟩
      dsimp only [bind, Except.bind] at h
      rw [hbuild] at h
      cases h
      exact hpayloads

/-- **One call hands over at most one payload, and a safe one.** -/
theorem adapterStep_payloads (dev : LanJebaoDevice) (s : LanState) (op : AdapterOp) :
    ∃ new : List Bytes, (adapterStep dev s op).payloads = new ++ s.payloads ∧ new.length ≤ 1
      ∧ ∀ payload ∈ new, HandedOverSafely dev payload := by
  have hnothing : ∀ s' : LanState, s'.payloads = s.payloads →
      ∃ new : List Bytes, s'.payloads = new ++ s.payloads ∧ new.length ≤ 1
        ∧ ∀ payload ∈ new, HandedOverSafely dev payload := fun s' h =>
    ⟨[], h, Nat.zero_le _, fun _ hmem => absurd hmem List.not_mem_nil⟩
  have hone : ∀ {payload : Bytes} (s' : LanState), s'.payloads = payload :: s.payloads →
      HandedOverSafely dev payload → ∃ new : List Bytes, s'.payloads = new ++ s.payloads
        ∧ new.length ≤ 1 ∧ ∀ payload ∈ new, HandedOverSafely dev payload :=
    fun s' h hsafe => ⟨[_], h, le_refl _, fun _ hmem => List.mem_singleton.mp hmem ▸ hsafe⟩
  cases op with
  | connect connected authenticated =>
      cases connected with
      | error e => exact hnothing _ rfl
      | ok u => cases authenticated <;> exact hnothing _ rfl
  | disconnect disconnected => cases disconnected <;> exact hnothing _ rfl
  | getState raw =>
      obtain ⟨statuses, hhistory, _⟩ := readValues_history dev raw s
      exact hnothing _ (payloads_statuses statuses hhistory)
  | previewTarget target => exact hnothing _ rfl
  | write request io =>
      show ∃ new : List Bytes, (dev.write (request.changes dev) io s).2.payloads = _ ∧ _
      cases hasked : request.changes dev with
      | error e => exact hnothing _ rfl
      | ok changes =>
          show ∃ new : List Bytes, (dev.applyChanges changes io s).2.payloads = _ ∧ _
          rcases applyChanges_payloads dev changes io s with hsame | ⟨payload, hout, hbuild, hpayloads⟩
          · exact hnothing _ hsame
          · exact hone _ hpayloads (sent_safely (request_allowed hasked) hout hbuild)

/--
**The adapter only ever hands over safe payloads.**

From a fresh adapter of any known product, under any sequence of public calls with
any arguments and any answers of session, clock and pump: whatever was handed to
the session had hardware writes enabled and a product that supports control,
flags the logical attributes only, leaves every other value bit zero and carries
an allowed power wherever it carries one; and no call hands over more than one.
-/
theorem write_safety (dev : LanJebaoDevice) (ops : List AdapterOp) :
    Run.Always (adapterStep dev) (fun s => ∀ payload ∈ s.payloads, HandedOverSafely dev payload)
        {} ops
      ∧ Run.Each (adapterStep dev) (fun s op => ∃ new : List Bytes, new.length ≤ 1
          ∧ (adapterStep dev s op).payloads = new ++ s.payloads) {} ops := by
  constructor
  · refine Run.always_of_each (C := fun _ _ => True) ?_ (fun _ h => h)
      (Run.each_of_all (fun _ _ => trivial) _ _) (fun _ hmem => absurd hmem List.not_mem_nil)
    intro s op _ hinv payload hmem
    obtain ⟨new, hpayloads, _, hnew⟩ := adapterStep_payloads dev s op
    rw [hpayloads] at hmem
    rcases List.mem_append.mp hmem with hmem | hmem
    · exact hnew payload hmem
    · exact hinv payload hmem
  · refine Run.each_of_all (fun s op => ?_) _ _
    obtain ⟨new, hpayloads, hlen, _⟩ := adapterStep_payloads dev s op
    exact ⟨new, hlen, hpayloads⟩

end JebaoFlow
