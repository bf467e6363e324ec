import JebaoFlow.Devices.Binding
import JebaoFlow.Lib.Claims

/-!
# What binding promises

What a device claims, a vendor device and an endpoint, is found without regard to the
other devices. The loop then serves the claims first come, first served, and everything
about several devices follows from that: nothing is bound twice, and the order of the
configuration shows exactly where two devices claim the same.
-/

namespace JebaoFlow

variable {discovered : List DiscoveredDevice} {config : DeviceConfig} {configs : List DeviceConfig}

/-! ## Claims -/

/-- The only element of a list. -/
def sole {α : Type} : List α → Option α
  | [a] => some a
  | _ => none

theorem sole_eq_some {α : Type} {list : List α} {a : α} : sole list = some a ↔ list = [a] := by
  unfold sole
  split
  · exact ⟨fun h => by cases h; rfl, fun h => by cases h; rfl⟩
  · rename_i hne
    exact iff_of_false (fun h => nomatch h) (fun h => hne a h)

theorem sole_perm {α : Type} {list list' : List α} (h : list'.Perm list) : sole list' = sole list := by
  refine Option.ext (fun a => ?_)
  rw [sole_eq_some, sole_eq_some]
  constructor
  · rintro rfl
    exact (List.singleton_perm.mp h).symm
  · rintro rfl
    exact List.perm_singleton.mp h

/-- What a device claims: the vendor device of its identity, and an endpoint. -/
structure Claim where
  vendorId : Option String
  address : String
  productKey : String

/-- What the devices of a configuration claim, each for itself. -/
def claim (discovered : List DiscoveredDevice) (config : DeviceConfig) : Option Claim :=
  match config.identity with
  | none =>
      match config.address, config.productKey with
      | some address, some productKey =>
          if productType productKey = some config.type then some ⟨none, address, productKey⟩
          else none
      | some address, none =>
          (sole (addressCandidates discovered config address)).bind (fun candidate =>
            candidate.productKey.map (fun productKey => ⟨none, candidate.address, productKey⟩))
      | none, _ => none
  | some identity =>
      (sole (identityCandidates discovered config identity)).bind (fun candidate =>
        candidate.productKey.bind (fun productKey =>
          if productType productKey = some config.type then
            some ⟨some candidate.deviceId, candidate.address, productKey⟩
          else none))

/-- What can be claimed by one device only. -/
inductive Resource
  | vendor (deviceId : String)
  | endpoint (address productKey : String)
  deriving DecidableEq

/-- The resources of a claim, in the order in which the loop takes them. -/
def Claim.resources (claim : Claim) : List Resource :=
  match claim.vendorId with
  | none => [.endpoint claim.address claim.productKey]
  | some vendorId => [.vendor vendorId, .endpoint claim.address claim.productKey]

theorem Claim.endpoint_mem (claim : Claim) :
    Resource.endpoint claim.address claim.productKey ∈ claim.resources := by
  unfold Claim.resources
  cases claim.vendorId with
  | none => exact List.mem_singleton_self _
  | some vendorId => exact List.mem_cons_of_mem _ (List.mem_singleton_self _)

theorem Claim.vendor_mem (claim : Claim) {vendorId : String} (h : claim.vendorId = some vendorId) :
    Resource.vendor vendorId ∈ claim.resources := by
  unfold Claim.resources
  rw [h]
  exact List.mem_cons_self ..

/-- The endpoint of a claim, for the device that made it. -/
def Claim.resolve (claim : Claim) (logicalId : String) : ResolvedDevice :=
  { logicalId, address := claim.address, productKey := claim.productKey }

def wants (discovered : List DiscoveredDevice) (config : DeviceConfig) : Option (List Resource) :=
  (claim discovered config).map Claim.resources

theorem wants_sensible : Claims.Sensible (wants discovered) := by
  intro config wanted h
  obtain ⟨claim, _, rfl⟩ := Option.map_eq_some_iff.mp h
  unfold Claim.resources
  cases claim.vendorId with
  | none => simp
  | some vendorId => simp

/-! ## The loop serves the claims -/

/-- Serve one claim. -/
def Bindings.serve (s : Bindings) (logicalId : String) (claim : Claim) : Bindings :=
  match claim.vendorId with
  | none => s.bind logicalId claim.address claim.productKey
  | some vendorId =>
      if vendorId ∈ s.claimedVendorIds then s
      else { s with claimedVendorIds := vendorId :: s.claimedVendorIds }.bind logicalId
        claim.address claim.productKey

/-- **A round of the loop serves the claim of its device.** -/
theorem bindDevice_eq (s : Bindings) : bindDevice discovered s config
    = match claim discovered config with
      | none => s
      | some claim => s.serve config.id claim := by
  unfold bindDevice claim
  cases config.identity with
  | none =>
      dsimp only
      cases config.address with
      | none => rfl
      | some address =>
          cases config.productKey with
          | some productKey =>
              dsimp only
              split
              · rfl
              · rfl
          | none =>
              dsimp only
              split
              · rename_i candidate hsole
                rw [hsole]
                dsimp only [sole, Option.bind_some]
                cases candidate.productKey with
                | none => rfl
                | some productKey => rfl
              · rename_i hne
                cases hsole : sole (addressCandidates discovered config address) with
                | none => rfl
                | some candidate => exact absurd (sole_eq_some.mp hsole) (hne candidate)
  | some identity =>
      dsimp only
      split
      · rename_i candidate hsole
        rw [hsole]
        dsimp only [sole, Option.bind_some]
        cases candidate.productKey with
        | none =>
            dsimp only [Option.bind_none]
            split
            · rfl
            · rfl
        | some productKey =>
            dsimp only [Option.bind_some]
            by_cases htype : productType productKey = some config.type
            · rw [if_pos htype, if_pos htype]
              rfl
            · rw [if_neg htype, if_neg htype]
              split
              · rfl
              · rfl
      · rename_i hne
        cases hsole : sole (identityCandidates discovered config identity) with
        | none => rfl
        | some candidate => exact absurd (sole_eq_some.mp hsole) (hne candidate)

/-- The claim sets hold what was taken. -/
structure Tracks (s : Bindings) (taken : List Resource) : Prop where
  vendors : ∀ vendorId, vendorId ∈ s.claimedVendorIds ↔ Resource.vendor vendorId ∈ taken
  endpoints : ∀ address productKey, (address, productKey) ∈ s.claimedEndpoints
    ↔ Resource.endpoint address productKey ∈ taken

theorem Tracks.bind {s : Bindings} {taken : List Resource} (h : Tracks s taken)
    (logicalId address productKey : String) :
    Tracks (s.bind logicalId address productKey)
        (Claims.acquire [.endpoint address productKey] taken).1
      ∧ (s.bind logicalId address productKey).resolved
        = if (Claims.acquire [Resource.endpoint address productKey] taken).2 then
            s.resolved.set logicalId { logicalId, address, productKey }
          else s.resolved := by
  unfold Bindings.bind
  rw [Claims.acquire]
  by_cases hclaimed : (address, productKey) ∈ s.claimedEndpoints
  · rw [if_pos hclaimed, if_pos ((h.endpoints ..).mp hclaimed)]
    exact ⟨h, rfl⟩
  · rw [if_neg hclaimed, if_neg (fun htaken => hclaimed ((h.endpoints ..).mpr htaken))]
    refine ⟨⟨fun vendorId => ?_, fun address' productKey' => ?_⟩, rfl⟩
    · rw [h.vendors]
      simp [Claims.acquire]
    · show (address', productKey') ∈ (address, productKey) :: s.claimedEndpoints ↔ _
      rw [List.mem_cons, h.endpoints]
      simp [Claims.acquire]

/-- **Serving a claim is acquiring its resources.** -/
theorem Tracks.serve {s : Bindings} {taken : List Resource} (h : Tracks s taken) (logicalId : String)
    (claim : Claim) :
    Tracks (s.serve logicalId claim) (Claims.acquire claim.resources taken).1
      ∧ (s.serve logicalId claim).resolved
        = if (Claims.acquire claim.resources taken).2 then
            s.resolved.set logicalId (claim.resolve logicalId)
          else s.resolved := by
  unfold Bindings.serve Claim.resources
  cases claim.vendorId with
  | none => exact h.bind logicalId claim.address claim.productKey
  | some vendorId =>
      dsimp only
      rw [Claims.acquire]
      by_cases hclaimed : vendorId ∈ s.claimedVendorIds
      · rw [if_pos hclaimed, if_pos ((h.vendors _).mp hclaimed)]
        exact ⟨h, rfl⟩
      · rw [if_neg hclaimed, if_neg (fun htaken => hclaimed ((h.vendors _).mpr htaken))]
        -- the vendor device is taken before the endpoint is looked at
        have hvendor : Tracks { s with claimedVendorIds := vendorId :: s.claimedVendorIds }
            (.vendor vendorId :: taken) := by
          refine ⟨fun vendorId' => ?_, fun address productKey => ?_⟩
          · rw [List.mem_cons, List.mem_cons, h.vendors, Resource.vendor.injEq]
          · rw [List.mem_cons, h.endpoints]
            simp
        exact hvendor.bind logicalId claim.address claim.productKey

/-- The endpoint a device claims, for the result of the loop. -/
def claimed (discovered : List DiscoveredDevice) (config : DeviceConfig) : ResolvedDevice :=
  match claim discovered config with
  | some claim => claim.resolve config.id
  | none => { logicalId := config.id, address := "", productKey := "" }

/-- **The result of the loop is the devices whose claims were served.** -/
theorem foldl_bindDevice : ∀ (configs : List DeviceConfig) {s : Bindings} {taken : List Resource},
    Tracks s taken → (configs.foldl (bindDevice discovered) s).resolved
      = Dict.setAll DeviceConfig.id (claimed discovered)
        (Claims.served (wants discovered) configs taken) s.resolved
  | [], _, _, _ => rfl
  | config :: configs, s, taken, h => by
      rw [List.foldl_cons, bindDevice_eq, Claims.served]
      unfold wants
      cases hclaim : claim discovered config with
      | none => exact foldl_bindDevice configs h
      | some claim =>
          obtain ⟨htracks, hresolved⟩ := h.serve config.id claim
          dsimp only [Option.map_some]
          rw [foldl_bindDevice configs htracks, hresolved]
          by_cases hok : (Claims.acquire claim.resources taken).2 = true
          · rw [if_pos hok, if_pos hok]
            have hentry : claimed discovered config = claim.resolve config.id := by
              unfold claimed
              rw [hclaim]
            rw [← hentry]
            rfl
          · rw [if_neg hok, if_neg hok]
            rfl

theorem tracks_nil : Tracks {} [] :=
  ⟨fun _ => iff_of_false List.not_mem_nil List.not_mem_nil,
    fun _ _ => iff_of_false List.not_mem_nil List.not_mem_nil⟩

/-- The devices whose claims are served. -/
def bound (discovered : List DiscoveredDevice) (configs : List DeviceConfig) : List DeviceConfig :=
  Claims.served (wants discovered) configs []

theorem resolve_eq : resolveDeviceBindings configs discovered
    = Dict.setAll DeviceConfig.id (claimed discovered) (bound discovered configs) Dict.empty :=
  foldl_bindDevice configs tracks_nil

theorem bound_sublist : (bound discovered configs).Sublist configs := Claims.served_sublist

/-- Who is bound, and to what. -/
theorem resolve_get?_iff (hnodup : (configs.map DeviceConfig.id).Nodup) {logicalId : String}
    {resolved : ResolvedDevice} :
    (resolveDeviceBindings configs discovered).get? logicalId = some resolved
      ↔ ∃ config ∈ bound discovered configs, config.id = logicalId
        ∧ ∃ c, claim discovered config = some c ∧ resolved = c.resolve config.id := by
  have hnodupBound : ((bound discovered configs).map DeviceConfig.id).Nodup :=
    hnodup.sublist (bound_sublist.map _)
  have hentry : ∀ config ∈ bound discovered configs,
      (resolveDeviceBindings configs discovered).get? config.id = some (claimed discovered config)
        ∧ ∃ c, claim discovered config = some c ∧ claimed discovered config = c.resolve config.id := by
    intro config hconfig
    obtain ⟨wanted, hwants, _⟩ := Claims.served_free wants_sensible hconfig
    obtain ⟨c, hclaim, _⟩ := Option.map_eq_some_iff.mp hwants
    rw [resolve_eq]
    refine ⟨Dict.get?_setAll_of_mem hnodupBound hconfig, c, hclaim, ?_⟩
    unfold claimed
    rw [hclaim]
  constructor
  · intro h
    by_cases hlisted : logicalId ∈ (bound discovered configs).map DeviceConfig.id
    · obtain ⟨config, hconfig, rfl⟩ := List.mem_map.mp hlisted
      obtain ⟨hget, c, hclaim, heq⟩ := hentry config hconfig
      rw [hget] at h
      exact ⟨config, hconfig, rfl, c, hclaim, (Option.some.inj h).symm.trans heq⟩
    · rw [resolve_eq, Dict.get?_setAll_of_notMem hnodupBound hlisted] at h
      cases h
  · rintro ⟨config, hconfig, rfl, c, hclaim, rfl⟩
    obtain ⟨hget, c', hclaim', heq⟩ := hentry config hconfig
    cases hclaim.symm.trans hclaim'
    rw [hget, heq]

/-- What a bound device is bound to, when the device is known. -/
theorem resolve_config (hnodup : (configs.map DeviceConfig.id).Nodup) (hmem : config ∈ configs)
    {resolved : ResolvedDevice}
    (h : (resolveDeviceBindings configs discovered).get? config.id = some resolved) :
    config ∈ bound discovered configs
      ∧ ∃ c, claim discovered config = some c ∧ resolved = c.resolve config.id := by
  obtain ⟨other, hother, hid, hclaim⟩ := (resolve_get?_iff hnodup).mp h
  have hself := List.inj_on_of_nodup_map hnodup (bound_sublist.subset hother) hmem hid
  subst hself
  exact ⟨hother, hclaim⟩

/-! ## What a claim says -/

/-- The discovered device matches every selector of the identity. -/
def Selects (config : DeviceConfig) (identity : DeviceIdentityConfig) (candidate : DiscoveredDevice) :
    Prop :=
  (∀ deviceId ∈ identity.deviceId, candidate.deviceId = deviceId)
    ∧ (∀ macAddress ∈ identity.macAddress, compactMac candidate.macAddress = some macAddress)
    ∧ ∀ productKey ∈ config.productKey, candidate.productKey = some productKey

instance (config : DeviceConfig) (identity : DeviceIdentityConfig) (candidate : DiscoveredDevice) :
    Decidable (Selects config identity candidate) :=
  inferInstanceAs (Decidable (_ ∧ _))

theorem narrow_eq (wanted : Option String) (shown : DiscoveredDevice → Option String)
    (candidates : List DiscoveredDevice) : narrow wanted shown candidates
      = candidates.filter (fun candidate => ∀ value ∈ wanted, shown candidate = some value) := by
  unfold narrow
  cases wanted with
  | none => simp
  | some value => simp

theorem identityCandidates_eq (identity : DeviceIdentityConfig) :
    identityCandidates discovered config identity
      = discovered.filter (fun candidate => Selects config identity candidate) := by
  unfold identityCandidates
  rw [narrow_eq, narrow_eq, narrow_eq, List.filter_filter, List.filter_filter]
  refine List.filter_congr (fun candidate _ => ?_)
  unfold Selects
  rw [← Bool.decide_and, ← Bool.decide_and]
  simp only [Option.some.injEq]
  exact decide_eq_decide.mpr ⟨fun h => ⟨h.2, h.1.2, h.1.1⟩, fun h => ⟨⟨h.2.2, h.2.1⟩, h.1⟩⟩

/-- A claim is of the device's type. -/
theorem claim_type {c : Claim} (h : claim discovered config = some c) :
    productType c.productKey = some config.type := by
  unfold claim at h
  cases hidentity : config.identity with
  | none =>
      rw [hidentity] at h
      dsimp only at h
      cases haddress : config.address with
      | none => rw [haddress] at h; cases h
      | some address =>
          cases hkey : config.productKey with
          | some productKey =>
              rw [haddress, hkey] at h
              dsimp only at h
              split at h
              · rename_i htype
                cases h
                exact htype
              · cases h
          | none =>
              rw [haddress, hkey] at h
              dsimp only at h
              obtain ⟨candidate, hsole, h⟩ := Option.bind_eq_some_iff.mp h
              obtain ⟨productKey, hproduct, rfl⟩ := Option.map_eq_some_iff.mp h
              have hmem : candidate ∈ addressCandidates discovered config address := by
                rw [sole_eq_some.mp hsole]
                exact List.mem_singleton_self _
              have htype := (of_decide_eq_true (List.mem_filter.mp hmem).2).2
              rwa [hproduct, Option.bind_some] at htype
  | some identity =>
      rw [hidentity] at h
      obtain ⟨candidate, _, h⟩ := Option.bind_eq_some_iff.mp h
      obtain ⟨productKey, _, h⟩ := Option.bind_eq_some_iff.mp h
      split at h
      · rename_i htype
        cases h
        exact htype
      · cases h

/-- The claim of an identity is on the one device that matches it. -/
theorem claim_identity {identity : DeviceIdentityConfig} (hidentity : config.identity = some identity)
    {c : Claim} (h : claim discovered config = some c) : ∃ candidate,
      discovered.filter (fun candidate => Selects config identity candidate) = [candidate]
        ∧ c.vendorId = some candidate.deviceId ∧ c.address = candidate.address
        ∧ candidate.productKey = some c.productKey := by
  unfold claim at h
  rw [hidentity] at h
  obtain ⟨candidate, hsole, h⟩ := Option.bind_eq_some_iff.mp h
  obtain ⟨productKey, hproduct, h⟩ := Option.bind_eq_some_iff.mp h
  rw [identityCandidates_eq, sole_eq_some] at hsole
  split at h
  · cases h
    exact ⟨candidate, hsole, rfl, rfl, hproduct⟩
  · cases h

/-- A claim does not depend on the order of the answers. -/
theorem claim_perm {discovered' : List DiscoveredDevice} (h : discovered'.Perm discovered)
    (config : DeviceConfig) : claim discovered' config = claim discovered config := by
  have hidentity : ∀ identity, sole (identityCandidates discovered' config identity)
      = sole (identityCandidates discovered config identity) := fun identity => by
    rw [identityCandidates_eq, identityCandidates_eq]
    exact sole_perm (h.filter _)
  have haddress : ∀ address, sole (addressCandidates discovered' config address)
      = sole (addressCandidates discovered config address) :=
    fun address => sole_perm (h.filter _)
  unfold claim
  simp only [hidentity, haddress]

/-! ## The promises -/

/-- **Bindings are sound and unique.** -/
theorem bindings_sound (cfg : AppConfig) {configs : List DeviceConfig}
    (hconfigs : configs.Sublist cfg.devices) (discovered : List DiscoveredDevice) :
    -- an identity is bound to the one device that matches all of it
    (∀ config ∈ configs, ∀ identity, config.identity = some identity → ∀ resolved,
      (resolveDeviceBindings configs discovered).get? config.id = some resolved → ∃ candidate,
        discovered.filter (fun candidate => Selects config identity candidate) = [candidate]
          ∧ resolved.address = candidate.address
          ∧ candidate.productKey = some resolved.productKey)
    -- and nothing is bound to another type of product
    ∧ (∀ logicalId resolved,
      (resolveDeviceBindings configs discovered).get? logicalId = some resolved →
        ∃ config ∈ configs, config.id = logicalId ∧ resolved.logicalId = logicalId
          ∧ productType resolved.productKey = some config.type)
    -- no endpoint is bound twice
    ∧ (∀ logicalId logicalId' resolved resolved',
      (resolveDeviceBindings configs discovered).get? logicalId = some resolved →
        (resolveDeviceBindings configs discovered).get? logicalId' = some resolved' →
          logicalId ≠ logicalId' →
            (resolved.address, resolved.productKey) ≠ (resolved'.address, resolved'.productKey))
    -- and no vendor device stands behind two identities
    ∧ (∀ config ∈ configs, ∀ config' ∈ configs, ∀ identity identity', config.identity = some identity →
      config'.identity = some identity' → config.id ≠ config'.id →
        (resolveDeviceBindings configs discovered).contains config.id = true →
          (resolveDeviceBindings configs discovered).contains config'.id = true →
            ∀ candidate candidate',
              discovered.filter (fun candidate => Selects config identity candidate) = [candidate] →
                discovered.filter (fun candidate => Selects config' identity' candidate)
                    = [candidate'] →
                  candidate.deviceId ≠ candidate'.deviceId)
    -- whatever the order of the answers
    ∧ ∀ discovered' : List DiscoveredDevice, discovered'.Perm discovered →
      resolveDeviceBindings configs discovered' = resolveDeviceBindings configs discovered := by
  have hnodup : (configs.map DeviceConfig.id).Nodup :=
    cfg.device_ids_unique.sublist (hconfigs.map _)
  -- the resources of two bound devices are apart
  have hapart : ∀ config ∈ bound discovered configs, ∀ config' ∈ bound discovered configs,
      config.id ≠ config'.id → Claims.Apart (wants discovered) config config' := by
    intro config hconfig config' hconfig' hne
    have hpairwise : (bound discovered configs).Pairwise (Claims.Apart (wants discovered)) :=
      Claims.served_apart wants_sensible
    exact hpairwise.forall hconfig hconfig' (fun heq => hne (congrArg DeviceConfig.id heq))
  refine ⟨?_, ?_, ?_, ?_, ?_⟩
  · intro config hmem identity hidentity resolved h
    obtain ⟨_, c, hclaim, rfl⟩ := resolve_config hnodup hmem h
    obtain ⟨candidate, hsole, _, haddress, hproduct⟩ := claim_identity hidentity hclaim
    exact ⟨candidate, hsole, haddress, hproduct⟩
  · intro logicalId resolved h
    obtain ⟨config, hconfig, rfl, c, hclaim, rfl⟩ := (resolve_get?_iff hnodup).mp h
    exact ⟨config, bound_sublist.subset hconfig, rfl, rfl, claim_type hclaim⟩
  · intro logicalId logicalId' resolved resolved' h h' hne heq
    obtain ⟨config, hconfig, rfl, c, hclaim, rfl⟩ := (resolve_get?_iff hnodup).mp h
    obtain ⟨config', hconfig', rfl, c', hclaim', rfl⟩ := (resolve_get?_iff hnodup).mp h'
    obtain ⟨haddress, hkey⟩ := Prod.mk.inj heq
    refine hapart config hconfig config' hconfig' hne c.resources c'.resources
      (by unfold wants; rw [hclaim]; rfl) (by unfold wants; rw [hclaim']; rfl) _
      c.endpoint_mem ?_
    have hmem := c'.endpoint_mem
    dsimp only [Claim.resolve] at haddress hkey
    rwa [← haddress, ← hkey] at hmem
  · intro config hmem config' hmem' identity identity' hidentity hidentity' hne h h' candidate
      candidate' hsole hsole' heq
    obtain ⟨resolved, h⟩ := Option.isSome_iff_exists.mp h
    obtain ⟨resolved', h'⟩ := Option.isSome_iff_exists.mp h'
    obtain ⟨hconfig, c, hclaim, rfl⟩ := resolve_config hnodup hmem h
    obtain ⟨hconfig', c', hclaim', rfl⟩ := resolve_config hnodup hmem' h'
    obtain ⟨found, hfound, hvendor, _⟩ := claim_identity hidentity hclaim
    obtain ⟨found', hfound', hvendor', _⟩ := claim_identity hidentity' hclaim'
    cases List.singleton_inj.mp (hsole.symm.trans hfound)
    cases List.singleton_inj.mp (hsole'.symm.trans hfound')
    refine hapart config hconfig config' hconfig' hne c.resources c'.resources
      (by unfold wants; rw [hclaim]; rfl) (by unfold wants; rw [hclaim']; rfl) _
      (c.vendor_mem hvendor) ?_
    rw [heq]
    exact c'.vendor_mem hvendor'
  · intro discovered' hperm
    have hclaims : ∀ config, claim discovered' config = claim discovered config := claim_perm hperm
    rw [resolve_eq, resolve_eq]
    unfold bound wants claimed
    simp only [hclaims]

/-- A wavemaker that is found by its vendor id. -/
def leftWavemaker : DeviceConfig :=
  { leftPump with identity := some { deviceId := some "vendor-left", selector := rfl } }

/-- A wavemaker that is found by its MAC address. -/
def rightWavemaker : DeviceConfig :=
  { rightPump with identity := some { macAddress := some "001122334455", selector := rfl } }

/-- A tank with the two of them. -/
def pairedTank : AppConfig where
  mqtt := { topicPrefix := "jebao" }
  devices := [leftWavemaker, rightWavemaker]
  groups := []
  devices_ne := by decide
  device_ids_unique := by decide
  group_ids_unique := by decide
  members_known := by decide
  vendor_ids_unique := by decide
  mac_addresses_unique := by decide
  patterns_supported := by decide

/-- A device that answers with the vendor id of the one and the MAC address of the other. -/
def bothWavemakers : DiscoveredDevice where
  address := "192.0.2.11"
  deviceId := "vendor-left"
  macAddress := some "00:11:22:33:44:55"
  productKey := some "1d8c63eaccac4205b92c84d77d5a08fb"

theorem bindings_sound_pairedTank : ∃ candidate,
    [bothWavemakers].filter (fun candidate => Selects leftWavemaker ⟨some "vendor-left", none, rfl, by decide,
        by decide⟩ candidate) = [candidate]
      ∧ "192.0.2.11" = candidate.address :=
  have hsound := bindings_sound pairedTank (List.Sublist.refl _) [bothWavemakers]
  have hleft := hsound.1 leftWavemaker (List.mem_cons_self ..) _ rfl
    { logicalId := "left", address := "192.0.2.11", productKey := "1d8c63eaccac4205b92c84d77d5a08fb" }
    (by decide +kernel)
  hleft.imp (fun _ h => ⟨h.1, h.2.1⟩)

/-! ## The order of the configuration -/

/-- The two devices claim one endpoint, or one vendor device. -/
def Contend (discovered : List DiscoveredDevice) (a b : DeviceConfig) : Prop :=
  ∃ c c', claim discovered a = some c ∧ claim discovered b = some c'
    ∧ ((c.address = c'.address ∧ c.productKey = c'.productKey)
      ∨ (c.vendorId = c'.vendorId ∧ c.vendorId ≠ none))

theorem mem_resources {c : Claim} {r : Resource} : r ∈ c.resources
    ↔ r = .endpoint c.address c.productKey ∨ ∃ vendorId, c.vendorId = some vendorId
      ∧ r = .vendor vendorId := by
  unfold Claim.resources
  cases c.vendorId with
  | none => simp
  | some vendorId => simp [or_comm]

/-- Devices that do not contend want nothing in common. -/
theorem apart_iff {a b : DeviceConfig} :
    Claims.Apart (wants discovered) a b ↔ ¬ Contend discovered a b := by
  constructor
  · rintro h ⟨c, c', ha, hb, hshared⟩
    have hwants : wants discovered a = some c.resources := by
      unfold wants
      rw [ha]
      rfl
    have hwants' : wants discovered b = some c'.resources := by
      unfold wants
      rw [hb]
      rfl
    rcases hshared with ⟨haddress, hkey⟩ | ⟨hvendor, hsome⟩
    · refine h _ _ hwants hwants' _ c.endpoint_mem ?_
      rw [haddress, hkey]
      exact c'.endpoint_mem
    · obtain ⟨vendorId, hvendorId⟩ := Option.ne_none_iff_exists'.mp hsome
      exact h _ _ hwants hwants' _ (c.vendor_mem hvendorId)
        (c'.vendor_mem (hvendor ▸ hvendorId))
  · intro h wanted wanted' hwants hwants' r hr hr'
    obtain ⟨c, ha, rfl⟩ := Option.map_eq_some_iff.mp hwants
    obtain ⟨c', hb, rfl⟩ := Option.map_eq_some_iff.mp hwants'
    refine h ⟨c, c', ha, hb, ?_⟩
    rcases mem_resources.mp hr with rfl | ⟨vendorId, hvendor, rfl⟩
    · rcases mem_resources.mp hr' with heq | ⟨_, _, heq⟩
      · obtain ⟨haddress, hkey⟩ := Resource.endpoint.inj heq
        exact Or.inl ⟨haddress, hkey⟩
      · cases heq
    · rcases mem_resources.mp hr' with heq | ⟨vendorId', hvendor', heq⟩
      · cases heq
      · cases heq
        exact Or.inr ⟨hvendor.trans hvendor'.symm, by rw [hvendor]; exact Option.some_ne_none _⟩

/-- The same bindings are the same devices bound. -/
theorem resolve_eq_iff {configs' : List DeviceConfig} (hperm : configs'.Perm configs)
    (hnodup : (configs.map DeviceConfig.id).Nodup) :
    (∀ logicalId, (resolveDeviceBindings configs' discovered).get? logicalId
        = (resolveDeviceBindings configs discovered).get? logicalId)
      ↔ ∀ config, config ∈ bound discovered configs' ↔ config ∈ bound discovered configs := by
  have hnodup' : (configs'.map DeviceConfig.id).Nodup := (hperm.map _).nodup_iff.mpr hnodup
  constructor
  · intro h config
    -- who is bound in one order has an entry there, hence one in the other
    have hside : ∀ {list list' : List DeviceConfig}, (list.map DeviceConfig.id).Nodup →
        (list'.map DeviceConfig.id).Nodup → (config ∈ list → config ∈ list') →
        (resolveDeviceBindings list discovered).get? config.id
          = (resolveDeviceBindings list' discovered).get? config.id →
        config ∈ bound discovered list → config ∈ bound discovered list' := by
      intro list list' hlist hlist' hmem heq hbound
      obtain ⟨wanted, hwants, _⟩ := Claims.served_free wants_sensible hbound
      obtain ⟨c, hclaim, _⟩ := Option.map_eq_some_iff.mp hwants
      have hget := (resolve_get?_iff hlist).mpr ⟨config, hbound, rfl, c, hclaim, rfl⟩
      rw [heq] at hget
      exact (resolve_config hlist' (hmem (bound_sublist.subset hbound)) hget).1
    exact ⟨hside hnodup' hnodup hperm.mem_iff.mp (h config.id),
      hside hnodup hnodup' hperm.mem_iff.mpr (h config.id).symm⟩
  · intro h logicalId
    refine Option.ext (fun resolved => ?_)
    rw [resolve_get?_iff hnodup', resolve_get?_iff hnodup]
    simp only [h]

/-- **The order of the configuration does not matter exactly when no two devices contend.** -/
theorem binding_order_iff (cfg : AppConfig) {configs : List DeviceConfig}
    (hconfigs : configs.Sublist cfg.devices) (discovered : List DiscoveredDevice) :
    (∀ configs' : List DeviceConfig, configs'.Perm configs → ∀ logicalId,
        (resolveDeviceBindings configs' discovered).get? logicalId
          = (resolveDeviceBindings configs discovered).get? logicalId)
      ↔ configs.Pairwise (fun a b => ¬ Contend discovered a b) := by
  have hnodup : (configs.map DeviceConfig.id).Nodup :=
    cfg.device_ids_unique.sublist (hconfigs.map _)
  have horder := Claims.served_order_iff (@wants_sensible discovered) (List.Nodup.of_map _ hnodup)
  rw [← List.Pairwise.iff (fun _ _ => apart_iff), ← horder]
  exact forall_congr' (fun configs' => forall_congr' (fun hperm => resolve_eq_iff hperm hnodup))

theorem binding_order_iff_pairedTank :
    ¬ (∀ configs' : List DeviceConfig, configs'.Perm pairedTank.devices → ∀ logicalId,
        (resolveDeviceBindings configs' [bothWavemakers]).get? logicalId
          = (resolveDeviceBindings pairedTank.devices [bothWavemakers]).get? logicalId) := by
  rw [binding_order_iff pairedTank (List.Sublist.refl _) [bothWavemakers]]
  intro h
  have hleft := List.rel_of_pairwise_cons h (List.mem_singleton_self _)
  exact hleft ⟨_, _, rfl, rfl, Or.inl ⟨rfl, rfl⟩⟩

/-- The wavemaker that answers for both is the one whose device is configured first. -/
theorem binding_settled_by_order_pairedTank :
    ¬ ∀ (cfg : AppConfig) (discovered : List DiscoveredDevice) (configs' : List DeviceConfig),
      configs'.Perm cfg.devices → ∀ logicalId,
        (resolveDeviceBindings configs' discovered).get? logicalId
          = (resolveDeviceBindings cfg.devices discovered).get? logicalId := by
  intro h
  have hswapped := h pairedTank [bothWavemakers] [rightWavemaker, leftWavemaker] (List.Perm.swap ..) "left"
  exact absurd hswapped (by decide +kernel)

end JebaoFlow
