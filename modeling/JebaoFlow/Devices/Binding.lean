import JebaoFlow.Config

/-!
# Binding logical devices to discovered ones

`resolve_device_bindings`: which endpoint a configured device is observed at. A device
with an identity is bound to the one discovered device that matches all of it; without
one it is bound to its configured endpoint, or to the one discovered at its address.
Endpoints and vendor devices that an earlier device claimed are not bound again.
-/

namespace JebaoFlow

/-- One answer to the discovery, as far as binding reads it. -/
structure DiscoveredDevice where
  address : String
  deviceId : String
  macAddress : Option String := none
  productKey : Option String := none
  deriving DecidableEq

structure ResolvedDevice where
  logicalId : String
  address : String
  productKey : String
  deriving DecidableEq

/-- `_PRODUCT_TYPES.get(product_key)`. -/
def productType (productKey : String) : Option DeviceType :=
  if productKey = "0696a19599bc484f8e1866f5ccf4ee7e" then some .returnPump
  else if productKey = "1d8c63eaccac4205b92c84d77d5a08fb" then some .wavemaker
  else if productKey = "50dbc92221fd4d33ae69a1fedd43b555" then some .wavemaker
  else if productKey = "5b3c136fd4b74f3fb2a366a254c76c9a" then some .dosingPump
  else if productKey = "6a5c47b3ea364ecb841b47f5997a1775" then some .returnPump
  else none

/-- `_compact_mac`; only letters that are hexadecimal digits matter to a comparison. -/
def compactMac (value : Option String) : Option String :=
  value.map (fun text =>
    String.ofList ((text.toList.filter (fun c => c ≠ ':' ∧ c ≠ '-')).map Char.toLower))

/-- The two claim sets and the result of the loop. -/
structure Bindings where
  resolved : Dict String ResolvedDevice := Dict.empty
  claimedVendorIds : List String := []
  claimedEndpoints : List (String × String) := []

/-- Claim the endpoint for the device and bind it, unless it is claimed. -/
def Bindings.bind (s : Bindings) (logicalId address productKey : String) : Bindings :=
  if (address, productKey) ∈ s.claimedEndpoints then s
  else { s with
    claimedEndpoints := (address, productKey) :: s.claimedEndpoints
    resolved := s.resolved.set logicalId { logicalId, address, productKey } }

/-- The discovered devices at the configured address, of the device's type. -/
def addressCandidates (discovered : List DiscoveredDevice) (config : DeviceConfig)
    (address : String) : List DiscoveredDevice :=
  discovered.filter (fun candidate => candidate.address = address
    ∧ candidate.productKey.bind productType = some config.type)

/-- The candidates that show a wanted value, when one is wanted. -/
def narrow (wanted : Option String) (shown : DiscoveredDevice → Option String)
    (candidates : List DiscoveredDevice) : List DiscoveredDevice :=
  match wanted with
  | some value => candidates.filter (fun candidate => shown candidate = some value)
  | none => candidates

/-- The discovered devices that match every selector of the identity. -/
def identityCandidates (discovered : List DiscoveredDevice) (config : DeviceConfig)
    (identity : DeviceIdentityConfig) : List DiscoveredDevice :=
  let candidates := narrow identity.deviceId (fun candidate => some candidate.deviceId) discovered
  let candidates := narrow identity.macAddress (fun candidate => compactMac candidate.macAddress)
    candidates
  narrow config.productKey DiscoveredDevice.productKey candidates

/-- One round of the loop. -/
def bindDevice (discovered : List DiscoveredDevice) (s : Bindings) (config : DeviceConfig) :
    Bindings :=
  match config.identity with
  | none =>
      match config.address, config.productKey with
      | some address, some productKey =>
          if productType productKey = some config.type then s.bind config.id address productKey
          else s
      | some address, none =>
          match addressCandidates discovered config address with
          | [candidate] =>
              match candidate.productKey with
              | some productKey => s.bind config.id candidate.address productKey
              | none => s
          | _ => s
      | none, _ => s
  | some identity =>
      match identityCandidates discovered config identity with
      | [candidate] =>
          if candidate.deviceId ∈ s.claimedVendorIds then s
          else
            match candidate.productKey with
            | none => s
            | some productKey =>
                if productType productKey = some config.type then
                  -- the vendor device stays claimed when its endpoint is not free
                  { s with claimedVendorIds := candidate.deviceId :: s.claimedVendorIds }.bind
                    config.id candidate.address productKey
                else s
      | _ => s

def resolveDeviceBindings (configs : List DeviceConfig) (discovered : List DiscoveredDevice) :
    Dict String ResolvedDevice :=
  (configs.foldl (bindDevice discovered) {}).resolved

end JebaoFlow
