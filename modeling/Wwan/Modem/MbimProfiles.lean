import Wwan.Mbim.Contexts
import Wwan.Modem.Profiles

/-! The profiles of an MBIM modem: its provisioned contexts, of either version. -/

namespace Wwan.Modem.Mbim.Profiles

open Wwan.Mbim

/-- A provisioned context of the first version. -/
structure ProvisionedContext where
  contextID : UInt32
  contextType : ContextType
  accessString : GoString
  userName : GoString
  password : GoString
  compression : Compression := 0
  authProtocol : AuthProtocol
  deriving DecidableEq

/-! The types of contexts. -/

/-- `ContextTypeInternet` -/
def contextTypeInternet : ContextType :=
  ⟨[0x7E, 0x5E, 0x2A, 0x7E, 0x4E, 0x6F, 0x72, 0x72, 0x73, 0x6B, 0x65, 0x6E, 0x7E, 0x5E, 0x2A, 0x7E], rfl⟩
/-- `ContextTypeIMS` -/
def contextTypeIMS : ContextType :=
  ⟨[0x21, 0x61, 0x0D, 0x01, 0x30, 0x74, 0x4B, 0xCE, 0x94, 0x25, 0xB5, 0x3A, 0x07, 0xD6, 0x97, 0xD6], rfl⟩
/-- `ContextTypeMMS` -/
def contextTypeMMS : ContextType :=
  ⟨[0x46, 0x72, 0x66, 0x64, 0x72, 0x69, 0x6B, 0xC6, 0x96, 0x24, 0xD1, 0xD3, 0x53, 0x89, 0xAC, 0xA9], rfl⟩
/-- `ContextTypeTethering` -/
def contextTypeTethering : ContextType :=
  ⟨[0x5E, 0x4E, 0x06, 0x01, 0x48, 0xDC, 0x4E, 0x2B, 0xAC, 0xB8, 0x08, 0xB4, 0x01, 0x6B, 0xBA, 0xAC], rfl⟩
/-- `ContextTypeEmergencyCalling` -/
def contextTypeEmergencyCalling : ContextType :=
  ⟨[0x5F, 0x41, 0xAD, 0xB8, 0x20, 0x4E, 0x4D, 0x31, 0x9D, 0xA8, 0xB3, 0xC9, 0x70, 0xE3, 0x60, 0xF2], rfl⟩
/-- `ContextTypeSUPL` -/
def contextTypeSUPL : ContextType :=
  ⟨[0x64, 0xF6, 0x58, 0x62, 0x69, 0x54, 0x4F, 0xB3, 0xB6, 0xE1, 0x80, 0x74, 0x61, 0xAB, 0xEB, 0xA0], rfl⟩

/-- The type of the context for the first of the uses. -/
def contextType (value : APNType) : ContextType :=
  if value &&& APNType.default ≠ 0 then contextTypeInternet
  else if value &&& APNType.ims ≠ 0 then contextTypeIMS
  else if value &&& APNType.mms ≠ 0 then contextTypeMMS
  else if value &&& APNType.tethering ≠ 0 then contextTypeTethering
  else if value &&& APNType.supl ≠ 0 then contextTypeSUPL
  else if value &&& APNType.emergency ≠ 0 then contextTypeEmergencyCalling
  else contextTypeInternet

/-- The use of a type of contexts. -/
def apnType (value : ContextType) : APNType :=
  if value = contextTypeInternet then APNType.default
  else if value = contextTypeIMS then APNType.ims
  else if value = contextTypeMMS then APNType.mms
  else if value = contextTypeTethering then APNType.tethering
  else if value = contextTypeSUPL then APNType.supl
  else if value = contextTypeEmergencyCalling then APNType.emergency
  else 0

/-- The strongest of the protocols. -/
def authProtocol (authentication : Authentication) : AuthProtocol :=
  if authentication &&& Authentication.mschapv2 ≠ 0 then 3
  else if authentication &&& Authentication.chap ≠ 0 then 2
  else if authentication &&& Authentication.pap ≠ 0 then 1
  else 0

/-- The protocol of a context. -/
def authentication (protocol : AuthProtocol) : Authentication :=
  if protocol = 1 then Authentication.pap
  else if protocol = 2 then Authentication.chap
  else if protocol = 3 then Authentication.mschapv2
  else Authentication.none

/-- The IP versions of a context to set. -/
def contextIPType (family : IPFamily) : ContextIPType :=
  if family = IPFamily.ipv4 then 1
  else if family = IPFamily.ipv6 then 2
  else if family = IPFamily.ipv4v6 then 3
  else 0

/-- The IP versions of a context. -/
def ipFamily (typ : ContextIPType) : IPFamily :=
  if typ = 1 then IPFamily.ipv4
  else if typ = 2 then IPFamily.ipv6
  else if typ = 3 ∨ typ = 4 then IPFamily.ipv4v6
  else IPFamily.unknown

/-- The state of a context to set. -/
def contextState (enabled : Bool) : ContextState := if enabled then ContextState.enabled else 0

/-! Contexts and profiles. -/

/-- The context of the second version to set. -/
def profileV2Config (id : UInt32) (cfg : ProfileConfig) : ProvisionedContextV2 where
  -- The client fills in the version that it has negotiated.
  mbimExVersion := 0
  contextID := id
  contextType := contextType cfg.apnType
  ipType := contextIPType cfg.ipFamily
  state := contextState cfg.enabled
  roaming := ContextRoamingControl.allowAll
  mediaType := 0
  source := 1
  accessString := cfg.apn
  userName := cfg.username
  password := cfg.password
  compression := 0
  authProtocol := authProtocol cfg.authentication
  snssai := none

/-- The context of the first version to set. -/
def profileV1Config (id : UInt32) (cfg : ProfileConfig) : ProvisionedContext where
  contextID := id
  contextType := contextType cfg.apnType
  accessString := cfg.apn
  userName := cfg.username
  password := cfg.password
  authProtocol := authProtocol cfg.authentication

/-- The profile of a context of the first version. -/
def profileFromV1 (value : ProvisionedContext) : Profile where
  id := value.contextID.toInt32
  apn := value.accessString
  authentication := authentication value.authProtocol
  username := value.userName
  password := value.password
  apnType := apnType value.contextType
  enabled := true

/-- The profile of a context of the second version. -/
def profileFromV2 (value : ProvisionedContextV2) : Profile where
  id := value.contextID.toInt32
  apn := value.accessString
  ipFamily := ipFamily value.ipType
  authentication := authentication value.authProtocol
  username := value.userName
  password := value.password
  apnType := apnType value.contextType
  enabled := value.state = ContextState.enabled

/-- The errors of creating a profile. -/
inductive ProfileError where
  /-- `creating profile: %w` with the errors of both versions. -/
  | both (v2 legacy : Error)
  /-- `creating profile: modem did not return the created V2 profile` -/
  | notReturnedV2
  /-- `creating profile: modem did not return the created profile` -/
  | notReturned
  deriving DecidableEq

/-- What the two commands that set a context return for it. -/
structure Client where
  setProvisionedContextV2 : ProvisionedContextV2 → Except Error (List ProvisionedContextV2)
  setProvisionedContext : ProvisionedContext → Except Error (List ProvisionedContext)

/-- The ID that asks for a new context. -/
def newContextID : UInt32 := 0xFFFFFFFF

/-- `CreateProfile` -/
def createProfile (client : Client) (cfg : ProfileConfig) : Except ProfileError Profile :=
  match client.setProvisionedContextV2 (profileV2Config newContextID cfg) with
  | .ok contexts =>
    match contexts.find? fun current => current.accessString = cfg.apn ∧ current.userName = cfg.username with
    | some current => .ok (profileFromV2 current)
    | none => .error .notReturnedV2
  | .error v2Err =>
    match client.setProvisionedContext (profileV1Config newContextID cfg) with
    | .error err => .error (.both v2Err err)
    | .ok contextsV1 =>
      match contextsV1.find? fun current => current.accessString = cfg.apn ∧ current.userName = cfg.username with
      | some current => .ok (profileFromV1 current)
      | none => .error .notReturned

end Wwan.Modem.Mbim.Profiles
