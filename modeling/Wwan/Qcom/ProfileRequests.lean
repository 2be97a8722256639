import Wwan.Lib.GoString
import Wwan.Qcom.ProfileCodec

/-! What the client checks of a WDS profile before it sends a request about it. -/

namespace Wwan.Qcom

/-- `WDSProfileType3GPP` -/
def wdsProfileType3GPP : UInt8 := 0
/-- `wdsAPNMaxLength` -/
def wdsAPNMaxLength : Nat := 150
/-- `wdsUsernameMaxLength` -/
def wdsUsernameMaxLength : Nat := 127
/-- `wdsPasswordMaxLength` -/
def wdsPasswordMaxLength : Nat := 127
/-- `wdsProfileNameMaxLength` -/
def wdsProfileNameMaxLength : Nat := 50
/-- `WDSPDPTypeIPv4` -/
def WDSPDPType.ipv4 : WDSPDPType := 0
/-- `WDSPDPTypeIPv6` -/
def WDSPDPType.ipv6 : WDSPDPType := 2
/-- `WDSPDPTypeIPv4v6` -/
def WDSPDPType.ipv4v6 : WDSPDPType := 3
/-- `WDSPDPTypeNonIP`, the last of them. -/
def WDSPDPType.nonIP : WDSPDPType := 4
/-- `WDSPDPHeaderCompressionRFC3095`, the last of them. -/
def WDSPDPHeaderCompression.rfc3095 : WDSPDPHeaderCompression := 4
/-- `WDSPDPDataCompressionV44`, the last of them. -/
def WDSPDPDataCompression.v44 : WDSPDPDataCompression := 3
/-- `WDSPDPAccessControlPermission`, the last of them. -/
def WDSPDPAccessControl.permission : WDSPDPAccessControl := 2
/-- `WDSAddressAllocationDHCP`, the last of them. -/
def WDSAddressAllocationPreference.dhcp : WDSAddressAllocationPreference := 1
/-- `WDSQoSClassNonGuaranteedBitrate8`, the last of them. -/
def WDSQoSClassIdentifier.nonGuaranteedBitrate8 : WDSQoSClassIdentifier := 8
/-- `WDSAuthenticationPAP` -/
def WDSAuthenticationMask.pap : WDSAuthenticationMask := 1
/-- `WDSAuthenticationCHAP` -/
def WDSAuthenticationMask.chap : WDSAuthenticationMask := 2
/-- `WDSAPNTypeDefault` -/
def WDSAPNTypeMask.default : WDSAPNTypeMask := 0x1
/-- `WDSAPNTypeIMS` -/
def WDSAPNTypeMask.ims : WDSAPNTypeMask := 0x2
/-- `WDSAPNTypeMMS` -/
def WDSAPNTypeMask.mms : WDSAPNTypeMask := 0x4
/-- `WDSAPNTypeDUN` -/
def WDSAPNTypeMask.dun : WDSAPNTypeMask := 0x8
/-- `WDSAPNTypeSUPL` -/
def WDSAPNTypeMask.supl : WDSAPNTypeMask := 0x10
/-- `WDSAPNTypeEmergency` -/
def WDSAPNTypeMask.emergency : WDSAPNTypeMask := 0x200
/-- `wdsAPNTypeAll` -/
def wdsAPNTypeAll : WDSAPNTypeMask := 0xFFF

/-- A string without a NUL byte that is not too long. -/
def validateWDSString (value : GoString) (maxLength : Nat) : Go MessageError Unit := do
  Go.failIf (0 ∈ value) (.format "value contains a NUL byte" [])
  Go.failIf (value.length > maxLength) (.format "value length %d exceeds maximum %d" [value.length, maxLength])

/-- An authentication mask without unknown bits. -/
def validateWDSAuthentication (authentication : WDSAuthenticationMask) : Go MessageError Unit :=
  Go.failIf (authentication &&& ~~~(WDSAuthenticationMask.pap ||| WDSAuthenticationMask.chap) ≠ 0)
    (.format "unsupported WDS authentication mask 0x%02X" [authentication.toNat])

/-- A profile type that is known. -/
def validateWDSProfileType (profileType : UInt8) : Go MessageError Unit :=
  Go.failIf (profileType > wdsProfileTypeEPC) (.format "profile type %d is out of range" [profileType.toNat])

/-- An IPv4 address, by itself or wrapped in an IPv6 address. -/
def validateWDSProfileIPv4 (address : Addr) : Go MessageError Unit :=
  match address.unmap with
  | .four .. => .ok ()
  | .zero | .six .. => Go.fail (.format "address %q is not IPv4" [])

/-- An IPv6 address. -/
def validateWDSProfileIPv6 (address : Addr) : Go MessageError Unit :=
  match address.unmap with
  | .six .. => .ok ()
  | .zero | .four .. => Go.fail (.format "address %q is not IPv6" [])

/-- The check of a field, where a field that is not set passes. -/
def ifSet {α : Type} (field : Option α) (check : α → Go MessageError Unit) : Go MessageError Unit :=
  match field with
  | none => .ok ()
  | some value => check value

/-- The check of a field with its error behind a context. -/
def validating {α : Type} (context : String) (field : Option α) (check : α → Go MessageError Unit) :
    Go MessageError Unit :=
  ifSet field fun value => Go.mapError (.wrap context) (check value)

/-- The function `wdsProfileUpdateEmpty`. -/
def wdsProfileUpdateEmpty (update : WDSProfileUpdate) : Bool :=
  update.name.isNone && update.apn.isNone && update.pdpType.isNone && update.username.isNone
    && update.password.isNone && update.authentication.isNone && update.headerCompression.isNone
    && update.dataCompression.isNone && update.primaryIPv4DNS.isNone && update.secondaryIPv4DNS.isNone
    && update.umtsRequestedQoS.isNone && update.umtsMinimumQoS.isNone && update.gprsRequestedQoS.isNone
    && update.gprsMinimumQoS.isNone && update.ipv4AddressPreference.isNone && update.pcscfUsingPCO.isNone
    && update.pdpAccessControl.isNone && update.pcscfUsingDHCP.isNone && update.imcn.isNone
    && update.pdpContextNumber.isNone && update.pdpContextSecondary.isNone && update.pdpContextPrimaryID.isNone
    && update.ipv6AddressPreference.isNone && update.umtsRequestedQoSWithSignaling.isNone
    && update.umtsMinimumQoSWithSignaling.isNone && update.primaryIPv6DNS.isNone && update.secondaryIPv6DNS.isNone
    && update.addressAllocationPreference.isNone && update.lteQoS.isNone && update.apnDisabled.isNone
    && update.roamingDisallowed.isNone && update.vlan.isNone && update.apnType.isNone && update.clatEnabled.isNone
    && update.ipv6PrefixDelegation.isNone

/-- The values of the fields that are set are ones the modem knows. -/
def WDSProfileUpdate.validate (u : WDSProfileUpdate) : Go MessageError Unit := do
  validating "validating WDS profile name" u.name fun name => validateWDSString name wdsProfileNameMaxLength
  validating "validating WDS APN" u.apn fun apn => validateWDSString apn wdsAPNMaxLength
  ifSet u.pdpType fun pdpType =>
    Go.failIf (pdpType > WDSPDPType.nonIP) (.format "unsupported WDS PDP type %d" [pdpType.toNat])
  validating "validating WDS username" u.username fun username => validateWDSString username wdsUsernameMaxLength
  validating "validating WDS password" u.password fun password => validateWDSString password wdsPasswordMaxLength
  ifSet u.authentication validateWDSAuthentication
  ifSet u.headerCompression fun compression =>
    Go.failIf (compression > WDSPDPHeaderCompression.rfc3095)
      (.format "WDS PDP header compression %d is out of range" [compression.toNat])
  ifSet u.dataCompression fun compression =>
    Go.failIf (compression > WDSPDPDataCompression.v44)
      (.format "WDS PDP data compression %d is out of range" [compression.toNat])
  validating "validating WDS primary IPv4 DNS" u.primaryIPv4DNS validateWDSProfileIPv4
  validating "validating WDS secondary IPv4 DNS" u.secondaryIPv4DNS validateWDSProfileIPv4
  validating "validating WDS IPv4 address preference" u.ipv4AddressPreference validateWDSProfileIPv4
  ifSet u.pdpAccessControl fun control =>
    Go.failIf (control > WDSPDPAccessControl.permission)
      (.format "WDS PDP access control %d is out of range" [control.toNat])
  validating "validating WDS IPv6 address preference" u.ipv6AddressPreference validateWDSProfileIPv6
  validating "validating WDS primary IPv6 DNS" u.primaryIPv6DNS validateWDSProfileIPv6
  validating "validating WDS secondary IPv6 DNS" u.secondaryIPv6DNS validateWDSProfileIPv6
  ifSet u.addressAllocationPreference fun preference =>
    Go.failIf (preference > WDSAddressAllocationPreference.dhcp)
      (.format "WDS address allocation preference %d is out of range" [preference.toNat])
  ifSet u.lteQoS fun qos =>
    Go.failIf (qos.classIdentifier > WDSQoSClassIdentifier.nonGuaranteedBitrate8)
      (.format "WDS LTE QoS class %d is out of range" [qos.classIdentifier.toNat])
  ifSet u.vlan fun vlan =>
    Go.failIf (vlan.start > vlan.stop)
      (.format "WDS VLAN range start %d exceeds end %d" [vlan.start.toNat, vlan.stop.toNat])
  ifSet u.apnType fun mask =>
    Go.failIf (mask &&& ~~~wdsAPNTypeAll ≠ 0) (.format "unsupported WDS APN type mask 0x%X" [mask.toNat])

/-- What `WDSUpdateProfile` checks before it sends a request. -/
def checkWDSUpdateProfile (id : WDSProfileID) (update : WDSProfileUpdate) : Go MessageError Unit := do
  Go.mapError (.wrap "modifying QMI WDS profile %d") (validateWDSProfileType id.type)
  Go.failIf (wdsProfileUpdateEmpty update) (.format "modifying QMI WDS profile: no fields selected" [])
  Go.mapError (.wrap "modifying QMI WDS profile %d") update.validate

/-- A profile to create, with the fields that the backend sets. -/
structure WDSProfileConfig where
  type : UInt8
  name : GoString := []
  apn : GoString
  pdpType : WDSPDPType
  username : GoString
  password : GoString
  authentication : WDSAuthenticationMask
  apnDisabled : Option Bool
  apnType : Option WDSAPNTypeMask

/-- The fields of a profile to create. -/
def wdsProfileUpdateFromConfig (cfg : WDSProfileConfig) : WDSProfileUpdate where
  name := some cfg.name
  apn := some cfg.apn
  pdpType := some cfg.pdpType
  apnDisabled := cfg.apnDisabled
  apnType := cfg.apnType
  username := if cfg.username ≠ [] then some cfg.username else none
  password := if cfg.password ≠ [] then some cfg.password else none
  authentication := if cfg.authentication ≠ 0 then some cfg.authentication else none

/-- The name of a profile that was given none. -/
def defaultProfileName (pdpType : WDSPDPType) : GoString :=
  GoString.ascii "wwan-go-" ++ GoString.ascii (toString pdpType.toNat)

/-- What `WDSCreateProfileWithConfig` checks before it sends a request, and the fields of the request. -/
def checkWDSCreateProfile (cfg : WDSProfileConfig) : Go MessageError WDSProfileUpdate := do
  let apn := GoString.trimSpace cfg.apn
  let name := GoString.trimSpace cfg.name
  Go.failIf (apn = []) (.format "creating QMI WDS profile: APN is required" [])
  let cfg := { cfg with apn := apn, name := if name = [] then defaultProfileName cfg.pdpType else name }
  Go.mapError (.wrap "creating QMI WDS profile") (validateWDSProfileType cfg.type)
  Go.mapError (.wrap "creating QMI WDS profile") (wdsProfileUpdateFromConfig cfg).validate
  return wdsProfileUpdateFromConfig cfg

/-- `wdsMaxLTEAttachPDNs` -/
def wdsMaxLTEAttachPDNs : Nat := 56

/-- What `WDSSetLTEAttachPDNList` checks before it sends a request. -/
def checkWDSSetLTEAttachPDNList (profiles : List UInt16) : Go MessageError Unit :=
  Go.failIf (profiles.length > wdsMaxLTEAttachPDNs)
    (.format "LTE attach PDN list length %d exceeds maximum %d" [profiles.length, wdsMaxLTEAttachPDNs])

end Wwan.Qcom
