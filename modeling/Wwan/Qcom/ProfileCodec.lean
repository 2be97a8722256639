import Wwan.Lib.Netip
import Wwan.Qcom.ProfileEvents
import Wwan.Qcom.Tlv

/-! The optional fields of a WDS profile, each in an element of its own. -/

namespace Wwan.Qcom

open Utf16.ByteOrder (littleEndian)

/-! The types of the elements. -/

/-- `wdsTLVProfileName` -/
def wdsTLVProfileName : UInt8 := 0x10
/-- `wdsTLVProfilePDPType` -/
def wdsTLVProfilePDPType : UInt8 := 0x11
/-- `wdsTLVProfileHeaderCompression` -/
def wdsTLVProfileHeaderCompression : UInt8 := 0x12
/-- `wdsTLVProfileDataCompression` -/
def wdsTLVProfileDataCompression : UInt8 := 0x13
/-- `wdsTLVProfileAPN` -/
def wdsTLVProfileAPN : UInt8 := 0x14
/-- `wdsTLVProfilePrimaryIPv4DNS` -/
def wdsTLVProfilePrimaryIPv4DNS : UInt8 := 0x15
/-- `wdsTLVProfileSecondaryIPv4DNS` -/
def wdsTLVProfileSecondaryIPv4DNS : UInt8 := 0x16
/-- `wdsTLVProfileUMTSRequestedQoS` -/
def wdsTLVProfileUMTSRequestedQoS : UInt8 := 0x17
/-- `wdsTLVProfileUMTSMinimumQoS` -/
def wdsTLVProfileUMTSMinimumQoS : UInt8 := 0x18
/-- `wdsTLVProfileGPRSRequestedQoS` -/
def wdsTLVProfileGPRSRequestedQoS : UInt8 := 0x19
/-- `wdsTLVProfileGPRSMinimumQoS` -/
def wdsTLVProfileGPRSMinimumQoS : UInt8 := 0x1A
/-- `wdsTLVProfileUsername` -/
def wdsTLVProfileUsername : UInt8 := 0x1B
/-- `wdsTLVProfilePassword` -/
def wdsTLVProfilePassword : UInt8 := 0x1C
/-- `wdsTLVProfileAuth` -/
def wdsTLVProfileAuth : UInt8 := 0x1D
/-- `wdsTLVProfileIPv4Preference` -/
def wdsTLVProfileIPv4Preference : UInt8 := 0x1E
/-- `wdsTLVPCSCFUsingPCO` -/
def wdsTLVPCSCFUsingPCO : UInt8 := 0x1F
/-- `wdsTLVProfilePDPAccessControl` -/
def wdsTLVProfilePDPAccessControl : UInt8 := 0x20
/-- `wdsTLVPCSCFUsingDHCP` -/
def wdsTLVPCSCFUsingDHCP : UInt8 := 0x21
/-- `wdsTLVIMCNFlag` -/
def wdsTLVIMCNFlag : UInt8 := 0x22
/-- `wdsTLVProfilePDPContextNumber` -/
def wdsTLVProfilePDPContextNumber : UInt8 := 0x25
/-- `wdsTLVProfilePDPContextSecondary` -/
def wdsTLVProfilePDPContextSecondary : UInt8 := 0x26
/-- `wdsTLVProfilePDPContextPrimaryID` -/
def wdsTLVProfilePDPContextPrimaryID : UInt8 := 0x27
/-- `wdsTLVProfileIPv6Preference` -/
def wdsTLVProfileIPv6Preference : UInt8 := 0x28
/-- `wdsTLVProfileUMTSRequestedQoSSig` -/
def wdsTLVProfileUMTSRequestedQoSSig : UInt8 := 0x29
/-- `wdsTLVProfileUMTSMinimumQoSSig` -/
def wdsTLVProfileUMTSMinimumQoSSig : UInt8 := 0x2A
/-- `wdsTLVProfilePrimaryIPv6DNS` -/
def wdsTLVProfilePrimaryIPv6DNS : UInt8 := 0x2B
/-- `wdsTLVProfileSecondaryIPv6DNS` -/
def wdsTLVProfileSecondaryIPv6DNS : UInt8 := 0x2C
/-- `wdsTLVProfileAddressAllocation` -/
def wdsTLVProfileAddressAllocation : UInt8 := 0x2D
/-- `wdsTLVProfileLTEQoS` -/
def wdsTLVProfileLTEQoS : UInt8 := 0x2E
/-- `wdsTLVProfileAPNDisabled` -/
def wdsTLVProfileAPNDisabled : UInt8 := 0x2F
/-- `wdsTLVProfileRoamingDisallowed` -/
def wdsTLVProfileRoamingDisallowed : UInt8 := 0x3E
/-- `wdsTLVProfileVLAN` -/
def wdsTLVProfileVLAN : UInt8 := 0x50
/-- `wdsTLVProfileAPNType` -/
def wdsTLVProfileAPNType : UInt8 := 0xDD
/-- `wdsTLVProfileCLATEnabled` -/
def wdsTLVProfileCLATEnabled : UInt8 := 0xDE
/-- `wdsTLVProfileIPv6PrefixDelegation` -/
def wdsTLVProfileIPv6PrefixDelegation : UInt8 := 0xDF

/-! The values of the fields. -/

/-- `WDSPDPType` -/
abbrev WDSPDPType := UInt8
/-- `WDSPDPHeaderCompression` -/
abbrev WDSPDPHeaderCompression := UInt8
/-- `WDSPDPDataCompression` -/
abbrev WDSPDPDataCompression := UInt8
/-- `WDSAuthenticationMask` -/
abbrev WDSAuthenticationMask := UInt8
/-- `WDSPDPAccessControl` -/
abbrev WDSPDPAccessControl := UInt8
/-- `WDSAddressAllocationPreference` -/
abbrev WDSAddressAllocationPreference := UInt8
/-- `WDSQoSClassIdentifier` -/
abbrev WDSQoSClassIdentifier := UInt8
/-- `WDSAPNTypeMask` -/
abbrev WDSAPNTypeMask := UInt64

/-- The QoS parameters of UMTS. -/
structure WDSUMTSGrantedQoS where
  trafficClass : UInt8
  maximumUplinkBitrate : UInt32
  maximumDownlinkBitrate : UInt32
  guaranteedUplinkBitrate : UInt32
  guaranteedDownlinkBitrate : UInt32
  deliveryOrder : UInt8
  maximumSDUSize : UInt32
  sduErrorRatio : UInt8
  residualBitErrorRatio : UInt8
  erroneousSDUDelivery : UInt8
  transferDelay : UInt32
  trafficHandlingPriority : UInt32
  deriving DecidableEq, Inhabited

/-- The QoS parameters of GPRS. -/
structure WDSGPRSGrantedQoS where
  precedenceClass : UInt32
  delayClass : UInt32
  reliabilityClass : UInt32
  peakThroughputClass : UInt32
  meanThroughputClass : UInt32
  deriving DecidableEq, Inhabited

/-- The QoS parameters of UMTS with the signaling indication. -/
structure WDSUMTSQoSWithSignaling where
  qos : WDSUMTSGrantedQoS
  signalingIndication : Int8
  deriving DecidableEq, Inhabited

/-- The QoS parameters of LTE. -/
structure WDSLTEQoS where
  classIdentifier : WDSQoSClassIdentifier
  guaranteedDownlinkBitrate : UInt32
  maximumDownlinkBitrate : UInt32
  guaranteedUplinkBitrate : UInt32
  maximumUplinkBitrate : UInt32
  deriving DecidableEq, Inhabited

/-- An inclusive range of VLANs. -/
structure WDSVLANRange where
  start : UInt16
  stop : UInt16
  deriving DecidableEq, Inhabited

/-- The fields to set, where a field that is not set is left as it is on the modem. -/
structure WDSProfileUpdate where
  name : Option GoString := none
  pdpType : Option WDSPDPType := none
  headerCompression : Option WDSPDPHeaderCompression := none
  dataCompression : Option WDSPDPDataCompression := none
  apn : Option GoString := none
  primaryIPv4DNS : Option Addr := none
  secondaryIPv4DNS : Option Addr := none
  umtsRequestedQoS : Option WDSUMTSGrantedQoS := none
  umtsMinimumQoS : Option WDSUMTSGrantedQoS := none
  gprsRequestedQoS : Option WDSGPRSGrantedQoS := none
  gprsMinimumQoS : Option WDSGPRSGrantedQoS := none
  username : Option GoString := none
  password : Option GoString := none
  authentication : Option WDSAuthenticationMask := none
  ipv4AddressPreference : Option Addr := none
  pcscfUsingPCO : Option Bool := none
  pdpAccessControl : Option WDSPDPAccessControl := none
  pcscfUsingDHCP : Option Bool := none
  imcn : Option Bool := none
  pdpContextNumber : Option UInt8 := none
  pdpContextSecondary : Option Bool := none
  pdpContextPrimaryID : Option UInt8 := none
  ipv6AddressPreference : Option Addr := none
  umtsRequestedQoSWithSignaling : Option WDSUMTSQoSWithSignaling := none
  umtsMinimumQoSWithSignaling : Option WDSUMTSQoSWithSignaling := none
  primaryIPv6DNS : Option Addr := none
  secondaryIPv6DNS : Option Addr := none
  addressAllocationPreference : Option WDSAddressAllocationPreference := none
  lteQoS : Option WDSLTEQoS := none
  apnDisabled : Option Bool := none
  roamingDisallowed : Option Bool := none
  vlan : Option WDSVLANRange := none
  apnType : Option WDSAPNTypeMask := none
  clatEnabled : Option Bool := none
  ipv6PrefixDelegation : Option Bool := none

/-- A field of the settings with its flag, which is not set for an absent element. -/
structure Setting (α : Type) where
  value : α
  known : Bool
  deriving DecidableEq

/-- The zero value of a field and its flag. -/
instance {α : Type} [Inhabited α] : Inhabited (Setting α) := ⟨⟨default, false⟩⟩

/-- The settings of a profile. -/
structure WDSProfileSettings where
  id : WDSProfileID
  name : Setting GoString := default
  pdpType : Setting WDSPDPType := default
  headerCompression : Setting WDSPDPHeaderCompression := default
  dataCompression : Setting WDSPDPDataCompression := default
  apn : Setting GoString := default
  primaryIPv4DNS : Setting Addr := default
  secondaryIPv4DNS : Setting Addr := default
  umtsRequestedQoS : Setting WDSUMTSGrantedQoS := default
  umtsMinimumQoS : Setting WDSUMTSGrantedQoS := default
  gprsRequestedQoS : Setting WDSGPRSGrantedQoS := default
  gprsMinimumQoS : Setting WDSGPRSGrantedQoS := default
  username : Setting GoString := default
  password : Setting GoString := default
  authentication : Setting WDSAuthenticationMask := default
  ipv4AddressPreference : Setting Addr := default
  pcscfUsingPCO : Setting Bool := default
  pdpAccessControl : Setting WDSPDPAccessControl := default
  pcscfUsingDHCP : Setting Bool := default
  imcn : Setting Bool := default
  pdpContextNumber : Setting UInt8 := default
  pdpContextSecondary : Setting Bool := default
  pdpContextPrimaryID : Setting UInt8 := default
  ipv6AddressPreference : Setting Addr := default
  umtsRequestedQoSWithSignaling : Setting WDSUMTSQoSWithSignaling := default
  umtsMinimumQoSWithSignaling : Setting WDSUMTSQoSWithSignaling := default
  primaryIPv6DNS : Setting Addr := default
  secondaryIPv6DNS : Setting Addr := default
  addressAllocationPreference : Setting WDSAddressAllocationPreference := default
  lteQoS : Setting WDSLTEQoS := default
  apnDisabled : Setting Bool := default
  roamingDisallowed : Setting Bool := default
  vlan : Setting WDSVLANRange := default
  apnType : Setting WDSAPNTypeMask := default
  clatEnabled : Setting Bool := default
  ipv6PrefixDelegation : Setting Bool := default

/-! Encoding. -/

/-- The function `boolByte`. -/
def boolByte (v : Bool) : UInt8 := if v then 1 else 0

/-- Encode an IPv4 address, last byte first. -/
def encodeWDSProfileIPv4 (address : Addr) : Go MessageError Bytes :=
  match address.unmap with
  | .four a b c d => .ok [d, c, b, a]
  | .zero | .six .. => Go.fail (.format "address %q is not IPv4" [])

/-- Encode an IPv6 address without its zone. -/
def encodeWDSProfileIPv6 (address : Addr) : Go MessageError Bytes :=
  match address.unmap with
  | .six bytes _ _ => .ok bytes
  | .zero | .four .. => Go.fail (.format "address %q is not IPv6" [])

/-- Encode the QoS parameters of UMTS. -/
def WDSUMTSGrantedQoS.marshalBinary (qos : WDSUMTSGrantedQoS) : Bytes :=
  [qos.trafficClass] ++ LittleEndian.putUint32 qos.maximumUplinkBitrate
    ++ LittleEndian.putUint32 qos.maximumDownlinkBitrate ++ LittleEndian.putUint32 qos.guaranteedUplinkBitrate
    ++ LittleEndian.putUint32 qos.guaranteedDownlinkBitrate ++ [qos.deliveryOrder]
    ++ LittleEndian.putUint32 qos.maximumSDUSize
    ++ [qos.sduErrorRatio, qos.residualBitErrorRatio, qos.erroneousSDUDelivery]
    ++ LittleEndian.putUint32 qos.transferDelay ++ LittleEndian.putUint32 qos.trafficHandlingPriority

/-- Encode the QoS parameters of GPRS. -/
def WDSGPRSGrantedQoS.marshalBinary (qos : WDSGPRSGrantedQoS) : Bytes :=
  LittleEndian.putUint32 qos.precedenceClass ++ LittleEndian.putUint32 qos.delayClass
    ++ LittleEndian.putUint32 qos.reliabilityClass ++ LittleEndian.putUint32 qos.peakThroughputClass
    ++ LittleEndian.putUint32 qos.meanThroughputClass

/-- Encode the QoS parameters of UMTS with the signaling indication. -/
def WDSUMTSQoSWithSignaling.marshalBinary (qos : WDSUMTSQoSWithSignaling) : Bytes :=
  qos.qos.marshalBinary ++ [qos.signalingIndication.toUInt8]

/-- Encode the QoS parameters of LTE. -/
def WDSLTEQoS.marshalBinary (qos : WDSLTEQoS) : Bytes :=
  [qos.classIdentifier] ++ LittleEndian.putUint32 qos.guaranteedDownlinkBitrate
    ++ LittleEndian.putUint32 qos.maximumDownlinkBitrate ++ LittleEndian.putUint32 qos.guaranteedUplinkBitrate
    ++ LittleEndian.putUint32 qos.maximumUplinkBitrate

/-- Encode a range of VLANs. -/
def WDSVLANRange.marshalBinary (v : WDSVLANRange) : Bytes :=
  littleEndian.putUint16 v.start ++ littleEndian.putUint16 v.stop

/-- The element of a field that is set, whose encoding may fail. -/
def bytesField {α : Type} (kind : UInt8) (encode : α → Go MessageError Bytes) (field : Option α) :
    Option (Go MessageError TLV) :=
  field.map fun value => do return TLV.bytes kind (← encode value)

/-- The element of a byte field that is set. -/
def uintField (kind : UInt8) (field : Option UInt8) : Option (Go MessageError TLV) :=
  field.map fun value => .ok (TLV.uint kind (.uint8 value))

/-- The element of a flag that is set. -/
def boolField (kind : UInt8) (field : Option Bool) : Option (Go MessageError TLV) :=
  bytesField kind (fun value => .ok [boolByte value]) field

/-- The encoding of an address, with the field named in front of its error. -/
def encoding (field : String) (encode : Addr → Go MessageError Bytes) (address : Addr) : Go MessageError Bytes :=
  Go.mapError (.wrap ("encoding WDS profile " ++ field)) (encode address)

/-- The elements of the fields, in the order they are appended. -/
def WDSProfileUpdate.fields (u : WDSProfileUpdate) : List (Option (Go MessageError TLV)) :=
  [
    bytesField wdsTLVProfileName .ok u.name,
    uintField wdsTLVProfilePDPType u.pdpType,
    uintField wdsTLVProfileHeaderCompression u.headerCompression,
    uintField wdsTLVProfileDataCompression u.dataCompression,
    bytesField wdsTLVProfileAPN .ok u.apn,
    bytesField wdsTLVProfilePrimaryIPv4DNS (encoding "primary IPv4 DNS" encodeWDSProfileIPv4) u.primaryIPv4DNS,
    bytesField wdsTLVProfileSecondaryIPv4DNS (encoding "secondary IPv4 DNS" encodeWDSProfileIPv4) u.secondaryIPv4DNS,
    bytesField wdsTLVProfileUMTSRequestedQoS (fun value => .ok (WDSUMTSGrantedQoS.marshalBinary value))
      u.umtsRequestedQoS,
    bytesField wdsTLVProfileUMTSMinimumQoS (fun value => .ok (WDSUMTSGrantedQoS.marshalBinary value)) u.umtsMinimumQoS,
    bytesField wdsTLVProfileGPRSRequestedQoS (fun value => .ok (WDSGPRSGrantedQoS.marshalBinary value))
      u.gprsRequestedQoS,
    bytesField wdsTLVProfileGPRSMinimumQoS (fun value => .ok (WDSGPRSGrantedQoS.marshalBinary value)) u.gprsMinimumQoS,
    bytesField wdsTLVProfileUsername .ok u.username,
    bytesField wdsTLVProfilePassword .ok u.password,
    uintField wdsTLVProfileAuth u.authentication,
    bytesField wdsTLVProfileIPv4Preference (encoding "IPv4 address preference" encodeWDSProfileIPv4)
      u.ipv4AddressPreference,
    boolField wdsTLVPCSCFUsingPCO u.pcscfUsingPCO,
    uintField wdsTLVProfilePDPAccessControl u.pdpAccessControl,
    boolField wdsTLVPCSCFUsingDHCP u.pcscfUsingDHCP,
    boolField wdsTLVIMCNFlag u.imcn,
    uintField wdsTLVProfilePDPContextNumber u.pdpContextNumber,
    boolField wdsTLVProfilePDPContextSecondary u.pdpContextSecondary,
    uintField wdsTLVProfilePDPContextPrimaryID u.pdpContextPrimaryID,
    bytesField wdsTLVProfileIPv6Preference (encoding "IPv6 address preference" encodeWDSProfileIPv6)
      u.ipv6AddressPreference,
    bytesField wdsTLVProfileUMTSRequestedQoSSig (fun value => .ok (WDSUMTSQoSWithSignaling.marshalBinary value))
      u.umtsRequestedQoSWithSignaling,
    bytesField wdsTLVProfileUMTSMinimumQoSSig (fun value => .ok (WDSUMTSQoSWithSignaling.marshalBinary value))
      u.umtsMinimumQoSWithSignaling,
    bytesField wdsTLVProfilePrimaryIPv6DNS (encoding "primary IPv6 DNS" encodeWDSProfileIPv6) u.primaryIPv6DNS,
    bytesField wdsTLVProfileSecondaryIPv6DNS (encoding "secondary IPv6 DNS" encodeWDSProfileIPv6) u.secondaryIPv6DNS,
    uintField wdsTLVProfileAddressAllocation u.addressAllocationPreference,
    bytesField wdsTLVProfileLTEQoS (fun value => .ok (WDSLTEQoS.marshalBinary value)) u.lteQoS,
    boolField wdsTLVProfileAPNDisabled u.apnDisabled,
    boolField wdsTLVProfileRoamingDisallowed u.roamingDisallowed,
    bytesField wdsTLVProfileVLAN (fun value => .ok (WDSVLANRange.marshalBinary value)) u.vlan,
    bytesField wdsTLVProfileAPNType (fun value => .ok (LittleEndian.putUint64 value)) u.apnType,
    boolField wdsTLVProfileCLATEnabled u.clatEnabled,
    boolField wdsTLVProfileIPv6PrefixDelegation u.ipv6PrefixDelegation
  ]

/-- Encode the fields that are set, up to the first that cannot be encoded. -/
def WDSProfileUpdate.marshalTLVs (u : WDSProfileUpdate) : Go MessageError (List TLV) :=
  (u.fields.filterMap id).mapM id

/-! Decoding. -/

/-- Decode a byte. -/
def decodeWDSProfileByte (value : Bytes) (kind : UInt8) : Go MessageError UInt8 := do
  Go.failIf (value.length ≠ 1)
    (.format "parsing QMI WDS profile settings: TLV 0x%02x length %d, want 1" [kind.toNat, value.length])
  Go.index value 0

/-- Decode an IPv4 address. -/
def decodeWDSProfileIPv4 (value : Bytes) (kind : UInt8) : Go MessageError Addr := do
  Go.failIf (value.length ≠ 4)
    (.format "parsing QMI WDS profile settings: TLV 0x%02x length %d, want 4" [kind.toNat, value.length])
  return .four (← Go.index value 3) (← Go.index value 2) (← Go.index value 1) (← Go.index value 0)

/-- Decode an IPv6 address. -/
def decodeWDSProfileIPv6 (value : Bytes) (kind : UInt8) : Go MessageError Addr :=
  if size : value.length = 16 then .ok (.six value size [])
  else Go.fail (.format "parsing QMI WDS profile settings: TLV 0x%02x length %d, want 16" [kind.toNat, value.length])

/-- The number in four bytes of a value. -/
def uint32Between (value : Bytes) (low high : Nat) : Go MessageError UInt32 := do
  LittleEndian.getUint32 (← Go.slice value low high)

/-- Decode the QoS parameters of UMTS. -/
def WDSUMTSGrantedQoS.unmarshalBinary (value : Bytes) : Go MessageError WDSUMTSGrantedQoS := do
  Go.failIf (value.length ≠ 33) (.format "UMTS QoS length %d, want 33" [value.length])
  return {
    trafficClass := ← Go.index value 0
    maximumUplinkBitrate := ← uint32Between value 1 5
    maximumDownlinkBitrate := ← uint32Between value 5 9
    guaranteedUplinkBitrate := ← uint32Between value 9 13
    guaranteedDownlinkBitrate := ← uint32Between value 13 17
    deliveryOrder := ← Go.index value 17
    maximumSDUSize := ← uint32Between value 18 22
    sduErrorRatio := ← Go.index value 22
    residualBitErrorRatio := ← Go.index value 23
    erroneousSDUDelivery := ← Go.index value 24
    transferDelay := ← uint32Between value 25 29
    trafficHandlingPriority := ← uint32Between value 29 33 }

/-- Decode the QoS parameters of GPRS. -/
def WDSGPRSGrantedQoS.unmarshalBinary (value : Bytes) : Go MessageError WDSGPRSGrantedQoS := do
  Go.failIf (value.length ≠ 20) (.format "GPRS QoS length %d, want 20" [value.length])
  return {
    precedenceClass := ← uint32Between value 0 4
    delayClass := ← uint32Between value 4 8
    reliabilityClass := ← uint32Between value 8 12
    peakThroughputClass := ← uint32Between value 12 16
    meanThroughputClass := ← uint32Between value 16 20 }

/-- Decode the QoS parameters of UMTS with the signaling indication. -/
def WDSUMTSQoSWithSignaling.unmarshalBinary (value : Bytes) : Go MessageError WDSUMTSQoSWithSignaling := do
  Go.failIf (value.length ≠ 34) (.format "UMTS QoS with signaling length %d, want 34" [value.length])
  let decoded ← WDSUMTSGrantedQoS.unmarshalBinary (← Go.slice value 0 33)
  return { qos := decoded, signalingIndication := (← Go.index value 33).toInt8 }

/-- Decode the QoS parameters of LTE. -/
def WDSLTEQoS.unmarshalBinary (value : Bytes) : Go MessageError WDSLTEQoS := do
  Go.failIf (value.length ≠ 17) (.format "LTE QoS length %d, want 17" [value.length])
  return {
    classIdentifier := ← Go.index value 0
    guaranteedDownlinkBitrate := ← uint32Between value 1 5
    maximumDownlinkBitrate := ← uint32Between value 5 9
    guaranteedUplinkBitrate := ← uint32Between value 9 13
    maximumUplinkBitrate := ← uint32Between value 13 17 }

/-- Decode a range of VLANs. -/
def WDSVLANRange.unmarshalBinary (value : Bytes) : Go MessageError WDSVLANRange := do
  Go.failIf (value.length ≠ 4) (.format "VLAN range length %d, want 4" [value.length])
  return {
    start := ← littleEndian.getUint16 (← Go.slice value 0 2)
    stop := ← littleEndian.getUint16 (← Go.slice value 2 4) }

/-- Decode the mask of APN types. -/
def decodeAPNType (value : Bytes) : Go MessageError WDSAPNTypeMask := do
  Go.failIf (value.length ≠ 8)
    (.format "parsing QMI WDS profile settings: APN type TLV length %d, want 8" [value.length])
  LittleEndian.getUint64 value

/-- A field is decoded from its element, and kept without one. -/
def setting {α : Type} (tlvs : List TLV) (kind : UInt8) (decode : Bytes → Go MessageError α) (old : Setting α) :
    Go MessageError (Setting α) :=
  match TLVs.value tlvs kind with
  | none => .ok old
  | some value => do return ⟨← decode value, true⟩

/-- The decoding of a field, with the field named in front of its error. -/
def parsing {α : Type} (field : String) (decode : Bytes → Go MessageError α) (value : Bytes) : Go MessageError α :=
  Go.mapError (.wrap ("parsing QMI WDS profile " ++ field)) (decode value)

/-- A byte field. -/
def byteSetting (tlvs : List TLV) (kind : UInt8) (field : String) (old : Setting UInt8) :
    Go MessageError (Setting UInt8) :=
  setting tlvs kind (parsing field fun value => decodeWDSProfileByte value kind) old

/-- Decode a flag. -/
def decodeWDSProfileBool (tlvs : List TLV) (kind : UInt8) (field : String) (old : Setting Bool) :
    Go MessageError (Setting Bool) :=
  setting tlvs kind (parsing field fun value => do return (← decodeWDSProfileByte value kind) ≠ 0) old

/-- An IPv4 address field. -/
def ipv4Setting (tlvs : List TLV) (kind : UInt8) (field : String) (old : Setting Addr) :
    Go MessageError (Setting Addr) :=
  setting tlvs kind (parsing field fun value => decodeWDSProfileIPv4 value kind) old

/-- An IPv6 address field. -/
def ipv6Setting (tlvs : List TLV) (kind : UInt8) (field : String) (old : Setting Addr) :
    Go MessageError (Setting Addr) :=
  setting tlvs kind (parsing field fun value => decodeWDSProfileIPv6 value kind) old

/-- Decode the elements of a profile, in the order the fields are looked up. -/
def unmarshalWDSProfileSettings (tlvs : List TLV) (settings : WDSProfileSettings) :
    Go MessageError WDSProfileSettings := do
  let name ← setting tlvs wdsTLVProfileName .ok settings.name
  let pdpType ← byteSetting tlvs wdsTLVProfilePDPType "PDP type" settings.pdpType
  let headerCompression ← byteSetting tlvs wdsTLVProfileHeaderCompression "PDP header compression"
    settings.headerCompression
  let dataCompression ← byteSetting tlvs wdsTLVProfileDataCompression "PDP data compression" settings.dataCompression
  let apn ← setting tlvs wdsTLVProfileAPN .ok settings.apn
  let primaryIPv4DNS ← ipv4Setting tlvs wdsTLVProfilePrimaryIPv4DNS "primary IPv4 DNS" settings.primaryIPv4DNS
  let secondaryIPv4DNS ← ipv4Setting tlvs wdsTLVProfileSecondaryIPv4DNS "secondary IPv4 DNS" settings.secondaryIPv4DNS
  let umtsRequestedQoS ← setting tlvs wdsTLVProfileUMTSRequestedQoS
    (parsing "UMTS requested QoS" WDSUMTSGrantedQoS.unmarshalBinary) settings.umtsRequestedQoS
  let umtsMinimumQoS ← setting tlvs wdsTLVProfileUMTSMinimumQoS
    (parsing "UMTS minimum QoS" WDSUMTSGrantedQoS.unmarshalBinary) settings.umtsMinimumQoS
  let gprsRequestedQoS ← setting tlvs wdsTLVProfileGPRSRequestedQoS
    (parsing "GPRS requested QoS" WDSGPRSGrantedQoS.unmarshalBinary) settings.gprsRequestedQoS
  let gprsMinimumQoS ← setting tlvs wdsTLVProfileGPRSMinimumQoS
    (parsing "GPRS minimum QoS" WDSGPRSGrantedQoS.unmarshalBinary) settings.gprsMinimumQoS
  let username ← setting tlvs wdsTLVProfileUsername .ok settings.username
  let password ← setting tlvs wdsTLVProfilePassword .ok settings.password
  let authentication ← byteSetting tlvs wdsTLVProfileAuth "authentication" settings.authentication
  let ipv4AddressPreference ← ipv4Setting tlvs wdsTLVProfileIPv4Preference "IPv4 address preference"
    settings.ipv4AddressPreference
  let pcscfUsingPCO ← decodeWDSProfileBool tlvs wdsTLVPCSCFUsingPCO "P-CSCF using PCO" settings.pcscfUsingPCO
  let pdpAccessControl ← byteSetting tlvs wdsTLVProfilePDPAccessControl "PDP access control" settings.pdpAccessControl
  let pcscfUsingDHCP ← decodeWDSProfileBool tlvs wdsTLVPCSCFUsingDHCP "P-CSCF using DHCP" settings.pcscfUsingDHCP
  let imcn ← decodeWDSProfileBool tlvs wdsTLVIMCNFlag "IMCN" settings.imcn
  let pdpContextNumber ← byteSetting tlvs wdsTLVProfilePDPContextNumber "PDP context number" settings.pdpContextNumber
  let pdpContextSecondary ← decodeWDSProfileBool tlvs wdsTLVProfilePDPContextSecondary "PDP context secondary"
    settings.pdpContextSecondary
  let pdpContextPrimaryID ← byteSetting tlvs wdsTLVProfilePDPContextPrimaryID "PDP context primary ID"
    settings.pdpContextPrimaryID
  let ipv6AddressPreference ← ipv6Setting tlvs wdsTLVProfileIPv6Preference "IPv6 address preference"
    settings.ipv6AddressPreference
  let umtsRequestedQoSWithSignaling ← setting tlvs wdsTLVProfileUMTSRequestedQoSSig
    (parsing "UMTS requested QoS with signaling" WDSUMTSQoSWithSignaling.unmarshalBinary)
    settings.umtsRequestedQoSWithSignaling
  let umtsMinimumQoSWithSignaling ← setting tlvs wdsTLVProfileUMTSMinimumQoSSig
    (parsing "UMTS minimum QoS with signaling" WDSUMTSQoSWithSignaling.unmarshalBinary)
    settings.umtsMinimumQoSWithSignaling
  let primaryIPv6DNS ← ipv6Setting tlvs wdsTLVProfilePrimaryIPv6DNS "primary IPv6 DNS" settings.primaryIPv6DNS
  let secondaryIPv6DNS ← ipv6Setting tlvs wdsTLVProfileSecondaryIPv6DNS "secondary IPv6 DNS" settings.secondaryIPv6DNS
  let addressAllocationPreference ← byteSetting tlvs wdsTLVProfileAddressAllocation "address allocation preference"
    settings.addressAllocationPreference
  let lteQoS ← setting tlvs wdsTLVProfileLTEQoS (parsing "LTE QoS" WDSLTEQoS.unmarshalBinary) settings.lteQoS
  let apnDisabled ← decodeWDSProfileBool tlvs wdsTLVProfileAPNDisabled "APN disabled" settings.apnDisabled
  let roamingDisallowed ← decodeWDSProfileBool tlvs wdsTLVProfileRoamingDisallowed "roaming disallowed"
    settings.roamingDisallowed
  let vlan ← setting tlvs wdsTLVProfileVLAN (parsing "VLAN range" WDSVLANRange.unmarshalBinary) settings.vlan
  let apnType ← setting tlvs wdsTLVProfileAPNType decodeAPNType settings.apnType
  let clatEnabled ← decodeWDSProfileBool tlvs wdsTLVProfileCLATEnabled "CLAT enabled" settings.clatEnabled
  let ipv6PrefixDelegation ← decodeWDSProfileBool tlvs wdsTLVProfileIPv6PrefixDelegation "IPv6 prefix delegation"
    settings.ipv6PrefixDelegation
  return {
    id := settings.id, name, pdpType, headerCompression, dataCompression, apn, primaryIPv4DNS, secondaryIPv4DNS,
    umtsRequestedQoS, umtsMinimumQoS, gprsRequestedQoS, gprsMinimumQoS, username, password, authentication,
    ipv4AddressPreference, pcscfUsingPCO, pdpAccessControl, pcscfUsingDHCP, imcn, pdpContextNumber,
    pdpContextSecondary, pdpContextPrimaryID, ipv6AddressPreference, umtsRequestedQoSWithSignaling,
    umtsMinimumQoSWithSignaling, primaryIPv6DNS, secondaryIPv6DNS, addressAllocationPreference, lteQoS,
    apnDisabled, roamingDisallowed, vlan, apnType, clatEnabled, ipv6PrefixDelegation }

end Wwan.Qcom
