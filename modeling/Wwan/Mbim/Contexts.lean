import Wwan.Mbim.Nssai
import Wwan.Mbim.Tai
import Wwan.Mbim.Wire

/-! Lists of provisioned contexts, attach configurations and providers: records with strings, in a table. -/

namespace Wwan.Mbim

/-- The IP types of a context. -/
abbrev ContextIPType := UInt32
/-- `ContextIPTypeIPv4AndIPv6`, the last of them. -/
def ContextIPType.ipv4AndIPv6 : ContextIPType := 4
/-- The states of a context. -/
abbrev ContextState := UInt32
/-- `ContextStateEnabled`, the last of them. -/
def ContextState.enabled : ContextState := 1
/-- Where a context may be used. -/
abbrev ContextRoamingControl := UInt32
/-- `ContextRoamingControlAllowAll`, the last of them. -/
def ContextRoamingControl.allowAll : ContextRoamingControl := 6
/-- The media of a context. -/
abbrev ContextMediaType := UInt32
/-- `ContextMediaTypeAll`, the last of them. -/
def ContextMediaType.all : ContextMediaType := 2
/-- Who made a context. -/
abbrev ContextSource := UInt32
/-- `ContextSourceDevice`, the last of them. -/
def ContextSource.device : ContextSource := 4
/-- Whether a context compresses. -/
abbrev Compression := UInt32
/-- `CompressionEnable`, the last of them. -/
def Compression.enable : Compression := 1
/-- How a context authenticates. -/
abbrev AuthProtocol := UInt32
/-- `AuthProtocolMSCHAPV2`, the last of them. -/
def AuthProtocol.mschapV2 : AuthProtocol := 3
/-- Where an attach configuration applies. -/
abbrev LTEAttachRoamingControl := UInt32
/-- `LTEAttachRoamingControlNonPartner`, the last of them. -/
def LTEAttachRoamingControl.nonPartner : LTEAttachRoamingControl := 2

/-- An array of sixteen bytes. -/
abbrev ContextType := { b : Bytes // b.length = 16 }

/-- The array of sixteen bytes that a slice is copied into. -/
def copy16 (s : Bytes) : ContextType :=
  ⟨(s ++ List.replicate 16 0).take 16, by simp⟩

/-- The predicate `validContextIPType`. -/
def validContextIPType (ipType : ContextIPType) : Bool := ipType ≤ ContextIPType.ipv4AndIPv6
/-- The predicate `validContextSource`. -/
def validContextSource (source : ContextSource) : Bool := source ≤ ContextSource.device
/-- The predicate `validCompression`. -/
def validCompression (compression : Compression) : Bool := compression ≤ Compression.enable
/-- The predicate `validAuthProtocol`. -/
def validAuthProtocol (protocol : AuthProtocol) : Bool := protocol ≤ AuthProtocol.mschapV2

/-- The most bytes of an access string. -/
def accessStringMaximumSize : Nat := 200
/-- The most bytes of a user name. -/
def userNameMaximumSize : Nat := 510
/-- The most bytes of a password. -/
def passwordMaximumSize : Nat := 510

/-- The loop over the largest sizes of a context's strings. -/
def validateSizes (refs : List ValueRef) : Nat → List Nat → Go Error Unit
  | _, [] => .ok ()
  | i, maximumSize :: maximumSizes => do
    let ref ← Go.index refs i
    Go.failIf (ref.size > UInt32.ofNat maximumSize)
      (.format "string %d size %d exceeds %d bytes" [i, ref.size.toNat, maximumSize])
    validateSizes refs (i + 1) maximumSizes

/-- The strings of a context are no longer than they may be. -/
def validateContextStringRefSizes (refs : List ValueRef) : Go Error Unit :=
  validateSizes refs 0 [accessStringMaximumSize, userNameMaximumSize, passwordMaximumSize]

/-- The strings of a context fill its record and are made of whole code units. -/
def validateRecordContextStringRefs (base : Bytes) (dataStart : UInt32) (refs : List ValueRef) : Go Error Unit := do
  validateContextStringRefSizes refs
  validateRecordDataBufferRefs base dataStart refs
  validateUTF16Refs base refs

/-- The loop over the fields of string references. -/
def readStringRefs (context : String) (data : Bytes) : Nat → List UInt32 → Go Error (List ValueRef)
  | _, [] => .ok []
  | index, offset :: offsets => do
    let ref ← Go.mapError (.wrap context [index]) (readOffsetSizeRef data offset)
    let refs ← readStringRefs context data (index + 1) offsets
    return ref :: refs

/-- The loop over the strings of references. -/
def readStrings (context : String) (data : Bytes) : Nat → List ValueRef → Go Error (List GoString)
  | _, [] => .ok []
  | index, ref :: refs => do
    let value ← Go.mapError (.wrap context [index]) (utf16String data ref)
    let values ← readStrings context data (index + 1) refs
    return value :: values

/-- The little-endian number at an offset. -/
def uint32Field (data : Bytes) (offset : Nat) : Go Error UInt32 := do
  LittleEndian.getUint32 (← Go.slice data offset (offset + 4))

/-! Lists of records. -/

/-- The loop over the records of a table. -/
def decodeElements {α : Type} (context : String) (element : ValueRef → Go Error Bytes) (decode : Bytes → Go Error α) :
    Nat → List ValueRef → Go Error (List α)
  | _, [] => .ok []
  | index, ref :: refs => do
    let raw ← element ref
    let value ← Go.mapError (.wrap context [index]) (decode raw)
    let values ← decodeElements context element decode (index + 1) refs
    return value :: values

/-- Read a count, a table and the records in it. -/
def unmarshalElements {α : Type} (what item : String) (element : Bytes → ValueRef → Go Error Bytes)
    (decode : Bytes → Go Error α) (data : Bytes) : Go Error (List α) := do
  Go.failIf (data.length < 4) (.wrap what [] (.format "payload is truncated" []))
  let count ← uint32Field data 0
  let refs ← Go.mapError (.wrap what []) (offsetSizeRefs data 4 count)
  decodeElements item (element data) decode 0 refs

/-- A count, a table and records in it. -/
def marshalElements (elements : List Bytes) : Bytes :=
  appendOffsetSizeElements (LittleEndian.putUint32 (UInt32.ofNat elements.length)) elements

/-- The loop over the records of a list. -/
def encodeElements {α : Type} (context : String) (encode : α → Go Error Bytes) : Nat → List α → Go Error (List Bytes)
  | _, [] => .ok []
  | index, value :: values => do
    let data ← Go.mapError (.wrap context [index]) (encode value)
    let elements ← encodeElements context encode (index + 1) values
    return data :: elements

/-! Provisioned contexts. -/

/-- A provisioned context. -/
structure ProvisionedContextV2 where
  mbimExVersion : UInt16
  contextID : UInt32
  contextType : ContextType
  ipType : ContextIPType
  state : ContextState
  roaming : ContextRoamingControl
  mediaType : ContextMediaType
  source : ContextSource
  accessString : GoString
  userName : GoString
  password : GoString
  compression : Compression
  authProtocol : AuthProtocol
  snssai : Option SNSSAI
  deriving DecidableEq

namespace ProvisionedContextV2

/-- What a slice identifier of a context has to satisfy. -/
def validateSNSSAI (version : UInt16) (snssai : Option SNSSAI) : Go Error Unit :=
  match snssai with
  | none => .ok ()
  | some snssai => do
    Go.failIf (version < mbimExVersion40) (.format "S-NSSAI requires MBIMEx 4.0" [])
    Go.failIf (snssai.hasMappedSliceServiceType || snssai.hasMappedSliceDifferentiator)
      (.format "S-NSSAI must not contain mapped values" [])
    let _ ← Go.mapError (.wrap "S-NSSAI" []) snssai.marshalBinary
    return ()

/-- What a context has to satisfy. -/
def validate (c : ProvisionedContextV2) : Go Error Unit := do
  Go.failIf (!validContextIPType c.ipType)
    (.format "IP type %d is outside 0..%d" [c.ipType.toNat, ContextIPType.ipv4AndIPv6.toNat])
  Go.failIf (c.state > ContextState.enabled)
    (.format "state %d is outside 0..%d" [c.state.toNat, ContextState.enabled.toNat])
  Go.failIf (c.roaming > ContextRoamingControl.allowAll)
    (.format "roaming control %d is outside 0..%d" [c.roaming.toNat, ContextRoamingControl.allowAll.toNat])
  Go.failIf (c.mediaType > ContextMediaType.all)
    (.format "media type %d is outside 0..%d" [c.mediaType.toNat, ContextMediaType.all.toNat])
  Go.failIf (!validContextSource c.source)
    (.format "source %d is outside 0..%d" [c.source.toNat, ContextSource.device.toNat])
  Go.failIf (!validCompression c.compression)
    (.format "compression %d is outside 0..%d" [c.compression.toNat, Compression.enable.toNat])
  Go.failIf (!validAuthProtocol c.authProtocol)
    (.format "authentication protocol %d is outside 0..%d" [c.authProtocol.toNat, AuthProtocol.mschapV2.toNat])
  Go.failIf ((utf16Bytes c.accessString).length > accessStringMaximumSize)
    (.format "access string exceeds %d bytes" [accessStringMaximumSize])
  Go.failIf ((utf16Bytes c.userName).length > userNameMaximumSize)
    (.format "user name exceeds %d bytes" [userNameMaximumSize])
  Go.failIf ((utf16Bytes c.password).length > passwordMaximumSize)
    (.format "password exceeds %d bytes" [passwordMaximumSize])
  validateSNSSAI c.mbimExVersion c.snssai

/-- The fixed part of a record, with the references still zero. -/
def fixedPart (firstField : UInt32) (context : ProvisionedContextV2) : Bytes :=
  LittleEndian.putUint32 firstField ++ context.contextType.val ++
    [context.ipType, context.state, context.roaming, context.mediaType, context.source].flatMap LittleEndian.putUint32 ++
    List.replicate 24 0 ++ [context.compression, context.authProtocol].flatMap LittleEndian.putUint32

/-- The TLV behind the fixed part, which versions from 4.0 on have. -/
def sliceTLV (context : ProvisionedContextV2) (version : UInt16) : Bytes :=
  if version ≥ mbimExVersion40 then
    let snssaiData := match context.snssai with
      | none => []
      | some snssai => snssai.marshalBinaryUnchecked
    marshalTLV TLVType.singleNSSAI snssaiData
  else []

/-- The function `marshalProvisionedContextV2`. -/
def marshalProvisionedContextV2 (firstField : UInt32) (context : ProvisionedContextV2) (version : UInt16) : Bytes :=
  let data := fixedPart firstField context ++ sliceTLV context version
  let data := appendRefValue data 40 (utf16Bytes context.accessString)
  let data := appendRefValue data 48 (utf16Bytes context.userName)
  appendRefValue data 56 (utf16Bytes context.password)

/-- Encode a context. -/
def marshalBinary (c : ProvisionedContextV2) : Go Error Bytes := do
  Go.mapError (.wrap "encoding MBIM provisioned context V2" []) c.validate
  return marshalProvisionedContextV2 c.contextID c c.mbimExVersion

/-- Parse the slice identifier behind the fixed part, and find where the strings start. -/
def unmarshalSlice (version : UInt16) (data : Bytes) : Go Error (Option SNSSAI × UInt32) :=
  if version ≥ mbimExVersion40 then do
    let behind ← Go.slice data 72 data.length
    let tlv ← Go.mapError (.wrap "parsing MBIM provisioned context V2 S-NSSAI" []) (unmarshalTLVPrefix behind)
    let value ← OptionalSNSSAI.unmarshalTLV tlv.1
    return (value, 72 + UInt32.ofNat tlv.2)
  else return (none, 72)

/-- Parse a context into a receiver of a version. -/
def unmarshalBinary (version : UInt16) (data : Bytes) : Go Error ProvisionedContextV2 := do
  Go.failIf (data.length < 72) (.format "parsing MBIM provisioned context V2: payload is truncated" [])
  -- A version with slices has one more reference behind the fixed part.
  let slice ← unmarshalSlice version data
  let refs ← readStringRefs "parsing MBIM provisioned context V2 string %d reference" data 0 [40, 48, 56]
  Go.mapError (.wrap "parsing MBIM provisioned context V2 strings" []) (validateRecordContextStringRefs data slice.2 refs)
  let values ← readStrings "parsing MBIM provisioned context V2 string %d" data 0 refs
  let contextID ← uint32Field data 0
  let ipType ← uint32Field data 20
  let state ← uint32Field data 24
  let roaming ← uint32Field data 28
  let mediaType ← uint32Field data 32
  let source ← uint32Field data 36
  let accessString ← Go.index values 0
  let userName ← Go.index values 1
  let password ← Go.index values 2
  let compression ← uint32Field data 64
  let authProtocol ← uint32Field data 68
  let result : ProvisionedContextV2 :=
    { mbimExVersion := version, contextID, contextType := copy16 [], ipType, state, roaming, mediaType, source
      accessString, userName, password, compression, authProtocol, snssai := slice.1 }
  -- The checks of the encoder hold of what is decoded, too.
  Go.mapError (.wrap "parsing MBIM provisioned context V2" []) result.validate
  let contextType ← Go.slice data 4 20
  return { result with contextType := copy16 contextType }

end ProvisionedContextV2

/-- Encode a list of contexts, which all take the version of the list. -/
def ProvisionedContextsV2Info.marshalBinary (version : UInt16) (contexts : List ProvisionedContextV2) :
    Go Error Bytes := do
  let elements ← encodeElements "encoding MBIM provisioned context V2 %d"
    (fun context : ProvisionedContextV2 => { context with mbimExVersion := version }.marshalBinary) 0 contexts
  return marshalElements elements

/-- Parse a list of contexts into a receiver of a version. -/
def ProvisionedContextsV2Info.unmarshalBinary (version : UInt16) (data : Bytes) : Go Error (List ProvisionedContextV2) :=
  unmarshalElements "parsing MBIM provisioned contexts V2" "parsing MBIM provisioned context V2 %d"
    (fun data ref => ref.bytes data) (ProvisionedContextV2.unmarshalBinary version) data

/-! Attach configurations. -/

/-- An attach configuration. -/
structure LTEAttachConfiguration where
  ipType : ContextIPType
  roaming : LTEAttachRoamingControl
  source : ContextSource
  accessString : GoString
  userName : GoString
  password : GoString
  compression : Compression
  authProtocol : AuthProtocol
  deriving DecidableEq

namespace LTEAttachConfiguration

/-- What a configuration has to satisfy. -/
def validate (c : LTEAttachConfiguration) : Go Error Unit := do
  Go.failIf (!validContextIPType c.ipType)
    (.format "IP type %d is outside 0..%d" [c.ipType.toNat, ContextIPType.ipv4AndIPv6.toNat])
  Go.failIf (c.roaming > LTEAttachRoamingControl.nonPartner)
    (.format "roaming control %d is outside 0..%d" [c.roaming.toNat, LTEAttachRoamingControl.nonPartner.toNat])
  Go.failIf (!validContextSource c.source)
    (.format "source %d is outside 0..%d" [c.source.toNat, ContextSource.device.toNat])
  Go.failIf (!validCompression c.compression)
    (.format "compression %d is outside 0..%d" [c.compression.toNat, Compression.enable.toNat])
  Go.failIf (!validAuthProtocol c.authProtocol)
    (.format "authentication protocol %d is outside 0..%d" [c.authProtocol.toNat, AuthProtocol.mschapV2.toNat])
  Go.failIf ((utf16Bytes c.accessString).length > accessStringMaximumSize)
    (.format "access string exceeds %d bytes" [accessStringMaximumSize])
  Go.failIf ((utf16Bytes c.userName).length > userNameMaximumSize)
    (.format "user name exceeds %d bytes" [userNameMaximumSize])
  Go.failIf ((utf16Bytes c.password).length > passwordMaximumSize)
    (.format "password exceeds %d bytes" [passwordMaximumSize])

/-- The fixed part of a record, with the references still zero. -/
def fixedPart (c : LTEAttachConfiguration) : Bytes :=
  [c.ipType, c.roaming, c.source].flatMap LittleEndian.putUint32 ++ List.replicate 24 0 ++
    [c.compression, c.authProtocol].flatMap LittleEndian.putUint32

/-- The record of a configuration with its strings encoded. -/
def marshalStrings (c : LTEAttachConfiguration) (accessString userName password : Bytes) : Bytes :=
  let data := appendRefValue c.fixedPart 12 accessString
  let data := appendRefValue data 20 userName
  appendRefValue data 28 password

/-- Encode a configuration. -/
def marshalBinary (c : LTEAttachConfiguration) : Go Error Bytes := do
  Go.mapError (.wrap "encoding MBIM LTE attach configuration" []) c.validate
  return c.marshalStrings (utf16Bytes c.accessString) (utf16Bytes c.userName) (utf16Bytes c.password)

/-- The references to the strings of a record. -/
def lteAttachRecordStringRefs (data : Bytes) (fixedLength : UInt32) (offsets : List UInt32) : Go Error (List ValueRef) := do
  let refs ← readStringRefs "string %d reference" data 0 offsets
  Go.mapError (.wrap "validating strings" []) (validateRecordContextStringRefs data fixedLength refs)
  return refs

/-- Parse a configuration. -/
def unmarshalBinary (data : Bytes) : Go Error LTEAttachConfiguration := do
  Go.failIf (data.length < 44) (.format "LTE attach configuration is truncated" [])
  let refs ← lteAttachRecordStringRefs data 44 [12, 20, 28]
  let values ← readStrings "decoding string %d" data 0 refs
  let ipType ← uint32Field data 0
  let roaming ← uint32Field data 4
  let source ← uint32Field data 8
  let accessString ← Go.index values 0
  let userName ← Go.index values 1
  let password ← Go.index values 2
  let compression ← uint32Field data 36
  let authProtocol ← uint32Field data 40
  let result : LTEAttachConfiguration :=
    { ipType, roaming, source, accessString, userName, password, compression, authProtocol }
  Go.mapError (.wrap "parsing MBIM LTE attach configuration" []) result.validate
  return result

end LTEAttachConfiguration

/-- Encode a list of configurations. -/
def LTEAttachConfigurationsInfo.marshalBinary (configurations : List LTEAttachConfiguration) : Go Error Bytes := do
  let elements ← encodeElements "encoding MBIM LTE attach configuration %d" LTEAttachConfiguration.marshalBinary 0
    configurations
  return marshalElements elements

/-- Parse a list of configurations. -/
def LTEAttachConfigurationsInfo.unmarshalBinary (data : Bytes) : Go Error (List LTEAttachConfiguration) :=
  unmarshalElements "parsing MBIM LTE attach configurations" "parsing MBIM LTE attach configuration %d"
    (fun data ref => ref.bytes data) LTEAttachConfiguration.unmarshalBinary data

/-! Providers. -/

/-- The states of a provider. -/
abbrev ProviderState := UInt32
/-- `providerStateMask` -/
def providerStateMask : ProviderState := 0x3F
/-- The cellular classes. -/
abbrev CellularClass := UInt32
/-- `cellularClassMask` -/
def cellularClassMask : CellularClass := 0x3

/-- A provider. -/
structure Provider where
  id : GoString
  state : ProviderState
  name : GoString
  cellularClass : CellularClass
  rssi : UInt32
  errorRate : UInt32
  deriving DecidableEq

/-- A provider's identity is up to six decimal digits. -/
def validateProviderID (providerID : GoString) : Go Error Unit := do
  let size := (utf16Bytes providerID).length
  Go.failIf (size > 12) (.format "provider ID length %d exceeds 12 bytes" [size])
  Go.failIf ((Utf8.runes providerID).any fun digit => digit < '0' || digit > '9')
    (.format "provider ID %q contains a non-decimal character" [])

/-- The predicate `validCellularClass`. -/
def validCellularClass (class' : CellularClass) : Bool := class' &&& ~~~cellularClassMask = 0
/-- The predicate `validRSSI`. -/
def validRSSI (rssi : UInt32) : Bool := rssi ≤ 31 || rssi = 99
/-- The predicate `validErrorRate`. -/
def validErrorRate (errorRate : UInt32) : Bool := errorRate ≤ 7 || errorRate = 99

namespace Provider

/-- What a provider has to satisfy. -/
def validate (p : Provider) : Go Error Unit := do
  validateProviderID p.id
  let size := (utf16Bytes p.name).length
  Go.failIf (size > 40) (.format "provider name length %d exceeds 40 bytes" [size])
  Go.failIf (p.state &&& ~~~providerStateMask ≠ 0) (.format "provider state %#x contains reserved bits" [p.state.toNat])
  Go.failIf (!validCellularClass p.cellularClass)
    (.format "cellular class %#x contains reserved bits" [p.cellularClass.toNat])
  Go.failIf (!validRSSI p.rssi) (.format "RSSI %d is outside 0..31 and is not the unknown value 99" [p.rssi.toNat])
  Go.failIf (!validErrorRate p.errorRate)
    (.format "error rate %d is outside 0..7 and is not the unknown value 99" [p.errorRate.toNat])

/-- The fixed part of a record, with the references still zero. -/
def fixedPart (p : Provider) : Bytes :=
  List.replicate 8 0 ++ LittleEndian.putUint32 p.state ++ List.replicate 8 0 ++
    [p.cellularClass, p.rssi, p.errorRate].flatMap LittleEndian.putUint32

/-- The record of a provider. -/
def marshalRecord (p : Provider) : Bytes :=
  let data := appendRefValue p.fixedPart 0 (utf16Bytes p.id)
  appendRefValue data 12 (utf16Bytes p.name)

/-- Parse a provider, on its own or as a record of a list. -/
def unmarshalBinary (data : Bytes) (nestedRecord : Bool) : Go Error Provider := do
  Go.failIf (data.length < 32) (.format "parsing MBIM provider: payload is truncated" [])
  let providerIDRef ← Go.mapError (.wrap "parsing MBIM provider ID" []) (readOffsetSizeRef data 0)
  let providerNameRef ← Go.mapError (.wrap "parsing MBIM provider name" []) (readOffsetSizeRef data 12)
  Go.failIf (providerIDRef.size > 12)
    (.format "parsing MBIM provider ID: size %d exceeds 12 bytes" [providerIDRef.size.toNat])
  Go.failIf (providerNameRef.size > 40)
    (.format "parsing MBIM provider name: size %d exceeds 40 bytes" [providerNameRef.size.toNat])
  -- The size of a record may leave out the padding of its last value.
  let validateDataBuffer := if nestedRecord then validateRecordDataBufferRefs else validateDataBufferRefs
  Go.mapError (.wrap "parsing MBIM provider data buffer" []) (validateDataBuffer data 32 [providerIDRef, providerNameRef])
  Go.mapError (.wrap "parsing MBIM provider strings" []) (validateUTF16Refs data [providerIDRef, providerNameRef])
  let id ← Go.mapError (.wrap "parsing MBIM provider ID" []) (utf16String data providerIDRef)
  let name ← Go.mapError (.wrap "parsing MBIM provider name" []) (utf16String data providerNameRef)
  let state ← uint32Field data 8
  let cellularClass ← uint32Field data 20
  let rssi ← uint32Field data 24
  let errorRate ← uint32Field data 28
  let provider : Provider := { id, state, name, cellularClass, rssi, errorRate }
  Go.mapError (.wrap "parsing MBIM provider" []) provider.validate
  return provider

end Provider

/-- The loop over the providers of a list. -/
def validateProviders : Nat → List Provider → Go Error Unit
  | _, [] => .ok ()
  | i, provider :: providers => do
    Go.mapError (.wrap "provider %d" [i]) provider.validate
    validateProviders (i + 1) providers

/-- Encode a list of providers. -/
def Providers.marshalBinary (providers : List Provider) : Go Error Bytes := do
  Go.mapError (.wrap "encoding MBIM providers" []) (validateProviders 0 providers)
  return marshalElements (providers.map Provider.marshalRecord)

/-- Parse a list of providers, whose records are cut out without a copy. -/
def Providers.unmarshalBinary (data : Bytes) : Go Error (List Provider) :=
  unmarshalElements "parsing MBIM providers" "parsing MBIM provider %d"
    (fun data ref => Go.slice data ref.offset.toNat (ref.offset + ref.size).toNat)
    (fun raw => Provider.unmarshalBinary raw true) data

end Wwan.Mbim
