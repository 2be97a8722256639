import Wwan.Lib.Records
import Wwan.Mbim.Tlv
import Wwan.Mbim.Wire

/-! Tracking-area identities and the local-area data networks that list them. -/

namespace Wwan.Mbim

open Utf16.ByteOrder (littleEndian)

/-- The format of a tracking-area list. -/
abbrev TAIListType := UInt8

/-- Areas of one network in any order. -/
def TAIListType.nonConsecutive : TAIListType := 0
/-- Consecutive areas of one network. -/
def TAIListType.consecutive : TAIListType := 1
/-- Areas that name their networks. -/
def TAIListType.multiplePLMNs : TAIListType := 2

/-- A network's country and network codes in binary-coded decimals. -/
structure PLMN where
  mcc : UInt16
  mnc : UInt16
  deriving DecidableEq

/-- A tracking area of a network. -/
structure TrackingAreaIdentity where
  plmn : PLMN
  tac : UInt32
  deriving DecidableEq

/-- A list of tracking areas in one of three formats. -/
structure TAIList where
  type : TAIListType
  plmn : PLMN := ⟨0, 0⟩
  tacs : List UInt32 := []
  tais : List TrackingAreaIdentity := []
  deriving DecidableEq

/-- Whether the lowest nibbles are decimal digits. -/
def validBCDNibbles (value : UInt16) : Nat → Bool
  | 0 => true
  | count + 1 => if value &&& 0xF > 9 then false else validBCDNibbles (value >>> 4) count

/-- The country code has three digits, the network code two or three. -/
def PLMN.validate (p : PLMN) : Go Error Unit := do
  Go.failIf (p.mcc &&& 0xF000 ≠ 0) (.format "PLMN MCC has nonzero unused bits" [])
  Go.failIf (!validBCDNibbles p.mcc 3) (.format "PLMN MCC contains a non-decimal BCD digit" [])
  if p.mnc &&& 0x8000 ≠ 0 then
    Go.failIf (p.mnc &&& 0x7F00 ≠ 0) (.format "two-digit PLMN MNC has nonzero unused bits" [])
    Go.failIf (!validBCDNibbles p.mnc 2) (.format "PLMN MNC contains a non-decimal BCD digit" [])
  else
    Go.failIf (p.mnc &&& 0xF000 ≠ 0) (.format "three-digit PLMN MNC has nonzero unused bits" [])
    Go.failIf (!validBCDNibbles p.mnc 3) (.format "PLMN MNC contains a non-decimal BCD digit" [])

/-- An area code has twenty-four bits. -/
def validateTAC (tac : UInt32) : Go Error Unit :=
  Go.failIf (tac > 0xFFFFFF) (.format "TAC %#x exceeds 24 bits" [tac.toNat])

/-- Check the area codes from an index on, behind the one before. -/
def validateTACs (consecutive : Bool) : Nat → Option UInt32 → List UInt32 → Go Error Unit
  | _, _, [] => .ok ()
  | index, previous, tac :: rest => do
    Go.mapError (.wrap "TAC %d" [index]) (validateTAC tac)
    -- The first area has none before it to follow.
    match previous with
    | none => .ok ()
    | some previous => Go.failIf (consecutive ∧ tac ≠ previous + 1) (.format
        "TAC %d is %#x, want %#x for a consecutive list" [index, tac.toNat, (previous + 1).toNat])
    validateTACs consecutive (index + 1) (some tac) rest

/-- Check the identities from an index on. -/
def validateTAIs : Nat → List TrackingAreaIdentity → Go Error Unit
  | _, [] => .ok ()
  | index, tai :: rest => do
    Go.mapError (.wrap "TAI %d" [index]) tai.plmn.validate
    Go.mapError (.wrap "TAI %d" [index]) (validateTAC tai.tac)
    validateTAIs (index + 1) rest

/-- A list has the fields of its format only, one through sixteen areas, and each of them is in range. -/
def TAIList.validate (l : TAIList) : Go Error Unit :=
  -- One network with a list of areas.
  if l.type = TAIListType.nonConsecutive ∨ l.type = TAIListType.consecutive then do
    Go.failIf (l.tacs.length < 1 ∨ l.tacs.length > 16) (.format "TAC count is %d, want 1 through 16" [l.tacs.length])
    Go.failIf (l.tais.length ≠ 0) (.format "single-PLMN list contains multi-PLMN TAI values" [])
    l.plmn.validate
    validateTACs (l.type = TAIListType.consecutive) 0 none l.tacs
  -- A list of areas, each with its network.
  else if l.type = TAIListType.multiplePLMNs then do
    Go.failIf (l.tais.length < 1 ∨ l.tais.length > 16) (.format "TAI count is %d, want 1 through 16" [l.tais.length])
    Go.failIf (l.plmn ≠ ⟨0, 0⟩ ∨ l.tacs.length ≠ 0) (.format "multi-PLMN list contains single-PLMN fields" [])
    validateTAIs 0 l.tais
  else Go.fail (.format "type %d is reserved" [l.type.toNat])

/-- The bytes of a network's codes. -/
def PLMN.bytes (p : PLMN) : Bytes := littleEndian.putUint16 p.mcc ++ littleEndian.putUint16 p.mnc

/-- The bytes of an area that names its network. -/
def TrackingAreaIdentity.bytes (t : TrackingAreaIdentity) : Bytes := t.plmn.bytes ++ LittleEndian.putUint32 t.tac

/-- Encode a tracking-area list. -/
def TAIList.marshalBinary (l : TAIList) : Go Error Bytes := do
  Go.mapError (.wrap "encoding TAI list" []) l.validate
  if l.type = TAIListType.nonConsecutive ∨ l.type = TAIListType.consecutive then
    return l.type :: l.plmn.bytes ++ UInt8.ofNat l.tacs.length :: l.tacs.flatMap LittleEndian.putUint32
  else if l.type = TAIListType.multiplePLMNs then
    return l.type :: UInt8.ofNat l.tais.length :: l.tais.flatMap TrackingAreaIdentity.bytes
  else return [l.type]

/-- The code at an offset. -/
def codeAt (data : Bytes) (offset : Nat) : Go Error UInt16 := do
  littleEndian.getUint16 (← Go.slice data offset (offset + 2))

/-- The network codes at an offset. -/
def PLMN.decodeAt (data : Bytes) (offset : Nat) : Go Error PLMN := do
  let mcc ← codeAt data offset
  let mnc ← codeAt data (offset + 2)
  return { mcc, mnc }

/-- The area code at an offset. -/
def tacAt (data : Bytes) (offset : Nat) : Go Error UInt32 := do
  LittleEndian.getUint32 (← Go.slice data offset (offset + 4))

/-- The area and its network at an offset. -/
def TrackingAreaIdentity.decodeAt (data : Bytes) (offset : Nat) : Go Error TrackingAreaIdentity := do
  let plmn ← PLMN.decodeAt data offset
  let tac ← tacAt data (offset + 4)
  return { plmn, tac }

/-- Parse the fields of the tracking-area list in front of a byte string, by its format. -/
def unmarshalTAIListFields (data : Bytes) (listType : TAIListType) : Go Error (TAIList × Nat) :=
  if listType = TAIListType.nonConsecutive ∨ listType = TAIListType.consecutive then do
    Go.failIf (data.length < 6) (.format "parsing single-PLMN TAI list: header is truncated" [])
    -- The count stands behind the network.
    let count := (← Go.index data 5).toNat
    let totalLength := 6 + count * 4
    Go.failIf (totalLength > data.length) (.format "parsing single-PLMN TAI list: TAC values are truncated" [])
    let plmn ← PLMN.decodeAt data 1
    let tacs ← Records.read tacAt 4 data count 6
    return ({ type := listType, plmn, tacs }, totalLength)
  else if listType = TAIListType.multiplePLMNs then do
    Go.failIf (data.length < 2) (.format "parsing multi-PLMN TAI list: header is truncated" [])
    let count := (← Go.index data 1).toNat
    let totalLength := 2 + count * 8
    Go.failIf (totalLength > data.length) (.format "parsing multi-PLMN TAI list: TAI values are truncated" [])
    let tais ← Records.read TrackingAreaIdentity.decodeAt 8 data count 2
    return ({ type := listType, tais }, totalLength)
  else Go.fail (.format "parsing TAI list: type %d is reserved" [listType.toNat])

/-- Parse the tracking-area list in front of a byte string. -/
def unmarshalTAIListPrefix (data : Bytes) : Go Error (TAIList × Nat) := do
  Go.failIf (data.length < 1) (.format "parsing TAI list: type is truncated" [])
  let listType ← Go.index data 0
  let item ← unmarshalTAIListFields data listType
  Go.mapError (.wrap "parsing TAI list" []) item.1.validate
  return item

/-- Parse a tracking-area list and nothing behind it. -/
def TAIList.unmarshalBinary : Bytes → Go Error TAIList :=
  unmarshalWhole unmarshalTAIListPrefix "parsing TAI list: trailing data"

/-- Encode one list of several. -/
def TAIList.marshalItem (before : List TAIList) (list : TAIList) : Go Error Bytes :=
  Go.mapError (.wrap "encoding TAI TLV list %d" [before.length]) list.marshalBinary

/-- Parse one list of several. -/
def TAIList.unmarshalItem (lists : List TAIList) (data : Bytes) : Go Error (TAIList × Nat) :=
  Go.mapError (.wrap "parsing TAI TLV list %d" [lists.length]) (unmarshalTAIListPrefix data)

/-- The TLV of tracking-area lists. -/
def newTAITLV : List TAIList → Go Error TLV :=
  newListTLV TLVType.tai "encoding TAI TLV: list is empty" TAIList.marshalItem

/-- Parse tracking-area lists. -/
def TAILists.unmarshalTLV : TLV → Go Error (List TAIList) :=
  unmarshalListTLV TLVType.tai "parsing TAI TLV: type is %d, want %d" "parsing TAI TLV: list is empty"
    TAIList.unmarshalItem

/-- The version from which on network parameters exist. -/
def mbimExVersion30 : UInt16 := 0x0300
/-- The version from which on strings in TLVs are TLVs. -/
def mbimExVersion40 : UInt16 := 0x0400

/-- The version of network parameters, where none means the first. -/
def networkParametersVersion (version : UInt16) : UInt16 :=
  if version = 0 then mbimExVersion30 else version

/-- A local-area data network with the areas it is available in. -/
structure LADN where
  dnn : GoString
  taiLists : List TAIList
  deriving DecidableEq

/-- The shortest name in versions before 4.0. -/
def minimumLADNDNNLength : Nat := 3
/-- The longest name in versions before 4.0. -/
def maximumLADNDNNLength : Nat := 102

/-- Encode a name, as a TLV of UTF-16 from version 4.0 on. -/
def marshalDNN (dnn : GoString) (version : UInt16) : Go Error Bytes :=
  if version ≥ mbimExVersion40 then return marshalTLV TLVType.wCharString (utf16Bytes dnn)
  else do
    let length := dnn.length
    Go.failIf (length < minimumLADNDNNLength ∨ length > maximumLADNDNNLength) (.format
      "DNN length is %d, want %d through %d octets" [length, minimumLADNDNNLength, maximumLADNDNNLength])
    return UInt8.ofNat length :: dnn

/-- Encode one area list of a network. -/
def LADN.marshalList (before : List TAIList) (list : TAIList) : Go Error Bytes :=
  Go.mapError (.wrap "TAI list %d" [before.length]) list.marshalBinary

/-- Encode a local-area data network: its name, then its area lists without a count. -/
def marshalLADN (value : LADN) (version : UInt16) : Go Error Bytes := do
  Go.failIf (value.taiLists.length = 0) (.format "TAI list is empty" [])
  let data ← marshalDNN value.dnn version
  let lists ← Sequence.write LADN.marshalList [] value.taiLists
  return data ++ lists

/-- Parse the name in front of a byte string. -/
def unmarshalDNN (data : Bytes) (version : UInt16) : Go Error (GoString × Nat) :=
  -- A version with TLVs has the name in UTF-16.
  if version ≥ mbimExVersion40 then do
    let item ← Go.mapError (.wrap "parsing DNN TLV" []) (unmarshalTLVPrefix data)
    Go.failIf (item.1.type ≠ TLVType.wCharString)
      (.format "parsing DNN TLV: type is %d, want %d" [item.1.type.toNat, TLVType.wCharString.toNat])
    let dnn ← Go.mapError (.wrap "parsing DNN" []) (utf16RawString item.1.data)
    return (dnn, item.2)
  else do
    -- An older one has a length byte in front of the name.
    Go.failIf (data.length < 1) (.format "parsing DNN: length is truncated" [])
    let length := (← Go.index data 0).toNat
    Go.failIf (length < minimumLADNDNNLength ∨ length > maximumLADNDNNLength) (.format
      "parsing DNN: length is %d, want %d through %d" [length, minimumLADNDNNLength, maximumLADNDNNLength])
    Go.failIf (data.length < length + 1) (.format "parsing DNN: value is truncated" [])
    let dnn ← Go.slice data 1 (length + 1)
    return (dnn, length + 1)

/-- Whether the byte at an offset, if there is one, is the format of an area list. -/
def moreTAILists (data : Bytes) (offset : Nat) : Go Error Bool :=
  if offset < data.length then do
    let next ← Go.index data offset
    return next ≤ TAIListType.multiplePLMNs
  else return false

/-- Parse area lists from an offset on, for as long as the next byte is a format. -/
def unmarshalTAILists (data : Bytes) : Nat → List TAIList → Nat → Go Error (List TAIList × Nat)
  -- A loop that outlives one iteration per byte would make no progress, which counts as a panic.
  | 0, lists, offset => do
    let more ← moreTAILists data offset
    if more then .error .outOfRange else return (lists, offset)
  | rounds + 1, lists, offset => do
    let more ← moreTAILists data offset
    if more then
      let front ← Go.slice data offset data.length
      let item ← Go.mapError (.wrap "parsing TAI list %d" [lists.length]) (unmarshalTAIListPrefix front)
      unmarshalTAILists data rounds (lists ++ [item.1]) (offset + item.2)
    else return (lists, offset)

/-- Parse the local-area data network in front of a byte string. -/
def unmarshalLADNPrefix (data : Bytes) (version : UInt16) : Go Error (LADN × Nat) := do
  let name ← unmarshalDNN data version
  let lists ← unmarshalTAILists data data.length [] name.2
  Go.failIf (lists.1.length = 0) (.format "parsing LADN: TAI list is empty" [])
  return ({ dnn := name.1, taiLists := lists.1 }, lists.2)

/-- Encode one network of a list. -/
def LADN.marshalItem (version : UInt16) (before : List LADN) (value : LADN) : Go Error Bytes :=
  Go.mapError (.wrap "encoding LADN TLV value %d" [before.length]) (marshalLADN value version)

/-- Parse one network of a list. -/
def LADN.unmarshalItem (version : UInt16) (values : List LADN) (data : Bytes) : Go Error (LADN × Nat) :=
  Go.mapError (.wrap "parsing LADN TLV value %d" [values.length]) (unmarshalLADNPrefix data version)

/-- The TLV of local-area data networks. -/
def newLADNTLV (values : List LADN) (version : UInt16) : Go Error TLV := do
  let version := networkParametersVersion version
  Go.failIf (version < mbimExVersion30) (.format "encoding LADN TLV: MBIMEx 3.0 or later is required" [])
  newListTLV TLVType.ladn "encoding LADN TLV: list is empty" (LADN.marshalItem version) values

/-- Parse local-area data networks. -/
def LADNList.unmarshalTLV (tlv : TLV) (version : UInt16) : Go Error (List LADN) := do
  let version := networkParametersVersion version
  Go.failIf (version < mbimExVersion30) (.format "parsing LADN TLV: MBIMEx 3.0 or later is required" [])
  unmarshalListTLV TLVType.ladn "parsing LADN TLV: type is %d, want %d" "parsing LADN TLV: list is empty"
    (LADN.unmarshalItem version) tlv

end Wwan.Mbim
