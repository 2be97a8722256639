import Wwan.Mbim.Contexts

/-! Base stations: structures and arrays of records with strings, which references of a header point to. -/

namespace Wwan.Mbim

/-- `mbimExVersion20` -/
def mbimExVersion20 : UInt16 := 0x0200

/-- The data classes. -/
abbrev DataClass := UInt32
/-- `DataClass5G`, which was `DataClass5GNSA` before version 3.0. -/
def DataClass.fiveG : DataClass := 0x40
/-- `DataClass5GNSA` -/
def DataClass.fiveGNSA : DataClass := 0x40
/-- `DataClass5GSA` -/
def DataClass.fiveGSA : DataClass := 0x80
/-- The data subclasses. -/
abbrev DataSubclass := UInt32
/-- `DataSubclassNone` -/
def DataSubclass.none : DataSubclass := 0
/-- `dataClassV1Mask` -/
def dataClassV1Mask : DataClass := 0x807F003F
/-- `dataClassV2Mask` -/
def dataClassV2Mask : DataClass := dataClassV1Mask ||| DataClass.fiveGNSA ||| DataClass.fiveGSA
/-- `dataClassV3Mask` -/
def dataClassV3Mask : DataClass := dataClassV1Mask ||| DataClass.fiveG
/-- `dataSubclassMask` -/
def dataSubclassMask : DataSubclass := 0x1F

/-- The function `dataClassMask`. -/
def dataClassMask (version : UInt16) : DataClass :=
  if version ≥ mbimExVersion30 then dataClassV3Mask
  else if version ≥ mbimExVersion20 then dataClassV2Mask
  else dataClassV1Mask

/-- The predicate `validDataClass`. -/
def validDataClass (version : UInt16) (class' : DataClass) : Bool := class' &&& ~~~dataClassMask version = 0

/-- The predicate `dataClassHas5G`. -/
def dataClassHas5G (version : UInt16) (class' : DataClass) : Bool :=
  if version ≥ mbimExVersion30 then class' &&& DataClass.fiveG ≠ 0
  else if version ≥ mbimExVersion20 then class' &&& (DataClass.fiveGNSA ||| DataClass.fiveGSA) ≠ 0
  else false

/-- The predicate `validDataSubclass`. -/
def validDataSubclass (subclass : DataSubclass) : Bool := subclass &&& ~~~dataSubclassMask = 0

/-- The little-endian number of eight bytes at an offset. -/
def uint64Field (data : Bytes) (offset : Nat) : Go Error UInt64 := do
  let low ← uint32Field data offset
  let high ← uint32Field data (offset + 4)
  return UInt64.ofNat (low.toNat + high.toNat * 2 ^ 32)

/-! The strings of a record. -/

/-- The loop over the string fields of a record, with the end of what the record takes so far. -/
def parseValues (data : Bytes) : Nat → List (UInt32 × UInt32) → Nat → Go Error (List Bytes × Nat)
  | _, [], stop => .ok ([], stop)
  | index, field :: fields, stop => do
    let ref ← Go.mapError (.wrap "string %d reference" [index]) (readOffsetSizeRef data field.1)
    Go.mapError (.wrap "string %d" [index]) (ref.validate data)
    -- The string is absent.
    if ref.offset = 0 then do
      let rest ← parseValues data (index + 1) fields stop
      return ([] :: rest.1, rest.2)
    else do
      Go.failIf (ref.size = 0) (.format "string %d has nonzero offset with zero size" [index])
      Go.failIf (field.2 ≠ 0 ∧ ref.size > field.2) (.format "string %d exceeds %d bytes" [index, field.2.toNat])
      -- The strings follow each other without a gap.
      Go.failIf (ref.offset ≠ UInt32.ofNat stop)
        (.format "string %d offset is %d, want %d" [index, ref.offset.toNat, stop])
      let value ← ref.bytes data
      let stop := align4 (ref.offset + ref.size).toNat
      Go.failIf (stop > data.length) (.format "string %d padding is truncated" [index])
      let rest ← parseValues data (index + 1) fields stop
      return (value :: rest.1, rest.2)

/-- The strings of a record, each a field offset with the most bytes, and how many bytes the record takes. -/
def parseBaseStationValues (data : Bytes) (fixedSize : Nat) (fields : List (UInt32 × UInt32)) :
    Go Error (List Bytes × Nat) := do
  Go.failIf (data.length < fixedSize) (.format "record is truncated" [])
  parseValues data 0 fields fixedSize

/-- The loop over the raw strings of a record. -/
def decodeStrings : Nat → List Bytes → Go Error (List GoString)
  | _, [] => .ok []
  | index, raw :: rest => do
    let value ← Go.mapError (.wrap "string %d" [index]) (utf16RawString raw)
    let values ← decodeStrings (index + 1) rest
    return value :: values

/-- The strings of a record as strings. -/
def parseBaseStationStrings (data : Bytes) (fixedSize : Nat) (fields : List (UInt32 × UInt32)) :
    Go Error (List GoString × Nat) := do
  let raw ← parseBaseStationValues data fixedSize fields
  let values ← decodeStrings 0 raw.1
  return (values, raw.2)

/-- `baseStationProviderIDMaximumSize` -/
def baseStationProviderIDMaximumSize : UInt32 := 12
/-- `nrNeighborCellIDMaximumSize` -/
def nrNeighborCellIDMaximumSize : UInt32 := 14

/-- The provider of a record whose only string it is. -/
def parseBaseStationProviderID (data : Bytes) (fixedSize : Nat) : Go Error (GoString × Nat) := do
  let strings ← parseBaseStationStrings data fixedSize [(0, baseStationProviderIDMaximumSize)]
  let providerID ← Go.index strings.1 0
  Go.mapError (.wrap "provider ID" []) (validateProviderID providerID)
  return (providerID, strings.2)

/-! The records. -/

/-- A GSM serving cell. -/
structure GSMServingCell where
  providerID : GoString
  locationAreaCode : UInt32
  cellID : UInt32
  timingAdvance : UInt32
  arfcn : UInt32
  baseStationID : UInt32
  rxLevel : UInt32
  deriving DecidableEq

/-- `gsmServingCellFixedSize` -/
def gsmServingCellFixedSize : Nat := 32

/-- The function `parseGSMServingCell`. -/
def parseGSMServingCell (data : Bytes) : Go Error (GSMServingCell × Nat) := do
  let provider ← parseBaseStationProviderID data gsmServingCellFixedSize
  let locationAreaCode ← uint32Field data 8
  let cellID ← uint32Field data 12
  let timingAdvance ← uint32Field data 16
  let arfcn ← uint32Field data 20
  let baseStationID ← uint32Field data 24
  let rxLevel ← uint32Field data 28
  return ({ providerID := provider.1, locationAreaCode, cellID, timingAdvance, arfcn, baseStationID, rxLevel }, provider.2)

/-- A UMTS serving cell. -/
structure UMTSServingCell where
  providerID : GoString
  locationAreaCode : UInt32
  cellID : UInt32
  frequencyInfoUL : UInt32
  frequencyInfoDL : UInt32
  frequencyInfoNT : UInt32
  uarfcn : UInt32
  primaryScramblingCode : UInt32
  rscp : Int32
  ecNo : Int32
  pathLoss : UInt32
  deriving DecidableEq

/-- `umtsServingCellFixedSize` -/
def umtsServingCellFixedSize : Nat := 48

/-- The function `parseUMTSServingCell`. -/
def parseUMTSServingCell (data : Bytes) : Go Error (UMTSServingCell × Nat) := do
  let provider ← parseBaseStationProviderID data umtsServingCellFixedSize
  let locationAreaCode ← uint32Field data 8
  let cellID ← uint32Field data 12
  let frequencyInfoUL ← uint32Field data 16
  let frequencyInfoDL ← uint32Field data 20
  let frequencyInfoNT ← uint32Field data 24
  let uarfcn ← uint32Field data 28
  let primaryScramblingCode ← uint32Field data 32
  let rscp ← uint32Field data 36
  let ecNo ← uint32Field data 40
  let pathLoss ← uint32Field data 44
  return ({ providerID := provider.1, locationAreaCode, cellID, frequencyInfoUL, frequencyInfoDL, frequencyInfoNT, uarfcn,
            primaryScramblingCode, rscp := rscp.toInt32, ecNo := ecNo.toInt32, pathLoss }, provider.2)

/-- A TD-SCDMA serving cell, and a neighboring one. -/
structure TDSCDMAServingCell where
  providerID : GoString
  locationAreaCode : UInt32
  cellID : UInt32
  uarfcn : UInt32
  cellParameterID : UInt32
  timingAdvance : UInt32
  rscp : Int32
  pathLoss : UInt32
  deriving DecidableEq

/-- `tdscdmaServingCellFixedSize` -/
def tdscdmaServingCellFixedSize : Nat := 36

/-- The record that serving and neighboring TD-SCDMA cells share. -/
def parseTDSCDMACell (fixedSize : Nat) (data : Bytes) : Go Error (TDSCDMAServingCell × Nat) := do
  let provider ← parseBaseStationProviderID data fixedSize
  let locationAreaCode ← uint32Field data 8
  let cellID ← uint32Field data 12
  let uarfcn ← uint32Field data 16
  let cellParameterID ← uint32Field data 20
  let timingAdvance ← uint32Field data 24
  let rscp ← uint32Field data 28
  let pathLoss ← uint32Field data 32
  return ({ providerID := provider.1, locationAreaCode, cellID, uarfcn, cellParameterID, timingAdvance
            rscp := rscp.toInt32, pathLoss }, provider.2)

/-- The function `parseTDSCDMAServingCell`. -/
def parseTDSCDMAServingCell : Bytes → Go Error (TDSCDMAServingCell × Nat) := parseTDSCDMACell tdscdmaServingCellFixedSize

/-- An LTE serving cell. -/
structure LTEServingCell where
  providerID : GoString
  cellID : UInt32
  earfcn : UInt32
  physicalCellID : UInt32
  tac : UInt32
  rsrp : Int32
  rsrq : Int32
  timingAdvance : UInt32
  deriving DecidableEq

/-- `lteServingCellFixedSize` -/
def lteServingCellFixedSize : Nat := 36

/-- The function `parseLTEServingCell`. -/
def parseLTEServingCell (data : Bytes) : Go Error (LTEServingCell × Nat) := do
  let provider ← parseBaseStationProviderID data lteServingCellFixedSize
  let cellID ← uint32Field data 8
  let earfcn ← uint32Field data 12
  let physicalCellID ← uint32Field data 16
  let tac ← uint32Field data 20
  let rsrp ← uint32Field data 24
  let rsrq ← uint32Field data 28
  let timingAdvance ← uint32Field data 32
  return ({ providerID := provider.1, cellID, earfcn, physicalCellID, tac, rsrp := rsrp.toInt32, rsrq := rsrq.toInt32
            timingAdvance }, provider.2)

/-- A GSM neighboring cell. -/
structure GSMNeighboringCell where
  providerID : GoString
  locationAreaCode : UInt32
  cellID : UInt32
  arfcn : UInt32
  baseStationID : UInt32
  rxLevel : UInt32
  deriving DecidableEq

/-- `gsmNeighboringCellFixedSize` -/
def gsmNeighboringCellFixedSize : Nat := 28

/-- The function `parseGSMNeighboringCell`. -/
def parseGSMNeighboringCell (data : Bytes) : Go Error (GSMNeighboringCell × Nat) := do
  let provider ← parseBaseStationProviderID data gsmNeighboringCellFixedSize
  let locationAreaCode ← uint32Field data 8
  let cellID ← uint32Field data 12
  let arfcn ← uint32Field data 16
  let baseStationID ← uint32Field data 20
  let rxLevel ← uint32Field data 24
  return ({ providerID := provider.1, locationAreaCode, cellID, arfcn, baseStationID, rxLevel }, provider.2)

/-- A UMTS neighboring cell. -/
structure UMTSNeighboringCell where
  providerID : GoString
  locationAreaCode : UInt32
  cellID : UInt32
  uarfcn : UInt32
  primaryScramblingCode : UInt32
  rscp : Int32
  ecNo : Int32
  pathLoss : UInt32
  deriving DecidableEq

/-- `umtsNeighboringCellFixedSize` -/
def umtsNeighboringCellFixedSize : Nat := 36

/-- The function `parseUMTSNeighboringCell`. -/
def parseUMTSNeighboringCell (data : Bytes) : Go Error (UMTSNeighboringCell × Nat) := do
  let provider ← parseBaseStationProviderID data umtsNeighboringCellFixedSize
  let locationAreaCode ← uint32Field data 8
  let cellID ← uint32Field data 12
  let uarfcn ← uint32Field data 16
  let primaryScramblingCode ← uint32Field data 20
  let rscp ← uint32Field data 24
  let ecNo ← uint32Field data 28
  let pathLoss ← uint32Field data 32
  return ({ providerID := provider.1, locationAreaCode, cellID, uarfcn, primaryScramblingCode, rscp := rscp.toInt32
            ecNo := ecNo.toInt32, pathLoss }, provider.2)

/-- A TD-SCDMA neighboring cell. -/
abbrev TDSCDMANeighboringCell := TDSCDMAServingCell

/-- `tdscdmaNeighboringCellFixedSize` -/
def tdscdmaNeighboringCellFixedSize : Nat := 36

/-- The function `parseTDSCDMANeighboringCell`. -/
def parseTDSCDMANeighboringCell : Bytes → Go Error (TDSCDMANeighboringCell × Nat) :=
  parseTDSCDMACell tdscdmaNeighboringCellFixedSize

/-- An LTE neighboring cell. -/
structure LTENeighboringCell where
  providerID : GoString
  cellID : UInt32
  earfcn : UInt32
  physicalCellID : UInt32
  tac : UInt32
  rsrp : Int32
  rsrq : Int32
  deriving DecidableEq

/-- `lteNeighboringCellFixedSize` -/
def lteNeighboringCellFixedSize : Nat := 32

/-- The function `parseLTENeighboringCell`. -/
def parseLTENeighboringCell (data : Bytes) : Go Error (LTENeighboringCell × Nat) := do
  let provider ← parseBaseStationProviderID data lteNeighboringCellFixedSize
  let cellID ← uint32Field data 8
  let earfcn ← uint32Field data 12
  let physicalCellID ← uint32Field data 16
  let tac ← uint32Field data 20
  let rsrp ← uint32Field data 24
  let rsrq ← uint32Field data 28
  return ({ providerID := provider.1, cellID, earfcn, physicalCellID, tac, rsrp := rsrp.toInt32, rsrq := rsrq.toInt32 },
    provider.2)

/-- A CDMA cell. -/
structure CDMACell where
  servingCellFlag : UInt32
  nid : UInt32
  sid : UInt32
  baseStationID : UInt32
  baseLatitude : UInt32
  baseLongitude : UInt32
  refPN : UInt32
  gpsSeconds : UInt32
  pilotStrength : UInt32
  deriving DecidableEq

/-- `cdmaCellFixedSize` -/
def cdmaCellFixedSize : Nat := 36

/-- The function `parseCDMACell`, whose record has no string. -/
def parseCDMACell (data : Bytes) : Go Error (CDMACell × Nat) := do
  Go.failIf (data.length < cdmaCellFixedSize) (.format "record is truncated" [])
  let servingCellFlag ← uint32Field data 0
  let nid ← uint32Field data 4
  let sid ← uint32Field data 8
  let baseStationID ← uint32Field data 12
  let baseLatitude ← uint32Field data 16
  let baseLongitude ← uint32Field data 20
  let refPN ← uint32Field data 24
  let gpsSeconds ← uint32Field data 28
  let pilotStrength ← uint32Field data 32
  return ({ servingCellFlag, nid, sid, baseStationID, baseLatitude, baseLongitude, refPN, gpsSeconds, pilotStrength },
    cdmaCellFixedSize)

/-- The check `validateNRCellValue`, which lets the unavailable value pass. -/
def validateNRCellValue (name : String) (value maximum : UInt32) : Go Error Unit :=
  Go.failIf (value > maximum ∧ value ≠ 0xFFFFFFFF)
    (.wrap name [] (.format "%d exceeds %d and is not the unavailable value" [value.toNat, maximum.toNat]))

/-- An NR serving cell. -/
structure NRServingCell where
  providerID : GoString
  nci : UInt64
  physicalCellID : UInt32
  nrarfcn : UInt32
  tac : UInt32
  rsrp : UInt32
  rsrq : UInt32
  sinr : UInt32
  timingAdvance : UInt64
  deriving DecidableEq

/-- `nrServingCellFixedSize` -/
def nrServingCellFixedSize : Nat := 48

/-- The function `parseNRServingCell`. -/
def parseNRServingCell (data : Bytes) : Go Error (NRServingCell × Nat) := do
  let provider ← parseBaseStationProviderID data nrServingCellFixedSize
  -- The cell has 36 bits for its identity, or none.
  let nci ← uint64Field data 8
  Go.failIf (nci ≥ 0x1000000000 ∧ nci ≠ 0xFFFFFFFFFFFFFFFF) (.format "NCI %#x exceeds 36 bits" [nci.toNat])
  let physicalCellID ← uint32Field data 16
  validateNRCellValue "physical cell ID" physicalCellID 1007
  let nrarfcn ← uint32Field data 20
  validateNRCellValue "NRARFCN" nrarfcn 3279165
  let tac ← uint32Field data 24
  validateNRCellValue "TAC" tac 0xFFFFFF
  let rsrp ← uint32Field data 28
  validateNRCellValue "RSRP" rsrp 127
  let rsrq ← uint32Field data 32
  validateNRCellValue "RSRQ" rsrq 127
  let sinr ← uint32Field data 36
  validateNRCellValue "SINR" sinr 127
  let timingAdvance ← uint64Field data 40
  return ({ providerID := provider.1, nci, physicalCellID, nrarfcn, tac, rsrp, rsrq, sinr, timingAdvance }, provider.2)

/-- An NR neighboring cell. -/
structure NRNeighboringCell where
  systemSubtype : DataSubclass
  providerID : GoString
  cellID : GoString
  physicalCellID : UInt32
  tac : UInt32
  rsrp : UInt32
  rsrq : UInt32
  sinr : UInt32
  deriving DecidableEq

/-- `nrNeighboringCellFixedSize` -/
def nrNeighboringCellFixedSize : Nat := 40

/-- The function `parseNRNeighboringCell`, whose record has two strings. -/
def parseNRNeighboringCell (data : Bytes) : Go Error (NRNeighboringCell × Nat) := do
  let values ← parseBaseStationValues data nrNeighboringCellFixedSize
    [(4, baseStationProviderIDMaximumSize), (12, nrNeighborCellIDMaximumSize)]
  let providerID ← Go.mapError (.wrap "provider ID" []) (utf16RawString (← Go.index values.1 0))
  Go.mapError (.wrap "provider ID" []) (validateProviderID providerID)
  let cellID ← Go.mapError (.wrap "cell ID" []) (utf16RawString (← Go.index values.1 1))
  let systemSubtype ← uint32Field data 0
  Go.failIf (!validDataSubclass systemSubtype)
    (.format "system subtype %#x contains reserved bits" [systemSubtype.toNat])
  let physicalCellID ← uint32Field data 20
  validateNRCellValue "physical cell ID" physicalCellID 1007
  let tac ← uint32Field data 24
  validateNRCellValue "TAC" tac 0xFFFFFF
  let rsrp ← uint32Field data 28
  validateNRCellValue "RSRP" rsrp 127
  let rsrq ← uint32Field data 32
  validateNRCellValue "RSRQ" rsrq 127
  let sinr ← uint32Field data 36
  validateNRCellValue "SINR" sinr 127
  return ({ systemSubtype, providerID, cellID, physicalCellID, tac, rsrp, rsrq, sinr }, values.2)

/-! The structures and the arrays. -/

/-- The function `parseBaseStationStruct`. -/
def parseBaseStationStruct {α : Type} (data : Bytes) (ref : ValueRef) (parse : Bytes → Go Error (α × Nat)) :
    Go Error (Option α) :=
  if ref.offset = 0 then return none
  else do
    let raw ← Go.slice data ref.offset.toNat (ref.offset + ref.size).toNat
    let value ← parse raw
    -- A structure fills its reference.
    Go.failIf (value.2 ≠ raw.length) (.format "structure consumed %d bytes, want %d" [value.2, raw.length])
    return some value.1

/-- The loop over the records of an array, with the offset of the next. -/
def parseRecords {α : Type} (raw : Bytes) (parse : Bytes → Go Error (α × Nat)) : Nat → Nat → Nat → Go Error (List α × Nat)
  | _, 0, offset => .ok ([], offset)
  | index, count + 1, offset => do
    let value ← Go.mapError (.wrap "record %d" [index]) (parse (← Go.slice raw offset raw.length))
    -- Every record advances, so that the loop ends.
    Go.failIf (value.2 ≤ 0 ∨ value.2 > raw.length - offset)
      (.format "record %d has invalid encoded size %d" [index, value.2])
    let rest ← parseRecords raw parse (index + 1) count (offset + value.2)
    return (value.1 :: rest.1, rest.2)

/-- The function `parseBaseStationArray`. -/
def parseBaseStationArray {α : Type} (data : Bytes) (ref : ValueRef) (minimumSize : Nat)
    (parse : Bytes → Go Error (α × Nat)) : Go Error (List α) :=
  if ref.offset = 0 then return []
  else do
    let raw ← Go.slice data ref.offset.toNat (ref.offset + ref.size).toNat
    Go.failIf (raw.length < 4) (.format "array header is truncated" [])
    let count ← uint32Field raw 0
    -- The count is checked before anything is allocated for it.
    Go.failIf (count > UInt32.ofNat ((raw.length - 4) / minimumSize)) (.format "array records are truncated" [])
    let values ← parseRecords raw parse 0 count.toNat 4
    Go.failIf (values.2 ≠ raw.length) (.format "array has trailing data" [])
    return values.1

/-- The loop over the references of the header. -/
def readBaseStationRefs (data : Bytes) (fieldOffset : UInt32) : Nat → Nat → Go Error (List ValueRef)
  | _, 0 => .ok []
  | index, count + 1 => do
    let ref ← Go.mapError (.wrap "reference %d" [index])
      (readOffsetSizeRef data (fieldOffset + UInt32.ofNat index * 8))
    Go.failIf (ref.offset ≠ 0 ∧ ref.size = 0) (.format "reference %d has nonzero offset with zero size" [index])
    let refs ← readBaseStationRefs data fieldOffset (index + 1) count
    return ref :: refs

/-- The function `baseStationRefs`. -/
def baseStationRefs (data : Bytes) (fieldOffset : UInt32) (count : Nat) (dataStart : UInt32) : Go Error (List ValueRef) := do
  let refs ← readBaseStationRefs data fieldOffset 0 count
  validateDataBufferRefs data dataStart refs
  return refs

/-- What a device reports about base stations. -/
structure BaseStationsInfo where
  mbimExVersion : UInt16
  systemType : DataClass
  systemSubtype : DataSubclass
  gsmServingCell : Option GSMServingCell
  umtsServingCell : Option UMTSServingCell
  tdscdmaServingCell : Option TDSCDMAServingCell
  lteServingCell : Option LTEServingCell
  gsmNeighboringCells : List GSMNeighboringCell
  umtsNeighboringCells : List UMTSNeighboringCell
  tdscdmaNeighboringCells : List TDSCDMANeighboringCell
  lteNeighboringCells : List LTENeighboringCell
  cdmaCells : List CDMACell
  nrServingCells : List NRServingCell
  nrNeighboringCells : List NRNeighboringCell
  deriving DecidableEq

namespace BaseStationsInfo

/-- The size of the header of a version. -/
def headerSize (version : UInt16) : UInt32 := if version ≥ mbimExVersion30 then 96 else 76
/-- Where the references of a version start. -/
def refOffset (version : UInt16) : UInt32 := if version ≥ mbimExVersion30 then 8 else 4
/-- How many references a version has. -/
def refCount (version : UInt16) : Nat := if version ≥ mbimExVersion30 then 11 else 9

/-- The subtype, which versions from 3.0 on have. -/
def parseSubtype (version : UInt16) (systemType : DataClass) (data : Bytes) : Go Error DataSubclass :=
  if version ≥ mbimExVersion30 then do
    let systemSubtype ← uint32Field data 4
    Go.failIf (!validDataSubclass systemSubtype)
      (.format "parsing MBIM base stations info: system subtype %#x contains reserved bits" [systemSubtype.toNat])
    -- Only a 5G system has a subtype.
    Go.failIf (!dataClassHas5G version systemType ∧ systemSubtype ≠ DataSubclass.none)
      (.format "parsing MBIM base stations info: system subtype %#x requires a 5G system type" [systemSubtype.toNat])
    return systemSubtype
  else return DataSubclass.none

/-- The NR cells, which versions from 3.0 on have. -/
def parseNRCells (version : UInt16) (data : Bytes) (refs : List ValueRef) :
    Go Error (List NRServingCell × List NRNeighboringCell) :=
  if version ≥ mbimExVersion30 then do
    let serving ← Go.mapError (.wrap "parsing NR serving cells" [])
      (parseBaseStationArray data (← Go.index refs 9) nrServingCellFixedSize parseNRServingCell)
    Go.failIf (serving.length > 32) (.format "parsing NR serving cells: count %d exceeds 32" [serving.length])
    let neighboring ← Go.mapError (.wrap "parsing NR neighboring cells" [])
      (parseBaseStationArray data (← Go.index refs 10) nrNeighboringCellFixedSize parseNRNeighboringCell)
    Go.failIf (neighboring.length > 8) (.format "parsing NR neighboring cells: count %d exceeds 8" [neighboring.length])
    return (serving, neighboring)
  else return ([], [])

/-- Everything up to the assignment of the result. -/
def parse (version : UInt16) (data : Bytes) : Go Error BaseStationsInfo := do
  Go.failIf (uint32Length data < headerSize version)
    (.format "parsing MBIM base stations info: payload is truncated" [])
  let refs ← Go.mapError (.wrap "parsing MBIM base stations info" [])
    (baseStationRefs data (refOffset version) (refCount version) (headerSize version))
  let systemType ← uint32Field data 0
  Go.failIf (!validDataClass version systemType)
    (.format "parsing MBIM base stations info: system type %#x contains bits reserved in MBIMEx %#x"
      [systemType.toNat, version.toNat])
  let systemSubtype ← parseSubtype version systemType data
  let gsmServingCell ← Go.mapError (.wrap "parsing GSM serving cell" [])
    (parseBaseStationStruct data (← Go.index refs 0) parseGSMServingCell)
  let umtsServingCell ← Go.mapError (.wrap "parsing UMTS serving cell" [])
    (parseBaseStationStruct data (← Go.index refs 1) parseUMTSServingCell)
  let tdscdmaServingCell ← Go.mapError (.wrap "parsing TDSCDMA serving cell" [])
    (parseBaseStationStruct data (← Go.index refs 2) parseTDSCDMAServingCell)
  let lteServingCell ← Go.mapError (.wrap "parsing LTE serving cell" [])
    (parseBaseStationStruct data (← Go.index refs 3) parseLTEServingCell)
  let gsmNeighboringCells ← Go.mapError (.wrap "parsing GSM neighboring cells" [])
    (parseBaseStationArray data (← Go.index refs 4) gsmNeighboringCellFixedSize parseGSMNeighboringCell)
  let umtsNeighboringCells ← Go.mapError (.wrap "parsing UMTS neighboring cells" [])
    (parseBaseStationArray data (← Go.index refs 5) umtsNeighboringCellFixedSize parseUMTSNeighboringCell)
  let tdscdmaNeighboringCells ← Go.mapError (.wrap "parsing TDSCDMA neighboring cells" [])
    (parseBaseStationArray data (← Go.index refs 6) tdscdmaNeighboringCellFixedSize parseTDSCDMANeighboringCell)
  let lteNeighboringCells ← Go.mapError (.wrap "parsing LTE neighboring cells" [])
    (parseBaseStationArray data (← Go.index refs 7) lteNeighboringCellFixedSize parseLTENeighboringCell)
  let cdmaCells ← Go.mapError (.wrap "parsing CDMA cells" [])
    (parseBaseStationArray data (← Go.index refs 8) cdmaCellFixedSize parseCDMACell)
  let nr ← parseNRCells version data refs
  return { mbimExVersion := version, systemType, systemSubtype, gsmServingCell, umtsServingCell, tdscdmaServingCell
           lteServingCell, gsmNeighboringCells, umtsNeighboringCells, tdscdmaNeighboringCells, lteNeighboringCells
           cdmaCells, nrServingCells := nr.1, nrNeighboringCells := nr.2 }

/-- The method `UnmarshalBinary`, which assigns the receiver once everything is parsed. -/
def unmarshalBinary (i : BaseStationsInfo) (data : Bytes) : Go Error Unit × BaseStationsInfo :=
  Go.assign i (parse i.mbimExVersion data)

end BaseStationsInfo

end Wwan.Mbim
