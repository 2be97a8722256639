import Wwan.Mbim.Tlv

/-! Network slice identifiers and the TLVs that list them. -/

namespace Wwan.Mbim

/-- The access technologies of a slice list. -/
abbrev AccessType := UInt32

/-- Access over a 3GPP network. -/
def AccessType.threeGPP : AccessType := 1
/-- Access over a network other than 3GPP. -/
def AccessType.non3GPP : AccessType := 2

/-- An array of three bytes. -/
abbrev Bytes3 := UInt8 × UInt8 × UInt8

/-- The bytes of an array of three. -/
def Bytes3.bytes (b : Bytes3) : Bytes := [b.1, b.2.1, b.2.2]

/-- The array of three bytes that a slice is copied into. -/
def copy3 (s : Bytes) : Bytes3 := (s.getD 0 0, s.getD 1 0, s.getD 2 0)

/-- A slice identifier, with the fields that are present flagged. -/
structure SNSSAI where
  sliceServiceType : UInt8
  sliceDifferentiator : Bytes3 := (0, 0, 0)
  hasSliceDifferentiator : Bool := false
  mappedSliceServiceType : UInt8 := 0
  hasMappedSliceServiceType : Bool := false
  mappedSliceDifferentiator : Bytes3 := (0, 0, 0)
  hasMappedSliceDifferentiator : Bool := false
  deriving DecidableEq

/-- The value with every field that is not flagged as present cleared. -/
def SNSSAI.normal (s : SNSSAI) : SNSSAI :=
  { s with
    sliceDifferentiator := if s.hasSliceDifferentiator then s.sliceDifferentiator else (0, 0, 0)
    mappedSliceServiceType := if s.hasMappedSliceServiceType then s.mappedSliceServiceType else 0
    mappedSliceDifferentiator := if s.hasMappedSliceDifferentiator then s.mappedSliceDifferentiator else (0, 0, 0) }

/-- The bytes of a slice identifier, with the fields a mapped differentiator implies. -/
def SNSSAI.marshalBinaryUnchecked (s : SNSSAI) : Bytes :=
  -- A mapped differentiator implies the other fields.
  let hasSliceDifferentiator := s.hasSliceDifferentiator || s.hasMappedSliceDifferentiator
  let hasMappedSliceServiceType := s.hasMappedSliceServiceType || s.hasMappedSliceDifferentiator
  let length : UInt8 :=
    if s.hasMappedSliceDifferentiator then 8
    else if hasSliceDifferentiator && hasMappedSliceServiceType then 5
    else if hasSliceDifferentiator then 4
    else if hasMappedSliceServiceType then 2
    else 1
  [length, s.sliceServiceType] ++ (if hasSliceDifferentiator then s.sliceDifferentiator.bytes else []) ++
    (if hasMappedSliceServiceType then [s.mappedSliceServiceType] else []) ++
    (if s.hasMappedSliceDifferentiator then s.mappedSliceDifferentiator.bytes else [])

/-- Encode a slice identifier. -/
def SNSSAI.marshalBinary (s : SNSSAI) : Go Error Bytes := do
  Go.failIf (s.hasMappedSliceDifferentiator && (!s.hasSliceDifferentiator || !s.hasMappedSliceServiceType))
    (.format "encoding S-NSSAI: mapped SD requires SD and mapped SST" [])
  return s.marshalBinaryUnchecked

/-- Parse a slice identifier, whose length byte tells which fields are there. -/
def SNSSAI.unmarshalBinary (data : Bytes) : Go Error SNSSAI := do
  Go.failIf (data.length < 1) (.format "parsing S-NSSAI: payload is truncated" [])
  let length := (← Go.index data 0).toNat
  Go.failIf (length ≠ 1 ∧ length ≠ 2 ∧ length ≠ 4 ∧ length ≠ 5 ∧ length ≠ 8)
    (.format "parsing S-NSSAI: length %d is reserved" [length])
  Go.failIf (data.length ≠ length + 1)
    (.format "parsing S-NSSAI: payload length is %d, want %d" [data.length, length + 1])
  let sliceServiceType ← Go.index data 1
  -- The length alone tells which fields are there.
  let hasSliceDifferentiator : Bool := length = 4 ∨ length = 5 ∨ length = 8
  let sliceDifferentiator ← (if hasSliceDifferentiator then copy3 <$> Go.slice data 2 5 else pure (0, 0, 0))
  let offset := if hasSliceDifferentiator then 5 else 2
  let hasMappedSliceServiceType : Bool := length = 2 ∨ length = 5 ∨ length = 8
  let mappedSliceServiceType ← (if hasMappedSliceServiceType then Go.index data offset else pure 0)
  let offset := if hasMappedSliceServiceType then offset + 1 else offset
  let hasMappedSliceDifferentiator : Bool := length = 8
  let mappedSliceDifferentiator ←
    (if hasMappedSliceDifferentiator then copy3 <$> Go.slice data offset (offset + 3) else pure (0, 0, 0))
  return { sliceServiceType, sliceDifferentiator, hasSliceDifferentiator, mappedSliceServiceType,
           hasMappedSliceServiceType, mappedSliceDifferentiator, hasMappedSliceDifferentiator }

/-- An ordered list of slice identifiers. -/
abbrev NSSAIList := List SNSSAI

/-- Encode one identifier of a list. -/
def SNSSAI.marshalItem (before : List SNSSAI) (value : SNSSAI) : Go Error Bytes :=
  Go.mapError (.wrap "encoding S-NSSAI %d" [before.length]) value.marshalBinary

/-- Encode a list of slice identifiers. -/
def marshalSNSSAIList (values : NSSAIList) : Go Error Bytes :=
  Sequence.write SNSSAI.marshalItem [] values

/-- Parse one identifier of a list. -/
def SNSSAI.unmarshalItem (values : List SNSSAI) (data : Bytes) : Go Error (SNSSAI × Nat) := do
  let length := (← Go.index data 0).toNat + 1
  Go.failIf (length > data.length) (.format "parsing S-NSSAI %d: payload is truncated" [values.length])
  let payload ← Go.slice data 0 length
  let value ← Go.mapError (.wrap "parsing S-NSSAI %d" [values.length]) (SNSSAI.unmarshalBinary payload)
  return (value, length)

/-- Parse a list of slice identifiers. -/
def unmarshalSNSSAIList (data : Bytes) : Go Error NSSAIList :=
  Sequence.readAll SNSSAI.unmarshalItem data

/-- Parse a slice identifier TLV, whose data may be absent. -/
def OptionalSNSSAI.unmarshalTLV (tlv : TLV) : Go Error (Option SNSSAI) := do
  Go.failIf (tlv.type ≠ TLVType.singleNSSAI)
    (.format "parsing single S-NSSAI TLV: type is %d, want %d" [tlv.type.toNat, TLVType.singleNSSAI.toNat])
  if tlv.data.length = 0 then return none
  else
    let value ← Go.mapError (.wrap "parsing single S-NSSAI TLV" []) (SNSSAI.unmarshalBinary tlv.data)
    return some value

/-- The TLV types whose data is a plain list. -/
def isNSSAIListTLVType (typ : TLVType) : Bool :=
  typ = TLVType.allowedNSSAI ∨ typ = TLVType.configuredNSSAI ∨ typ = TLVType.defaultConfiguredNSSAI

/-- The TLV of a list of slice identifiers. -/
def newNSSAIListTLV (typ : TLVType) (values : NSSAIList) : Go Error TLV := do
  Go.failIf (!isNSSAIListTLVType typ) (.format
    "encoding NSSAI list TLV: type is %d, want allowed, configured, or default configured NSSAI" [typ.toNat])
  Go.failIf (values.length = 0) (.format "encoding NSSAI list TLV: S-NSSAI list is empty" [])
  let data ← Go.mapError (.wrap "encoding NSSAI list TLV" []) (marshalSNSSAIList values)
  return { type := typ, data := data }

/-- Parse an allowed, configured or default configured list. -/
def NSSAIList.unmarshalTLV (tlv : TLV) : Go Error NSSAIList := do
  Go.failIf (!isNSSAIListTLVType tlv.type) (.format
    "parsing NSSAI list TLV: type is %d, want allowed, configured, or default configured NSSAI" [tlv.type.toNat])
  Go.failIf (tlv.data.length = 0) (.format "parsing NSSAI list TLV: S-NSSAI list is empty" [])
  Go.mapError (.wrap "parsing NSSAI list TLV" []) (unmarshalSNSSAIList tlv.data)

/-- Why a slice identifier is rejected. -/
abbrev RejectedNSSAICause := UInt8

/-- The slice is not available in the network. -/
def RejectedNSSAICause.notAvailableInPLMN : RejectedNSSAICause := 0
/-- The slice is not available in the registration area. -/
def RejectedNSSAICause.notAvailableInRegistrationArea : RejectedNSSAICause := 1

/-- A rejected slice identifier. -/
structure RejectedSNSSAI where
  cause : RejectedNSSAICause
  snssai : SNSSAI
  deriving DecidableEq

/-- The causes that are defined. -/
def validateRejectedNSSAICause (cause : RejectedNSSAICause) : Go Error Unit :=
  Go.failIf (cause ≠ RejectedNSSAICause.notAvailableInPLMN ∧ cause ≠ RejectedNSSAICause.notAvailableInRegistrationArea)
    (.format "cause is %d, want unavailable in PLMN or registration area" [cause.toNat])

/-- Encode a rejected identifier, whose cause stands behind the length. -/
def RejectedSNSSAI.marshalBinary (r : RejectedSNSSAI) : Go Error Bytes := do
  Go.mapError (.wrap "encoding rejected S-NSSAI" []) (validateRejectedNSSAICause r.cause)
  Go.failIf (r.snssai.sliceServiceType < 1 ∨ r.snssai.sliceServiceType > 3)
    (.format "encoding rejected S-NSSAI: SST is %d, want 1, 2, or 3" [r.snssai.sliceServiceType.toNat])
  Go.failIf (r.snssai.hasMappedSliceServiceType || r.snssai.hasMappedSliceDifferentiator)
    (.format "encoding rejected S-NSSAI: mapped S-NSSAI is not allowed" [])
  let encoded ← Go.mapError (.wrap "encoding rejected S-NSSAI" []) r.snssai.marshalBinary
  let length ← Go.index encoded 0
  Go.failIf (length ≠ 1 ∧ length ≠ 4)
    (.format "encoding rejected S-NSSAI: length is %d, want 1 or 4" [length.toNat])
  let fields ← Go.slice encoded 1 encoded.length
  return [length, r.cause] ++ fields

/-- Parse the rejected identifier in front of a byte string. -/
def unmarshalRejectedSNSSAIPrefix (data : Bytes) : Go Error (RejectedSNSSAI × Nat) := do
  Go.failIf (data.length < 3) (.format "parsing rejected S-NSSAI: payload is truncated" [])
  let lengthByte ← Go.index data 0
  let length := lengthByte.toNat
  Go.failIf (length ≠ 1 ∧ length ≠ 4) (.format "parsing rejected S-NSSAI: length %d is reserved" [length])
  let totalLength := length + 2
  Go.failIf (totalLength > data.length) (.format "parsing rejected S-NSSAI: payload is truncated" [])
  let cause ← Go.index data 1
  Go.mapError (.wrap "parsing rejected S-NSSAI" []) (validateRejectedNSSAICause cause)
  let fields ← Go.slice data 2 totalLength
  -- The identifier is parsed without the cause between its length and its fields.
  let snssai ← Go.mapError (.wrap "parsing rejected S-NSSAI" []) (SNSSAI.unmarshalBinary (lengthByte :: fields))
  Go.failIf (snssai.sliceServiceType < 1 ∨ snssai.sliceServiceType > 3)
    (.format "parsing rejected S-NSSAI: SST is %d, want 1, 2, or 3" [snssai.sliceServiceType.toNat])
  return ({ cause, snssai }, totalLength)

/-- Parse a rejected identifier and nothing behind it. -/
def RejectedSNSSAI.unmarshalBinary : Bytes → Go Error RejectedSNSSAI :=
  unmarshalWhole unmarshalRejectedSNSSAIPrefix "parsing rejected S-NSSAI: trailing data"

/-- Encode one rejected identifier of a list. -/
def RejectedSNSSAI.marshalItem (before : List RejectedSNSSAI) (value : RejectedSNSSAI) : Go Error Bytes :=
  Go.mapError (.wrap "encoding rejected S-NSSAI %d" [before.length]) value.marshalBinary

/-- Parse one rejected identifier of a list. -/
def RejectedSNSSAI.unmarshalItem (values : List RejectedSNSSAI) (data : Bytes) : Go Error (RejectedSNSSAI × Nat) :=
  Go.mapError (.wrap "parsing rejected S-NSSAI %d" [values.length]) (unmarshalRejectedSNSSAIPrefix data)

/-- The TLV of a list of rejected identifiers. -/
def newRejectedNSSAITLV : List RejectedSNSSAI → Go Error TLV :=
  newListTLV TLVType.rejectedNSSAI "encoding rejected NSSAI TLV: list is empty" RejectedSNSSAI.marshalItem

/-- Parse a rejected list. -/
def RejectedNSSAIList.unmarshalTLV : TLV → Go Error (List RejectedSNSSAI) :=
  unmarshalListTLV TLVType.rejectedNSSAI "parsing rejected NSSAI TLV: type is %d, want %d"
    "parsing rejected NSSAI TLV: list is empty" RejectedSNSSAI.unmarshalItem

/-- The preferred slices of an access technology. -/
structure PreconfiguredDefaultNSSAI where
  accessType : AccessType
  preferredNSSAI : NSSAIList
  deriving DecidableEq

/-- The access technologies that have lists. -/
def validateNSSAIAccessType (value : AccessType) : Go Error Unit :=
  Go.failIf (value ≠ AccessType.threeGPP ∧ value ≠ AccessType.non3GPP)
    (.format "access type is %d, want 3GPP or non-3GPP" [value.toNat])

/-- Encode preferred identifiers, none of which is mapped. -/
def marshalPreconfiguredDefaultNSSAIList (values : NSSAIList) : Go Error Bytes := do
  match values.findIdx? fun value => value.hasMappedSliceServiceType || value.hasMappedSliceDifferentiator with
  | some index => Go.fail (.format "preferred S-NSSAI %d contains a mapped S-NSSAI" [index])
  | none => marshalSNSSAIList values

/-- Encode the preferred slices of an access technology, with the list as a TLV of its own. -/
def PreconfiguredDefaultNSSAI.marshalBinary (n : PreconfiguredDefaultNSSAI) : Go Error Bytes := do
  let wrap := Error.wrap "encoding preconfigured default NSSAI" []
  Go.mapError wrap (validateNSSAIAccessType n.accessType)
  let preferred ← Go.mapError wrap (marshalPreconfiguredDefaultNSSAIList n.preferredNSSAI)
  let preferredTLV ← Go.mapError wrap (TLV.marshalBinary { type := TLVType.defaultConfiguredNSSAI, data := preferred })
  return LittleEndian.putUint32 n.accessType ++ preferredTLV

/-- Parse the preferred slices in front of a byte string. -/
def unmarshalPreconfiguredDefaultNSSAIPrefix (data : Bytes) : Go Error (PreconfiguredDefaultNSSAI × Nat) := do
  let wrap := Error.wrap "parsing preconfigured default NSSAI" []
  Go.failIf (data.length < 4) (.format "parsing preconfigured default NSSAI: access type is truncated" [])
  let accessType ← LittleEndian.getUint32 (← Go.slice data 0 4)
  Go.mapError wrap (validateNSSAIAccessType accessType)
  let item ← Go.mapError wrap (unmarshalTLVPrefix (← Go.slice data 4 data.length))
  Go.failIf (item.1.type ≠ TLVType.defaultConfiguredNSSAI) (.format
    "parsing preconfigured default NSSAI: preferred NSSAI TLV type is %d, want %d"
    [item.1.type.toNat, TLVType.defaultConfiguredNSSAI.toNat])
  let preferred ← Go.mapError wrap (unmarshalSNSSAIList item.1.data)
  -- What is parsed has to be encodable again.
  let _ ← Go.mapError wrap (marshalPreconfiguredDefaultNSSAIList preferred)
  return ({ accessType, preferredNSSAI := preferred }, 4 + item.2)

/-- Parse the preferred slices of an access technology and nothing behind them. -/
def PreconfiguredDefaultNSSAI.unmarshalBinary : Bytes → Go Error PreconfiguredDefaultNSSAI :=
  unmarshalWhole unmarshalPreconfiguredDefaultNSSAIPrefix "parsing preconfigured default NSSAI: trailing data"

/-- Encode the slices of one access technology, which no list before has named. -/
def PreconfiguredDefaultNSSAI.marshalItem (before : List PreconfiguredDefaultNSSAI) (value : PreconfiguredDefaultNSSAI) :
    Go Error Bytes := do
  Go.failIf (value.accessType ∈ before.map accessType)
    (.format "encoding preconfigured default NSSAI TLV: duplicate access type %d" [value.accessType.toNat])
  Go.mapError (.wrap "encoding preconfigured default NSSAI access list %d" [before.length]) value.marshalBinary

/-- Parse the slices of one access technology, of which there are two at most. -/
def PreconfiguredDefaultNSSAI.unmarshalItem (values : List PreconfiguredDefaultNSSAI) (data : Bytes) :
    Go Error (PreconfiguredDefaultNSSAI × Nat) := do
  Go.failIf (values.length = 2) (.format "parsing preconfigured default NSSAI TLV: more than two access lists" [])
  let item ← Go.mapError (.wrap "parsing preconfigured default NSSAI access list %d" [values.length])
    (unmarshalPreconfiguredDefaultNSSAIPrefix data)
  Go.failIf (item.1.accessType ∈ values.map accessType)
    (.format "parsing preconfigured default NSSAI TLV: duplicate access type %d" [item.1.accessType.toNat])
  return item

/-- The TLV of the preferred slices of one or two access technologies. -/
def newPreconfiguredDefaultNSSAITLV (values : List PreconfiguredDefaultNSSAI) : Go Error TLV := do
  Go.failIf (values.length = 0 ∨ values.length > 2) (.format
    "encoding preconfigured default NSSAI TLV: access list count is %d, want 1 or 2" [values.length])
  let data ← Sequence.write PreconfiguredDefaultNSSAI.marshalItem [] values
  return { type := TLVType.preconfiguredDefaultConfiguredNSSAI, data := data }

/-- Parse the preferred slices of the access technologies. -/
def PreconfiguredDefaultNSSAIList.unmarshalTLV : TLV → Go Error (List PreconfiguredDefaultNSSAI) :=
  unmarshalListTLV TLVType.preconfiguredDefaultConfiguredNSSAI
    "parsing preconfigured default NSSAI TLV: type is %d, want %d"
    "parsing preconfigured default NSSAI TLV: access list is empty" PreconfiguredDefaultNSSAI.unmarshalItem

end Wwan.Mbim
