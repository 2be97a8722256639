import Wwan.Lib.Fields
import Wwan.Lib.Sequence
import Wwan.Mbim.Protocol

/-! Type-length-value lists of the mobile broadband interface, padded to four bytes. -/

namespace Wwan.Mbim

open Utf16.ByteOrder (littleEndian)

/-- The type field of a TLV. -/
abbrev TLVType := UInt16

/-- The largest type that is not reserved. -/
def maxTLVType : TLVType := 0xFFF0

/-- A single S-NSSAI. -/
def TLVType.singleNSSAI : TLVType := 2
/-- The allowed NSSAI. -/
def TLVType.allowedNSSAI : TLVType := 3
/-- The configured NSSAI. -/
def TLVType.configuredNSSAI : TLVType := 4
/-- The default configured NSSAI. -/
def TLVType.defaultConfiguredNSSAI : TLVType := 5
/-- The preconfigured default configured NSSAI. -/
def TLVType.preconfiguredDefaultConfiguredNSSAI : TLVType := 6
/-- The rejected NSSAI. -/
def TLVType.rejectedNSSAI : TLVType := 7
/-- Local-area data networks. -/
def TLVType.ladn : TLVType := 8
/-- Tracking-area identities. -/
def TLVType.tai : TLVType := 9
/-- A UTF-16 string. -/
def TLVType.wCharString : TLVType := 10
/-- Route selection descriptors. -/
def TLVType.routeSelectionDescriptors : TLVType := 14
/-- The traffic descriptors of URSP rules. -/
def TLVType.urspRulesTDOnly : TLVType := 20

/-- A type with its data. -/
structure TLV where
  type : TLVType
  data : Bytes
  deriving DecidableEq

/-- Types below one and above the largest are reserved. -/
def validateTLVType (typ : TLVType) : Go Error Unit :=
  Go.failIf (typ = 0 ∨ typ > maxTLVType) (.format "type %#x is reserved" [typ.toNat])

/-- A TLV that can be sent: its type is not reserved and its length fits into four bytes. -/
def TLV.Valid (t : TLV) : Prop := ¬ (t.type = 0 ∨ t.type > maxTLVType) ∧ t.data.length < 2 ^ 32

/-- How many bytes a length is short of a multiple of four. -/
def paddingLength (length : Nat) : Nat := (4 - length % 4) % 4

/-- The bytes of a TLV, whose length field is four bytes wide whatever the data. -/
def marshalTLV (typ : TLVType) (value : Bytes) : Bytes :=
  littleEndian.putUint16 typ ++ [0, UInt8.ofNat (paddingLength value.length)] ++
    LittleEndian.putUint32 (UInt32.ofNat value.length) ++ value ++ List.replicate (paddingLength value.length) 0

/-- Encode a TLV that has a length and a type of its own. -/
def TLV.marshalBinary (t : TLV) : Go Error Bytes := do
  Go.mapError (.wrap "encoding MBIM TLV" []) (validateTLVType t.type)
  Go.failIf (t.data.length > 2 ^ 32 - 1) (.format "encoding MBIM TLV: data exceeds UINT32 length" [])
  return marshalTLV t.type t.data

/-- Parse the TLV in front of a byte string, and count its bytes. -/
def unmarshalTLVPrefix (data : Bytes) : Go Error (TLV × Nat) := do
  Go.failIf (data.length < 8) (.format "parsing MBIM TLV: header is truncated" [])
  let typ ← littleEndian.getUint16 (← Go.slice data 0 2)
  Go.mapError (.wrap "parsing MBIM TLV" []) (validateTLVType typ)
  let reserved ← Go.index data 2
  Go.failIf (reserved ≠ 0) (.format "parsing MBIM TLV: reserved byte is nonzero" [])
  let declared ← Go.index data 3
  Go.failIf (declared > 3) (.format "parsing MBIM TLV: padding length exceeds 3" [])
  let dataLength ← LittleEndian.getUint32 (← Go.slice data 4 8)
  -- The padding that is declared must be the one that the length needs.
  Go.failIf (declared.toNat ≠ paddingLength dataLength.toNat)
    (.format "parsing MBIM TLV: padding length is %d, want %d" [declared.toNat, paddingLength dataLength.toNat])
  Go.failIf (8 + dataLength.toNat + declared.toNat > data.length) (.format "parsing MBIM TLV: data is truncated" [])
  let dataEnd := 8 + dataLength.toNat
  let totalEnd := dataEnd + declared.toNat
  -- What is skipped as padding is zero.
  let padding ← Go.slice data dataEnd totalEnd
  Go.failIf (∃ value ∈ padding, value ≠ 0) (.format "parsing MBIM TLV: padding byte is nonzero" [])
  let value ← Go.slice data 8 dataEnd
  return ({ type := typ, data := value }, totalEnd)

/-- Parse one value and nothing behind it. -/
def unmarshalWhole {α : Type} (unmarshalPrefix : Bytes → Go Error (α × Nat)) (trailing : String) (data : Bytes) :
    Go Error α := do
  let item ← unmarshalPrefix data
  Go.failIf (item.2 ≠ data.length) (.format trailing [])
  return item.1

/-- Parse a TLV and nothing behind it. -/
def TLV.unmarshalBinary : Bytes → Go Error TLV :=
  unmarshalWhole unmarshalTLVPrefix "parsing MBIM TLV: trailing data"

/-- A list of TLVs. -/
abbrev TLVs := List TLV

/-- Encode one TLV of a list. -/
def TLVs.marshalItem (before : List TLV) (value : TLV) : Go Error Bytes :=
  Go.mapError (.wrap "encoding MBIM TLV %d" [before.length]) value.marshalBinary

/-- Encode a list of TLVs. -/
def TLVs.marshalBinary (t : TLVs) : Go Error Bytes :=
  Sequence.write TLVs.marshalItem [] t

/-- Parse one TLV of a list. -/
def TLVs.unmarshalItem (values : List TLV) (data : Bytes) : Go Error (TLV × Nat) :=
  Go.mapError (.wrap "parsing MBIM TLV %d" [values.length]) (unmarshalTLVPrefix data)

/-- Parse a list of TLVs. -/
def TLVs.unmarshalBinary (data : Bytes) : Go Error TLVs :=
  Sequence.readAll TLVs.unmarshalItem data

/-- The TLV of a type whose data is a list of values with at least one member. -/
def newListTLV {α : Type} (typ : TLVType) (empty : String) (marshal : List α → α → Go Error Bytes) (values : List α) :
    Go Error TLV := do
  Go.failIf (values.length = 0) (.format empty [])
  let data ← Sequence.write marshal [] values
  return { type := typ, data := data }

/-- The list of values that is the data of a TLV of a type. -/
def unmarshalListTLV {α : Type} (typ : TLVType) (wrongType empty : String)
    (unmarshal : List α → Bytes → Go Error (α × Nat)) (tlv : TLV) : Go Error (List α) := do
  Go.failIf (tlv.type ≠ typ) (.format wrongType [tlv.type.toNat, typ.toNat])
  Go.failIf (tlv.data.length = 0) (.format empty [])
  Sequence.readAll unmarshal tlv.data

end Wwan.Mbim
