import Mathlib.Data.List.DropRight
import Wwan.Sim.Tlv

/-! The file control information and the application directory of a SIM card. -/

namespace Wwan.Sim

/-- Why the content of a file cannot be parsed. -/
inductive FileError where
  /-- `malformed APDU response`, with what was being parsed in front of it -/
  | malformed (what : String)
  /-- `unexpected file descriptor length` -/
  | descriptorLength
  /-- `unexpected file length encoding` -/
  | lengthEncoding
  /-- `missing file descriptor` -/
  | missingDescriptor
  deriving DecidableEq

/-- The items of a body; every item takes a byte of the fuel. -/
def unmarshalItemsFrom : Nat → Bytes → Except Tlv.Error (List Tlv.Item)
  | _, [] => .ok []
  | 0, _ => .ok []
  | fuel + 1, data =>
    match Tlv.consume data with
    | .error err => .error err
    | .ok (item, consumed) =>
      match unmarshalItemsFrom fuel (data.drop consumed) with
      | .error err => .error err
      | .ok items => .ok (item :: items)

/-- `Items.UnmarshalBinary` -/
def unmarshalItems (data : Bytes) : Except Tlv.Error (List Tlv.Item) :=
  -- No item is empty, so the body has no more items than bytes.
  unmarshalItemsFrom data.length data

/-! File control information. -/

/-- `StructureTransparent` -/
def structureTransparent : UInt8 := 0x41

/-- `StructureLinearFixed` -/
def structureLinearFixed : UInt8 := 0x42

/-- What a card says about the file it has selected. -/
structure FCI where
  fileStructure : UInt8 := 0
  fileType : UInt8 := 0
  recordSize : UInt16 := 0
  recordCount : UInt8 := 0
  fileSize : UInt16 := 0
  deriving DecidableEq

/-- `binary.BigEndian.Uint16` -/
def bigEndianUint16 (high low : UInt8) : UInt16 := UInt16.ofNat (high.toNat * 256 + low.toNat)

/-- Read one child of the information, and note whether a descriptor was seen. -/
def FCI.accept (f : FCI) (seen : Bool) (item : Tlv.Item) : Except FileError (FCI × Bool) :=
  if item.tag = 0x82 then
    match item.value with
    -- A file without records.
    | [fileStructure, fileType] => .ok ({ f with fileStructure, fileType }, true)
    -- A file with records.
    | [fileStructure, fileType, high, low, recordCount] =>
      .ok ({ f with fileStructure, fileType, recordSize := bigEndianUint16 high low, recordCount }, true)
    | _ => .error .descriptorLength
  else if item.tag = 0x80 then
    match item.value with
    | [high, low] => .ok ({ f with fileSize := bigEndianUint16 high low }, seen)
    | _ => .error .lengthEncoding
  -- Other children are skipped.
  else .ok (f, seen)

/-- Read the children of the information. -/
def FCI.acceptAll (f : FCI) (seen : Bool) : List Tlv.Item → Except FileError (FCI × Bool)
  | [] => .ok (f, seen)
  | item :: items =>
    match f.accept seen item with
    | .error err => .error err
    | .ok (f, seen) => f.acceptAll seen items

/-- `FCI.UnmarshalBinary` -/
def FCI.unmarshalBinary (data : Bytes) : Except FileError FCI :=
  match unmarshalItems data with
  | .error _ => .error (.malformed "")
  | .ok [top] =>
    if top.tag ≠ 0x62 then .error (.malformed "parsing FCI")
    else
      match unmarshalItems top.value with
      | .error _ => .error (.malformed "parsing FCI children")
      | .ok inner =>
        match FCI.acceptAll {} false inner with
        | .error err => .error err
        -- The descriptor must be there.
        | .ok (_, false) => .error .missingDescriptor
        | .ok (parsed, true) => .ok parsed
  | .ok _ => .error (.malformed "parsing FCI")

/-! The application directory. -/

/-- An application of the card. -/
structure Application where
  aid : Bytes := []
  label : GoString := []
  deriving DecidableEq

/-- `trimEFDirPadding` -/
def trimEFDirPadding (data : Bytes) : Bytes := data.rdropWhile (· == 0xFF)

/-- Read the items of a record until only padding is left; every item takes a byte of the fuel. -/
def acceptRecordItems : Nat → Application → Bytes → Except FileError Application
  | 0, parsed, _ => .ok parsed
  | fuel + 1, parsed, inner =>
    -- Padding ends the record.
    if trimEFDirPadding inner = [] then .ok parsed
    else
      match Tlv.consume inner with
      | .error _ => .error (.malformed "")
      | .ok (item, consumed) =>
        let parsed :=
          if item.tag = 0x4F then { parsed with aid := item.value }
          else if item.tag = 0x50 then { parsed with label := item.value }
          else parsed
        acceptRecordItems fuel parsed (inner.drop consumed)

/-- `EFDirRecord.UnmarshalBinary`, where an unused record has no AID -/
def unmarshalEFDirRecord (data : Bytes) : Except FileError Application :=
  if trimEFDirPadding data = [] then .ok {}
  else
    match Tlv.consume data with
    | .error _ => .error (.malformed "")
    | .ok (top, consumed) =>
      if top.tag ≠ 0x61 then .error (.malformed "parsing EF_DIR record tag")
      -- Only padding may follow the template.
      else if trimEFDirPadding (data.drop consumed) ≠ [] then .error (.malformed "")
      else
        match acceptRecordItems (top.value.length + 1) {} top.value with
        | .error err => .error err
        | .ok parsed =>
          if parsed.aid = [] then .error (.malformed "parsing EF_DIR record AID") else .ok parsed

end Wwan.Sim
