import Wwan.Lib.Call
import Wwan.Sim.SimFile

/-! The codecs of EF_DIR records and file control information, with every index and slice as Go checks it and with the
receiver that a decoder assigns to. -/

namespace Wwan.Sim

/-- Why the content of a file cannot be encoded. -/
inductive FileMarshalError where
  /-- `marshaling EF_DIR record: AID is empty` -/
  | emptyAID
  /-- `marshaling FCI: missing file descriptor` -/
  | missingDescriptor
  /-- The error of `Items.MarshalBinary`. -/
  | items (cause : Tlv.Error)
  deriving DecidableEq

/-- `EFDirRecord.MarshalBinary` -/
def Application.marshalBinary (rec : Application) : Go FileMarshalError Bytes := do
  if rec.aid.length = 0 then Go.fail .emptyAID
  else
    let inner : List Tlv.Item := [{ tag := 0x4F, value := rec.aid }]
    let inner := if rec.label ≠ [] then inner ++ [{ tag := 0x50, value := rec.label }] else inner
    let value ← (Tlv.marshalBinary inner).mapError .items
    (Tlv.marshalBinary [{ tag := 0x61, value }]).mapError .items

/-- `binary.BigEndian.PutUint16` -/
def putUint16 (value : UInt16) : Bytes := [UInt8.ofNat (value.toNat / 256), UInt8.ofNat value.toNat]

/-- `FCI.MarshalBinary` -/
def FCI.marshalBinary (f : FCI) : Go FileMarshalError Bytes := do
  if f.fileStructure = 0 ∨ f.fileType = 0 then Go.fail .missingDescriptor
  else
    let descriptor :=
      -- Only files with records have the longer descriptor.
      if f.recordSize ≠ 0 ∨ f.recordCount ≠ 0 then
        [f.fileStructure, f.fileType] ++ putUint16 f.recordSize ++ [f.recordCount]
      else [f.fileStructure, f.fileType]
    let inner : List Tlv.Item := [{ tag := 0x82, value := descriptor }]
    let inner := if f.fileSize ≠ 0 then inner ++ [{ tag := 0x80, value := putUint16 f.fileSize }] else inner
    let value ← (Tlv.marshalBinary inner).mapError .items
    (Tlv.marshalBinary [{ tag := 0x62, value }]).mapError .items

namespace InRange

/-- `malformedTLV`, with what was being parsed in front of it -/
def malformedTLV {α : Type} (what : String) (call : Go Tlv.Error α) : Go FileError α :=
  -- The decoders of items return no other error.
  call.mapError fun _ => .malformed what

/-- The loop of `trimEFDirPadding`, which has come down to a length. -/
def trimEFDirPaddingTo (data : Bytes) : Nat → Go FileError Bytes
  | 0 => Go.slice data 0 0
  | length + 1 => do
    let current ← Go.slice data 0 (length + 1)
    if (← Go.index current length) = 0xFF then trimEFDirPaddingTo data length else return current

/-- `trimEFDirPadding` -/
def trimEFDirPadding (data : Bytes) : Go FileError Bytes := trimEFDirPaddingTo data data.length

/-- The loop of `EFDirRecord.UnmarshalBinary` over the items of a record. -/
def acceptRecordItems (parsed : Application) (inner : Bytes) : Go FileError Application := do
  if (← trimEFDirPadding inner).length = 0 then return parsed
  else
    match _ran : malformedTLV "" (Tlv.InRange.consume inner) with
    | .error fault => .error fault
    | .ok (item, consumed) =>
      let parsed :=
        if item.tag = 0x4F then { parsed with aid := item.value }
        else if item.tag = 0x50 then { parsed with label := item.value }
        else parsed
      match _sliced : (Go.slice inner consumed inner.length : Go FileError Bytes) with
      | .error fault => .error fault
      | .ok rest => acceptRecordItems parsed rest
termination_by inner.length
decreasing_by
  -- Every item takes bytes, so that fewer are left.
  rw [malformedTLV, Go.mapError_eq_ok, Tlv.InRange.consume_eq, Go.ofExcept_eq_ok] at _ran
  have taken := Tlv.consume_pos _ran
  unfold Go.slice at _sliced
  split at _sliced
  · cases _sliced
    simp only [List.length_take, List.length_drop]
    omega
  · cases _sliced

/-- What `FCI.UnmarshalBinary` does with one of the children. -/
def acceptChild (parsed : FCI) (haveDescriptor : Bool) (item : Tlv.Item) : Go FileError (FCI × Bool) := do
  if item.tag = 0x82 then
    -- A file without records.
    if item.value.length = 2 then
      return ({ parsed with fileStructure := ← Go.index item.value 0, fileType := ← Go.index item.value 1 }, true)
    -- A file with records.
    else if item.value.length = 5 then
      let fileStructure ← Go.index item.value 0
      let fileType ← Go.index item.value 1
      let size ← Go.slice item.value 2 4
      let recordSize := bigEndianUint16 (← Go.index size 0) (← Go.index size 1)
      return ({ parsed with fileStructure, fileType, recordSize, recordCount := ← Go.index item.value 4 }, true)
    else Go.fail .descriptorLength
  else if item.tag = 0x80 then
    if item.value.length ≠ 2 then Go.fail .lengthEncoding
    else
      let fileSize := bigEndianUint16 (← Go.index item.value 0) (← Go.index item.value 1)
      return ({ parsed with fileSize }, haveDescriptor)
  else return (parsed, haveDescriptor)

/-- The loop of `FCI.UnmarshalBinary` over the children. -/
def acceptChildren (parsed : FCI) (haveDescriptor : Bool) : List Tlv.Item → Go FileError (FCI × Bool)
  | [] => return (parsed, haveDescriptor)
  | item :: items => do
    let (parsed, haveDescriptor) ← acceptChild parsed haveDescriptor item
    acceptChildren parsed haveDescriptor items

end InRange

/-- A call that has no receiver, made by one that has. -/
def receive {σ ε α : Type} (call : Go ε α) : Call σ (Fault ε) α :=
  match call with
  | .ok value => pure value
  | .error fault => throw fault

/-- `EFDirRecord.UnmarshalBinary`, which assigns to the record that it is called on -/
def EFDirRecord.unmarshalBinary (data : Bytes) : Call Application (Fault FileError) Unit := do
  -- An unused record is empty.
  if (← receive (InRange.trimEFDirPadding data)).length = 0 then set ({} : Application)
  else
    let (top, consumed) ← receive (InRange.malformedTLV "" (Tlv.InRange.consume data))
    if top.tag ≠ 0x61 then throw (.err (.malformed "parsing EF_DIR record tag"))
    else
      let rest ← receive (Go.slice data consumed data.length)
      -- Only padding may follow the template.
      if (← receive (InRange.trimEFDirPadding rest)).length ≠ 0 then throw (.err (.malformed ""))
      else
        let parsed ← receive (InRange.acceptRecordItems {} top.value)
        if parsed.aid.length = 0 then throw (.err (.malformed "parsing EF_DIR record AID")) else set parsed

/-- `FCI.UnmarshalBinary`, which assigns to the information that it is called on -/
def InRange.unmarshalFCI (data : Bytes) : Call FCI (Fault FileError) Unit := do
  let top ← receive (InRange.malformedTLV "" (Tlv.InRange.unmarshalBinary data))
  if top.length ≠ 1 then throw (.err (.malformed "parsing FCI"))
  else
    let first ← receive (Go.index top 0)
    if first.tag ≠ 0x62 then throw (.err (.malformed "parsing FCI"))
    else
      let inner ← receive (InRange.malformedTLV "parsing FCI children" (Tlv.InRange.unmarshalBinary first.value))
      let (parsed, haveDescriptor) ← receive (InRange.acceptChildren {} false inner)
      if !haveDescriptor then throw (.err .missingDescriptor) else set parsed

end Wwan.Sim
