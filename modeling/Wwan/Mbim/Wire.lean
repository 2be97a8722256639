import Wwan.Lib.Fields
import Wwan.Mbim.Protocol

/-! Strings on the wire, and values that offset and size fields refer to. -/

namespace Wwan.Mbim

open Utf16.ByteOrder (littleEndian)

/-- The UTF-16 bytes of a string. -/
def utf16Bytes (s : GoString) : Bytes :=
  littleEndian.bytes (Utf16.encode (Utf8.runes s))

/-- The string of UTF-16 bytes. -/
def utf16RawString (raw : Bytes) : Go Error GoString := do
  Go.failIf (raw.length % 2 ≠ 0) (.format "UTF-16 string has odd byte length" [])
  return Utf8.encodeRunes (Utf16.decode (littleEndian.units raw))

/-- The next multiple of four. -/
def align4 (n : Nat) : Nat := (n + 3) / 4 * 4

/-- Zeros up to a multiple of four bytes. -/
def padTo4Bytes (data : Bytes) : Bytes :=
  data ++ List.replicate (align4 data.length - data.length) 0

/-- The conversion `uint32(len(data))`, which wraps. -/
def uint32Length (data : Bytes) : UInt32 := UInt32.ofNat data.length

/-- An offset with a size. -/
structure ValueRef where
  offset : UInt32
  size : UInt32
  deriving DecidableEq

/-- Read an offset and a size. -/
def readOffsetSizeRef (data : Bytes) (fieldOffset : UInt32) : Go Error ValueRef := do
  Go.failIf (fieldOffset > uint32Length data ∨ 8 > uint32Length data - fieldOffset)
    (.format "reference is truncated" [])
  let offset ← LittleEndian.getUint32 (← Go.slice data fieldOffset.toNat (fieldOffset + 4).toNat)
  let size ← LittleEndian.getUint32 (← Go.slice data (fieldOffset + 4).toNat (fieldOffset + 8).toNat)
  return { offset, size }

/-- A reference points into the buffer, or to nothing. -/
def ValueRef.validate (r : ValueRef) (base : Bytes) : Go Error Unit :=
  if r.offset = 0 then Go.failIf (r.size ≠ 0) (.format "reference has zero offset with nonzero size" [])
  else Go.failIf (r.offset > uint32Length base ∨ r.size > uint32Length base - r.offset)
    (.format "value is truncated" [])

/-- The bytes that a reference points to. -/
def ValueRef.bytes (r : ValueRef) (base : Bytes) : Go Error Bytes :=
  if r.offset = 0 ∧ r.size = 0 then return []
  else Go.slice base r.offset.toNat (r.offset + r.size).toNat

/-- A reference points behind the fixed part, at a multiple of four. -/
def ValueRef.validateDataBuffer (r : ValueRef) (base : Bytes) (dataStart : UInt32) : Go Error Unit := do
  r.validate base
  Go.failIf (r.size ≠ 0 ∧ r.offset < dataStart) (.format "value points before data buffer" [])
  Go.failIf (r.offset % 4 ≠ 0) (.format "value offset is not 4-byte aligned" [])

/-- The end of a value together with its padding. -/
def paddedEnd (payloadEnd : Nat) : Nat :=
  let remainder := payloadEnd % 4
  if remainder ≠ 0 then payloadEnd + (4 - remainder) else payloadEnd

/-- The loop over references, with the end of the values so far and the place of the next. -/
def dataBufferLoop (base : Bytes) (dataStart : UInt32) : Nat → List ValueRef → Nat × Nat → Go Error (Nat × Nat)
  | _, [], ends => .ok ends
  | i, ref :: refs, ends => do
    Go.mapError (.wrap "reference %d" [i]) (ref.validateDataBuffer base dataStart)
    -- An absent value has no place.
    if ref.size = 0 then dataBufferLoop base dataStart (i + 1) refs ends
    else do
      let offset := ref.offset.toNat
      -- Every value follows the padding of the one before.
      Go.failIf (offset < ends.2) (.format "reference %d overlaps or precedes an earlier value" [i])
      Go.failIf (offset ≠ ends.2) (.format "reference %d leaves a sparse data buffer" [i])
      let payloadEnd := offset + ref.size.toNat
      dataBufferLoop base dataStart (i + 1) refs (payloadEnd, paddedEnd payloadEnd)

/-- Where the values end, without and with the padding of the last. -/
def dataBufferEnds (base : Bytes) (dataStart : UInt32) (refs : List ValueRef) : Go Error (Nat × Nat) := do
  Go.failIf (dataStart.toNat > base.length) (.format "data buffer starts beyond payload" [])
  dataBufferLoop base dataStart 0 refs (dataStart.toNat, dataStart.toNat)

/-- The values fill the buffer behind the fixed part. -/
def validateDataBufferRefs (base : Bytes) (dataStart : UInt32) (refs : List ValueRef) : Go Error Unit := do
  let ends ← dataBufferEnds base dataStart refs
  Go.failIf (ends.2 > base.length) (.format "data buffer padding is truncated" [])
  Go.failIf (ends.2 < base.length) (.format "data buffer has trailing data" [])

/-- The values fill the record, whose size may leave out the padding of the last. -/
def validateRecordDataBufferRefs (base : Bytes) (dataStart : UInt32) (refs : List ValueRef) : Go Error Unit := do
  let ends ← dataBufferEnds base dataStart refs
  if base.length = ends.1 ∨ base.length = ends.2 then return ()
  else do
    Go.failIf (base.length < ends.2) (.format "data buffer padding is truncated" [])
    Go.fail (.format "data buffer has trailing data" [])

/-- Store an offset and a size in the fields reserved for them. -/
def storeRef (data : Bytes) (fieldOffset : Nat) (offset size : UInt32) : Bytes :=
  LittleEndian.storeUint32 (LittleEndian.storeUint32 data fieldOffset offset) (fieldOffset + 4) size

/-- The loop over elements, which are appended and entered in the table. -/
def appendElements (tableOffset : Nat) : Nat → List Bytes → Bytes → Bytes
  | _, [], data => data
  | i, element :: elements, data =>
    let entryOffset := tableOffset + i * 8
    let entered := if element.length ≠ 0
      then storeRef data entryOffset (uint32Length data) (uint32Length element) else data
    appendElements tableOffset (i + 1) elements (padTo4Bytes (entered ++ element))

/-- Elements behind a header and the table of their offsets and sizes. -/
def appendOffsetSizeElements (header : Bytes) (elements : List Bytes) : Bytes :=
  appendElements header.length 0 elements (header ++ List.replicate (elements.length * 8) 0)

/-- The references of a table, whose values fill the buffer behind it. -/
def offsetSizeRefs (data : Bytes) (tableOffset count : UInt32) : Go Error (List ValueRef) := do
  Go.failIf (tableOffset > uint32Length data ∨ count > (uint32Length data - tableOffset) / 8)
    (.format "reference table is truncated" [])
  let dataStart := tableOffset + count * 8
  let refs ← (List.range count.toNat).mapM fun i =>
    Go.mapError (.wrap "reference %d" [i]) (readOffsetSizeRef data (tableOffset + UInt32.ofNat i * 8))
  validateDataBufferRefs data dataStart refs
  return refs

/-- Append a value that is not empty, and enter it in its fields. -/
def appendRefValue (data : Bytes) (fieldOffset : Nat) (value : Bytes) : Bytes :=
  if value.length = 0 then data
  else padTo4Bytes (storeRef data fieldOffset (uint32Length data) (uint32Length value) ++ value)

/-- The loop over strings, with the end of the last one and whether there was one. -/
def validateUTF16Loop (base : Bytes) : UInt32 → Bool → List ValueRef → Go Error Unit
  | _, _, [] => .ok ()
  | previousEnd, sawString, ref :: refs => do
    ref.validate base
    Go.failIf (ref.size % 2 ≠ 0) (.format "UTF-16 string has odd byte length" [])
    if ref.offset = 0 then validateUTF16Loop base previousEnd sawString refs
    else do
      Go.failIf (sawString ∧ ref.offset < previousEnd) (.format "string buffers overlap or are out of order" [])
      validateUTF16Loop base (ref.offset + ref.size) true refs

/-- Strings are made of whole code units and in order. -/
def validateUTF16Refs (base : Bytes) (refs : List ValueRef) : Go Error Unit :=
  validateUTF16Loop base 0 false refs

/-- The string that a reference points to. -/
def utf16String (data : Bytes) (ref : ValueRef) : Go Error GoString := do
  ref.validate data
  if ref.size = 0 then return []
  else do
    let raw ← Go.slice data ref.offset.toNat (ref.offset + ref.size).toNat
    utf16RawString raw

end Wwan.Mbim
