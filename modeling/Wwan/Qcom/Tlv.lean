import Wwan.Lib.Fields
import Wwan.Lib.Reader
import Wwan.Lib.Sequence

/-! Type-length-value lists of the modem interface, parsed from byte strings and from streams. -/

namespace Wwan.Qcom

open Utf16.ByteOrder (littleEndian)

/-- The errors of messages and their elements. -/
inductive MessageError where
  /-- A formatted text with its numeric arguments. -/
  | format (text : String) (args : List Nat)
  /-- An error wrapped with `%w` behind a context. -/
  | wrap (context : String) (cause : MessageError)
  /-- The stream ended. -/
  | read (error : ReadError)
  deriving DecidableEq

/-- A type with its value, and the length that its header gives. -/
structure TLV where
  type : UInt8
  len : UInt16
  value : Bytes
  deriving DecidableEq

namespace TLV

/-- The function `tlv.Bytes`, whose length field wraps. -/
def bytes (typ : UInt8) (value : Bytes) : TLV :=
  { type := typ, len := UInt16.ofNat value.length, value := value }

/-- The widths of unsigned values. -/
inductive UintValue where
  | uint8 (value : UInt8)
  | uint16 (value : UInt16)
  | uint32 (value : UInt32)
  deriving DecidableEq

/-- The little-endian bytes of an unsigned value. -/
def UintValue.bytes : UintValue → Bytes
  | .uint8 value => [value]
  | .uint16 value => littleEndian.putUint16 value
  | .uint32 value => LittleEndian.putUint32 value

/-- The function `tlv.Uint`. -/
def uint (typ : UInt8) (value : UintValue) : TLV :=
  { type := typ, len := UInt16.ofNat value.bytes.length, value := value.bytes }

/-- Write one element, whose header gives the true length. -/
def marshalItem (_before : List TLV) (t : TLV) : Go MessageError Bytes := do
  Go.failIf (t.len.toNat ≠ t.value.length)
    (.format "TLV type 0x%02X length mismatch: header %d, value %d" [t.type.toNat, t.len.toNat, t.value.length])
  return t.type :: littleEndian.putUint16 t.len ++ t.value

/-- Parse the element in front of a byte string. -/
def unmarshalItem (_items : List TLV) (data : Bytes) : Go MessageError (TLV × Nat) := do
  Go.failIf (data.length < 3) (.format "truncated TLV header" [])
  let length := (← littleEndian.getUint16 (← Go.slice data 1 3)).toNat
  Go.failIf (data.length < 3 + length) (.format "truncated TLV value" [])
  let typ ← Go.index data 0
  let value ← Go.slice data 3 (3 + length)
  return ({ type := typ, len := UInt16.ofNat length, value := value }, 3 + length)

end TLV

namespace TLVs

/-- The first element of a type. -/
def find (ts : List TLV) (t : UInt8) : Option TLV := ts.find? fun item => item.type = t

/-- The function `tlv.Value`. -/
def value (ts : List TLV) (typ : UInt8) : Option Bytes := (find ts typ).map TLV.value

/-- Encode a list of elements. -/
def marshalBinary (ts : List TLV) : Go MessageError Bytes :=
  Sequence.write TLV.marshalItem [] ts

/-- Parse a list of elements. -/
def unmarshalBinary (data : Bytes) : Go MessageError (List TLV) :=
  Sequence.readAll TLV.unmarshalItem data

/-- Read bytes of a stream, with the end of the stream as an error behind a context. -/
def readField (context : String) (r : Reader) (n : Nat) : Go MessageError (Bytes × Reader) :=
  Go.mapError (fun error => .wrap context (.read error)) (Go.ofExcept (r.readFull n))

/-- Read one element of a stream, or find that the stream has ended. -/
def readItem (r : Reader) : Go MessageError (Option (TLV × Reader)) :=
  -- The stream may only end between elements.
  if r.readFull 1 = .error .eof then return none
  else do
    let typ ← readField "read TLV type" r 1
    let t ← Go.index typ.1 0
    let length ← readField "read TLV length" typ.2 2
    let n ← littleEndian.getUint16 length.1
    let value ← readField "read TLV value" length.2 n.toNat
    return some ({ type := t, len := n, value := value.1 }, value.2)

/-- The loop of the stream reader, with the elements and the byte count so far. -/
def readItems : Nat → List TLV → Nat → Reader → Go MessageError (List TLV × Nat)
  -- A loop that outlives one iteration per byte would make no progress, which counts as a panic.
  | 0, _, _, _ => .error .outOfRange
  | rounds + 1, items, read, r => do
    match ← readItem r with
    | none => return (items, read)
    | some (item, r) => readItems rounds (items ++ [item]) (read + 3 + item.value.length) r

/-- Parse a list of elements from a stream to its end, and count the bytes. -/
def readFrom (r : Reader) : Go MessageError (List TLV × Nat) :=
  readItems (r.bytes.length + 1) [] 0 r

end TLVs

end Wwan.Qcom
