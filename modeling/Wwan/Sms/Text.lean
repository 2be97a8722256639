import Wwan.Lib.Utf16

/-! The text alphabets of short messages: the GSM 7-bit default alphabet and UTF-16. -/

namespace Wwan.Sms

open Utf16 (ByteOrder)

/-- The errors of the message codecs, with the arguments their texts format. -/
inductive Error where
  /-- An error whose text has no arguments. -/
  | text (message : String)
  /-- `encoding GSM7: character %q is not representable` -/
  | notRepresentable (r : Char)
  /-- `encoding UCS2: character %q is outside UCS2` -/
  | outsideUCS2 (r : Char)
  /-- `decoding GSM7: value %#x is not a septet` -/
  | notASeptet (value : UInt8)
  /-- `decoding SMS PDU: message type %#x is reserved` -/
  | reservedMessageType (messageType : UInt8)
  /-- `decoding SMS PDU: multipart index %d is outside 1..%d` -/
  | multipartIndex (index total : UInt8)
  /-- `decoding SMS PDU address: %w` -/
  | address (cause : Error)
  /-- `decoding SMS timestamp: payload length is %d, want 7` -/
  | timestampLength (length : Nat)
  deriving DecidableEq

/-- The default alphabet, with a zero rune at the escape code. -/
def gsm7DefaultDecode : List Char :=
  ['@', '£', '$', '¥', 'è', 'é', 'ù', 'ì', 'ò', 'Ç', '\n', 'Ø', 'ø', '\r', 'Å', 'å',
   'Δ', '_', 'Φ', 'Γ', 'Λ', 'Ω', 'Π', 'Ψ', 'Σ', 'Θ', 'Ξ', '\x00', 'Æ', 'æ', 'ß', 'É',
   ' ', '!', '\x22', '#', '¤', '%', '&', '\x27', '(', ')', '*', '+', ',', '-', '.', '/',
   '0', '1', '2', '3', '4', '5', '6', '7', '8', '9', ':', ';', '<', '=', '>', '?',
   '¡', 'A', 'B', 'C', 'D', 'E', 'F', 'G', 'H', 'I', 'J', 'K', 'L', 'M', 'N', 'O',
   'P', 'Q', 'R', 'S', 'T', 'U', 'V', 'W', 'X', 'Y', 'Z', 'Ä', 'Ö', 'Ñ', 'Ü', '§',
   '¿', 'a', 'b', 'c', 'd', 'e', 'f', 'g', 'h', 'i', 'j', 'k', 'l', 'm', 'n', 'o',
   'p', 'q', 'r', 's', 't', 'u', 'v', 'w', 'x', 'y', 'z', 'ä', 'ö', 'ñ', 'ü', 'à']

/-- The code of a rune in the default alphabet. -/
def gsm7DefaultEncode (r : Char) : Option UInt8 :=
  -- The reverse table skips the zero rune, and no other rune occurs twice.
  if r = '\x00' then none else (gsm7DefaultDecode.idxOf? r).map UInt8.ofNat

/-- The extension table, reached through the escape code. -/
def gsm7ExtensionTable : List (UInt8 × Char) :=
  [(0x0a, '\x0c'), (0x14, '^'), (0x28, '\x7b'), (0x29, '\x7d'), (0x2f, '\x5c'),
   (0x3c, '['), (0x3d, '~'), (0x3e, ']'), (0x40, '|'), (0x65, '€')]

/-- The rune of an extension code. -/
def gsm7ExtensionDecode (value : UInt8) : Option Char :=
  (gsm7ExtensionTable.find? fun entry => entry.1 == value).map Prod.snd

/-- The extension code of a rune. -/
def gsm7ExtensionEncode (r : Char) : Option UInt8 :=
  (gsm7ExtensionTable.find? fun entry => entry.2 == r).map Prod.fst

/-- The septets of a rune, if either table has it. -/
def encodeGSM7Rune (r : Char) : Option Bytes :=
  match gsm7DefaultEncode r with
  | some value => some [value]
  | none =>
    match gsm7ExtensionEncode r with
    | some value => some [0x1b, value]
    | none => none

namespace GSM7

/-- The loop of `MarshalBinary` over the runes still to encode. -/
def marshalRunes : List Char → Go Error Bytes
  | [] => return []
  | r :: rs => do
    match encodeGSM7Rune r with
    | none => Go.fail (.notRepresentable r)
    | some encoded => return encoded ++ (← marshalRunes rs)

/-- Encode text as unpacked septets of the default alphabet. -/
def marshalBinary (t : GoString) : Go Error Bytes :=
  marshalRunes (Utf8.runes t)

/-- The loop of `UnmarshalBinary`, with whether the previous septet was an escape. -/
def unmarshalSeptets (escaped : Bool) : Bytes → Go Error GoString
  | [] =>
    if escaped then Go.fail (.text "decoding GSM7: trailing escape septet") else return []
  | value :: rest =>
    if value > 0x7f then Go.fail (.notASeptet value)
    else if escaped then do
      -- Undefined extension codes fall back to the default alphabet.
      -- A double escape becomes a space.
      let r ← match gsm7ExtensionDecode value with
        | some r => pure r
        | none => Go.index gsm7DefaultDecode value.toNat
      let r := if value = 0x1b then ' ' else r
      return Utf8.encodeRune r ++ (← unmarshalSeptets false rest)
    else if value = 0x1b then unmarshalSeptets true rest
    else do
      let r ← Go.index gsm7DefaultDecode value.toNat
      return Utf8.encodeRune r ++ (← unmarshalSeptets false rest)

/-- Decode unpacked septets of the default alphabet. -/
def unmarshalBinary (septets : Bytes) : Go Error GoString :=
  unmarshalSeptets false septets

end GSM7

/-- The loop of `marshalUCS2` over the runes still to encode. -/
def marshalUCS2Runes (order : ByteOrder) : List Char → Go Error Bytes
  | [] => return []
  | r :: rs => do
    if r.toNat > 0xffff ∨ 0xd800 ≤ r.toNat ∧ r.toNat ≤ 0xdfff then Go.fail (.outsideUCS2 r)
    else return order.putUint16 (UInt16.ofNat r.toNat) ++ (← marshalUCS2Runes order rs)

/-- Encode text as UCS-2 code units in the given byte order. -/
def marshalUCS2 (value : GoString) (order : ByteOrder) : Go Error Bytes :=
  if !Utf8.validString value then Go.fail (.text "encoding UCS2: value is not valid UTF-8")
  else marshalUCS2Runes order (Utf8.runes value)

/-- The loop of `unmarshalUCS2` over the units still to decode. -/
def unmarshalUCS2Units : List UInt16 → Go Error (List Char)
  | [] => return []
  | unit :: units => do
    if 0xd800 ≤ unit ∧ unit ≤ 0xdfff then
      Go.fail (.text "decoding UCS2: payload contains a surrogate code point")
    else return Char.ofNat unit.toNat :: (← unmarshalUCS2Units units)

/-- Decode UCS-2 code units in the given byte order. -/
def unmarshalUCS2 (data : Bytes) (order : ByteOrder) : Go Error GoString := do
  if data.length % 2 ≠ 0 then Go.fail (.text "decoding UCS2: payload has odd byte length")
  else return Utf8.encodeRunes (← unmarshalUCS2Units (order.units data))

namespace UCS2

/-- Encode text as big-endian UCS-2 code units. -/
def marshalBinary (t : GoString) : Go Error Bytes := marshalUCS2 t .bigEndian

/-- Decode big-endian UCS-2 code units. -/
def unmarshalBinary (data : Bytes) : Go Error GoString := unmarshalUCS2 data .bigEndian

end UCS2

namespace UCS2LE

/-- Encode text as little-endian UCS-2 code units. -/
def marshalBinary (t : GoString) : Go Error Bytes := marshalUCS2 t .littleEndian

/-- Decode little-endian UCS-2 code units. -/
def unmarshalBinary (data : Bytes) : Go Error GoString := unmarshalUCS2 data .littleEndian

end UCS2LE

/-- Encode text as UTF-16 code units in the given byte order. -/
def marshalUTF16 (value : GoString) (order : ByteOrder) : Go Error Bytes :=
  if !Utf8.validString value then Go.fail (.text "encoding UTF16: value is not valid UTF-8")
  else return order.bytes (Utf16.encode (Utf8.runes value))

/-- The loop of `unmarshalUTF16` that rejects unpaired surrogates. -/
def checkSurrogates : List UInt16 → Go Error Unit
  | [] => return ()
  | unit :: rest =>
    if Utf16.isHigh unit then
      match rest with
      | [] => Go.fail (.text "decoding UTF16: payload contains an unpaired high surrogate")
      | next :: rest' =>
        if Utf16.isLow next then checkSurrogates rest'
        else Go.fail (.text "decoding UTF16: payload contains an unpaired high surrogate")
    else if Utf16.isLow unit then
      Go.fail (.text "decoding UTF16: payload contains an unpaired low surrogate")
    else checkSurrogates rest

/-- Decode UTF-16 code units in the given byte order. -/
def unmarshalUTF16 (data : Bytes) (order : ByteOrder) : Go Error GoString := do
  if data.length % 2 ≠ 0 then
    Go.fail (.text "decoding UTF16: payload has odd byte length")
  else
    let units := order.units data
    checkSurrogates units
    return Utf8.encodeRunes (Utf16.decode units)

namespace UTF16

/-- Encode text as big-endian UTF-16 code units. -/
def marshalBinary (t : GoString) : Go Error Bytes := marshalUTF16 t .bigEndian

/-- Decode big-endian UTF-16 code units. -/
def unmarshalBinary (data : Bytes) : Go Error GoString := unmarshalUTF16 data .bigEndian

end UTF16

namespace UTF16LE

/-- Encode text as little-endian UTF-16 code units. -/
def marshalBinary (t : GoString) : Go Error Bytes := marshalUTF16 t .littleEndian

/-- Decode little-endian UTF-16 code units. -/
def unmarshalBinary (data : Bytes) : Go Error GoString := unmarshalUTF16 data .littleEndian

end UTF16LE

end Wwan.Sms
