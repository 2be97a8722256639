import Wwan.Lib.BitStream
import Wwan.Lib.Utf8

/-! The text strings and alpha identifiers of toolkit commands. -/

namespace Wwan.Sim.Stk

/-- The errors of the text codecs, with the arguments their texts format. -/
inductive TextError where
  /-- `alpha identifier is truncated` -/
  | truncatedAlphaIdentifier
  /-- `UCS2 payload has an odd length` -/
  | invalidUCS2Length
  /-- `UCS2 payload contains a surrogate code point` -/
  | surrogate
  /-- `compressed UCS2 code point U+%04X is outside UCS2` -/
  | compressedOutsideUCS2 (codePoint : Nat)
  /-- `GSM extension escape is truncated` -/
  | truncatedEscape
  /-- `unknown GSM extension code 0x%02X` -/
  | unknownExtension (code : UInt8)
  /-- `unknown GSM character code 0x%02X` -/
  | unknownCharacter (code : UInt8)
  /-- `decoding packed GSM text: unknown extension code 0x%02X`, under the same prefix once more -/
  | packedExtension (code : UInt8)
  /-- `decoding packed GSM text: unknown character code 0x%02X`, under the same prefix once more -/
  | packedCharacter (code : UInt8)
  /-- `unsupported data coding scheme 0x%02X` -/
  | unsupportedDCS (dcs : UInt8)
  /-- `encoding packed GSM text: encoding packed GSM text: character %q is not in the GSM default alphabet` -/
  | packedNotInAlphabet (r : Char)
  /-- `encoding GSM text: character %q is not in the GSM default alphabet` -/
  | notInAlphabet (r : Char)
  /-- `encoding UCS2 text: encoding UCS2 text: value is not valid UTF-8` -/
  | notUTF8
  /-- `encoding UCS2 text: character %q is outside UCS2` -/
  | outsideUCS2 (r : Char)
  deriving DecidableEq

/-- The codes of the default alphabet that are not those of ASCII. -/
def gsm7Table : List (UInt8 × Char) :=
  [(0x00, '@'), (0x01, '£'), (0x02, '$'), (0x03, '¥'), (0x04, 'è'), (0x05, 'é'), (0x06, 'ù'), (0x07, 'ì'),
   (0x08, 'ò'), (0x09, 'Ç'), (0x0a, '\n'), (0x0b, 'Ø'), (0x0c, 'ø'), (0x0d, '\r'), (0x0e, 'Å'), (0x0f, 'å'),
   (0x10, 'Δ'), (0x11, '_'), (0x12, 'Φ'), (0x13, 'Γ'), (0x14, 'Λ'), (0x15, 'Ω'), (0x16, 'Π'), (0x17, 'Ψ'),
   (0x18, 'Σ'), (0x19, 'Θ'), (0x1a, 'Ξ'), (0x1c, 'Æ'), (0x1d, 'æ'), (0x1e, 'ß'), (0x1f, 'É'), (0x24, '¤'),
   (0x40, '¡'), (0x5b, 'Ä'), (0x5c, 'Ö'), (0x5d, 'Ñ'), (0x5e, 'Ü'), (0x5f, '§'), (0x60, '¿'), (0x7b, 'ä'),
   (0x7c, 'ö'), (0x7d, 'ñ'), (0x7e, 'ü'), (0x7f, 'à')]

/-- The codes behind an escape. -/
def gsm7ExtensionTable : List (UInt8 × Char) :=
  [(0x0a, '\x0c'), (0x14, '^'), (0x28, '\x7b'), (0x29, '\x7d'), (0x2f, '\x5c'),
   (0x3c, '['), (0x3d, '~'), (0x3e, ']'), (0x40, '|'), (0x65, '€')]

/-- Whether a number is both a code of the default alphabet and the ASCII code of the same character. -/
def sharedWithASCII (code : Nat) : Bool :=
  (0x20 ≤ code ∧ code ≤ 0x3f) ∨ (0x41 ≤ code ∧ code ≤ 0x5a) ∨ (0x61 ≤ code ∧ code ≤ 0x7a)

/-- The character of a code, with a question mark for those that have none. -/
def gsm7Char (v : UInt8) : Char :=
  match gsm7Table.find? fun entry => entry.1 == v with
  | some (_, r) => r
  | none => if sharedWithASCII v.toNat then Char.ofNat v.toNat else '?'

/-- The character of a code behind an escape. -/
def gsm7ExtensionChar (v : UInt8) : Char :=
  match gsm7ExtensionTable.find? fun entry => entry.1 == v with
  | some (_, r) => r
  | none => '?'

/-- The septets of a character, those of a question mark for one that has none. -/
def gsm7Septets (r : Char) : Bytes :=
  match gsm7Table.find? fun entry => entry.2 == r with
  | some (code, _) => [code]
  | none =>
    match gsm7ExtensionTable.find? fun entry => entry.2 == r with
    | some (code, _) => [0x1b, code]
    | none => if sharedWithASCII r.toNat then [UInt8.ofNat r.toNat] else [UInt8.ofNat '?'.toNat]

/-- The septets of a character of the alphabet. -/
def gsm7SeptetsForRune (r : Char) : Option Bytes :=
  match gsm7Septets r with
  | [code] => if gsm7Char code = r then some [code] else none
  | [escape, code] => if escape = 0x1b ∧ gsm7ExtensionChar code = r then some [escape, code] else none
  | _ => none

/-- `decodeGSMChar` -/
def decodeGSMChar (value : UInt8) : Option Char :=
  let r := gsm7Char value
  if r ≠ '?' ∨ value = UInt8.ofNat '?'.toNat then some r else none

/-- `decodeGSMExtension` -/
def decodeGSMExtension (value : UInt8) : Option Char :=
  let r := gsm7ExtensionChar value
  if r ≠ '?' then some r else none

namespace Gsm7Text

/-- The septets of packed bytes, with the bits carried over from the byte before. -/
def unpack (carry : UInt8) (carryBits : Nat) : Bytes → Bytes
  | [] => []
  | b :: rest =>
    let septet := ((b <<< UInt8.ofNat carryBits) &&& 0x7f) ||| carry
    let carry := b >>> UInt8.ofNat (7 - carryBits)
    -- Seven carried bits are a septet of their own.
    if carryBits + 1 = 7 then septet :: (carry &&& 0x7f) :: unpack 0 0 rest
    else septet :: unpack carry (carryBits + 1) rest

/-- The runes of septets. -/
def decode : Bytes → Go TextError (List Char)
  | [] => return []
  | septet :: rest =>
    if septet = 0x1B then
      match rest with
      -- An escape at the end is shown as a question mark.
      | [] => return ['?']
      | code :: rest =>
        match decodeGSMExtension code with
        | none => Go.fail (.packedExtension code)
        | some r => return r :: (← decode rest)
    else
      match decodeGSMChar septet with
      | none => Go.fail (.packedCharacter septet)
      | some r => return r :: (← decode rest)

/-- Decode packed septets. -/
def unmarshalBinary (data : Bytes) : Go TextError GoString := do
  if data = [] then return []
  else return Utf8.encodeRunes (← decode (unpack 0 0 data))

/-- The septets of runes. -/
def encode : List Char → Go TextError Bytes
  | [] => return []
  | r :: rs =>
    match gsm7SeptetsForRune r with
    | none => Go.fail (.packedNotInAlphabet r)
    | some encoded => return encoded ++ (← encode rs)

/-- Set the bits of septets, from an offset on. -/
def pack (out : Bytes) (bit : Nat) : Bytes → Go TextError Bytes
  | [] => return out
  | septet :: septets => do
    let out ← (List.range 7).foldlM (fun out i =>
      if septet.toNat.testBit i then BitStream.setBit out (bit + i) else return out) out
    pack out (bit + 7) septets

/-- Encode text as packed septets. -/
def marshalBinary (value : GoString) : Go TextError Bytes := do
  if value = [] then return []
  else
    let septets ← encode (Utf8.runes value)
    pack (List.replicate ((septets.length * 7 + 7) / 8) 0) 0 septets

end Gsm7Text

namespace GsmDefaultText

/-- The runes of unpacked codes. -/
def decode : Bytes → Go TextError (List Char)
  | [] => return []
  | value :: rest =>
    if value = 0x1b then
      match rest with
      | [] => Go.fail .truncatedEscape
      | code :: rest =>
        match decodeGSMExtension code with
        | none => Go.fail (.unknownExtension code)
        | some r => return r :: (← decode rest)
    else
      match decodeGSMChar value with
      | none => Go.fail (.unknownCharacter value)
      | some r => return r :: (← decode rest)

/-- Decode unpacked codes. -/
def unmarshalBinary (data : Bytes) : Go TextError GoString := do
  return Utf8.encodeRunes (← decode data)

/-- The codes of runes. -/
def encode : List Char → Go TextError Bytes
  | [] => return []
  | r :: rs =>
    match gsm7SeptetsForRune r with
    | none => Go.fail (.notInAlphabet r)
    | some septets => return septets ++ (← encode rs)

/-- Encode text as unpacked codes. -/
def marshalBinary (value : GoString) : Go TextError Bytes := encode (Utf8.runes value)

end GsmDefaultText

namespace Ucs2Text

/-- The runes of big-endian units. -/
def decode : Bytes → Go TextError (List Char)
  | high :: low :: rest => do
    let unit := high.toNat * 256 + low.toNat
    if 0xd800 ≤ unit ∧ unit ≤ 0xdfff then Go.fail .surrogate
    else return Char.ofNat unit :: (← decode rest)
  | _ => return []

/-- Decode big-endian units. -/
def unmarshalBinary (data : Bytes) : Go TextError GoString := do
  if data.length % 2 ≠ 0 then Go.fail .invalidUCS2Length
  else return Utf8.encodeRunes (← decode data)

/-- The big-endian units of runes. -/
def encode : List Char → Go TextError Bytes
  | [] => return []
  | r :: rs => do
    -- No rune of a valid string is a surrogate.
    if r.toNat > 0xffff then Go.fail (.outsideUCS2 r)
    else return UInt8.ofNat (r.toNat / 256) :: UInt8.ofNat r.toNat :: (← encode rs)

/-- Encode text as big-endian units. -/
def marshalBinary (value : GoString) : Go TextError Bytes := do
  if !Utf8.validString value then Go.fail .notUTF8
  else encode (Utf8.runes value)

end Ucs2Text

/-- The bytes before the padding. -/
def trimPadding (data : Bytes) : Bytes := (data.reverse.dropWhile (· = 0xff)).reverse

/-- The units before the padding, for units in reverse. -/
def trimUnits : Bytes → Bytes
  | low :: high :: rest => if high = 0xff ∧ low = 0xff then trimUnits rest else low :: high :: rest
  | rest => rest

/-- `decodeAlphaUCS2` -/
def decodeAlphaUCS2 (data : Bytes) : Go TextError GoString := do
  let data ←
    if data.length % 2 ≠ 0 then
      if data.getLast? ≠ some 0xff then Go.fail .invalidUCS2Length else pure data.dropLast
    else pure data
  Ucs2Text.unmarshalBinary (trimUnits data.reverse).reverse

/-- The runes of a payload compressed over a base. -/
def decodeCompressed (base : Nat) : Bytes → Go TextError (List Char)
  | [] => return []
  | b :: rest =>
    if b &&& 0x80 ≠ 0 then do
      let codePoint := base + (b &&& 0x7f).toNat
      if codePoint > 0xffff ∨ 0xd800 ≤ codePoint ∧ codePoint ≤ 0xdfff then
        Go.fail (.compressedOutsideUCS2 codePoint)
      else return Char.ofNat codePoint :: (← decodeCompressed base rest)
    else if b = 0x1b then
      match rest with
      | [] => Go.fail .truncatedAlphaIdentifier
      | code :: rest =>
        if code &&& 0x80 ≠ 0 then Go.fail .truncatedAlphaIdentifier
        else
          match decodeGSMExtension code with
          | none => Go.fail (.unknownExtension code)
          | some r => return r :: (← decodeCompressed base rest)
    else
      match decodeGSMChar b with
      | none => Go.fail (.unknownCharacter b)
      | some r => return r :: (← decodeCompressed base rest)

/-- `decodeCompressedUCS2`, for data that starts with 0x81 or 0x82 -/
def decodeCompressedUCS2 (data : Bytes) : Go TextError GoString := do
  let first ← Go.index data 0
  let headerLen := if first = 0x82 then 4 else 3
  if data.length < headerLen then Go.fail .truncatedAlphaIdentifier
  else
    let length := (← Go.index data 1).toNat
    if length > data.length - headerLen then Go.fail .truncatedAlphaIdentifier
    else
      let second := (← Go.index data 2).toNat
      let base ←
        if first = 0x82 then do pure (second * 256 + (← Go.index data 3).toNat) else pure (second <<< 7)
      let payload ← Go.slice data headerLen (headerLen + length)
      return Utf8.encodeRunes (← decodeCompressed base payload)

/-- `decodeAlphaIdentifier`, which `AlphaIdentifier.UnmarshalBinary` calls -/
def decodeAlphaIdentifier : Bytes → Go TextError GoString
  | [] => return []
  | first :: rest =>
    if first = 0x80 then decodeAlphaUCS2 rest
    else if first = 0x81 ∨ first = 0x82 then decodeCompressedUCS2 (first :: rest)
    else GsmDefaultText.unmarshalBinary (trimPadding (first :: rest))

/-- A text with its data coding scheme. -/
structure TextString where
  dcs : UInt8 := 0
  value : GoString := []
  deriving DecidableEq

/-- The data coding schemes that are supported. -/
def dcsGSM7Packed : UInt8 := 0x00
/-- Unpacked codes of the default alphabet. -/
def dcsGSM8Unpacked : UInt8 := 0x04
/-- Big-endian units. -/
def dcsUCS2 : UInt8 := 0x08

/-- `decodeTextString` -/
def decodeTextString (dcs : UInt8) (data : Bytes) : Go TextError GoString :=
  if dcs = dcsGSM7Packed then Gsm7Text.unmarshalBinary data
  else if dcs = dcsGSM8Unpacked then GsmDefaultText.unmarshalBinary data
  else if dcs = dcsUCS2 then Ucs2Text.unmarshalBinary data
  else Go.fail (.unsupportedDCS dcs)

namespace TextString

/-- `TextString.UnmarshalBinary` -/
def unmarshalBinary : Bytes → Go TextError TextString
  | [] => return {}
  | dcs :: data => return { dcs, value := ← decodeTextString dcs data }

/-- `TextString.MarshalBinary` -/
def marshalBinary (t : TextString) : Go TextError Bytes := do
  let raw ←
    if t.value = [] then pure []
    else if t.dcs = dcsGSM7Packed then Gsm7Text.marshalBinary t.value
    else if t.dcs = dcsGSM8Unpacked then GsmDefaultText.marshalBinary t.value
    else if t.dcs = dcsUCS2 then Ucs2Text.marshalBinary t.value
    else Go.fail (.unsupportedDCS t.dcs)
  if raw = [] ∧ t.value = [] ∧ t.dcs = 0 then return []
  else return t.dcs :: raw

end TextString

end Wwan.Sim.Stk
