import Wwan.Sim.StkText

/-! Alpha identifiers, decoded with every index and slice as Go checks it. -/

namespace Wwan.Sim.Stk

/-- Why an alpha identifier cannot be encoded. -/
inductive AlphaError where
  /-- `encoding alpha identifier: %w` -/
  | encoding (cause : TextError)
  deriving DecidableEq

/-- `AlphaIdentifier.MarshalBinary` -/
def AlphaIdentifier.marshalBinary (value : GoString) : Go AlphaError Bytes := do
  if value = [] then return []
  else return 0x80 :: (← (Ucs2Text.marshalBinary value).mapError .encoding)

namespace InRange

/-- The loop of `trimPadding`, which has come down to a length. -/
def trimPaddingTo (data : Bytes) : Nat → Go TextError Bytes
  | 0 => Go.slice data 0 0
  | length + 1 => do
    let current ← Go.slice data 0 (length + 1)
    if (← Go.index current length) = 0xff then trimPaddingTo data length else return current

/-- `trimPadding` -/
def trimPadding (data : Bytes) : Go TextError Bytes := trimPaddingTo data data.length

/-- The loop of `gsmDefaultText.UnmarshalBinary`, from an index on. -/
def gsmRunesFrom (data : Bytes) (i : Nat) : Go TextError (List Char) :=
  if i < data.length then do
    let value ← Go.index data i
    -- An escape and its second half are one character.
    if value = 0x1b then
      if i + 1 ≥ data.length then Go.fail .truncatedEscape
      else
        let code ← Go.index data (i + 1)
        match decodeGSMExtension code with
        | none => Go.fail (.unknownExtension code)
        | some r => return r :: (← gsmRunesFrom data (i + 2))
    else
      match decodeGSMChar value with
      | none => Go.fail (.unknownCharacter value)
      | some r => return r :: (← gsmRunesFrom data (i + 1))
  else return []
termination_by data.length - i

/-- The loop of `ucs2Text.UnmarshalBinary` over its units, from an index on. -/
def ucs2UnitsFrom (data : Bytes) (i : Nat) : Go TextError (List Nat) :=
  if i < data.length then do
    let pair ← Go.slice data i (i + 2)
    let high ← Go.index pair 0
    let low ← Go.index pair 1
    return (high.toNat * 256 + low.toNat) :: (← ucs2UnitsFrom data (i + 2))
  else return []
termination_by data.length - i

/-- The second loop of `ucs2Text.UnmarshalBinary`. -/
def ucs2Runes : List Nat → Go TextError (List Char)
  | [] => return []
  | unit :: units =>
    if 0xd800 ≤ unit ∧ unit ≤ 0xdfff then Go.fail .surrogate
    else do return Char.ofNat unit :: (← ucs2Runes units)

/-- `ucs2Text.UnmarshalBinary` -/
def unmarshalUCS2 (data : Bytes) : Go TextError GoString := do
  if data.length % 2 ≠ 0 then Go.fail .invalidUCS2Length
  else return Utf8.encodeRunes (← ucs2Runes (← ucs2UnitsFrom data 0))

/-- The loop of `decodeAlphaUCS2`, which has come down to a length. -/
def trimUnitsTo (data : Bytes) : Nat → Go TextError Bytes
  | length + 2 => do
    let current ← Go.slice data 0 (length + 2)
    if (← Go.index current length) = 0xff ∧ (← Go.index current (length + 1)) = 0xff then trimUnitsTo data length
    else return current
  | length => Go.slice data 0 length

/-- `decodeAlphaUCS2` -/
def decodeAlphaUCS2 (data : Bytes) : Go TextError GoString := do
  if data.length % 2 ≠ 0 then
    if (← Go.index data (data.length - 1)) ≠ 0xff then Go.fail .invalidUCS2Length
    else unmarshalUCS2 (← trimUnitsTo data (data.length - 1))
  else unmarshalUCS2 (← trimUnitsTo data data.length)

/-- The loop of `decodeCompressedUCS2`, from an index on. -/
def compressedFrom (base : Nat) (payload : Bytes) (i : Nat) : Go TextError (List Char) :=
  if i < payload.length then do
    let b ← Go.index payload i
    -- The byte is an offset from the base.
    if b &&& 0x80 ≠ 0 then
      let codePoint := base + (b &&& 0x7f).toNat
      if codePoint > 0xffff ∨ 0xd800 ≤ codePoint ∧ codePoint ≤ 0xdfff then
        Go.fail (.compressedOutsideUCS2 codePoint)
      else return Char.ofNat codePoint :: (← compressedFrom base payload (i + 1))
    -- The byte is a septet, whose escape needs a septet behind it.
    else if b = 0x1b then
      if i + 1 ≥ payload.length then Go.fail .truncatedAlphaIdentifier
      else
        let code ← Go.index payload (i + 1)
        if code &&& 0x80 ≠ 0 then Go.fail .truncatedAlphaIdentifier
        else
          match decodeGSMExtension code with
          | none => Go.fail (.unknownExtension code)
          | some r => return r :: (← compressedFrom base payload (i + 2))
    else
      match decodeGSMChar b with
      | none => Go.fail (.unknownCharacter b)
      | some r => return r :: (← compressedFrom base payload (i + 1))
  else return []
termination_by payload.length - i

/-- `decodeCompressedUCS2` -/
def decodeCompressedUCS2 (data : Bytes) : Go TextError GoString := do
  let first ← Go.index data 0
  -- The base takes two bytes, or only one.
  let headerLen := if first = 0x82 then 4 else 3
  if data.length < headerLen then Go.fail .truncatedAlphaIdentifier
  else
    let length := (← Go.index data 1).toNat
    if length > data.length - headerLen then Go.fail .truncatedAlphaIdentifier
    else
      let second := (← Go.index data 2).toNat
      let base ←
        if first = 0x82 then do pure (second * 256 + (← Go.index data 3).toNat) else pure (second <<< 7)
      let payload ← Go.slice data headerLen (headerLen + length)
      return Utf8.encodeRunes (← compressedFrom base payload 0)

/-- `decodeAlphaIdentifier`, which `AlphaIdentifier.UnmarshalBinary` calls -/
def decodeAlphaIdentifier (data : Bytes) : Go TextError GoString := do
  if data.length = 0 then return []
  else
    let first ← Go.index data 0
    if first = 0x80 then decodeAlphaUCS2 (← Go.slice data 1 data.length)
    else if first = 0x81 ∨ first = 0x82 then decodeCompressedUCS2 data
    else return Utf8.encodeRunes (← gsmRunesFrom (← trimPadding data) 0)

end InRange

end Wwan.Sim.Stk
