import Mathlib.Data.List.DropRight
import Wwan.At.Csim

/-! The digits a SIM card stores: its own number, its subscriber's and addresses. -/

namespace Wwan.Sim

open GoString (trimSpace)

/-- Why a text is not one of decimal digits. -/
inductive DigitsError where
  /-- `value is too short` -/
  | tooShort
  /-- `value contains non-decimal digits` -/
  | nonDecimal
  deriving DecidableEq

/-- Why digits cannot be encoded or decoded. -/
inductive IdentityError where
  /-- `decoding BCD text: %w`, from `hex.DecodeString` -/
  | bcdText
  /-- `marshaling ICCID: value is too short` -/
  | marshalingICCIDShort
  /-- `marshaling ICCID: %w` -/
  | marshalingICCID (cause : IdentityError)
  /-- `parsing EF_ICCID: value is too short` -/
  | parsingICCIDShort
  /-- `marshaling IMSI: %w`, from the check of the digits -/
  | marshalingIMSIDigits (cause : DigitsError)
  /-- `marshaling IMSI: %w` -/
  | marshalingIMSI (cause : IdentityError)
  /-- `marshaling IMSI: encoded payload exceeds 255 bytes` -/
  | marshalingIMSILong
  /-- `reading EF_IMSI: empty payload` -/
  | readingIMSIEmpty
  /-- `reading EF_IMSI: truncated payload` -/
  | readingIMSITruncated
  /-- `reading EF_IMSI: %w` -/
  | readingIMSI (cause : DigitsError)
  /-- `marshaling address: value is empty` -/
  | marshalingAddressEmpty
  /-- `marshaling address: %w`, from the check of the digits -/
  | marshalingAddressDigits (cause : DigitsError)
  /-- `marshaling address: %w` -/
  | marshalingAddress (cause : IdentityError)
  /-- `parsing address: %w` -/
  | parsingAddress (cause : DigitsError)
  deriving DecidableEq

/-- `validateDigits` -/
def validateDigits (value : GoString) (minLength : Nat) : Except DigitsError Unit :=
  if value.length < minLength then .error .tooShort
  else if (Utf8.runes value).any fun r => r < '0' || r > '9' then .error .nonDecimal
  else .ok ()

namespace BCD

/-- A byte with its nibbles swapped. -/
def swap (b : UInt8) : UInt8 := b >>> 4 ||| b <<< 4

/-- `BCD.UnmarshalText` -/
def unmarshalText (text : GoString) : Go IdentityError Bytes :=
  let value := if text.length % 2 ≠ 0 then text ++ [0x46] else text
  match At.hexDecode value with
  | none => Go.fail .bcdText
  | some data => .ok (data.map swap)

/-- `BCD.String` -/
def string (bcd : Bytes) : GoString := (At.upperHex (bcd.map swap)).rdropWhile (· == 0x46)

end BCD

namespace ICCID

/-- `ICCID.MarshalBinary` -/
def marshalBinary (id : GoString) : Go IdentityError Bytes :=
  if id = [] then Go.fail .marshalingICCIDShort else (BCD.unmarshalText id).mapError .marshalingICCID

/-- `ICCID.UnmarshalBinary` -/
def unmarshalBinary (data : Bytes) : Go IdentityError GoString :=
  let digits := BCD.string data
  if digits = [] then Go.fail .parsingICCIDShort else .ok digits

end ICCID

/-- A subscriber's number. -/
structure IMSI where
  digits : GoString := []
  mcc : GoString := []
  deriving DecidableEq

namespace IMSI

/-- `IMSI.setDigits` -/
def setDigits (digits : GoString) : Go IdentityError IMSI := do
  (Go.ofExcept (validateDigits digits 6)).mapError .readingIMSI
  return { digits, mcc := ← Go.slice digits 0 3 }

/-- `IMSI.MarshalBinary` -/
def marshalBinary (i : IMSI) : Go IdentityError Bytes := do
  (Go.ofExcept (validateDigits i.digits 6)).mapError .marshalingIMSIDigits
  let body ← (BCD.unmarshalText (0x39 :: i.digits)).mapError .marshalingIMSI
  if body.length > 0xFF then Go.fail .marshalingIMSILong
  else return UInt8.ofNat body.length :: body

/-- `IMSI.UnmarshalBinary` -/
def unmarshalBinary (data : Bytes) : Go IdentityError IMSI := do
  if data.length = 0 then Go.fail .readingIMSIEmpty
  else
    let length := (← Go.index data 0).toNat
    if data.length < length + 1 then Go.fail .readingIMSITruncated
    else
      let digits := BCD.string (← Go.slice data 1 (1 + length))
      -- `strings.TrimPrefix` takes one 9 off the front.
      setDigits (if digits.head? = some 0x39 then digits.tail else digits)

end IMSI

namespace Address

/-- The characters that only group the digits of an address. -/
def grouping : List UInt8 := [0x20, 0x2D, 0x28, 0x29]

/-- `Address.MarshalBinary` -/
def marshalBinary (a : GoString) : Go IdentityError Bytes := do
  let value := trimSpace a
  if value = [] then return []
  else
    -- A plus sign makes the number international, and is not one of its digits.
    let international := value.head? = some 0x2B
    let tonNPI : UInt8 := if international then 0x91 else 0x81
    let value := if international then value.tail else value
    let value := value.filter fun c => c ∉ grouping
    if value = [] then Go.fail .marshalingAddressEmpty
    else
      (Go.ofExcept (validateDigits value 1)).mapError .marshalingAddressDigits
      return tonNPI :: (← (BCD.unmarshalText value).mapError .marshalingAddress)

/-- `Address.UnmarshalBinary` -/
def unmarshalBinary (data : Bytes) : Go IdentityError GoString := do
  if data.length = 0 then return []
  else
    let digits := BCD.string (← Go.slice data 1 data.length)
    -- The type octet alone does not make an address.
    (Go.ofExcept (validateDigits digits 0)).mapError .parsingAddress
    if digits = [] then return []
    else if (← Go.index data 0) = 0x91 then return 0x2B :: digits
    else return digits

end Address

end Wwan.Sim
