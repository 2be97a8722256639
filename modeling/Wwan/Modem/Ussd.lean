import Wwan.Sms.Pdu

/-! The texts of supplementary services as an MBIM modem takes and gives them. -/

namespace Wwan.Modem.Mbim

/-- Why a text cannot be encoded or decoded. -/
inductive USSDError where
  /-- `encoding USSD: payload length %d exceeds 160` -/
  | payloadLength (length : Nat)
  /-- `encoding USSD: %w` -/
  | encoding (cause : Sms.Error)
  /-- `decoding USSD: %w` -/
  | decoding (cause : Sms.Error)
  /-- `decoding USSD: data coding scheme %#x is not supported` -/
  | unsupportedDCS (dcs : UInt32)
  deriving DecidableEq

/-- The scheme of packed septets. -/
def ussdDCSGSM7 : UInt32 := 0x0f
/-- The scheme of big-endian units. -/
def ussdDCSUCS2 : UInt32 := 0x48

/-- `USSDState` -/
inductive USSDState where
  | unknown
  | userResponse
  | networkResponse
  | terminated
  deriving DecidableEq

/-- `mbim.USSDInfo`, of which the state of the session is not read -/
structure USSDInfo where
  response : UInt32 := 0
  dataCodingScheme : UInt32 := 0
  payload : Bytes := []
  deriving DecidableEq

/-- `USSDMessage` -/
structure USSDMessage where
  state : USSDState := .unknown
  text : GoString := []
  dcs : UInt32 := 0
  data : Bytes := []
  deriving DecidableEq

/-- `encodeUSSD`, with the scheme of the payload -/
def encodeUSSD (text : GoString) : Go USSDError (UInt32 × Bytes) :=
  match Sms.GSM7.marshalBinary text with
  | .ok septets => do
    -- A carriage return fills the room for an eighth septet.
    let septets := if septets.length % 8 = 7 then septets ++ [0x0d] else septets
    let packed ← (Sms.packSeptets septets []).mapError .encoding
    if packed.1.length > 160 then Go.fail (.payloadLength packed.1.length) else return (ussdDCSGSM7, packed.1)
  | .error _ => do
    let payload ← (Sms.UCS2.marshalBinary text).mapError .encoding
    if payload.length > 160 then Go.fail (.payloadLength payload.length) else return (ussdDCSUCS2, payload)

/-- `ussdState` -/
def ussdState (info : USSDInfo) : USSDState :=
  if info.response = 1 then .userResponse
  else if info.response = 0 then .networkResponse
  else if info.response = 2 ∨ info.response = 3 ∨ info.response = 4 ∨ info.response = 5 then .terminated
  else .unknown

/-- The septets of a payload, without a carriage return that fills its last byte. -/
def ussdSeptets (payload : Bytes) : Go Sms.Error Bytes := do
  let septets ← Sms.unpackSeptets payload 0 (payload.length * 8 / 7)
  if payload.length % 7 = 0 ∧ septets.getLast? = some 0x0d then return septets.dropLast else return septets

/-- `ussdMessage` -/
def ussdMessage (info : USSDInfo) : Go USSDError USSDMessage :=
  let message := { state := ussdState info, dcs := info.dataCodingScheme, data := info.payload }
  if info.dataCodingScheme = ussdDCSGSM7 then do
    let septets ← (ussdSeptets info.payload).mapError .decoding
    return { message with text := ← (Sms.GSM7.unmarshalBinary septets).mapError .decoding }
  else if info.dataCodingScheme = ussdDCSUCS2 then do
    return { message with text := ← (Sms.UCS2.unmarshalBinary info.payload).mapError .decoding }
  else if info.payload.length ≠ 0 then Go.fail (.unsupportedDCS info.dataCodingScheme)
  else return message

end Wwan.Modem.Mbim
