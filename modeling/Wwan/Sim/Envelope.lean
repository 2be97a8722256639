import Wwan.Sim.Identity
import Wwan.Sim.StkCommand

/-! The two encoders of the envelope that hands a short message to the card. -/

namespace Wwan.Sim

/-- A short message for the card. -/
structure SMSPPDownload where
  serviceCenterAddress : GoString
  tpdu : Bytes
  deriving DecidableEq

/-- Why an envelope cannot be built. -/
inductive EnvelopeError where
  /-- `building SMS-PP download envelope: TPDU is empty` -/
  | emptyTPDU
  /-- `building SMS-PP download envelope: %w` -/
  | address (cause : IdentityError)
  /-- `building envelope: %w` -/
  | items (cause : Tlv.Error)
  /-- The error of `tlv.WrapBER`. -/
  | wrapping (cause : Tlv.Error)
  deriving DecidableEq

namespace Command

/-- `EnvelopeTagSMSPPDownload` -/
def envelopeTagSMSPPDownload : UInt8 := 0xD1

/-- `appendBERLength` -/
def appendBERLength (out : Bytes) (n : Nat) : Bytes :=
  if n ≤ 0x7F then out ++ [UInt8.ofNat n]
  else if n ≤ 0xFF then out ++ [0x81, UInt8.ofNat n]
  else out ++ [0x82, UInt8.ofNat (n >>> 8), UInt8.ofNat n]

/-- `appendTLV` -/
def appendTLV (out : Bytes) (tag : UInt8) (value : Bytes) : Bytes := appendBERLength (out ++ [tag]) value.length ++ value

/-- `command.SMSPPDownload.Envelope` -/
def envelope (c : SMSPPDownload) : Go EnvelopeError Bytes := do
  if c.tpdu.length = 0 then Go.fail .emptyTPDU
  else
    let body := appendTLV [] 0x82 [0x83, 0x81]
    let address ← (Address.marshalBinary c.serviceCenterAddress).mapError .address
    let body := if address.length ≠ 0 then appendTLV body 0x86 address else body
    let body := appendTLV body 0x8B c.tpdu
    return appendBERLength [envelopeTagSMSPPDownload] body.length ++ body

end Command

namespace Stk

/-- `TagSMSPPDownload` -/
def tagSMSPPDownload : UInt8 := 0xD1

/-- `DeviceNetwork` -/
def DeviceID.network : DeviceID := 0x83

/-- An envelope for the card. -/
structure Envelope where
  tag : UInt8 := 0
  tlvs : List Tlv.Item := []
  raw : Bytes := []
  deriving DecidableEq

/-- `Envelope.MarshalBinary` -/
def Envelope.marshalBinary (e : Envelope) : Go EnvelopeError Bytes := do
  if e.raw.length > 0 then return e.raw
  else
    let data ← (Tlv.marshalBinary e.tlvs).mapError .items
    (Tlv.wrapBER e.tag data).mapError .wrapping

/-- `stk.SMSPPDownload.Envelope` -/
def envelope (c : SMSPPDownload) : Go EnvelopeError Envelope := do
  if c.tpdu.length = 0 then Go.fail .emptyTPDU
  else
    let tlvs := [Tlv.Item.newComprehension Tag.deviceIDs [DeviceID.network, DeviceID.uicc]]
    let address ← (Address.marshalBinary c.serviceCenterAddress).mapError .address
    let tlvs := if address.length ≠ 0 then tlvs ++ [.newComprehension Tag.address address] else tlvs
    let tlvs := tlvs ++ [.newComprehension Tag.smsTPDU c.tpdu]
    return { tag := tagSMSPPDownload, tlvs }

/-- `stk.SMSPPDownload.MarshalBinary` -/
def marshalBinary (c : SMSPPDownload) : Go EnvelopeError Bytes := do (← envelope c).marshalBinary

end Stk

end Wwan.Sim
