import Wwan.Qcom.Requests
import Wwan.Qcom.Tlv

/-! Frames of the QMUX transport: their headers, how they are read from a stream, and the responses in them. -/

namespace Wwan.Qcom.Qmux

open Utf16.ByteOrder (littleEndian)

/-- `QMUXIfType` -/
def qmuxIfType : UInt8 := 0x01
/-- `QMUXControlFlagRequest` -/
def qmuxControlFlagRequest : UInt8 := 0x00
/-- `MaxEncodedMessageLength` -/
def maxEncodedMessageLength : Nat := 0xffff
/-- `QMUXHeaderLength` -/
def qmuxHeaderLength : Nat := 1 + 5
/-- `QMIControlHeaderLength` -/
def qmiControlHeaderLength : Nat := 6
/-- `QMIServiceHeaderLength` -/
def qmiServiceHeaderLength : Nat := 7
/-- `MaxQMUXControlTLVLength` -/
def maxQMUXControlTLVLength : Nat := maxEncodedMessageLength - qmuxHeaderLength - qmiControlHeaderLength
/-- `MaxQMUXServiceTLVLength` -/
def maxQMUXServiceTLVLength : Nat := maxEncodedMessageLength - qmuxHeaderLength - qmiServiceHeaderLength

/-- `MessageTypeRequest` -/
def messageTypeRequest : UInt8 := 0x00
/-- `MessageTypeResponse` -/
def messageTypeResponse : UInt8 := 0x02
/-- `MessageTypeIndication` -/
def messageTypeIndication : UInt8 := 0x04
/-- `controlMessageTypeResponse` -/
def controlMessageTypeResponse : UInt8 := 0x01
/-- `controlMessageTypeIndication` -/
def controlMessageTypeIndication : UInt8 := 0x02

/-- A request. -/
structure Request where
  service : UInt32
  clientID : UInt8
  transactionID : UInt16
  messageID : UInt16
  tlvs : List TLV
  deriving DecidableEq

/-- The header of a frame. -/
structure QMUXHeader where
  ifType : UInt8
  length : UInt16
  controlFlags : UInt8
  serviceType : UInt8
  clientID : UInt8
  deriving DecidableEq

/-- The bytes of a frame's header. -/
def QMUXHeader.bytes (h : QMUXHeader) : Bytes :=
  h.ifType :: littleEndian.putUint16 h.length ++ [h.controlFlags, h.serviceType, h.clientID]

/-- The frame's header in six bytes. -/
def QMUXHeader.decode (b : Bytes) : Go MessageError QMUXHeader := do
  let ifType ← Go.index b 0
  let length ← littleEndian.getUint16 (← Go.slice b 1 3)
  let controlFlags ← Go.index b 3
  let serviceType ← Go.index b 4
  let clientID ← Go.index b 5
  return { ifType, length, controlFlags, serviceType, clientID }

/-- The header of a message, whose transaction takes one byte for the control service and two for the others. -/
structure Header where
  messageType : UInt8
  transactionID : UInt16
  messageID : UInt16
  messageLength : UInt16
  deriving DecidableEq

/-- The bytes of a control message's header. -/
def Header.controlBytes (h : Header) : Bytes :=
  h.messageType :: UInt8.ofNat h.transactionID.toNat :: littleEndian.putUint16 h.messageID ++
    littleEndian.putUint16 h.messageLength

/-- The bytes of a service message's header. -/
def Header.serviceBytes (h : Header) : Bytes :=
  h.messageType :: littleEndian.putUint16 h.transactionID ++ (littleEndian.putUint16 h.messageID ++
    littleEndian.putUint16 h.messageLength)

/-- A control message's header in six bytes. -/
def Header.decodeControl (b : Bytes) : Go MessageError Header := do
  let messageType ← Go.index b 0
  let transactionID ← Go.index b 1
  let messageID ← littleEndian.getUint16 (← Go.slice b 2 4)
  let messageLength ← littleEndian.getUint16 (← Go.slice b 4 6)
  return { messageType, transactionID := UInt16.ofNat transactionID.toNat, messageID, messageLength }

/-- A service message's header in seven bytes. -/
def Header.decodeService (b : Bytes) : Go MessageError Header := do
  let messageType ← Go.index b 0
  let transactionID ← littleEndian.getUint16 (← Go.slice b 1 3)
  let messageID ← littleEndian.getUint16 (← Go.slice b 3 5)
  let messageLength ← littleEndian.getUint16 (← Go.slice b 5 7)
  return { messageType, transactionID, messageID, messageLength }

/-- What a request has to satisfy to be sent. -/
def validateRequest (req : Request) : Go MessageError Unit := do
  Go.failIf (req.service > 0xFF)
    (.format "QMUX service ID 0x%X exceeds 8-bit wire limit" [req.service.toNat])
  Go.failIf (req.service = serviceControl ∧ req.clientID ≠ 0)
    (.format "QMI control client ID %d is not zero" [req.clientID.toNat])
  Go.failIf (req.transactionID = 0) (.format "QMI transaction ID is zero" [])
  Go.failIf (req.service = serviceControl ∧ req.transactionID > 0xFF)
    (.format "QMI control transaction ID %d exceeds limit 255" [req.transactionID.toNat])

/-- The message of a request with its elements encoded. -/
def requestSDU (req : Request) (payload : Bytes) : Bytes :=
  let header : Header :=
    { messageType := messageTypeRequest, transactionID := req.transactionID, messageID := req.messageID
      messageLength := UInt16.ofNat payload.length }
  if req.service = serviceControl then header.controlBytes ++ payload else header.serviceBytes ++ payload

/-- The frame of a request. -/
def marshalRequest (req : Request) : Go MessageError Bytes := do
  validateRequest req
  let payload ← Go.mapError (.wrap "marshal QMI TLVs") (TLVs.marshalBinary req.tlvs)
  let maxPayloadLength := if req.service = serviceControl then maxQMUXControlTLVLength else maxQMUXServiceTLVLength
  Go.failIf (payload.length > maxPayloadLength)
    (.format "QMI message TLVs length %d exceeds limit %d" [payload.length, maxPayloadLength])
  let sdu := requestSDU req payload
  let header : QMUXHeader :=
    { ifType := qmuxIfType, length := UInt16.ofNat (sdu.length + 5), controlFlags := qmuxControlFlagRequest
      serviceType := UInt8.ofNat req.service.toNat, clientID := req.clientID }
  return header.bytes ++ sdu

/-- Read bytes of a stream, with the end of the stream as the error. -/
def readBytes (r : Reader) (n : Nat) : Go MessageError (Bytes × Reader) :=
  Go.mapError .read (Go.ofExcept (r.readFull n))

/-- Read one frame of a stream. -/
def readFrame (r : Reader) : Go MessageError (Bytes × Reader) := do
  let header ← readBytes r 3
  let length := (← littleEndian.getUint16 (← Go.slice header.1 1 3)).toNat + 1
  Go.failIf (length < header.1.length) (.format "reading QMI frame: invalid length" [])
  let rest ← readBytes header.2 (length - header.1.length)
  return (header.1 ++ rest.1, rest.2)

/-- Read frames of a stream one after the other. -/
def readFrames : Nat → Reader → Go MessageError (List Bytes × Reader)
  | 0, r => .ok ([], r)
  | count + 1, r => do
    let frame ← readFrame r
    let frames ← readFrames count frame.2
    return (frame.1 :: frames.1, frames.2)

/-- A response or an indication. -/
structure Response where
  qmux : QMUXHeader
  header : Header
  tlvs : List TLV
  deriving DecidableEq

/-- Whether a message type is one of an answer or of an indication, by service. -/
def answers (serviceType messageType : UInt8) : Bool :=
  if serviceType = 0 then messageType = controlMessageTypeResponse || messageType = controlMessageTypeIndication
  else messageType = messageTypeResponse || messageType = messageTypeIndication

/-- The text about a message type that is neither. -/
def unexpectedMessageType (serviceType : UInt8) : String :=
  if serviceType = 0 then "unexpected control QMI message type" else "unexpected service QMI message type"

/-- Read the message header that a service's messages have. -/
def readHeader (serviceType : UInt8) (r : Reader) : Go MessageError (Header × Reader) :=
  -- Control messages have a transaction of one byte.
  if serviceType = 0 then do
    let field ← TLVs.readField "parsing QMI message: read control QMI header" r 6
    return (← Header.decodeControl field.1, field.2)
  else do
    let field ← TLVs.readField "parsing QMI message: read service QMI header" r 7
    return (← Header.decodeService field.1, field.2)

/-- Parse a frame that answers a request or indicates something. -/
def Response.unmarshalBinary (data : Bytes) : Go MessageError Response := do
  Go.failIf (data.length < 12) (.format "parsing QMI message: data too short: got %d bytes" [data.length])
  let field ← TLVs.readField "parsing QMI message: read QMUX header" ⟨[data], false⟩ 6
  let qmux ← QMUXHeader.decode field.1
  Go.failIf (qmux.ifType ≠ qmuxIfType)
    (.format "parsing QMI message: unexpected QMUX marker 0x%02X" [qmux.ifType.toNat])
  Go.failIf (data.length ≠ qmux.length.toNat + 1)
    (.format "parsing QMI message: QMUX length mismatch: got %d bytes, header declares %d"
      [data.length, qmux.length.toNat + 1])
  let message ← readHeader qmux.serviceType field.2
  let header := message.1
  Go.failIf (!answers qmux.serviceType header.messageType) (.wrap "parsing QMI message"
    (.format (unexpectedMessageType qmux.serviceType) [header.messageType.toNat]))
  Go.failIf (message.2.bytes.length ≠ header.messageLength.toNat)
    (.format "parsing QMI message: QMI TLV length mismatch: got %d bytes, header declares %d"
      [message.2.bytes.length, header.messageLength.toNat])
  let tlvs ← (if header.messageLength > 0 then do
      let elements ← Go.slice data (data.length - header.messageLength.toNat) data.length
      TLVs.unmarshalBinary elements
    else return [])
  return { qmux, header, tlvs }

end Wwan.Qcom.Qmux
