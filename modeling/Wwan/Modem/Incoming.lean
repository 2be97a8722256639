import Wwan.Lib.Endian
import Wwan.Modem.Messaging

/-! The incoming messages of the QMI backend and their acknowledgements. -/

namespace Wwan.Modem.Qmi

open Sms

/-- One element of a QMI message. -/
structure TLV where
  type : UInt8
  value : Bytes
  deriving DecidableEq

/-- The value of the first element with a type. -/
def tlvValue (tlvs : List TLV) (type : UInt8) : Option Bytes :=
  (tlvs.find? fun item => item.type = type).map TLV.value

/-- Whether a message on the transfer route has to be acknowledged. -/
inductive WMSACKIndicator where
  | required
  | notRequired
  | other (value : UInt8)
  deriving DecidableEq

/-- The protocol of an acknowledgement. -/
inductive WMSMessageProtocol where
  | cdma
  | wcdma
  deriving DecidableEq

/-- The indicator that an octet stands for. -/
def WMSACKIndicator.ofByte (value : UInt8) : WMSACKIndicator :=
  if value = 0 then .required else if value = 1 then .notRequired else .other value

/-- The store that an octet stands for. -/
def WMSStorage.ofByte (value : UInt8) : WMSStorage :=
  if value = 0 then .uim else if value = 1 then .nv else .other value

/-- The format that an octet stands for. -/
def WMSMessageFormat.ofByte (value : UInt8) : WMSMessageFormat :=
  if value = 0x00 then .cdma
  else if value = 0x06 then .gwPointToPoint
  else if value = 0x07 then .gwBroadcast
  else if value = 0x08 then .mwi
  else .other value

/-- A message as the client reports it, with the error of reading it from its store. -/
structure WMSIncomingMessage (ε : Type) where
  stored : Bool := false
  reference : WMSMessageReference := { storage := .uim, index := 0 }
  tag : WMSTag := .mtRead
  format : WMSMessageFormat := .cdma
  data : Bytes := []
  ackIndicator : WMSACKIndicator := .required
  ackIndicatorKnown : Bool := false
  transactionID : UInt32 := 0
  smsOnIMS : Bool := false
  smsOnIMSKnown : Bool := false
  readError : Option ε := none
  deriving DecidableEq

/-- The errors of an event report, by their texts without the lengths. -/
abbrev EventReportError := String

variable {ε : Type}

/-- Parse the transfer-route message of an event report, or else the place of a stored one. -/
def unmarshalMessage (tlvs : List TLV) : Go EventReportError (Bool × WMSIncomingMessage ε) :=
  match tlvValue tlvs 0x11 with
  -- The message came along with the report.
  | some value => do
    if value.length < 8 then Go.fail "parsing QMI WMS transfer message: header is truncated"
    else
      let length := (← Go.index value 6).toNat + (← Go.index value 7).toNat * 256
      if value.length ≠ 8 + length then Go.fail "parsing QMI WMS transfer message: value length"
      else
        let data ← Go.slice value 8 (8 + length)
        return (true, {
          ackIndicator := .ofByte (← Go.index value 0)
          ackIndicatorKnown := true
          transactionID := LittleEndian.uint32At value 1
          format := .ofByte (← Go.index value 5)
          data })
  | none =>
    match tlvValue tlvs 0x10 with
    -- The message was stored, and the report has its place.
    | some value => do
      if value.length ≠ 5 then Go.fail "parsing QMI WMS MT message: WMS message reference length"
      else
        let storage ← Go.index value 0
        return (true, { stored := true, reference := { storage := .ofByte storage, index := LittleEndian.uint32At value 1 } })
    | none => return (false, {})

/-- Check an element that must have a fixed length. -/
def checkLength (tlvs : List TLV) (type : UInt8) (length : Nat) (error : EventReportError) : Go EventReportError Unit :=
  match tlvValue tlvs type with
  | some value => if value.length ≠ length then Go.fail error else return
  | none => return

/-- Check the emergency message of an event report, and say whether there is one. -/
def checkETWS (tlvs : List TLV) : Go EventReportError Bool :=
  match tlvValue tlvs 0x13 with
  | some value => do
    if value.length < 3 then Go.fail "parsing QMI WMS ETWS message: header is truncated"
    else
      let length := (← Go.index value 1).toNat + (← Go.index value 2).toNat * 256
      if value.length ≠ 3 + length then Go.fail "parsing QMI WMS ETWS message: value length" else return true
  | none => return false

/-- Parse an event report. -/
def WMSIncomingMessage.unmarshalTLVs (tlvs : List TLV) : Go EventReportError (WMSIncomingMessage ε) := do
  let (found, message) ← unmarshalMessage tlvs
  checkLength tlvs 0x12 1 "parsing QMI WMS event report: message mode TLV length"
  let etws ← checkETWS tlvs
  checkLength tlvs 0x14 4 "parsing QMI WMS ETWS PLMN: TLV length"
  checkLength tlvs 0x16 1 "parsing QMI WMS event report: SMS on IMS TLV length"
  -- A report of neither kind of message is an error.
  if found || etws then
    return { message with
      smsOnIMS := tlvValue tlvs 0x16 = some [1]
      smsOnIMSKnown := (tlvValue tlvs 0x16).isSome }
  else Go.fail "parsing QMI WMS event report: MT or ETWS message TLV missing"

/-- Read a stored message before it is delivered. -/
def WMSIncomingMessage.read (message : WMSIncomingMessage ε) (answer : Except ε WMSRawMessage) : WMSIncomingMessage ε :=
  if message.stored then
    match answer with
    | .error err => { message with readError := some err }
    | .ok raw => { message with tag := raw.tag, format := raw.format, data := raw.data }
  else message

/-- The messages of a sequence of indications, up to the first that cannot be parsed. -/
def wmsWatchIncoming : List (List TLV × Except ε WMSRawMessage) → List (WMSIncomingMessage ε)
  | [] => []
  | (tlvs, answer) :: rest =>
    match WMSIncomingMessage.unmarshalTLVs tlvs with
    | .error _ => []
    | .ok message => message.read answer :: wmsWatchIncoming rest

/-- An acknowledgement of a message on the transfer route. -/
structure WMSACKRequest where
  transactionID : UInt32
  protocol : WMSMessageProtocol
  success : Bool := false
  smsOnIMS : Option Bool := none
  deriving DecidableEq

/-- What the stream reports. -/
inductive StreamItem (ε : Type) where
  | message (message : Message)
  | readError (err : ε)
  | decodeError (err : MessageDecodeError)
  /-- The error of a positive acknowledgement. -/
  | ackError (err : ε)
  deriving DecidableEq

/-- What the loop does for a message. -/
inductive WatchAct (ε : Type) where
  | acknowledge (ack : WMSACKRequest)
  /-- Report an item, unless the context has ended. -/
  | send (item : StreamItem ε)
  deriving DecidableEq

/-- How the loop goes on after a message. -/
inductive WatchNext where
  | goOn
  | ret
  /-- Decoding panicked. -/
  | panic
  deriving DecidableEq

/-- What the loop meets while it handles a message. -/
structure LoopAnswers (ε : Type) where
  /-- The error of the acknowledgement. -/
  ack : Option ε
  /-- The context ends before the item is sent. -/
  cancelled : Bool
  deriving DecidableEq

/-- The message asks for an acknowledgement. -/
def WMSIncomingMessage.needsACK (raw : WMSIncomingMessage ε) : Bool :=
  raw.ackIndicatorKnown && raw.ackIndicator == .required

/-- The PDU of a message, where a TPDU of the transfer route gets an absent service centre. -/
def WMSIncomingMessage.pdu (raw : WMSIncomingMessage ε) : Bytes := if raw.stored then raw.data else 0 :: raw.data

/-- The acknowledgement of a message, still a negative one. -/
def WMSIncomingMessage.ack (raw : WMSIncomingMessage ε) : WMSACKRequest :=
  { transactionID := raw.transactionID
    protocol := .wcdma
    smsOnIMS := if raw.smsOnIMSKnown then some raw.smsOnIMS else none }

/-- Write where a message is stored, and its state, into its part. -/
def WMSIncomingMessage.stamp (raw : WMSIncomingMessage ε) (part : Part) : Part :=
  let placed :=
    if raw.stored then
      { part.message with
        id := messageID raw.reference
        storage := messageStorage raw.reference.storage
        refs := [storedMessageRef raw.reference] }
    else part.message
  { part with message := { placed with state := messageState raw.tag } }

/-- The error of a message that does not decode. -/
def WMSIncomingMessage.decodeError (raw : WMSIncomingMessage ε) (err : Sms.Error) : MessageDecodeError :=
  if raw.stored then { ref := storedMessageRef raw.reference, pdu := raw.data, err } else { pdu := raw.data, err }

/-- Send an item and go on, unless the context has ended. -/
def sendStreamResult (answers : LoopAnswers ε) (acts : List (WatchAct ε)) (item : StreamItem ε) : List (WatchAct ε) × WatchNext :=
  (acts ++ [.send item], if answers.cancelled then .ret else .goOn)

/-- Assemble a decoded part, and send the message that it completes. -/
def assemblePart (a : Assembler) (answers : LoopAnswers ε) (acts : List (WatchAct ε)) (part : Part) :
    Assembler × List (WatchAct ε) × WatchNext :=
  match a.add part with
  | (a, none) => (a, acts, .goOn)
  | (a, some message) => (a, sendStreamResult answers acts (.message message))

/-- What the loop does for one message. -/
def watchMessage (a : Assembler) (raw : WMSIncomingMessage ε) (answers : LoopAnswers ε) :
    Assembler × List (WatchAct ε) × WatchNext :=
  match raw.readError with
  | some err => (a, [.send (.readError err)], .ret)
  | none =>
    if raw.format ≠ .gwPointToPoint then (a, [], .goOn)
    else
      match Part.unmarshalBinary raw.pdu with
      | .error .outOfRange => (a, [], .panic)
      | .error (.err err) =>
        -- The negative acknowledgement is best effort, so its error does not matter.
        let acts := if raw.needsACK then [.acknowledge raw.ack] else []
        (a, sendStreamResult answers acts (.decodeError (raw.decodeError err)))
      | .ok part =>
        if raw.needsACK then
          let acts := [.acknowledge { raw.ack with success := true }]
          match answers.ack with
          | some err => (a, acts ++ [.send (.ackError err)], .ret)
          | none => assemblePart a answers acts (raw.stamp part)
        else assemblePart a answers [] (raw.stamp part)

/-- What the loop does for each of the delivered messages, until it returns. -/
def watchLoop (answers : Nat → LoopAnswers ε) : Assembler → Nat → List (WMSIncomingMessage ε) → List (List (WatchAct ε))
  | _, _, [] => []
  | a, i, raw :: rest =>
    match watchMessage a raw (answers i) with
    | (a, acts, .goOn) => acts :: watchLoop answers a (i + 1) rest
    | (_, acts, _) => [acts]

/-- What `WatchMessages` does for each delivered message of a stream. -/
def watchMessages (answers : Nat → LoopAnswers ε) (delivered : List (WMSIncomingMessage ε)) : List (List (WatchAct ε)) :=
  watchLoop answers {} 0 delivered

end Wwan.Modem.Qmi
