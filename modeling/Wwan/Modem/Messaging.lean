import Wwan.Sms.Assembler

/-! The stored messages of the two backends, as `ListMessages` reports them. -/

namespace Wwan.Modem

open Sms

/-- A malformed short message. -/
structure MessageDecodeError where
  /-- The stored message, or the zero reference of a message that is not stored. -/
  ref : MessageRef := { storage := .unknown, id := 0 }
  pdu : Bytes
  err : Sms.Error
  deriving DecidableEq

/-- What `ListMessages` returns when no request failed. -/
structure Listing where
  messages : List Message
  /-- The entries of the `MessageListError`, which is returned if there are any. -/
  errors : List MessageDecodeError
  deriving DecidableEq

/-- The error of a failed request. -/
inductive RequestError (ε : Type) where
  | request (err : ε)
  /-- The message with this index could not be read. -/
  | reading (index : UInt32) (err : ε)
  deriving DecidableEq

/-- What the loop of `ListMessages` has collected. -/
structure Collected where
  parts : List Part := []
  decodeErrors : List MessageDecodeError := []

/-- A stored point-to-point PDU, with what the loop writes into the part it decodes to. -/
structure StoredRecord where
  id : UInt32
  storage : MessageStorage
  ref : MessageRef
  state : MessageState
  pdu : Bytes
  deriving DecidableEq

/-- Write where a part is stored into its message. -/
def StoredRecord.stamp (record : StoredRecord) (part : Part) : Part :=
  { part with
    message := { part.message with
      id := record.id
      storage := record.storage
      refs := [record.ref]
      state := record.state } }

/-- Decode one stored PDU, and collect its part or its error. -/
def Collected.record {ε : Type} (collected : Collected) (record : StoredRecord) : Go ε Collected :=
  match Part.unmarshalBinary record.pdu with
  | .ok part => .ok { collected with parts := collected.parts ++ [record.stamp part] }
  -- A part that does not decode is listed with its error.
  | .error (.err err) =>
    .ok { collected with
      decodeErrors := collected.decodeErrors ++ [{ ref := record.ref, pdu := record.pdu, err }] }
  | .error .outOfRange => .error .outOfRange

/-- Assemble the collected parts. -/
def Collected.listing (collected : Collected) : Listing :=
  { messages := assemble collected.parts, errors := collected.decodeErrors }

namespace Qmi

/-- A store of the modem. -/
inductive WMSStorage where
  | uim
  | nv
  | other (value : UInt8)
  deriving DecidableEq

/-- The representation of a short message. -/
inductive WMSMessageFormat where
  | cdma
  | gwPointToPoint
  | gwBroadcast
  | mwi
  | other (value : UInt8)
  deriving DecidableEq

/-- The read and delivery state of a stored message. -/
inductive WMSTag where
  | mtRead
  | mtNotRead
  | moSent
  | moNotSent
  | other (value : UInt8)
  deriving DecidableEq

/-- The place of a stored message. -/
structure WMSMessageReference where
  storage : WMSStorage
  index : UInt32
  deriving DecidableEq

/-- One entry of a list of messages. -/
structure WMSListedMessage where
  reference : WMSMessageReference
  tag : WMSTag
  deriving DecidableEq

/-- A PDU as it was read. -/
structure WMSRawMessage where
  tag : WMSTag
  format : WMSMessageFormat
  data : Bytes
  deriving DecidableEq

/-- The storage bit of the identifier of a message. -/
def deviceStorageBit : UInt32 := 0x80000000

/-- The identifier of a stored message, which tells the stores apart. -/
def messageID (reference : WMSMessageReference) : UInt32 :=
  if reference.storage = .nv then reference.index ||| deviceStorageBit else reference.index

/-- The storage a store is reported as. -/
def messageStorage (storage : WMSStorage) : MessageStorage :=
  if storage = .uim then .sim else .device

/-- The state a tag is reported as. -/
def messageState : WMSTag → MessageState
  | .mtRead => .receivedRead
  | .mtNotRead => .receivedUnread
  | .moSent => .storedSent
  | .moNotSent => .storedUnsent
  | .other _ => .unknown

/-- The reference a stored message is reported with. -/
def storedMessageRef (reference : WMSMessageReference) : MessageRef :=
  { storage := messageStorage reference.storage, id := reference.index }

/-- How the modem answers the requests of one listing. -/
structure MessageModem (ε : Type) where
  /-- The indices and tags that a store lists. -/
  list : WMSStorage → Except ε (List (UInt32 × WMSTag))
  read : WMSMessageReference → Except ε WMSRawMessage

variable {ε : Type}

/-- List a store, whose entries carry the requested store. -/
def wmsListMessages (modem : MessageModem ε) (storage : WMSStorage) :
    Go (RequestError ε) (List WMSListedMessage) :=
  match modem.list storage with
  | .error err => Go.fail (.request err)
  | .ok entries => .ok (entries.map fun (index, tag) => { reference := { storage, index }, tag })

/-- A point-to-point PDU as a stored record of the listing. -/
def storedRecord (entry : WMSListedMessage) (raw : WMSRawMessage) : StoredRecord :=
  { id := messageID entry.reference
    storage := messageStorage entry.reference.storage
    ref := storedMessageRef entry.reference
    state := messageState entry.tag
    pdu := raw.data }

/-- Read one entry and collect it, unless it has another format. -/
def collectEntry (modem : MessageModem ε) (collected : Collected) (entry : WMSListedMessage) :
    Go (RequestError ε) Collected :=
  match modem.read entry.reference with
  | .error err => Go.fail (.reading entry.reference.index err)
  | .ok raw =>
    -- A message of another format is left out.
    if raw.format ≠ .gwPointToPoint then .ok collected
    else collected.record (storedRecord entry raw)

/-- List both stores, the card first. -/
def listMessages (modem : MessageModem ε) : Go (RequestError ε) Listing := do
  let collected ← [WMSStorage.uim, .nv].foldlM (fun collected storage => do
    let listed ← wmsListMessages modem storage
    listed.foldlM (collectEntry modem) collected) {}
  return collected.listing

end Qmi

namespace Mbim

/-- The state of a stored message. -/
inductive SMSStatus where
  | new
  | old
  | draft
  | sent
  | other (value : UInt32)
  deriving DecidableEq

/-- A stored PDU. -/
structure SMSPDURecord where
  messageIndex : UInt32
  messageStatus : SMSStatus
  pdu : Bytes
  deriving DecidableEq

/-- The state a status is reported as. -/
def messageState : SMSStatus → MessageState
  | .new => .receivedUnread
  | .old => .receivedRead
  | .draft => .storedUnsent
  | .sent => .storedSent
  | .other _ => .unknown

/-- A PDU as a stored record of the listing. -/
def storedRecord (record : SMSPDURecord) : StoredRecord :=
  { id := record.messageIndex
    storage := .device
    ref := { storage := .device, id := record.messageIndex }
    state := messageState record.messageStatus
    pdu := record.pdu }

/-- List the PDUs of the device, given the answer to the one request. -/
def listMessages {ε : Type} (read : Except ε (List SMSPDURecord)) : Go (RequestError ε) Listing :=
  match read with
  | .error err => Go.fail (.request err)
  | .ok records => do
    let collected ← records.foldlM (fun collected record => collected.record (storedRecord record)) {}
    return Collected.listing collected

end Mbim

end Wwan.Modem
