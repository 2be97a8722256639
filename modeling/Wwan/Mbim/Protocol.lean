import Wwan.Lib.Endian

/-! Messages of the mobile broadband interface and the checks made when they are parsed. -/

namespace Wwan.Mbim

open LittleEndian (uint32At)

/-- The type field of a message, which a device may set to any value. -/
abbrev MessageType := UInt32

/-- A request to open the device. -/
def MessageType.open : MessageType := 0x00000001
/-- A request to close the device. -/
def MessageType.close : MessageType := 0x00000002
/-- A command. -/
def MessageType.command : MessageType := 0x00000003
/-- The answer to an open request. -/
def MessageType.openDone : MessageType := 0x80000001
/-- The answer to a close request. -/
def MessageType.closeDone : MessageType := 0x80000002
/-- The answer to a command. -/
def MessageType.commandDone : MessageType := 0x80000003
/-- A protocol error of the device. -/
def MessageType.functionError : MessageType := 0x80000004
/-- An unsolicited indication. -/
def MessageType.indicateStatus : MessageType := 0x80000007

/-- A protocol error code, which is also a Go error. -/
abbrev ProtocolError := UInt32

/-- A message's fragments stopped arriving. -/
def ProtocolError.timeoutFragment : ProtocolError := 1
/-- A fragment is malformed or not the next one. -/
def ProtocolError.fragmentOutOfSequence : ProtocolError := 2

/-- A command's completion status, which is also a Go error. -/
abbrev Status := UInt32

/-- The status of a successful command. -/
def Status.none : Status := 0
/-- The card refused an authentication and returned resynchronization data. -/
def Status.authSyncFailure : Status := 36
/-- A matching session is already established. -/
def Status.matchingPDUSessionFound : Status := 200

/-- The errors of the client. -/
inductive Error where
  /-- A formatted text with its numeric arguments. -/
  | format (text : String) (args : List Nat)
  /-- A protocol error as a Go error. -/
  | protocol (status : ProtocolError)
  /-- A status as a Go error. -/
  | status (status : Status)
  /-- An error wrapped with `%w` behind a context. -/
  | wrap (context : String) (args : List Nat) (cause : Error)
  /-- `parsing MBIM status response: %v: %w` -/
  | statusResponse (response cause : Error)
  deriving DecidableEq

/-- `MBIM client is closed` -/
def errClientClosed : Error := .format "MBIM client is closed" []
/-- `MBIM client lease is closed` -/
def errClientLeaseClosed : Error := .format "MBIM client lease is closed" []
/-- `MBIM receiver stopped` -/
def errReceiverStopped : Error := .format "MBIM receiver stopped" []

/-- The sixteen bytes that identify a service. -/
abbrev ServiceID := Bytes

/-- The identity of a command. -/
structure Command where
  serviceID : ServiceID
  commandID : UInt32
  deriving DecidableEq

/-- The fields of a request that select its response, with the command where its payload is one. -/
structure Request where
  messageType : MessageType
  transactionID : UInt32
  command : Option Command
  deriving DecidableEq

/-- The service and the command a response has to name, for a command only. -/
def Request.expectedCommand (r : Request) : Option Command :=
  if r.messageType ≠ MessageType.command then none else r.command

/-- The type of the response to a request. -/
def responseMessageType (requestType : MessageType) : Option MessageType :=
  if requestType = MessageType.open then some MessageType.openDone
  else if requestType = MessageType.close then some MessageType.closeDone
  else if requestType = MessageType.command then some MessageType.commandDone
  else none

/-- The longest frame that is read. -/
def maxFrameLength : Nat := 2 * 1024 * 1024

/-- What `readFrame` returns: its header is complete and names its length. -/
structure Frame where
  data : Bytes
  complete : 12 ≤ data.length
  bounded : data.length ≤ maxFrameLength
  measured : (uint32At data 4).toNat = data.length

/-- The type of a message. -/
def messageTypeOf (data : Bytes) : MessageType := uint32At data 0

/-- The transaction of a message. -/
def transactionIDOf (data : Bytes) : UInt32 := uint32At data 8

/-- The identity and status fields of an answered command. -/
structure CommandDoneHeader where
  serviceID : ServiceID
  commandID : UInt32
  status : Status
  deriving DecidableEq

/-- Parse the identity and status fields of an answered command. -/
def CommandDoneHeader.unmarshalBinary (data : Bytes) : Go Error CommandDoneHeader :=
  if data.length < 48 then
    Go.fail (.format "parsing MBIM command response: length %d is too short" [data.length])
  else if messageTypeOf data ≠ MessageType.commandDone then
    Go.fail (.format "parsing MBIM command response: unexpected message type %#x"
      [(messageTypeOf data).toNat])
  else if uint32At data 4 ≠ UInt32.ofNat data.length then
    Go.fail (.format
      "parsing MBIM command response: header length %d does not match actual length %d"
      [(uint32At data 4).toNat, data.length])
  else
    return { serviceID := (data.drop 20).take 16
             commandID := uint32At data 36
             status := uint32At data 40 }

/-- A parsed response, whatever its status. -/
structure CommandResponse where
  status : Status
  responseBuffer : Bytes
  deriving DecidableEq

/-- Parse the answer to an open or a close request. -/
def unmarshalStatusDone (data : Bytes) : Go Error CommandResponse :=
  if data.length ≠ 16 then
    Go.fail (.format "parsing MBIM status response: length %d, want 16" [data.length])
  else return { status := uint32At data 12, responseBuffer := [] }

/-- Parse the answer to a command. -/
def unmarshalCommandDone (data : Bytes) : Go Error CommandResponse :=
  if data.length < 48 then
    Go.fail (.format "parsing MBIM command response: length %d is too short" [data.length])
  else if uint32At data 12 ≠ 1 ∨ uint32At data 16 ≠ 0 then
    Go.fail (.format "parsing MBIM command response: unsupported fragment %d of %d"
      [(uint32At data 16).toNat, (uint32At data 12).toNat])
  else if (uint32At data 44).toNat ≠ data.length - 48 then
    Go.fail (.format
      "parsing MBIM command response: response length %d does not match remaining %d"
      [(uint32At data 44).toNat, data.length - 48])
  else return { status := uint32At data 40, responseBuffer := data.drop 48 }

/-- Parse a protocol error, which is never a response. -/
def unmarshalFunctionError (data : Bytes) : Go Error CommandResponse :=
  if data.length ≠ 16 then
    Go.fail (.format "parsing MBIM function error: length %d, want 16" [data.length])
  else Go.fail (.protocol (uint32At data 12))

/-- Parse a response of any type; its caller turns a status other than success into an error. -/
def CommandResponse.unmarshalBinary (data : Bytes) : Go Error CommandResponse :=
  if data.length < 12 then
    Go.fail (.format "parsing MBIM response: length %d is too short" [data.length])
  else if uint32At data 4 ≠ UInt32.ofNat data.length then
    Go.fail (.format "parsing MBIM response: header length %d does not match actual length %d"
      [(uint32At data 4).toNat, data.length])
  else if messageTypeOf data = MessageType.openDone ∨ messageTypeOf data = MessageType.closeDone then
    unmarshalStatusDone data
  else if messageTypeOf data = MessageType.commandDone then unmarshalCommandDone data
  else if messageTypeOf data = MessageType.functionError then unmarshalFunctionError data
  else
    Go.fail (.format "parsing MBIM response: unexpected message type %#x"
      [(messageTypeOf data).toNat])

/-- The basic connectivity service. -/
def serviceBasicConnect : ServiceID :=
  [0xA2, 0x89, 0xCC, 0x33, 0xBC, 0xBB, 0x8B, 0x4F, 0xB6, 0xB0, 0x13, 0x3E, 0xC2, 0xAA, 0xE6, 0xDF]

/-- The commands of the basic connectivity service whose failures carry a response. -/
def statusResponseCommands : List UInt32 :=
  -- PIN, register state, packet service, connect and service activation.
  [0x00000004, 0x00000009, 0x0000000A, 0x0000000C, 0x0000000E]

/-- Whether a failed command still carries a response to decode. -/
def Request.statusCarriesResponse (r : Request) (status : Status) (data : Bytes) : Bool :=
  -- These two carry a response whatever the command.
  if status = Status.authSyncFailure ∨ status = Status.matchingPDUSessionFound then true
  else if data.length = 0 then false
  else
    match r.command with
    | none => false
    | some command =>
      command.serviceID = serviceBasicConnect && statusResponseCommands.contains command.commandID

/-- The decoder of a request's response value, for a success and for a failure that carries one. -/
structure ResponseDecoder where
  unmarshalBinary : Bytes → Go Error Unit
  unmarshalStatus : Bytes → Go Error Unit

/-- Parse a response into the request's response value, if it has one. -/
def Request.unmarshalResponse (r : Request) (response : Option ResponseDecoder) (data : Bytes) :
    Go Error Unit := do
  let parsed ← CommandResponse.unmarshalBinary data
  if parsed.status ≠ Status.none then
    -- The status is an error, which may come with a response of its own.
    match response with
    | none => Go.fail (.status parsed.status)
    | some value =>
      if r.statusCarriesResponse parsed.status parsed.responseBuffer then
        match value.unmarshalStatus parsed.responseBuffer with
        | .ok () => Go.fail (.status parsed.status)
        | .error (.err cause) => Go.fail (.statusResponse cause (.status parsed.status))
        | .error .outOfRange => .error .outOfRange
      else Go.fail (.status parsed.status)
  else
    -- The command has succeeded.
    match response with
    | none => return ()
    | some value => value.unmarshalBinary parsed.responseBuffer

/-- An indication. -/
structure Indication where
  serviceID : ServiceID
  commandID : UInt32
  informationBuffer : Bytes
  deriving DecidableEq

/-- Parse an indication. -/
def Indication.unmarshalBinary (data : Bytes) : Go Error Indication :=
  if data.length < 44 then
    Go.fail (.format "parsing MBIM indication: length %d is too short" [data.length])
  else if messageTypeOf data ≠ MessageType.indicateStatus then
    Go.fail (.format "parsing MBIM indication: unexpected message type %#x"
      [(messageTypeOf data).toNat])
  else if uint32At data 4 ≠ UInt32.ofNat data.length then
    Go.fail (.format "parsing MBIM indication: header length %d does not match actual length %d"
      [(uint32At data 4).toNat, data.length])
  -- An indication answers no request.
  else if transactionIDOf data ≠ 0 then
    Go.fail (.format "parsing MBIM indication: transaction ID %d, want 0"
      [(transactionIDOf data).toNat])
  -- Fragments have been put together before.
  else if uint32At data 12 ≠ 1 ∨ uint32At data 16 ≠ 0 then
    Go.fail (.format "parsing MBIM indication: unsupported fragment %d of %d"
      [(uint32At data 16).toNat, (uint32At data 12).toNat])
  else if (uint32At data 40).toNat ≠ data.length - 44 then
    Go.fail (.format
      "parsing MBIM indication: information length %d does not match remaining %d"
      [(uint32At data 40).toNat, data.length - 44])
  else
    return { serviceID := (data.drop 20).take 16
             commandID := uint32At data 36
             informationBuffer := data.drop 44 }

end Wwan.Mbim
