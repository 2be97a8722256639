import Wwan.Sim.StkCommand

/-! How the toolkit answers a proactive command: the callbacks, the terminal response, and `STK.Handle`. -/

namespace Wwan.Sim.Stk

open Tlv (Item)

/-- The status of a channel. -/
structure ChannelStatus where
  identifier : UInt8
  status : UInt8
  info : UInt8
  deriving DecidableEq

/-- `ChannelStatus.MarshalBinary` -/
def ChannelStatus.marshalBinary (s : ChannelStatus) : Bytes :=
  let status := if s.identifier ≤ 7 then s.status &&& 0xF8 ||| s.identifier &&& 0x07 else s.status
  [status, s.info]

/-- `BearerDescription.MarshalBinary` -/
def BearerDescription.marshalBinary (d : BearerDescription) : Bytes := d.type :: d.parameters

/-- `OtherAddress.MarshalBinary` -/
def OtherAddress.marshalBinary (a : OtherAddress) : Bytes :=
  if a.address.length = 0 then [] else a.type :: a.address

/-- `TerminalResponse` -/
structure TerminalResponse where
  result : ResultCode
  additionalInfo : Bytes := []
  text : Option TextString := none
  itemIdentifier : Option UInt8 := none
  duration : Option Duration := none
  language : GoString := []
  dateTimeZone : Bytes := []
  channelStatus : Bytes := []
  channelStatuses : List ChannelStatus := []
  /-- The field tells a nil slice from an empty one. -/
  channelData : Option Bytes := none
  channelDataLen : Option UInt8 := none
  bearerDescription : Option BearerDescription := none
  bufferSize : Option UInt16 := none
  otherAddresses : List OtherAddress := []
  rAPDU : Bytes := []
  atResponse : Bytes := []
  extraTLVs : List Item := []
  deriving DecidableEq

namespace TerminalResponse

/-- `OK` -/
def ok : TerminalResponse := { result := ResultCode.commandPerformed }

/-- `Result` -/
def ofResult (result : ResultCode) : TerminalResponse := { result }

/-- The errors of `MarshalFor`. -/
inductive MarshalError where
  /-- `building terminal response text: %w` -/
  | text (cause : TextError)
  /-- `building terminal response: %w` -/
  | items (cause : Tlv.Error)
  deriving DecidableEq

/-- The item of a value that is sent unless it is empty. -/
def unlessEmpty (tag : UInt8) (value : Bytes) : List Item :=
  if value.length > 0 then [.newComprehension tag value] else []

/-- The item of a value that is sent if there is one. -/
def ifSome (tag : UInt8) (value : Option Bytes) : List Item :=
  value.toList.map (.newComprehension tag)

/-- The text of a response, encoded. -/
def marshalText (r : TerminalResponse) : Go MarshalError (Option Bytes) :=
  match r.text with
  | none => return none
  | some text =>
    match text.marshalBinary with
    | .ok value => return some value
    | .error (.err err) => Go.fail (.text err)
    | .error .outOfRange => .error .outOfRange

/-- The items of a response, behind the text. -/
def items (r : TerminalResponse) : List Item :=
  ifSome Tag.itemID (r.itemIdentifier.map fun identifier => [identifier]) ++
  ifSome Tag.duration (r.duration.map fun duration => [duration.unit, duration.interval]) ++
  unlessEmpty Tag.language r.language ++
  unlessEmpty Tag.dateTimeZone r.dateTimeZone ++
  unlessEmpty Tag.channelStatus r.channelStatus ++
  r.channelStatuses.map (fun status => .newComprehension Tag.channelStatus status.marshalBinary) ++
  ifSome Tag.channelData r.channelData ++
  ifSome Tag.channelDataLen (r.channelDataLen.map fun length => [length]) ++
  ifSome Tag.bearerDesc (r.bearerDescription.map BearerDescription.marshalBinary) ++
  ifSome Tag.bufferSize (r.bufferSize.map fun size => [UInt8.ofNat (size.toNat >>> 8), UInt8.ofNat size.toNat]) ++
  r.otherAddresses.map (fun address => .newComprehension Tag.otherAddress address.marshalBinary) ++
  unlessEmpty Tag.rAPDU r.rAPDU ++
  unlessEmpty Tag.atResponse r.atResponse ++
  r.extraTLVs

/-- `TerminalResponse.MarshalFor` -/
def marshalFor (r : TerminalResponse) (cmd : Command) : Go MarshalError Bytes := do
  let details := cmd.frame.details
  let head : List Item :=
    [.newComprehension Tag.commandDetails [details.number, details.type, details.qualifier],
     .newComprehension Tag.deviceIDs [DeviceID.terminal, DeviceID.uicc],
     .newComprehension Tag.result (r.result :: r.additionalInfo)]
  let text ← r.marshalText
  -- The text follows the result, and the other items follow the text.
  match Tlv.marshalBinary (head ++ ifSome Tag.textString text ++ r.items) with
  | .ok data => return data
  | .error (.err err) => Go.fail (.items err)
  | .error .outOfRange => .error .outOfRange

end TerminalResponse

/-- A moment on the clock of a time zone, with the offset from UTC in seconds. -/
structure Time where
  year : Nat
  month : Nat
  day : Nat
  hour : Nat
  minute : Nat
  second : Nat
  offset : Int
  deriving DecidableEq

/-- `swappedBCD` -/
def swappedBCD (n : Int) : UInt8 :=
  let n := min n.toNat 99
  UInt8.ofNat (n % 10) <<< 4 ||| UInt8.ofNat (n / 10)

/-- `DateTimeZone` -/
def dateTimeZone (t : Time) : Bytes :=
  -- Integer division truncates toward zero.
  let quarters := t.offset.tdiv (15 * 60)
  let sign : UInt8 := if quarters < 0 then 0x08 else 0
  [swappedBCD (t.year % 100 : Nat), swappedBCD t.month, swappedBCD t.day, swappedBCD t.hour, swappedBCD t.minute,
   swappedBCD t.second, swappedBCD quarters.natAbs ||| sign]

/-! The callbacks and their dispatch. -/

/-- The callbacks by name. -/
inductive CallbackName where
  | displayText | getInkey | getInput | setupMenu | selectItem | setupEventList | moreTime | refresh
  | playTone | sendSMS | sendSS | sendUSSD | sendDTMF | setupCall | launchBrowser | provideLocalInfo
  | setupIdleModeText | languageNotify | activate | generic
  deriving DecidableEq

/-- A callback, by what it returns for every command. -/
abbrev STKCallback (ε α : Type) := α → Except ε TerminalResponse

/-- `STKCallbacks`, in which a callback that is nil is missing -/
structure STKCallbacks (ε : Type) where
  displayText : Option (STKCallback ε DisplayTextCommand) := none
  getInkey : Option (STKCallback ε GetInkeyCommand) := none
  getInput : Option (STKCallback ε GetInputCommand) := none
  setupMenu : Option (STKCallback ε MenuCommand) := none
  selectItem : Option (STKCallback ε MenuCommand) := none
  setupEventList : Option (STKCallback ε SetupEventListCommand) := none
  moreTime : Option (STKCallback ε SimpleCommand) := none
  refresh : Option (STKCallback ε SimpleCommand) := none
  playTone : Option (STKCallback ε SimpleCommand) := none
  sendSMS : Option (STKCallback ε SimpleCommand) := none
  sendSS : Option (STKCallback ε SimpleCommand) := none
  sendUSSD : Option (STKCallback ε SimpleCommand) := none
  sendDTMF : Option (STKCallback ε SimpleCommand) := none
  setupCall : Option (STKCallback ε SimpleCommand) := none
  launchBrowser : Option (STKCallback ε SimpleCommand) := none
  provideLocalInfo : Option (STKCallback ε SimpleCommand) := none
  setupIdleModeText : Option (STKCallback ε SimpleCommand) := none
  languageNotify : Option (STKCallback ε SimpleCommand) := none
  activate : Option (STKCallback ε SimpleCommand) := none
  /-- A `GenericCommand` is no more than its frame. -/
  generic : Option (STKCallback ε CommandFrame) := none

/-- What a dispatch did: the callbacks it called, and what it returned. -/
structure Dispatched (ε : Type) where
  called : List CallbackName := []
  outcome : Except ε TerminalResponse

namespace Dispatched

variable {ε α : Type}

/-- Return a response without a callback. -/
def answer (response : TerminalResponse) : Dispatched ε := { outcome := .ok response }

/-- Return what a callback returns, or go on if it is missing. -/
def callOr (name : CallbackName) (callback : Option (STKCallback ε α)) (cmd : α)
    (otherwise : Dispatched ε) : Dispatched ε :=
  match callback with
  | some callback => { called := [name], outcome := callback cmd }
  | none => otherwise

end Dispatched

section Dispatch

open Dispatched

variable {ε : Type} (callbacks : STKCallbacks ε) (now : Time)

/-- The generic callback is the last that is asked. -/
def dispatchGeneric (frame : CommandFrame) : Dispatched ε :=
  callOr .generic callbacks.generic frame
    (answer (.ofResult ResultCode.commandBeyondTerminalCapabilities))

/-- `provideLocalInfoResponse` -/
def provideLocalInfoResponse (cmd : SimpleCommand) : TerminalResponse :=
  if cmd.details.qualifier = 0x03 then
    { result := ResultCode.commandPerformed, dateTimeZone := dateTimeZone now }
  else if cmd.details.qualifier = 0x04 then
    { result := ResultCode.commandPerformed, language := [0x65, 0x6E] }
  else .ofResult ResultCode.commandBeyondTerminalCapabilities

/-- `dispatchSimple` -/
def dispatchSimple (cmd : SimpleCommand) : Dispatched ε :=
  let type := cmd.details.type
  let otherwise := dispatchGeneric callbacks cmd.toCommandFrame
  if type = CommandType.moreTime then callOr .moreTime callbacks.moreTime cmd (answer .ok)
  else if type = CommandType.refresh then callOr .refresh callbacks.refresh cmd otherwise
  else if type = CommandType.playTone then callOr .playTone callbacks.playTone cmd otherwise
  else if type = CommandType.sendSMS then callOr .sendSMS callbacks.sendSMS cmd otherwise
  else if type = CommandType.sendSS then callOr .sendSS callbacks.sendSS cmd otherwise
  else if type = CommandType.sendUSSD then callOr .sendUSSD callbacks.sendUSSD cmd otherwise
  else if type = CommandType.sendDTMF then callOr .sendDTMF callbacks.sendDTMF cmd otherwise
  else if type = CommandType.setupCall then callOr .setupCall callbacks.setupCall cmd otherwise
  else if type = CommandType.launchBrowser then callOr .launchBrowser callbacks.launchBrowser cmd otherwise
  else if type = CommandType.provideLocalInfo then
    callOr .provideLocalInfo callbacks.provideLocalInfo cmd (answer (provideLocalInfoResponse now cmd))
  else if type = CommandType.setupIdleModeText then
    callOr .setupIdleModeText callbacks.setupIdleModeText cmd otherwise
  else if type = CommandType.languageNotify then callOr .languageNotify callbacks.languageNotify cmd otherwise
  else if type = CommandType.activate then callOr .activate callbacks.activate cmd otherwise
  else otherwise

/-- `MalformedCommand.ResultCode` -/
def MalformedCommand.resultCode (cmd : MalformedCommand) : ResultCode :=
  if cmd.responseCode ≠ 0 then cmd.responseCode else ResultCode.commandDataNotUnderstood

/-- `dispatch` -/
def dispatch (cmd : Command) : Dispatched ε :=
  let otherwise := dispatchGeneric callbacks cmd.frame
  match cmd with
  | .malformed cmd => answer (.ofResult cmd.resultCode)
  | .unknown _ => answer (.ofResult ResultCode.commandTypeNotUnderstood)
  | .displayText cmd => callOr .displayText callbacks.displayText cmd otherwise
  | .getInkey cmd => callOr .getInkey callbacks.getInkey cmd otherwise
  | .getInput cmd => callOr .getInput callbacks.getInput cmd otherwise
  | .setupMenu cmd => callOr .setupMenu callbacks.setupMenu cmd otherwise
  | .selectItem cmd => callOr .selectItem callbacks.selectItem cmd otherwise
  -- A list of events is accepted where nobody handles it.
  | .setupEventList cmd => callOr .setupEventList callbacks.setupEventList cmd (answer .ok)
  | .simple cmd => dispatchSimple callbacks now cmd
  -- The bearer-independent protocol has no callbacks of its own.
  | .openChannel _ | .closeChannel _ | .receiveData _ | .sendData _ | .getChannelStatus _ => otherwise

end Dispatch

/-! `STK.Handle`. -/

/-- What the transport expects for a command. -/
inductive ResponseKind where
  | default | terminal | eventConfirmation
  deriving DecidableEq

/-- A command with what the transport needs to answer it. -/
structure STKSession where
  ref : Nat
  command : Option Command
  responseKind : ResponseKind := .default
  deriving DecidableEq

/-- `isModemOwnedBIPCommand` -/
def isModemOwnedBIPCommand : Command → Bool
  | .openChannel _ | .closeChannel _ | .receiveData _ | .sendData _ => true
  | _ => false

/-- `responseForCommand` -/
def responseForCommand (cmd : Command) (response : TerminalResponse) : TerminalResponse :=
  if cmd.frame.isPartial ∧ response.result = ResultCode.commandPerformed then
    { response with result := ResultCode.partialComprehension }
  else response

/-- The errors `Handle` returns. -/
inductive HandleError (ε : Type) where
  /-- `handling STK command: command is nil` -/
  | commandNil
  /-- The error of a callback, or of the transport. -/
  | cause (err : ε)
  deriving DecidableEq

/-- What a `Handle` did. -/
structure Handled (ε : Type) where
  /-- The callbacks it called. -/
  called : List CallbackName := []
  /-- The calls of `Respond`. -/
  responses : List (STKSession × TerminalResponse) := []
  /-- The errors it returned, joined. -/
  errors : List (HandleError ε) := []

/-- `STK.Handle`, over what `Respond` returns -/
def handle {ε : Type} (callbacks : STKCallbacks ε) (now : Time)
    (respond : STKSession → TerminalResponse → Option ε) (session : STKSession) : Handled ε :=
  -- The one way in which a response is sent, and what the transport returned for it.
  let send (response : TerminalResponse) : List (STKSession × TerminalResponse) × List (HandleError ε) :=
    ([(session, response)], ((respond session response).map .cause).toList)
  match session.command with
  | none => { errors := [.commandNil] }
  | some command =>
    if session.responseKind = .eventConfirmation ∧ isModemOwnedBIPCommand command then
      -- The modem only asks for the confirmation that its alpha or icon was shown.
      let (responses, errors) := send .ok
      { responses, errors }
    else
      let dispatched := dispatch callbacks now command
      match dispatched.outcome with
      | .error err =>
        let (responses, errors) := send (.ofResult ResultCode.terminalUnableToProcess)
        { called := dispatched.called, responses, errors := .cause err :: errors }
      | .ok response =>
        let (responses, errors) := send (responseForCommand command response)
        { called := dispatched.called, responses, errors }

end Wwan.Sim.Stk
