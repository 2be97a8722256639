import Wwan.Sim.StkText
import Wwan.Sim.Tlv

/-! The proactive commands of the toolkit: how their bytes are parsed, validated and decoded. -/

namespace Wwan.Sim.Stk

open Tlv (Item)

/-- The tag of a proactive command. -/
def tagProactiveCommand : UInt8 := 0xD0

/-! The tags of the items. -/

namespace Tag

def commandDetails : UInt8 := 0x01
def deviceIDs : UInt8 := 0x02
def result : UInt8 := 0x03
def duration : UInt8 := 0x04
def alphaID : UInt8 := 0x05
def address : UInt8 := 0x06
def subaddress : UInt8 := 0x08
def smsTPDU : UInt8 := 0x0B
def textString : UInt8 := 0x0D
def tone : UInt8 := 0x0E
def item : UInt8 := 0x0F
def itemID : UInt8 := 0x10
def responseLength : UInt8 := 0x11
def fileList : UInt8 := 0x12
def helpRequest : UInt8 := 0x15
def defaultText : UInt8 := 0x17
def eventList : UInt8 := 0x19
def cause : UInt8 := 0x1A
def locationStatus : UInt8 := 0x1B
def transactionID : UInt8 := 0x1C
def iconID : UInt8 := 0x1E
def itemIconList : UInt8 := 0x1F
def cardReaderID : UInt8 := 0x20
def cAPDU : UInt8 := 0x22
def rAPDU : UInt8 := 0x23
def timerID : UInt8 := 0x24
def timerValue : UInt8 := 0x25
def dateTimeZone : UInt8 := 0x26
def atCommand : UInt8 := 0x28
def atResponse : UInt8 := 0x29
def immediateResp : UInt8 := 0x2B
def language : UInt8 := 0x2D
def browserID : UInt8 := 0x30
def url : UInt8 := 0x31
def bearer : UInt8 := 0x32
def bearerDesc : UInt8 := 0x35
def channelData : UInt8 := 0x36
def channelDataLen : UInt8 := 0x37
def channelStatus : UInt8 := 0x38
def bufferSize : UInt8 := 0x39
def transportLevel : UInt8 := 0x3C
def otherAddress : UInt8 := 0x3E
def remoteEntity : UInt8 := 0x46
def networkAccess : UInt8 := 0x47
def textAttribute : UInt8 := 0x50
def frameID : UInt8 := 0x68

end Tag

/-- The type byte of a command, which need not be one that is known. -/
abbrev CommandType := UInt8

namespace CommandType

def refresh : CommandType := 0x01
def moreTime : CommandType := 0x02
def pollInterval : CommandType := 0x03
def pollingOff : CommandType := 0x04
def setupEventList : CommandType := 0x05
def setupCall : CommandType := 0x10
def sendSS : CommandType := 0x11
def sendUSSD : CommandType := 0x12
def sendSMS : CommandType := 0x13
def sendDTMF : CommandType := 0x14
def launchBrowser : CommandType := 0x15
def playTone : CommandType := 0x20
def displayText : CommandType := 0x21
def getInkey : CommandType := 0x22
def getInput : CommandType := 0x23
def selectItem : CommandType := 0x24
def setupMenu : CommandType := 0x25
def provideLocalInfo : CommandType := 0x26
def timerManagement : CommandType := 0x27
def setupIdleModeText : CommandType := 0x28
def performCardAPDU : CommandType := 0x30
def powerOnCard : CommandType := 0x31
def powerOffCard : CommandType := 0x32
def getReaderStatus : CommandType := 0x33
def runATCommand : CommandType := 0x34
def languageNotify : CommandType := 0x35
def openChannel : CommandType := 0x40
def closeChannel : CommandType := 0x41
def receiveData : CommandType := 0x42
def sendData : CommandType := 0x43
def getChannelStatus : CommandType := 0x44
def serviceSearch : CommandType := 0x45
def getServiceInfo : CommandType := 0x46
def declareService : CommandType := 0x47
def frames : CommandType := 0x50
def getFramesStatus : CommandType := 0x51
def retrieveMultimedia : CommandType := 0x60
def submitMultimedia : CommandType := 0x61
def displayMultimedia : CommandType := 0x62
def activate : CommandType := 0x70
def contactlessState : CommandType := 0x71
def commandContainer : CommandType := 0x72

end CommandType

/-- The result byte of a terminal response. -/
abbrev ResultCode := UInt8

namespace ResultCode

def commandPerformed : ResultCode := 0x00
def partialComprehension : ResultCode := 0x01
def terminalUnableToProcess : ResultCode := 0x20
def commandBeyondTerminalCapabilities : ResultCode := 0x30
def commandTypeNotUnderstood : ResultCode := 0x31
def commandDataNotUnderstood : ResultCode := 0x32
def requiredValuesMissing : ResultCode := 0x36

end ResultCode

/-- A device between which commands go. -/
abbrev DeviceID := UInt8

namespace DeviceID

def uicc : DeviceID := 0x81
def terminal : DeviceID := 0x82
def channel : DeviceID := 0x20
def channel1 : DeviceID := 0x21
def channel7 : DeviceID := 0x27

end DeviceID

/-- What a command is. -/
structure CommandDetails where
  number : UInt8
  type : CommandType
  qualifier : UInt8
  deriving DecidableEq

/-- Between whom a command goes. -/
structure DeviceIdentities where
  source : DeviceID
  destination : DeviceID
  deriving DecidableEq

/-- What all commands have. -/
structure CommandFrame where
  details : CommandDetails
  devices : DeviceIdentities
  /-- The field `Partial`. -/
  isPartial : Bool := false
  tlvs : List Item
  raw : Bytes
  deriving DecidableEq

/-- The errors of the parser, with the arguments their texts format. -/
inductive CommandError where
  /-- `parsing proactive command: %w` -/
  | ber (cause : Tlv.Error)
  /-- `parsing proactive command: BER tag 0x%02X, want 0x%02X` -/
  | berTag (tag : UInt8)
  /-- `parsing proactive command TLVs: %w` -/
  | tlvs (cause : Tlv.Error)
  /-- `parsing proactive command: command details missing` -/
  | detailsMissing
  /-- `parsing command details: value length %d, want at least %d` -/
  | detailsLength (length : Nat)
  /-- `parsing proactive command: TLV 0x%02X missing` -/
  | missingTLV (tag : UInt8)
  /-- `parsing proactive command: TLV 0x%02X length %d, want at least %d` -/
  | shortTLV (tag : UInt8) (length minLen : Nat)
  /-- `parsing proactive command: item missing` -/
  | itemMissing
  /-- `parsing proactive command: item is truncated` -/
  | itemTruncated
  /-- `parsing proactive command: unexpected comprehension TLV 0x%02X` -/
  | unexpectedTLV (tag : UInt8)
  /-- `parsing %s: %w`, with a text of its own for every place -/
  | text (what : String) (cause : TextError)
  /-- `parsing menu item %d: %w` -/
  | menuItem (identifier : UInt8) (cause : TextError)
  deriving DecidableEq

/-- The items of a body, up to the first that is malformed; every item takes a byte of the fuel. -/
def commandTLVsFrom : Nat → Bytes → List Item × Option Tlv.Error
  | _, [] => ([], none)
  | 0, _ => ([], none)
  | fuel + 1, data =>
    match Tlv.consume data with
    | .error err => ([], some err)
    | .ok (item, consumed) =>
      let (items, err) := commandTLVsFrom fuel (data.drop consumed)
      (item :: items, err)

/-- The items of a body, and why there are no more. -/
def commandTLVs (data : Bytes) : List Item × Option Tlv.Error :=
  -- No item is empty, so the body has no more items than bytes.
  commandTLVsFrom data.length data

/-- `unmarshalCommandFrame`, with the error of the items beside the frame they leave -/
def unmarshalCommandFrame (data : Bytes) : Go CommandError (CommandFrame × Option Tlv.Error) := do
  let (tag, body) ←
    match Tlv.unwrapBER data with
    | .ok unwrapped => pure unwrapped
    | .error err => Go.fail (.ber err)
  if tag ≠ tagProactiveCommand then Go.fail (.berTag tag)
  else
    let (items, tlvErr) := commandTLVs body
    match Tlv.find items Tag.commandDetails with
    | none =>
      match tlvErr with
      | some err => Go.fail (.tlvs err)
      | none => Go.fail .detailsMissing
    | some item =>
      match item.value with
      | number :: type :: qualifier :: _ =>
        let devices : DeviceIdentities :=
          match (Tlv.find items Tag.deviceIDs).map Item.value with
          | some (source :: destination :: _) => { source, destination }
          | _ => { source := DeviceID.uicc, destination := DeviceID.terminal }
        return ({ details := { number, type, qualifier }, devices, tlvs := items, raw := data }, tlvErr)
      | value => Go.fail (.detailsLength value.length)

/-! Validation. -/

/-- An error of the validation, with the result it is answered with. -/
structure ValidationError where
  result : ResultCode
  err : CommandError
  deriving DecidableEq

/-- An item that a command must have. -/
structure CommandTLVSpec where
  tag : UInt8
  minLen : Nat := 0
  deriving DecidableEq

/-- `requireTLV` -/
def requireTLV (tlvs : List Item) (spec : CommandTLVSpec) : Except ValidationError Unit :=
  match Tlv.find tlvs spec.tag with
  | none => .error { result := ResultCode.requiredValuesMissing, err := .missingTLV spec.tag }
  | some item =>
    if item.value.length < spec.minLen then
      .error { result := ResultCode.commandDataNotUnderstood,
               err := .shortTLV spec.tag item.value.length spec.minLen }
    else .ok ()

def deviceIdentitiesTLV : CommandTLVSpec := { tag := Tag.deviceIDs, minLen := 2 }
def textStringTLV : CommandTLVSpec := { tag := Tag.textString, minLen := 1 }
def responseLengthTLV : CommandTLVSpec := { tag := Tag.responseLength, minLen := 2 }
def eventListTLV : CommandTLVSpec := { tag := Tag.eventList }
def bufferSizeTLV : CommandTLVSpec := { tag := Tag.bufferSize, minLen := 2 }
def channelDataLenTLV : CommandTLVSpec := { tag := Tag.channelDataLen, minLen := 1 }
def channelDataTLV : CommandTLVSpec := { tag := Tag.channelData }

/-- The types of the commands that are known. -/
def knownCommandTypes : List CommandType :=
  [CommandType.refresh, CommandType.moreTime, CommandType.pollInterval, CommandType.pollingOff,
   CommandType.setupEventList, CommandType.setupCall, CommandType.sendSS, CommandType.sendUSSD,
   CommandType.sendSMS, CommandType.sendDTMF, CommandType.launchBrowser, CommandType.playTone,
   CommandType.displayText, CommandType.getInkey, CommandType.getInput, CommandType.selectItem,
   CommandType.setupMenu, CommandType.provideLocalInfo, CommandType.timerManagement,
   CommandType.setupIdleModeText, CommandType.performCardAPDU, CommandType.powerOnCard,
   CommandType.powerOffCard, CommandType.getReaderStatus, CommandType.runATCommand,
   CommandType.languageNotify, CommandType.openChannel, CommandType.closeChannel,
   CommandType.receiveData, CommandType.sendData, CommandType.getChannelStatus,
   CommandType.serviceSearch, CommandType.getServiceInfo, CommandType.declareService,
   CommandType.frames, CommandType.getFramesStatus, CommandType.retrieveMultimedia,
   CommandType.submitMultimedia, CommandType.displayMultimedia, CommandType.activate,
   CommandType.contactlessState, CommandType.commandContainer]

/-- `knownCommandType` -/
def knownCommandType (command : CommandType) : Bool := knownCommandTypes.contains command

/-- The items that any command may have. -/
def knownCommandTLVs : List UInt8 :=
  [Tag.result, Tag.duration, Tag.alphaID, Tag.address, Tag.subaddress, Tag.smsTPDU, Tag.textString, Tag.tone,
   Tag.item, Tag.itemID, Tag.responseLength, Tag.fileList, Tag.helpRequest, Tag.defaultText, Tag.eventList,
   Tag.cause, Tag.locationStatus, Tag.transactionID, Tag.iconID, Tag.itemIconList, Tag.cardReaderID,
   Tag.cAPDU, Tag.rAPDU, Tag.timerID, Tag.timerValue, Tag.dateTimeZone, Tag.atCommand, Tag.atResponse,
   Tag.immediateResp, Tag.language, Tag.browserID, Tag.url, Tag.bearer, Tag.bearerDesc, Tag.channelData,
   Tag.channelDataLen, Tag.channelStatus, Tag.bufferSize, Tag.transportLevel, Tag.otherAddress,
   Tag.remoteEntity, Tag.networkAccess, Tag.textAttribute, Tag.frameID]

/-- The items that a command may have besides its details and devices. -/
def expectedCommandTLVs (command : CommandType) : List UInt8 :=
  if command = CommandType.displayText then
    [Tag.textString, Tag.iconID, Tag.immediateResp, Tag.duration, Tag.textAttribute, Tag.frameID]
  else if command = CommandType.getInkey then
    [Tag.textString, Tag.iconID, Tag.duration, Tag.textAttribute, Tag.frameID]
  else if command = CommandType.getInput then
    [Tag.textString, Tag.responseLength, Tag.defaultText, Tag.iconID, Tag.duration, Tag.textAttribute,
     Tag.frameID]
  else if command = CommandType.setupMenu ∨ command = CommandType.selectItem then
    [Tag.alphaID, Tag.item, Tag.itemID, Tag.iconID, Tag.itemIconList, Tag.helpRequest, Tag.textAttribute,
     Tag.frameID]
  else if command = CommandType.setupEventList then [Tag.eventList]
  else if command = CommandType.openChannel then
    [Tag.alphaID, Tag.iconID, Tag.address, Tag.subaddress, Tag.duration, Tag.bearerDesc, Tag.bufferSize,
     Tag.otherAddress, Tag.textString, Tag.transportLevel, Tag.remoteEntity, Tag.networkAccess,
     Tag.textAttribute, Tag.frameID]
  else if command = CommandType.closeChannel then [Tag.alphaID, Tag.iconID, Tag.textAttribute, Tag.frameID]
  else if command = CommandType.receiveData then
    [Tag.alphaID, Tag.iconID, Tag.channelDataLen, Tag.textAttribute, Tag.frameID]
  else if command = CommandType.sendData then
    [Tag.alphaID, Tag.iconID, Tag.channelData, Tag.textAttribute, Tag.frameID]
  else if command = CommandType.getChannelStatus then
    [Tag.alphaID, Tag.iconID, Tag.textAttribute, Tag.frameID]
  else knownCommandTLVs

/-- `expectedCommandTLV` -/
def expectedCommandTLV (command : CommandType) (tag : UInt8) : Bool :=
  let tag := tag &&& 0x7f
  if tag = Tag.commandDetails ∨ tag = Tag.deviceIDs then true
  else if !knownCommandType command then true
  else (expectedCommandTLVs command).contains tag

/-- `validateItems` -/
def validateItems (items : List Item) : Except ValidationError Unit :=
  if items.any fun item => item.value.length = 0 then
    .error { result := ResultCode.commandDataNotUnderstood, err := .itemTruncated }
  else .ok ()

namespace CommandFrame

/-- `validateRequiredTLVs` -/
def validateRequiredTLVs (c : CommandFrame) : Except ValidationError Unit :=
  let type := c.details.type
  if type = CommandType.displayText ∨ type = CommandType.getInkey then requireTLV c.tlvs textStringTLV
  else if type = CommandType.getInput then do
    requireTLV c.tlvs textStringTLV
    requireTLV c.tlvs responseLengthTLV
  else if type = CommandType.selectItem then
    let items := Tlv.all c.tlvs Tag.item
    if items.length = 0 then .error { result := ResultCode.requiredValuesMissing, err := .itemMissing }
    else validateItems items
  else if type = CommandType.setupMenu then validateItems (Tlv.all c.tlvs Tag.item)
  else if type = CommandType.setupEventList then requireTLV c.tlvs eventListTLV
  else if type = CommandType.openChannel then requireTLV c.tlvs bufferSizeTLV
  else if type = CommandType.receiveData then requireTLV c.tlvs channelDataLenTLV
  else if type = CommandType.sendData then requireTLV c.tlvs channelDataTLV
  else .ok ()

/-- The loop of `validateComprehension` over the items still to look at. -/
def comprehend (type : CommandType) (isPartial : Bool) : List Item → Except ValidationError Bool
  | [] => .ok isPartial
  | item :: items =>
    let tag := item.comprehensionTag
    if expectedCommandTLV type tag then comprehend type isPartial items
    else if item.comprehensionRequired then
      .error { result := ResultCode.commandDataNotUnderstood, err := .unexpectedTLV tag }
    else comprehend type true items

/-- Whether items are not expected, all of which can be left out. -/
def validateComprehension (c : CommandFrame) : Except ValidationError Bool :=
  comprehend c.details.type false c.tlvs

/-- `validate` -/
def validate (c : CommandFrame) : Except ValidationError Bool := do
  requireTLV c.tlvs deviceIdentitiesTLV
  if !knownCommandType c.details.type then return false
  else
    c.validateRequiredTLVs
    c.validateComprehension

end CommandFrame

/-! The decoded commands. -/

/-- How long something takes. -/
structure Duration where
  unit : UInt8
  interval : UInt8
  deriving DecidableEq

/-- An icon of the card. -/
structure Icon where
  selfExplanatory : Bool
  record : UInt8
  deriving DecidableEq

/-- An entry of a menu. -/
structure MenuItem where
  identifier : UInt8
  text : GoString
  deriving DecidableEq

/-- How long an answer may be. -/
structure ResponseLength where
  min : UInt8 := 0
  max : UInt8 := 0
  deriving DecidableEq

/-- The bearer of a channel. -/
structure BearerDescription where
  type : UInt8
  parameters : Bytes
  deriving DecidableEq

/-- An address of a channel. -/
structure OtherAddress where
  type : UInt8 := 0
  address : Bytes := []
  deriving DecidableEq

/-- The protocol and the port of a channel. -/
structure TransportLevel where
  protocol : UInt8
  port : Nat
  deriving DecidableEq

/-- The other end of a channel. -/
structure RemoteEntityAddress where
  coding : UInt8
  address : Bytes
  deriving DecidableEq

/-- `DisplayTextCommand` -/
structure DisplayTextCommand extends CommandFrame where
  text : TextString := {}
  highPriority : Bool
  userClear : Bool
  immediateResponse : Bool := false
  duration : Option Duration := none
  icon : Option Icon := none
  deriving DecidableEq

/-- `GetInkeyCommand` -/
structure GetInkeyCommand extends CommandFrame where
  text : TextString := {}
  alphabet : Bool
  yesNo : Bool
  ucs2 : Bool
  packed : Bool := false
  immediateDigitResponse : Bool
  helpAvailable : Bool
  duration : Option Duration := none
  deriving DecidableEq

/-- `GetInputCommand` -/
structure GetInputCommand extends CommandFrame where
  text : TextString := {}
  defaultText : Option TextString := none
  length : ResponseLength := {}
  alphabet : Bool
  ucs2 : Bool
  packed : Bool
  hideInput : Bool
  helpAvailable : Bool
  deriving DecidableEq

/-- `MenuCommand` -/
structure MenuCommand extends CommandFrame where
  title : Option GoString := none
  items : List MenuItem := []
  defaultItem : UInt8 := 0
  helpAvailable : Bool
  deriving DecidableEq

/-- `SetupEventListCommand` -/
structure SetupEventListCommand extends CommandFrame where
  events : List UInt8 := []
  deriving DecidableEq

/-- `OpenChannelCommand` -/
structure OpenChannelCommand extends CommandFrame where
  alpha : Option GoString := none
  icon : Option Icon := none
  bearerDescription : Option BearerDescription := none
  bufferSize : Nat := 0
  networkAccessName : GoString := []
  otherAddresses : List OtherAddress := []
  localAddress : Option OtherAddress := none
  destinationAddress : Option OtherAddress := none
  remoteEntityAddress : Option RemoteEntityAddress := none
  transportLevel : Option TransportLevel := none
  login : Option TextString := none
  password : Option TextString := none
  immediate : Bool
  automaticReconnection : Bool
  background : Bool
  dnsServerRequest : Bool
  launchParameters : Bool
  deriving DecidableEq

/-- `CloseChannelCommand` -/
structure CloseChannelCommand extends CommandFrame where
  channelID : UInt8
  alpha : Option GoString := none
  icon : Option Icon := none
  reuseNetworkAccess : Bool
  tcpListenAfterClose : Bool
  deriving DecidableEq

/-- `ReceiveDataCommand` -/
structure ReceiveDataCommand extends CommandFrame where
  channelID : UInt8
  alpha : Option GoString := none
  icon : Option Icon := none
  length : UInt8 := 0
  deriving DecidableEq

/-- `SendDataCommand` -/
structure SendDataCommand extends CommandFrame where
  channelID : UInt8
  alpha : Option GoString := none
  icon : Option Icon := none
  data : Bytes := []
  sendImmediately : Bool
  deriving DecidableEq

/-- `GetChannelStatusCommand` -/
structure GetChannelStatusCommand extends CommandFrame where
  alpha : Option GoString := none
  icon : Option Icon := none
  deriving DecidableEq

/-- `SimpleCommand` -/
structure SimpleCommand extends CommandFrame where
  text : Option TextString := none
  alpha : Option GoString := none
  address : Bytes := []
  subaddress : Bytes := []
  smsTPDU : Bytes := []
  url : GoString := []
  language : GoString := []
  duration : Option Duration := none
  eventList : List UInt8 := []
  bearer : Bytes := []
  networkAccess : Bytes := []
  cAPDU : Bytes := []
  atCommand : Bytes := []
  deriving DecidableEq

/-- `MalformedCommand` -/
structure MalformedCommand extends CommandFrame where
  err : CommandError
  responseCode : ResultCode
  deriving DecidableEq

/-- The commands behind the interface `Command`. -/
inductive Command where
  | malformed (cmd : MalformedCommand)
  | unknown (frame : CommandFrame)
  | displayText (cmd : DisplayTextCommand)
  | getInkey (cmd : GetInkeyCommand)
  | getInput (cmd : GetInputCommand)
  | setupMenu (cmd : MenuCommand)
  | selectItem (cmd : MenuCommand)
  | setupEventList (cmd : SetupEventListCommand)
  | openChannel (cmd : OpenChannelCommand)
  | closeChannel (cmd : CloseChannelCommand)
  | receiveData (cmd : ReceiveDataCommand)
  | sendData (cmd : SendDataCommand)
  | getChannelStatus (cmd : GetChannelStatusCommand)
  | simple (cmd : SimpleCommand)
  deriving DecidableEq

/-- What a command has with all commands. -/
def Command.frame : Command → CommandFrame
  | .malformed cmd => cmd.toCommandFrame
  | .unknown frame => frame
  | .displayText cmd => cmd.toCommandFrame
  | .getInkey cmd => cmd.toCommandFrame
  | .getInput cmd => cmd.toCommandFrame
  | .setupMenu cmd => cmd.toCommandFrame
  | .selectItem cmd => cmd.toCommandFrame
  | .setupEventList cmd => cmd.toCommandFrame
  | .openChannel cmd => cmd.toCommandFrame
  | .closeChannel cmd => cmd.toCommandFrame
  | .receiveData cmd => cmd.toCommandFrame
  | .sendData cmd => cmd.toCommandFrame
  | .getChannelStatus cmd => cmd.toCommandFrame
  | .simple cmd => cmd.toCommandFrame

/-! How the items of a command are decoded. -/

/-- Whether a bit of a qualifier is set. -/
def qualified (frame : CommandFrame) (bit : UInt8) : Bool := frame.details.qualifier &&& bit ≠ 0

/-- `toDuration` -/
def toDuration (tlvs : List Item) : Option Duration :=
  match (Tlv.find tlvs Tag.duration).map Item.value with
  | some (unit :: interval :: _) => some { unit, interval }
  | _ => none

/-- `toIcon` -/
def toIcon (tlvs : List Item) : Option Icon :=
  match (Tlv.find tlvs Tag.iconID).map Item.value with
  | some (selfExplanatory :: record :: _) => some { selfExplanatory := selfExplanatory ≠ 0, record }
  | _ => none

/-- The value of an item, empty if there is none. -/
def valueOf (tlvs : List Item) (tag : UInt8) : Bytes := ((Tlv.find tlvs tag).map Item.value).getD []

/-- Name the place of an error of a text. -/
def placed {α : Type} (place : TextError → CommandError) : Go TextError α → Go CommandError α
  | .ok value => .ok value
  | .error (.err err) => Go.fail (place err)
  | .error .outOfRange => .error .outOfRange

/-- The text string of an item, if there is one. -/
def textOf (what : String) : Option Item → Go CommandError (Option TextString)
  | none => return none
  | some item => return some (← placed (.text what) (TextString.unmarshalBinary item.value))

/-- The alpha identifier of an item, if there is one. -/
def alphaOf (what : String) (tlvs : List Item) : Go CommandError (Option GoString) :=
  match Tlv.find tlvs Tag.alphaID with
  | none => return none
  | some item => return some (← placed (.text what) (decodeAlphaIdentifier item.value))

/-- `channelIdentifier` -/
def channelIdentifier (device : DeviceID) : UInt8 :=
  if DeviceID.channel1 ≤ device ∧ device ≤ DeviceID.channel7 then device - DeviceID.channel else 0

/-- `DisplayTextCommand.UnmarshalFrame` -/
def DisplayTextCommand.unmarshalFrame (frame : CommandFrame) : Go CommandError DisplayTextCommand := do
  let text ← textOf "display text" (Tlv.find frame.tlvs Tag.textString)
  return { frame with
    highPriority := qualified frame 0x01
    userClear := qualified frame 0x80
    text := text.getD {}
    immediateResponse := (Tlv.find frame.tlvs Tag.immediateResp).isSome
    duration := toDuration frame.tlvs
    icon := toIcon frame.tlvs }

/-- `GetInkeyCommand.UnmarshalFrame` -/
def GetInkeyCommand.unmarshalFrame (frame : CommandFrame) : Go CommandError GetInkeyCommand := do
  let text ← textOf "get inkey text" (Tlv.find frame.tlvs Tag.textString)
  return { frame with
    alphabet := qualified frame 0x01
    ucs2 := qualified frame 0x02
    yesNo := qualified frame 0x04
    immediateDigitResponse := qualified frame 0x08
    helpAvailable := qualified frame 0x80
    text := text.getD {}
    duration := toDuration frame.tlvs }

/-- `GetInputCommand.UnmarshalFrame` -/
def GetInputCommand.unmarshalFrame (frame : CommandFrame) : Go CommandError GetInputCommand := do
  let text ← textOf "get input text" (Tlv.find frame.tlvs Tag.textString)
  let defaultText ← textOf "default text" (Tlv.find frame.tlvs Tag.defaultText)
  let length : ResponseLength :=
    match (Tlv.find frame.tlvs Tag.responseLength).map Item.value with
    | some (min :: max :: _) => { min, max }
    | _ => {}
  return { frame with
    alphabet := qualified frame 0x01
    ucs2 := qualified frame 0x02
    hideInput := qualified frame 0x04
    packed := qualified frame 0x08
    helpAvailable := qualified frame 0x80
    text := text.getD {}
    defaultText
    length }

/-- The loop of `MenuCommand.UnmarshalFrame` over the entries. -/
def menuItems : List Item → Go CommandError (List MenuItem)
  | [] => return []
  | item :: items =>
    match item.value with
    | [] => menuItems items
    | identifier :: value => do
      let text ← placed (.menuItem identifier) (decodeAlphaIdentifier value)
      return { identifier, text } :: (← menuItems items)

/-- `MenuCommand.UnmarshalFrame` -/
def MenuCommand.unmarshalFrame (frame : CommandFrame) : Go CommandError MenuCommand := do
  let title ← alphaOf "menu title" frame.tlvs
  let items ← menuItems (Tlv.all frame.tlvs Tag.item)
  return { frame with
    helpAvailable := qualified frame 0x80
    title
    defaultItem := (valueOf frame.tlvs Tag.itemID).headD 0
    items }

/-- `SetupEventListCommand.UnmarshalFrame` -/
def SetupEventListCommand.unmarshalFrame (frame : CommandFrame) : Go CommandError SetupEventListCommand :=
  return { frame with events := valueOf frame.tlvs Tag.eventList }

/-- `OtherAddress.UnmarshalBinary` -/
def OtherAddress.unmarshalBinary : Bytes → OtherAddress
  | [] => {}
  | type :: address => { type, address }

/-- `OpenChannelCommand.UnmarshalFrame` -/
def OpenChannelCommand.unmarshalFrame (frame : CommandFrame) : Go CommandError OpenChannelCommand := do
  let alpha ← alphaOf "open channel alpha identifier" frame.tlvs
  let bearerDescription : Option BearerDescription :=
    match (Tlv.find frame.tlvs Tag.bearerDesc).map Item.value with
    | some (type :: parameters) => some { type, parameters }
    | _ => none
  let bufferSize :=
    match valueOf frame.tlvs Tag.bufferSize with
    | high :: low :: _ => high.toNat * 256 + low.toNat
    | _ => 0
  let transportLevel : Option TransportLevel :=
    match (Tlv.find frame.tlvs Tag.transportLevel).map Item.value with
    | some [protocol, high, low] => some { protocol, port := high.toNat * 256 + low.toNat }
    | _ => none
  let otherAddresses :=
    (Tlv.all frame.tlvs Tag.otherAddress).map fun item => OtherAddress.unmarshalBinary item.value
  -- Without a transport level, the first address is that of the terminal.
  let destinationAddress := if transportLevel.isNone then none else otherAddresses.getLast?
  let localAddress := if transportLevel.isNone ∨ otherAddresses.length > 1 then otherAddresses.head? else none
  let remoteEntityAddress : Option RemoteEntityAddress :=
    match (Tlv.find frame.tlvs Tag.remoteEntity).map Item.value with
    | some (coding :: address) => some { coding, address }
    | _ => none
  let texts := Tlv.all frame.tlvs Tag.textString
  let login ← textOf "open channel login" texts[0]?
  let password ← textOf "open channel password" texts[1]?
  return { frame with
    immediate := qualified frame 0x01
    automaticReconnection := qualified frame 0x02
    background := qualified frame 0x04
    dnsServerRequest := qualified frame 0x08
    launchParameters := qualified frame 0x01
    alpha
    icon := toIcon frame.tlvs
    bearerDescription
    bufferSize
    networkAccessName := valueOf frame.tlvs Tag.networkAccess
    transportLevel
    otherAddresses
    localAddress
    destinationAddress
    remoteEntityAddress
    login
    password }

/-- `CloseChannelCommand.UnmarshalFrame` -/
def CloseChannelCommand.unmarshalFrame (frame : CommandFrame) : Go CommandError CloseChannelCommand := do
  let alpha ← alphaOf "close channel alpha identifier" frame.tlvs
  return { frame with
    channelID := channelIdentifier frame.devices.destination
    reuseNetworkAccess := qualified frame 0x01
    tcpListenAfterClose := qualified frame 0x01
    alpha
    icon := toIcon frame.tlvs }

/-- `ReceiveDataCommand.UnmarshalFrame` -/
def ReceiveDataCommand.unmarshalFrame (frame : CommandFrame) : Go CommandError ReceiveDataCommand := do
  let alpha ← alphaOf "receive data alpha identifier" frame.tlvs
  return { frame with
    channelID := channelIdentifier frame.devices.destination
    alpha
    icon := toIcon frame.tlvs
    length := (valueOf frame.tlvs Tag.channelDataLen).headD 0 }

/-- `SendDataCommand.UnmarshalFrame` -/
def SendDataCommand.unmarshalFrame (frame : CommandFrame) : Go CommandError SendDataCommand := do
  let alpha ← alphaOf "send data alpha identifier" frame.tlvs
  return { frame with
    channelID := channelIdentifier frame.devices.destination
    sendImmediately := qualified frame 0x01
    alpha
    icon := toIcon frame.tlvs
    data := valueOf frame.tlvs Tag.channelData }

/-- `GetChannelStatusCommand.UnmarshalFrame` -/
def GetChannelStatusCommand.unmarshalFrame (frame : CommandFrame) :
    Go CommandError GetChannelStatusCommand := do
  let alpha ← alphaOf "channel status alpha identifier" frame.tlvs
  return { frame with alpha, icon := toIcon frame.tlvs }

/-- `SimpleCommand.UnmarshalFrame` -/
def SimpleCommand.unmarshalFrame (frame : CommandFrame) : Go CommandError SimpleCommand := do
  let text ← textOf "command text" (Tlv.find frame.tlvs Tag.textString)
  let alpha ← alphaOf "command alpha identifier" frame.tlvs
  return { frame with
    text
    alpha
    address := valueOf frame.tlvs Tag.address
    subaddress := valueOf frame.tlvs Tag.subaddress
    smsTPDU := valueOf frame.tlvs Tag.smsTPDU
    url := valueOf frame.tlvs Tag.url
    language := valueOf frame.tlvs Tag.language
    duration := toDuration frame.tlvs
    eventList := valueOf frame.tlvs Tag.eventList
    bearer := valueOf frame.tlvs Tag.bearer
    networkAccess := valueOf frame.tlvs Tag.networkAccess
    cAPDU := valueOf frame.tlvs Tag.cAPDU
    atCommand := valueOf frame.tlvs Tag.atCommand }

namespace CommandFrame

/-- The decoding behind the switch of `Command`. -/
def decode (c : CommandFrame) : Go CommandError Command :=
  let type := c.details.type
  if type = CommandType.displayText then return .displayText (← DisplayTextCommand.unmarshalFrame c)
  else if type = CommandType.getInkey then return .getInkey (← GetInkeyCommand.unmarshalFrame c)
  else if type = CommandType.getInput then return .getInput (← GetInputCommand.unmarshalFrame c)
  else if type = CommandType.setupMenu then return .setupMenu (← MenuCommand.unmarshalFrame c)
  else if type = CommandType.selectItem then return .selectItem (← MenuCommand.unmarshalFrame c)
  else if type = CommandType.setupEventList then
    return .setupEventList (← SetupEventListCommand.unmarshalFrame c)
  else if type = CommandType.openChannel then return .openChannel (← OpenChannelCommand.unmarshalFrame c)
  else if type = CommandType.closeChannel then return .closeChannel (← CloseChannelCommand.unmarshalFrame c)
  else if type = CommandType.receiveData then return .receiveData (← ReceiveDataCommand.unmarshalFrame c)
  else if type = CommandType.sendData then return .sendData (← SendDataCommand.unmarshalFrame c)
  else if type = CommandType.getChannelStatus then
    return .getChannelStatus (← GetChannelStatusCommand.unmarshalFrame c)
  else return .simple (← SimpleCommand.unmarshalFrame c)

/-- `CommandFrame.Command` -/
def command (c : CommandFrame) : Go CommandError Command :=
  match c.validate with
  | .error invalid => return .malformed { c with err := invalid.err, responseCode := invalid.result }
  | .ok isPartial =>
    let c := { c with isPartial }
    if !knownCommandType c.details.type then return .unknown c
    else
      match c.decode with
      -- The deferred function turns an error into a command that is malformed.
      | .error (.err err) =>
        return .malformed { c with err, responseCode := ResultCode.commandDataNotUnderstood }
      | decoded => decoded

end CommandFrame

/-- `ProactiveCommand.UnmarshalBinary` -/
def ProactiveCommand.unmarshalBinary (data : Bytes) : Go CommandError Command := do
  let (frame, tlvErr) ← unmarshalCommandFrame data
  match tlvErr with
  | some cause =>
    return .malformed { frame with err := .tlvs cause, responseCode := ResultCode.commandDataNotUnderstood }
  | none => frame.command

end Wwan.Sim.Stk
