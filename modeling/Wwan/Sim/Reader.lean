import Wwan.Lib.Call
import Wwan.Lib.Machine
import Wwan.Sim.SimFile

/-! The APDU reader of SIM files, which keeps the file that it selected last in mind. -/

namespace Wwan.Sim

/-! The card. -/

/-- A file of the card, in an application or under the master file. -/
structure FileRef where
  aid : Bytes := []
  path : Bytes := []
  deriving DecidableEq

/-- A command that the reader sends. -/
inductive ApduCommand where
  | selectID (id : Bytes)
  | selectName (name : Bytes)
  | selectPath (path : Bytes)
  | binaryRead (offset : UInt16) (length : UInt8)
  | recordRead (record length : UInt8)
  | authenticate3G (rand autn : Bytes)
  deriving DecidableEq

/-- The data field of a command. -/
def ApduCommand.data : ApduCommand → Bytes
  | .selectID value | .selectName value | .selectPath value => value
  | .binaryRead _ _ | .recordRead _ _ => []
  | .authenticate3G rand autn => UInt8.ofNat rand.length :: rand ++ UInt8.ofNat autn.length :: autn

/-- `masterFile` -/
def masterFile : Bytes := [0x3F, 0x00]

/-- `efDirFile` -/
def efDirFile : Bytes := [0x2F, 0x00]

/-- `maxShortCommandData` -/
def maxShortCommandData : Nat := 255

/-- A card, whose files are the values of a type. -/
structure Card (π : Type) where
  master : π
  application : Bytes → π
  /-- The file with this identifier, as seen from the selected file. -/
  child : π → Bytes → π
  /-- The file at this path, as seen from the selected file. -/
  at_ : π → Bytes → π
  /-- What a SELECT of the file answers. -/
  fci : π → Bytes
  /-- What READ BINARY answers while the file is selected. -/
  binary : π → UInt16 → UInt8 → Bytes
  /-- What READ RECORD answers while the file is selected. -/
  record : π → UInt8 → UInt8 → Bytes
  /-- What AUTHENTICATE answers while the file is selected. -/
  authenticate : π → Bytes → Bytes

namespace Card

variable {π : Type} (card : Card π)

/-- The selected file after a command that is carried out. -/
def moved (place : π) : ApduCommand → π
  | .selectID id => if id = masterFile then card.master else card.child place id
  | .selectName name => card.application name
  | .selectPath path => card.at_ place path
  | .binaryRead _ _ | .recordRead _ _ | .authenticate3G _ _ => place

/-- What a command answers that was carried out and left this file selected. -/
def answer (place : π) : ApduCommand → Bytes
  | .selectID _ | .selectName _ | .selectPath _ => card.fci place
  | .binaryRead offset length => card.binary place offset length
  | .recordRead record length => card.record place record length
  | .authenticate3G rand autn => card.authenticate place (ApduCommand.authenticate3G rand autn).data

end Card

/-- Why an exchange has no answer for the reader. -/
inductive TransmitError where
  /-- The transmitter or the context failed. -/
  | transmitter
  /-- `malformed APDU response` -/
  | malformedResponse
  /-- `unexpected status word` -/
  | status (sw : UInt16)
  /-- The answer to a SELECT is not what the card would say, and cannot be parsed. -/
  | unparsable
  deriving DecidableEq

/-- How the card and its transmitter take a command with the GET RESPONSEs that follow it. -/
inductive Turn where
  /-- It is carried out, and answered with status 9000 and the data. -/
  | done
  /-- It fails for the reader, although the card may have carried it out. -/
  | failed (err : TransmitError) (carriedOut : Bool)
  deriving DecidableEq

/-! The reader. -/

/-- Why a call of the reader fails. -/
inductive ReadError where
  /-- `writing APDU request: data too long: got %d bytes` -/
  | tooLong (length : Nat)
  | transmit (err : TransmitError)
  | parse (err : FileError)
  /-- `selecting file: path is empty` -/
  | emptyPath
  /-- `reading EF_DIR: unexpected file structure` and its like -/
  | unexpectedStructure (what : String)
  /-- `reading transparent file: offset exceeds file size` -/
  | offsetExceedsSize
  /-- `reading record file: record number is zero` -/
  | recordZero
  /-- `reading record file: record length %d exceeds APDU limit` -/
  | recordLength (length : Nat)
  deriving DecidableEq

/-- The selection that the reader has in mind. -/
structure Selection where
  valid : Bool := false
  file : FileRef := {}
  info : FCI := {}
  deriving DecidableEq

/-- `selection.matches` -/
def Selection.matches (s : Selection) (file : FileRef) : Bool :=
  s.valid && s.file.aid == file.aid && s.file.path == file.path

/-- The reader with the card, and how the card will take the next commands. -/
structure World (π : Type) where
  selected : Selection := {}
  /-- The file that is selected on the card. -/
  place : π
  turns : List Turn := []

namespace Reader

variable {π : Type} (card : Card π)

/-- A call of the reader. -/
abbrev Op (π α : Type) := Call (World π) ReadError α

/-- Send a command with the GET RESPONSEs that follow it. A card that takes no more turns is gone. -/
def transmitCommand (cmd : ApduCommand) : Op π Bytes := do
  if cmd.data.length > maxShortCommandData then throw (.tooLong cmd.data.length)
  else
    let w ← get
    match w.turns with
    | [] => throw (.transmit .transmitter)
    -- The card carries the command out, and may have moved to another file.
    | .done :: turns =>
      set { w with place := card.moved w.place cmd, turns }
      return card.answer (card.moved w.place cmd) cmd
    | .failed err carriedOut :: turns =>
      -- The answer is lost, whether or not the card has moved.
      set { w with place := if carriedOut then card.moved w.place cmd else w.place, turns }
      throw (.transmit err)

/-- `decodeFCI` -/
def decodeFCI (cmd : ApduCommand) : Op π FCI := do
  let raw ← transmitCommand card cmd
  match FCI.unmarshalBinary raw with
  | .ok info => return info
  | .error err => throw (.parse err)

/-- `selectID` -/
def selectID (id : Bytes) : Op π FCI := decodeFCI card (.selectID id)

/-- `selectName` -/
def selectName (name : Bytes) : Op π FCI := decodeFCI card (.selectName name)

/-- `selectPath` -/
def selectPath (path : Bytes) : Op π FCI := decodeFCI card (.selectPath path)

/-- The first SELECT of `selectFile`: that of the application, or of the master file. -/
def selectRoot (file : FileRef) : Op π FCI :=
  if file.aid ≠ [] then selectName card file.aid else selectID card masterFile

/-- The second SELECT of `selectFile`: that of the file itself. -/
def selectLeaf (file : FileRef) : Op π FCI :=
  if file.path.length = 2 then selectID card file.path else selectPath card file.path

/-- `selectFile` -/
def selectFile (file : FileRef) : Op π FCI := do
  if file.path = [] then throw .emptyPath
  else
    let w ← get
    -- The file is selected already.
    if w.selected.matches file then return w.selected.info
    else
      -- The path is followed from the root of its application.
      let _ ← selectRoot card file
      let info ← selectLeaf card file
      modify fun w => { w with selected := { valid := true, file, info } }
      return info

/-- The rounds of `readBinaryRaw`; every one reads at least one byte of the fuel. -/
def readBinaryFrom : Nat → UInt16 → UInt16 → Bytes → Op π Bytes
  | 0, _, _, data => return data
  | fuel + 1, offset, length, data => do
    if length = 0 then return data
    else
      -- One command reads 255 bytes at most.
      let chunk := min length 0xFF
      let raw ← transmitCommand card (.binaryRead offset (UInt8.ofNat chunk.toNat))
      readBinaryFrom fuel (offset + chunk) (length - chunk) (data ++ raw)

/-- `readBinaryRaw` -/
def readBinaryRaw (offset length : UInt16) : Op π Bytes := readBinaryFrom card length.toNat offset length []

/-- `readRecordRaw` -/
def readRecordRaw (record length : UInt16) : Op π Bytes :=
  if record = 0 then throw .recordZero
  else if length > 0xFF then throw (.recordLength length.toNat)
  else transmitCommand card (.recordRead (UInt8.ofNat record.toNat) (UInt8.ofNat length.toNat))

/-- The rounds of `ListApplications` over the records of the directory. -/
def listRecords (recordSize : UInt16) : List Nat → List Application → Op π (List Application)
  | [], apps => return apps
  | recordID :: rest, apps => do
    let record ← readRecordRaw card (UInt16.ofNat recordID) recordSize
    match unmarshalEFDirRecord record with
    | .error err => throw (.parse err)
    -- A record without an AID is unused.
    | .ok parsed => listRecords recordSize rest (if parsed.aid = [] then apps else apps ++ [parsed])

/-- `ListApplications` -/
def listApplications : Op π (List Application) := do
  let _ ← selectID card masterFile
  let info ← selectID card efDirFile
  if info.fileStructure ≠ structureLinearFixed then throw (.unexpectedStructure "reading EF_DIR")
  else listRecords card info.recordSize (List.range' 1 info.recordCount.toNat) []

/-- `FileAttributes` -/
structure FileAttributes where
  fileStructure : UInt8
  fileType : UInt8
  recordSize : UInt16
  recordCount : UInt16
  fileSize : UInt16
  deriving DecidableEq

/-- The attributes that the information of a file holds. -/
def attributesOf (info : FCI) : FileAttributes :=
  { fileStructure := info.fileStructure
    fileType := info.fileType
    recordSize := info.recordSize
    recordCount := UInt16.ofNat info.recordCount.toNat
    fileSize := info.fileSize }

/-- `FileAttributes` -/
def fileAttributes (file : FileRef) : Op π FileAttributes := do
  let info ← selectFile card file
  return attributesOf info

/-- `ReadTransparent` -/
def readTransparent (file : FileRef) (offset length : UInt16) : Op π Bytes := do
  let info ← selectFile card file
  if info.fileStructure ≠ structureTransparent then throw (.unexpectedStructure "reading transparent file")
  -- No length means up to the end of the file.
  else if length = 0 then
    if offset > info.fileSize then throw .offsetExceedsSize
    else readBinaryRaw card offset (info.fileSize - offset)
  else readBinaryRaw card offset length

/-- `ReadRecord` -/
def readRecord (file : FileRef) (record length : UInt16) : Op π Bytes := do
  let info ← selectFile card file
  if info.fileStructure ≠ structureLinearFixed then throw (.unexpectedStructure "reading record file")
  else readRecordRaw card record (if length = 0 then info.recordSize else length)

/-- `Authenticate3G` -/
def authenticate3G (aid rand autn : Bytes) : Op π Bytes := do
  if aid ≠ [] then
    let _ ← selectName card aid
    modify fun w => { w with selected := {} }
  transmitCommand card (.authenticate3G rand autn)

/-- A call on the reader. -/
inductive Request where
  | listApplications
  | fileAttributes (file : FileRef)
  | readTransparent (file : FileRef) (offset length : UInt16)
  | readRecord (file : FileRef) (record length : UInt16)
  | authenticate3G (aid rand autn : Bytes)
  deriving DecidableEq

/-- What a call returns. -/
inductive Result where
  | applications (apps : List Application)
  | attributes (attributes : FileAttributes)
  | data (data : Bytes)
  deriving DecidableEq

/-- Carry out a call. -/
def perform : Request → Op π Result
  | .listApplications => .applications <$> listApplications card
  | .fileAttributes file => .attributes <$> fileAttributes card file
  | .readTransparent file offset length => .data <$> readTransparent card file offset length
  | .readRecord file record length => .data <$> readRecord card file record length
  | .authenticate3G aid rand autn => .data <$> authenticate3G card aid rand autn

/-- A call, with how the card takes its commands. -/
structure Event where
  request : Request
  turns : List Turn
  deriving DecidableEq

/-- What a call returns when it is made in a state. -/
def result (w : World π) (e : Event) : Except ReadError Result :=
  (perform card e.request).outcome { w with turns := e.turns }

/-- All sequences of calls on a new reader, with a card that has some file selected. -/
def reader (start : π) : Machine (World π) Event where
  init := { place := start }
  step := fun w e => some ((perform card e.request).after { w with turns := e.turns })

end Reader

end Wwan.Sim
