import Wwan.Sim.Exchange
import Wwan.Sim.Reader

/-! The reads of SIM files down to the bytes that go to the card, and a card that takes them by ISO 7816-4. -/

namespace Wwan.Sim.FileRead

open Exchange (sw1 sw2 data hasMore)

/-! Requests. -/

/-- A command for the card. -/
structure Request where
  cla : UInt8 := 0x00
  ins : UInt8
  p1 : UInt8
  p2 : UInt8
  data : Bytes := []
  le : Option UInt8 := none
  deriving DecidableEq

/-- `Request.MarshalBinary` -/
def Request.marshalBinary (r : Request) : Except ReadError Bytes :=
  if r.data.length > maxShortCommandData then .error (.tooLong r.data.length)
  else
    let body := if r.data.length > 0 then UInt8.ofNat r.data.length :: r.data else []
    .ok ([r.cla, r.ins, r.p1, r.p2] ++ body ++ r.le.toList)

/-- `selectRequest` -/
def selectRequest (p1 : UInt8) (value : Bytes) : Request := { ins := 0xA4, p1, p2 := 0x04, data := value }

/-- `SelectID` -/
def Request.selectID (id : Bytes) : Request := selectRequest 0x00 id

/-- `SelectName` -/
def Request.selectName (name : Bytes) : Request := selectRequest 0x04 name

/-- `SelectPath` -/
def Request.selectPath (path : Bytes) : Request := selectRequest 0x08 path

/-- `BinaryRead` -/
def Request.binaryRead (offset : UInt16) (length : UInt8) : Request :=
  { ins := 0xB0, p1 := (offset >>> 8).toUInt8, p2 := offset.toUInt8, le := some length }

/-- `RecordRead` -/
def Request.recordRead (record length : UInt8) : Request := { ins := 0xB2, p1 := record, p2 := 0x04, le := some length }

/-- The request that `followGetResponse` sends. -/
def Request.getResponse (length : UInt8) : Request := { ins := 0xC0, p1 := 0x00, p2 := 0x00, le := some length }

/-- `Response.OK` -/
def ok (response : Bytes) : Bool := bigEndianUint16 (sw1 response) (sw2 response) == 0x9000

/-! The card. -/

/-- The files of a card, which are the values of a type. -/
structure Card (π : Type) where
  /-- What a SELECT of the file answers. -/
  fci : π → Bytes
  /-- Where a SELECT leads from a file, by its first parameter and its data. -/
  select : π → UInt8 → Bytes → Option π
  /-- The bytes of a transparent file. -/
  content : π → Option Bytes
  /-- The records of a linear fixed file. -/
  records : π → List Bytes
  /-- The file with a short identifier other than zero.
  ISO 7816-4 has the identifiers 1 to 30; what a card does with the values that it reserves is its own. -/
  short : UInt8 → Option π

/-- What the card has in mind. -/
structure CardState (π : Type) where
  /-- The selected file. -/
  place : π
  /-- The data that GET RESPONSE gives. -/
  pending : Bytes := []

namespace Card

variable {π : Type} (card : Card π)

/-- How many bytes an expected length asks for. -/
def expected (le : UInt8) : Nat := if le = 0 then 256 else le.toNat

/-- READ BINARY, which reads from an offset of 15 bits or, with bit 8 of P1 set, from the file with a short identifier.
The identifier zero is that of the selected file. -/
def readBinary (s : CardState π) (p1 p2 le : UInt8) : Option (Bytes × CardState π) := do
  let place ← if p1 &&& 0x80 = 0 ∨ p1 &&& 0x7F = 0 then some s.place else card.short (p1 &&& 0x7F)
  let offset := if p1 &&& 0x80 = 0 then p1.toNat * 256 + p2.toNat else p2.toNat
  let content ← card.content place
  if offset + expected le ≤ content.length then some ((content.drop offset).take (expected le), { place }) else none

/-- READ RECORD, which reads the record of a number. -/
def readRecord (s : CardState π) (p1 le : UInt8) : Option (Bytes × CardState π) := do
  -- No record has the number zero, and no command of the reader makes one the current record.
  if p1 = 0 then none
  else
    let record ← (card.records s.place)[p1.toNat - 1]?
    if le = 0 then some (record, { place := s.place })
    else if le.toNat ≤ record.length then some (record.take le.toNat, { place := s.place })
    else none

/-- What the card answers to a command that it carries out, and what it has in mind then. -/
def execute (s : CardState π) (apdu : Bytes) : Option (Bytes × CardState π) :=
  match apdu with
  | _ :: ins :: p1 :: p2 :: body =>
    if ins = 0xA4 then (card.select s.place p1 body.tail).map fun place => (card.fci place, { place })
    else if ins = 0xB0 then body.head?.bind (card.readBinary s p1 p2)
    -- P2 says that P1 is the number of a record.
    else if ins = 0xB2 then if p2 = 0x04 then body.head?.bind (card.readRecord s p1) else none
    -- What was announced can be fetched once.
    else if ins = 0xC0 then if s.pending = [] then none else some (s.pending, { s with pending := [] })
    else none
  | _ => none

end Card

/-- How the card and its transmitter take a command. -/
inductive Turn where
  /-- The transmitter fails, although the card may have carried the command out. -/
  | lost (carriedOut : Bool)
  /-- The card answers with an error, or with no status. -/
  | refused (raw : Bytes) (failed : raw.length < 2 ∨ ok raw = false ∧ hasMore raw = false)
  /-- The card carries the command out if it can. It sends so many bytes at once and announces the rest. -/
  | sent (count : Nat) (more : UInt8)

/-- The card's answer to a command, if the transmitter gets it. -/
def Card.respond {π : Type} (card : Card π) (s : CardState π) (apdu : Bytes) : Turn → Option Bytes × CardState π
  | .lost carriedOut => (none, if carriedOut then ((card.execute s apdu).map Prod.snd).getD s else s)
  | .refused raw _ => (some raw, s)
  | .sent count more =>
    match card.execute s apdu with
    -- The card refuses what it does not understand.
    | none => (some [0x6F, 0x00], s)
    | some (answer, s') =>
      if answer.length ≤ count then (some (answer ++ [0x90, 0x00]), s')
      -- The rest is announced, and kept for GET RESPONSE.
      else (some (answer.take count ++ [0x61, more]), { s' with pending := answer.drop count })

/-! The reader. -/

/-- The reader with the card, and how the card will take the next commands. -/
structure World (π : Type) where
  selected : Selection := {}
  card : CardState π
  turns : List Turn := []

variable {π : Type} (card : Card π)

/-- A call of the reader. -/
abbrev Op (π α : Type) := Call (World π) ReadError α

/-- `Transmit` of the transmitter. A card that takes no more turns is gone. -/
def transmitRaw (apdu : Bytes) : Op π Bytes := do
  let w ← get
  match w.turns with
  | [] => throw (.transmit .transmitter)
  | turn :: turns =>
    set { w with card := (card.respond w.card apdu turn).2, turns }
    match (card.respond w.card apdu turn).1 with
    | none => throw (.transmit .transmitter)
    | some raw => return raw

/-- The loop of `followGetResponse`; every round takes a turn of the card, which are the fuel. -/
def followFrom : Nat → Bytes → Bytes → Op π Bytes
  | fuel, collected, resp => do
    if hasMore resp then
      match fuel with
      | 0 => throw (.transmit .transmitter)
      | fuel + 1 =>
        match (Request.getResponse (sw2 resp)).marshalBinary with
        | .error err => throw err
        | .ok req =>
          let follow ← transmitRaw card req
          if follow.length < 2 then throw (.transmit .malformedResponse)
          else followFrom fuel (collected ++ data follow) follow
    else return collected ++ [sw1 resp, sw2 resp]

/-- `followGetResponse` -/
def followGetResponse (resp : Bytes) : Op π Bytes := do followFrom card (← get).turns.length (data resp) resp

/-- `transmitResponse` -/
def transmitResponse (req : Bytes) : Op π Bytes := do
  let raw ← transmitRaw card req
  if raw.length < 2 then throw (.transmit .malformedResponse) else followGetResponse card raw

/-- `transmit` -/
def transmit (req : Bytes) : Op π Bytes := do
  let resp ← transmitResponse card req
  if !ok resp then throw (.transmit (.status (bigEndianUint16 (sw1 resp) (sw2 resp)))) else return resp

/-- `transmitCommand` -/
def transmitCommand (cmd : Request) : Op π Bytes :=
  match cmd.marshalBinary with
  | .error err => throw err
  | .ok req => transmit card req

/-- `decodeFCI` -/
def decodeFCI (cmd : Request) : Op π FCI := do
  let raw ← transmitCommand card cmd
  match FCI.unmarshalBinary (data raw) with
  | .ok info => return info
  | .error err => throw (.parse err)

/-- `selectFile` -/
def selectFile (file : FileRef) : Op π FCI := do
  if file.path.length = 0 then throw .emptyPath
  else
    let w ← get
    -- The file is selected already.
    if w.selected.matches file then return w.selected.info
    else
      -- The path is followed from the root of its application.
      let _ ← decodeFCI card (if file.aid.length > 0 then .selectName file.aid else .selectID masterFile)
      let info ← decodeFCI card (if file.path.length = 2 then .selectID file.path else .selectPath file.path)
      modify fun w => { w with selected := { valid := true, file, info } }
      return info

/-- The loop of `readBinaryRaw`; every round reads at least one byte, which are the fuel. -/
def readBinaryFrom : Nat → UInt16 → UInt16 → Bytes → Op π Bytes
  | 0, _, _, read => return read
  | fuel + 1, offset, length, read => do
    if length = 0 then return read
    else
      -- One command reads 255 bytes at most.
      let chunk := min length 0xFF
      let raw ← transmitCommand card (.binaryRead offset chunk.toUInt8)
      readBinaryFrom fuel (offset + chunk) (length - chunk) (read ++ data raw)

/-- `readBinaryRaw` -/
def readBinaryRaw (offset length : UInt16) : Op π Bytes := readBinaryFrom card length.toNat offset length []

/-- `readRecordRaw` -/
def readRecordRaw (record length : UInt16) : Op π Bytes := do
  if record = 0 then throw .recordZero
  else if length > 0xFF then throw (.recordLength length.toNat)
  else return data (← transmitCommand card (.recordRead record.toUInt8 length.toUInt8))

/-- `ReadTransparent` -/
def readTransparent (file : FileRef) (offset length : UInt16) : Op π Bytes := do
  let info ← selectFile card file
  if info.fileStructure ≠ structureTransparent then throw (.unexpectedStructure "reading transparent file")
  -- No length means up to the end of the file.
  else if length = 0 then
    if offset > info.fileSize then throw .offsetExceedsSize
    else readBinaryRaw card offset (info.fileSize - offset)
  else readBinaryRaw card offset length

/-- `ReadRecord` -/
def readRecord (file : FileRef) (record length : UInt16) : Op π Bytes := do
  let info ← selectFile card file
  if info.fileStructure ≠ structureLinearFixed then throw (.unexpectedStructure "reading record file")
  else readRecordRaw card record (if length = 0 then info.recordSize else length)

end Wwan.Sim.FileRead
