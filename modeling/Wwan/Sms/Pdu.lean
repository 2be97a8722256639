import Mathlib.Tactic.SplitIfs
import Wwan.Lib.BitStream
import Wwan.Sms.Text

/-! Encoding and decoding of short-message PDUs. -/

namespace Wwan.Sms

/-- Where a message is stored. -/
inductive MessageStorage where
  | unknown
  | device
  | sim
  deriving DecidableEq, Inhabited

/-- The delivery state of a stored message. -/
inductive MessageState where
  | unknown
  | receivedUnread
  | receivedRead
  | storedUnsent
  | storedSent
  deriving DecidableEq, Inhabited

/-- A stored record of a message. -/
structure MessageRef where
  storage : MessageStorage
  id : UInt32
  deriving DecidableEq

/-- The arguments of `time.Date` with a fixed zone, by default those of the zero time. -/
structure Time where
  year : Int := 1
  month : Int := 1
  day : Int := 1
  hour : Int := 0
  minute : Int := 0
  second : Int := 0
  zoneOffset : Int := 0
  deriving DecidableEq

/-- A short message, whole or as carried by one PDU. -/
structure Message where
  id : UInt32 := 0
  refs : List MessageRef := []
  state : MessageState := .unknown
  storage : MessageStorage := .unknown
  number : GoString := []
  smsc : GoString := []
  text : GoString := []
  data : Bytes := []
  timestamp : Time := {}
  deliveryReport : Bool := false
  messageReference : UInt32 := 0
  pdu : Bytes := []
  pdus : List Bytes := []
  deriving DecidableEq

/-- What the caller asks to be sent. -/
structure MessageConfig where
  number : GoString := []
  smsc : GoString := []
  text : GoString := []
  data : Bytes := []
  deliveryReport : Bool := false
  storage : MessageStorage := .unknown
  deriving DecidableEq

/-- One PDU's message together with its place in a multipart message. -/
structure Part where
  message : Message := {}
  reference : UInt16 := 0
  total : UInt8 := 0
  index : UInt8 := 0
  deriving DecidableEq

/-- The alphabet of the user data. -/
inductive Alphabet where
  | gsm7
  | binary
  | ucs2
  deriving DecidableEq

/-- The octets one PDU's user data can hold. -/
def smsMaxUserDataOctets : Nat := 140
/-- The septets of a single-part message. -/
def smsGSM7SingleSeptets : Nat := 160
/-- The septets of one part beside its header. -/
def smsGSM7PartSeptets : Nat := 153
/-- The code units of a single-part message. -/
def smsUTF16SingleUnits : Nat := 70
/-- The code units of one part beside its header. -/
def smsUTF16PartUnits : Nat := 67
/-- The octets of one part beside its header. -/
def smsBinaryPartOctets : Nat := 134

/-- The checks a configuration passes before it is encoded. -/
def validateMessageConfig (cfg : MessageConfig) : Go Error Unit :=
  if cfg.number = [] then Go.fail (.text "preparing SMS: destination number is empty")
  else if cfg.text ≠ [] ∧ cfg.data.length ≠ 0 then
    Go.fail (.text "preparing SMS: text and binary data are mutually exclusive")
  else if cfg.text = [] ∧ cfg.data.length = 0 then
    Go.fail (.text "preparing SMS: text and binary data are empty")
  else return ()

/-! Bits and septets. -/

/-- Store the low `count` bits of a value at a bit offset, over cleared bits. -/
def putBits (dst : Bytes) (offset : Nat) (value : UInt8) (count : Nat) : Go Error Bytes :=
  (List.range count).foldlM (fun dst bit =>
    if value.toNat.testBit bit then BitStream.setBit dst (offset + bit) else return dst) dst

/-- Read `count` bits at a bit offset. -/
def readBits (src : Bytes) (offset count : Nat) : Go Error UInt8 :=
  (List.range count).foldlM (fun (value : UInt8) bit => do
    let octet ← Go.index src ((offset + bit) / 8)
    return if octet.toNat.testBit ((offset + bit) % 8) then UInt8.ofNat (value.toNat ||| 2 ^ bit)
      else value) 0

/-- Pack septets after a header, which is padded to a septet boundary. -/
def packSeptets (septets header : Bytes) : Go Error (Bytes × Nat) := do
  let headerSeptets := (header.length * 8 + 6) / 7
  let startBit := headerSeptets * 7
  let size := (startBit + septets.length * 7 + 7) / 8
  -- `copy` stores the header at the start of the zeroed result.
  let result := header.take size ++ List.replicate (size - header.length) 0
  let packed ← septets.zipIdx.foldlM (fun result (septet, i) =>
    putBits result (startBit + i * 7) (septet &&& 0x7f) 7) result
  return (packed, headerSeptets)

/-- Unpack septets starting at a bit offset. -/
def unpackSeptets (data : Bytes) (startBit count : Nat) : Go Error Bytes :=
  (List.range count).mapM fun i => readBits data (startBit + i * 7) 7

/-! Addresses. -/

/-- The digits of a number and whether it is international. -/
def normalizeNumber (number : GoString) : GoString × Bool :=
  match number with
  | 0x2b :: digits => (digits, true)
  | digits => (digits, false)

/-- The semi-octet of an address symbol, the filler for a symbol without one. -/
def bcdNibble (value : UInt8) : UInt8 :=
  if 0x30 ≤ value ∧ value ≤ 0x39 then value - 0x30
  else if value = 0x2a then 0x0a
  else if value = 0x23 then 0x0b
  else if value = 0x61 ∨ value = 0x41 then 0x0c
  else if value = 0x62 ∨ value = 0x42 then 0x0d
  else if value = 0x63 ∨ value = 0x43 then 0x0e
  else 0x0f

/-- Digits as swapped semi-octets, with a filler after an odd last digit. -/
def encodeBCDDigits : GoString → Bytes
  | [] => []
  | [digit] => [bcdNibble digit ||| 0xf0]
  | low :: high :: rest => (bcdNibble low ||| bcdNibble high <<< 4) :: encodeBCDDigits rest

/-- The type of a numeric address. -/
def typeOfAddress (international : Bool) : UInt8 :=
  if international then 0x91 else 0x81

/-- Append a destination address, whose length byte counts digits. -/
def appendAddress (dst : Bytes) (number : GoString) : Bytes :=
  let (digits, international) := normalizeNumber number
  dst ++ [UInt8.ofNat digits.length, typeOfAddress international] ++ encodeBCDDigits digits

/-- The service-centre address, whose length byte counts octets. -/
def encodeSMSC (number : GoString) : Bytes :=
  if number = [] then [0]
  else
    let (digits, international) := normalizeNumber number
    let address := typeOfAddress international :: encodeBCDDigits digits
    UInt8.ofNat address.length :: address

/-- Decode semi-octets as a number, skipping everything that is no decimal digit. -/
def decodeBCDAddress (typeOfAddress : UInt8) (data : Bytes) (digitCount : Nat) :
    Go Error GoString :=
  let start : GoString := if typeOfAddress &&& 0x70 = 0x10 then [0x2b] else []
  (List.range digitCount).foldlM (fun result i => do
    let octet ← Go.index data (i / 2)
    let nibble := octet.toNat >>> (4 * (i % 2)) &&& 0x0f
    return if nibble ≤ 9 then result ++ [0x30 + UInt8.ofNat nibble] else result) start

/-- Read an address and the offset behind it. -/
def readAddress (pdu : Bytes) (offset : Nat) : Go Error (GoString × Nat) := do
  if (pdu.length : Int) - offset < 2 then
    Go.fail (.text "decoding SMS PDU: address is truncated")
  else
    let digitCount := (← Go.index pdu offset).toNat
    let typeOfAddress ← Go.index pdu (offset + 1)
    let offset := offset + 2
    let octets := (digitCount + 1) / 2
    if typeOfAddress &&& 0x70 = 0x50 then
      -- An alphanumeric address counts useful semi-octets, not characters.
      if octets > pdu.length - offset then
        Go.fail (.text "decoding SMS PDU: alphanumeric address is truncated")
      else
        let septets ← unpackSeptets (← Go.slice pdu offset (offset + octets)) 0 (digitCount * 4 / 7)
        match GSM7.unmarshalBinary septets with
        | .ok text => return (text, offset + octets)
        | .error (.err cause) => Go.fail (.address cause)
        | .error .outOfRange => .error .outOfRange
    else if octets > pdu.length - offset then
      Go.fail (.text "decoding SMS PDU: address digits are truncated")
    else
      let address ← decodeBCDAddress typeOfAddress (← Go.slice pdu offset (offset + octets)) digitCount
      return (address, offset + octets)

/-! Encoding. -/

/-- One SMS-SUBMIT PDU with the given user data and user-data header. -/
def buildSubmitPDU (cfg : MessageConfig) (alphabet : Alphabet) (data header : Bytes) :
    Go Error Bytes := do
  let first : UInt8 := 0x01 ||| (if cfg.deliveryReport then 0x20 else 0) |||
    (if header.length ≠ 0 then 0x40 else 0)
  let pdu := encodeSMSC cfg.smsc ++ [first, 0]
  let pdu := appendAddress pdu cfg.number ++ [0]
  match alphabet with
  | .gsm7 =>
    let (packed, headerSeptets) ← packSeptets data header
    return pdu ++ [0, UInt8.ofNat (headerSeptets + data.length)] ++ packed
  | .binary =>
    let userData := header ++ data
    return pdu ++ [0x04, UInt8.ofNat userData.length] ++ userData
  | .ucs2 =>
    let userData := header ++ data
    return pdu ++ [0x08, UInt8.ofNat userData.length] ++ userData

/-- The concatenation header of the part with the given zero-based position. -/
def concatHeader (ref : UInt8) (count i : Nat) : Bytes :=
  [5, 0, 3, ref, UInt8.ofNat count, UInt8.ofNat (i + 1)]

/-- One PDU for each chunk, numbered from one under a common reference, the next one of a shared counter in the source. -/
def buildMultipartPDUs (ref : UInt8) (cfg : MessageConfig) (alphabet : Alphabet)
    (chunks : List Bytes) : Go Error (List Bytes) :=
  chunks.zipIdx.mapM fun (chunk, i) =>
    buildSubmitPDU cfg alphabet chunk (concatHeader ref chunks.length i)

/-- The loop of `splitGSM7` over the runes still to place, with the open chunk. -/
def splitGSM7Runes (capacity : Nat) (current : Bytes) : List Char → Go Error (List Bytes)
  | [] => return if current.length > 0 then [current] else []
  | r :: rs =>
    match encodeGSM7Rune r with
    | none => Go.fail (.notRepresentable r)
    | some encoded => do
      -- A rune that does not fit closes the chunk, so an escape pair is never divided.
      if current.length + encoded.length > capacity then
        return current :: (← splitGSM7Runes capacity encoded rs)
      else splitGSM7Runes capacity (current ++ encoded) rs

/-- Split text into chunks of at most `capacity` septets. -/
def splitGSM7 (text : GoString) (capacity : Nat) : Go Error (List Bytes) :=
  splitGSM7Runes capacity [] (Utf8.runes text)

/-- Encode text of the default alphabet. -/
def encodeGSM7PDUs (ref : UInt8) (cfg : MessageConfig) : Go Error (List Bytes) := do
  let septets ← GSM7.marshalBinary cfg.text
  if septets.length ≤ smsGSM7SingleSeptets then
    return [← buildSubmitPDU cfg .gsm7 septets []]
  else
    let chunks ← splitGSM7 cfg.text smsGSM7PartSeptets
    buildMultipartPDUs ref cfg .gsm7 chunks

/-- The length of the next chunk of a UTF-16 payload. -/
def utf16ChunkLength (payload : Bytes) : Nat :=
  let length := min payload.length (smsUTF16PartUnits * 2)
  if length < payload.length then
    -- A chunk that would end in a leading surrogate leaves it to the next one.
    let lastUnit := Utf16.ByteOrder.bigEndian.uint16
      (payload.getD (length - 2) 0) (payload.getD (length - 1) 0)
    if Utf16.isHigh lastUnit then length - 2 else length
  else length

/-- A nonempty payload always yields a nonempty chunk. -/
theorem utf16ChunkLength_pos {payload : Bytes} (nonempty : payload ≠ []) :
    0 < utf16ChunkLength payload := by
  -- Only a full chunk of 134 octets is ever shortened.
  have := List.length_pos_of_ne_nil nonempty
  unfold utf16ChunkLength smsUTF16PartUnits
  dsimp only
  split_ifs <;> omega

/-- The chunk loop of `encodeUCS2PDUs`. -/
def splitUTF16 (payload : Bytes) : List Bytes :=
  if payload = [] then []
  else
    payload.take (utf16ChunkLength payload) :: splitUTF16 (payload.drop (utf16ChunkLength payload))
termination_by payload.length
decreasing_by
  rename_i nonempty
  have := utf16ChunkLength_pos nonempty
  have := List.length_pos_of_ne_nil nonempty
  simp
  omega

/-- Encode text as UTF-16 under the UCS-2 coding scheme. -/
def encodeUCS2PDUs (ref : UInt8) (cfg : MessageConfig) : Go Error (List Bytes) := do
  let payload ← UTF16.marshalBinary cfg.text
  if payload.length / 2 ≤ smsUTF16SingleUnits then
    return [← buildSubmitPDU cfg .ucs2 payload []]
  else buildMultipartPDUs ref cfg .ucs2 (splitUTF16 payload)

/-- The chunk loop of `encodeBinaryPDUs`. -/
def splitBinary (data : Bytes) : List Bytes :=
  if data = [] then []
  else
    let length := min data.length smsBinaryPartOctets
    data.take length :: splitBinary (data.drop length)
termination_by data.length
decreasing_by
  rename_i nonempty
  have := List.length_pos_of_ne_nil nonempty
  simp [smsBinaryPartOctets]
  omega

/-- Encode binary data. -/
def encodeBinaryPDUs (ref : UInt8) (cfg : MessageConfig) : Go Error (List Bytes) := do
  if cfg.data.length ≤ smsMaxUserDataOctets then
    return [← buildSubmitPDU cfg .binary cfg.data []]
  else buildMultipartPDUs ref cfg .binary (splitBinary cfg.data)

/-- Encode a message, in the default alphabet where it suffices. -/
def encodePDUs (ref : UInt8) (cfg : MessageConfig) : Go Error (List Bytes) :=
  if cfg.text ≠ [] then
    match GSM7.marshalBinary cfg.text with
    | .ok _ => encodeGSM7PDUs ref cfg
    | .error (.err _) => encodeUCS2PDUs ref cfg
    | .error .outOfRange => .error .outOfRange
  else encodeBinaryPDUs ref cfg

/-! Decoding. -/

/-- The alphabet a data coding scheme selects. -/
def alphabetFromDCS (dcs : UInt8) : Alphabet :=
  if dcs &&& 0x0c = 0x04 then .binary
  else if dcs &&& 0x0c = 0x08 then .ucs2
  else .gsm7

/-- Record an information element, of which only the two concatenation elements matter. -/
def unmarshalHeaderElement (p : Part) (kind : UInt8) (value : Bytes) : Go Error Part := do
  if kind = 0 ∧ value.length = 3 then
    let reference := (← Go.index value 0).toUInt16
    return { p with reference, total := ← Go.index value 1, index := ← Go.index value 2 }
  else if kind = 8 ∧ value.length = 4 then
    let reference := Utf16.ByteOrder.bigEndian.uint16 (← Go.index value 0) (← Go.index value 1)
    return { p with reference, total := ← Go.index value 2, index := ← Go.index value 3 }
  else return p

/-- The loop of `unmarshalUserDataHeader` over the information elements from an offset on. -/
def unmarshalHeaderElements (data : Bytes) (headerLength : Nat) (p : Part) (offset : Nat) :
    Go Error Part := do
  if offset < headerLength then
    if headerLength - offset < 2 then
      Go.fail (.text "decoding SMS PDU: UDH information element is truncated")
    else
      let kind ← Go.index data offset
      let length := (← Go.index data (offset + 1)).toNat
      let start := offset + 2
      if length > headerLength - start then
        Go.fail (.text "decoding SMS PDU: UDH information element data is truncated")
      else
        let value ← Go.slice data start (start + length)
        let p ← unmarshalHeaderElement p kind value
        unmarshalHeaderElements data headerLength p (offset + 2 + length)
  else return p
termination_by headerLength - offset
decreasing_by omega

/-- Read a user-data header and its length in octets. -/
def unmarshalUserDataHeader (p : Part) (data : Bytes) : Go Error (Part × Nat) := do
  if data.length = 0 then
    Go.fail (.text "decoding SMS PDU: UDH length is missing")
  else
    let headerLength := (← Go.index data 0).toNat + 1
    if headerLength > data.length then
      Go.fail (.text "decoding SMS PDU: UDH is truncated")
    else
      let p ← unmarshalHeaderElements data headerLength p 1
      if p.total ≠ 0 ∧ (p.index = 0 ∨ p.index > p.total) then
        Go.fail (.multipartIndex p.index p.total)
      else return (p, headerLength)

/-- Read a user-data header and its length in septets. -/
def unmarshalGSM7UserDataHeader (p : Part) (data : Bytes) : Go Error (Part × Nat) := do
  let (p, headerLength) ← unmarshalUserDataHeader p data
  return (p, (headerLength * 8 + 6) / 7)

/-- A header that is read only where the first octet announces one. -/
def optionalHeader (hasHeader : Bool) (p : Part) (header : Go Error (Part × Nat)) :
    Go Error (Part × Nat) :=
  if hasHeader then header else return (p, 0)

/-- Decode the user data that starts at an offset. -/
def unmarshalUserData (p : Part) (pdu : Bytes) (offset : Nat) (hasHeader : Bool) (dcs : UInt8) :
    Go Error Part := do
  if offset ≥ pdu.length then
    Go.fail (.text "decoding SMS PDU: user data length is missing")
  else
    let length := (← Go.index pdu offset).toNat
    let offset := offset + 1
    match alphabetFromDCS dcs with
    | .gsm7 =>
      let octets := (length * 7 + 7) / 8
      if octets > pdu.length - offset then
        Go.fail (.text "decoding SMS PDU: GSM7 user data is truncated")
      else
        let data ← Go.slice pdu offset (offset + octets)
        let (p, headerSeptets) ← optionalHeader hasHeader p (unmarshalGSM7UserDataHeader p data)
        if headerSeptets > length then
          Go.fail (.text "decoding SMS PDU: UDH exceeds GSM7 user data length")
        else
          let septets ← unpackSeptets data (headerSeptets * 7) (length - headerSeptets)
          let text ← GSM7.unmarshalBinary septets
          return { p with message := { p.message with text } }
    | alphabet =>
      if length > pdu.length - offset then
        Go.fail (.text "decoding SMS PDU: user data is truncated")
      else
        let data ← Go.slice pdu offset (offset + length)
        let (p, headerLength) ← optionalHeader hasHeader p (unmarshalUserDataHeader p data)
        let payload ← Go.slice data headerLength data.length
        if alphabet = .binary then return { p with message := { p.message with data := payload } }
        else if payload.length % 2 ≠ 0 then
          Go.fail (.text "decoding SMS PDU: UCS-2 user data has odd length")
        else
          let text ← UTF16.unmarshalBinary payload
          return { p with message := { p.message with text } }

/-- A semi-octet pair read as two decimal digits, low half first. -/
def swappedDigits (octet : UInt8) : Nat :=
  (octet.toNat &&& 0x0f) * 10 + octet.toNat >>> 4

/-- Decode a service-centre timestamp. -/
def unmarshalTimestamp (value : Bytes) : Go Error Time := do
  if value.length ≠ 7 then Go.fail (.timestampLength value.length)
  else
    let field (i : Nat) : Go Error Nat := do return swappedDigits (← Go.index value i)
    let twoDigitYear ← field 0
    let year := if twoDigitYear ≥ 90 then 1900 + twoDigitYear else 2000 + twoDigitYear
    let zone ← Go.index value 6
    let quarters := (zone.toNat &&& 0x07) * 10 + zone.toNat >>> 4
    let offset : Int := quarters * 15 * 60
    -- The zone's sign bit sits in its low semi-octet.
    let offset := if zone &&& 0x08 ≠ 0 then -offset else offset
    return { year, month := ← field 1, day := ← field 2, hour := ← field 3,
             minute := ← field 4, second := ← field 5, zoneOffset := offset }

/-- Decode a received message. -/
def unmarshalDeliverPDU (p : Part) (pdu : Bytes) (offset : Nat) (first : UInt8) : Go Error Part := do
  let (number, offset) ← readAddress pdu offset
  let p := { p with message := { p.message with number } }
  if (pdu.length : Int) - offset < 10 then
    Go.fail (.text "decoding SMS-DELIVER: fixed fields are truncated")
  else
    let dcs ← Go.index pdu (offset + 1)
    let timestamp ← unmarshalTimestamp (← Go.slice pdu (offset + 2) (offset + 9))
    let p := { p with message := { p.message with timestamp } }
    unmarshalUserData p pdu (offset + 9) (first &&& 0x40 ≠ 0) dcs

/-- The octets of the validity period selected by the first octet. -/
def validityPeriodOctets (first : UInt8) : Nat :=
  if (first >>> 3) &&& 0x03 = 1 then 7
  else if (first >>> 3) &&& 0x03 = 2 then 1
  else if (first >>> 3) &&& 0x03 = 3 then 7
  else 0

/-- Decode a submitted message. -/
def unmarshalSubmitPDU (p : Part) (pdu : Bytes) (offset : Nat) (first : UInt8) : Go Error Part := do
  if offset ≥ pdu.length then
    Go.fail (.text "decoding SMS-SUBMIT: message reference is missing")
  else
    let messageReference := (← Go.index pdu offset).toUInt32
    let (number, offset) ← readAddress pdu (offset + 1)
    let p := { p with message := { p.message with messageReference, number } }
    if (pdu.length : Int) - offset < 2 then
      Go.fail (.text "decoding SMS-SUBMIT: PID or DCS is missing")
    else
      let dcs ← Go.index pdu (offset + 1)
      let offset := offset + 2 + validityPeriodOctets first
      if offset > pdu.length then
        Go.fail (.text "decoding SMS-SUBMIT: validity period is truncated")
      else
        let p := { p with message := { p.message with deliveryReport := first &&& 0x20 ≠ 0 } }
        unmarshalUserData p pdu offset (first &&& 0x40 ≠ 0) dcs

/-- Decode a delivery report. -/
def unmarshalStatusReportPDU (p : Part) (pdu : Bytes) (offset : Nat) : Go Error Part := do
  if offset ≥ pdu.length then
    Go.fail (.text "decoding SMS-STATUS-REPORT: message reference is missing")
  else
    let messageReference := (← Go.index pdu offset).toUInt32
    let (number, offset) ← readAddress pdu (offset + 1)
    if (pdu.length : Int) - offset < 15 then
      Go.fail (.text "decoding SMS-STATUS-REPORT: timestamps or status are truncated")
    else
      let timestamp ← unmarshalTimestamp (← Go.slice pdu offset (offset + 7))
      return { p with message :=
        { p.message with messageReference, deliveryReport := true, number, timestamp } }

/-- Decode the transport PDU behind its first octet, by the message type it names. -/
def unmarshalTPDU (p : Part) (pdu : Bytes) (offset : Nat) (first : UInt8) : Go Error Part :=
  if first &&& 0x03 = 0 then unmarshalDeliverPDU p pdu offset first
  else if first &&& 0x03 = 1 then unmarshalSubmitPDU p pdu offset first
  else if first &&& 0x03 = 2 then unmarshalStatusReportPDU p pdu offset
  else Go.fail (.reservedMessageType (first &&& 0x03))

/-- The service-centre address behind a length octet that counts its octets. -/
def readSMSC (pdu : Bytes) (smscLength : Nat) : Go Error GoString := do
  if smscLength > 0 then
    let digits ← Go.slice pdu 2 (1 + smscLength)
    decodeBCDAddress (← Go.index pdu 1) digits ((smscLength - 1) * 2)
  else return []

/-- The part under construction behind the service-centre address. -/
def startPart (smsc : GoString) (pdu : Bytes) : Part :=
  { message := { smsc, pdu, pdus := [pdu] } }

/-- Decode one PDU into the part it carries. -/
def Part.unmarshalBinary (pdu : Bytes) : Go Error Part := do
  if pdu.length < 2 then Go.fail (.text "decoding SMS PDU: PDU is truncated")
  else
    let smscLength := (← Go.index pdu 0).toNat
    if smscLength > pdu.length - 1 then
      Go.fail (.text "decoding SMS PDU: SMSC address is truncated")
    else
      let smsc ← readSMSC pdu smscLength
      let offset := 1 + smscLength
      if offset ≥ pdu.length then Go.fail (.text "decoding SMS PDU: TPDU is missing")
      else
        let first ← Go.index pdu offset
        unmarshalTPDU (startPart smsc pdu) pdu (offset + 1) first

/-- The method on a receiver, which is assigned only when the whole PDU has been decoded. -/
def Part.unmarshalBinaryInto (p : Part) (pdu : Bytes) : Part × Go Error Unit :=
  match Part.unmarshalBinary pdu with
  | .ok decoded => (decoded, .ok ())
  | .error fault => (p, .error fault)

end Wwan.Sms
