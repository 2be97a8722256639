import Wwan.Lib.GoMap
import Wwan.Mbim.Protocol

/-! Fragmented messages: cutting a message into frames and collecting the frames received. -/

namespace Wwan.Mbim

open LittleEndian (putUint32 uint32At)

/-- The message types that may arrive in fragments. -/
def isFragmentMessage (messageType : MessageType) : Bool :=
  messageType = MessageType.command || messageType = MessageType.commandDone ||
    messageType = MessageType.indicateStatus

/-- The twenty bytes of message header and fragment header. -/
def fragmentHeader (messageType : MessageType) (length transactionID total current : UInt32) : Bytes :=
  putUint32 messageType ++ putUint32 length ++ putUint32 transactionID ++ putUint32 total ++
    putUint32 current

/-- The frame with the given piece of the payload. -/
def fragmentFrame (messageType : MessageType) (transactionID total current : UInt32) (piece : Bytes) :
    Bytes :=
  fragmentHeader messageType (UInt32.ofNat (20 + piece.length)) transactionID total current ++ piece

/-- The loop of `Frames` over the payload still to send. -/
def framesFrom (messageType : MessageType) (transactionID total : UInt32) (maxPayloadSize current : Nat)
    (payload : Bytes) : List Bytes :=
  if payload = [] ∨ maxPayloadSize = 0 then []
  else
    fragmentFrame messageType transactionID total (UInt32.ofNat current) (payload.take maxPayloadSize) ::
      framesFrom messageType transactionID total maxPayloadSize (current + 1) (payload.drop maxPayloadSize)
termination_by payload.length
decreasing_by
  rename_i more
  have := List.length_pos_of_ne_nil (not_or.mp more).1
  simp
  omega

/-- Cut a message into frames of at most `maxFrameSize` bytes. -/
def frames (data : Bytes) (maxFrameSize : Nat) : Go Error (List Bytes) :=
  -- A message that fits is sent as it is.
  if data.length ≤ maxFrameSize then return [data]
  else if data.length < 20 then
    Go.fail (.format "fragmenting MBIM message: message length %d is too short" [data.length])
  else if !isFragmentMessage (messageTypeOf data) then
    Go.fail (.format "fragmenting MBIM message: message type %#x does not support fragments"
      [(messageTypeOf data).toNat])
  else if uint32At data 4 ≠ UInt32.ofNat data.length then
    Go.fail (.format
      "fragmenting MBIM message: header length %d does not match actual length %d"
      [(uint32At data 4).toNat, data.length])
  else if maxFrameSize ≤ 20 then
    Go.fail (.format "fragmenting MBIM message: max frame size %d is too small" [maxFrameSize])
  else
    -- The first twenty bytes are the headers, which every frame repeats with its own numbers.
    let payload := data.drop 20
    let maxPayloadSize := maxFrameSize - 20
    let total := max 1 ((payload.length + maxPayloadSize - 1) / maxPayloadSize)
    return framesFrom (messageTypeOf data) (transactionIDOf data) (UInt32.ofNat total) maxPayloadSize 0
      payload

/-- A parsed frame of a fragmented message. -/
structure Fragment where
  messageType : MessageType
  transactionID : UInt32
  total : UInt32
  current : UInt32
  payload : Bytes
  deriving DecidableEq

/-- Parse a frame. -/
def Fragment.unmarshalBinary (frame : Bytes) : Go Error Fragment :=
  if frame.length < 20 then
    Go.fail (.format "parsing MBIM fragment: length %d is too short" [frame.length])
  else if !isFragmentMessage (messageTypeOf frame) then
    Go.fail (.format "parsing MBIM fragment: message type %#x does not support fragments"
      [(messageTypeOf frame).toNat])
  else if uint32At frame 4 ≠ UInt32.ofNat frame.length then
    Go.fail (.format "parsing MBIM fragment: header length %d does not match actual length %d"
      [(uint32At frame 4).toNat, frame.length])
  else if uint32At frame 12 = 0 then Go.fail (.format "parsing MBIM fragment: total is zero" [])
  else if uint32At frame 16 ≥ uint32At frame 12 then
    Go.fail (.format "parsing MBIM fragment: fragment %d is outside total %d"
      [(uint32At frame 16).toNat, (uint32At frame 12).toNat])
  else
    return { messageType := messageTypeOf frame
             transactionID := transactionIDOf frame
             total := uint32At frame 12
             current := uint32At frame 16
             payload := frame.drop 20 }

/-- The fragments of one message received so far. -/
structure FragmentCollector where
  messageType : MessageType
  transactionID : UInt32
  total : UInt32
  current : UInt32
  payload : Bytes
  deriving DecidableEq

/-- Start collecting with a first fragment. -/
def newFragmentCollector (frame : Bytes) : Go Error FragmentCollector := do
  let f ← Fragment.unmarshalBinary frame
  if f.current ≠ 0 then
    Go.fail (.format "collecting MBIM fragments: got fragment %d/%d before fragment 0"
      [f.current.toNat, f.total.toNat])
  else
    return { messageType := f.messageType
             transactionID := f.transactionID
             total := f.total
             current := f.current
             payload := f.payload }

namespace FragmentCollector

/-- Append the next fragment. -/
def add (c : FragmentCollector) (frame : Bytes) : Go Error FragmentCollector := do
  let f ← Fragment.unmarshalBinary frame
  if f.messageType ≠ c.messageType then
    Go.fail (.format "collecting MBIM fragments: message type %#x does not match %#x"
      [f.messageType.toNat, c.messageType.toNat])
  else if f.transactionID ≠ c.transactionID then
    Go.fail (.format "collecting MBIM fragments: transaction ID %d does not match %d"
      [f.transactionID.toNat, c.transactionID.toNat])
  else if f.total ≠ c.total then
    Go.fail (.format "collecting MBIM fragments: total %d does not match %d"
      [f.total.toNat, c.total.toNat])
  else if f.current ≠ c.current + 1 then
    Go.fail (.format "collecting MBIM fragments: got fragment %d/%d, want %d/%d"
      [f.current.toNat, f.total.toNat, (c.current + 1).toNat, c.total.toNat])
  else return { c with current := f.current, payload := c.payload ++ f.payload }

/-- Whether the last fragment has been appended. -/
def complete (c : FragmentCollector) : Bool := c.current = c.total - 1

/-- The whole message, as if it had arrived in one frame. -/
def marshalBinary (c : FragmentCollector) : Go Error Bytes :=
  if !c.complete then
    Go.fail (.format "collecting MBIM fragments: got %d/%d fragments"
      [(c.current + 1).toNat, c.total.toNat])
  else
    -- The length is a `uint32`; a wrapped length below twenty leaves no room for the header.
    let length := UInt32.ofNat (20 + c.payload.length)
    if length.toNat < 20 then .error .outOfRange
    else return fragmentHeader c.messageType length c.transactionID 1 0 ++
      c.payload.take (length.toNat - 20)

end FragmentCollector

/-- An instant or a duration in nanoseconds. -/
abbrev Time := Nat

/-- How long a message waits for its next fragment. -/
def fragmentTimeout : Time := 1000000000

/-- What the fragments of one message have in common. -/
structure FragmentKey where
  messageType : MessageType
  transactionID : UInt32
  deriving DecidableEq

/-- A collector and the instant it expires. -/
structure IncomingFragmentCollection where
  collector : FragmentCollector
  deadline : Time
  deriving DecidableEq

/-- The collections under way. -/
abbrev Collectors := GoMap FragmentKey IncomingFragmentCollection

/-- A fault to report to the device. -/
structure FragmentFault where
  transactionID : UInt32
  status : ProtocolError
  deriving DecidableEq

/-- What collecting one frame results in. -/
inductive Received where
  /-- More fragments are needed. -/
  | incomplete
  /-- The frame completes this message. -/
  | complete (data : Bytes)
  /-- The frame is refused. -/
  | fault (fault : FragmentFault)
  /-- The message is too long for its length field, and the call panics. -/
  | panicked
  deriving DecidableEq

/-- The key a frame is collected under. -/
def frameKey (buf : Bytes) : FragmentKey :=
  { messageType := messageTypeOf buf, transactionID := transactionIDOf buf }

/-- The fault of a frame that is malformed or out of sequence. -/
def outOfSequence (buf : Bytes) : FragmentFault :=
  { transactionID := transactionIDOf buf, status := ProtocolError.fragmentOutOfSequence }

/-- Collect one received frame. -/
def collectReceivedFrame (collectors : Collectors) (buf : Bytes) (now : Time) : Collectors × Received :=
  let key := frameKey buf
  match Fragment.unmarshalBinary buf with
  | .error _ => (collectors.delete key, .fault (outOfSequence buf))
  | .ok f =>
    -- A message of one fragment needs no collector.
    if f.total = 1 then (collectors, .complete buf)
    else
      match collectors.get key with
      | none =>
        -- A collection starts with the first fragment only.
        if f.current ≠ 0 then (collectors, .fault (outOfSequence buf))
        else
          match newFragmentCollector buf with
          | .error _ => (collectors, .fault (outOfSequence buf))
          | .ok collector =>
            (collectors.set key { collector, deadline := now + fragmentTimeout }, .incomplete)
      | some collection =>
        match collection.collector.add buf with
        -- A fragment out of its turn ends the collection.
        | .error _ => (collectors.delete key, .fault (outOfSequence buf))
        | .ok collector =>
          if !collector.complete then
            -- Every fragment moves the deadline.
            (collectors.set key { collector, deadline := now + fragmentTimeout }, .incomplete)
          else
            match collector.marshalBinary with
            | .ok complete => (collectors.delete key, .complete complete)
            | .error (.err _) => (collectors.delete key, .fault (outOfSequence buf))
            | .error .outOfRange => (collectors, .panicked)

/-- The keys whose deadline has passed. -/
def expiredKeys (collectors : Collectors) (now : Time) : List FragmentKey :=
  (collectors.entries.filter fun entry => entry.2.deadline ≤ now).map Prod.fst

/-- Drop the expired collections, and return each of their transactions once. -/
def expireFragmentCollectors (collectors : Collectors) (now : Time) : Collectors × List UInt32 :=
  let expired := expiredKeys collectors now
  (expired.foldl GoMap.delete collectors, (expired.map FragmentKey.transactionID).eraseDups)

end Wwan.Mbim
