import Wwan.Mbim.Receiver

/-! The answer to one request, read from its connection directly or through the receiver. -/

namespace Wwan.Mbim

/-- A frame, the instant it arrives, and how writing a host error for it would go. -/
structure Incoming where
  frame : Frame
  now : Time
  failure : Option Error

/-- What the `select` of a receiver takes next.
It may take a frame although the timer of a collection has fired as well, so a frame may be later than a deadline. -/
inductive Arrival where
  | frame (incoming : Incoming)
  /-- The timer of the collections, which has an effect where a deadline has passed, and how writing a host error for
  each transaction would go. -/
  | timer (now : Time) (failure : UInt32 → Option Error)

/-- What a call returns once it returns: the message it parsed, or an error. -/
abbrev CallResult := Option (Go Error Bytes)

namespace Request

/-- Parse the message that answers the request. -/
def parseAnswer (r : Request) (response : Option ResponseDecoder) (data : Bytes) : Go Error Bytes :=
  (r.unmarshalResponse response data).map fun _ => data

/-- What `readConn` does with a whole message of its transaction. -/
def readMessage (r : Request) (response : Option ResponseDecoder) (messageType : MessageType) (data : Bytes) :
    CallResult :=
  if messageType ≠ MessageType.commandDone then some (r.parseAnswer response data)
  else
    match r.expectedCommand with
    | none => some (r.parseAnswer response data)
    | some command =>
      match CommandDoneHeader.unmarshalBinary data with
      | .error fault => some (.error fault)
      | .ok header =>
        -- The answer to another command is skipped.
        if header.serviceID ≠ command.serviceID ∨ header.commandID ≠ command.commandID then none
        else some (r.parseAnswer response data)

/-- What `readConn` does with a frame. -/
def readFrame (r : Request) (response : Option ResponseDecoder) (expectedMessageType : MessageType)
    (collectors : Collectors) (incoming : Incoming) : Collectors × CallResult :=
  let buf := incoming.frame.data
  -- The answer to another request is skipped.
  if transactionIDOf buf ≠ r.transactionID then (collectors, none)
  else if messageTypeOf buf ≠ expectedMessageType ∧ messageTypeOf buf ≠ MessageType.functionError then
    (collectors, none)
  else if isFragmentMessage (messageTypeOf buf) then
    match collectReceivedFrame collectors buf incoming.now with
    | (collectors, .fault fault) =>
      match incoming.failure with
      | some err =>
        (collectors, some (Go.fail
          (.wrap "sending MBIM host error for transaction %d" [fault.transactionID.toNat] err)))
      | none => (collectors, some (Go.fail (.protocol fault.status)))
    | (collectors, .incomplete) => (collectors, none)
    | (collectors, .complete data) => (collectors, r.readMessage response (messageTypeOf buf) data)
    | (collectors, .panicked) => (collectors, some (.error .outOfRange))
  else (collectors, r.readMessage response (messageTypeOf buf) buf)

/-- The error of `readConn` after it has tried to write a host error for each expired transaction. -/
def expiredError (failure : UInt32 → Option Error) : List UInt32 → Error
  | [] => .protocol ProtocolError.timeoutFragment
  -- The first notification that fails is the error.
  | transactionID :: rest =>
    match failure transactionID with
    | some err => .wrap "sending MBIM host error for transaction %d" [transactionID.toNat] err
    | none => expiredError failure rest

/-- What `readConn` does where the timer of its collections fires. -/
def readTimer (collectors : Collectors) (now : Time) (failure : UInt32 → Option Error) : Collectors × CallResult :=
  match expireFragmentCollectors collectors now with
  | (collectors, []) => (collectors, none)
  | (collectors, expired) => (collectors, some (Go.fail (expiredError failure expired)))

/-- One round of `readConn`, which reads nothing after it has returned. -/
def readRound (r : Request) (response : Option ResponseDecoder) (expectedMessageType : MessageType)
    (state : Collectors × CallResult) (arrival : Arrival) : Collectors × CallResult :=
  match state.2, arrival with
  | some result, _ => (state.1, some result)
  | none, .frame incoming => r.readFrame response expectedMessageType state.1 incoming
  | none, .timer now failure => readTimer state.1 now failure

/-- The loop of `readConn` over what it takes before its own deadline. -/
def readFrames (r : Request) (response : Option ResponseDecoder) (expectedMessageType : MessageType)
    (arrivals : List Arrival) : Collectors × CallResult :=
  arrivals.foldl (r.readRound response expectedMessageType) (∅, none)

/-- Read the response to a request from its own connection. -/
def readConn (r : Request) (response : Option ResponseDecoder) (arrivals : List Arrival) : CallResult :=
  match responseMessageType r.messageType with
  | none =>
    some (Go.fail (.format "reading MBIM response: unsupported request message type %#x" [r.messageType.toNat]))
  | some expectedMessageType => (r.readFrames response expectedMessageType arrivals).2

/-- What a request that is sent through the dispatcher returns for the result on its channel. -/
def transmitResult (r : Request) (response : Option ResponseDecoder) : ResponseResult → Go Error Bytes
  | .data data => r.parseAnswer response data
  | .err err => Go.fail err

end Request

/-- The result that a waiter has been given, or that is on its way to it. -/
def Responses.resultOf (r : Responses) (ch : ChanID) : Option ResponseResult :=
  ((r.chans ch).sent ++ (r.sends.filter fun s => s.ch = ch).map ResponseSend.result).head?

namespace Receiver

/-- The receiver goes on until it waits for the next frame or returns. -/
def settle (failure : UInt32 → Option Error) : Nat → Receiver → Option Receiver
  | 0, s => if s.stage = .waiting ∨ s.stage = .returned then some s else none
  | fuel + 1, s =>
    match s.stage with
    | .waiting | .returned => some s
    | .handling _ | .failing _ _ | .stopping _ => (s.step .advance).bind (settle failure fuel)
    | .notifying report _ => (s.step (.sendHostError (failure report.transactionID))).bind (settle failure fuel)

/-- One round of the receiver's loop, which reads nothing after it has returned. -/
def round (s : Receiver) (arrival : Arrival) : Option Receiver :=
  if s.stage = .returned then some s
  else
    match arrival with
    -- A refused frame is reported, notified and, where that fails, stops the receiver.
    | .frame incoming =>
      (s.step (.frame incoming.frame incoming.now)).bind (settle (fun _ => incoming.failure) 3)
    -- So is each transaction that has expired.
    | .timer now failure =>
      (s.step (.expire now)).bind (settle failure (2 * (expiryReports s.collectors now).length + 1))

/-- Register a request with a new dispatcher, and let its receiver read. -/
def receive (client : Client) (request : Request) (arrivals : List Arrival) : Option Receiver := do
  let s ← ({} : Receiver).step (.other (.registerResponse client request false))
  arrivals.foldlM round s

end Receiver

/-- Send a request through a new dispatcher; without a value where the receiver panics. -/
def Request.transmit (r : Request) (client : Client) (response : Option ResponseDecoder)
    (arrivals : List Arrival) : Option CallResult :=
  match (({} : Dispatcher).registerResponse client r false).2 with
  | .error err => some (some (Go.fail err))
  | .ok _ =>
    (Receiver.receive client r arrivals).map fun s =>
      (s.dispatcher.responses.resultOf 0).map (r.transmitResult response)

end Wwan.Mbim
