import Wwan.Mbim.Dispatcher
import Wwan.Mbim.Fragment

/-! The receiver of a client: one loop over the frames, beside everything else its dispatcher does. -/

namespace Wwan.Mbim

/-- A fault that is about to be reported. -/
structure Report where
  transactionID : UInt32
  status : ProtocolError
  /-- The messages at fault, which the source forgets here. -/
  keys : List FragmentKey
  deriving DecidableEq

/-- Where the goroutine of `receive` is. -/
inductive ReceiverStage where
  /-- In its `select`. -/
  | waiting
  /-- With a whole message at hand. -/
  | handling (data : Bytes)
  /-- In `reportFragmentError`, before `failResponse`, with the reports that follow. -/
  | failing (report : Report) (rest : List Report)
  /-- In `reportFragmentError`, before `SendHostError`, with the reports that follow. -/
  | notifying (report : Report) (rest : List Report)
  /-- About to stop for good. -/
  | stopping (err : Error)
  | returned
  deriving DecidableEq

/-- The loop over the transactions to report. -/
def ReceiverStage.next : List Report → ReceiverStage
  | [] => .waiting
  | report :: rest => .failing report rest

/-- The receiver and the dispatcher it shares with the other goroutines. -/
structure Receiver where
  dispatcher : Dispatcher := {}
  collectors : Collectors := ∅
  stage : ReceiverStage := .waiting

/-- What can happen while the receiver runs. -/
inductive ReceiverEvent where
  /-- The receiver is given a frame. -/
  | frame (frame : Frame) (now : Time)
  /-- The receiver is given an error instead of a frame. -/
  | readError (err : Error)
  /-- The timer of the collections fires. -/
  | expire (now : Time)
  /-- The receiver goes on with what it has at hand. -/
  | advance
  /-- The receiver has written a host error, or failed to. -/
  | sendHostError (failure : Option Error)
  /-- Another goroutine takes a step on the dispatcher. -/
  | other (e : DispatcherEvent)

/-- An event that only the receiver brings about. -/
def DispatcherEvent.ofReceiver : DispatcherEvent → Bool
  | .stopReceiver _ | .response (.deliverResponse _) | .response (.failResponse _ _)
  | .indication (.publishIndication _) => true
  | _ => false

/-- The reports of the expired collections, one for each of their transactions. -/
def expiryReports (collectors : Collectors) (now : Time) : List Report :=
  (expireFragmentCollectors collectors now).2.map fun transactionID =>
    { transactionID
      status := ProtocolError.timeoutFragment
      keys := (expiredKeys collectors now).filter fun key => key.transactionID = transactionID }

/-- What a step does to the dispatcher and to the receiver's own state. -/
structure ReceiverEffects where
  dispatcher : Option DispatcherEvent := none
  collectors : Collectors
  stage : ReceiverStage

/-- A message type that answers a request. -/
def isResponseMessage (messageType : MessageType) : Bool :=
  messageType = MessageType.openDone || messageType = MessageType.closeDone ||
    messageType = MessageType.commandDone || messageType = MessageType.functionError

namespace Receiver

/-- What the receiver does with a frame. -/
def receiveFrame (s : Receiver) (frame : Frame) (now : Time) : Option ReceiverEffects :=
  if isFragmentMessage (messageTypeOf frame.data) then
    match collectReceivedFrame s.collectors frame.data now with
    | (collectors, .incomplete) => some { collectors, stage := .waiting }
    | (collectors, .complete data) => some { collectors, stage := .handling data }
    | (collectors, .fault fault) =>
      let report := { transactionID := fault.transactionID, status := fault.status, keys := [frameKey frame.data] }
      some { collectors, stage := .failing report [] }
    -- The receiver panics, and takes no further step.
    | (_, .panicked) => none
  -- Other messages are never in fragments.
  else some { collectors := s.collectors, stage := .handling frame.data }

/-- What the receiver does with a whole message. -/
def handle (s : Receiver) (data : Bytes) : Option ReceiverEffects :=
  if isResponseMessage (messageTypeOf data) then
    some { dispatcher := some (.response (.deliverResponse data)), collectors := s.collectors, stage := .waiting }
  else if messageTypeOf data = MessageType.indicateStatus then
    match Indication.unmarshalBinary data with
    | .ok indication =>
      some { dispatcher := some (.indication (.publishIndication indication))
             collectors := s.collectors
             stage := .waiting }
    -- An indication that does not parse stops the receiver.
    | .error (.err err) => some { collectors := s.collectors, stage := .stopping err }
    | .error .outOfRange => none
  -- Any other message is ignored.
  else some { collectors := s.collectors, stage := .waiting }

/-- What the receiver does next with what it has at hand. -/
def advance (s : Receiver) : Option ReceiverEffects :=
  match s.stage with
  | .handling data => s.handle data
  | .failing report rest =>
    -- The transaction alone selects the request that fails.
    some { dispatcher := some (.response (.failResponse report.transactionID (.protocol report.status)))
           collectors := s.collectors
           stage := .notifying report rest }
  | .stopping err =>
    some { dispatcher := some (.stopReceiver err), collectors := s.collectors, stage := .returned }
  | _ => none

/-- The receiver is in its `select`. -/
def selects (s : Receiver) : Bool := s.dispatcher.control.receiverStarted && s.stage = .waiting

/-- What an event does, where it can happen. -/
def effects (s : Receiver) : ReceiverEvent → Option ReceiverEffects
  | .frame frame now => if s.selects then s.receiveFrame frame now else none
  | .readError err =>
    if s.selects then
      some { collectors := s.collectors, stage := .stopping (.wrap "receiving MBIM message" [] err) }
    else none
  | .expire now =>
    if s.selects then
      some { collectors := (expireFragmentCollectors s.collectors now).1
             stage := .next (expiryReports s.collectors now) }
    else none
  | .advance => s.advance
  | .sendHostError failure =>
    match s.stage, failure with
    | .notifying _ rest, none => some { collectors := s.collectors, stage := .next rest }
    | .notifying report _, some err =>
      let failed := .wrap "sending MBIM host error for transaction %d" [report.transactionID.toNat] err
      some { collectors := s.collectors, stage := .stopping failed }
    | _, _ => none
  | .other e =>
    if e.ofReceiver then none
    else some { dispatcher := some e, collectors := s.collectors, stage := s.stage }

/-- One step of the receiver and of everything beside it. -/
def step (s : Receiver) (e : ReceiverEvent) : Option Receiver := do
  let effects ← s.effects e
  let dispatcher ← follow Dispatcher.step s.dispatcher effects.dispatcher
  return { dispatcher, collectors := effects.collectors, stage := effects.stage }

end Receiver

/-- The receiver of a new client. -/
def receiver : Machine Receiver ReceiverEvent := { init := {}, step := Receiver.step }

end Wwan.Mbim
