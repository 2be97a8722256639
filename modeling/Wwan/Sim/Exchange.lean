import Wwan.Lib.Go
import Wwan.Lib.Machine

/-! The APDU exchanges of all operations on one reader, whose Transmit calls may interleave. -/

namespace Wwan.Sim.Exchange

/-! Responses. -/

/-- `Response.SW1` -/
def sw1 (response : Bytes) : UInt8 := if response.length < 2 then 0 else response.getD (response.length - 2) 0

/-- `Response.SW2` -/
def sw2 (response : Bytes) : UInt8 := if response.length < 2 then 0 else response.getD (response.length - 1) 0

/-- `Response.Data` -/
def data (response : Bytes) : Bytes := if response.length < 2 then [] else response.take (response.length - 2)

/-- `Response.HasMore` -/
def hasMore (response : Bytes) : Bool := sw1 response == 0x61

/-! Operations. -/

/-- A goroutine that works with the reader. -/
abbrev CallerID := Nat

/-- What a goroutine is doing with the reader. -/
inductive Operation where
  | listApplications
  | fileAttributes
  | readTransparent
  | readRecord
  | authenticate3G
  | smsPPDownload
  /-- `applyProfile`, at the start of `Commands` -/
  | applyProfile
  /-- `pollSTK`, in the goroutine of `Commands` -/
  | pollSTK
  | envelope
  | terminalResponse
  deriving DecidableEq

/-- Whether the operation sends its commands through `transmitSTKAPDU`, which holds `stkMu` during an exchange. -/
def Operation.locks : Operation → Bool
  | .applyProfile | .pollSTK | .envelope | .terminalResponse => true
  | .listApplications | .fileAttributes | .readTransparent | .readRecord | .authenticate3G | .smsPPDownload => false

/-- A command is known by how many APDUs were sent before it. -/
abbrev CommandID := Nat

/-- A byte that the card sent, with the command it answers. -/
abbrev Sourced := CommandID × UInt8

/-- How far a goroutine is. -/
inductive Stage where
  | idle
  /-- In an operation, between its exchanges. -/
  | running (op : Operation)
  /-- It holds `stkMu` and is about to send a command. -/
  | holding (op : Operation)
  /-- In the loop of `followGetResponse`, with the last response and the data collected so far. -/
  | following (op : Operation) (own : CommandID) (response : Bytes) (collected : List Sourced)
  deriving DecidableEq

/-- An APDU. -/
inductive Apdu where
  | command (request : Bytes)
  /-- GET RESPONSE with the length that was announced. -/
  | getResponse (le : UInt8)
  deriving DecidableEq

/-- An APDU that was sent, with the response, if there was one. -/
structure Sent where
  caller : CallerID
  apdu : Apdu
  answer : Option Bytes
  deriving DecidableEq

/-- The card announced more data. -/
def Sent.more (sent : Sent) : Bool := sent.answer.any hasMore

/-- The APDU is a GET RESPONSE. -/
def Sent.isGetResponse (sent : Sent) : Bool :=
  match sent.apdu with
  | .command _ => false
  | .getResponse _ => true

/-- What `followGetResponse` returned, without the status bytes. -/
structure Collected where
  caller : CallerID
  own : CommandID
  data : List Sourced
  deriving DecidableEq

/-- The reader with the goroutines that use it, and the card. -/
structure State where
  callers : CallerID → Stage := fun _ => .idle
  /-- The goroutine that holds `stkMu`. -/
  stkMu : Option CallerID := none
  /-- The command whose data GET RESPONSE gives: the last one that the card got. -/
  last : Option CommandID := none
  sent : List Sent := []
  returned : List Collected := []

/-- What can happen next. -/
inductive Event where
  | begin_ (caller : CallerID) (op : Operation)
  /-- `transmitSTKAPDU` takes `stkMu`. -/
  | lock (caller : CallerID)
  /-- The `Transmit` of a command, which fails without an answer. -/
  | transmit (caller : CallerID) (request : Bytes) (answer : Option Bytes)
  /-- The `Transmit` of a GET RESPONSE. -/
  | follow (caller : CallerID) (answer : Option Bytes)
  | end_ (caller : CallerID)
  deriving DecidableEq

namespace State

/-- A goroutine moves on. -/
def enter (s : State) (caller : CallerID) (stage : Stage) : State :=
  { s with callers := Function.update s.callers caller stage }

/-- An exchange ends, and with it the right to send STK commands. -/
def leave (s : State) (caller : CallerID) (op : Operation) : State :=
  { s.enter caller (.running op) with stkMu := if op.locks then none else s.stkMu }

/-- The response to an APDU is looked at: an exchange goes on as long as the card announces more data. -/
def receive (s : State) (caller : CallerID) (op : Operation) (own : CommandID) (collected : List Sourced)
    (source : CommandID) : Option Bytes → State
  | none => s.leave caller op
  | some response =>
    -- An answer without a status word ends the exchange.
    if response.length < 2 then s.leave caller op
    else
      -- Every byte is noted with the command that it answers.
      let collected := collected ++ (data response).map fun byte => (source, byte)
      if hasMore response then s.enter caller (.following op own response collected)
      else { s.leave caller op with returned := s.returned ++ [{ caller, own, data := collected }] }

/-- `transmitResponse`: the command is sent, and becomes the one that the card gives data of. -/
def transmitResponse (s : State) (caller : CallerID) (op : Operation) (request : Bytes) (answer : Option Bytes) :
    State :=
  let own := s.sent.length
  let sent : List Sent := s.sent ++ [{ caller, apdu := .command request, answer }]
  { s with sent, last := some own }.receive caller op own [] own answer

/-- A round of `followGetResponse`: the card gives data of the last command that it got. -/
def followGetResponse (s : State) (caller : CallerID) (op : Operation) (own : CommandID) (response : Bytes)
    (collected : List Sourced) (answer : Option Bytes) : State :=
  let sent : List Sent := s.sent ++ [{ caller, apdu := .getResponse (sw2 response), answer }]
  { s with sent }.receive caller op own collected (s.last.getD 0) answer

/-- One step of one of the goroutines. -/
def step (s : State) : Event → Option State
  | .begin_ caller op =>
    match s.callers caller with
    | .idle => some (s.enter caller (.running op))
    | _ => none
  | .lock caller =>
    match s.callers caller, s.stkMu with
    | .running op, none =>
      -- Only the operations of the toolkit take the mutex.
      if op.locks then some { s.enter caller (.holding op) with stkMu := some caller } else none
    | _, _ => none
  | .transmit caller request answer =>
    match s.callers caller with
    | .running op => if op.locks then none else some (s.transmitResponse caller op request answer)
    | .holding op => some (s.transmitResponse caller op request answer)
    | _ => none
  | .follow caller answer =>
    match s.callers caller with
    | .following op own response collected => some (s.followGetResponse caller op own response collected answer)
    | _ => none
  | .end_ caller =>
    match s.callers caller with
    | .running _ => some (s.enter caller .idle)
    | _ => none

end State

/-- All interleavings of the operations on one reader. -/
def exchanges : Machine State Event where
  init := {}
  step := State.step

end Wwan.Sim.Exchange
