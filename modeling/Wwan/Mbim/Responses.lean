import Wwan.Lib.Chan
import Wwan.Lib.GoMap
import Wwan.Mbim.Protocol

/-! The responses a client waits for, and the results on their way to them. -/

namespace Wwan.Mbim

/-- The identity of a lease on a shared client. -/
abbrev Lease := Nat

/-- One awaited response. -/
structure ResponseWaiter where
  messageType : MessageType
  /-- The command that is answered, where one is expected. -/
  command : Option Command
  ch : ChanID
  owner : Option Lease
  deriving DecidableEq

/-- What is sent to a waiter. -/
inductive ResponseResult where
  | data (data : Bytes)
  | err (err : Error)
  deriving DecidableEq

/-- Whether a message answers the waiter's request. -/
def ResponseWaiter.matches (w : ResponseWaiter) (messageType : MessageType) (data : Bytes) : Bool :=
  if messageType ≠ w.messageType ∧ messageType ≠ MessageType.functionError then false
  else if messageType ≠ MessageType.commandDone then true
  else
    match w.command with
    | none => true
    | some command =>
      -- A header that cannot be parsed is delivered, so that its request fails on it.
      match CommandDoneHeader.unmarshalBinary data with
      | .error _ => true
      | .ok header => header.serviceID = command.serviceID && header.commandID = command.commandID

/-- A send to a waiter's channel that its operation performs after it has released the lock. -/
structure ResponseSend where
  ch : ChanID
  result : ResponseResult
  deriving DecidableEq

/-- The pending responses, and the one-slot channels of all waiters so far. -/
structure Responses where
  pending : GoMap UInt32 ResponseWaiter := ∅
  /-- Every waiter ever registered, with its transaction; its place is its channel's identity. -/
  registered : List (UInt32 × ResponseWaiter) := []
  chans : ChanID → Chan ResponseResult := fun _ => Chan.make 1
  sends : List ResponseSend := []

namespace Responses

/-- Wait for the response to a transaction that none is pending for. -/
def register (r : Responses) (transactionID : UInt32) (messageType : MessageType)
    (command : Option Command) (owner : Option Lease) : Responses :=
  let waiter := { messageType, command, ch := r.registered.length, owner }
  { r with pending := r.pending.set transactionID waiter
           registered := r.registered ++ [(transactionID, waiter)] }

/-- Stop waiting, unless another waiter has taken the transaction over. -/
def unregisterResponse (r : Responses) (transactionID : UInt32) (ch : ChanID) : Responses :=
  match r.pending.get transactionID with
  | none => r
  | some waiter =>
    if waiter.ch = ch then { r with pending := r.pending.delete transactionID } else r

/-- Take the waiter of a transaction, for the given result. -/
def hand (r : Responses) (transactionID : UInt32) (waiter : ResponseWaiter) (result : ResponseResult) :
    Responses :=
  { r with pending := r.pending.delete transactionID
           sends := r.sends ++ [{ ch := waiter.ch, result }] }

/-- Hand a received message to the waiter it answers. -/
def deliverResponse (r : Responses) (data : Bytes) : Responses :=
  match r.pending.get (transactionIDOf data) with
  | none => r
  | some waiter =>
    if waiter.matches (messageTypeOf data) data then r.hand (transactionIDOf data) waiter (.data data)
    else r

/-- Fail the waiter of a transaction, whatever it waits for. -/
def failResponse (r : Responses) (transactionID : UInt32) (err : Error) : Responses :=
  match r.pending.get transactionID with
  | none => r
  | some waiter => r.hand transactionID waiter (.err err)

/-- Fail every waiter. -/
def stopReceiver (r : Responses) (err : Error) : Responses :=
  { r with pending := ∅
           sends := r.sends ++ r.pending.entries.map fun entry => { ch := entry.2.ch, result := .err err } }

/-- Fail every waiter of a lease. -/
def closeLease (r : Responses) (lease : Lease) : Responses :=
  { r with
    pending := r.pending.filterMap fun _ waiter =>
      if waiter.owner = some lease then none else some waiter
    sends := r.sends ++ (r.pending.entries.filter fun entry => entry.2.owner = some lease).map
      fun entry => { ch := entry.2.ch, result := .err errClientLeaseClosed } }

/-- Perform a send, where its channel lets it through. -/
def send (r : Responses) (s : ResponseSend) : Option Responses :=
  if s ∈ r.sends then
    ((r.chans s.ch).send? s.result).map fun chan =>
      { r with chans := Function.update r.chans s.ch chan, sends := r.sends.erase s }
  else none

/-- Receive the result on a waiter's channel. -/
def receive (r : Responses) (ch : ChanID) : Option Responses :=
  if (r.chans ch).buffer = [] then none
  else some { r with chans := Function.update r.chans ch (r.chans ch).pop }

end Responses

/-- What can happen to the responses. -/
inductive ResponseEvent where
  | register (transactionID : UInt32) (messageType : MessageType) (command : Option Command)
      (owner : Option Lease)
  | unregisterResponse (transactionID : UInt32) (ch : ChanID)
  | deliverResponse (data : Bytes)
  | failResponse (transactionID : UInt32) (err : Error)
  | stopReceiver (err : Error)
  | closeLease (lease : Lease)
  | send (s : ResponseSend)
  | receive (ch : ChanID)
  deriving DecidableEq

/-- One step of the responses. -/
def Responses.step (r : Responses) : ResponseEvent → Option Responses
  | .register transactionID messageType command owner =>
    if (r.pending.get transactionID).isSome then none
    else some (r.register transactionID messageType command owner)
  | .unregisterResponse transactionID ch => some (r.unregisterResponse transactionID ch)
  | .deliverResponse data => some (r.deliverResponse data)
  | .failResponse transactionID err => some (r.failResponse transactionID err)
  | .stopReceiver err => some (r.stopReceiver err)
  | .closeLease lease => some (r.closeLease lease)
  | .send s => r.send s
  | .receive ch => r.receive ch

end Wwan.Mbim
