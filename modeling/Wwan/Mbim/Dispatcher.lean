import Wwan.Lib.Machine
import Wwan.Mbim.Indications

/-! The dispatcher that the leases of one client share, as a machine over its lock sections. -/

namespace Wwan.Mbim

/-- A handle on a shared client. -/
structure Client where
  lease : Option Lease
  /-- `c.conn != nil` -/
  connected : Bool
  deriving DecidableEq

/-- The flags of a client. -/
structure Control where
  closed : Bool := false
  closing : Bool := false
  receiverStarted : Bool := false
  receiverErr : Option Error := none
  /-- The leases whose closed flag is set. -/
  closedLeases : List Lease := []
  /-- The leases whose closed flag is set and whose entries are still to be removed. -/
  sweeping : List Lease := []
  deriving DecidableEq

namespace Control

/-- `c.lease != nil && c.lease.closed.Load()` -/
def leaseClosed (c : Control) (client : Client) : Bool :=
  match client.lease with
  | none => false
  | some lease => c.closedLeases.contains lease

/-- Start the receiver unless it runs, or say why it cannot run. -/
def ensureReceiverLocked (c : Control) (client : Client) (allowClosing : Bool) : Except Error Control :=
  if c.leaseClosed client then .error errClientLeaseClosed
  else if c.closed then .error errClientClosed
  else if c.closing && !allowClosing then .error errClientClosed
  else
    match c.receiverErr with
    | some err => .error err
    | none =>
      if c.receiverStarted then .ok c
      else if !client.connected then .error (.format "MBIM client connection is nil" [])
      else .ok { c with receiverStarted := true }

/-- Begin to close the client. -/
def beginClose (c : Control) : Control := if c.closed || c.closing then c else { c with closing := true }

/-- Set the receiver's error, the first one only. -/
def stopReceiver (c : Control) (err : Error) : Control :=
  { c with receiverErr := some (c.receiverErr.getD err), receiverStarted := false }

/-- `c.lease.closed.CompareAndSwap(false, true)` -/
def closeLease (c : Control) (lease : Lease) : Control :=
  if c.closedLeases.contains lease then c
  else { c with closedLeases := c.closedLeases ++ [lease], sweeping := c.sweeping ++ [lease] }

end Control

/-- The state of a shared client. -/
structure Dispatcher where
  control : Control := {}
  responses : Responses := {}
  indications : Indications := {}

namespace Dispatcher

/-- The checks of a request before it is sent, and the waiter for its response. -/
def registerResponse (s : Dispatcher) (client : Client) (request : Request) (allowClosing : Bool) :
    Control × Except Error ResponseEvent :=
  match responseMessageType request.messageType with
  | none =>
    (s.control, .error (.format "registering MBIM response: unsupported request message type %#x"
      [request.messageType.toNat]))
  | some messageType =>
    -- The receiver is started by the first request.
    match s.control.ensureReceiverLocked client allowClosing with
    | .error err => (s.control, .error err)
    -- A transaction has one waiter.
    | .ok control =>
      if (s.responses.pending.get request.transactionID).isSome then
        (control, .error (.format "registering MBIM response: transaction ID %d is already pending"
          [request.transactionID.toNat]))
      else
        (control, .ok (.register request.transactionID messageType request.expectedCommand client.lease))

/-- The checks of a call for the next indication. -/
def nextIndication (s : Dispatcher) (client : Client) (key : IndicationKey) :
    Control × Except Error IndicationEvent :=
  if s.control.leaseClosed client then (s.control, .error errClientLeaseClosed)
  else if s.control.closed || s.control.closing then (s.control, .error errClientClosed)
  -- What is queued is returned even after the receiver has stopped.
  else if s.indications.indications.items key ≠ [] then
    (s.control, .ok (.nextIndication key client.lease))
  else
    match s.control.receiverErr with
    | some err => (s.control, .error err)
    | none =>
      match s.control.ensureReceiverLocked client false with
      | .error err => (s.control, .error err)
      | .ok control => (control, .ok (.nextIndication key client.lease))

/-- The checks of a subscription, and its channel. -/
def subscribeIndication (s : Dispatcher) (client : Client) (key : IndicationKey) :
    Control × Except Error IndicationEvent :=
  if s.control.leaseClosed client then (s.control, .error errClientLeaseClosed)
  else if s.control.closed || s.control.closing then (s.control, .error errClientClosed)
  else
    match s.control.receiverErr with
    | some err =>
      -- What is queued goes to the subscriber first, and the error follows.
      if s.indications.indications.items key = [] then (s.control, .error err)
      else (s.control, .ok (.subscribeStopped key err))
    | none =>
      match s.control.ensureReceiverLocked client false with
      | .error err => (s.control, .error err)
      | .ok control => (control, .ok (.subscribeIndication key client.lease))

end Dispatcher

/-- An event that only an operation with checks of its own brings about. -/
def ResponseEvent.guarded : ResponseEvent → Bool
  | .register .. | .stopReceiver _ | .closeLease _ => true
  | _ => false

/-- An event that only an operation with checks of its own brings about. -/
def IndicationEvent.guarded : IndicationEvent → Bool
  | .nextIndication .. | .subscribeIndication .. | .subscribeStopped .. | .stopReceiver _
  | .closeLease _ => true
  | _ => false

/-- What can happen to the dispatcher, each under its lock or on one channel. -/
inductive DispatcherEvent where
  | startReceiver (client : Client)
  | beginClose
  | finishClose
  | registerResponse (client : Client) (request : Request) (allowClosing : Bool)
  | nextIndication (client : Client) (key : IndicationKey)
  | subscribeIndication (client : Client) (key : IndicationKey)
  | stopReceiver (err : Error)
  /-- `closeLease` sets the closed flag of its lease. -/
  | closeLease (lease : Lease)
  /-- `closeLease` removes the entries of its lease. -/
  | sweepLease (lease : Lease)
  /-- Any other step of the responses. -/
  | response (e : ResponseEvent)
  /-- Any other step of the indications. -/
  | indication (e : IndicationEvent)
  deriving DecidableEq

/-- Whether an event takes the dispatcher's lock, besides those of the indications alone. -/
def DispatcherEvent.locks : DispatcherEvent → Bool
  | .closeLease _ | .response (.send _) | .response (.receive _) | .indication _ => false
  | _ => true

/-- What an event does to the parts of the dispatcher. -/
structure Effects where
  control : Control
  response : Option ResponseEvent := none
  indication : Option IndicationEvent := none

/-- A step of one part, where the event has one for it. -/
def follow {σ ε : Type} (step : σ → ε → Option σ) (s : σ) : Option ε → Option σ
  | none => some s
  | some e => step s e

namespace Dispatcher

/-- What an event does to the parts of the dispatcher, where it can happen. -/
def effects (s : Dispatcher) : DispatcherEvent → Option Effects
  | .startReceiver client =>
    match s.control.ensureReceiverLocked client false with
    | .error _ => some { control := s.control }
    | .ok control => some { control }
  | .beginClose => some { control := s.control.beginClose }
  | .finishClose => some { control := { s.control with closed := true } }
  | .registerResponse client request allowClosing =>
    let (control, result) := s.registerResponse client request allowClosing
    some { control, response := result.toOption }
  | .nextIndication client key =>
    let (control, result) := s.nextIndication client key
    some { control, indication := result.toOption }
  | .subscribeIndication client key =>
    let (control, result) := s.subscribeIndication client key
    some { control, indication := result.toOption }
  | .stopReceiver err =>
    some { control := s.control.stopReceiver err
           response := some (.stopReceiver err)
           indication := some (.stopReceiver err) }
  -- The lease is marked closed first, and its entries are taken out later.
  | .closeLease lease => some { control := s.control.closeLease lease }
  | .sweepLease lease =>
    if s.control.sweeping.contains lease then
      some { control := { s.control with sweeping := s.control.sweeping.erase lease }
             response := some (.closeLease lease)
             indication := some (.closeLease lease) }
    else none
  | .response e => if e.guarded then none else some { control := s.control, response := some e }
  | .indication e => if e.guarded then none else some { control := s.control, indication := some e }

/-- One step of the dispatcher. -/
def step (s : Dispatcher) (e : DispatcherEvent) : Option Dispatcher :=
  if e.locks && s.indications.locked then none
  else do
    let effects ← s.effects e
    let responses ← follow Responses.step s.responses effects.response
    let indications ← follow Indications.step s.indications effects.indication
    return { control := effects.control, responses, indications }

end Dispatcher

/-- The dispatcher of a new client. -/
def dispatcher : Machine Dispatcher DispatcherEvent := { init := {}, step := Dispatcher.step }

end Wwan.Mbim
