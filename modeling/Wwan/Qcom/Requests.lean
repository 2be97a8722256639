import Mathlib.Logic.Function.Basic
import Wwan.Lib.GoMap
import Wwan.Lib.Machine

/-! The requests of the QMUX and the QRTR transport: who waits under which key, and what becomes of it. -/

namespace Wwan.Qcom

/-! The table of waiting requests, which both transports have. -/

/-- How a transport tells its requests and responses apart. -/
structure Wire (Q R K : Type) where
  /-- The request can be marshaled. -/
  valid : Q → Bool
  requestKey : Q → K
  responseKey : R → K
  /-- The transport fails when the outcome of the request is unknown. -/
  allocation : Q → Bool
  /-- The transport can be shared by leases. -/
  leases : Bool

namespace Requests

/-- A call of `Dispatch` or `Do`, and its result channel. -/
abbrev RequestID := Nat

/-- A lease of a shared transport. -/
abbrev LeaseID := Nat

/-- Why a request ends without a response. -/
inductive RequestError where
  /-- The request cannot be marshaled. -/
  | invalid
  /-- `QMI transport lease is closed` -/
  | leaseClosed
  /-- The transport has failed or is closed. -/
  | terminal
  /-- `QMI request is already pending` -/
  | alreadyPending
  /-- The context of the request has ended, or its write deadline could not be set. -/
  | context
  deriving DecidableEq

/-- What a request ends with. -/
inductive Outcome (R : Type) where
  | response (resp : R)
  | error (err : RequestError)
  deriving DecidableEq

/-- How a write ends. -/
inductive WriteResult where
  | ok
  /-- The context has interrupted it before its first byte, or after its last. -/
  | interrupted (full : Bool)
  | failed
  deriving DecidableEq

/-- How far a request is. -/
inductive Phase where
  | absent
  /-- It has been added, and waits for the write gate. -/
  | gate
  /-- It holds the write gate. -/
  | holding
  /-- It has given up before its write, and is about to call `removePending`. -/
  | leaving
  | writeFailed (result : WriteResult)
  /-- It waits for its outcome or the end of its context. -/
  | written
  /-- Its entry was gone when it expired, so it waits for its outcome alone. -/
  | draining
  /-- It is about to fail the transport. -/
  | failing
  | done
  deriving DecidableEq

/-- An entry of the table: `pending` and `pendingOwners` under one key. -/
structure Entry where
  request : RequestID
  owner : Option LeaseID
  deriving DecidableEq

/-- The table with the requests that use it. -/
structure State (Q R K : Type) where
  phase : RequestID → Phase := fun _ => .absent
  /-- What was dispatched. -/
  request : RequestID → Option Q := fun _ => none
  pending : GoMap K Entry := ∅
  /-- The request that holds the write gate. -/
  writer : Option RequestID := none
  /-- Outcomes of entries that were taken from the table but are still to be sent. -/
  sends : List (RequestID × Outcome R) := []
  /-- The result channels, with one place each. -/
  channel : RequestID → Option (Outcome R) := fun _ => none
  /-- The leases that are closed, and those whose entries have been taken. -/
  leaseClosed : LeaseID → Bool := fun _ => false
  leaseSwept : LeaseID → Bool := fun _ => false
  closed : Bool := false
  /-- The responses that the reader has read. -/
  read : List R := []
  /-- What the requests have returned to their callers. -/
  outcomes : RequestID → List (Outcome R) := fun _ => []
  /-- Entries of another request that a request has removed. -/
  foreign : List (RequestID × RequestID) := []

/-- What can happen next. -/
inductive Event (Q R : Type) where
  /-- `Dispatch` or `Do` is called, and gets as far as `addPending`. -/
  | dispatch (r : RequestID) (req : Q) (lease : Option LeaseID)
  | acquireWrite (r : RequestID)
  /-- The context ends before the write, or the write deadline cannot be set. -/
  | giveUp (r : RequestID)
  | removePending (r : RequestID)
  | write (r : RequestID) (result : WriteResult)
  /-- `expirePending`, after a failed write or the end of the context. -/
  | expirePending (r : RequestID)
  /-- The request fails the transport. -/
  | failTransport (r : RequestID)
  /-- The request receives from its result channel. -/
  | receive (r : RequestID)
  /-- The reader takes the entry of a response from the table. -/
  | deliverResponse (resp : R)
  /-- An outcome is sent to a result channel. -/
  | send (r : RequestID) (outcome : Outcome R)
  | closeLease (lease : LeaseID)
  /-- `closeLease` takes the entries of the lease from the table. -/
  | sweepLease (lease : LeaseID)
  /-- The reader fails, or the transport is closed. -/
  | fail
  deriving DecidableEq

namespace State

variable {Q R K : Type}

/-- A request moves on. -/
def enter (s : State Q R K) (r : RequestID) (phase : Phase) : State Q R K :=
  { s with phase := Function.update s.phase r phase }

/-- A request returns an outcome to its caller. -/
def ret (s : State Q R K) (r : RequestID) (outcome : Outcome R) : State Q R K :=
  { s.enter r .done with outcomes := Function.update s.outcomes r (s.outcomes r ++ [outcome]) }

/-- The write gate is given back. -/
def releaseWrite (s : State Q R K) : State Q R K := { s with writer := none }

/-- The sends that follow when entries are taken with an error. -/
def errorSends (entries : List Entry) (err : RequestError) : List (RequestID × Outcome R) :=
  entries.map fun entry => (entry.request, .error err)

/-- `fail`, with the sends still to come -/
def fail (s : State Q R K) : State Q R K :=
  if s.closed then s
  else { s with closed := true, pending := ∅
                sends := s.sends ++ errorSends (s.pending.entries.map Prod.snd) .terminal }

variable [DecidableEq K] (wire : Wire Q R K)

/-- `addPending`, after which the request waits for the write gate or has returned. -/
def addPending (s : State Q R K) (r : RequestID) (key : K) (lease : Option LeaseID) : State Q R K :=
  if lease.any s.leaseClosed then s.ret r (.error .leaseClosed)
  else if s.closed then s.ret r (.error .terminal)
  else if (s.pending.get key).isSome then s.ret r (.error .alreadyPending)
  else { s.enter r .gate with pending := s.pending.set key { request := r, owner := lease } }

/-- Delete an entry by its key alone, and note if it is that of another request. -/
def delete (s : State Q R K) (r : RequestID) (key : K) : State Q R K :=
  { s with
    pending := s.pending.delete key
    foreign :=
      match s.pending.get key with
      | some entry => if entry.request = r then s.foreign else s.foreign ++ [(r, entry.request)]
      | none => s.foreign }

/-- What follows when a request has expired with its entry still in the table. -/
def expired (s : State Q R K) (r : RequestID) (req : Q) : WriteResult → State Q R K
  | .failed => s.enter r .failing
  -- Without an error of the write, the request was written in full.
  | .interrupted full => if full && wire.allocation req then s.enter r .failing else s.ret r (.error .context)
  | .ok => if wire.allocation req then s.enter r .failing else s.ret r (.error .context)

/-- `expirePending`, which leaves the entry of another request alone. -/
def expirePending (s : State Q R K) (r : RequestID) (req : Q) (result : WriteResult) : State Q R K :=
  let key := wire.requestKey req
  if (s.pending.get key).any (·.request = r) then expired wire (s.delete r key) r req result
  else s.enter r .draining

/-- Take the entry of a response from the table. -/
def deliverResponse (s : State Q R K) (resp : R) : State Q R K :=
  let s := { s with read := s.read ++ [resp] }
  match s.pending.get (wire.responseKey resp) with
  | none => s
  | some entry =>
    { s with pending := s.pending.delete (wire.responseKey resp)
             sends := s.sends ++ [(entry.request, .response resp)] }

/-- Take the entries of a lease from the table. -/
def sweepLease (s : State Q R K) (lease : LeaseID) : State Q R K :=
  let entries := s.pending.entries.map Prod.snd
  { s with
    leaseSwept := Function.update s.leaseSwept lease true
    pending := s.pending.filterMap fun _ entry => if entry.owner = some lease then none else some entry
    sends := s.sends ++ errorSends (entries.filter fun entry => entry.owner = some lease) .leaseClosed }

/-- One step of a request, of the reader or of a close. -/
def step [DecidableEq R] (s : State Q R K) : Event Q R → Option (State Q R K)
  | .dispatch r req lease =>
    if s.phase r = .absent ∧ (lease = none ∨ wire.leases = true) then
      let s := { s with request := Function.update s.request r (some req) }
      some (if wire.valid req then s.addPending r (wire.requestKey req) lease else s.ret r (.error .invalid))
    else none
  | .acquireWrite r =>
    if s.phase r = .gate ∧ s.writer = none then some { s.enter r .holding with writer := some r } else none
  | .giveUp r =>
    match s.phase r with
    | .gate => some (s.enter r .leaving)
    | .holding => some (s.enter r .leaving).releaseWrite
    | _ => none
  | .removePending r =>
    match s.phase r, s.request r with
    | .leaving, some req => some ((s.delete r (wire.requestKey req)).ret r (.error .context))
    | _, _ => none
  | .write r result =>
    match s.phase r with
    | .holding => some (s.enter r (if result = .ok then .written else .writeFailed result)).releaseWrite
    | _ => none
  | .expirePending r =>
    match s.phase r, s.request r with
    | .writeFailed result, some req => some (s.expirePending wire r req result)
    | .written, some req => some (s.expirePending wire r req .ok)
    | _, _ => none
  | .failTransport r =>
    match s.phase r with
    | .failing => some (s.fail.ret r (.error .terminal))
    | _ => none
  | .receive r =>
    match s.phase r, s.channel r with
    | .written, some outcome | .draining, some outcome =>
      some ({ s with channel := Function.update s.channel r none }.ret r outcome)
    | _, _ => none
  | .deliverResponse resp => some (s.deliverResponse wire resp)
  | .send r outcome =>
    if (r, outcome) ∈ s.sends ∧ s.channel r = none then
      some { s with sends := s.sends.erase (r, outcome), channel := Function.update s.channel r (some outcome) }
    else none
  | .closeLease lease =>
    if wire.leases then some { s with leaseClosed := Function.update s.leaseClosed lease true } else none
  | .sweepLease lease => if s.leaseClosed lease && !s.leaseSwept lease then some (s.sweepLease lease) else none
  | .fail => some s.fail

end State

/-- All interleavings of the requests of a transport. -/
def requests {Q R K : Type} [DecidableEq K] [DecidableEq R] (wire : Wire Q R K) :
    Machine (State Q R K) (Event Q R) where
  init := {}
  step := State.step wire

end Requests

/-! The two transports. -/

/-- What the QMUX transport reads of a request or a response. -/
structure QmuxMessage where
  service : UInt32
  clientID : UInt8
  transactionID : UInt16
  messageID : UInt16
  deriving DecidableEq

/-- `ServiceControl` -/
def serviceControl : UInt32 := 0x00

/-- `MessageAllocateClientID` -/
def messageAllocateClientID : UInt16 := 0x0022

/-- `validateRequest` -/
def QmuxMessage.validateRequest (req : QmuxMessage) : Bool :=
  req.service ≤ 0xFF && !(req.service = serviceControl && req.clientID ≠ 0) && req.transactionID ≠ 0 &&
    !(req.service = serviceControl && req.transactionID > 0xFF)

/-- The key of a response, where the control service has no clients. -/
def QmuxMessage.deliveryKey (resp : QmuxMessage) : QmuxMessage :=
  if resp.service = serviceControl then { resp with clientID := 0 } else resp

/-- `isClientIDAllocation` -/
def QmuxMessage.isClientIDAllocation (req : QmuxMessage) : Bool :=
  req.service = serviceControl && req.messageID = messageAllocateClientID

/-- Requests of QMUX wait under service, client, transaction and message. -/
def qmux : Wire QmuxMessage QmuxMessage QmuxMessage where
  valid := QmuxMessage.validateRequest
  requestKey := id
  responseKey := QmuxMessage.deliveryKey
  allocation := QmuxMessage.isClientIDAllocation
  leases := true

/-- What the transport of one QRTR service reads of a request or a response. -/
structure QrtrMessage where
  transactionID : UInt16
  messageID : UInt16
  deriving DecidableEq

/-- Requests of QRTR wait under transaction and message, and no client is allocated. -/
def qrtr : Wire QrtrMessage QrtrMessage QrtrMessage where
  valid := fun req => req.transactionID ≠ 0
  requestKey := id
  responseKey := id
  allocation := fun _ => false
  leases := false

end Wwan.Qcom
