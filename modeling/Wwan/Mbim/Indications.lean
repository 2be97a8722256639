import Mathlib.Logic.Function.Basic
import Wwan.Mbim.Responses

/-! The indications of a client: subscriptions, waiting calls, queues, and the values on their way. -/

namespace Wwan.Mbim

/-- The longest queue of indications nobody has asked for, and the room of a watch channel. -/
def maxQueuedIndications : Nat := 32

/-- What an indication is subscribed to, awaited and queued under. -/
structure IndicationKey where
  serviceID : ServiceID
  commandID : UInt32
  deriving DecidableEq

/-- The key of an indication. -/
def Indication.key (indication : Indication) : IndicationKey :=
  { serviceID := indication.serviceID, commandID := indication.commandID }

/-- A value or the terminal error from a notification stream. -/
inductive WatchResult where
  | value (indication : Indication)
  | failed (err : Error)
  deriving DecidableEq

/-- One call that waits for an indication. -/
structure IndicationWaiter where
  ch : ChanID
  owner : Option Lease
  deriving DecidableEq

/-- What a delivery to a channel does next. -/
inductive Phase where
  /-- `ch <- result` -/
  | send
  /-- The first `select` of `deliverWatchResult`. -/
  | offer
  /-- Its second `select`, which makes room. -/
  | drain
  /-- Its third `select`, and the `select` that stops a waiter. -/
  | lastOffer
  /-- `close(ch)` -/
  | close
  deriving DecidableEq

/-- A delivery under way, while readers of the channel run beside it. -/
structure Delivery where
  ch : ChanID
  result : WatchResult
  phase : Phase
  /-- The channel is closed at the end. -/
  closes : Bool
  /-- The dispatcher's lock is held for it. -/
  locked : Bool
  deriving DecidableEq

/-- What follows the last `select` of a delivery. -/
def Delivery.afterwards (d : Delivery) : Option Phase := if d.closes then some .close else none

/-- One statement of a delivery, unless it blocks or panics. -/
def Delivery.advance (d : Delivery) (c : Chan WatchResult) : Option (Chan WatchResult × Option Phase) :=
  match d.phase with
  | .send => (c.send? d.result).map fun c => (c, d.afterwards)
  | .offer =>
    if c.closed then none
    -- A full channel loses its oldest value to make room.
    else if c.hasRoom then some (c.push d.result, d.afterwards) else some (c, some .drain)
  | .drain => some (c.pop, some .lastOffer)
  | .lastOffer =>
    if c.closed then none
    -- If the room is gone again, the value is dropped.
    else if c.hasRoom then some (c.push d.result, d.afterwards) else some (c, d.afterwards)
  | .close => if c.closed then none else some (c.close, none)

/-- Where a call of `nextIndication` is. -/
inductive CallStage where
  /-- In its `select`. -/
  | waiting
  /-- Cancelled, no longer listed, and about to look into its channel. -/
  | polling (cause : Error)
  | returned (result : Except Error Indication)
  deriving DecidableEq

/-- A call of `nextIndication` that got past its checks. -/
structure NextCall where
  key : IndicationKey
  stage : CallStage
  deriving DecidableEq

/-- Where the goroutine of `WatchIndicationResults` is. -/
inductive WatchStage where
  /-- In its outer `select`. -/
  | looping
  /-- In its inner `select`, with a result to pass on. -/
  | holding (result : WatchResult)
  /-- About to unsubscribe. -/
  | leaving
  /-- About to close its output. -/
  | closing
  | ended
  deriving DecidableEq

/-- A watch, with its goroutine and the consumer of its output. -/
structure Watch where
  key : IndicationKey
  /-- Leaving takes the channel out of the subscriptions. -/
  subscribed : Bool
  out : Chan WatchResult := Chan.make maxQueuedIndications
  stage : WatchStage := .looping
  /-- The context of the watch is done. -/
  cancelled : Bool := false
  /-- What the consumer has read. -/
  reads : List WatchResult := []
  deriving DecidableEq

/-- The error a watch passes on. -/
def watchError (key : IndicationKey) (err : Error) : Error :=
  .wrap "watching MBIM indications for service %x CID %d"
    (key.serviceID.map UInt8.toNat ++ [key.commandID.toNat]) err

/-- The result a watch passes on. -/
def wrapResult (key : IndicationKey) : WatchResult → WatchResult
  | .value indication => .value indication
  | .failed err => .failed (watchError key err)

/-- The indication state of a client, with every call and watch so far under its channel's identity. -/
structure Indications where
  subs : GoMap IndicationKey (GoMap ChanID (Option Lease)) := ∅
  waiters : GoMap IndicationKey (List IndicationWaiter) := ∅
  /-- The queues. -/
  indications : GoMap IndicationKey (List Indication) := ∅
  /-- The number of identities given out. -/
  made : Nat := 0
  chans : ChanID → Chan WatchResult := fun _ => Chan.make 0
  deliveries : List Delivery := []
  calls : ChanID → Option NextCall := fun _ => none
  watches : ChanID → Option Watch := fun _ => none

namespace Indications

/-- The dispatcher's lock is held for a delivery. -/
def locked (n : Indications) : Bool := n.deliveries.any Delivery.locked

/-- The subscribers of a key. -/
def subsOf (n : Indications) (key : IndicationKey) : GoMap ChanID (Option Lease) :=
  (n.subs.get key).getD ∅

/-- The same indications with one call changed. -/
@[simps] def setCall (n : Indications) (ch : ChanID) (call : NextCall) : Indications :=
  { n with calls := Function.update n.calls ch (some call) }

/-- The same indications with one watch changed. -/
@[simps] def setWatch (n : Indications) (ch : ChanID) (watch : Watch) : Indications :=
  { n with watches := Function.update n.watches ch (some watch) }

/-- The same indications with one channel changed. -/
@[simps] def setChan (n : Indications) (ch : ChanID) (chan : Chan WatchResult) : Indications :=
  { n with chans := Function.update n.chans ch chan }

/-- A call that finds an indication in the queue takes the oldest, and waits for one otherwise. -/
def nextIndication (n : Indications) (key : IndicationKey) (owner : Option Lease) : Indications :=
  match n.indications.items key with
  -- A queued indication is returned at once.
  | indication :: rest =>
    { n.setCall n.made { key, stage := .returned (.ok indication) } with
      indications := n.indications.store key rest
      made := n.made + 1 }
  -- The call waits, and the receiver sends to it once at most.
  | [] =>
    { (n.setCall n.made { key, stage := .waiting }).setChan n.made (Chan.make 1) with
      waiters := n.waiters.set key (n.waiters.items key ++ [{ ch := n.made, owner }])
      made := n.made + 1 }

/-- Subscribe with a channel that already holds the queue. -/
def subscribeIndication (n : Indications) (key : IndicationKey) (owner : Option Lease) :
    Option Indications :=
  -- What is queued goes to the subscriber before anything else.
  ((Chan.make maxQueuedIndications).sendAll? ((n.indications.items key).map .value)).map fun chan =>
    { (n.setWatch n.made { key, subscribed := true }).setChan n.made chan with
      subs := n.subs.set key ((n.subsOf key).set n.made owner)
      indications := n.indications.delete key
      made := n.made + 1 }

/-- Watch after the receiver has stopped: the queue and then its error, on a closed channel. -/
def subscribeStopped (n : Indications) (key : IndicationKey) (receiverErr : Error) :
    Option Indications :=
  let queued := n.indications.items key
  -- The receiver has stopped, so that the error follows what is queued and the channel is closed.
  ((Chan.make (queued.length + 1)).sendAll? (queued.map .value ++ [.failed receiverErr])).map fun chan =>
    { (n.setWatch n.made { key, subscribed := false }).setChan n.made chan.close with
      indications := n.indications.delete key
      made := n.made + 1 }

/-- Take a channel out of the subscriptions of a key. -/
def unsubscribeIndication (n : Indications) (key : IndicationKey) (ch : ChanID) : Indications :=
  match n.subs.get key with
  | none => n
  | some set =>
    let rest := set.delete ch
    -- The last subscriber of a key takes its entry along.
    { n with subs := if rest.len = 0 then n.subs.delete key else n.subs.set key rest }

/-- A queue with one more indication, without its oldest where it is full. -/
def queueIndicationLocked (queue : List Indication) (indication : Indication) : List Indication :=
  let queue := queue ++ [indication]
  if queue.length > maxQueuedIndications then queue.drop (queue.length - maxQueuedIndications) else queue

/-- The delivery of an indication to a subscriber. -/
def toSubscriber (indication : Indication) (ch : ChanID) : Delivery :=
  { ch, result := .value indication, phase := .offer, closes := false, locked := true }

/-- The delivery of an indication to a waiting call. -/
def toWaiter (indication : Indication) (waiter : IndicationWaiter) : Delivery :=
  { ch := waiter.ch, result := .value indication, phase := .send, closes := false, locked := true }

/-- Hand an indication to the first waiting call and to all subscribers, or queue it. -/
def publishIndication (n : Indications) (indication : Indication) : Indications :=
  let key := indication.key
  match n.waiters.items key with
  -- Nobody waits: the subscribers get it, or without any the queue does.
  | [] =>
    if (n.subsOf key).len = 0 then
      { n with
        indications := n.indications.set key
          (queueIndicationLocked (n.indications.items key) indication) }
    else { n with deliveries := n.deliveries ++ (n.subsOf key).keys.map (toSubscriber indication) }
  -- The first that waits gets it, besides every subscriber.
  | waiter :: rest =>
    { n with
      waiters := n.waiters.store key rest
      deliveries := n.deliveries ++ (n.subsOf key).keys.map (toSubscriber indication) ++
        [toWaiter indication waiter] }

/-- Stop waiting for an indication: leave the list, or look into the channel where that is too late. -/
def cancelIndicationWaiter (n : Indications) (ch : ChanID) (call : NextCall) (cause : Error) :
    Indications :=
  let waiters := n.waiters.items call.key
  -- Still listed, the call has no value coming.
  if ch ∈ waiters.map IndicationWaiter.ch then
    { n.setCall ch { call with stage := .returned (.error cause) } with
      waiters := n.waiters.store call.key (waiters.eraseP fun waiter => waiter.ch = ch) }
  -- The receiver has taken the waiter already, so that a value may come.
  else n.setCall ch { call with stage := .polling cause }

/-- The delivery of the receiver's error to a subscriber. -/
def stopSubscriber (err : Error) (ch : ChanID) : Delivery :=
  { ch, result := .failed err, phase := .offer, closes := true, locked := false }

/-- The delivery of the receiver's error to a waiting call. -/
def stopWaiter (err : Error) (waiter : IndicationWaiter) : Delivery :=
  { ch := waiter.ch, result := .failed err, phase := .lastOffer, closes := true, locked := false }

/-- End all subscriptions and all waiting calls. -/
def stopReceiver (n : Indications) (err : Error) : Indications :=
  { n with
    subs := ∅
    waiters := ∅
    deliveries := n.deliveries ++
      n.subs.entries.flatMap (fun entry => entry.2.keys.map (stopSubscriber err)) ++
      n.waiters.entries.flatMap fun entry => entry.2.map (stopWaiter err) }

/-- The delivery of a lease's end to one of its subscribers. -/
def closeSubscriber (ch : ChanID) : Delivery :=
  { ch, result := .failed errClientLeaseClosed, phase := .offer, closes := false, locked := false }

/-- The delivery of a lease's end to one of its waiting calls. -/
def closeWaiter (waiter : IndicationWaiter) : Delivery :=
  { ch := waiter.ch, result := .failed errClientLeaseClosed, phase := .send, closes := false
    locked := false }

/-- The subscribers a lease does not own. -/
def otherSubs (lease : Lease) (set : GoMap ChanID (Option Lease)) : GoMap ChanID (Option Lease) :=
  set.filterMap fun _ owner => if owner = some lease then none else some owner

/-- The subscribers a lease owns. -/
def ownSubs (lease : Lease) (set : GoMap ChanID (Option Lease)) : List ChanID :=
  (set.entries.filter fun entry => entry.2 = some lease).map Prod.fst

/-- End the subscriptions and the waiting calls of a lease. -/
def closeLease (n : Indications) (lease : Lease) : Indications :=
  { n with
    subs := n.subs.filterMap fun _ set =>
      if (otherSubs lease set).len = 0 then none else some (otherSubs lease set)
    waiters := n.waiters.filterMap fun _ list =>
      match list.filter fun waiter => waiter.owner ≠ some lease with
      | [] => none
      | remaining => some remaining
    deliveries := n.deliveries ++
      n.subs.entries.flatMap (fun entry => (ownSubs lease entry.2).map closeSubscriber) ++
      n.waiters.entries.flatMap fun entry =>
        (entry.2.filter fun waiter => waiter.owner = some lease).map closeWaiter }

/-- Perform one statement of a delivery. -/
def perform (n : Indications) (d : Delivery) : Option Indications :=
  if d ∈ n.deliveries then
    (d.advance (n.chans d.ch)).map fun (chan, phase) =>
      { n.setChan d.ch chan with
        deliveries := n.deliveries.erase d ++ (phase.map fun phase => { d with phase }).toList }
  else none

/-- What a received result makes a call return. -/
def returnOf : WatchResult → Except Error Indication
  | .value indication => .ok indication
  | .failed err => .error err

/-- A waiting call receives from its channel. -/
def takeResult (n : Indications) (ch : ChanID) (call : NextCall) : Option Indications :=
  match (n.chans ch).buffer with
  | result :: _ =>
    some ((n.setCall ch { call with stage := .returned (returnOf result) }).setChan ch (n.chans ch).pop)
  -- A closed channel is a receiver that has stopped.
  | [] =>
    if (n.chans ch).closed then
      some (n.setCall ch { call with stage := .returned (.error errReceiverStopped) })
    else none

/-- A cancelled call looks into its channel. -/
def pollResult (n : Indications) (ch : ChanID) (call : NextCall) (cause : Error) : Indications :=
  match (n.chans ch).buffer with
  | result :: _ =>
    (n.setCall ch { call with stage := .returned (returnOf result) }).setChan ch (n.chans ch).pop
  | [] => n.setCall ch { call with stage := .returned (.error cause) }

/-- A watch receives from its channel. -/
def forward (n : Indications) (ch : ChanID) (watch : Watch) : Option Indications :=
  match (n.chans ch).buffer with
  | result :: _ =>
    some ((n.setWatch ch { watch with stage := .holding (wrapResult watch.key result) }).setChan ch (n.chans ch).pop)
  -- The channel was closed by a receiver that has stopped.
  | [] => if (n.chans ch).closed then some (n.setWatch ch { watch with stage := .leaving }) else none

end Indications

/-- The stage of a watch after it has passed a result on. -/
def WatchResult.nextStage : WatchResult → WatchStage
  | .value _ => .looping
  | .failed _ => .leaving

/-- A watch passes its result on. -/
def Watch.emit (watch : Watch) (result : WatchResult) : Option Watch :=
  (watch.out.send? result).map fun out => { watch with out, stage := result.nextStage }

/-- The consumer of a watch reads. -/
def Watch.read (watch : Watch) : Option Watch :=
  match watch.out.buffer with
  | [] => none
  | result :: _ => some { watch with out := watch.out.pop, reads := watch.reads ++ [result] }

/-- What can happen to the indications. -/
inductive IndicationEvent where
  | nextIndication (key : IndicationKey) (owner : Option Lease)
  | subscribeIndication (key : IndicationKey) (owner : Option Lease)
  | subscribeStopped (key : IndicationKey) (receiverErr : Error)
  | publishIndication (indication : Indication)
  | stopReceiver (err : Error)
  | closeLease (lease : Lease)
  /-- `clear(c.indications)` -/
  | clear
  | perform (d : Delivery)
  /-- A waiting call receives. -/
  | take (ch : ChanID)
  /-- A waiting call sees its context done. -/
  | cancel (ch : ChanID) (cause : Error)
  /-- A cancelled call looks into its channel. -/
  | poll (ch : ChanID)
  /-- A watch receives. -/
  | forward (ch : ChanID)
  /-- A watch passes a result on. -/
  | emit (ch : ChanID)
  /-- The context of a watch is done. -/
  | cancelWatch (ch : ChanID)
  /-- A watch sees its context done. -/
  | leave (ch : ChanID)
  /-- A watch that leaves unsubscribes. -/
  | unsubscribe (ch : ChanID)
  /-- A watch that left closes its output. -/
  | closeOut (ch : ChanID)
  /-- The consumer of a watch reads. -/
  | read (ch : ChanID)
  deriving DecidableEq

namespace Indications

/-- A section under the dispatcher's lock, which waits while the lock is held. -/
def whileUnlocked (n : Indications) (result : Option Indications) : Option Indications :=
  if n.locked then none else result

/-- One step of the indications. -/
def step (n : Indications) : IndicationEvent → Option Indications
  | .nextIndication key owner => n.whileUnlocked (some (n.nextIndication key owner))
  | .subscribeIndication key owner => n.whileUnlocked (n.subscribeIndication key owner)
  | .subscribeStopped key receiverErr => n.whileUnlocked (n.subscribeStopped key receiverErr)
  | .publishIndication indication => n.whileUnlocked (some (n.publishIndication indication))
  | .stopReceiver err => n.whileUnlocked (some (n.stopReceiver err))
  | .closeLease lease => n.whileUnlocked (some (n.closeLease lease))
  | .clear => n.whileUnlocked (some { n with indications := ∅ })
  | .perform d => n.perform d
  | .take ch =>
    match n.calls ch with
    | some { key, stage := .waiting } => n.takeResult ch { key, stage := .waiting }
    | _ => none
  | .cancel ch cause =>
    match n.calls ch with
    | some { key, stage := .waiting } =>
      n.whileUnlocked (some (n.cancelIndicationWaiter ch { key, stage := .waiting } cause))
    | _ => none
  | .poll ch =>
    match n.calls ch with
    | some { key, stage := .polling cause } =>
      some (n.pollResult ch { key, stage := .polling cause } cause)
    | _ => none
  | .forward ch =>
    match n.watches ch with
    | some watch => if watch.stage = .looping then n.forward ch watch else none
    | none => none
  | .emit ch =>
    match n.watches ch with
    | some watch =>
      match watch.stage with
      | .holding result => (watch.emit result).map (n.setWatch ch)
      | _ => none
    | none => none
  | .cancelWatch ch => (n.watches ch).map fun watch => n.setWatch ch { watch with cancelled := true }
  | .leave ch =>
    match n.watches ch with
    | some watch =>
      match watch.cancelled, watch.stage with
      | true, .looping | true, .holding _ => some (n.setWatch ch { watch with stage := .leaving })
      | _, _ => none
    | none => none
  | .unsubscribe ch =>
    match n.watches ch with
    | some watch =>
      if watch.stage = .leaving then
        if watch.subscribed then
          n.whileUnlocked
            (some ((n.unsubscribeIndication watch.key ch).setWatch ch { watch with stage := .closing }))
        else some (n.setWatch ch { watch with stage := .closing })
      else none
    | none => none
  | .closeOut ch =>
    match n.watches ch with
    | some watch =>
      if watch.stage = .closing then
        some (n.setWatch ch { watch with out := watch.out.close, stage := .ended })
      else none
    | none => none
  | .read ch => (n.watches ch).bind fun watch => watch.read.map (n.setWatch ch)

end Indications

end Wwan.Mbim
