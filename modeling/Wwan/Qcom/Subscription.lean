import Wwan.Lib.Chan
import Wwan.Lib.Machine

/-! A subscription to indications, which the QMUX and the QRTR transport have in the same words. -/

namespace Wwan.Qcom

/-- Where `run` is. -/
inductive RunStage (α : Type) where
  /-- About to call `next`. -/
  | looping
  /-- In the first `select`. -/
  | sending (ind : α)
  /-- In the second `select`. -/
  | parked
  /-- `flushBuffered` is about to call `next`. -/
  | flushing
  /-- `flushBuffered` is about to try one indication. -/
  | flushingOne (ind : α)
  /-- With the indication that found no room. -/
  | returned (left : Option α)
  deriving DecidableEq

/-- A subscription, with the goroutines on its ends. -/
structure Subscription (α : Type) where
  ch : Chan α := .make 16
  /-- A token is in `notify`. -/
  notify : Bool := false
  queue : List α := []
  stopped : Bool := false
  /-- `stop` has called `cancel`. -/
  cancelled : Bool := false
  /-- The context that the subscriber has passed is done. -/
  subscriberDone : Bool := false
  run : RunStage α := .looping
  /-- The calls of `enqueue` that have left the lock and are about to notify. -/
  enqueues : Nat := 0
  /-- Everything that was put into the queue, oldest first. -/
  enqueued : List α := []
  /-- Everything that the subscriber has received, oldest first. -/
  received : List α := []
  deriving DecidableEq

/-- What can happen to a subscription. -/
inductive SubscriptionEvent (α : Type) where
  /-- The locked part of `enqueue`. -/
  | enqueue (ind : α)
  /-- The other part of `enqueue`. -/
  | signal
  /-- The locked part of `stop`, which only the first call reaches. -/
  | stop
  /-- The other part of `stop`. -/
  | cancel
  /-- The context of the subscriber ends. -/
  | subscriberEnd
  /-- `run` or `flushBuffered` calls `next`. -/
  | next
  /-- The channel takes what `run` sends. -/
  | send
  /-- `run` receives the token. -/
  | wake
  /-- `run` finds its context done. -/
  | leave
  /-- `flushBuffered` tries one indication. -/
  | flush
  /-- The subscriber receives. -/
  | receive
  deriving DecidableEq

namespace Subscription

variable {α : Type}

/-- The context of `run` is derived from the subscriber's, and `stop` cancels it. -/
def ctxDone (s : Subscription α) : Bool := s.cancelled || s.subscriberDone

/-- `next` -/
def next (s : Subscription α) : Option α × Subscription α :=
  match s.queue with
  | [] => (none, s)
  | ind :: rest => (some ind, { s with queue := rest })

/-- The locked part of `enqueue`. -/
def enqueue (s : Subscription α) (ind : α) : Subscription α :=
  if s.stopped then s
  else { s with queue := s.queue ++ [ind], enqueued := s.enqueued ++ [ind], enqueues := s.enqueues + 1 }

/-- `run` returns, which closes the channel. -/
def returns (s : Subscription α) (left : Option α) : Subscription α :=
  { s with ch := s.ch.close, run := .returned left }

/-- One step of a subscription. -/
def step (s : Subscription α) : SubscriptionEvent α → Option (Subscription α)
  | .enqueue ind => some (s.enqueue ind)
  | .signal => if s.enqueues = 0 then none else some { s with notify := true, enqueues := s.enqueues - 1 }
  | .stop => some { s with stopped := true }
  | .cancel => if s.stopped then some { s with cancelled := true } else none
  | .subscriberEnd => some { s with subscriberDone := true }
  | .next =>
    match s.run, s.next with
    | .looping, (some ind, s) => some { s with run := .sending ind }
    | .looping, (none, s) => some { s with run := .parked }
    | .flushing, (some ind, s) => some { s with run := .flushingOne ind }
    | .flushing, (none, s) => some (s.returns none)
    | _, _ => none
  | .send =>
    match s.run with
    | .sending ind => (s.ch.send? ind).map fun ch => { s with ch, run := .looping }
    | _ => none
  | .wake =>
    match s.run with
    | .parked => if s.notify then some { s with notify := false, run := .looping } else none
    | _ => none
  | .leave =>
    match s.run with
    | .sending ind => if s.ctxDone then some { s with run := .flushingOne ind } else none
    | .parked => if s.ctxDone then some { s with run := .flushing } else none
    | _ => none
  | .flush =>
    match s.run with
    | .flushingOne ind =>
      -- The first indication and every later one are tried alike, and the first without room ends it.
      match s.ch.send? ind with
      | some ch => some { s with ch, run := .flushing }
      | none => some (s.returns (some ind))
    | _ => none
  | .receive =>
    match s.ch.buffer with
    | ind :: _ => some { s with ch := s.ch.pop, received := s.received ++ [ind] }
    | [] => none

end Subscription

end Wwan.Qcom
