import Wwan.Lib.Machine
import Wwan.Modem.Devices

/-! The queue between the reader of the kernel's events and the watcher of devices. -/

namespace Wwan.Modem

/-- What a watcher takes out of the queue. -/
structure DeviceUeventBatch where
  removals : List KernelUevent
  rescan : Bool
  stopped : Bool
  err : Option GoString
  deriving DecidableEq

/-- The fields under the queue's lock. -/
structure DeviceUeventQueue where
  removals : List KernelUevent := []
  removalNames : GoMap GoString Unit := ∅
  rescan : Bool := false
  stopped : Bool := false
  err : Option GoString := none

namespace DeviceUeventQueue

/-- The locked part of `push`. -/
def push (q : DeviceUeventQueue) (event : KernelUevent) : DeviceUeventQueue :=
  if q.stopped then q
  else
    let name := event.controlNodeName
    if event.removesControlNode && event.named && (q.removalNames.get name).isNone then
      { q with removals := q.removals ++ [event], removalNames := q.removalNames.set name (), rescan := true }
    else { q with rescan := true }

/-- The locked part of `stop`, of which only the first call counts. -/
def stop (q : DeviceUeventQueue) (err : Option GoString) : DeviceUeventQueue :=
  if q.stopped then q else { q with stopped := true, err }

/-- Whether `wait` returns. -/
def ready (q : DeviceUeventQueue) : Bool := q.rescan || !q.removals.isEmpty || q.stopped

/-- Take everything that is queued. -/
def take (q : DeviceUeventQueue) : DeviceUeventBatch × DeviceUeventQueue :=
  ({ removals := q.removals, rescan := q.rescan, stopped := q.stopped, err := q.err },
    { q with removals := [], removalNames := ∅, rescan := false })

end DeviceUeventQueue

/-- Where the watcher is. -/
inductive WatcherStage where
  /-- At the head of the loop of `wait`. -/
  | waiting
  /-- In the `select` of `wait`. -/
  | parked
  /-- `wait` has returned, and the events settle. -/
  | ready
  /-- With a batch at hand. -/
  | handling (batch : DeviceUeventBatch)
  | returned
  deriving DecidableEq

/-- The queue, its one-slot channel, and the goroutines on both of its ends. -/
structure UeventWatch where
  queue : DeviceUeventQueue := {}
  /-- A token is in `notify`. -/
  notify : Bool := false
  /-- The calls that have left the lock and are about to signal. -/
  signals : Nat := 0
  watcher : WatcherStage := .waiting

/-- What can happen to the queue. -/
inductive UeventWatchEvent where
  | push (event : KernelUevent)
  | stop (err : Option GoString)
  /-- `push` or `stop` signals. -/
  | signal
  /-- `wait` looks at the queue. -/
  | check
  /-- `wait` receives the token. -/
  | wake
  | take
  /-- The watcher is done with a batch that did not stop it. -/
  | resume
  /-- The watcher's context ends, or it cannot rescan or send. -/
  | leave
  deriving DecidableEq

namespace UeventWatch

/-- One step of the queue and of the goroutines on its ends. -/
def step (s : UeventWatch) : UeventWatchEvent → Option UeventWatch
  | .push event =>
    -- A stopped queue returns without a signal.
    some { s with queue := s.queue.push event, signals := if s.queue.stopped then s.signals else s.signals + 1 }
  | .stop err => some { s with queue := s.queue.stop err, signals := s.signals + 1 }
  | .signal => if s.signals = 0 then none else some { s with notify := true, signals := s.signals - 1 }
  | .check =>
    if s.watcher = .waiting then some { s with watcher := if s.queue.ready then .ready else .parked } else none
  | .wake =>
    if s.watcher = .parked ∧ s.notify = true then some { s with notify := false, watcher := .waiting } else none
  | .take =>
    if s.watcher = .ready then
      some { s with queue := s.queue.take.2, watcher := .handling s.queue.take.1 }
    else none
  | .resume =>
    match s.watcher with
    | .handling batch => if batch.err.isSome || batch.stopped then none else some { s with watcher := .waiting }
    | _ => none
  | .leave => if s.watcher = .returned then none else some { s with watcher := .returned }

end UeventWatch

/-- A new watch. -/
def ueventWatch : Machine UeventWatch UeventWatchEvent := { init := {}, step := UeventWatch.step }

end Wwan.Modem
