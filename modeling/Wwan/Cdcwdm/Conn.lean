import Wwan.Lib.Machine

/-! A cdc-wdm connection: its descriptors, its operations in flight, and its close. -/

namespace Wwan.Cdcwdm

/-- The direction of an operation. -/
inductive Side where
  | read
  | write
  deriving DecidableEq

/-- A descriptor of the connection. -/
inductive FD where
  | device
  | wake (side : Side)
  deriving DecidableEq

/-- A point in time, or the zero time that stands for no deadline. -/
abbrev Deadline := Option Int

/-- How far a `Read` or `Write` is. -/
inductive Stage where
  | idle
  /-- It is at the head of its loop. -/
  | starting
  /-- It has the descriptors and the deadline, and is about to poll. -/
  | waiting (deadline : Deadline)
  /-- It is in `poll`. -/
  | parked (deadline : Deadline)
  /-- The poll has reported the eventfd, which is being drained. -/
  | woken
  /-- The poll has reported the device. -/
  | ready
  /-- It is about to give the descriptors back, and then tries again or returns. -/
  | finishing (again : Bool)
  deriving DecidableEq

/-- How far a `MaxControlTransfer` with the descriptor is. -/
inductive ControlStage where
  | acquired
  | asked
  deriving DecidableEq

/-- How far a `Close` that has invalidated the connection is. -/
inductive CloserStage where
  /-- It waits for the operations in flight. -/
  | waiting
  /-- It has been woken by the last of them. -/
  | signalled
  /-- It has closed this many descriptors. -/
  | closing (closed : Nat)
  deriving DecidableEq

/-- A connection with its operations and the counters of its eventfds. -/
structure Conn where
  fdValid : Bool := true
  wakeFDValid : Side → Bool := fun _ => true
  activeOps : Int := 0
  deadline : Side → Deadline := fun _ => none
  /-- The counters of the eventfds. -/
  counter : Side → Nat := fun _ => 0
  stage : Side → Stage := fun _ => .idle
  /-- The calls of `MaxControlTransfer` that have the descriptor. -/
  controls : List ControlStage := []
  /-- The calls of `Close` that have invalidated the connection. -/
  closers : List CloserStage := []
  /-- How often each descriptor has been closed. -/
  closes : FD → Nat := fun _ => 0

/-- What `poll` reports about the device. -/
inductive Revents where
  | nothing
  | invalid
  | hangup
  | ready
  deriving DecidableEq

/-- How `poll` returns. -/
inductive PollResult where
  | interrupted
  | failed
  | timedOut
  | events (device : Revents)
  deriving DecidableEq

/-- A step of one of the calls. -/
inductive Event where
  /-- `Read` or `Write` is called. -/
  | begin_ (side : Side)
  | acquireOp (side : Side)
  /-- Look at the deadline, and poll unless it is over. -/
  | poll (side : Side) (expired : Bool)
  | pollReturns (side : Side) (result : PollResult)
  /-- Read the eventfd once. -/
  | drain (side : Side)
  /-- The system call of the operation, and whether it is to be tried again. -/
  | transfer (side : Side) (again : Bool)
  | releaseOp (side : Side)
  /-- `MaxControlTransfer` is called. -/
  | acquireFD
  | ioctl (i : Nat)
  | releaseControl (i : Nat)
  | setDeadline (side : Side) (deadline : Deadline)
  | close
  /-- A woken `Close` looks at the operations in flight again. -/
  | recheck (i : Nat)
  /-- `Close` closes the next descriptor. -/
  | closeFD (i : Nat)
  deriving DecidableEq

namespace Conn

/-- The largest value of an eventfd counter. -/
def counterMax : Nat := 2 ^ 64 - 2

/--
Add one to an eventfd, which refuses a value beyond the largest one and stays readable then.

A write that fails for another reason is not modelled: `Close` and the deadlines return early with its error.
-/
def notifyWakeFD (c : Conn) (side : Side) : Conn :=
  let notified := if c.counter side = counterMax then c.counter side else c.counter side + 1
  if c.wakeFDValid side then { c with counter := Function.update c.counter side notified } else c

/-- An operation moves on. -/
def enter (c : Conn) (side : Side) (stage : Stage) : Conn :=
  { c with stage := Function.update c.stage side stage }

/-- Give a descriptor back, and wake the waiting closers after the last one. -/
def releaseFD (c : Conn) : Conn :=
  let c := { c with activeOps := c.activeOps - 1 }
  if c.activeOps = 0 then
    { c with closers := c.closers.map fun closer => if closer = .waiting then .signalled else closer }
  else c

/-- Wait for the operations in flight, if there are any. -/
def awaitOps (c : Conn) : CloserStage := if c.activeOps > 0 then .waiting else .closing 0

/-- The descriptors, in the order in which they are closed. -/
def closeOrder : List FD := [.device, .wake .read, .wake .write]

/-- What a poll that has reported something leads to, where the eventfd is looked at first. -/
def afterPoll (c : Conn) (side : Side) (deadline : Deadline) (device : Revents) : Stage :=
  if c.counter side > 0 then .woken
  else
    match device with
    | .nothing => .waiting deadline
    | .invalid | .hangup => .finishing false
    | .ready => .ready

/-- One step of a `Read` or `Write` that is in `poll`. -/
def pollReturns (c : Conn) (side : Side) (deadline : Deadline) : PollResult → Option Conn
  | .interrupted => some (c.enter side (.waiting deadline))
  | .failed => some (c.enter side (.finishing false))
  -- Nothing was ready when the time was over.
  | .timedOut => if deadline.isSome ∧ c.counter side = 0 then some (c.enter side (.finishing false)) else none
  | .events device => some (c.enter side (c.afterPoll side deadline device))

/-- One step of one of the calls, each critical section of the mutex being one. -/
def step (c : Conn) : Event → Option Conn
  | .begin_ side => if c.stage side = .idle then some (c.enter side .starting) else none
  | .acquireOp side =>
    if c.stage side = .starting then
      if c.fdValid then some ({ c with activeOps := c.activeOps + 1 }.enter side (.waiting (c.deadline side)))
      else some (c.enter side .idle)
    else none
  | .poll side expired =>
    match c.stage side with
    | .waiting deadline =>
      if deadline.isSome ∧ expired then some (c.enter side (.finishing false))
      else some (c.enter side (.parked deadline))
    | _ => none
  | .pollReturns side result =>
    match c.stage side with
    | .parked deadline => c.pollReturns side deadline result
    | _ => none
  | .drain side =>
    if c.stage side = .woken then
      -- A counter of zero ends the draining, since then the read would block.
      if c.counter side = 0 then some (c.enter side (.finishing true))
      else some { c with counter := Function.update c.counter side 0 }
    else none
  | .transfer side again => if c.stage side = .ready then some (c.enter side (.finishing again)) else none
  | .releaseOp side =>
    match c.stage side with
    | .finishing again => some (c.releaseFD.enter side (if again then .starting else .idle))
    | _ => none
  | .acquireFD =>
    if c.fdValid then some { c with activeOps := c.activeOps + 1, controls := c.controls ++ [.acquired] } else some c
  | .ioctl i => if c.controls[i]? = some .acquired then some { c with controls := c.controls.set i .asked } else none
  | .releaseControl i =>
    if c.controls[i]? = some .asked then some { c.releaseFD with controls := c.controls.eraseIdx i } else none
  | .setDeadline side deadline =>
    if c.fdValid then
      some ({ c with deadline := Function.update c.deadline side deadline }.notifyWakeFD side)
    else some c
  | .close =>
    if c.fdValid then
      let c := (c.notifyWakeFD .read).notifyWakeFD .write
      some { c with fdValid := false, wakeFDValid := fun _ => false, closers := c.closers ++ [c.awaitOps] }
    else some c
  | .recheck i =>
    if c.closers[i]? = some .signalled then some { c with closers := c.closers.set i c.awaitOps } else none
  | .closeFD i =>
    match c.closers[i]? with
    | some (.closing k) =>
      match closeOrder[k]? with
      | some fd =>
        some { c with
          closes := Function.update c.closes fd (c.closes fd + 1)
          closers := if k + 1 < closeOrder.length then c.closers.set i (.closing (k + 1)) else c.closers.eraseIdx i }
      | none => none
    | _ => none

end Conn

/-- An open connection and all calls on it, with at most one `Read` and one `Write` at a time. -/
def conn : Machine Conn Event where
  init := {}
  step := Conn.step

end Wwan.Cdcwdm
