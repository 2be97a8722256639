import Wwan.Lib.Go
import Wwan.Modem.Registry

/-! The stream of a modem's status, with the number of its own bearers. -/

namespace Wwan.Modem

/-- The status of a modem, with its enumerations as their codes. -/
structure Status where
  power : UInt8 := 0
  sim : UInt8 := 0
  registration : UInt8 := 0
  packetService : UInt8 := 0
  technology : UInt64 := 0
  operatorID : GoString := []
  operatorName : GoString := []
  signalQuality : UInt8 := 0
  ownBearers : Nat := 0
  deriving DecidableEq

/-- A streamed value or an error. -/
structure StreamResult (α : Type) where
  value : α
  err : Option GoString := none
  deriving DecidableEq

/-- How far the goroutine of a watch is. -/
inductive WatchStage where
  /-- Before the first snapshot of the bearers. -/
  | starting
  /-- In the `select` of the loop. -/
  | selecting
  /-- It has seen the channel of changes closed. -/
  | changed
  /-- It has a result of the backend. -/
  | received (result : StreamResult Status)
  /-- It sends a result, which the backend gave or not. -/
  | sending (result : StreamResult Status) (backend : Bool)
  | returned
  deriving DecidableEq

/-- A modem and a watch of its status. -/
structure StatusWatch where
  modem : Registry := {}
  stage : WatchStage := .starting
  /-- The channel that the watch waits for. -/
  bearersChanged : ChanID := 0
  current : Status := {}
  haveCurrent : Bool := false
  /-- The results that were sent, oldest first, with those that the backend gave. -/
  sent : List (StreamResult Status × Bool) := []

/-- What can happen to a modem and a watch of its status. -/
inductive StatusWatchEvent where
  | modem (event : RegistryEvent)
  /-- The channel of changes is closed. -/
  | changed
  /-- The backend gives a result. -/
  | receive (result : StreamResult Status)
  /-- The watch looks at the bearers. -/
  | bearerSnapshot
  | send
  /-- The watch's context or the backend's stream ends. -/
  | cancel
  deriving DecidableEq

namespace StatusWatch

/-- What the watch does with the number of bearers and the channel of the next change. -/
def snapshot (s : StatusWatch) (count : Nat) (next : ChanID) : Option StatusWatch :=
  match s.stage with
  | .starting => some { s with bearersChanged := next, stage := .selecting }
  | .changed =>
    if !s.haveCurrent || s.current.ownBearers = count then some { s with bearersChanged := next, stage := .selecting }
    else
      let current := { s.current with ownBearers := count }
      some { s with bearersChanged := next, current, stage := .sending { value := current } false }
  | .received result =>
    let result := { result with value := { result.value with ownBearers := count } }
    if result.err.isNone then
      some { s with bearersChanged := next, current := result.value, haveCurrent := true, stage := .sending result true }
    else some { s with bearersChanged := next, stage := .sending result true }
  | _ => none

/-- One step of the modem or of the watch. -/
def step (s : StatusWatch) : StatusWatchEvent → Option StatusWatch
  | .modem event => (s.modem.step event).map fun modem => { s with modem }
  | .changed =>
    if s.stage = .selecting && s.bearersChanged < s.modem.bearersChanged then some { s with stage := .changed } else none
  | .receive result => if s.stage = .selecting then some { s with stage := .received result } else none
  | .bearerSnapshot =>
    -- The read lock is held for the snapshot only.
    if s.modem.mu.isNone then s.snapshot s.modem.bearers.length s.modem.bearersChanged else none
  | .send =>
    match s.stage with
    | .sending result backend =>
      some { s with sent := s.sent ++ [(result, backend)],
                    stage := if result.err.isSome then .returned else .selecting }
    | _ => none
  | .cancel =>
    match s.stage with
    | .selecting | .sending .. => some { s with stage := .returned }
    | _ => none

end StatusWatch

/-- A new modem and a watch of its status. -/
def statusWatch : Machine StatusWatch StatusWatchEvent := { init := {}, step := StatusWatch.step }

end Wwan.Modem
