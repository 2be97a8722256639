import Wwan.Lib.Chan
import Wwan.Lib.Machine

/-! The bearers of a modem: who owns a data session, and who closes it. -/

namespace Wwan.Modem

/-- A goroutine in a method of the modem or of a bearer. -/
abbrev TaskID := Nat

/-- A data session that the backend has returned, by the order in which it returned them. -/
abbrev SessionRef := Nat

/-- The calls that give up a data session. -/
inductive SessionCall where
  | disconnect
  | close
  deriving DecidableEq

/-- A bearer. -/
structure Bearer where
  session : SessionRef
  closed : Bool := false
  doneOnce : Bool := false
  /-- How often `done` has been closed. -/
  doneCloses : Nat := 0
  /-- Who holds the bearer's lock. -/
  mu : Option TaskID := none
  deriving DecidableEq

/-- Close `done` unless it has been closed. -/
def Bearer.closeDone (b : Bearer) : Bearer :=
  if b.doneOnce then b else { b with doneOnce := true, doneCloses := b.doneCloses + 1 }

/-- The methods of a bearer that give up its session. -/
inductive BearerCall where
  | disconnect
  /-- `Close` before it falls back to `closeOwned`. -/
  | close
  | closeOwned
  deriving DecidableEq

/-- How far such a method is. -/
inductive BearerStage where
  /-- Before the bearer's lock. -/
  | entering
  /-- Under the lock, before `closed` is looked at. -/
  | entered
  /-- The session is given up and `closed` is set. -/
  | closing
  /-- `done` is closed, and `removeBearer` waits for the modem's lock. -/
  | marked
  /-- `removeBearer` has the modem's lock. -/
  | removing
  /-- Before the bearer's lock is released. -/
  | leaving
  deriving DecidableEq

/-- A method of a bearer that runs, and those to be called after it. -/
structure BearerWork where
  call : BearerCall
  id : Nat
  stage : BearerStage := .entering
  /-- The method is about to return an error. -/
  failed : Bool := false
  rest : List (BearerCall × Nat) := []
  /-- The calls are those of `Modem.Close`. -/
  closer : Bool := false
  deriving DecidableEq

/-- What a goroutine does. -/
inductive Task where
  | idle
  /-- `Connect`, up to and in the backend's connect. -/
  | connecting
  /-- `Connect` has a session, and waits for the modem's lock. -/
  | connected (session : SessionRef)
  /-- `Connect` has the modem's lock. -/
  | registering (session : SessionRef)
  /-- `Connect` has found the modem closed. -/
  | rejecting (session : SessionRef)
  /-- `DisconnectAll` is about to look at the bearers. -/
  | listing
  /-- `Modem.Close` waits for the modem's lock. -/
  | closing
  /-- `Modem.Close` has the modem's lock. -/
  | clearing
  | working (work : BearerWork)
  /-- `Modem.Close` is done with the bearers. -/
  | closingBackend
  | closeReturned
  | returned
  deriving DecidableEq

/-- Call methods of bearers one after the other. -/
def Task.ofCalls (closer : Bool) : List (BearerCall × Nat) → Task
  | [] => if closer then .closingBackend else .returned
  | (call, id) :: rest => .working { call, id, rest, closer }

/-- What follows a method of a bearer. -/
def BearerWork.next (w : BearerWork) : Task :=
  -- `Close` falls back to `closeOwned` where its `Disconnect` fails.
  if w.call = .close && w.failed then .ofCalls w.closer ((.closeOwned, w.id) :: w.rest) else .ofCalls w.closer w.rest

/-- A modem, its bearers, and the goroutines that use them. -/
structure Registry where
  closed : Bool := false
  /-- The keys of `bearers`, where the bearer of that number is found. -/
  bearers : List Nat := []
  /-- A `uint64` in the source, which does not come round. -/
  nextID : Nat := 0
  /-- The channel that is closed at the next change, all channels before it being closed. -/
  bearersChanged : ChanID := 0
  /-- Who holds the modem's lock. -/
  mu : Option TaskID := none
  closeOnce : Bool := false
  objects : Nat → Option Bearer := fun _ => none
  tasks : TaskID → Task := fun _ => .idle
  /-- How many sessions the backend has returned. -/
  sessions : Nat := 0
  /-- The calls that gave up sessions, oldest first. -/
  calls : List (SessionRef × SessionCall) := []

/-- The methods that a goroutine can call. -/
inductive ModemCall where
  | connect
  | disconnect (id : Nat)
  | closeBearer (id : Nat)
  | disconnectAll
  | close
  deriving DecidableEq

/-- What can happen to a modem and its bearers. -/
inductive RegistryEvent where
  | call (task : TaskID) (method : ModemCall)
  /-- The backend returns a session. -/
  | connected (task : TaskID)
  /-- `Connect` fails before it has a session. -/
  | refused (task : TaskID)
  /-- The bearers are listed in the order of a loop over the map. -/
  | list (task : TaskID) (order : List Nat)
  /-- The session answers `Disconnect` or `Close`, and says whether it is still connected. -/
  | answer (task : TaskID) (failed connected : Bool)
  /-- The goroutine does what comes next. -/
  | run (task : TaskID)
  deriving DecidableEq

namespace Registry

/-- The goroutine goes on with another task. -/
@[simps] def setTask (s : Registry) (t : TaskID) (task : Task) : Registry :=
  { s with tasks := fun u => if u = t then task else s.tasks u }

/-- A bearer changes. -/
@[simps] def setBearer (s : Registry) (id : Nat) (b : Bearer) : Registry :=
  { s with objects := fun other => if other = id then some b else s.objects other }

/-- Close the channel of changes and make a new one. -/
@[simps] def notifyBearersChangedLocked (s : Registry) : Registry := { s with bearersChanged := s.bearersChanged + 1 }

/-- Call a method. -/
def callMethod (s : Registry) (t : TaskID) : ModemCall → Option Registry
  | .connect => some (s.setTask t (if s.closed then .returned else .connecting))
  | .disconnect id =>
    if (s.objects id).isSome then some (s.setTask t (.ofCalls false [(.disconnect, id)])) else none
  | .closeBearer id => if (s.objects id).isSome then some (s.setTask t (.ofCalls false [(.close, id)])) else none
  | .disconnectAll => some (s.setTask t .listing)
  | .close => if s.closeOnce then none else some ({ s with closeOnce := true }.setTask t .closing)

/-- The session of a bearer has answered. -/
def answered (s : Registry) (t : TaskID) (w : BearerWork) (b : Bearer) (failed connected : Bool) : Registry :=
  let call : SessionCall := if w.call = .closeOwned then .close else .disconnect
  let s := { s with calls := s.calls ++ [(b.session, call)] }
  -- A session that is still connected keeps its bearer, unless it was closed.
  if w.call ≠ .closeOwned && failed && connected then s.setTask t (.working { w with stage := .leaving, failed })
  else (s.setBearer w.id { b with closed := true }).setTask t (.working { w with stage := .closing, failed })

/-- One step of a method of a bearer, apart from the call of its session. -/
def runWork (s : Registry) (t : TaskID) (w : BearerWork) (b : Bearer) : Option Registry :=
  match w.stage with
  | .entering =>
    if b.mu.isNone then
      some ((s.setBearer w.id { b with mu := some t }).setTask t (.working { w with stage := .entered, failed := false }))
    else none
  | .entered => if b.closed then some (s.setTask t (.working { w with stage := .leaving })) else none
  | .closing => some ((s.setBearer w.id b.closeDone).setTask t (.working { w with stage := .marked }))
  | .marked =>
    if s.mu.isNone then some ({ s with mu := some t }.setTask t (.working { w with stage := .removing })) else none
  | .removing =>
    let left := { s with mu := none }.setTask t (.working { w with stage := .leaving })
    if w.id ∈ s.bearers then some { left with bearers := s.bearers.erase w.id }.notifyBearersChangedLocked
    else some left
  | .leaving => some ((s.setBearer w.id { b with mu := none }).setTask t w.next)

/-- A modem that is not closed gets a bearer for the session, and another one has the session closed. -/
def register (s : Registry) (t : TaskID) (session : SessionRef) : Registry :=
  if s.closed then { s with mu := none }.setTask t (.rejecting session)
  else
    let id := s.nextID + 1
    (({ s with mu := none, nextID := id, bearers := s.bearers ++ [id] }.notifyBearersChangedLocked.setBearer id
      { session }).setTask t .returned)

/-- What the goroutine does next, where nothing is open about it. -/
def runTask (s : Registry) (t : TaskID) : Option Registry :=
  match s.tasks t with
  | .connected session => if s.mu.isNone then some ({ s with mu := some t }.setTask t (.registering session)) else none
  | .registering session => some (s.register t session)
  | .rejecting session =>
    some ({ s with calls := s.calls ++ [(session, SessionCall.close)] }.setTask t .returned)
  | .closing => if s.mu.isNone then some ({ s with mu := some t }.setTask t .clearing) else none
  | .closingBackend => some (s.setTask t .closeReturned)
  | .working w =>
    match s.objects w.id with
    | some b => s.runWork t w b
    | none => none
  | _ => none

/-- One step of the modem, its bearers and the goroutines. -/
def step (s : Registry) : RegistryEvent → Option Registry
  | .call t method => if s.tasks t = .idle then s.callMethod t method else none
  | .connected t =>
    if s.tasks t = .connecting then some ({ s with sessions := s.sessions + 1 }.setTask t (.connected s.sessions))
    else none
  | .refused t => if s.tasks t = .connecting then some (s.setTask t .returned) else none
  | .list t order =>
    if order.Perm s.bearers then
      match s.tasks t with
      | .listing =>
        -- The read lock is held for the loop over the map only.
        if s.mu.isNone then some (s.setTask t (.ofCalls false (order.map fun id => (.disconnect, id)))) else none
      | .clearing =>
        some ({ s with closed := true, bearers := [], mu := none }.setTask t
          (.ofCalls true (order.map fun id => (.closeOwned, id))))
      | _ => none
    else none
  | .answer t failed connected =>
    match s.tasks t with
    | .working w =>
      match s.objects w.id with
      | some b => if w.stage = .entered && !b.closed then some (s.answered t w b failed connected) else none
      | none => none
    | _ => none
  | .run t => s.runTask t

end Registry

/-- A new modem. -/
def registry : Machine Registry RegistryEvent := { init := {}, step := Registry.step }

end Wwan.Modem
