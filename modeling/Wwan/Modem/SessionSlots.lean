import Mathlib.Logic.Function.Basic
import Wwan.Lib.GoMap
import Wwan.Lib.Machine

/-! The session IDs of an MBIM backend, from the connect that reserves one to the disconnect that releases it. -/

namespace Wwan.Modem.Mbim.Slots

/-- The state of a context on the modem. -/
inductive ActivationState where
  | unknown
  | activated
  | activating
  | deactivated
  | deactivating
  deriving DecidableEq

/-- The context is activated, or about to be. -/
def ActivationState.live : ActivationState → Bool
  | .activated | .activating => true
  | .unknown | .deactivated | .deactivating => false

/-- `SessionID` -/
abbrev SessionID := UInt32

/-- A call of `ConnectPort`, and then the bearer that it led to. -/
abbrev ConnectID := Nat

/-- How the modem takes a request. -/
inductive Answer where
  | ok
  /-- `StatusContextNotActivated` -/
  | notActivated
  | failed
  deriving DecidableEq

/-! The session IDs. -/

/-- The first ID of a range that is not reserved. -/
def firstFree (slots : GoMap SessionID Unit) (maximum : Nat) : Option SessionID :=
  ((List.range maximum).map UInt32.ofNat).find? fun id => (slots.get id).isNone

/-- `reserveSessionID`, which fails without an ID. -/
def reserveSessionID (slots : GoMap SessionID Unit) (maximum : UInt32) (requested : Option SessionID) :
    Option SessionID :=
  match requested with
  | some id => if maximum ≤ id then none else if (slots.get id).isSome then none else some id
  | none => firstFree slots maximum.toNat

/-- How the modem answers the requests about one ID before the first connection. -/
structure StaleAnswers where
  query : Answer
  state : ActivationState
  deactivate : Answer
  deriving DecidableEq

/-- `cleanupStaleSessions`, and whether it returns without an error. -/
def cleanupStaleSessions (answers : SessionID → StaleAnswers) (maximum : UInt32) : Bool :=
  ((List.range maximum.toNat).map UInt32.ofNat).all fun id =>
    match (answers id).query with
    | .notActivated => true
    | .failed => false
    | .ok =>
      match (answers id).state with
      | .unknown | .deactivated => true
      | .activated | .activating | .deactivating => (answers id).deactivate ≠ .failed

/-! Bearers and their sessions. -/

/-- Who disconnects a session. -/
inductive Caller where
  /-- `Bearer.Disconnect`, by itself or in `Bearer.Close`. -/
  | disconnect (close : Bool)
  /-- `Bearer.closeOwned`, in `Bearer.Close`. -/
  | closeOwned
  /-- `session.Disconnect` itself. -/
  | session
  deriving DecidableEq

/-- A bearer with its session. -/
structure Bearer where
  id : SessionID
  /-- `session.closed` -/
  sessionClosed : Bool := false
  connected : Bool := true
  /-- `Bearer.closed`, with which the bearer leaves the registry. -/
  closed : Bool := false
  /-- Who holds the lock of the session, while the modem is to deactivate the context. -/
  deactivating : Option Caller := none
  /-- Who holds the lock of the bearer after the session was disconnected, and whether that failed. -/
  deciding : Option (Caller × Bool) := none
  /-- The calls of `Close` whose `Disconnect` has failed. -/
  closing : Nat := 0
  /-- The modem has answered that the context is not activated. -/
  told : Bool := false
  deriving DecidableEq

/-- What a watch does with the answer to `QueryConnect`, of which an error leaves the session as it was. -/
def Bearer.queryConnect (b : Bearer) (answer : Answer) (activated : Bool) : Bearer :=
  match answer with
  | .ok => { b with connected := activated, told := b.told || !activated }
  | .notActivated => { b with told := true }
  | .failed => b

/-- How far a connect is. -/
inductive Attempt where
  | none
  /-- It has reserved an ID, and activates the context. -/
  | reserved (id : SessionID)
  /-- The context is activated, and its addresses are read. -/
  | activated (id : SessionID)
  /-- The addresses could not be read, and the context is deactivated. -/
  | rollback (id : SessionID)
  /-- It has returned an error. -/
  | failed
  | bearer (b : Bearer)
  deriving DecidableEq

/-- The backend with its bearers, and the contexts that it activated on the modem. -/
structure State where
  slots : GoMap SessionID Unit := ∅
  sessionsPrepared : Bool := false
  attempts : ConnectID → Attempt := fun _ => .none
  contexts : SessionID → ActivationState := fun _ => .deactivated
  /-- The IDs that were handed out, with the state of their contexts at that time. -/
  handed : List (SessionID × ActivationState) := []

/-- What can happen next. -/
inductive Event where
  /-- `ConnectPort` gets as far as the reservation; the capabilities, or the profile before them, may not be read. -/
  | connect (n : ConnectID) (requested : Option SessionID) (caps : Bool) (stale : SessionID → StaleAnswers)
  /-- The request to activate is answered with the state of the context, or fails and leaves one. -/
  | activated (n : ConnectID) (answered : Bool) (context : ActivationState)
  | ipConfiguration (n : ConnectID) (answer : Answer)
  /-- The request to deactivate a context without addresses is answered, and leaves a state. -/
  | rolledBack (n : ConnectID) (answer : Answer) (context : ActivationState)
  /-- The network changes a context. -/
  | network (id : SessionID) (context : ActivationState)
  /-- A watch has the modem's answer to `QueryConnect`, and, when it succeeds, whether the context is activated. -/
  | watch (n : ConnectID) (answer : Answer) (activated : Bool)
  | disconnect (n : ConnectID) (caller : Caller)
  /-- The request to deactivate the context of a session is answered, and leaves a state. -/
  | deactivated (n : ConnectID) (answer : Answer) (context : ActivationState)
  /-- The call that holds the lock of the bearer goes on. -/
  | settle (n : ConnectID)

namespace State

/-- A connect or a bearer moves on. -/
def enter (s : State) (n : ConnectID) (attempt : Attempt) : State :=
  { s with attempts := Function.update s.attempts n attempt }

/-- The context of an ID changes. -/
def setContext (s : State) (id : SessionID) (context : ActivationState) : State :=
  { s with contexts := Function.update s.contexts id context }

/-- `releaseSession` -/
def releaseSession (s : State) (id : SessionID) : State := { s with slots := s.slots.delete id }

/-- `reserveSession`, which cleans up before the first reservation. -/
def reserveSession (s : State) (maximum : UInt32) (n : ConnectID) (requested : Option SessionID)
    (stale : SessionID → StaleAnswers) : State :=
  if s.sessionsPrepared || cleanupStaleSessions stale maximum then
    let s := { s with sessionsPrepared := true }
    match reserveSessionID s.slots maximum requested with
    | none => s.enter n .failed
    | some id =>
      { s.enter n (.reserved id) with slots := s.slots.set id (), handed := s.handed ++ [(id, s.contexts id)] }
  else s.enter n .failed

/-- What `session.Disconnect` does with the answer. -/
def answerDisconnect (s : State) (n : ConnectID) (b : Bearer) (caller : Caller) (answer : Answer) : State :=
  let deciding := if caller = .session then b.deciding else some (caller, answer ≠ .ok)
  let b := { b with deactivating := none, deciding }
  match answer with
  | .ok => (s.enter n (.bearer { b with sessionClosed := true, connected := false })).releaseSession b.id
  | .notActivated => s.enter n (.bearer { b with told := true })
  | .failed => s.enter n (.bearer b)

/-- One step of a connect, of a bearer or of the network. -/
def step (maximum : UInt32) (s : State) : Event → Option State
  | .connect n requested caps stale =>
    match s.attempts n with
    | .none => some (if caps then s.reserveSession maximum n requested stale else s.enter n .failed)
    | _ => none
  | .activated n answered context =>
    match s.attempts n with
    | .reserved id =>
      let s := s.setContext id context
      some (if answered && context = .activated then s.enter n (.activated id)
        else (s.enter n .failed).releaseSession id)
    | _ => none
  | .ipConfiguration n answer =>
    match s.attempts n with
    | .activated id => some (s.enter n (if answer = .ok then .bearer { id } else .rollback id))
    | _ => none
  | .rolledBack n answer context =>
    match s.attempts n with
    | .rollback id =>
      -- A request to deactivate makes no context live, and leaves none live unless it fails.
      if context.live && (answer ≠ .failed || !(s.contexts id).live) then none
      else some (((s.setContext id context).enter n .failed).releaseSession id)
    | _ => none
  | .network id context =>
    -- Only a context that is being activated becomes activated by itself.
    if (s.contexts id).live && (!context.live || (s.contexts id = .activating && context = .activated)) then
      some (s.setContext id context)
    else none
  | .watch n answer activated =>
    match s.attempts n with
    | .bearer b =>
      -- Only an answer without an error needs the lock of the session.
      if b.deactivating = none || answer ≠ .ok then some (s.enter n (.bearer (b.queryConnect answer activated)))
      else none
    | _ => none
  | .disconnect n caller =>
    match s.attempts n with
    | .bearer b =>
      -- The lock of the session is free, and for a call of the bearer that of the bearer too.
      if b.deactivating ≠ none || (caller ≠ .session && b.deciding ≠ none) || (caller = .closeOwned && b.closing = 0) then
        none
      else
        let b := if caller = .closeOwned then { b with closing := b.closing - 1 } else b
        if caller ≠ .session && b.closed then some (s.enter n (.bearer b))
        else if b.sessionClosed then
          some (s.enter n (.bearer
            (if caller = .session then b else { b with deciding := some (caller, false) })))
        else some (s.enter n (.bearer { b with deactivating := some caller }))
    | _ => none
  | .deactivated n answer context =>
    match s.attempts n with
    | .bearer b =>
      match b.deactivating with
      | some caller =>
        if context.live && (answer ≠ .failed || !(s.contexts b.id).live) then none
        else some ((s.setContext b.id context).answerDisconnect n b caller answer)
      | none => none
    | _ => none
  | .settle n =>
    match s.attempts n with
    | .bearer b =>
      match b.deciding with
      | some (.disconnect close, failed) =>
        let b := { b with deciding := none, closing := b.closing + if close && failed then 1 else 0 }
        -- An error is returned without closing the bearer as long as the session is connected.
        some (s.enter n (.bearer (if failed && b.connected then b else { b with closed := true })))
      | some (_, _) => some (s.enter n (.bearer { b with deciding := none, closed := true }))
      | none => none
    | _ => none

end State

/-- The maximum that `reserveSession` uses. -/
def sessionMaximum (maxSessions : UInt32) : UInt32 := if maxSessions = 0 then 1 else maxSessions

/-- All runs of connects and disconnects on a modem with that many sessions. -/
def sessionSlots (maxSessions : UInt32) : Machine State Event where
  init := {}
  step := State.step (sessionMaximum maxSessions)

end Wwan.Modem.Mbim.Slots
