import Wwan.Lib.Machine
import Wwan.Lib.RefCount

/-! The event masks of the LOC and UIM services: their reference counts and what the modem has accepted. -/

namespace Wwan.Qcom

variable {w : Nat}

/-- All bits of the registrations that are counted. -/
def combinedEventMask (refs : GoMap (BitVec w) Int) : BitVec w :=
  refs.entries.foldl (fun mask (registration, count) => if count > 0 then mask ||| registration else mask) 0

/-- The watchers of one service, with what the modem has accepted. -/
structure EventService (w : Nat) where
  /-- The bits that the caller has chosen besides those of the watchers. -/
  base : BitVec w := 0
  refs : GoMap (BitVec w) Int := ∅
  /-- The mask that the modem accepted last. -/
  accepted : BitVec w := 0

/-- Register a mask, and say whether the modem accepted it. -/
def EventService.register (s : EventService w) (mask : BitVec w) (accepts : Bool) : EventService w × Bool :=
  if accepts then ({ s with accepted := mask }, true) else (s, false)

/-- What a call did. -/
inductive Outcome where
  /-- It made no request. -/
  | silent
  /-- The modem accepted its registration. -/
  | registered
  /-- Its request failed. -/
  | failed
  deriving DecidableEq

/-- Count a new watcher, and register its bits if they are new. -/
def EventService.acquire (s : EventService w) (mask : BitVec w) (accepts : Bool) : EventService w × Outcome :=
  let oldMask := s.base ||| combinedEventMask s.refs
  let counted := { s with refs := s.refs.incr mask }
  let newMask := s.base ||| combinedEventMask counted.refs
  -- The modem reports these bits already.
  if oldMask = newMask then (counted, .silent)
  else
    match counted.register newMask accepts with
    | (s, true) => (s, .registered)
    -- A watcher that is not accepted is not counted.
    | (s, false) => ({ s with refs := s.refs.decr mask }, .failed)

/-- Stop counting a watcher, and register the remaining bits if there are fewer. -/
def EventService.release (s : EventService w) (mask : BitVec w) (accepts : Bool) : EventService w × Outcome :=
  -- Nobody watches this mask.
  if s.refs.count mask = 0 then (s, .silent)
  else
    let oldMask := s.base ||| combinedEventMask s.refs
    let counted := { s with refs := s.refs.decr mask }
    let newMask := s.base ||| combinedEventMask counted.refs
    if oldMask = newMask then (counted, .silent)
    else
      match counted.register newMask accepts with
      | (s, true) => (s, .registered)
      -- The watcher is gone although the modem goes on reporting.
      | (s, false) => (s, .failed)

/-- Choose the bits of the caller, besides those of the watchers. -/
def EventService.registerBase (s : EventService w) (mask : BitVec w) (accepts : Bool) : EventService w × Outcome :=
  match s.register (mask ||| combinedEventMask s.refs) accepts with
  | (s, true) => ({ s with base := mask }, .registered)
  | (s, false) => (s, .failed)

/-- The two services of a client, with the masks of the watchers that live. -/
structure EventClient where
  loc : EventService 64 := {}
  uim : EventService 32 := {}
  locLive : List (BitVec 64) := []
  uimLive : List (BitVec 32) := []
  /-- What the last call did. -/
  outcome : Outcome := .silent

/-- A call on the client, and whether the modem accepts the request that it may make. -/
inductive EventCall where
  | locRegisterEvents (mask : BitVec 64) (accepts : Bool)
  | acquireLOCEvents (mask : BitVec 64) (accepts : Bool)
  | releaseLOCEvents (mask : BitVec 64) (accepts : Bool)
  | acquireUIMEvents (mask : BitVec 32) (accepts : Bool)
  | releaseUIMEvents (mask : BitVec 32) (accepts : Bool)
  deriving DecidableEq

namespace EventClient

/-- `LOCRegisterEvents` -/
def locRegisterEvents (c : EventClient) (mask : BitVec 64) (accepts : Bool) : EventClient :=
  let (loc, outcome) := c.loc.registerBase mask accepts
  { c with loc, outcome }

/-- `acquireLOCEvents`, after which the watcher lives unless the registration failed. -/
def acquireLOCEvents (c : EventClient) (mask : BitVec 64) (accepts : Bool) : EventClient :=
  let (loc, outcome) := c.loc.acquire mask accepts
  { c with loc, outcome, locLive := if outcome = .failed then c.locLive else mask :: c.locLive }

/-- `releaseLOCEvents`, after which a watcher of the mask no longer lives. -/
def releaseLOCEvents (c : EventClient) (mask : BitVec 64) (accepts : Bool) : EventClient :=
  let (loc, outcome) := c.loc.release mask accepts
  { c with loc, outcome, locLive := c.locLive.erase mask }

/-- `acquireUIMEvents`, on a service without bits of the caller. -/
def acquireUIMEvents (c : EventClient) (mask : BitVec 32) (accepts : Bool) : EventClient :=
  let (uim, outcome) := c.uim.acquire mask accepts
  { c with uim, outcome, uimLive := if outcome = .failed then c.uimLive else mask :: c.uimLive }

/-- `releaseUIMEvents`, on a service without bits of the caller. -/
def releaseUIMEvents (c : EventClient) (mask : BitVec 32) (accepts : Bool) : EventClient :=
  let (uim, outcome) := c.uim.release mask accepts
  { c with uim, outcome, uimLive := c.uimLive.erase mask }

/-- What a call does. -/
def step (c : EventClient) : EventCall → EventClient
  | .locRegisterEvents mask accepts => c.locRegisterEvents mask accepts
  | .acquireLOCEvents mask accepts => c.acquireLOCEvents mask accepts
  | .releaseLOCEvents mask accepts => c.releaseLOCEvents mask accepts
  | .acquireUIMEvents mask accepts => c.acquireUIMEvents mask accepts
  | .releaseUIMEvents mask accepts => c.releaseUIMEvents mask accepts

end EventClient

/-- All calls on the client, one after another under its mutex. -/
def eventClient : Machine EventClient EventCall where
  init := {}
  step := fun c call => some (c.step call)

end Wwan.Qcom
