import Mathlib.Logic.Function.Basic
import Wwan.Lib.Machine
import Wwan.Lib.RefCount

/-! The watches of a service: the client ID that each of them listens on, and those that its indications are registered
on. -/

namespace Wwan.Qcom.Watches

/-! The requests that register indications. -/

/-- `nasIndicationRegistration` -/
inductive NASIndicationRegistration where
  | systemSelection
  | operatorName
  | servingSystem
  | networkTime
  | systemInfo
  | signalInfo
  | errorRate
  | currentPLMNName
  | rfBandInfo
  | networkReject
  | edrxChange
  deriving DecidableEq

/-- `pdcIndicationRegistration` -/
inductive PDCIndicationRegistration where
  | configChange
  | clientRefresh
  deriving DecidableEq

/-- The indications that a request turns on and off. -/
abbrev Config (R : Type) := List (R × Bool)

/-- The indications that `setNASIndication` asks for. -/
def setNASIndication (registration : NASIndicationRegistration) (enabled : Bool) : Config NASIndicationRegistration :=
  [(registration, enabled)]

/-- The indications that `syncPDCIndications` asks for. -/
def syncPDCIndications (refs : GoMap PDCIndicationRegistration Int) : Config PDCIndicationRegistration :=
  [(.configChange, refs.count .configChange > 0), (.clientRefresh, refs.count .clientRefresh > 0)]

/-- What a service asks for when the count of a registration has become positive, or zero. -/
abbrev Service (R : Type) := GoMap R Int → R → Bool → Config R

/-- The watches of `watchNASTLVs` -/
def nas : Service NASIndicationRegistration := fun _ => setNASIndication

/-- The watches `PDCWatchRefresh` and `PDCWatchConfigChanges` -/
def pdc : Service PDCIndicationRegistration := fun refs _ _ => syncPDCIndications refs

/-! The client and its watches. -/

/-- A watch. -/
abbrev WatchID := Nat

/-- How far a call of `withServiceClient` is. -/
inductive Call where
  /-- It is to get the client ID of the service, for the first time or for the second. -/
  | start (retried : Bool)
  /-- It has got the client ID, and is to send the request. -/
  | sending (retried : Bool) (clientID : UInt8)
  /-- The modem has answered the first request that the client ID is invalid. -/
  | told (clientID : UInt8)
  deriving DecidableEq

/-- How far a watch is. -/
inductive Stage where
  /-- It has got the client ID of the service. -/
  | got (clientID : UInt8)
  /-- The transport delivers the indications for a client ID. -/
  | subscribed (clientID : UInt8)
  /-- It holds `watchMu`, and is the first to register its indications. -/
  | acquiring (clientID : UInt8) (call : Call)
  /-- It has returned its channel, when the modem had accepted its registration on some client IDs. -/
  | watching (clientID : UInt8) (registered : List UInt8)
  /-- Its context has ended, or its indications have. -/
  | ended (clientID : UInt8)
  /-- It holds `watchMu`, and was the last one of its registration. -/
  | releasing (call : Call)
  deriving DecidableEq

/-- A watch with its indications. -/
structure Watch (R : Type) where
  registration : R
  stage : Stage
  deriving DecidableEq

/-- The fields of the client that the watches of a service use, with what the modem has accepted. -/
structure State (R : Type) where
  /-- The client ID of the service that calls share, in `clientIDs`. -/
  clientID : Option UInt8 := none
  closed : Bool := false
  /-- `nasIndicationRefs` or `pdcIndicationRefs` -/
  refs : GoMap R Int := ∅
  /-- Who holds `watchMu` for longer than a step. -/
  watchMu : Option WatchID := none
  /-- The watches that have got a client ID and have not returned an error or come to their end. -/
  watches : WatchID → Option (Watch R) := fun _ => none
  /-- The registrations, and the client IDs on which the modem has accepted them since they were first counted. -/
  registered : List (R × UInt8) := []

/-- What a call of `serviceClientID` meets. -/
structure Asked where
  /-- The lock was taken before the context ended. -/
  locked : Bool := true
  /-- What the modem grants, if it is asked. -/
  granted : Option UInt8 := none
  /-- The context has not ended since. -/
  live : Bool := true
  deriving DecidableEq

/-- How the modem answers a registration. -/
inductive Answer where
  | accepted
  /-- `QMIErrorInvalidClientID` -/
  | invalidClientID
  /-- It is refused for something else, or there is no answer. -/
  | failed
  deriving DecidableEq

namespace State

variable {R : Type} [DecidableEq R]

/-- `serviceClientID`, whose client ID is zero if the transport gives out the IDs itself. -/
def serviceClientID (managed : Bool) (s : State R) (asked : Asked) : Option UInt8 × State R :=
  if !asked.locked || s.closed then (none, s)
  else if managed then (if asked.live then some 0 else none, s)
  else
    match s.clientID with
    | some clientID => (some clientID, s)
    | none =>
      match asked.granted with
      | none => (none, s)
      | some clientID =>
        if clientID = 0 then (none, s)
        -- The ID is kept, also for a call whose context has ended meanwhile.
        else (if asked.live then some clientID else none, { s with clientID := some clientID })

/-- `forgetServiceClientID` -/
def forgetServiceClientID (managed : Bool) (s : State R) (clientID : UInt8) (locked : Bool) : Bool × State R :=
  if !locked then (false, s)
  else if managed && !s.closed then (false, s)
  else (true, if s.clientID = some clientID then { s with clientID := none } else s)

/-- A watch moves on, or is over. -/
def enter (s : State R) (w : WatchID) (watch : Option (Watch R)) : State R :=
  { s with watches := Function.update s.watches w watch }

/-- The client IDs on which the modem has accepted a registration. -/
def registeredOn (s : State R) (registration : R) : List UInt8 :=
  (s.registered.filter fun entry => entry.1 = registration).map Prod.snd

/-- The modem accepts a request on a client ID. -/
def accept (s : State R) (config : Config R) (clientID : UInt8) : State R :=
  { s with registered := s.registered ++ (config.filter fun entry => entry.2).map fun entry => (entry.1, clientID) }

/-- `acquireNASIndication` and `acquirePDCIndication`, as far as the request. -/
def acquire (s : State R) (w : WatchID) (registration : R) (clientID : UInt8) : State R :=
  if s.refs.count registration > 0 then
    -- Another watch has registered the indications.
    let s := { s with refs := s.refs.incr registration }
    s.enter w (some ⟨registration, .watching clientID (s.registeredOn registration)⟩)
  else
    { s with
      refs := s.refs.set registration 1
      watchMu := some w
      registered := s.registered.filter fun entry => entry.1 ≠ registration
      watches := Function.update s.watches w (some ⟨registration, .acquiring clientID (.start false)⟩) }

/-- `releaseNASIndication` and `releasePDCIndication`, as far as the request. -/
def release (s : State R) (w : WatchID) (registration : R) : State R :=
  if s.refs.count registration = 0 then s.enter w none
  else if s.refs.count registration > 1 then { s with refs := s.refs.drop registration }.enter w none
  else
    { s with
      refs := s.refs.drop registration
      watchMu := some w
      watches := Function.update s.watches w (some ⟨registration, .releasing (.start false)⟩) }

/-- The request of a watch that holds `watchMu` has failed or not, and the lock is free. -/
def finish (s : State R) (w : WatchID) (watch : Watch R) (ok : Bool) : State R :=
  let s := { s with watchMu := none }
  match watch.stage with
  | .acquiring clientID _ =>
    if ok then s.enter w (some ⟨watch.registration, .watching clientID (s.registeredOn watch.registration)⟩)
    else { s with refs := s.refs.delete watch.registration }.enter w none
  -- Deregistration is best effort.
  | .releasing _ => s.enter w none
  | .got _ | .subscribed _ | .watching _ _ | .ended _ => s

end State

/-! What can happen next. -/

/-- The call of `withServiceClient` that a watch is in. -/
def Stage.call : Stage → Option Call
  | .acquiring _ call | .releasing call => some call
  | .got _ | .subscribed _ | .watching _ _ | .ended _ => none

/-- The call goes on. -/
def Stage.goOn (call : Call) : Stage → Stage
  | .acquiring clientID _ => .acquiring clientID call
  | .releasing _ => .releasing call
  | stage => stage

/-- The request is to turn the indications of the watch on. -/
def Stage.enables : Stage → Bool
  | .acquiring _ _ => true
  | _ => false

/-- The client ID that a watch has got, until its registration is not counted any more. -/
def Stage.clientID : Stage → Option UInt8
  | .got clientID | .subscribed clientID | .acquiring clientID _ => some clientID
  | .watching clientID _ | .ended clientID => some clientID
  | .releasing _ => none

/-- The steps of the watches and of other calls of the service. -/
inductive Event (R : Type) where
  /-- A watch gets the client ID of the service. -/
  | watch (w : WatchID) (registration : R) (asked : Asked)
  | subscribe (w : WatchID) (ok : Bool)
  | acquire (w : WatchID)
  /-- The call of `withServiceClient` gets the client ID, sends its request, or forgets the client ID. -/
  | callClientID (w : WatchID) (asked : Asked)
  | callSend (w : WatchID) (answer : Answer)
  | callForget (w : WatchID) (locked : Bool)
  /-- The goroutine of a watch comes to its end. -/
  | done (w : WatchID)
  | release (w : WatchID)
  /-- Another call gets the client ID of the service. -/
  | serviceClientID (asked : Asked)
  /-- Another call, which was told that a client ID is invalid, forgets it. -/
  | forget (clientID : UInt8) (locked : Bool)
  | close

section

variable {R : Type} [DecidableEq R] (service : Service R) (managed : Bool)

/-- The next step, if it is possible. -/
def step (s : State R) : Event R → Option (State R)
  | .watch w registration asked =>
    match s.watches w with
    | some _ => none
    | none =>
      match s.serviceClientID managed asked with
      | (some clientID, s) => some (s.enter w (some ⟨registration, .got clientID⟩))
      | (none, s) => some s
  | .subscribe w ok =>
    match s.watches w with
    | some ⟨registration, .got clientID⟩ =>
      some (s.enter w (if ok then some ⟨registration, .subscribed clientID⟩ else none))
    | _ => none
  | .acquire w =>
    match s.watchMu, s.watches w with
    | none, some ⟨registration, .subscribed clientID⟩ => some (s.acquire w registration clientID)
    | _, _ => none
  | .callClientID w asked =>
    match s.watches w with
    | none => none
    | some watch =>
      match watch.stage.call with
      | some (.start retried) =>
        match s.serviceClientID managed asked with
        | (some clientID, s) =>
          some (s.enter w (some { watch with stage := watch.stage.goOn (.sending retried clientID) }))
        | (none, s) => some (s.finish w watch false)
      | _ => none
  | .callSend w answer =>
    match s.watches w with
    | none => none
    | some watch =>
      match watch.stage.call with
      | some (.sending retried clientID) =>
        match answer with
        -- A client that is closed sends nothing.
        | .accepted =>
          if s.closed then none
          else
            let config := service s.refs watch.registration watch.stage.enables
            some ((s.accept config clientID).finish w watch true)
        | .invalidClientID =>
          if s.closed then none
          else if retried then some (s.finish w watch false)
          else some (s.enter w (some { watch with stage := watch.stage.goOn (.told clientID) }))
        | .failed => some (s.finish w watch false)
      | _ => none
  | .callForget w locked =>
    match s.watches w with
    | none => none
    | some watch =>
      match watch.stage.call with
      | some (.told clientID) =>
        match s.forgetServiceClientID managed clientID locked with
        | (true, s) => some (s.enter w (some { watch with stage := watch.stage.goOn (.start true) }))
        | (false, s) => some (s.finish w watch false)
      | _ => none
  | .done w =>
    match s.watches w with
    | some ⟨registration, .watching clientID _⟩ => some (s.enter w (some ⟨registration, .ended clientID⟩))
    | _ => none
  | .release w =>
    match s.watchMu, s.watches w with
    | none, some ⟨registration, .ended _⟩ => some (s.release w registration)
    | _, _ => none
  | .serviceClientID asked => some (s.serviceClientID managed asked).2
  | .forget clientID locked => some (s.forgetServiceClientID managed clientID locked).2
  | .close => some { s with closed := true, clientID := none }

/-- The watches of a service in any order of their steps. -/
def watches : Machine (State R) (Event R) where
  init := {}
  step := step service managed

end

end Wwan.Qcom.Watches
