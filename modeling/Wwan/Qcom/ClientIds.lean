import Wwan.Lib.Dialogue
import Wwan.Lib.GoMap
import Wwan.Qcom.CatClaim

/-! The client IDs that a client holds at the modem, and how it gets, keeps and releases them. -/

namespace Wwan.Qcom.ClientIds

open Cat (CATService Transport)

/-- A message of a service. -/
abbrev MessageID := UInt16

/-- `ServiceUIM` -/
def serviceUIM : ServiceType := 0x0B

/-- `allocatedClientID` -/
structure AllocatedClientID where
  service : ServiceType
  clientID : UInt8
  deriving DecidableEq

/-- The fields of the client that its client IDs are kept in. -/
structure Client where
  transport : Transport := .qmux
  clientIDs : GoMap ServiceType UInt8 := ∅
  allocatedClientIDs : GoMap AllocatedClientID Unit := ∅
  /-- The version of the toolkit service that was found, if one was looked for. -/
  catService : Option CATService := none
  /-- `Close` has run, which leaves no transport either. -/
  closed : Bool := false

namespace Client

/-- A client ID is recorded as allocated. -/
def Recorded (c : Client) (id : AllocatedClientID) : Prop := c.allocatedClientIDs.get id = some ()

instance (c : Client) (id : AllocatedClientID) : Decidable (c.Recorded id) :=
  inferInstanceAs (Decidable (_ = _))

/-- `rememberAllocatedClientIDLocked` -/
def rememberAllocatedClientID (c : Client) (service : ServiceType) (clientID : UInt8) : Client :=
  { c with allocatedClientIDs := c.allocatedClientIDs.set ⟨service, clientID⟩ () }

/-- `forgetAllocatedClientIDLocked` -/
def forgetAllocatedClientID (c : Client) (service : ServiceType) (clientID : UInt8) : Client :=
  { c with allocatedClientIDs := c.allocatedClientIDs.delete ⟨service, clientID⟩ }

/-- The cache of the client IDs that calls share, with another ID for a service. -/
def cache (c : Client) (service : ServiceType) (clientID : UInt8) : Client :=
  { c with clientIDs := c.clientIDs.set service clientID }

/-- `transportManagesClientIDs`, of the transport that a closed client does not have any more. -/
def transportManagesClientIDs (c : Client) : Bool :=
  match c.transport with
  | .qmux => false
  | .bound _ | .provider => !c.closed

end Client

/-- A condition that holds or not when a call looks. -/
inductive Condition where
  /-- The client's lock was taken before the context ended. -/
  | locked
  /-- The context has not ended. -/
  | live
  /-- The client is not about to be closed. -/
  | isOpen
  /-- The transport has failed for good. -/
  | terminal
  deriving DecidableEq

/-- What a call asks for. -/
inductive Request where
  | condition (condition : Condition)
  | versionInfo
  /-- The client ID of a service, asked of the transport. -/
  | clientID (service : ServiceType)
  | allocateClientID (service : ServiceType)
  | releaseClientID (service : ServiceType) (clientID : UInt8)
  /-- A request to a service. -/
  | message (service : ServiceType) (clientID : UInt8) (id : MessageID) (tlvs : List TLV)
  | closeTransport
  deriving DecidableEq

/-- How it is answered. -/
inductive Answer where
  /-- The request was not sent, or the condition does not hold. -/
  | refused
  /-- The request was sent, and what the modem answered, if anything, did not arrive. -/
  | lost (tlvs : List TLV)
  | response (tlvs : List TLV)
  | services (services : List ServiceType)
  | clientID (clientID : UInt8)
  deriving DecidableEq

/-- The errors of the calls. -/
inductive ClientError where
  | refused
  | lost
  | result (error : ResultError)
  | text (text : String) (args : List Nat)
  | wrap (context : String) (args : List Nat) (cause : ClientError)
  | join (one other : ClientError)
  deriving DecidableEq

/-- The test `errors.Is(err, code)` for an error of the modem. -/
def ClientError.isQMI (code : QMIError) : ClientError → Bool
  | .refused | .lost | .text _ _ => false
  | .result err => err = .qmi code
  | .wrap _ _ cause => cause.isQMI code
  | .join one other => one.isQMI code || other.isQMI code

/-- What was said, and the client. -/
abbrev World := Dialogue Request Answer Client

/-- A call of the client. -/
abbrev ClientCall (α : Type) := Call World ClientError α

open Dialogue (ask getState setState)

/-- Look at a condition. -/
def holds (condition : Condition) : ClientCall Bool := do
  return (← ask (.condition condition)) ≠ .refused

/-- `sendRequest` and `sendCloseRequest` -/
def sendRequest (r : Request) : ClientCall (List TLV) := do
  match ← ask r with
  | .response tlvs => return tlvs
  | .refused => throw .refused
  | .lost _ | .services _ | .clientID _ => throw .lost

/-- `resultOK` -/
def resultOK (tlvs : List TLV) : ClientCall Unit :=
  match resultError tlvs with
  | none => return ()
  | some err => throw (.result err)

/-- The lock of the client is taken, and the client is open. -/
def enter : ClientCall Unit := do
  if !(← holds .locked) then throw .refused
  if (← getState).closed then throw .refused
  if !(← holds .isOpen) then throw .refused

/-! Client IDs with the lock held. -/

/-- `releaseServiceClientIDLocked` -/
def releaseServiceClientIDLocked (service : ServiceType) (clientID : UInt8) : ClientCall Unit := do
  if service > 0xff then
    throw (.text "releasing QMI client ID: service 0x%X exceeds QMUX 8-bit limit" [service.toNat])
  let tlvs ← sendRequest (.releaseClientID service clientID)
  match resultError tlvs with
  | none => setState (·.forgetAllocatedClientID service clientID)
  | some err =>
    -- The modem does not know the ID, which is then as good as released.
    if err = .qmi qmiErrorInvalidClientID then setState (·.forgetAllocatedClientID service clientID)
    else throw (.result err)

/-- `allocateServiceClientIDLocked` -/
def allocateServiceClientIDLocked (service : ServiceType) : ClientCall UInt8 := do
  if service > 0xff then
    throw (.text "allocating QMI client ID: service 0x%X exceeds QMUX 8-bit limit" [service.toNat])
  if !(← holds .live) then throw .refused
  let tlvs ← sendRequest (.allocateClientID service)
  resultOK tlvs
  match TLVs.value tlvs 0x01 with
  | none => throw (.text "allocating QMI client ID: allocated client TLV missing" [])
  | some [allocatedService, clientID] =>
    if clientID = 0 then throw (.text "allocating QMI client ID: modem returned reserved client ID 0" [])
    -- The modem has allocated for another service, and gets the ID back.
    if allocatedService.toUInt32 ≠ service then
      let mismatch : ClientError := .text "allocating QMI client ID: service mismatch: requested 0x%X, got 0x%X"
        [service.toNat, allocatedService.toNat]
      -- The ledger has the ID until the modem has confirmed its release.
      setState (·.rememberAllocatedClientID allocatedService.toUInt32 clientID)
      match ← (releaseServiceClientIDLocked allocatedService.toUInt32 clientID).attempt with
      | .ok () => throw mismatch
      | .error err => throw (.join mismatch (.wrap "releasing mismatched QMI client ID" [] err))
    setState (·.rememberAllocatedClientID service clientID)
    if !(← holds .isOpen) then throw .refused
    return clientID
  | some value =>
    throw (.text "allocating QMI client ID: allocated client TLV length %d, want 2" [value.length])

/-- `transportClientIDLocked` -/
def transportClientIDLocked (service : ServiceType) : ClientCall UInt8 := do
  match ← ask (.clientID service) with
  | .clientID clientID => return clientID
  | .refused => throw .refused
  | .lost _ | .services _ | .response _ => throw .lost

/-- `serviceClientIDLocked` -/
def serviceClientIDLocked (service : ServiceType) : ClientCall UInt8 := do
  let c ← getState
  match c.transport with
  | .provider => transportClientIDLocked service
  | .bound boundService =>
    if boundService ≠ service then
      throw (.text "QMI transport is bound to service 0x%02X, want 0x%02X" [boundService.toNat, service.toNat])
    return 0
  | .qmux =>
    -- The ID of an earlier allocation is used again.
    let clientID := (c.clientIDs.get service).getD 0
    if clientID ≠ 0 then return clientID
    let clientID ← allocateServiceClientIDLocked service
    setState (·.cache service clientID)
    if !(← holds .live) then throw .refused
    return clientID

/-! The calls, each of which holds the lock from its first step to its last. -/

/-- `serviceClientID` -/
def serviceClientID (service : ServiceType) : ClientCall UInt8 := do
  enter
  serviceClientIDLocked service

/-- `allocateServiceClientID` -/
def allocateServiceClientID (service : ServiceType) : ClientCall UInt8 := do
  enter
  allocateServiceClientIDLocked service

/-- `sessionServiceClientID`, with whether the session is to release the ID. -/
def sessionServiceClientID (service : ServiceType) : ClientCall (UInt8 × Bool) := do
  enter
  if (← getState).transportManagesClientIDs then return (← serviceClientIDLocked service, false)
  return (← allocateServiceClientIDLocked service, true)

/-- `releaseServiceClientID` -/
def releaseServiceClientID (service : ServiceType) (clientID : UInt8) : ClientCall Unit := do
  enter
  releaseServiceClientIDLocked service clientID

/-- `forgetServiceClientID` -/
def forgetServiceClientID (service : ServiceType) (clientID : UInt8) : ClientCall Bool := do
  if !(← holds .locked) then return false
  let c ← getState
  -- IDs of a transport are its own.
  if c.transportManagesClientIDs then return false
  if c.clientIDs.get service = some clientID then setState fun c => { c with clientIDs := c.clientIDs.delete service }
  setState (·.forgetAllocatedClientID service clientID)
  return true

/-- `requestService` and `requestServiceWithTimeout` -/
def requestService (service : ServiceType) (clientID : UInt8) (id : MessageID) (tlvs : List TLV) :
    ClientCall (List TLV) := do
  enter
  sendRequest (.message service clientID id tlvs)

/-- `requestWithTimeout`, a request to the card service. -/
def requestWithTimeout (id : MessageID) (tlvs : List TLV) : ClientCall (List TLV) := do
  enter
  let clientID ← serviceClientIDLocked serviceUIM
  sendRequest (.message serviceUIM clientID id tlvs)

/-- `withServiceClient` -/
def withServiceClient {α : Type} (service : ServiceType) (fn : UInt8 → ClientCall α) : ClientCall α := do
  let clientID ← serviceClientID service
  match ← (fn clientID).attempt with
  | .ok value => return value
  | .error err =>
    if !err.isQMI qmiErrorInvalidClientID then throw err
    -- A modem that was reset does not know the ID any more.
    if !(← forgetServiceClientID service clientID) then throw err
    match ← (serviceClientID service).attempt with
    | .error allocateErr => throw (.join err allocateErr)
    | .ok clientID => fn clientID

/-! The client ID of the card toolkit. -/

/-- `serviceVersionsLocked`, with the services of the versions. -/
def serviceVersionsLocked : ClientCall (List ServiceType) := do
  match ← ask .versionInfo with
  | .services services => return services
  | .refused => throw .refused
  | .lost _ | .response _ | .clientID _ => throw .lost

/-- The error of `catServiceType` -/
def notExposed : ClientError := .text "detecting QMI CAT service: CAT2/CAT service is not exposed" []

/-- `catServiceType` -/
def catServiceType : ClientCall CATService := do
  match (← getState).transport with
  | .provider =>
    match ← (transportClientIDLocked serviceCAT2).attempt with
    | .ok _ => return .cat2
    | .error _ =>
      match ← (transportClientIDLocked serviceCAT).attempt with
      | .ok _ => return .cat
      | .error _ => throw notExposed
  | .qmux | .bound _ =>
    -- Both services may be there, and the newer one is preferred.
    let services ← serviceVersionsLocked
    if serviceCAT2 ∈ services then return .cat2
    else if serviceCAT ∈ services then return .cat
    else throw notExposed

/-- `catClient` -/
def catClient : ClientCall (CATService × UInt8) := do
  enter
  let c ← getState
  -- The service is chosen once.
  match c.catService with
  | some service => return (service, ← serviceClientIDLocked service.type)
  | none =>
    match c.transport with
    | .bound service =>
      throw (.text "running QMI CAT envelope: transport is bound to service 0x%02X and cannot switch to CAT/CAT2"
        [service.toNat])
    | .qmux | .provider =>
      let service ← catServiceType
      setState fun c => { c with catService := some service }
      return (service, ← serviceClientIDLocked service.type)

/-- `Client.releaseCATClient` -/
def releaseCATClient (service : CATService) (clientID : UInt8) : ClientCall Unit := do
  if !(← holds .locked) then throw .refused
  let c ← getState
  if c.closed then return ()
  if !(← holds .isOpen) then return ()
  -- Another call has released the ID already, or has got another one.
  if c.catService ≠ some service ∨ (c.clientIDs.get service.type).getD 0 ≠ clientID then return ()
  if !c.transportManagesClientIDs then releaseServiceClientIDLocked service.type clientID
  setState fun c => { c with clientIDs := c.clientIDs.delete service.type }

/-! Closing. -/

/-- The order in which `releaseClientIDs` goes through the client IDs. -/
def releasedBefore (a b : AllocatedClientID) : Bool :=
  if a.service ≠ b.service then a.service.toNat ≤ b.service.toNat else a.clientID.toNat ≤ b.clientID.toNat

/-- The client IDs that `releaseClientIDs` goes through: those that are recorded and those that are cached. -/
def Client.releasable (c : Client) : List AllocatedClientID :=
  let allocated := c.clientIDs.entries.foldl (fun allocated entry => allocated.set ⟨entry.1, entry.2⟩ ())
    c.allocatedClientIDs
  allocated.keys.mergeSort releasedBefore

/-- `releaseServiceClientIDForCloseLocked` -/
def releaseServiceClientIDForCloseLocked (id : AllocatedClientID) : ClientCall Unit := do
  if id.service > 0xff then
    throw (.text "releasing QMI client ID: service 0x%X exceeds QMUX 8-bit limit" [id.service.toNat])
  let tlvs ← sendRequest (.releaseClientID id.service id.clientID)
  match resultError tlvs with
  | none => return ()
  -- The modem has forgotten the ID already.
  | some err => if err = .qmi qmiErrorInvalidClientID then return () else throw (.result err)

/-- The loop of `releaseClientIDs`, with the errors it joins. -/
def releaseEach : List AllocatedClientID → ClientCall (List ClientError)
  | [] => return []
  | id :: rest => do
    if ← holds .terminal then return []
    if !(← holds .live) then return [.wrap "release remaining QMI client IDs" [] .refused]
    match ← (releaseServiceClientIDForCloseLocked id).attempt with
    | .ok () => releaseEach rest
    | .error err =>
      if ← holds .terminal then return []
      let failed : ClientError := .wrap "release QMI client ID (service=%#x, client_id=%d)"
        [id.service.toNat, id.clientID.toNat] err
      -- The same expired budget must not produce a timeout for every ID.
      if !(← holds .live) then return [failed]
      return failed :: (← releaseEach rest)

/-- `releaseClientIDs` -/
def releaseClientIDs : ClientCall (List ClientError) := do
  let c ← getState
  if c.transportManagesClientIDs then return []
  if ← holds .terminal then return []
  releaseEach c.releasable

/-- `Close`, which does nothing when it runs again. -/
def close : ClientCall Unit := do
  if (← getState).closed then return ()
  let _ ← releaseClientIDs
  let _ ← ask .closeTransport
  setState fun c => { c with closed := true, clientIDs := ∅, allocatedClientIDs := ∅, catService := none }

/-! Calls in any order. -/

/-- A call of the client. -/
inductive Op where
  | serviceClientID (service : ServiceType)
  | allocateServiceClientID (service : ServiceType)
  | sessionServiceClientID (service : ServiceType)
  | releaseServiceClientID (service : ServiceType) (clientID : UInt8)
  /-- A request on a client ID that a call has got, by itself or in a batch of `dispatchRequests`. -/
  | request (service : ServiceType) (clientID : UInt8) (id : MessageID) (tlvs : List TLV)
  | requestWithTimeout (id : MessageID) (tlvs : List TLV)
  | catClient
  | releaseCATClient (service : CATService) (clientID : UInt8)
  /-- A `withServiceClient` that was told that its client ID is invalid forgets it. -/
  | forget (turn : Nat)
  | close
  deriving DecidableEq

/-- The client and the calls of `withServiceClient` that are about to forget a client ID. -/
structure System where
  world : World
  invalid : List AllocatedClientID := []

/-- A client that has not been used. -/
def System.init (tape : Nat → Answer) (transport : Transport) : System where
  world := ⟨tape, [], { transport := transport }⟩

/-- The next call, after the calls before it. -/
def System.perform (s : System) : Op → System
  | .serviceClientID service => { s with world := (ClientIds.serviceClientID service).after s.world }
  | .allocateServiceClientID service => { s with world := (ClientIds.allocateServiceClientID service).after s.world }
  | .sessionServiceClientID service => { s with world := (ClientIds.sessionServiceClientID service).after s.world }
  | .releaseServiceClientID service clientID =>
    { s with world := (ClientIds.releaseServiceClientID service clientID).after s.world }
  | .request service clientID id tlvs =>
    -- The function that `withServiceClient` runs sends a request and fails with the result of the response.
    let fn : ClientCall (Option ResultError) := resultError <$> requestService service clientID id tlvs
    { world := fn.after s.world
      invalid :=
        match fn.outcome s.world with
        | .ok result =>
          if result = some (.qmi qmiErrorInvalidClientID) then s.invalid ++ [⟨service, clientID⟩] else s.invalid
        | .error _ => s.invalid }
  | .requestWithTimeout id tlvs => { s with world := (ClientIds.requestWithTimeout id tlvs).after s.world }
  | .catClient => { s with world := ClientIds.catClient.after s.world }
  | .releaseCATClient service clientID =>
    { s with world := (ClientIds.releaseCATClient service clientID).after s.world }
  | .forget turn =>
    match s.invalid[turn]? with
    | none => s
    | some id =>
      { world := (forgetServiceClientID id.service id.clientID).after s.world, invalid := s.invalid.eraseIdx turn }
  | .close => { s with world := ClientIds.close.after s.world }

/-- Some calls, one after the other. -/
def System.run (s : System) (ops : List Op) : System := ops.foldl System.perform s

end Wwan.Qcom.ClientIds
