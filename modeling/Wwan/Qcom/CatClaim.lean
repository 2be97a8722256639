import Wwan.Lib.Dialogue
import Wwan.Lib.GoMap
import Wwan.Qcom.Results

/-! Claiming the events of the card toolkit, from other clients of the modem if need be. -/

namespace Wwan.Qcom.Cat

/-! The client and what it asks the modem. -/

/-- The kinds of transport, by who gives out the client IDs. -/
inductive Transport where
  | qmux
  /-- A transport for one service, which has no client IDs. -/
  | bound (service : ServiceType)
  /-- A `transportClientIDProvider`. -/
  | provider
  deriving DecidableEq

/-- The versions of the toolkit service. -/
inductive CATService where
  | cat2
  | cat
  deriving DecidableEq

/-- The number of a version of the toolkit service. -/
def CATService.type : CATService → ServiceType
  | .cat2 => serviceCAT2
  | .cat => serviceCAT

/-- The fields of the client that the calls of the toolkit use. -/
structure Client where
  transport : Transport := .qmux
  /-- The version of the service that was found, if one was looked for. -/
  catService : Option CATService := none
  clientIDs : GoMap ServiceType UInt8 := ∅

/-- A condition that holds or not when a call looks. -/
inductive Condition where
  /-- The client's lock was taken before the context ended, and the client is open. -/
  | entered
  /-- The context has not ended. -/
  | live
  /-- The client is open. -/
  | isOpen
  deriving DecidableEq

/-- What a call asks for. -/
inductive Request where
  | condition (condition : Condition)
  | versionInfo
  /-- The client ID of a service, asked of the transport. -/
  | clientID (service : ServiceType)
  | allocateClientID (service : ServiceType)
  | releaseClientID (service : ServiceType) (clientID : UInt8)
  | getServiceState (service : ServiceType) (clientID : UInt8)
  | setEventReport (service : ServiceType) (clientID : UInt8) (rawMask fullMask : UInt32)
  deriving DecidableEq

/-- How it is answered. -/
inductive Answer where
  /-- The request was not sent, or the condition does not hold. -/
  | refused
  /-- The request was sent and got no response. -/
  | lost
  | response (tlvs : List TLV)
  | services (services : List ServiceType)
  | clientID (clientID : UInt8)
  deriving DecidableEq

/-- The errors of the calls. -/
inductive CatError where
  | refused
  | lost
  | result (error : ResultError)
  | text (text : String) (args : List Nat)
  | wrap (context : String) (cause : CatError)
  deriving DecidableEq

/-- A call of the toolkit. -/
abbrev CatCall (α : Type) := Call (Dialogue Request Answer Client) CatError α

open Dialogue (ask getState setState)

/-- Look at a condition. -/
def holds (condition : Condition) : CatCall Bool := do
  return (← ask (.condition condition)) ≠ .refused

/-- `requestService` and `sendRequest` -/
def request (r : Request) : CatCall (List TLV) := do
  match ← ask r with
  | .response tlvs => return tlvs
  | .refused => throw .refused
  | .lost | .services _ | .clientID _ => throw .lost

/-- `resultOK` -/
def resultOK (tlvs : List TLV) : CatCall Unit :=
  match resultError tlvs with
  | none => return ()
  | some err => throw (.result err)

/-- The call with its error behind a context. -/
def wrapped {α : Type} (context : String) (call : CatCall α) : CatCall α := do
  match ← call.attempt with
  | .ok value => return value
  | .error err => throw (.wrap context err)

/-! The client IDs. -/

/-- `releaseServiceClientIDLocked` -/
def releaseServiceClientIDLocked (service : ServiceType) (clientID : UInt8) : CatCall Unit := do
  if service > 0xff then
    throw (.text "releasing QMI client ID: service 0x%X exceeds QMUX 8-bit limit" [service.toNat])
  let tlvs ← request (.releaseClientID service clientID)
  match resultError tlvs with
  | none => return ()
  -- The modem does not know the ID, which is then as good as released.
  | some (.qmi code) => if code = qmiErrorInvalidClientID then return () else throw (.result (.qmi code))
  | some err => throw (.result err)

/-- `allocateServiceClientIDLocked` -/
def allocateServiceClientIDLocked (service : ServiceType) : CatCall UInt8 := do
  if service > 0xff then
    throw (.text "allocating QMI client ID: service 0x%X exceeds QMUX 8-bit limit" [service.toNat])
  if !(← holds .live) then throw .refused
  let tlvs ← request (.allocateClientID service)
  resultOK tlvs
  match TLVs.value tlvs 0x01 with
  | none => throw (.text "allocating QMI client ID: allocated client TLV missing" [])
  | some [allocatedService, clientID] =>
    if clientID = 0 then throw (.text "allocating QMI client ID: modem returned reserved client ID 0" [])
    -- The modem has allocated for another service, and gets the ID back.
    if allocatedService.toUInt32 ≠ service then
      let mismatch : CatError := .text "allocating QMI client ID: service mismatch: requested 0x%X, got 0x%X"
        [service.toNat, allocatedService.toNat]
      match ← (releaseServiceClientIDLocked allocatedService.toUInt32 clientID).attempt with
      | .ok () => throw mismatch
      | .error _ => throw (.wrap "releasing mismatched QMI client ID" mismatch)
    if !(← holds .isOpen) then throw .refused
    return clientID
  | some value =>
    throw (.text "allocating QMI client ID: allocated client TLV length %d, want 2" [value.length])

/-- Ask the transport for a client ID of a service, as `transportClientIDLocked` does. -/
def transportClientIDLocked (service : ServiceType) : CatCall UInt8 := do
  match ← ask (.clientID service) with
  | .clientID clientID => return clientID
  | .refused => throw .refused
  | .lost | .response _ | .services _ => throw .lost

/-- `serviceClientIDLocked` -/
def serviceClientIDLocked (service : ServiceType) : CatCall UInt8 := do
  let c ← getState
  match c.transport with
  | .provider => transportClientIDLocked service
  | .bound boundService =>
    if boundService ≠ service then
      throw (.text "QMI transport is bound to service 0x%02X, want 0x%02X" [boundService.toNat, service.toNat])
    return 0
  | .qmux =>
    -- The ID of an earlier allocation is used again.
    let clientID := (c.clientIDs.get service).getD 0
    if clientID ≠ 0 then return clientID
    let clientID ← allocateServiceClientIDLocked service
    setState fun c => { c with clientIDs := c.clientIDs.set service clientID }
    if !(← holds .live) then throw .refused
    return clientID

/-- The error of `catServiceType` -/
def notExposed : CatError := .text "detecting QMI CAT service: CAT2/CAT service is not exposed" []

/-- `serviceVersionsLocked`, with the services of the versions. -/
def serviceVersionsLocked : CatCall (List ServiceType) := do
  match ← ask .versionInfo with
  | .services services => return services
  | .refused => throw .refused
  | .lost | .response _ | .clientID _ => throw .lost

/-- `catServiceType` -/
def catServiceType : CatCall CATService := do
  if (← getState).transport = .provider then
    match ← (transportClientIDLocked serviceCAT2).attempt with
    | .ok _ => return .cat2
    | .error _ =>
      match ← (transportClientIDLocked serviceCAT).attempt with
      | .ok _ => return .cat
      | .error _ => throw notExposed
  else
    -- Both services may be there, and the newer one is preferred.
    let services ← serviceVersionsLocked
    if serviceCAT2 ∈ services then return .cat2
    else if serviceCAT ∈ services then return .cat
    else throw notExposed

/-- `catClient` -/
def catClient : CatCall (CATService × UInt8) := do
  if !(← holds .entered) then throw .refused
  let c ← getState
  -- The service is chosen once.
  match c.catService with
  | some service =>
    let clientID ← serviceClientIDLocked service.type
    return (service, clientID)
  | none =>
    match c.transport with
    | .bound service =>
      throw (.text "running QMI CAT envelope: transport is bound to service 0x%02X and cannot switch to CAT/CAT2"
        [service.toNat])
    | .qmux | .provider =>
      let service ← catServiceType
      setState fun c => { c with catService := some service }
      let clientID ← serviceClientIDLocked service.type
      return (service, clientID)

/-- `Client.releaseCATClient` -/
def releaseCATClient (service : CATService) (clientID : UInt8) : CatCall Unit := do
  if !(← holds .entered) then throw .refused
  let c ← getState
  if c.catService ≠ some service ∨ (c.clientIDs.get service.type).getD 0 ≠ clientID then return ()
  -- A transport that gives out the IDs itself is not asked to release them.
  if c.transport = .qmux then releaseServiceClientIDLocked service.type clientID
  setState fun c => { c with clientIDs := c.clientIDs.delete service.type }

/-! The toolkit service. -/

/-- What the modem says about the events of a client. -/
structure CATServiceState where
  rawGlobalMask : UInt32 := 0
  rawClientMask : UInt32 := 0
  decodedGlobalMask : UInt32 := 0
  decodedClientMask : UInt32 := 0
  fullFunctionMask : UInt32 := 0
  deriving DecidableEq

/-- The function `CATServiceState.UnmarshalTLVs`, in which masks that are missing or short are zero. -/
def CATServiceState.unmarshalTLVs (tlvs : List TLV) : CATServiceState :=
  -- The mask of some four bytes of an element that has enough of them.
  let mask (kind : UInt8) (size offset : Nat) : UInt32 :=
    match TLVs.value tlvs kind with
    | some value => if value.length ≥ size then LittleEndian.uint32At value offset else 0
    | none => 0
  { rawGlobalMask := mask 0x01 8 0
    rawClientMask := mask 0x01 8 4
    decodedGlobalMask := mask 0x10 8 0
    decodedClientMask := mask 0x10 8 4
    fullFunctionMask := mask 0x11 4 0 }

/-- `ServiceState` -/
def serviceState : CatCall CATServiceState := do
  let (service, clientID) ← catClient
  let tlvs ← wrapped "reading QMI CAT service state" (request (.getServiceState service.type clientID))
  wrapped "reading QMI CAT service state" (resultOK tlvs)
  return CATServiceState.unmarshalTLVs tlvs

/-- `serviceStateForClient` -/
def serviceStateForClient (service : CATService) (clientID : UInt8) : CatCall CATServiceState := do
  let tlvs ← request (.getServiceState service.type clientID)
  resultOK tlvs
  return CATServiceState.unmarshalTLVs tlvs

/-- `catSetEventReportRawErrorTLV` -/
def catSetEventReportRawErrorTLV : UInt8 := 0x10
/-- `catSetEventReportFullFunctionErrorTLV` -/
def catSetEventReportFullFunctionErrorTLV : UInt8 := 0x12

/-- `eventReportErrorMask` -/
def eventReportErrorMask (tlvs : List TLV) (tag : UInt8) : Except CatError (Option UInt32) :=
  match TLVs.value tlvs tag with
  | none => .ok none
  | some value =>
    if value.length ≠ 4 then
      .error (.text "parsing QMI CAT event registration status: TLV 0x%02X length %d, want 4" [tag.toNat, value.length])
    else .ok (some (LittleEndian.uint32At value 0))

/-- `rawEventConflict` -/
def rawEventConflict (tlvs : List TLV) (rawMask : UInt32) : Except CatError Bool := do
  match ← eventReportErrorMask tlvs catSetEventReportRawErrorTLV with
  | none => return false
  | some failed => return failed &&& rawMask ≠ 0

/-- One of the checks of `checkEventReportRegistration` -/
def checkRejected (tlvs : List TLV) (tag : UInt8) (requested : UInt32) (text : String) : Except CatError Unit := do
  match ← eventReportErrorMask tlvs tag with
  | none => return ()
  | some failed => if failed &&& requested ≠ 0 then throw (.text text [(failed &&& requested).toNat])

/-- `checkEventReportRegistration` -/
def checkEventReportRegistration (tlvs : List TLV) (raw full : UInt32) : Except CatError Unit := do
  checkRejected tlvs catSetEventReportRawErrorTLV raw "raw mask 0x%08X already registered by another control point"
  checkRejected tlvs catSetEventReportFullFunctionErrorTLV full "full-function mask 0x%08X was not enabled"

/-- How a registration went. -/
inductive Registration where
  | accepted
  /-- The modem has refused it, for events of another client or for something else. -/
  | rejected (rawConflict : Bool)
  deriving DecidableEq

/-- `trySetEventReport` -/
def trySetEventReport (service : CATService) (clientID : UInt8) (rawMask fullMask : UInt32) : CatCall Registration := do
  let tlvs ← wrapped "registering QMI CAT events" (request (.setEventReport service.type clientID rawMask fullMask))
  match rawEventConflict tlvs rawMask with
  | .error err => throw (.wrap "registering QMI CAT events" err)
  | .ok rawConflict =>
    match checkEventReportRegistration tlvs rawMask fullMask with
    -- A registration in part is as good as none.
    | .error _ => return .rejected rawConflict
    | .ok () => if (resultError tlvs).isSome then return .rejected rawConflict else return .accepted

/-! The claim. -/

/-- `CATEventClaimConfig` -/
structure CATEventClaimConfig where
  rawMask : UInt32
  fullFunctionMask : UInt32 := 0
  candidateClientIDs : List UInt8 := []

/-- `CATEventClaim` -/
structure CATEventClaim where
  service : CATService
  clientID : UInt8
  releasedClientID : UInt8 := 0
  stateBefore : CATServiceState := {}
  deriving DecidableEq

/-- `catCandidateClientIDs` -/
def catCandidateClientIDs (ownClientID : UInt8) : List UInt8 :=
  [1, 2, 3, 4, 5].filter fun id => id ≠ ownClientID

/-- `eventOwner`, where zero stands for none. -/
def eventOwner (service : CATService) (ownClientID : UInt8) (rawMask : UInt32) (candidate : UInt8) : CatCall UInt8 := do
  if candidate = 0 ∨ candidate = ownClientID then return 0
  let state ← serviceStateForClient service candidate
  if state.rawClientMask &&& rawMask = 0 then return 0
  return candidate

/-- Release the own client ID, of which an error is dropped, and return another error. -/
def releaseAnd {α : Type} (service : CATService) (clientID : UInt8) (err : CatError) : CatCall α := do
  match ← (releaseCATClient service clientID).attempt with
  | .ok () | .error _ => throw err

/-- The loop over the candidates. -/
def claimFrom (config : CATEventClaimConfig) (claim : CATEventClaim) : List UInt8 → CatCall CATEventClaim
  -- Every candidate has been tried.
  | [] => releaseAnd claim.service claim.clientID
      (.text "claiming QMI CAT events: raw mask 0x%08X is still owned by another CAT client" [config.rawMask.toNat])
  | candidate :: rest => do
    match ← (eventOwner claim.service claim.clientID config.rawMask candidate).attempt with
    -- A probe that fails only costs its candidate.
    | .error _ => claimFrom config claim rest
    | .ok owner =>
      if owner = 0 then claimFrom config claim rest
      else
        match ← (releaseServiceClientIDLocked claim.service.type owner).attempt with
        | .error err => releaseAnd claim.service claim.clientID (.wrap "claiming QMI CAT events: release owner client" err)
        | .ok () =>
          match ← (trySetEventReport claim.service claim.clientID config.rawMask config.fullFunctionMask).attempt with
          | .error err => releaseAnd claim.service claim.clientID err
          -- The former owner is named in the result.
          | .ok .accepted => return { claim with releasedClientID := owner }
          | .ok (.rejected _) => claimFrom config claim rest

/-- `ForceClaimEvents` -/
def forceClaimEvents (config : CATEventClaimConfig) : CatCall CATEventClaim := do
  if config.rawMask = 0 ∧ config.fullFunctionMask = 0 then
    throw (.text "claiming QMI CAT events: event mask is empty" [])
  let (service, clientID) ← catClient
  -- Without an owner nothing needs to be released.
  match ← trySetEventReport service clientID config.rawMask config.fullFunctionMask with
  | .accepted => return { service := service, clientID := clientID }
  | .rejected false =>
    releaseAnd service clientID
      (.text "claiming QMI CAT events: registration rejected without raw event conflict" [])
  -- Another client owns some of the events, which the state of the service has to confirm.
  | .rejected true =>
    match ← serviceState.attempt with
    | .error err => releaseAnd service clientID err
    | .ok state =>
      if state.rawGlobalMask &&& config.rawMask = 0 then
        releaseAnd service clientID
          (.text "claiming QMI CAT events: raw global mask 0x%08X does not contain requested mask 0x%08X"
            [state.rawGlobalMask.toNat, config.rawMask.toNat])
      else
        claimFrom config { service := service, clientID := clientID, stateBefore := state }
          (if config.candidateClientIDs = [] then catCandidateClientIDs clientID else config.candidateClientIDs)

end Wwan.Qcom.Cat
