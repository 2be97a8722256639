import Wwan.Lib.GoString
import Wwan.Lib.Streams
import Wwan.Modem.WatchStatus

/-! The streams of status, SIM, network and signal that the backends give, each with the cases of its loop. -/

namespace Wwan.Modem

open Streams (Act Result Watcher pollLoop)

/-! The enumerations of a status, by their codes. -/

def powerStateUnknown : UInt8 := 0
def powerStateOff : UInt8 := 1
def powerStateLow : UInt8 := 2
def powerStateOn : UInt8 := 3
def simStateUnknown : UInt8 := 0
def simStateAbsent : UInt8 := 1
def registrationIdle : UInt8 := 1
def packetServiceDetached : UInt8 := 4

/-- The part of `SIMInfo` that the loops look at. -/
structure SIMInfo where
  state : UInt8 := 0
  iccid : GoString := []
  deriving DecidableEq, Inhabited

/-- The part of `NetworkStatus` that indications change. -/
structure NetworkStatus where
  registration : UInt8 := 0
  packetService : UInt8 := 0
  technology : UInt64 := 0
  available : UInt64 := 0
  operatorID : GoString := []
  operatorName : GoString := []
  roamingText : GoString := []
  uplinkBitsPerSecond : UInt64 := 0
  downlinkBitsPerSecond : UInt64 := 0
  deriving DecidableEq, Inhabited

/-- The part of `Signal` that a status has. -/
structure Signal where
  quality : UInt8 := 0
  deriving DecidableEq, Inhabited

/-- What each query of a backend would return at a moment. -/
structure QueryAnswers where
  status : Result Status GoString := { value := {} }
  powerState : Result UInt8 GoString := { value := 0 }
  /-- `SIMInfo`, with the identity of the card -/
  simInfo : Result SIMInfo GoString := { value := {} }
  /-- `simInfo`, without the identity of the card -/
  basicSIMInfo : Result SIMInfo GoString := { value := {} }
  /-- `simInfoFromCardStatus` -/
  cardSIMInfo : SIMInfo := {}
  /-- `querySIMState` -/
  simState : Result UInt8 GoString := { value := 0 }
  /-- `resolveSubscriberSIMState` -/
  subscriberSIMState : UInt8 := 0
  networkStatus : Result NetworkStatus GoString := { value := {} }
  signal : Result Signal GoString := { value := {} }
  deriving DecidableEq, Inhabited

/-- Where a query is made. -/
inductive Site where
  | initial
  /-- The power state, after an indication that does not tell it. -/
  | power
  /-- The status, after the power came on. -/
  | refresh
  /-- The status, after an indication of system information. -/
  | system
  | card
  | slot
  | subscriber
  | simRetry
  | resync
  | poll
  deriving DecidableEq

/-- A watcher of a backend, whose loop has the locals `σ` and the cases `ι`. -/
abbrev Loop (σ ι ς α : Type) := Watcher Site QueryAnswers σ ι ς α GoString

/-- Query, look at the context, and send the result, after which an error ends the stream. -/
def queryAndSend {σ α : Type} (site : Site) (query : QueryAnswers → Result α GoString)
    (next : α → Act Site QueryAnswers σ α GoString) : Act Site QueryAnswers σ α GoString :=
  .query site fun answers => .ifLive (.send (query answers)
    (if (query answers).err.isSome then .ret else next (query answers).value))

/-- The cases of a loop over the indications of one kind. -/
inductive EventCase (β : Type) where
  | event (indication : β)
  /-- The channel of the indications is closed. -/
  | closed
  | resync
  deriving DecidableEq

namespace Qmi

/-- `DMSEvent`, as far as it tells the power state -/
structure DMSEvent where
  operatingMode : UInt8 := 0
  operatingModeKnown : Bool := false
  wirelessDisabled : Bool := false
  wirelessDisabledKnown : Bool := false
  deriving DecidableEq

/-- `powerState` -/
def powerState (mode : UInt8) : UInt8 :=
  if mode = 0x00 then powerStateOn
  else if mode = 0x01 ∨ mode = 0x06 ∨ mode = 0x07 then powerStateLow
  else if mode = 0x03 ∨ mode = 0x05 then powerStateOff
  else powerStateUnknown

/-- `effectivePowerState` -/
def effectivePowerState (mode : UInt8) (restricted : Bool) : UInt8 :=
  if !restricted ∨ powerState mode = powerStateOff then powerState mode else powerStateLow

/-- `powerStateFromEvent` -/
def powerStateFromEvent (event : DMSEvent) : Option UInt8 :=
  -- A disabled radio is at low power, unless it is off.
  if event.wirelessDisabledKnown ∧ event.wirelessDisabled then
    if !event.operatingModeKnown then some powerStateLow
    else some (effectivePowerState event.operatingMode true)
  else if event.operatingModeKnown then
    if powerState event.operatingMode = powerStateUnknown then none else some (powerState event.operatingMode)
  else none

/-- `normalizeRadioStatus` -/
def normalizeRadioStatus (status : Status) : Status :=
  if status.power = powerStateOn then status
  else { status with registration := registrationIdle, packetService := packetServiceDetached, technology := 0,
                     operatorID := [], operatorName := [], signalQuality := 0 }

/-- `applyPowerState` -/
def applyPowerState (status : Status) (state : UInt8) : Status := normalizeRadioStatus { status with power := state }

/-- `applyNetworkStatus` -/
def applyNetworkStatus (status : Status) (network : NetworkStatus) : Status :=
  { status with registration := network.registration, packetService := network.packetService,
                technology := network.technology, operatorID := network.operatorID,
                operatorName := network.operatorName }

/-- `powerTransitionNeedsStatusRefresh` -/
def powerTransitionNeedsStatusRefresh (current next : UInt8) : Bool :=
  current ≠ powerStateOn ∧ next = powerStateOn

/-- `statusIndications`, by which of the channels are there -/
structure StatusIndications where
  power : Bool
  card : Bool
  network : Bool
  system : Bool
  signal : Bool
  deriving DecidableEq

/-- `statusIndications.empty` -/
def StatusIndications.empty (i : StatusIndications) : Bool :=
  !i.power && !i.card && !i.network && !i.system && !i.signal

/-- The variables of the loop of `WatchStatus`. -/
structure StatusLocals where
  indications : StatusIndications
  powerPolls : Bool
  current : Status
  deriving DecidableEq

/-- The cases of the loop of `WatchStatus`, where an indication comes with what is read off it. -/
inductive StatusCase where
  | power (event : DMSEvent)
  | powerClosed
  | powerPoll (result : Result UInt8 GoString)
  | powerPollsClosed
  | card (sim : UInt8)
  | cardClosed
  | network (network : NetworkStatus)
  | networkClosed
  | system
  | systemClosed
  | signal (quality : UInt8)
  | signalClosed
  | resync
  deriving DecidableEq

namespace StatusLocals

/-- What follows the select: without any channel left, the status is polled. -/
def after (l : StatusLocals) : Act Site QueryAnswers StatusLocals Status GoString :=
  if l.indications.empty then .forward .poll QueryAnswers.status else .select l

/-- The function `sendPowerState` of the loop. -/
def sendPowerState (l : StatusLocals) (state : UInt8) : Act Site QueryAnswers StatusLocals Status GoString :=
  let current := applyPowerState l.current state
  if !powerTransitionNeedsStatusRefresh l.current.power state then
    .send { value := current } { l with current }.after
  else queryAndSend .refresh QueryAnswers.status fun value => { l with current := value }.after

end StatusLocals

/-- `WatchStatus` -/
def watchStatus : Loop StatusLocals StatusCase StatusIndications Status where
  start indications :=
    if indications.empty then pollLoop .poll QueryAnswers.status
    else
      queryAndSend .initial QueryAnswers.status fun value =>
        .select { indications, powerPolls := !indications.power, current := value }
  body l
    | .powerClosed =>
      if l.indications.power then
        let indications := { l.indications with power := false }
        some { l with indications, powerPolls := l.powerPolls || !indications.empty }.after
      else none
    | .power event =>
      if l.indications.power then
        match powerStateFromEvent event with
        | some state => some (l.sendPowerState state)
        | none =>
          if !event.wirelessDisabledKnown ∧ !event.operatingModeKnown then some (.select l)
          else
            some <| .query .power fun answers => .ifLive <|
              if answers.powerState.err.isSome then
                .send { value := l.current, err := answers.powerState.err } .ret
              else l.sendPowerState answers.powerState.value
      else none
    | .powerPollsClosed => if l.powerPolls then some { l with powerPolls := false }.after else none
    | .powerPoll result =>
      if l.powerPolls then
        if result.err.isSome then some (.send { value := l.current, err := result.err } .ret)
        else if l.current.power = result.value then some (.select l)
        else some (l.sendPowerState result.value)
      else none
    | .cardClosed =>
      if l.indications.card then some { l with indications := { l.indications with card := false } }.after else none
    | .card sim =>
      if l.indications.card then
        let current := { l.current with sim }
        some (.send { value := current } { l with current }.after)
      else none
    | .networkClosed =>
      if l.indications.network then some { l with indications := { l.indications with network := false } }.after
      else none
    | .network network =>
      if l.indications.network then
        let current := normalizeRadioStatus (applyNetworkStatus l.current network)
        some (.send { value := current } { l with current }.after)
      else none
    | .systemClosed =>
      if l.indications.system then some { l with indications := { l.indications with system := false } }.after
      else none
    | .system =>
      if l.indications.system then
        some <| .query .system fun answers =>
          let current := if answers.status.err.isNone then answers.status.value else l.current
          -- Here, unlike in all other places, an error does not end the loop.
          .send { value := current, err := answers.status.err } { l with current }.after
      else none
    | .signalClosed =>
      if l.indications.signal then some { l with indications := { l.indications with signal := false } }.after
      else none
    | .signal quality =>
      if l.indications.signal then
        let current := normalizeRadioStatus { l.current with signalQuality := quality }
        some (.send { value := current } { l with current }.after)
      else none
    | .resync => some (queryAndSend .resync QueryAnswers.status fun value => { l with current := value }.after)

/-- The variables of the loop of `WatchSIM`. -/
structure SIMLocals where
  cardEvents : Bool
  slotEvents : Bool
  /-- The timer of the enrichment runs. -/
  enrichmentC : Bool := false
  /-- A `uint64` in the source, which does not come round. -/
  enrichmentGeneration : Nat := 0
  /-- The generations whose enrichment was started. -/
  started : List Nat := []
  deriving DecidableEq

/-- The cases of the loop of `WatchSIM`. -/
inductive SIMCase where
  | card
  | cardClosed
  | slot
  | slotClosed
  | enrichment
  /-- An enrichment has its result. -/
  | enriched (generation : Nat) (result : Result SIMInfo GoString)
  | resync
  deriving DecidableEq

namespace SIMLocals

/-- The function `scheduleEnrichment` of the loop. -/
def scheduleEnrichment (l : SIMLocals) : SIMLocals :=
  { l with enrichmentGeneration := l.enrichmentGeneration + 1, enrichmentC := true }

/-- What follows the select. -/
def after (l : SIMLocals) : Act Site QueryAnswers SIMLocals SIMInfo GoString :=
  if !l.cardEvents ∧ !l.slotEvents then .forward .poll QueryAnswers.simInfo else .select l

end SIMLocals

/-- `WatchSIM`, which starts with whether the cards and the slots could be watched -/
def watchSIM : Loop SIMLocals SIMCase (Bool × Bool) SIMInfo where
  start := fun (cardEvents, slotEvents) =>
    -- Nothing can be watched, so that the card is polled.
    if !cardEvents ∧ !slotEvents then pollLoop .poll QueryAnswers.simInfo
    else
      queryAndSend .initial QueryAnswers.basicSIMInfo fun initial =>
        let l : SIMLocals := { cardEvents, slotEvents }
        .select (if initial.state ≠ simStateAbsent then l.scheduleEnrichment else l)
  body l
    | .cardClosed => if l.cardEvents then some { l with cardEvents := false }.after else none
    | .card =>
      if l.cardEvents then
        some <| .query .card fun answers => .send { value := answers.cardSIMInfo } l.scheduleEnrichment.after
      else none
    | .slotClosed => if l.slotEvents then some { l with slotEvents := false }.after else none
    | .slot =>
      if l.slotEvents then
        some (queryAndSend .slot QueryAnswers.basicSIMInfo fun _ => l.scheduleEnrichment.after)
      else none
    | .enrichment =>
      if l.enrichmentC then
        some { l with enrichmentC := false, started := l.enrichmentGeneration :: l.started }.after
      else none
    | .enriched generation result =>
      if generation ∈ l.started then
        -- The result of an enrichment that was superseded is dropped.
        if generation ≠ l.enrichmentGeneration then some (.select l)
        else some (.send result (if result.err.isSome then .ret else l.after))
      else none
    | .resync => some l.scheduleEnrichment.after

/-- A watcher of indications of one kind, which starts with whether they could be subscribed. -/
def watchEvents {α : Type} (query : QueryAnswers → Result α GoString) : Loop Unit (EventCase α) Bool α where
  start subscribed := if subscribed then queryAndSend .initial query fun _ => .select () else pollLoop .poll query
  body _
    | .event value => some (.send { value } (.select ()))
    | .closed => some (.forward .poll query)
    | .resync => some (queryAndSend .resync query fun _ => .select ())

/-- `WatchNetwork` -/
def watchNetwork : Loop Unit (EventCase NetworkStatus) Bool NetworkStatus := watchEvents QueryAnswers.networkStatus

/-- `WatchSignal` -/
def watchSignal : Loop Unit (EventCase Signal) Bool Signal := watchEvents QueryAnswers.signal

end Qmi

namespace Mbim

/-- An indication of the modem, with what is decoded from it. -/
inductive Indication (β : Type) where
  /-- The watch of the indications failed. -/
  | failed (err : GoString)
  /-- The indication cannot be decoded. -/
  | malformed (err : GoString)
  | decoded (value : β)
  deriving DecidableEq

/-- `watchErrorResult` -/
def watchErrorResult {α : Type} (value : α) (action : String) (err : GoString) : Result α GoString :=
  { value, err := some (GoString.ascii action ++ GoString.ascii ": " ++ err) }

/-- How every loop handles an indication of a kind: a failure is sent as the last result. -/
def onIndication {σ α β : Type} (value : α) (kind : String) (indication : Indication β)
    (next : β → Act Site QueryAnswers σ α GoString) : Act Site QueryAnswers σ α GoString :=
  match indication with
  | .failed err => .send (watchErrorResult value ("watching " ++ kind) err) .ret
  | .malformed err => .send (watchErrorResult value ("decoding " ++ kind ++ " indication") err) .ret
  | .decoded decoded => next decoded

/-- `watchSIMRetryLimit` -/
def watchSIMRetryLimit : Nat := 30

/-- `shouldRetrySIMState` -/
def shouldRetrySIMState (state : UInt8) (attempts : Nat) : Bool :=
  state = simStateUnknown ∧ attempts < watchSIMRetryLimit

/-- The fields that registration information changes. -/
structure Registration where
  state : UInt8
  available : UInt64
  operatorID : GoString
  operatorName : GoString
  roamingText : GoString
  deriving DecidableEq

/-- The fields that packet service information changes. -/
structure PacketService where
  state : UInt8
  technology : UInt64
  uplinkSpeed : UInt64
  downlinkSpeed : UInt64
  deriving DecidableEq

/-- `applyRegistrationToStatus` -/
def applyRegistrationToStatus (status : Status) (registration : Registration) : Status :=
  { status with registration := registration.state, operatorID := registration.operatorID,
                operatorName := registration.operatorName }

/-- `applyPacketToStatus` -/
def applyPacketToStatus (status : Status) (packet : PacketService) : Status :=
  { status with packetService := packet.state, technology := packet.technology }

/-- `applyRegistration` -/
def applyRegistration (network : NetworkStatus) (registration : Registration) : NetworkStatus :=
  { network with registration := registration.state, available := registration.available,
                 operatorID := registration.operatorID, operatorName := registration.operatorName,
                 roamingText := registration.roamingText }

/-- `applyPacketService` -/
def applyPacketService (network : NetworkStatus) (packet : PacketService) : NetworkStatus :=
  { network with packetService := packet.state, technology := packet.technology,
                 uplinkBitsPerSecond := packet.uplinkSpeed, downlinkBitsPerSecond := packet.downlinkSpeed }

/-- The variables of the loop of `WatchStatus`, with the channels that are not closed. -/
structure StatusLocals where
  radioEvents : Bool := true
  subscriberEvents : Bool := true
  registrationEvents : Bool := true
  packetEvents : Bool := true
  signalEvents : Bool := true
  current : Status
  simRetryAttempts : Nat := 0
  deriving DecidableEq

/-- The cases of the loop of `WatchStatus`. -/
inductive StatusCase where
  | radio (indication : Indication UInt8)
  | radioClosed
  | subscriber (indication : Indication Unit)
  | subscriberClosed
  | registration (indication : Indication Registration)
  | registrationClosed
  | packet (indication : Indication PacketService)
  | packetClosed
  | signal (indication : Indication Signal)
  | signalClosed
  | simRetry
  | resync
  deriving DecidableEq

/-- What follows the select: without any channel left, the status is polled. -/
def StatusLocals.after (l : StatusLocals) : Act Site QueryAnswers StatusLocals Status GoString :=
  if !l.radioEvents ∧ !l.subscriberEvents ∧ !l.registrationEvents ∧ !l.packetEvents ∧ !l.signalEvents then
    .forward .poll QueryAnswers.status
  else .select l

/-- `WatchStatus`, which starts with whether everything could be subscribed -/
def watchStatus : Loop StatusLocals StatusCase Bool Status where
  start subscribed :=
    if subscribed then queryAndSend .initial QueryAnswers.status fun value => .select { current := value }
    else pollLoop .poll QueryAnswers.status
  body l
    | .radioClosed => if l.radioEvents then some { l with radioEvents := false }.after else none
    | .radio indication =>
      if l.radioEvents then
        some <| onIndication l.current "radio state" indication fun power =>
          let current := { l.current with power }
          .send { value := current } { l with current }.after
      else none
    | .subscriberClosed => if l.subscriberEvents then some { l with subscriberEvents := false }.after else none
    | .subscriber indication =>
      if l.subscriberEvents then
        some <| onIndication l.current "subscriber status" indication fun _ => .query .subscriber fun answers =>
          let current := { l.current with sim := answers.subscriberSIMState }
          let changed := l.current.sim ≠ current.sim ∨ current.sim ≠ simStateUnknown
          let simRetryAttempts := if changed then 0 else l.simRetryAttempts
          .send { value := current } { l with current, simRetryAttempts }.after
      else none
    | .registrationClosed =>
      if l.registrationEvents then some { l with registrationEvents := false }.after else none
    | .registration indication =>
      if l.registrationEvents then
        some <| onIndication l.current "registration state" indication fun registration =>
          let current := applyRegistrationToStatus l.current registration
          .send { value := current } { l with current }.after
      else none
    | .packetClosed => if l.packetEvents then some { l with packetEvents := false }.after else none
    | .packet indication =>
      if l.packetEvents then
        some <| onIndication l.current "packet service" indication fun packet =>
          let current := applyPacketToStatus l.current packet
          .send { value := current } { l with current }.after
      else none
    | .signalClosed => if l.signalEvents then some { l with signalEvents := false }.after else none
    | .signal indication =>
      if l.signalEvents then
        some <| onIndication l.current "signal state" indication fun signal =>
          let current := { l.current with signalQuality := signal.quality }
          .send { value := current } { l with current }.after
      else none
    | .simRetry =>
      if shouldRetrySIMState l.current.sim l.simRetryAttempts then
        let l := { l with simRetryAttempts := l.simRetryAttempts + 1 }
        some <| .query .simRetry fun answers => .ifLive <|
          let state := answers.simState.value
          -- Nothing new is not sent.
          if answers.simState.err.isSome ∨ state = l.current.sim then .select l
          else
            let current := { l.current with sim := state }
            let simRetryAttempts := if state ≠ simStateUnknown then 0 else l.simRetryAttempts
            .send { value := current } { l with current, simRetryAttempts }.after
      else none
    | .resync =>
      some <| queryAndSend .resync QueryAnswers.status fun value =>
        { l with current := value, simRetryAttempts := 0 }.after

/-- The variables of the loop of `WatchSIM`. -/
structure SIMLocals where
  current : SIMInfo
  simRetryAttempts : Nat := 0
  deriving DecidableEq

/-- The cases of the loop of `WatchSIM`. -/
inductive SIMCase where
  | subscriber (indication : Indication Unit)
  | closed
  | simRetry
  | resync
  deriving DecidableEq

/-- `WatchSIM` -/
def watchSIM : Loop SIMLocals SIMCase Bool SIMInfo where
  start subscribed :=
    if subscribed then queryAndSend .initial QueryAnswers.simInfo fun current => .select { current }
    else pollLoop .poll QueryAnswers.simInfo
  body l
    | .closed => some (.forward .poll QueryAnswers.simInfo)
    | .subscriber indication =>
      some <| onIndication {} "subscriber status" indication fun _ =>
        queryAndSend .subscriber QueryAnswers.simInfo fun current =>
          let changed := l.current.state ≠ current.state ∨ current.state ≠ simStateUnknown
          .select { current, simRetryAttempts := if changed then 0 else l.simRetryAttempts }
    | .simRetry =>
      if shouldRetrySIMState l.current.state l.simRetryAttempts then
        let l := { l with simRetryAttempts := l.simRetryAttempts + 1 }
        some <| .query .simRetry fun answers => .ifLive <|
          if answers.simState.err.isSome ∨ answers.simState.value = simStateUnknown then .select l
          else
            queryAndSend .simRetry QueryAnswers.simInfo fun current =>
              .select { current, simRetryAttempts := if current.state ≠ simStateUnknown then 0 else l.simRetryAttempts }
      else none
    | .resync => some (queryAndSend .resync QueryAnswers.simInfo fun current => .select { current })

/-- The variables of the loop of `WatchNetwork`. -/
structure NetworkLocals where
  registrationEvents : Bool := true
  packetEvents : Bool := true
  current : NetworkStatus
  deriving DecidableEq

/-- The cases of the loop of `WatchNetwork`. -/
inductive NetworkCase where
  | registration (indication : Indication Registration)
  | registrationClosed
  | packet (indication : Indication PacketService)
  | packetClosed
  | resync
  deriving DecidableEq

/-- What follows the select. -/
def NetworkLocals.after (l : NetworkLocals) : Act Site QueryAnswers NetworkLocals NetworkStatus GoString :=
  if !l.registrationEvents ∧ !l.packetEvents then .forward .poll QueryAnswers.networkStatus else .select l

/-- `WatchNetwork` -/
def watchNetwork : Loop NetworkLocals NetworkCase Bool NetworkStatus where
  start subscribed :=
    if subscribed then queryAndSend .initial QueryAnswers.networkStatus fun current => .select { current }
    else pollLoop .poll QueryAnswers.networkStatus
  body l
    | .registrationClosed =>
      if l.registrationEvents then some { l with registrationEvents := false }.after else none
    | .registration indication =>
      if l.registrationEvents then
        some <| onIndication l.current "registration state" indication fun registration =>
          let current := applyRegistration l.current registration
          .send { value := current } { l with current }.after
      else none
    | .packetClosed => if l.packetEvents then some { l with packetEvents := false }.after else none
    | .packet indication =>
      if l.packetEvents then
        some <| onIndication l.current "packet service" indication fun packet =>
          let current := applyPacketService l.current packet
          .send { value := current } { l with current }.after
      else none
    | .resync => some (queryAndSend .resync QueryAnswers.networkStatus fun current => { l with current }.after)

/-- `WatchSignal` -/
def watchSignal : Loop Unit (EventCase (Indication Signal)) Bool Signal where
  start subscribed :=
    if subscribed then queryAndSend .initial QueryAnswers.signal fun _ => .select () else pollLoop .poll QueryAnswers.signal
  body _
    | .closed => some (.forward .poll QueryAnswers.signal)
    | .event indication =>
      some <| onIndication {} "signal state" indication fun signal => .send { value := signal } (.select ())
    | .resync => some (queryAndSend .resync QueryAnswers.signal fun _ => .select ())

end Mbim

/-! All of them. -/

/-- The backends. -/
inductive BackendKind where
  | qmi | mbim
  deriving DecidableEq

/-- What is watched. -/
inductive WatchKind where
  | status | sim | network | signal
  deriving DecidableEq

/-- A loop with its own variables, cases, subscriptions and values. -/
structure AnyLoop where
  locals : Type
  case : Type
  subscriptions : Type
  value : Type
  loop : Loop locals case subscriptions value

/-- The loop of each watch of each backend. -/
def watchLoop : BackendKind → WatchKind → AnyLoop
  | .qmi, .status => ⟨_, _, _, _, Qmi.watchStatus⟩
  | .qmi, .sim => ⟨_, _, _, _, Qmi.watchSIM⟩
  | .qmi, .network => ⟨_, _, _, _, Qmi.watchNetwork⟩
  | .qmi, .signal => ⟨_, _, _, _, Qmi.watchSignal⟩
  | .mbim, .status => ⟨_, _, _, _, Mbim.watchStatus⟩
  | .mbim, .sim => ⟨_, _, _, _, Mbim.watchSIM⟩
  | .mbim, .network => ⟨_, _, _, _, Mbim.watchNetwork⟩
  | .mbim, .signal => ⟨_, _, _, _, Mbim.watchSignal⟩

end Wwan.Modem
