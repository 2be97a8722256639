import Wwan.Lib.StreamHistory
import Wwan.Modem.Streams

/-! The status of a QMI modem as its requests give it, and the watch of it with everything that is asked. -/

namespace Wwan.Modem.Qmi.PowerStatus

open Streams (Result Event Happening History)

/-- The error of a request, with the code of the QMI error it wraps. -/
structure RequestError where
  code : Option UInt16 := none
  text : GoString := []
  deriving DecidableEq

/-- `isRadioUnavailable`: the information is unavailable, or there is no radio, no network or no permission to use it. -/
def isRadioUnavailable (err : RequestError) : Bool :=
  err.code = some 74 || err.code = some 93 || err.code = some 13 || err.code = some 83

/-- `DMSGetOperatingModeResponse`, as far as it tells the power state -/
structure OperatingModeInfo where
  mode : UInt8 := 0
  hardwareRestricted : Bool := false
  hardwareRestrictedKnown : Bool := false
  deriving DecidableEq

/-- `powerStateFromInfo` -/
def powerStateFromInfo (info : OperatingModeInfo) : UInt8 :=
  effectivePowerState info.mode (info.hardwareRestrictedKnown && info.hardwareRestricted)

/-- What the requests of a query return. -/
structure Reads where
  operatingModeInfo : Result OperatingModeInfo RequestError := { value := {} }
  /-- `CardStatus`, with the `simStateFromCardStatus` of it -/
  cardStatus : Result UInt8 RequestError := { value := 0 }
  /-- `NASServingSystem`, with the `networkStatusFromServing` of it -/
  servingSystem : Result NetworkStatus RequestError := { value := {} }
  /-- `SignalInfo`, with the `signalFromInfo` of it -/
  signalInfo : Result Signal RequestError := { value := {} }
  deriving DecidableEq

/-- `Backend.PowerState` -/
def powerState (reads : Reads) : Result UInt8 RequestError :=
  match reads.operatingModeInfo.err with
  | some err => { value := powerStateUnknown, err := some err }
  | none => { value := powerStateFromInfo reads.operatingModeInfo.value }

/-- `Backend.NetworkStatus` -/
def networkStatus (reads : Reads) : Result NetworkStatus RequestError :=
  match reads.servingSystem.err with
  | some err => { value := {}, err := some err }
  | none => { value := reads.servingSystem.value }

/-- `Backend.Signal` -/
def signal (reads : Reads) : Result Signal RequestError :=
  match reads.signalInfo.err with
  | some err => if isRadioUnavailable err then { value := {} } else { value := {}, err := some err }
  | none => { value := reads.signalInfo.value }

/-- The last part of `Backend.Status`, for a modem that is on. -/
def radioStatus (reads : Reads) (status : Status) : Result Status RequestError :=
  -- Without a radio, the network status is the empty one.
  match (networkStatus reads).err.filter fun err => !isRadioUnavailable err with
  | some err => { value := {}, err := some err }
  | none =>
    match (signal reads).err with
    | some err => { value := {}, err := some err }
    | none =>
      { value := { applyNetworkStatus status (networkStatus reads).value with
                   signalQuality := (signal reads).value.quality } }

/-- `Backend.Status` -/
def status (reads : Reads) : Result Status RequestError :=
  match reads.operatingModeInfo.err, reads.cardStatus.err with
  | some err, _ => { value := {}, err := some err }
  | none, some err => { value := {}, err := some err }
  | none, none =>
    let status : Status :=
      { power := powerStateFromInfo reads.operatingModeInfo.value, sim := reads.cardStatus.value }
    if status.power ≠ powerStateOn then { value := applyPowerState status status.power }
    else radioStatus reads status

/-- A result with its error as a text. -/
def texted {α : Type} (result : Result α RequestError) : Result α GoString :=
  { value := result.value, err := result.err.map RequestError.text }

/-- What the watch sees of the requests of a query. -/
def answers (reads : Reads) : QueryAnswers where
  status := texted (status reads)
  powerState := texted (powerState reads)

/-- What happens to a watch of the status. -/
abbrev WatchEvent := Event Reads StatusCase StatusIndications

/-- The history of a watch of the status. -/
abbrev WatchHistory := History Site Reads QueryAnswers StatusLocals Status GoString

/-- `WatchStatus`, with the requests that its queries make -/
def watchStatusHistory : Machine WatchHistory WatchEvent := watchStatus.history answers

/-! What a status should tell, in the words of the radio. -/

/-- A status without power tells nothing of the radio. -/
def Quiet (status : Status) : Prop :=
  status.power ≠ powerStateOn → status.registration = registrationIdle ∧ status.packetService = packetServiceDetached ∧
    status.technology = 0 ∧ status.operatorID = [] ∧ status.operatorName = [] ∧ status.signalQuality = 0

/-- What has happened to a watch of the status. -/
abbrev Log := List (Happening Site Reads Status GoString)

/-- A log tells of a query of the status that gave the result, with what happened before it, during it and after it. -/
structure Queried (log : Log) (party : Streams.Party) (result : Result Status GoString) (start middle rest : Log) :
    Prop where
  query : ∃ site reads, log = start ++ .asked party site :: middle ++ .answered party site reads :: rest ∧
    site ≠ .power ∧ result = (answers reads).status
  /-- It is one query of that goroutine. -/
  same : ∀ x ∈ middle, x.party ≠ some party

/-- What was emitted since is what the polls before had answered last, in their order. -/
def Backlog (before since : Log) : Prop :=
  since.filterMap Happening.result <:+ (before.filterMap Happening.poll).map fun reads => (answers reads).status

end Wwan.Modem.Qmi.PowerStatus
