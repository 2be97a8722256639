import Wwan.Lib.Chan
import Wwan.Lib.Machine
import Wwan.Qcom.Results

/-! The incremental network scan, whose goroutine streams updates until the scan ends or is given up. -/

namespace Wwan.Qcom.Nas

open Utf16.ByteOrder (littleEndian)

/-! The updates. -/

/-- How a scan gets on. -/
abbrev Status := UInt32

/-- `NASIncrementalNetworkScanComplete` -/
def Status.complete : Status := 0
/-- `NASIncrementalNetworkScanPartial` -/
def Status.partially : Status := 1
/-- `NASIncrementalNetworkScanPartialPeriodic` -/
def Status.partialPeriodic : Status := 5

/-- `NASPLMN` -/
structure PLMN where
  mcc : UInt16
  mnc : UInt16
  description : GoString
  mncThreeDigits : Bool
  mncThreeDigitsKnown : Bool
  deriving DecidableEq

/-- `NASVisibleNetwork`, without the source of its name that no update has. -/
structure VisibleNetwork where
  plmn : PLMN
  status : UInt8
  radioInterfaces : List UInt8
  deriving DecidableEq

/-- `NASIncrementalNetworkScanUpdate` -/
structure Update where
  status : Status
  networks : List VisibleNetwork := []
  deriving DecidableEq

/-- `nasMaxVisibleNetworks` -/
def nasMaxVisibleNetworks : Nat := 40

/-- The error of a parser of updates. -/
def parsing (text : String) (args : List Nat) : MessageError :=
  .wrap "parsing QMI NAS incremental network scan" (.format text args)

/-- The loop over the networks of a list. -/
def decodeNetworks : Nat → Nat → Bytes → Go MessageError (List VisibleNetwork)
  -- The list ends with its last network.
  | _, 0, rest => do
    Go.failIf (rest ≠ []) (parsing "network list has %d trailing bytes" [rest.length])
    return []
  | index, count + 1, mcc₀ :: mcc₁ :: mnc₀ :: mnc₁ :: status :: radio :: digits :: length :: rest => do
    Go.failIf (rest.length < length.toNat) (parsing "network %d description is truncated" [index])
    let network : VisibleNetwork := {
      plmn := {
        mcc := littleEndian.uint16 mcc₀ mcc₁
        mnc := littleEndian.uint16 mnc₀ mnc₁
        description := rest.take length.toNat
        mncThreeDigits := digits ≠ 0
        mncThreeDigitsKnown := true }
      status := status
      radioInterfaces := [radio] }
    return network :: (← decodeNetworks (index + 1) count (rest.drop length.toNat))
  | index, _ + 1, _ => Go.fail (parsing "network %d is truncated" [index])

/-- `decodeNASIncrementalNetworks` -/
def decodeNASIncrementalNetworks : Bytes → Go MessageError (List VisibleNetwork)
  | first :: second :: rest => do
    let count := (littleEndian.uint16 first second).toNat
    Go.failIf (count > nasMaxVisibleNetworks) (parsing "network count %d exceeds %d" [count, nasMaxVisibleNetworks])
    decodeNetworks 0 count rest
  | _ => Go.fail (parsing "network count is truncated" [])

/-- `NASIncrementalNetworkScanUpdate.UnmarshalTLVs` -/
def Update.unmarshalTLVs (tlvs : List TLV) : Go MessageError Update :=
  match TLVs.value tlvs 0x01 with
  | none => Go.fail (parsing "status TLV missing" [])
  | some value => do
    Go.failIf (value.length ≠ 4) (parsing "status TLV length %d, want 4" [value.length])
    let status := LittleEndian.uint32At value 0
    -- A report may come without networks.
    match TLVs.value tlvs 0x10 with
    | none => return { status := status }
    | some value => return { status := status, networks := ← decodeNASIncrementalNetworks value }

/-! The stream. -/

/-- Where the goroutine of the stream is. -/
inductive Phase where
  /-- It waits for an indication. -/
  | reading
  /-- It waits for room in the stream, or for the context to end. -/
  | sending (update : Update)
  /-- It has left the loop, and runs the deferred functions. -/
  | leaving (terminal : Bool)
  /-- It has come to the release of the client ID. -/
  | releasing
  | closed
  deriving DecidableEq

/-- A scan with its stream. -/
structure Scan where
  /-- `targetTransactionID` -/
  transactionID : UInt16
  /-- Every indication that was ever put into the channel of the transport, and those that wait there. -/
  arrived : List (List TLV) := []
  waiting : List (List TLV) := []
  /-- The transport has closed its channel. -/
  ended : Bool := false
  /-- The context of the caller has ended, and `watchCtx` with it. -/
  cancelled : Bool := false
  out : Chan Update := Chan.make 8
  phase : Phase := .reading
  /-- The transactions for which an abort was sent. -/
  aborts : List UInt16 := []

/-- What happens to a scan. -/
inductive Event where
  /-- The transport has an indication. -/
  | arrive (tlvs : List TLV)
  /-- The transport has no more indications. -/
  | endIndications
  /-- The caller cancels the context. -/
  | cancel
  /-- The caller takes an update. -/
  | receive
  /-- The goroutine takes an indication, or finds that there are no more. -/
  | read
  | send
  /-- The goroutine finds that the context has ended. -/
  | giveUp
  /-- The deferred function that aborts the scan runs, and a request that it makes is sent or refused. -/
  | abort (sent : Bool)
  /-- The client ID is released and the stream closed. -/
  | close
  deriving DecidableEq

/-- What one event does. -/
def step (s : Scan) : Event → Option Scan
  | .arrive tlvs =>
    if s.ended then none else some { s with arrived := s.arrived ++ [tlvs], waiting := s.waiting ++ [tlvs] }
  | .endIndications => some { s with ended := true }
  | .cancel => some { s with cancelled := true }
  | .receive => if s.out.buffer = [] then none else some { s with out := s.out.pop }
  | .read =>
    match s.phase, s.waiting with
    | .reading, tlvs :: rest =>
      match Update.unmarshalTLVs tlvs with
      | .ok update => some { s with waiting := rest, phase := .sending update }
      | .error _ => some { s with waiting := rest, phase := .leaving false }
    | .reading, [] => if s.ended then some { s with phase := .leaving false } else none
    | _, _ => none
  | .send =>
    match s.phase with
    | .sending update =>
      (s.out.send? update).map fun out =>
        { s with out := out, phase := if update.status ≠ Status.partially then .leaving true else .reading }
    | .reading | .leaving _ | .releasing | .closed => none
  | .giveUp =>
    match s.phase with
    | .sending _ => if s.cancelled then some { s with phase := .leaving false } else none
    | .reading | .leaving _ | .releasing | .closed => none
  | .abort sent =>
    match s.phase with
    | .leaving terminal =>
      some { s with
        aborts := if !terminal && sent then s.aborts ++ [s.transactionID] else s.aborts
        phase := .releasing }
    | .reading | .sending _ | .releasing | .closed => none
  | .close =>
    match s.phase with
    -- The subscription is cancelled too, of which nobody takes notice any more.
    | .releasing => some { s with phase := .closed, out := s.out.close }
    | .reading | .sending _ | .leaving _ | .closed => none

/-! The start of a scan. -/

/-- How the requests that start a scan go. -/
structure StartAnswers where
  /-- The transport delivers indications. -/
  indications : Bool
  /-- A client ID was found or allocated. -/
  clientID : Bool
  /-- The transport has accepted the subscription. -/
  subscribed : Bool
  /-- The transaction of the request, with the response if there is one. -/
  transactionID : UInt16
  response : Option (List TLV)

/-- The errors of the start of a scan. -/
inductive StartError where
  | message (error : MessageError)
  | failed
  | result (error : ResultError)
  deriving DecidableEq

/-- `NASNetworkScanCellSearch` -/
def nasNetworkScanCellSearch : UInt32 := 4

/-- `NASIncrementalNetworkScanConfig.MarshalTLVs` -/
def marshalTLVs (scanType : Option UInt32) : Except StartError (List TLV) :=
  match scanType with
  | none => .ok []
  | some kind =>
    if kind > nasNetworkScanCellSearch then
      .error (.message (.format "encoding QMI NAS incremental network scan: scan type %d is out of range" [kind.toNat]))
    else .ok [TLV.uint 0x10 (.uint8 kind.toUInt8)]

/-- `IncrementalNetworkScan`, which returns the scan with the stream when the modem has started it. -/
def incrementalNetworkScan (scanType : Option UInt32) (answers : StartAnswers) : Except StartError Scan := do
  let _ ← marshalTLVs scanType
  if !answers.indications || !answers.clientID || !answers.subscribed then throw .failed
  match answers.response with
  | none => throw .failed
  | some tlvs =>
    match resultError tlvs with
    | some err => throw (.result err)
    | none => return { transactionID := answers.transactionID }

/-- The runs of a scan. -/
def machine (scan : Scan) : Machine Scan Event where
  init := scan
  step := step

end Wwan.Qcom.Nas
