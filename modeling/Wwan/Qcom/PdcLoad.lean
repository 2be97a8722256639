import Wwan.Lib.Dialogue
import Wwan.Qcom.Results

/-! The upload of a device configuration in frames, each confirmed by an indication of its own. -/

namespace Wwan.Qcom.Pdc

open Utf16.ByteOrder (littleEndian)

/-- `pdcConfigIDMax` -/
def pdcConfigIDMax : Nat := 124
/-- `pdcLoadFrameMax` -/
def pdcLoadFrameMax : Nat := 32768
/-- `pdcLoadChunkSize` -/
def pdcLoadChunkSize : Nat := 0x400
/-- `PDCStorageRemote` -/
def pdcStorageRemote : UInt32 := 1

/-- A configuration by its type and ID. -/
structure PDCConfig where
  type : UInt32
  id : Bytes
  deriving DecidableEq

/-- `PDCConfigLoad` -/
structure PDCConfigLoad where
  config : PDCConfig
  data : Bytes
  storage : Option UInt32 := none
  deriving DecidableEq

/-! The frames. -/

/-- `validatePDCConfigurationType`, with the types of platform, software and database. -/
def validatePDCConfigurationType (configType : UInt32) : Go MessageError Unit :=
  Go.failIf (configType ∉ [0x00, 0x01, 0x10]) (.format "configuration type 0x%X is unsupported" [configType.toNat])

/-- `validatePDCRequiredConfig` -/
def validatePDCRequiredConfig (config : PDCConfig) : Go MessageError Unit := do
  validatePDCConfigurationType config.type
  Go.failIf (config.id = []) (.format "configuration ID is empty" [])
  Go.failIf (config.id.length > pdcConfigIDMax)
    (.format "configuration ID length %d exceeds %d" [config.id.length, pdcConfigIDMax])

/-- `validatePDCStorage` -/
def validatePDCStorage (storage : UInt32) : Go MessageError Unit :=
  Go.failIf (storage > pdcStorageRemote) (.format "configuration storage %d is out of range" [storage.toNat])

/-- The bytes of `PDCConfig.MarshalBinary` -/
def PDCConfig.bytes (config : PDCConfig) : Bytes :=
  LittleEndian.putUint32 config.type ++ UInt8.ofNat config.id.length :: config.id

/-- `PDCConfig.MarshalBinary` -/
def PDCConfig.marshalBinary (config : PDCConfig) : Go MessageError Bytes := do
  validatePDCConfigurationType config.type
  Go.failIf (config.id.length > pdcConfigIDMax)
    (.format "configuration ID length %d exceeds %d" [config.id.length, pdcConfigIDMax])
  return config.bytes

/-- `encodePDCLoadFrame` -/
def encodePDCLoadFrame (config : PDCConfig) (totalSize : UInt32) (chunk : Bytes) : Go MessageError Bytes := do
  validatePDCRequiredConfig config
  Go.failIf (totalSize = 0) (.format "total configuration size is zero" [])
  Go.failIf (chunk = []) (.format "configuration frame is empty" [])
  Go.failIf (chunk.length > pdcLoadFrameMax)
    (.format "configuration frame length %d exceeds %d" [chunk.length, pdcLoadFrameMax])
  Go.failIf (chunk.length > totalSize.toNat)
    (.format "configuration frame length %d exceeds total size %d" [chunk.length, totalSize.toNat])
  let value ← config.marshalBinary
  return value ++ LittleEndian.putUint32 totalSize ++ littleEndian.putUint16 (UInt16.ofNat chunk.length) ++ chunk

/-- The TLVs of `PDCLoadConfigRequest.Request`, where the request has a token. -/
def loadConfigRequest (config : PDCConfig) (totalSize : UInt32) (chunk : Bytes) (token : UInt32)
    (storage : Option UInt32) : Go MessageError (List TLV) := do
  let context := "encoding QMI PDC configuration frame"
  let value ← Go.mapError (.wrap context) (encodePDCLoadFrame config totalSize chunk)
  let tlvs := [TLV.bytes 0x01 value, TLV.uint 0x10 (.uint32 token)]
  match storage with
  | none => return tlvs
  | some storage =>
    Go.mapError (.wrap context) (validatePDCStorage storage)
    return tlvs ++ [TLV.uint 0x11 (.uint32 storage)]

/-! The answers. -/

/-- `decodePDCBool` -/
def decodePDCBool (value : Bytes) : Go MessageError Bool :=
  match value with
  | [byte] => do
    Go.failIf (byte > 1) (.format "parsing QMI PDC boolean: value %d, want 0 or 1" [byte.toNat])
    return byte = 1
  | _ => Go.fail (.format "parsing QMI PDC boolean: TLV length %d, want 1" [value.length])

/-- `decodePDCUint32` -/
def decodePDCUint32 (value : Bytes) : Go MessageError UInt32 := do
  Go.failIf (value.length ≠ 4) (.format "uint32 TLV length %d, want 4" [value.length])
  return LittleEndian.uint32At value 0

/-- The value of an element that may be missing. -/
def optionalTLV {α : Type} (tlvs : List TLV) (kind : UInt8) (decode : Bytes → Go MessageError α) :
    Go MessageError (Option α) :=
  match TLVs.value tlvs kind with
  | none => return none
  | some value => return some (← decode value)

/-- `decodePDCIndicationToken` -/
def decodePDCIndicationToken (tlvs : List TLV) : Go MessageError (Option UInt32) :=
  optionalTLV tlvs 0x10 fun value => do
    Go.failIf (value.length ≠ 4) (.format "parsing QMI PDC indication: token TLV length %d, want 4" [value.length])
    return LittleEndian.uint32At value 0

/-- `PDCIndicationResult`, with the fields that the source marks as known or not. -/
structure PDCIndicationResult where
  error : QMIError
  token : Option UInt32
  deriving DecidableEq

/-- `PDCIndicationResult.UnmarshalTLVs` -/
def PDCIndicationResult.unmarshalTLVs (tlvs : List TLV) : Go MessageError PDCIndicationResult :=
  match TLVs.value tlvs 0x01 with
  | none => Go.fail (.format "parsing QMI PDC indication: result TLV missing" [])
  | some [first, second] => return { error := littleEndian.uint16 first second, token := ← decodePDCIndicationToken tlvs }
  | some value => Go.fail (.format "parsing QMI PDC indication: result TLV length %d, want 2" [value.length])

/-- `PDCLoadConfigIndication` -/
structure PDCLoadConfigIndication where
  result : PDCIndicationResult
  received : Option UInt32
  remaining : Option UInt32
  frameReset : Option Bool
  deriving DecidableEq

/-- `PDCLoadConfigIndication.UnmarshalTLVs` -/
def PDCLoadConfigIndication.unmarshalTLVs (tlvs : List TLV) : Go MessageError PDCLoadConfigIndication := do
  let result ← PDCIndicationResult.unmarshalTLVs tlvs
  let received ← optionalTLV tlvs 0x11 decodePDCUint32
  let remaining ← optionalTLV tlvs 0x12 decodePDCUint32
  let frameReset ← optionalTLV tlvs 0x13 decodePDCBool
  return { result := result, received := received, remaining := remaining, frameReset := frameReset }

/-- `PDCLoadConfigResponse.UnmarshalTLVs` -/
def loadConfigResponse (tlvs : List TLV) : Go MessageError (Option Bool) := optionalTLV tlvs 0x10 decodePDCBool

/-! The upload. -/

/-- What the upload asks for. -/
inductive Request where
  /-- The transport delivers indications. -/
  | indicationTransport
  /-- A client ID of the service. -/
  | serviceClientID
  /-- The subscription to the indications. -/
  | subscribe
  /-- A request with a frame. -/
  | load (tlvs : List TLV)
  /-- The next indication, or the end of the context or of the indications. -/
  | next
  deriving DecidableEq

/-- How it is answered. -/
inductive Answer where
  | failed
  | done
  | response (tlvs : List TLV)
  | indication (tlvs : List TLV)
  | closed
  deriving DecidableEq

/-- The errors of an upload. -/
inductive LoadError where
  | failed
  | message (error : MessageError)
  | result (error : ResultError)
  | text (text : String) (args : List Nat)
  /-- The upload still waits for an indication. -/
  | waiting
  deriving DecidableEq

/-- A call of the upload, which keeps the last token. -/
abbrev Loading (α : Type) := Call (Dialogue Request Answer UInt32) LoadError α

open Dialogue (ask getState setState)

/-- A check or a parser that asks for nothing. -/
def checked {α : Type} (result : Go MessageError α) : Loading α :=
  match result with
  | .ok value => return value
  | .error (.err err) => throw (.message err)
  | .error .outOfRange => throw .failed

/-- A step in front of the upload. -/
def prepare (request : Request) : Loading Unit := do
  match ← ask request with
  | .done => return ()
  | .failed | .response _ | .indication _ | .closed => throw .failed

/-- `nextPDCTokenLocked`, in which the token wraps and skips zero. -/
def nextPDCTokenLocked : Loading UInt32 := do
  let token := (← getState) + 1
  let token := if token = 0 then token + 1 else token
  setState fun _ => token
  return token

/-- `requestServiceWithTimeout` -/
def requestService (tlvs : List TLV) : Loading (List TLV) := do
  match ← ask (.load tlvs) with
  | .response response => return response
  | .failed | .done | .indication _ | .closed => throw .failed

/-- `waitPDCIndication`, of which some rounds are observed. -/
def waitPDCIndication (token : UInt32) : Nat → Loading (List TLV)
  | 0 => throw .waiting
  | rounds + 1 => do
    match ← ask .next with
    | .indication tlvs =>
      let gotToken ← checked (decodePDCIndicationToken tlvs)
      if gotToken.any (· ≠ token) then waitPDCIndication token rounds else return tlvs
    | .closed => throw (.text "QMI PDC indication stream closed" [])
    | .failed | .done | .response _ => throw .failed

/-- What an indication has to say about a chunk. -/
def checkIndication (indication : PDCLoadConfigIndication) (length finish : Nat) : Loading Unit := do
  if indication.result.error ≠ 0 then throw (.result (.qmi indication.result.error))
  if indication.frameReset = some true then throw (.text "modem reset accumulated configuration frame data" [])
  match indication.remaining with
  | none => throw (.text "remaining configuration size is missing" [])
  | some remaining =>
    let expectedRemaining := UInt32.ofNat (length - finish)
    if remaining ≠ expectedRemaining then
      throw (.text "remaining configuration size %d, want %d" [remaining.toNat, expectedRemaining.toNat])
    match indication.received with
    | none => return ()
    | some received =>
      if received ≠ UInt32.ofNat finish then
        throw (.text "received configuration size %d, want %d" [received.toNat, finish])

/-- One round of the loop, which uploads the chunk between two offsets. -/
def loadChunk (load : PDCConfigLoad) (offset finish observed : Nat) : Loading Unit := do
  let token ← nextPDCTokenLocked
  let chunk := (load.data.take finish).drop offset
  let tlvs ← checked (loadConfigRequest load.config (UInt32.ofNat load.data.length) chunk token load.storage)
  let response ← requestService tlvs
  match resultError response with
  | some err => throw (.result err)
  | none =>
    let frameReset ← checked (loadConfigResponse response)
    if frameReset = some true then throw (.text "modem reset accumulated configuration frame data" [])
    let indication ← waitPDCIndication token observed
    checkIndication (← checked (PDCLoadConfigIndication.unmarshalTLVs indication)) load.data.length finish

/-- The loop over the chunks, with the rounds that are still to come. -/
def loadChunks (load : PDCConfigLoad) (observed : Nat) : Nat → Nat → Loading Unit
  | 0, _ => return ()
  | rounds + 1, offset => do
    if offset < load.data.length then
      let finish := min (offset + pdcLoadChunkSize) load.data.length
      loadChunk load offset finish observed
      loadChunks load observed rounds finish

/-- `pdcLoadConfiguration`, where the indications that are looked at for each chunk are limited by the observer. -/
def pdcLoadConfiguration (load : PDCConfigLoad) (observed : Nat) : Loading Unit := do
  checked (validatePDCRequiredConfig load.config)
  if load.data = [] then throw (.text "configuration data is empty" [])
  if load.data.length > 0xFFFFFFFF then
    throw (.text "configuration data length %d exceeds uint32" [load.data.length])
  match load.storage with
  | none => pure ()
  | some storage => checked (validatePDCStorage storage)
  prepare .indicationTransport
  prepare .serviceClientID
  prepare .subscribe
  -- Every round takes at least one byte, so that the loop is over before the rounds are.
  loadChunks load observed (load.data.length + 1) 0

end Wwan.Qcom.Pdc
