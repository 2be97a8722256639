import Wwan.Lib.Go

/-! The card's answer to an authentication challenge. -/

namespace Wwan.Sim

/-- The parts of an answer. -/
inductive AKAChunk where
  | res
  | ck
  | ik
  | auts
  deriving DecidableEq

/-- Why an answer cannot be encoded or decoded. -/
inductive AKAError where
  /-- `marshaling AKA response: incomplete success result` -/
  | incompleteSuccess
  /-- `marshaling AKA response: invalid AUTS length %d` -/
  | marshalingAUTSLength (length : Nat)
  /-- `marshaling AKA response: %s exceeds 255 bytes` -/
  | chunkTooLong (name : AKAChunk)
  /-- `marshaling AKA response: empty result` -/
  | emptyResult
  /-- `parsing AKA response: empty payload` -/
  | emptyPayload
  /-- `parsing AKA response: missing %s length in %X` -/
  | missingLength (name : AKAChunk) (original : Bytes)
  /-- `parsing AKA response: truncated %s in %X` -/
  | truncated (name : AKAChunk) (original : Bytes)
  /-- `parsing AKA response: invalid AUTS length %d in %X` -/
  | parsingAUTSLength (length : Nat) (original : Bytes)
  /-- `parsing AKA response: unexpected payload %X` -/
  | unexpectedPayload (original : Bytes)
  deriving DecidableEq

/-- The answer to a challenge. -/
structure Authenticate3GResult where
  res : Bytes := []
  ck : Bytes := []
  ik : Bytes := []
  auts : Bytes := []
  reject : Bool := false
  deriving DecidableEq

/-- `readAKAChunk` -/
def readAKAChunk (data : Bytes) (name : AKAChunk) (original : Bytes) : Go AKAError (Bytes × Bytes) := do
  if data.length = 0 then Go.fail (.missingLength name original)
  else
    let length := (← Go.index data 0).toNat
    let data ← Go.slice data 1 data.length
    if data.length < length then Go.fail (.truncated name original)
    else return (← Go.slice data 0 length, ← Go.slice data length data.length)

/-- `appendAKAChunk` -/
def appendAKAChunk (out : Bytes) (name : AKAChunk) (value : Bytes) : Go AKAError Bytes :=
  if value.length > 0xFF then Go.fail (.chunkTooLong name)
  else .ok (out ++ UInt8.ofNat value.length :: value)

namespace Authenticate3GResult

/-- `Authenticate3GResult.Successful` -/
def successful (r : Authenticate3GResult) : Bool := r.res.length ≠ 0 ∧ r.ck.length ≠ 0 ∧ r.ik.length ≠ 0

/-- `Authenticate3GResult.SynchronizationFailed` -/
def synchronizationFailed (r : Authenticate3GResult) : Bool := r.auts.length ≠ 0

/-- `Authenticate3GResult.AuthenticationRejected` -/
def authenticationRejected (r : Authenticate3GResult) : Bool := r.reject

/-- `Authenticate3GResult.MarshalBinary` -/
def marshalBinary (r : Authenticate3GResult) : Go AKAError Bytes := do
  -- Any of the three values makes it a success, which then needs all of them.
  if r.res.length ≠ 0 ∨ r.ck.length ≠ 0 ∨ r.ik.length ≠ 0 then
    if !r.successful then Go.fail .incompleteSuccess
    else
      let out ← appendAKAChunk [0xDB] .res r.res
      let out ← appendAKAChunk out .ck r.ck
      appendAKAChunk out .ik r.ik
  else if r.auts.length ≠ 0 then
    if r.auts.length ≠ 14 then Go.fail (.marshalingAUTSLength r.auts.length)
    else appendAKAChunk [0xDC] .auts r.auts
  else if r.reject then return [0xDC, 0x00]
  else Go.fail .emptyResult

/-- `Authenticate3GResult.UnmarshalBinary` -/
def unmarshalBinary (data : Bytes) : Go AKAError Authenticate3GResult := do
  if data.length < 1 then Go.fail .emptyPayload
  else
    let payload ← Go.slice data 1 data.length
    let first ← Go.index data 0
    if first = 0xDB then
      let (res, payload) ← readAKAChunk payload .res data
      let (ck, payload) ← readAKAChunk payload .ck data
      let (ik, _) ← readAKAChunk payload .ik data
      return { res, ck, ik }
    else if first = 0xDC then
      -- A bare tag is a rejection.
      if payload.length = 0 then return { reject := true }
      else
        let (auts, _) ← readAKAChunk payload .auts data
        -- So is an empty AUTS.
        if auts.length = 0 then return { reject := true }
        else if auts.length ≠ 14 then Go.fail (.parsingAUTSLength auts.length data)
        else return { auts }
    else Go.fail (.unexpectedPayload data)

end Authenticate3GResult

end Wwan.Sim
