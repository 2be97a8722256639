import Wwan.Lib.Go
import Wwan.Lib.Machine

/-! The cached metadata of the SIM card in both backends. -/

namespace Wwan.Modem.SimMetadata

/-- What the files of a card decode to. -/
structure Card where
  iccid : GoString
  imsi : GoString
  mcc : GoString
  mnc : GoString
  gid1 : GoString
  spn : GoString
  deriving DecidableEq

/-- How the reads of one card load went. -/
structure LoadAnswers where
  /-- The files without which there is no card could be read. -/
  mandatory : Bool
  gid1 : Bool
  spn : Bool
  deriving DecidableEq

/-- Load the card in the slot, where an optional file that cannot be read is left empty. -/
def loadCard (slot : Option Card) (answers : LoadAnswers) : Option Card :=
  match slot with
  | none => none
  | some card =>
    if answers.mandatory then
      some { card with
        gid1 := if answers.gid1 then card.gid1 else []
        spn := if answers.spn then card.spn else [] }
    else none

/-- A goroutine that calls `simMetadata`. -/
abbrev CallerID := Nat

/-- How far a call is, with the ICCID it was given. -/
inductive Stage (μ : Type) where
  | idle
  /-- It is about to look at the cache without the right to load. -/
  | checking (iccid : GoString)
  /-- It waits for the right to load. -/
  | waiting (iccid : GoString)
  /-- It has the right to load and is about to look at the cache. -/
  | holding (iccid : GoString)
  | loading (iccid : GoString)
  /-- The card has been loaded, or could not be. -/
  | loaded (iccid : GoString) (metadata : Option μ)
  deriving DecidableEq

/-- The cache of a backend with its callers and the slot. -/
structure State (μ : Type) where
  slot : Option Card := none
  callers : CallerID → Stage μ := fun _ => .idle
  /-- The caller with the right to load. -/
  loader : Option CallerID := none
  key : GoString := []
  metadata : μ
  /-- Every card that was loaded, with the metadata that were read from it. -/
  reads : List (Card × μ) := []
  /-- What calls have returned, with the ICCID they were given. -/
  returned : List (GoString × μ) := []

/-- What can happen next. -/
inductive Event where
  /-- The card in the slot is removed or changed. -/
  | swap (slot : Option Card)
  | call (caller : CallerID) (iccid : GoString)
  /-- A caller goes on. -/
  | go (caller : CallerID)
  /-- The context of a caller ends while it waits. -/
  | cancel (caller : CallerID)
  /-- A caller loads the card in the slot. -/
  | load (caller : CallerID) (answers : LoadAnswers)
  deriving DecidableEq

namespace State

variable {μ : Type}

/-- A caller moves on. -/
def enter (s : State μ) (caller : CallerID) (stage : Stage μ) : State μ :=
  { s with callers := Function.update s.callers caller stage }

/-- A call returns. -/
def ret (s : State μ) (caller : CallerID) (iccid : GoString) (metadata : μ) : State μ :=
  { s.enter caller .idle with returned := s.returned ++ [(iccid, metadata)] }

/-- A call gives back the right to load and returns. -/
def unlockRet (s : State μ) (caller : CallerID) (iccid : GoString) (metadata : μ) : State μ :=
  { s.ret caller iccid metadata with loader := none }

/-- Load the card in the slot and note what was read from it. -/
def load (read : Card → μ) (s : State μ) (caller : CallerID) (iccid : GoString) (answers : LoadAnswers) : State μ :=
  match s.slot, loadCard s.slot answers with
  | some card, some loaded =>
    { s.enter caller (.loaded iccid (some (read loaded))) with reads := s.reads ++ [(card, read loaded)] }
  | _, _ => s.enter caller (.loaded iccid none)

/-- Take the right to load if nobody has it. -/
def lock (s : State μ) (caller : CallerID) (iccid : GoString) : Option (State μ) :=
  if s.loader = none then some { s.enter caller (.holding iccid) with loader := some caller } else none

end State

end SimMetadata

namespace Qmi

open SimMetadata

/-- The fields of `SIMInfo` that the metadata have. -/
structure SIMMetadata where
  iccid : GoString := []
  imsi : GoString := []
  operatorID : GoString := []
  operatorName : GoString := []
  gid1 : GoString := []
  spn : GoString := []
  deriving DecidableEq

/-- The metadata of a loaded card. -/
def metadataOf (card : Card) : SIMMetadata :=
  { iccid := card.iccid
    imsi := card.imsi
    operatorID := card.mcc ++ card.mnc
    operatorName := card.spn
    gid1 := card.gid1
    spn := card.spn }

/-- The cached metadata of an ICCID. -/
def cachedSIMMetadata (s : State SIMMetadata) (iccid : GoString) : Option SIMMetadata :=
  if iccid = [] then none else if s.key ≠ iccid then none else some s.metadata

/-- What a caller that goes on does. -/
def simMetadataGo (s : State SIMMetadata) (caller : CallerID) : Option (State SIMMetadata) :=
  match s.callers caller with
  | .checking iccid =>
    -- The cache is looked at before waiting for the lock.
    match cachedSIMMetadata s iccid with
    | some metadata => some (s.ret caller iccid metadata)
    | none => some (s.enter caller (.waiting iccid))
  | .waiting iccid => s.lock caller iccid
  | .holding iccid =>
    -- Another caller may have filled it in the meantime.
    match cachedSIMMetadata s iccid with
    | some metadata => some (s.unlockRet caller iccid metadata)
    | none => some (s.enter caller (.loading iccid))
  | .loaded iccid loaded =>
    let metadata := loaded.getD {}
    -- What was read has to be of the card that was asked about.
    if metadata.iccid = [] ∨ metadata.iccid ≠ iccid then some (s.unlockRet caller iccid {})
    else some ({ s with key := iccid, metadata }.unlockRet caller iccid metadata)
  | _ => none

/-- One step of the callers and the slot. -/
def simMetadataStep (s : State SIMMetadata) : Event → Option (State SIMMetadata)
  | .swap slot => some { s with slot }
  | .call caller iccid =>
    match s.callers caller with
    | .idle => some (s.enter caller (.checking iccid))
    | _ => none
  | .go caller => simMetadataGo s caller
  | .cancel caller =>
    match s.callers caller with
    | .waiting iccid => some (s.ret caller iccid {})
    | _ => none
  | .load caller answers =>
    match s.callers caller with
    | .loading iccid => some (s.load metadataOf caller iccid answers)
    | _ => none

/-- The metadata of the QMI backend. -/
def simMetadata : Machine (State SIMMetadata) Event where
  init := { metadata := {} }
  step := simMetadataStep

end Qmi

namespace Mbim

open SimMetadata

/-- The metadata that are read from the files of the card. -/
structure SimFileMetadata where
  operatorID : GoString := []
  operatorName : GoString := []
  gid1 : GoString := []
  spn : GoString := []
  deriving DecidableEq

/-- The metadata of a loaded card. -/
def metadataOf (card : Card) : SimFileMetadata :=
  { operatorID := card.mcc ++ card.mnc
    operatorName := card.spn
    gid1 := card.gid1
    spn := card.spn }

/-- What a caller that goes on does. -/
def simMetadataGo (s : State SimFileMetadata) (caller : CallerID) : Option (State SimFileMetadata) :=
  match s.callers caller with
  | .waiting iccid => s.lock caller iccid
  | .holding iccid =>
    -- The cache is only looked at under the lock.
    if iccid ≠ [] ∧ s.key = iccid then some (s.unlockRet caller iccid s.metadata)
    else some (s.enter caller (.loading iccid))
  | .loaded iccid none => some (s.unlockRet caller iccid {})
  -- The ICCID of what was read is not compared.
  | .loaded iccid (some metadata) => some ({ s with key := iccid, metadata }.unlockRet caller iccid metadata)
  | _ => none

/-- One step of the callers and the slot, where the mutex is waited for whatever becomes of the context. -/
def simMetadataStep (s : State SimFileMetadata) : Event → Option (State SimFileMetadata)
  | .swap slot => some { s with slot }
  | .call caller iccid =>
    match s.callers caller with
    | .idle => some (s.enter caller (.waiting iccid))
    | _ => none
  | .go caller => simMetadataGo s caller
  | .cancel _ => none
  | .load caller answers =>
    match s.callers caller with
    | .loading iccid => some (s.load metadataOf caller iccid answers)
    | _ => none

/-- The metadata of the MBIM backend. -/
def simMetadata : Machine (State SimFileMetadata) Event where
  init := { metadata := {} }
  step := simMetadataStep

end Mbim

end Wwan.Modem
