import Wwan.Modem.SystemSelection

/-! The modes of a QMI modem: the technologies that are allowed, and the one that is preferred. -/

namespace Wwan.Modem.Qmi.Modes

open SystemSelection

/-- The technologies that are allowed, and the one among them that is preferred, or none. -/
structure Mode where
  allowed : Technology
  preferred : Technology := 0
  deriving DecidableEq

/-- `modeFamilies` -/
def modeFamilies : List Technology := [technologyGSM, technologyUMTS, technologyLTE, modeNR5G]

/-- The errors of reading and selecting modes. -/
inductive Error where
  /-- `ErrNotSupported` -/
  | notSupported
  /-- `errModePreferenceUnavailable`: "mode preference is unavailable" -/
  | preferenceUnavailable
  /-- "reading modes: current mode allowed=%#x preferred=%#x is not supported" -/
  | currentNotSupported (current : Mode)
  /-- "setting modes: preferred technology %#x is unavailable in acquisition order" -/
  | preferredUnavailable (preferred : Technology)
  /-- "setting modes: preferred technology %#x is unsupported: %w" -/
  | preferredUnsupported (preferred : Technology)
  deriving DecidableEq

/-- `technologyFromDMSRadios` -/
def technologyFromDMSRadios (radios : List UInt8) : Technology :=
  radios.foldl (fun result radio =>
    if radio = 0x04 then result ||| technologyGSM
    else if radio = 0x05 then result ||| technologyUMTS
    else if radio = 0x08 then result ||| technologyLTE
    else if radio = 0x0A then result ||| (technologyNR5GNSA ||| technologyNR5GSA)
    else result) 0

/-- `technologyFromNASRadio` -/
def technologyFromNASRadio (radio : UInt8) : Technology :=
  if radio = 4 then technologyGSM
  else if radio = 5 then technologyUMTS
  else if radio = 8 then technologyLTE
  else if radio = 10 then technologyLTECatM
  else if radio = 11 then technologyLTENB
  else if radio = 12 then technologyNR5GNSA ||| technologyNR5GSA
  else 0

/-- `technologyFromNASRadios` -/
def technologyFromNASRadios (radios : List UInt8) : Technology :=
  radios.foldl (fun result radio => result ||| technologyFromNASRadio radio) 0

/-- Some bits of a mask, which are set under a condition. -/
def flag {α : Type} [OrOp α] (result : α) (set : Bool) (bits : α) : α := if set then result ||| bits else result

/-- `canonicalModeTechnology` -/
def canonicalModeTechnology (technology : Technology) : Technology :=
  let result := flag 0 (technology &&& technologyGSM ≠ 0) technologyGSM
  let result := flag result (technology &&& technologyUMTS ≠ 0) technologyUMTS
  let result :=
    flag result (technology &&& (technologyLTE ||| technologyLTECatM ||| technologyLTENB) ≠ 0) technologyLTE
  flag result (technology &&& modeNR5G ≠ 0) modeNR5G

/-- `technologyFromModePreference` -/
def technologyFromModePreference (preference : UInt16) : Technology :=
  let result := flag 0 (preference &&& 0x04 ≠ 0) technologyGSM
  let result := flag result (preference &&& 0x08 ≠ 0) technologyUMTS
  let result := flag result (preference &&& 0x10 ≠ 0) technologyLTE
  flag result (preference &&& 0x40 ≠ 0) modeNR5G

/-- `modePreferenceFromTechnology` -/
def modePreferenceFromTechnology (technology : Technology) : UInt16 :=
  let technology := canonicalModeTechnology technology
  let result := flag 0 (technology &&& technologyGSM ≠ 0) 0x04
  let result := flag result (technology &&& technologyUMTS ≠ 0) 0x08
  let result := flag result (technology &&& technologyLTE ≠ 0) 0x10
  flag result (technology &&& modeNR5G ≠ 0) 0x40

/-- `enabledModeFamilies` -/
def enabledModeFamilies (technology : Technology) : List Technology :=
  let technology := canonicalModeTechnology technology
  modeFamilies.filter fun family => technology &&& family = family

/-- The families that a mask of them allows. -/
def allowedByMask (mask : Nat) : Technology :=
  modeFamilies.zipIdx.foldl (fun allowed (family, index) => flag allowed (mask &&& (1 <<< index) ≠ 0) family) 0

/-- The first loop of `modeCombinations`: all technologies, and then the other sets of them. -/
def allowedModes (all : Technology) : List Technology :=
  all :: ((List.range' 1 15).map allowedByMask).filter fun allowed => !(allowed = all ∨ allowed &&& ~~~all ≠ 0)

/-- The body of the second loop of `modeCombinations`: the modes with these technologies. -/
def modesAllowing (acquisitionFamilies : Technology) (gwAcquisition : Bool) (allowed : Technology) : List Mode :=
  let enabled := enabledModeFamilies allowed
  if enabled.length = 1 then [{ allowed }]
  else
    let preferred := enabled.filter fun family => acquisitionFamilies &&& family = family
    if preferred ≠ [] then preferred.map fun preferred => { allowed, preferred }
    else if gwAcquisition ∧ allowed = technologyGSM ||| technologyUMTS then
      [{ allowed }, { allowed, preferred := technologyGSM }, { allowed, preferred := technologyUMTS }]
    else [{ allowed }]

/-- `modeCombinations` -/
def modeCombinations (all acquisitionFamilies : Technology) (gwAcquisition : Bool) : List Mode :=
  let all := canonicalModeTechnology all
  if all = 0 then [] else (allowedModes all).flatMap (modesAllowing acquisitionFamilies gwAcquisition)

/-- The acquisition order, if it is known and not empty. -/
def acquisitionOrder (preference : Preference) : Option (List UInt8) :=
  preference.acquisitionOrder.filter fun order => order.length > 0

/-- The family of a radio interface. -/
def family (radio : UInt8) : Technology := canonicalModeTechnology (technologyFromNASRadio radio)

/-- `preferredMode` -/
def preferredMode (preference : Preference) (allowed : Technology) : Technology :=
  match acquisitionOrder preference with
  | some order =>
    ((order.map family).find? fun candidate =>
      candidate ≠ 0 ∧ candidate ≠ allowed ∧ candidate &&& ~~~allowed = 0).getD 0
  | none =>
    match preference.gwAcquisitionOrder with
    | some order =>
      if allowed ≠ technologyGSM ||| technologyUMTS then 0
      else if order = 1 then technologyGSM
      else if order = 2 then technologyUMTS
      else 0
    | none => 0

/-- `preferredAcquisitionOrder` -/
def preferredAcquisitionOrder (order : List UInt8) (preferred : Technology) : Option (List UInt8) :=
  let result := order.filter fun radio => family radio = preferred
  if result.length = 0 then none else some (result ++ order.filter fun radio => family radio ≠ preferred)

/-- `modeState` -/
structure ModeState where
  supported : List Mode
  current : Mode
  preference : Preference
  deriving DecidableEq

/-- The families of the acquisition order, as `Backend.readModeState` has them. -/
def acquisitionFamilies (preference : Preference) (all : Technology) : Technology :=
  match acquisitionOrder preference with
  | some order => canonicalModeTechnology (technologyFromNASRadios order) &&& all
  | none => 0

/-- The modes that `Backend.readModeState` offers. -/
def supportedModes (preference : Preference) (all : Technology) : List Mode :=
  modeCombinations all (acquisitionFamilies preference all)
    ((acquisitionOrder preference).isNone && preference.gwAcquisitionOrder.isSome)

/-- The last part of `Backend.readModeState`, which knows the technologies that are allowed. -/
def modeState (all allowed : Technology) (preference : Preference) : Except Error ModeState :=
  let current : Mode := { allowed, preferred := preferredMode preference allowed }
  let supported := supportedModes preference all
  if current ∉ supported then .error (.currentNotSupported current) else .ok { supported, current, preference }

/-- `Backend.readModeState`, of a modem with the radio interfaces and the preference -/
def readModeState (radioInterfaces : List UInt8) (preference : Preference) : Except Error ModeState :=
  let all := canonicalModeTechnology (technologyFromDMSRadios radioInterfaces)
  if all = 0 then .error .notSupported
  else
    match preference.modePreference with
    | some mode =>
      let allowed := canonicalModeTechnology (technologyFromModePreference mode) &&& all
      if allowed = 0 then .error .preferenceUnavailable else modeState all allowed preference
    | none =>
      if (enabledModeFamilies all).length > 1 then .error .preferenceUnavailable else modeState all all preference

/-- The order of GSM and WCDMA that `modeSelectionConfig` writes: automatic, GSM first or WCDMA first. -/
def gwOrder (preferred : Technology) : UInt32 :=
  if preferred = technologyGSM then 1 else if preferred = technologyUMTS then 2 else 0

/-- The first part of `modeSelectionConfig`: the acquisition order for the technology that is preferred. -/
def selectPreferred (mode : Mode) (preference : Preference) (config : Config) : Except Error Config :=
  if mode.preferred ≠ 0 then
    match acquisitionOrder preference with
    | some order =>
      match preferredAcquisitionOrder order mode.preferred with
      | some order => .ok { config with acquisitionOrder := some order }
      | none => .error (.preferredUnavailable mode.preferred)
    | none =>
      if mode.allowed ≠ technologyGSM ||| technologyUMTS ∨ preference.gwAcquisitionOrder.isNone then
        .error (.preferredUnsupported mode.preferred)
      else .ok config
  else .ok config

/-- `modeSelectionConfig` -/
def modeSelectionConfig (mode : Mode) (preference : Preference) : Except Error Config :=
  match selectPreferred mode preference { modePreference := some (modePreferenceFromTechnology mode.allowed) } with
  | .error err => .error err
  | .ok config =>
    if preference.gwAcquisitionOrder.isSome ∧
        mode.allowed &&& (technologyGSM ||| technologyUMTS) = technologyGSM ||| technologyUMTS then
      -- Firmware may use this order even when there is a general one, so both are kept in step.
      .ok { config with gwAcquisitionOrder := some (gwOrder mode.preferred) }
    else .ok config

end Wwan.Modem.Qmi.Modes
