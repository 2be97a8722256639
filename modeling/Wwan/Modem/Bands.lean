import Wwan.Lib.BitWords
import Wwan.Lib.SortedSet
import Wwan.Modem.SystemSelection

/-! The bands of a QMI modem, as the masks of its system selection preference. -/

namespace Wwan.Modem.Qmi.Bands

open BitWords (bit hasBit)
open SystemSelection

/-- A band of a technology. -/
structure Band where
  technology : Technology
  number : UInt16
  deriving DecidableEq

/-- `legacyBand` -/
structure LegacyBand where
  mask : UInt64
  band : Band
  deriving DecidableEq

/-- `legacyBands` -/
def legacyBands : List LegacyBand :=
  [⟨bit 7, technologyGSM, 1800⟩, ⟨bit 8 ||| bit 9, technologyGSM, 900⟩, ⟨bit 21, technologyGSM, 1900⟩,
    ⟨bit 19, technologyGSM, 850⟩, ⟨bit 16, technologyGSM, 450⟩, ⟨bit 17, technologyGSM, 480⟩,
    ⟨bit 18, technologyGSM, 750⟩, ⟨bit 22, technologyUMTS, 1⟩, ⟨bit 23, technologyUMTS, 2⟩,
    ⟨bit 24, technologyUMTS, 3⟩, ⟨bit 25, technologyUMTS, 4⟩, ⟨bit 26, technologyUMTS, 5⟩,
    ⟨bit 27, technologyUMTS, 6⟩, ⟨bit 48, technologyUMTS, 7⟩, ⟨bit 49, technologyUMTS, 8⟩,
    ⟨bit 50, technologyUMTS, 9⟩, ⟨bit 61, technologyUMTS, 11⟩, ⟨bit 60, technologyUMTS, 19⟩]

/-- The errors of reading and setting the bands. -/
inductive Error where
  /-- `errBandPreferenceUnavailable`: "current band preference is unavailable" -/
  | preferenceUnavailable
  /-- "setting bands: bands are required" -/
  | required
  /-- "setting bands: unsupported legacy band %+v" -/
  | unsupportedLegacy (band : Band)
  /-- "setting bands: LTE band %d is outside 1..256" -/
  | outsideLTE (number : UInt16)
  /-- "setting bands: NR band %d is outside 1..512" -/
  | outsideNR (number : UInt16)
  /-- "setting bands: technology %#x is unsupported" -/
  | unsupported (technology : Technology)
  /-- "setting bands: LTE band preference is unavailable" -/
  | lteUnavailable
  /-- "setting bands: split NR5G band preference is unavailable" -/
  | nrUnavailable
  deriving DecidableEq

/-- `findLegacyBand` -/
def findLegacyBand (band : Band) : Option LegacyBand := legacyBands.find? (·.band = band)

/-- `bandsFromLegacyMask` -/
def bandsFromLegacyMask (mask : UInt64) : List Band :=
  (legacyBands.filter (mask &&& ·.mask ≠ 0)).map (·.band)

/-- `bandsFromWords` -/
def bandsFromWords (technology : Technology) (words : List UInt64) : List Band :=
  words.zipIdx.flatMap fun (word, wordIndex) =>
    ((List.range 64).filter (hasBit word)).map fun bit =>
      { technology, number := UInt16.ofNat (wordIndex * 64 + bit + 1) }

/-- `bandsWordsSet` -/
def bandsWordsSet (words : List UInt64) : Bool := words.any (· ≠ 0)

/-- The order of `normalizeBands`, by the technology and then the number. -/
def Band.le (a b : Band) : Bool :=
  if a.technology ≠ b.technology then a.technology < b.technology else a.number ≤ b.number

/-- `normalizeBands` -/
def normalizeBands (bands : List Band) : List Band := SortedSet.normalize Band.le bands

/-- `setWordBit` -/
def setWordBit {n : Nat} (words : Vector UInt64 n) (number : UInt16) : Option (Vector UInt64 n) :=
  if number = 0 ∨ number.toNat > n * 64 then none else some (BitWords.insert words (number.toNat - 1))

/-- The masks of a list of bands. -/
structure Masks where
  legacy : UInt64 := 0
  lte : LTEBands := .replicate 4 0
  nr : NR5GBands := .replicate 8 0
  deriving DecidableEq

/-- The body of the loop of `bandMasks`. -/
def addBand (masks : Masks) (band : Band) : Except Error Masks :=
  if band.technology = technologyGSM ∨ band.technology = technologyUMTS then
    match findLegacyBand band with
    | some entry => .ok { masks with legacy := masks.legacy ||| entry.mask }
    | none => .error (.unsupportedLegacy band)
  else if band.technology = technologyLTE then
    match setWordBit masks.lte band.number with
    | some lte => .ok { masks with lte }
    | none => .error (.outsideLTE band.number)
  else if band.technology = technologyNR5GNSA ∨ band.technology = technologyNR5GSA ∨ band.technology = modeNR5G then
    match setWordBit masks.nr band.number with
    | some nr => .ok { masks with nr }
    | none => .error (.outsideNR band.number)
  else .error (.unsupported band.technology)

/-- `bandMasks` -/
def bandMasks (bands : List Band) : Except Error Masks := bands.foldlM addBand {}

/-- The first part of `bandSelectionConfig`, for the LTE bands. -/
def selectLTE (preference : Preference) (masks : Masks) (config : Config) : Except Error Config :=
  if preference.lteBandsExtended.isSome then .ok { config with lteBandsExtended := some masks.lte }
  else if preference.lteBandPreference.isSome then .ok { config with lteBandPreference := some masks.lte[0] }
  else if bandsWordsSet masks.lte.toList then .error .lteUnavailable
  else .ok config

/-- A mask that is written if the modem reports its field. -/
def ifKnown (field : Option NR5GBands) (mask : NR5GBands) : Option NR5GBands :=
  if field.isSome then some mask else none

/-- The last part of `bandSelectionConfig`, for the NR bands, whose combined mask is deprecated and never written. -/
def selectNR (preference : Preference) (masks : Masks) (config : Config) : Except Error Config :=
  let config :=
    { config with
      nr5gSABands := ifKnown preference.nr5gSABands masks.nr
      nr5gNSABands := ifKnown preference.nr5gNSABands masks.nr }
  if bandsWordsSet masks.nr.toList ∧ config.nr5gSABands.isNone ∧ config.nr5gNSABands.isNone then .error .nrUnavailable
  else .ok config

/-- `bandSelectionConfig` -/
def bandSelectionConfig (preference : Preference) (masks : Masks) : Except Error Config :=
  match selectLTE preference masks { bandPreference := some masks.legacy } with
  | .error err => .error err
  | .ok config => selectNR preference masks config

/-- `Backend.SetBands`, up to the request that stores the preferences -/
def setBands (preference : Preference) (bands : List Band) : Except Error Config :=
  if bands.length = 0 then .error .required
  else
    match bandMasks bands with
    | .error err => .error err
    | .ok masks => bandSelectionConfig preference masks

/-- The words of a mask that may be unknown. -/
def knownWords (mask : Option NR5GBands) : NR5GBands := mask.getD (.replicate 8 0)

/-- The LTE bands that `Backend.Bands` reads. -/
def readLTE (preference : Preference) : List Band :=
  match preference.lteBandsExtended, preference.lteBandPreference with
  | some extended, _ => bandsFromWords technologyLTE extended.toList
  | none, some legacy => bandsFromWords technologyLTE [legacy]
  | none, none => []

/-- The NR bands that `Backend.Bands` reads. -/
def readNR (preference : Preference) : List Band :=
  if preference.nr5gSABands.isSome ∨ preference.nr5gNSABands.isSome then
    -- The union of the split masks.
    bandsFromWords modeNR5G ((knownWords preference.nr5gSABands).zipWith (· ||| ·)
      (knownWords preference.nr5gNSABands)).toList
  else
    match preference.nr5gBands with
    | some combined => bandsFromWords modeNR5G combined.toList
    | none => []

/-- `Backend.Bands` -/
def readBands (preference : Preference) : Except Error (List Band) :=
  let legacy :=
    match preference.bandPreference with
    | some mask => bandsFromLegacyMask mask
    | none => []
  let bands := normalizeBands (legacy ++ readLTE preference ++ readNR preference)
  if bands.length = 0 then .error .preferenceUnavailable else .ok bands

/-! What a selection of bands should do. -/

/-- A band as it is reported: NR bands are for both kinds of networks. -/
def reported (band : Band) : Band :=
  if band.technology = technologyNR5GNSA ∨ band.technology = technologyNR5GSA then { band with technology := modeNR5G }
  else band

/-- Exactly these bands are read, sorted and each once. -/
def ReadsBack (preference : Preference) (bands : List Band) : Prop :=
  ∃ result, readBands preference = .ok result ∧ result.Pairwise (fun a b => Band.le a b ∧ a ≠ b) ∧
    ∀ band, band ∈ result ↔ ∃ requested ∈ bands, reported requested = band

/-- The masks that a modem reports can hold the bands: no LTE band is above those of the only mask, and there are no
combined NR bands that cannot be taken back. -/
def Holds (preference : Preference) (bands : List Band) : Prop :=
  (preference.lteBandsExtended.isSome ∨ ∀ band ∈ bands, band.technology = technologyLTE → band.number ≤ 64) ∧
  (preference.nr5gSABands.isSome ∨ preference.nr5gNSABands.isSome ∨
    ∀ combined, preference.nr5gBands = some combined → ∀ word ∈ combined.toList, word = 0)

end Wwan.Modem.Qmi.Bands
