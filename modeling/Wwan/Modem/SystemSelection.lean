import Wwan.Lib.Go

/-! The preferences by which a QMI modem selects a system, and how a modem stores those it is sent. -/

namespace Wwan.Modem.Qmi.SystemSelection

/-! The technologies, by their bits. -/

abbrev Technology := UInt64

def technologyGSM : Technology := 0x01
def technologyUMTS : Technology := 0x02
def technologyLTE : Technology := 0x04
def technologyLTECatM : Technology := 0x08
def technologyLTENB : Technology := 0x10
def technologyNR5GNSA : Technology := 0x20
def technologyNR5GSA : Technology := 0x40

/-- `modeNR5G` -/
def modeNR5G : Technology := technologyNR5GNSA ||| technologyNR5GSA

/-- `NASLTEBandPreferenceExtended`, with the words in the order of their bits -/
abbrev LTEBands := Vector UInt64 4

/-- `NASNR5GBandPreference`, with the words in the order of their bits -/
abbrev NR5GBands := Vector UInt64 8

/-- `NASSystemSelectionPreference`, with the preferences that are known -/
structure Preference where
  modePreference : Option UInt16 := none
  bandPreference : Option UInt64 := none
  lteBandPreference : Option UInt64 := none
  gwAcquisitionOrder : Option UInt32 := none
  acquisitionOrder : Option (List UInt8) := none
  lteBandsExtended : Option LTEBands := none
  nr5gBands : Option NR5GBands := none
  nr5gSABands : Option NR5GBands := none
  nr5gNSABands : Option NR5GBands := none
  deriving DecidableEq

/-- `NASSystemSelectionConfig`, with the preferences that are sent -/
structure Config where
  modePreference : Option UInt16 := none
  bandPreference : Option UInt64 := none
  lteBandPreference : Option UInt64 := none
  gwAcquisitionOrder : Option UInt32 := none
  acquisitionOrder : Option (List UInt8) := none
  lteBandsExtended : Option LTEBands := none
  nr5gSABands : Option NR5GBands := none
  nr5gNSABands : Option NR5GBands := none
  deriving DecidableEq

/-- What a modem reports that stores exactly the preferences it is sent. -/
def Preference.store (preference : Preference) (config : Config) : Preference where
  modePreference := config.modePreference.or preference.modePreference
  bandPreference := config.bandPreference.or preference.bandPreference
  lteBandPreference := config.lteBandPreference.or preference.lteBandPreference
  gwAcquisitionOrder := config.gwAcquisitionOrder.or preference.gwAcquisitionOrder
  acquisitionOrder := config.acquisitionOrder.or preference.acquisitionOrder
  lteBandsExtended := config.lteBandsExtended.or preference.lteBandsExtended
  nr5gBands := preference.nr5gBands
  nr5gSABands := config.nr5gSABands.or preference.nr5gSABands
  nr5gNSABands := config.nr5gNSABands.or preference.nr5gNSABands

end Wwan.Modem.Qmi.SystemSelection
