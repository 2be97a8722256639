import Wwan.Lib.Go

/-! The connection profiles of a modem, as its callers see them. -/

namespace Wwan.Modem

/-- The IP versions of a connection. -/
abbrev IPFamily := UInt8
/-- `IPFamilyUnknown` -/
def IPFamily.unknown : IPFamily := 0
/-- `IPFamilyIPv4` -/
def IPFamily.ipv4 : IPFamily := 2
/-- `IPFamilyIPv6` -/
def IPFamily.ipv6 : IPFamily := 4
/-- `IPFamilyIPv4v6` -/
def IPFamily.ipv4v6 : IPFamily := IPFamily.ipv4 ||| IPFamily.ipv6

/-- The authentication protocols of a connection. -/
abbrev Authentication := UInt8
/-- `AuthenticationNone` -/
def Authentication.none : Authentication := 0
/-- `AuthenticationPAP` -/
def Authentication.pap : Authentication := 2
/-- `AuthenticationCHAP` -/
def Authentication.chap : Authentication := 4
/-- `AuthenticationMSCHAPv2` -/
def Authentication.mschapv2 : Authentication := 8

/-- The uses of a connection. -/
abbrev APNType := UInt64
/-- `APNTypeDefault` -/
def APNType.default : APNType := 1
/-- `APNTypeIMS` -/
def APNType.ims : APNType := 2
/-- `APNTypeMMS` -/
def APNType.mms : APNType := 4
/-- `APNTypeTethering` -/
def APNType.tethering : APNType := 8
/-- `APNTypeSUPL` -/
def APNType.supl : APNType := 16
/-- `APNTypeEmergency` -/
def APNType.emergency : APNType := 32

/-- A connection profile on the modem. -/
structure Profile where
  id : Int32
  apn : GoString
  ipFamily : IPFamily := IPFamily.unknown
  authentication : Authentication
  username : GoString
  password : GoString
  apnType : APNType
  enabled : Bool
  deriving DecidableEq

/-- A profile to create. -/
structure ProfileConfig where
  apn : GoString
  ipFamily : IPFamily
  authentication : Authentication
  username : GoString
  password : GoString
  apnType : APNType
  enabled : Bool
  deriving DecidableEq

/-- The changes of a profile, where what is not set is kept. -/
structure ProfileUpdate where
  id : Int32
  apn : Option GoString := none
  ipFamily : Option IPFamily := none
  authentication : Option Authentication := none
  username : Option GoString := none
  password : Option GoString := none
  apnType : Option APNType := none
  enabled : Option Bool := none
  deriving DecidableEq

end Wwan.Modem
