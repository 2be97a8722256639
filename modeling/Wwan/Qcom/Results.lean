import Wwan.Qcom.Tlv

/-! The result that every response carries, and the services that requests are for. -/

namespace Wwan.Qcom

open Utf16.ByteOrder (littleEndian)

/-- A service of the modem. -/
abbrev ServiceType := UInt32

/-- `ServiceCAT2` -/
def serviceCAT2 : ServiceType := 0x0A
/-- `ServiceCAT` -/
def serviceCAT : ServiceType := 0xE0

/-- The code of an error of the modem. -/
abbrev QMIError := UInt16

/-- `QMIErrorInvalidClientID` -/
def qmiErrorInvalidClientID : QMIError := 7

/-- The errors of a result. -/
inductive ResultError where
  /-- `errNoResultTLV` -/
  | noResultTLV
  /-- `errShortResultTLV` with the length that was found. -/
  | shortResultTLV (length : Nat)
  | qmi (code : QMIError)
  deriving DecidableEq

/-- `ResultTLVError`, where a nil error is none. -/
def resultTLVError (item : TLV) : Option ResultError :=
  match item.value with
  | first :: second :: third :: fourth :: _ =>
    if littleEndian.uint16 first second = 0 then none else some (.qmi (littleEndian.uint16 third fourth))
  | short => some (.shortResultTLV short.length)

/-- `ResultError`, where a nil error is none. -/
def resultError (tlvs : List TLV) : Option ResultError :=
  match TLVs.find tlvs 0x02 with
  | none => some .noResultTLV
  | some item => resultTLVError item

end Wwan.Qcom
