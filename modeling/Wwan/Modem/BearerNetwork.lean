import Wwan.Lib.Netip
import Wwan.Modem.QmiConnect

/-! The network configuration of a bearer, as each backend converts what its modem reports. -/

namespace Wwan.Modem.Bearer

/-- `NetworkConfig` -/
structure NetworkConfig where
  interface : GoString := []
  addresses : List Prefix := []
  gateways : List Addr := []
  dns : List Addr := []
  mtu : UInt32 := 0
  deriving DecidableEq

/-- An address of a gateway or a name server, as both backends convert it. -/
def unmapped (ip : Bytes) : Option Addr := (Addr.fromSlice ip).map Addr.unmap

/-- The method `To4` of `net.IP`. -/
def to4 (ip : Bytes) : Option Bytes :=
  if ip.length = 4 then some ip
  else if ip.length = 16 ∧ ip.take 12 = Addr.mappedPrefix then some (ip.drop 12)
  else none

/-- The ones in front of a byte. -/
def leadingOnes (byte : UInt8) : Nat := ((List.range 8).takeWhile fun i => byte.toNat.testBit (7 - i)).length

/-- `simpleMaskLength` of the package `net`: the ones of a mask that has no one behind a zero. -/
def simpleMaskLength : Bytes → Option Nat
  | [] => some 0
  | byte :: rest =>
    if byte = 0xff then (simpleMaskLength rest).map (· + 8)
    else if byte <<< UInt8.ofNat (leadingOnes byte) = 0 ∧ ∀ other ∈ rest, other = 0 then some (leadingOnes byte)
    else none

namespace Qmi

open Modem.Qmi (appendUnique)

/-- `PDNInfo`, as far as a configuration is made of it -/
structure PDNInfo where
  localIPv4 : Bytes := []
  localIPv6 : Bytes := []
  ipv4Gateway : Bytes := []
  ipv4SubnetMask : Bytes := []
  ipv6Gateway : Bytes := []
  ipv6PrefixLength : UInt8 := 0
  dns : List Bytes := []
  mtu : UInt32 := 0
  deriving DecidableEq

/-- The length of the prefix that a subnet mask gives. -/
def prefixLength (mask : Bytes) : Nat := ((to4 mask).bind simpleMaskLength).getD 32

/-- The local IPv4 address with its prefix. -/
def localIPv4 (info : PDNInfo) : Option Prefix := do
  let addr ← unmapped info.localIPv4
  if addr.is4 then return Prefix.from addr (prefixLength info.ipv4SubnetMask) else none

/-- The local IPv6 address with its prefix. -/
def localIPv6 (info : PDNInfo) : Option Prefix := do
  let addr ← Addr.fromSlice info.localIPv6
  if addr.is6 then return Prefix.from addr info.ipv6PrefixLength.toNat else none

/-- `networkConfig` -/
def networkConfig (interfaceName : GoString) (info : PDNInfo) : NetworkConfig :=
  { interface := interfaceName
    addresses := (localIPv4 info).toList ++ (localIPv6 info).toList
    gateways := [info.ipv4Gateway, info.ipv6Gateway].filterMap unmapped
    dns := info.dns.filterMap unmapped
    mtu := info.mtu }

/-- One turn of the loop of `mergeNetworkConfigs`. -/
def mergeNetworkConfig (interfaceName : GoString) (result : NetworkConfig) (info : PDNInfo) : NetworkConfig :=
  let config := networkConfig interfaceName info
  { result with
    addresses := appendUnique result.addresses config.addresses
    gateways := appendUnique result.gateways config.gateways
    dns := appendUnique result.dns config.dns
    mtu := if config.mtu ≠ 0 ∧ (result.mtu = 0 ∨ config.mtu < result.mtu) then config.mtu else result.mtu }

/-- `mergeNetworkConfigs` -/
def mergeNetworkConfigs (interfaceName : GoString) (infos : List PDNInfo) : NetworkConfig :=
  infos.foldl (mergeNetworkConfig interfaceName) { interface := interfaceName }

end Qmi

namespace Mbim

/-- `IPAddress` -/
structure IPAddress where
  ip : Bytes
  prefixLength : UInt32
  deriving DecidableEq

/-- `IPConfigurationInfo`, as far as a configuration is made of it -/
structure IPConfigurationInfo where
  ipv4Addresses : List IPAddress := []
  ipv6Addresses : List IPAddress := []
  ipv4Gateway : Bytes := []
  ipv6Gateway : Bytes := []
  ipv4DNSServers : List Bytes := []
  ipv6DNSServers : List Bytes := []
  ipv4MTU : UInt32 := 0
  ipv6MTU : UInt32 := 0
  deriving DecidableEq

/-- An address with its prefix. -/
def prefixed (address : IPAddress) : Option Prefix :=
  (unmapped address.ip).map fun addr => Prefix.from addr address.prefixLength.toNat

/-- `networkConfig` -/
def networkConfig (interfaceName : GoString) (info : IPConfigurationInfo) : NetworkConfig :=
  { interface := interfaceName
    addresses := (info.ipv4Addresses ++ info.ipv6Addresses).filterMap prefixed
    gateways := [info.ipv4Gateway, info.ipv6Gateway].filterMap unmapped
    dns := (info.ipv4DNSServers ++ info.ipv6DNSServers).filterMap unmapped
    mtu := max info.ipv4MTU info.ipv6MTU }

end Mbim

end Wwan.Modem.Bearer
