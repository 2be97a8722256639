import Wwan.Lib.Fields
import Wwan.Lib.Sequence
import Wwan.Mbim.Protocol

/-! Protocol configuration options. -/

namespace Wwan.Mbim

open Utf16.ByteOrder (bigEndian)

/-- The addresses of call session functions, in the sixth version of the protocol. -/
def pcoOptionPCSCFIPv6 : UInt16 := 0x0001
/-- The addresses of name servers, in the sixth version of the protocol. -/
def pcoOptionDNSIPv6 : UInt16 := 0x0003
/-- The addresses of call session functions, in the fourth version of the protocol. -/
def pcoOptionPCSCFIPv4 : UInt16 := 0x000c
/-- The addresses of name servers, in the fourth version of the protocol. -/
def pcoOptionDNSIPv4 : UInt16 := 0x000d
/-- The largest packet of the link. -/
def pcoOptionIPv4MTU : UInt16 := 0x0010

/-- An option. -/
structure PCOOption where
  id : UInt16
  data : Bytes
  deriving DecidableEq

/-- The options whose length takes two bytes. -/
def pcoOptionUsesUint16Length (optionID : UInt16) : Bool :=
  optionID ∈ ([0x0023, 0x0024, 0x0030, 0x0031, 0x0032, 0x0041, 0x0051, 0x0056] : List UInt16)

/-- The length of the option whose length field is in front, and the size of the field. -/
def pcoOptionLength (optionID : UInt16) (data : Bytes) : Go Error (Nat × Nat) := do
  let first ← Go.index data 0
  if pcoOptionUsesUint16Length optionID then
    Go.failIf (data.length < 2) (.format "parsing PCO: option length is truncated" [])
    let length ← bigEndian.getUint16 (← Go.slice data 0 2)
    return (2, length.toNat)
  else return (1, first.toNat)

/-- Parse the option in front of a byte string. -/
def unmarshalPCOOption (data : Bytes) : Go Error (PCOOption × Nat) := do
  Go.failIf (data.length < 3) (.format "parsing PCO: option header is truncated" [])
  let optionID ← bigEndian.getUint16 (← Go.slice data 0 2)
  let data ← Go.slice data 2 data.length
  -- Some options have a length of two bytes.
  let field ← pcoOptionLength optionID data
  let data ← Go.slice data field.1 data.length
  Go.failIf (field.2 > data.length) (.format "parsing PCO: option data is truncated" [])
  let content ← Go.slice data 0 field.2
  return ({ id := optionID, data := content }, 2 + field.1 + field.2)

/-- An address of the fourth or the sixth version. -/
abbrev IP := Bytes

/-- What marks an address of the fourth version in the form of the sixth. -/
def v4InV6Prefix : Bytes := [0, 0, 0, 0, 0, 0, 0, 0, 0, 0, 0xff, 0xff]

/-- The function `net.IPv4`. -/
def ipv4 (a b c d : UInt8) : IP := v4InV6Prefix ++ [a, b, c, d]

/-- The method `Equal`, to which both forms of an address are one. -/
def IP.equal (ip x : IP) : Bool :=
  if ip.length = x.length then ip == x
  else if ip.length = 4 ∧ x.length = 16 then x.take 12 == v4InV6Prefix && ip == x.drop 12
  else if ip.length = 16 ∧ x.length = 4 then ip.take 12 == v4InV6Prefix && ip.drop 12 == x
  else false

/-- The chunks of a size that a slice is cut into, the last of which may be short, for a number of rounds. -/
def chunksFor (size : Nat) : Nat → Bytes → List Bytes
  | 0, _ => []
  | _ + 1, [] => []
  | rounds + 1, byte :: rest =>
    (byte :: rest).take size :: chunksFor size rounds ((byte :: rest).drop size)

/-- The function `slices.Chunk`. -/
def chunks (size : Nat) (data : Bytes) : List Bytes := chunksFor size data.length data

/-- The address of a chunk of four bytes. -/
def chunkIPv4 (chunk : Bytes) : Go Error IP := do
  let a ← Go.index chunk 0
  let b ← Go.index chunk 1
  let c ← Go.index chunk 2
  let d ← Go.index chunk 3
  return ipv4 a b c d

/-- The addresses of an option, if it has one of two identifiers. -/
def optionIPs (ipv4ID ipv6ID : UInt16) (option : PCOOption) : Go Error (List IP) :=
  if option.id = ipv4ID then do
    Go.failIf (option.data.length % 4 ≠ 0)
      (.format "IPv4 option length %d is not a multiple of 4" [option.data.length])
    (chunks 4 option.data).mapM chunkIPv4
  else if option.id = ipv6ID then do
    Go.failIf (option.data.length % 16 ≠ 0)
      (.format "IPv6 option length %d is not a multiple of 16" [option.data.length])
    return chunks 16 option.data
  else return []

/-- Keep an address unless an equal one is there. -/
def addUnique (unique : List IP) (ip : IP) : List IP :=
  if ip.length = 0 ∨ unique.any ip.equal then unique else unique ++ [ip]

/-- Each address once. -/
def uniqueIPs (ips : List IP) : List IP := ips.foldl addUnique []

/-- The addresses of the options with one of two identifiers. -/
def ipsFromOptions (options : List PCOOption) (ipv4ID ipv6ID : UInt16) : Go Error (List IP) := do
  let ips ← options.mapM (optionIPs ipv4ID ipv6ID)
  return uniqueIPs ips.flatten

/-- The addresses of call session functions. -/
def pcscfIPsFromOptions (options : List PCOOption) : Go Error (List IP) :=
  Go.mapError (.wrap "parsing PCO P-CSCF IPs" []) (ipsFromOptions options pcoOptionPCSCFIPv4 pcoOptionPCSCFIPv6)

/-- The addresses of name servers. -/
def dnsIPsFromOptions (options : List PCOOption) : Go Error (List IP) :=
  Go.mapError (.wrap "parsing PCO DNS server IPs" []) (ipsFromOptions options pcoOptionDNSIPv4 pcoOptionDNSIPv6)

/-- The largest packet that the first option about it tells, and whether there is one. -/
def ipv4LinkMTUFromOptions (options : List PCOOption) : Go Error (UInt16 × Bool) :=
  match options.find? fun option => option.id = pcoOptionIPv4MTU with
  | none => return (0, false)
  | some option => do
    Go.failIf (option.data.length ≠ 2)
      (.format "parsing PCO: IPv4 link MTU option length %d, want 2" [option.data.length])
    let mtu ← bigEndian.getUint16 option.data
    return (mtu, true)

/-- The options with what is read from them. -/
structure ProtocolConfigurationOptions where
  extension : Bool
  configurationProtocol : UInt8
  options : List PCOOption
  pcscfIPs : List IP
  dnsIPs : List IP
  ipv4LinkMTU : UInt16
  ipv4LinkMTUKnown : Bool
  deriving DecidableEq

/-- Parse protocol configuration options. -/
def ProtocolConfigurationOptions.unmarshalBinary (data : Bytes) : Go Error ProtocolConfigurationOptions := do
  Go.failIf (data.length = 0) (.format "parsing PCO: payload is empty" [])
  let first ← Go.index data 0
  -- The first byte holds the extension bit and the protocol.
  let rest ← Go.slice data 1 data.length
  let options ← Sequence.readAll (fun _ => unmarshalPCOOption) rest
  let pcscfIPs ← pcscfIPsFromOptions options
  let dnsIPs ← dnsIPsFromOptions options
  let mtu ← ipv4LinkMTUFromOptions options
  return { extension := first &&& 0x80 ≠ 0, configurationProtocol := first &&& 0x07, options, pcscfIPs, dnsIPs,
           ipv4LinkMTU := mtu.1, ipv4LinkMTUKnown := mtu.2 }

/-! The encoding of options that the specification gives. -/

/-- The option's length fits into its length field. -/
def PCOOption.Fits (o : PCOOption) : Prop :=
  o.data.length < if pcoOptionUsesUint16Length o.id then 2 ^ 16 else 2 ^ 8

instance (o : PCOOption) : Decidable o.Fits := inferInstanceAs (Decidable (_ < _))

/-- The bytes of an option: two for the identifier, one or two for the length, then the data. -/
def PCOOption.bytes (o : PCOOption) : Bytes :=
  bigEndian.putUint16 o.id ++
    ((if pcoOptionUsesUint16Length o.id then bigEndian.putUint16 (UInt16.ofNat o.data.length)
      else [UInt8.ofNat o.data.length]) ++ o.data)

/-- An address option has whole addresses, and the first option about the largest packet two bytes. -/
def WellSized (options : List PCOOption) : Prop :=
  (∀ o ∈ options, o.id = pcoOptionPCSCFIPv4 ∨ o.id = pcoOptionDNSIPv4 → o.data.length % 4 = 0) ∧
    (∀ o ∈ options, o.id = pcoOptionPCSCFIPv6 ∨ o.id = pcoOptionDNSIPv6 → o.data.length % 16 = 0) ∧
    ∀ o, options.find? (fun option => option.id = pcoOptionIPv4MTU) = some o → o.data.length = 2

/-- The addresses that options with one of two identifiers contain, in order. -/
def addressesIn (ipv4ID ipv6ID : UInt16) (options : List PCOOption) : List IP :=
  options.flatMap fun option =>
    if option.id = ipv4ID then (chunks 4 option.data).map (v4InV6Prefix ++ ·)
    else if option.id = ipv6ID then chunks 16 option.data
    else []

end Wwan.Mbim
