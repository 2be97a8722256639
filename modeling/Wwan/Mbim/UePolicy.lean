import Wwan.Mbim.Tlv

/-! The rules of a user equipment policy and the descriptors that select a route. -/

namespace Wwan.Mbim

open Utf16.ByteOrder (bigEndian)

/-- The traffic descriptor of a rule. -/
structure URSPTrafficDescriptor where
  precedence : UInt8
  data : Bytes
  deriving DecidableEq

/-- Encode the traffic descriptor of a rule, whose length is in network order. -/
def URSPTrafficDescriptor.marshalBinary (d : URSPTrafficDescriptor) : Go Error Bytes := do
  Go.failIf (d.data.length = 0) (.format "encoding URSP traffic descriptor: traffic descriptor is empty" [])
  Go.failIf (d.data.length > 2 ^ 16 - 1)
    (.format "encoding URSP traffic descriptor: traffic descriptor exceeds UINT16 length" [])
  return d.precedence :: bigEndian.putUint16 (UInt16.ofNat d.data.length) ++ d.data

/-- Parse the traffic descriptor in front of a byte string. -/
def unmarshalURSPTrafficDescriptorPrefix (data : Bytes) : Go Error (URSPTrafficDescriptor × Nat) := do
  Go.failIf (data.length < 3) (.format "parsing URSP traffic descriptor: header is truncated" [])
  let length := (← bigEndian.getUint16 (← Go.slice data 1 3)).toNat
  Go.failIf (length = 0) (.format "parsing URSP traffic descriptor: traffic descriptor is empty" [])
  let totalLength := 3 + length
  Go.failIf (totalLength > data.length)
    (.format "parsing URSP traffic descriptor: traffic descriptor is truncated" [])
  -- The fields are only looked at once they are known to be there.
  let precedence ← Go.index data 0
  let content ← Go.slice data 3 totalLength
  return ({ precedence, data := content }, totalLength)

/-- Parse a traffic descriptor and nothing behind it. -/
def URSPTrafficDescriptor.unmarshalBinary : Bytes → Go Error URSPTrafficDescriptor :=
  unmarshalWhole unmarshalURSPTrafficDescriptorPrefix "parsing URSP traffic descriptor: trailing data"

/-- Encode one rule of a list, whose precedence no rule before has. -/
def URSPTrafficDescriptor.marshalItem (before : List URSPTrafficDescriptor) (rule : URSPTrafficDescriptor) :
    Go Error Bytes := do
  Go.failIf (rule.precedence ∈ before.map precedence)
    (.format "URSP rule %d duplicates precedence %d" [before.length, rule.precedence.toNat])
  Go.mapError (.wrap "encoding URSP rule %d" [before.length]) rule.marshalBinary

/-- Parse one rule of a list, whose precedence no rule before has. -/
def URSPTrafficDescriptor.unmarshalItem (rules : List URSPTrafficDescriptor) (data : Bytes) :
    Go Error (URSPTrafficDescriptor × Nat) := do
  let item ← Go.mapError (.wrap "parsing URSP rule %d" [rules.length]) (unmarshalURSPTrafficDescriptorPrefix data)
  Go.failIf (item.1.precedence ∈ rules.map precedence)
    (.format "duplicate precedence %d" [item.1.precedence.toNat])
  return item

/-- The TLV of a list of rules, which may be empty. -/
def newURSPRulesTDOnlyTLV (rules : List URSPTrafficDescriptor) : Go Error TLV := do
  let data ← Go.mapError (.wrap "encoding URSP rules traffic descriptors TLV" [])
    (Sequence.write URSPTrafficDescriptor.marshalItem [] rules)
  return { type := TLVType.urspRulesTDOnly, data := data }

/-- Parse a list of rules. -/
def URSPRules.unmarshalTLV (tlv : TLV) : Go Error (List URSPTrafficDescriptor) := do
  Go.failIf (tlv.type ≠ TLVType.urspRulesTDOnly) (.format
    "parsing URSP rules traffic descriptors TLV: type is %d, want %d" [tlv.type.toNat, TLVType.urspRulesTDOnly.toNat])
  Go.mapError (.wrap "parsing URSP rules traffic descriptors TLV" [])
    (Sequence.readAll URSPTrafficDescriptor.unmarshalItem tlv.data)

/-- Where a route selection descriptor comes from. -/
abbrev RouteSelectionDescriptorSource := UInt32

/-- The last source that is defined. -/
def RouteSelectionDescriptorSource.modemLocal : RouteSelectionDescriptorSource := 6

/-- What a route is for, as a set of bits. -/
abbrev RouteSelectionDescriptorPurpose := UInt32

/-- The one bit that is defined. -/
def RouteSelectionDescriptorPurpose.purchase : RouteSelectionDescriptorPurpose := 1

/-- A route selection descriptor. -/
structure RouteSelectionDescriptor where
  source : RouteSelectionDescriptorSource
  purpose : RouteSelectionDescriptorPurpose
  precedence : UInt8
  contents : Bytes
  deriving DecidableEq

/-- The length of a descriptor with one byte of contents. -/
def minimumRouteSelectionDescriptorLength : Nat := 4

/-- Encode a route selection descriptor, which has two lengths in network order. -/
def RouteSelectionDescriptor.marshalBinary (d : RouteSelectionDescriptor) : Go Error Bytes := do
  Go.failIf (d.source > RouteSelectionDescriptorSource.modemLocal)
    (.format "encoding MBIM route selection descriptor: source %d is reserved" [d.source.toNat])
  Go.failIf (d.purpose &&& ~~~RouteSelectionDescriptorPurpose.purchase ≠ 0)
    (.format "encoding MBIM route selection descriptor: purpose %#x contains reserved bits" [d.purpose.toNat])
  Go.failIf (d.contents.length = 0) (.format "encoding MBIM route selection descriptor: contents are empty" [])
  Go.failIf (d.contents.length > 2 ^ 16 - 1 - 3)
    (.format "encoding MBIM route selection descriptor: contents exceed descriptor UINT16 length" [])
  return LittleEndian.putUint32 d.source ++ (LittleEndian.putUint32 d.purpose ++
    (bigEndian.putUint16 (UInt16.ofNat (3 + d.contents.length)) ++ (d.precedence ::
      (bigEndian.putUint16 (UInt16.ofNat d.contents.length) ++ d.contents))))

/-- Parse the route selection descriptor in front of a byte string. -/
def unmarshalRouteSelectionDescriptorPrefix (data : Bytes) : Go Error (RouteSelectionDescriptor × Nat) := do
  Go.failIf (data.length < 10) (.format "parsing MBIM route selection descriptor: header is truncated" [])
  let source ← LittleEndian.getUint32 (← Go.slice data 0 4)
  Go.failIf (source > RouteSelectionDescriptorSource.modemLocal)
    (.format "parsing MBIM route selection descriptor: source %d is reserved" [source.toNat])
  let purpose ← LittleEndian.getUint32 (← Go.slice data 4 8)
  Go.failIf (purpose &&& ~~~RouteSelectionDescriptorPurpose.purchase ≠ 0)
    (.format "parsing MBIM route selection descriptor: purpose %#x contains reserved bits" [purpose.toNat])
  let descriptorLength := (← bigEndian.getUint16 (← Go.slice data 8 10)).toNat
  Go.failIf (descriptorLength < minimumRouteSelectionDescriptorLength)
    (.format "parsing MBIM route selection descriptor: length is %d, want at least 4" [descriptorLength])
  let totalLength := 10 + descriptorLength
  Go.failIf (totalLength > data.length) (.format "parsing MBIM route selection descriptor: data is truncated" [])
  -- The inner length has to agree with the outer one.
  let contentsLength := (← bigEndian.getUint16 (← Go.slice data 11 13)).toNat
  Go.failIf (contentsLength ≠ descriptorLength - 3)
    (.format "parsing MBIM route selection descriptor: contents length is %d, want %d"
      [contentsLength, descriptorLength - 3])
  let precedence ← Go.index data 10
  let contents ← Go.slice data 13 totalLength
  return ({ source, purpose, precedence, contents }, totalLength)

/-- Parse a route selection descriptor and nothing behind it. -/
def RouteSelectionDescriptor.unmarshalBinary : Bytes → Go Error RouteSelectionDescriptor :=
  unmarshalWhole unmarshalRouteSelectionDescriptorPrefix "parsing MBIM route selection descriptor: trailing data"

/-- Encode one descriptor of a list. -/
def RouteSelectionDescriptor.marshalItem (before : List RouteSelectionDescriptor) (value : RouteSelectionDescriptor) :
    Go Error Bytes :=
  Go.mapError (.wrap "encoding route selection descriptor %d" [before.length]) value.marshalBinary

/-- Parse one descriptor of a list. -/
def RouteSelectionDescriptor.unmarshalItem (values : List RouteSelectionDescriptor) (data : Bytes) :
    Go Error (RouteSelectionDescriptor × Nat) :=
  Go.mapError (.wrap "parsing route selection descriptor %d" [values.length])
    (unmarshalRouteSelectionDescriptorPrefix data)

/-- The TLV of route selection descriptors. -/
def newRouteSelectionDescriptorsTLV : List RouteSelectionDescriptor → Go Error TLV :=
  newListTLV TLVType.routeSelectionDescriptors "encoding route selection descriptors TLV: descriptor list is empty"
    RouteSelectionDescriptor.marshalItem

/-- Parse route selection descriptors. -/
def RouteSelectionDescriptors.unmarshalTLV : TLV → Go Error (List RouteSelectionDescriptor) :=
  unmarshalListTLV TLVType.routeSelectionDescriptors
    "parsing route selection descriptors TLV: type is %d, want %d"
    "parsing route selection descriptors TLV: descriptor list is empty" RouteSelectionDescriptor.unmarshalItem

end Wwan.Mbim
