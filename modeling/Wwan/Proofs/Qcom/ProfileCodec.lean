import Wwan.Qcom.ProfileCodec

/-! The settings decoded from an encoded update are the fields that were set. -/

namespace Wwan.Qcom

open Utf16.ByteOrder (littleEndian)

/-! The elements of distinct types. -/

/-- A field's element is of its own type. -/
def Named (kind : UInt8) (field : Option (Go MessageError TLV)) : Prop := ∀ t, field = some (.ok t) → t.type = kind

/-- The elements behind the first field, which has none or one in front of them. -/
private theorem filterMap_cons_cases {field : Option (Go MessageError TLV)} {fields : List (Option (Go MessageError TLV))}
    {tlvs : List TLV} (encoded : (field :: fields).filterMap id = tlvs.map .ok) :
    (field = none ∧ fields.filterMap id = tlvs.map .ok)
      ∨ ∃ t rest, field = some (.ok t) ∧ tlvs = t :: rest ∧ fields.filterMap id = rest.map .ok := by
  cases field with
  | none => exact .inl ⟨rfl, encoded⟩
  | some call =>
    cases tlvs with
    | nil => simp at encoded
    | cons t rest =>
      obtain ⟨same, others⟩ := List.cons.inj encoded
      exact .inr ⟨t, rest, congrArg some same, rfl, others⟩

/-- A type that no field has is not found. -/
private theorem find_absent {kinds : List UInt8} {fields : List (Option (Go MessageError TLV))} {tlvs : List TLV}
    {kind : UInt8} (named : List.Forall₂ Named kinds fields) (encoded : fields.filterMap id = tlvs.map .ok)
    (absent : kind ∉ kinds) : TLVs.find tlvs kind = none := by
  induction named generalizing tlvs with
  | nil =>
    obtain rfl : tlvs = [] := by simpa using encoded.symm
    rfl
  | cons typed others ih =>
    rw [List.mem_cons, not_or] at absent
    obtain ⟨-, behind⟩ | ⟨t, rest, field, rfl, behind⟩ := filterMap_cons_cases encoded
    · exact ih behind absent.2
    · have other : t.type ≠ kind := typed t field ▸ Ne.symm absent.1
      rw [TLVs.find, List.find?_cons_of_neg (by simpa using other)]
      exact ih behind absent.2

/-- The element of a field is the one that is found under its type. -/
private theorem find_field {kinds : List UInt8} {fields : List (Option (Go MessageError TLV))} {tlvs : List TLV}
    (named : List.Forall₂ Named kinds fields) (distinct : kinds.Nodup) (encoded : fields.filterMap id = tlvs.map .ok)
    {i : Nat} {kind : UInt8} {field : Option (Go MessageError TLV)} (kind_i : kinds[i]? = some kind)
    (field_i : fields[i]? = some field) : field = (TLVs.find tlvs kind).map .ok := by
  -- Induction along the fields, with the elements that are written so far.
  induction named generalizing tlvs i with
  | nil => simp at kind_i
  | @cons first head kinds fields typed others ih =>
    obtain ⟨once, distinct⟩ := List.nodup_cons.mp distinct
    cases i with
    | zero =>
      obtain rfl : first = kind := by simpa using kind_i
      obtain rfl : head = field := by simpa using field_i
      obtain ⟨rfl, behind⟩ | ⟨t, rest, rfl, rfl, -⟩ := filterMap_cons_cases encoded
      · rw [find_absent others behind once]
        rfl
      · rw [TLVs.find, List.find?_cons_of_pos (by simpa using typed t rfl)]
        rfl
    | succ i =>
      have later : kind ∈ kinds := List.mem_of_getElem? (by simpa using kind_i)
      obtain ⟨-, behind⟩ | ⟨t, rest, rfl, rfl, behind⟩ := filterMap_cons_cases encoded
      · exact ih distinct behind (by simpa using kind_i) (by simpa using field_i)
      · -- The element in front is of another type.
        have other : t.type ≠ kind := by
          rw [typed t rfl]
          exact fun same => once (same ▸ later)
        rw [TLVs.find, List.find?_cons_of_neg (by simpa using other)]
        exact ih distinct behind (by simpa using kind_i) (by simpa using field_i)

/-- The types of the elements, in the order of the fields. -/
def profileKinds : List UInt8 :=
  [
    wdsTLVProfileName, wdsTLVProfilePDPType, wdsTLVProfileHeaderCompression, wdsTLVProfileDataCompression,
    wdsTLVProfileAPN, wdsTLVProfilePrimaryIPv4DNS, wdsTLVProfileSecondaryIPv4DNS, wdsTLVProfileUMTSRequestedQoS,
    wdsTLVProfileUMTSMinimumQoS, wdsTLVProfileGPRSRequestedQoS, wdsTLVProfileGPRSMinimumQoS, wdsTLVProfileUsername,
    wdsTLVProfilePassword, wdsTLVProfileAuth, wdsTLVProfileIPv4Preference, wdsTLVPCSCFUsingPCO,
    wdsTLVProfilePDPAccessControl, wdsTLVPCSCFUsingDHCP, wdsTLVIMCNFlag, wdsTLVProfilePDPContextNumber,
    wdsTLVProfilePDPContextSecondary, wdsTLVProfilePDPContextPrimaryID, wdsTLVProfileIPv6Preference,
    wdsTLVProfileUMTSRequestedQoSSig, wdsTLVProfileUMTSMinimumQoSSig, wdsTLVProfilePrimaryIPv6DNS,
    wdsTLVProfileSecondaryIPv6DNS, wdsTLVProfileAddressAllocation, wdsTLVProfileLTEQoS, wdsTLVProfileAPNDisabled,
    wdsTLVProfileRoamingDisallowed, wdsTLVProfileVLAN, wdsTLVProfileAPNType, wdsTLVProfileCLATEnabled,
    wdsTLVProfileIPv6PrefixDelegation
  ]

/-- The element of a field that is set is of the type the field is encoded with. -/
private theorem named_bytesField {α : Type} (kind : UInt8) (encode : α → Go MessageError Bytes) (field : Option α) :
    Named kind (bytesField kind encode field) := by
  intro t encoded
  obtain ⟨value, -, ran⟩ := Option.map_eq_some_iff.mp encoded
  obtain ⟨bytes, -, built⟩ := Go.bind_eq_ok.mp ran
  rw [← Except.ok.inj built]
  rfl

/-- The element of a byte field is the element of its one byte. -/
private theorem uintField_eq (kind : UInt8) (field : Option UInt8) :
    uintField kind field = bytesField kind (fun value => .ok [value]) field := rfl

/-- Every field's element is of its own type. -/
private theorem named_fields (u : WDSProfileUpdate) : List.Forall₂ Named profileKinds u.fields := by
  simp only [profileKinds, WDSProfileUpdate.fields, uintField_eq, boolField, List.forall₂_cons, named_bytesField,
    true_and]
  exact .nil

/-- The settings that say a field is set to a value, or is not set. -/
def Setting.ofField {α : Type} [Inhabited α] (field : Option α) : Setting α :=
  field.elim default fun value => ⟨value, true⟩

section

variable {u : WDSProfileUpdate} {tlvs : List TLV} (accepted : u.marshalTLVs = .ok tlvs)

include accepted

/-- A field is decoded to what its encoding is decoded to, and is unknown if it was not set. -/
private theorem setting_eq {α β : Type} [Inhabited β] {kind : UInt8} {encode : α → Go MessageError Bytes}
    {decode : Bytes → Go MessageError β} {field : Option α} (report : α → β) (i : Nat)
    (kind_i : profileKinds[i]? = some kind) (field_i : u.fields[i]? = some (bytesField kind encode field))
    (inverse : ∀ value bytes, field = some value → encode value = .ok bytes → decode bytes = .ok (report value)) :
    setting tlvs kind decode default = .ok (Setting.ofField (field.map report)) := by
  have encoded : u.fields.filterMap id = tlvs.map .ok := by
    rw [← List.forall₂_eq_eq_eq, List.forall₂_map_right_iff]
    exact Go.forall₂_of_mapM accepted
  have found := find_field (named_fields u) (by decide) encoded kind_i field_i
  cases field with
  | none =>
    have none : TLVs.find tlvs kind = none := by simpa [bytesField] using found.symm
    simp [setting, TLVs.value, none, Setting.ofField]
  | some value =>
    obtain ⟨t, there, ran⟩ := Option.map_eq_some_iff.mp found.symm
    obtain ⟨bytes, encoded, built⟩ := Go.bind_eq_ok.mp ran.symm
    obtain rfl : TLV.bytes kind bytes = t := Except.ok.inj built
    have decoded := inverse value bytes rfl encoded
    simp only [setting, TLVs.value, there, Option.map_some, TLV.bytes, decoded, Go.ok_bind]
    rfl

/-- A field whose decoding inverts its encoding is reported as it was set. -/
private theorem setting_same {α : Type} [Inhabited α] {kind : UInt8} {encode : α → Go MessageError Bytes}
    {decode : Bytes → Go MessageError α} {field : Option α} (i : Nat)
    (kind_i : profileKinds[i]? = some kind) (field_i : u.fields[i]? = some (bytesField kind encode field))
    (inverse : ∀ value bytes, field = some value → encode value = .ok bytes → decode bytes = .ok value) :
    setting tlvs kind decode default = .ok (Setting.ofField field) := by
  have decoded := setting_eq accepted id i kind_i field_i inverse
  rwa [Option.map_id] at decoded

end

/-! One inverse for each kind of field. -/

/-- A byte is decoded from itself. -/
private theorem decodeWDSProfileByte_singleton (value kind : UInt8) : decodeWDSProfileByte [value] kind = .ok value :=
  rfl

/-- A flag is decoded from its byte. -/
private theorem boolByte_ne_zero (value : Bool) : decide (boolByte value ≠ 0) = value := by
  cases value <;> rfl

/-- An IPv4 address is decoded without the IPv6 address around it. -/
private theorem decodeWDSProfileIPv4_encode {address : Addr} {bytes : Bytes} (kind : UInt8)
    (encoded : encodeWDSProfileIPv4 address = .ok bytes) : decodeWDSProfileIPv4 bytes kind = .ok address.unmap := by
  unfold encodeWDSProfileIPv4 at encoded
  cases plain : address.unmap with
  | four a b c d =>
    rw [plain] at encoded
    rw [← Except.ok.inj encoded]
    rfl
  | zero => simp [plain, Go.fail] at encoded
  | six inner size zone => simp [plain, Go.fail] at encoded

/-- An address that stays an IPv6 address does not wrap an IPv4 address. -/
private theorem unmap_eq_six {address : Addr} {bytes : Bytes} {size : bytes.length = 16} {zone : GoString}
    (unmapped : address.unmap = .six bytes size zone) : address = .six bytes size zone := by
  cases address with
  | zero => exact unmapped
  | four a b c d => exact unmapped
  | six inner length place =>
    rw [Addr.unmap] at unmapped
    split at unmapped
    · cases unmapped
    · exact unmapped

/-- An IPv6 address without a zone is decoded from its bytes. -/
private theorem decodeWDSProfileIPv6_encode {address : Addr} {bytes : Bytes} (kind : UInt8)
    (zoneless : address.Zoneless) (encoded : encodeWDSProfileIPv6 address = .ok bytes) :
    decodeWDSProfileIPv6 bytes kind = .ok address := by
  unfold encodeWDSProfileIPv6 at encoded
  cases plain : address.unmap with
  | six inner size zone =>
    rw [plain] at encoded
    obtain rfl := Except.ok.inj encoded
    obtain rfl := unmap_eq_six plain
    obtain rfl : zone = [] := zoneless
    simp [decodeWDSProfileIPv6, size]
  | zero => simp [plain, Go.fail] at encoded
  | four a b c d => simp [plain, Go.fail] at encoded

/-- The QoS parameters of UMTS are decoded from their encoding. -/
private theorem WDSUMTSGrantedQoS.unmarshalBinary_marshalBinary (qos : WDSUMTSGrantedQoS) :
    WDSUMTSGrantedQoS.unmarshalBinary qos.marshalBinary = .ok qos := by
  obtain ⟨a0, a1, a2, a3, storeA, readA⟩ := LittleEndian.putUint32_eq qos.maximumUplinkBitrate
  obtain ⟨b0, b1, b2, b3, storeB, readB⟩ := LittleEndian.putUint32_eq qos.maximumDownlinkBitrate
  obtain ⟨c0, c1, c2, c3, storeC, readC⟩ := LittleEndian.putUint32_eq qos.guaranteedUplinkBitrate
  obtain ⟨d0, d1, d2, d3, storeD, readD⟩ := LittleEndian.putUint32_eq qos.guaranteedDownlinkBitrate
  obtain ⟨e0, e1, e2, e3, storeE, readE⟩ := LittleEndian.putUint32_eq qos.maximumSDUSize
  obtain ⟨f0, f1, f2, f3, storeF, readF⟩ := LittleEndian.putUint32_eq qos.transferDelay
  obtain ⟨g0, g1, g2, g3, storeG, readG⟩ := LittleEndian.putUint32_eq qos.trafficHandlingPriority
  simp only [marshalBinary, storeA, storeB, storeC, storeD, storeE, storeF, storeG, List.cons_append, List.nil_append]
  simp [unmarshalBinary, uint32Between, Go.slice, Go.index, Go.failIf, readA, readB, readC, readD, readE, readF, readG]

/-- The QoS parameters of GPRS are decoded from their encoding. -/
private theorem WDSGPRSGrantedQoS.unmarshalBinary_marshalBinary (qos : WDSGPRSGrantedQoS) :
    WDSGPRSGrantedQoS.unmarshalBinary qos.marshalBinary = .ok qos := by
  obtain ⟨a0, a1, a2, a3, storeA, readA⟩ := LittleEndian.putUint32_eq qos.precedenceClass
  obtain ⟨b0, b1, b2, b3, storeB, readB⟩ := LittleEndian.putUint32_eq qos.delayClass
  obtain ⟨c0, c1, c2, c3, storeC, readC⟩ := LittleEndian.putUint32_eq qos.reliabilityClass
  obtain ⟨d0, d1, d2, d3, storeD, readD⟩ := LittleEndian.putUint32_eq qos.peakThroughputClass
  obtain ⟨e0, e1, e2, e3, storeE, readE⟩ := LittleEndian.putUint32_eq qos.meanThroughputClass
  simp only [marshalBinary, storeA, storeB, storeC, storeD, storeE, List.cons_append, List.nil_append]
  simp [unmarshalBinary, uint32Between, Go.slice, Go.failIf, readA, readB, readC, readD, readE]

/-- The QoS parameters of UMTS with the signaling indication are decoded from their encoding. -/
private theorem WDSUMTSQoSWithSignaling.unmarshalBinary_marshalBinary (qos : WDSUMTSQoSWithSignaling) :
    WDSUMTSQoSWithSignaling.unmarshalBinary qos.marshalBinary = .ok qos := by
  have size : qos.qos.marshalBinary.length = 33 := rfl
  have front : (Go.slice qos.marshalBinary 0 33 : Go MessageError Bytes) = .ok qos.qos.marshalBinary :=
    Go.slice_between [] rfl rfl (by rw [Nat.zero_add, size])
  have last : (Go.index qos.marshalBinary 33 : Go MessageError UInt8) = .ok qos.signalingIndication.toUInt8 := rfl
  have whole : qos.marshalBinary.length = 34 := rfl
  simp [unmarshalBinary, Go.failIf, whole, front, last, WDSUMTSGrantedQoS.unmarshalBinary_marshalBinary]

/-- The QoS parameters of LTE are decoded from their encoding. -/
private theorem WDSLTEQoS.unmarshalBinary_marshalBinary (qos : WDSLTEQoS) :
    WDSLTEQoS.unmarshalBinary qos.marshalBinary = .ok qos := by
  obtain ⟨a0, a1, a2, a3, storeA, readA⟩ := LittleEndian.putUint32_eq qos.guaranteedDownlinkBitrate
  obtain ⟨b0, b1, b2, b3, storeB, readB⟩ := LittleEndian.putUint32_eq qos.maximumDownlinkBitrate
  obtain ⟨c0, c1, c2, c3, storeC, readC⟩ := LittleEndian.putUint32_eq qos.guaranteedUplinkBitrate
  obtain ⟨d0, d1, d2, d3, storeD, readD⟩ := LittleEndian.putUint32_eq qos.maximumUplinkBitrate
  simp only [marshalBinary, storeA, storeB, storeC, storeD, List.cons_append, List.nil_append]
  simp [unmarshalBinary, uint32Between, Go.slice, Go.index, Go.failIf, readA, readB, readC, readD]

/-- A range of VLANs is decoded from its encoding. -/
private theorem WDSVLANRange.unmarshalBinary_marshalBinary (v : WDSVLANRange) :
    WDSVLANRange.unmarshalBinary v.marshalBinary = .ok v := by
  obtain ⟨a0, a1, storeA, readA⟩ := Utf16.ByteOrder.putUint16_eq littleEndian v.start
  obtain ⟨b0, b1, storeB, readB⟩ := Utf16.ByteOrder.putUint16_eq littleEndian v.stop
  simp only [marshalBinary, storeA, storeB, List.cons_append, List.nil_append]
  simp [unmarshalBinary, Go.slice, Go.failIf, readA, readB]

/-- A mask of APN types is decoded from its encoding. -/
private theorem decodeAPNType_putUint64 (value : WDSAPNTypeMask) :
    decodeAPNType (LittleEndian.putUint64 value) = .ok value := by
  have size : (LittleEndian.putUint64 value).length = 8 := rfl
  simp [decodeAPNType, Go.failIf, size]

/-! The fields of each kind. -/

section

variable {u : WDSProfileUpdate} {tlvs : List TLV} (accepted : u.marshalTLVs = .ok tlvs)

include accepted

/-- A string field is reported as it was set. -/
private theorem string_eq {kind : UInt8} {field : Option GoString} (i : Nat)
    (kind_i : profileKinds[i]? = some kind) (field_i : u.fields[i]? = some (bytesField kind .ok field)) :
    setting tlvs kind .ok default = .ok (Setting.ofField field) :=
  setting_same accepted i kind_i field_i fun _ _ _ encoded => encoded.symm

/-- A byte field is reported as it was set. -/
private theorem byte_eq {kind : UInt8} {field : Option UInt8} (name : String) (i : Nat)
    (kind_i : profileKinds[i]? = some kind) (field_i : u.fields[i]? = some (uintField kind field)) :
    byteSetting tlvs kind name default = .ok (Setting.ofField field) := by
  rw [uintField_eq] at field_i
  refine setting_same accepted i kind_i field_i fun value bytes _ encoded => ?_
  rw [← Except.ok.inj encoded, parsing, decodeWDSProfileByte_singleton, Go.mapError_ok]

/-- A flag is reported as it was set. -/
private theorem bool_eq {kind : UInt8} {field : Option Bool} (name : String) (i : Nat)
    (kind_i : profileKinds[i]? = some kind) (field_i : u.fields[i]? = some (boolField kind field)) :
    decodeWDSProfileBool tlvs kind name default = .ok (Setting.ofField field) := by
  refine setting_same accepted i kind_i field_i fun value bytes _ encoded => ?_
  rw [← Except.ok.inj encoded, parsing, decodeWDSProfileByte_singleton, Go.ok_bind, boolByte_ne_zero]
  rfl

/-- An IPv4 address is reported without the IPv6 address around it. -/
private theorem ipv4_eq {kind : UInt8} {field : Option Addr} (name : String) (i : Nat)
    (kind_i : profileKinds[i]? = some kind)
    (field_i : u.fields[i]? = some (bytesField kind (encoding name encodeWDSProfileIPv4) field)) :
    ipv4Setting tlvs kind name default = .ok (Setting.ofField (field.map Addr.unmap)) := by
  refine setting_eq accepted Addr.unmap i kind_i field_i fun address bytes _ encoded => ?_
  rw [parsing, decodeWDSProfileIPv4_encode kind (Go.mapError_eq_ok.mp encoded), Go.mapError_ok]

/-- An IPv6 address without a zone is reported as it was set. -/
private theorem ipv6_eq {kind : UInt8} {field : Option Addr} (name : String) (i : Nat)
    (kind_i : profileKinds[i]? = some kind)
    (field_i : u.fields[i]? = some (bytesField kind (encoding name encodeWDSProfileIPv6) field))
    (zoneless : ∀ address ∈ field, address.Zoneless) :
    ipv6Setting tlvs kind name default = .ok (Setting.ofField field) := by
  refine setting_same accepted i kind_i field_i fun address bytes there encoded => ?_
  rw [parsing, decodeWDSProfileIPv6_encode kind (zoneless address there) (Go.mapError_eq_ok.mp encoded),
    Go.mapError_ok]

/-- A field of a record is reported as it was set. -/
private theorem record_eq {α : Type} [Inhabited α] {kind : UInt8} {field : Option α} {encode : α → Bytes}
    {decode : Bytes → Go MessageError α} (name : String) (i : Nat) (inverse : ∀ value, decode (encode value) = .ok value)
    (kind_i : profileKinds[i]? = some kind)
    (field_i : u.fields[i]? = some (bytesField kind (fun value => .ok (encode value)) field)) :
    setting tlvs kind (parsing name decode) default = .ok (Setting.ofField field) := by
  refine setting_same accepted i kind_i field_i fun value bytes _ encoded => ?_
  rw [← Except.ok.inj encoded, parsing, inverse, Go.mapError_ok]

/-- A mask of APN types is reported as it was set. -/
private theorem apnType_eq {kind : UInt8} {field : Option WDSAPNTypeMask} (i : Nat)
    (kind_i : profileKinds[i]? = some kind)
    (field_i : u.fields[i]? = some (bytesField kind (fun value => .ok (LittleEndian.putUint64 value)) field)) :
    setting tlvs kind decodeAPNType default = .ok (Setting.ofField field) := by
  refine setting_same accepted i kind_i field_i fun value bytes _ encoded => ?_
  rw [← Except.ok.inj encoded, decodeAPNType_putUint64]

end

/-! The whole update. -/

/-- The IPv6 addresses of an update have no zone. -/
structure WDSProfileUpdate.Zoneless (u : WDSProfileUpdate) : Prop where
  preference : ∀ address ∈ u.ipv6AddressPreference, address.Zoneless
  primary : ∀ address ∈ u.primaryIPv6DNS, address.Zoneless
  secondary : ∀ address ∈ u.secondaryIPv6DNS, address.Zoneless

/-- The settings that report the fields of an update: those that are set with their values, the others as unknown. -/
def WDSProfileUpdate.reported (u : WDSProfileUpdate) (id : WDSProfileID) : WDSProfileSettings where
  id := id
  name := .ofField u.name
  pdpType := .ofField u.pdpType
  headerCompression := .ofField u.headerCompression
  dataCompression := .ofField u.dataCompression
  apn := .ofField u.apn
  primaryIPv4DNS := .ofField (u.primaryIPv4DNS.map Addr.unmap)
  secondaryIPv4DNS := .ofField (u.secondaryIPv4DNS.map Addr.unmap)
  umtsRequestedQoS := .ofField u.umtsRequestedQoS
  umtsMinimumQoS := .ofField u.umtsMinimumQoS
  gprsRequestedQoS := .ofField u.gprsRequestedQoS
  gprsMinimumQoS := .ofField u.gprsMinimumQoS
  username := .ofField u.username
  password := .ofField u.password
  authentication := .ofField u.authentication
  ipv4AddressPreference := .ofField (u.ipv4AddressPreference.map Addr.unmap)
  pcscfUsingPCO := .ofField u.pcscfUsingPCO
  pdpAccessControl := .ofField u.pdpAccessControl
  pcscfUsingDHCP := .ofField u.pcscfUsingDHCP
  imcn := .ofField u.imcn
  pdpContextNumber := .ofField u.pdpContextNumber
  pdpContextSecondary := .ofField u.pdpContextSecondary
  pdpContextPrimaryID := .ofField u.pdpContextPrimaryID
  ipv6AddressPreference := .ofField u.ipv6AddressPreference
  umtsRequestedQoSWithSignaling := .ofField u.umtsRequestedQoSWithSignaling
  umtsMinimumQoSWithSignaling := .ofField u.umtsMinimumQoSWithSignaling
  primaryIPv6DNS := .ofField u.primaryIPv6DNS
  secondaryIPv6DNS := .ofField u.secondaryIPv6DNS
  addressAllocationPreference := .ofField u.addressAllocationPreference
  lteQoS := .ofField u.lteQoS
  apnDisabled := .ofField u.apnDisabled
  roamingDisallowed := .ofField u.roamingDisallowed
  vlan := .ofField u.vlan
  apnType := .ofField u.apnType
  clatEnabled := .ofField u.clatEnabled
  ipv6PrefixDelegation := .ofField u.ipv6PrefixDelegation

/--
Decoding an encoded update reports exactly the fields that were set, each with its value.

An IPv4 address that was wrapped in an IPv6 address is reported by itself.
-/
theorem profile_settings_exact (u : WDSProfileUpdate) (tlvs : List TLV) (id : WDSProfileID)
    (accepted : u.marshalTLVs = .ok tlvs) (zoneless : u.Zoneless) :
    unmarshalWDSProfileSettings tlvs { id := id } = .ok (u.reported id) := by
  -- The fields are read in the order of the decoder, each from its own element.
  rw [unmarshalWDSProfileSettings]
  rw [string_eq accepted 0 rfl rfl, Go.ok_bind]
  rw [byte_eq accepted "PDP type" 1 rfl rfl, Go.ok_bind]
  rw [byte_eq accepted "PDP header compression" 2 rfl rfl, Go.ok_bind]
  rw [byte_eq accepted "PDP data compression" 3 rfl rfl, Go.ok_bind]
  rw [string_eq accepted 4 rfl rfl, Go.ok_bind]
  rw [ipv4_eq accepted "primary IPv4 DNS" 5 rfl rfl, Go.ok_bind]
  rw [ipv4_eq accepted "secondary IPv4 DNS" 6 rfl rfl, Go.ok_bind]
  rw [record_eq accepted "UMTS requested QoS" 7 WDSUMTSGrantedQoS.unmarshalBinary_marshalBinary rfl rfl, Go.ok_bind]
  rw [record_eq accepted "UMTS minimum QoS" 8 WDSUMTSGrantedQoS.unmarshalBinary_marshalBinary rfl rfl, Go.ok_bind]
  rw [record_eq accepted "GPRS requested QoS" 9 WDSGPRSGrantedQoS.unmarshalBinary_marshalBinary rfl rfl, Go.ok_bind]
  rw [record_eq accepted "GPRS minimum QoS" 10 WDSGPRSGrantedQoS.unmarshalBinary_marshalBinary rfl rfl, Go.ok_bind]
  rw [string_eq accepted 11 rfl rfl, Go.ok_bind]
  rw [string_eq accepted 12 rfl rfl, Go.ok_bind]
  rw [byte_eq accepted "authentication" 13 rfl rfl, Go.ok_bind]
  rw [ipv4_eq accepted "IPv4 address preference" 14 rfl rfl, Go.ok_bind]
  rw [bool_eq accepted "P-CSCF using PCO" 15 rfl rfl, Go.ok_bind]
  rw [byte_eq accepted "PDP access control" 16 rfl rfl, Go.ok_bind]
  rw [bool_eq accepted "P-CSCF using DHCP" 17 rfl rfl, Go.ok_bind]
  rw [bool_eq accepted "IMCN" 18 rfl rfl, Go.ok_bind]
  rw [byte_eq accepted "PDP context number" 19 rfl rfl, Go.ok_bind]
  rw [bool_eq accepted "PDP context secondary" 20 rfl rfl, Go.ok_bind]
  rw [byte_eq accepted "PDP context primary ID" 21 rfl rfl, Go.ok_bind]
  rw [ipv6_eq accepted "IPv6 address preference" 22 rfl rfl zoneless.preference, Go.ok_bind]
  rw [record_eq accepted "UMTS requested QoS with signaling" 23 WDSUMTSQoSWithSignaling.unmarshalBinary_marshalBinary rfl rfl, Go.ok_bind]
  rw [record_eq accepted "UMTS minimum QoS with signaling" 24 WDSUMTSQoSWithSignaling.unmarshalBinary_marshalBinary rfl rfl, Go.ok_bind]
  rw [ipv6_eq accepted "primary IPv6 DNS" 25 rfl rfl zoneless.primary, Go.ok_bind]
  rw [ipv6_eq accepted "secondary IPv6 DNS" 26 rfl rfl zoneless.secondary, Go.ok_bind]
  rw [byte_eq accepted "address allocation preference" 27 rfl rfl, Go.ok_bind]
  rw [record_eq accepted "LTE QoS" 28 WDSLTEQoS.unmarshalBinary_marshalBinary rfl rfl, Go.ok_bind]
  rw [bool_eq accepted "APN disabled" 29 rfl rfl, Go.ok_bind]
  rw [bool_eq accepted "roaming disallowed" 30 rfl rfl, Go.ok_bind]
  rw [record_eq accepted "VLAN range" 31 WDSVLANRange.unmarshalBinary_marshalBinary rfl rfl, Go.ok_bind]
  rw [apnType_eq accepted 32 rfl rfl, Go.ok_bind]
  rw [bool_eq accepted "CLAT enabled" 33 rfl rfl, Go.ok_bind]
  rw [bool_eq accepted "IPv6 prefix delegation" 34 rfl rfl, Go.ok_bind]
  rfl

/-- An update of some fields of different kinds. -/
def someUpdate : WDSProfileUpdate where
  name := some [0x61]
  primaryIPv4DNS := some (.four 1 2 3 4)
  imcn := some false
  primaryIPv6DNS := some (.six (List.replicate 16 0x20) rfl [])
  vlan := some ⟨7, 300⟩

/-- The elements of that update. -/
def someElements : List TLV :=
  [⟨0x10, 1, [0x61]⟩, ⟨0x15, 4, [4, 3, 2, 1]⟩, ⟨0x22, 1, [0]⟩, ⟨0x2B, 16, List.replicate 16 0x20⟩,
    ⟨0x50, 4, [7, 0, 0x2C, 1]⟩]

/-- The fields of that update, and no others, are reported. -/
theorem someUpdate_reported :
    someUpdate.marshalTLVs = .ok someElements
      ∧ unmarshalWDSProfileSettings someElements { id := ⟨0, 1⟩ } = .ok (someUpdate.reported ⟨0, 1⟩) := by
  have accepted : someUpdate.marshalTLVs = .ok someElements := rfl
  have zoneless : someUpdate.Zoneless := by
    refine ⟨fun address there => ?_, fun address there => ?_, fun address there => ?_⟩
    · cases there
    · obtain rfl := Option.some.inj there
      rfl
    · cases there
  exact ⟨accepted, profile_settings_exact someUpdate someElements ⟨0, 1⟩ accepted zoneless⟩

/-- An IPv6 address that wraps an IPv4 address. -/
def mappedAddress : Addr := .six (Addr.mappedPrefix ++ [1, 2, 3, 4]) rfl []

/-- The wrapping address is accepted for an IPv4 field, and another address is reported. -/
theorem mappedAddress_not_reported :
    ∃ tlvs, ({ primaryIPv4DNS := some mappedAddress } : WDSProfileUpdate).marshalTLVs = .ok tlvs
      ∧ mappedAddress.Zoneless
      ∧ (unmarshalWDSProfileSettings tlvs { id := ⟨0, 1⟩ }).map (·.primaryIPv4DNS) = .ok ⟨.four 1 2 3 4, true⟩
      ∧ mappedAddress ≠ .four 1 2 3 4 :=
  ⟨[⟨0x15, 4, [4, 3, 2, 1]⟩], rfl, rfl, rfl, by decide⟩

end Wwan.Qcom
