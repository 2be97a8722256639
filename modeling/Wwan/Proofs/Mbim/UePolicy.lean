import Wwan.Mbim.UePolicy
import Wwan.Proofs.Mbim.Tlv

/-! Rule and descriptor lists are canonical encodings, and no two rules have one precedence. -/

namespace Wwan.Mbim

open Utf16.ByteOrder (bigEndian putUint16_eq putUint16_uint16)
open LittleEndian (putUint32_eq putUint32_of_bytes)

/-! Traffic descriptors. -/

/-- A traffic descriptor is encoded exactly when its length is above zero and fits. -/
theorem URSPTrafficDescriptor.marshalBinary_eq_ok {d : URSPTrafficDescriptor} {data : Bytes} :
    d.marshalBinary = .ok data ↔ 0 < d.data.length ∧ d.data.length < 2 ^ 16 ∧
      d.precedence :: (bigEndian.putUint16 (UInt16.ofNat d.data.length) ++ d.data) = data := by
  simp only [URSPTrafficDescriptor.marshalBinary, Go.unit_bind_eq_ok, Go.failIf_eq_ok, Go.pure_eq, Except.ok.injEq,
    List.cons_append]
  constructor
  · rintro ⟨some, short, same⟩
    exact ⟨by omega, by omega, same⟩
  · rintro ⟨some, short, same⟩
    exact ⟨by omega, by omega, same⟩

/-- A traffic descriptor is read back from in front of anything. -/
theorem URSPTrafficDescriptor.unmarshalPrefix_marshalBinary {d : URSPTrafficDescriptor} {data : Bytes}
    (encoded : d.marshalBinary = .ok data) (rest : Bytes) :
    unmarshalURSPTrafficDescriptorPrefix (data ++ rest) = .ok (d, data.length) := by
  obtain ⟨some, short, rfl⟩ := marshalBinary_eq_ok.mp encoded
  obtain ⟨l0, l1, stored, read⟩ := putUint16_eq bigEndian (UInt16.ofNat d.data.length)
  -- The length field holds the true length, because that is below its limit.
  have size : (bigEndian.uint16 l0 l1).toNat = d.data.length := by
    rw [read]
    exact UInt16.toNat_ofNat_of_lt' short
  rw [stored]
  -- The fields are found where they were written.
  have lengthField : (Go.slice (d.precedence :: ([l0, l1] ++ d.data) ++ rest) 1 3 : Go Error Bytes) = .ok [l0, l1] :=
    Go.slice_between [d.precedence] rfl rfl rfl
  have content : (Go.slice (d.precedence :: ([l0, l1] ++ d.data) ++ rest) 3 (3 + d.data.length) : Go Error Bytes) =
      .ok d.data :=
    Go.slice_between [d.precedence, l0, l1] rfl rfl rfl
  rw [unmarshalURSPTrafficDescriptorPrefix, Go.failIf_bind_of_not (by simp), lengthField, Go.ok_bind,
    Utf16.ByteOrder.getUint16_cons, Go.ok_bind, size, Go.failIf_bind_of_not (by omega)]
  rw [Go.failIf_bind_of_not (by simp; omega)]
  rw [show (Go.index (d.precedence :: ([l0, l1] ++ d.data) ++ rest) 0 : Go Error UInt8) = .ok d.precedence from rfl,
    Go.ok_bind, content, Go.ok_bind]
  have total : (d.precedence :: ([l0, l1] ++ d.data)).length = 3 + d.data.length := by
    simp only [List.length_cons, List.length_append, List.length_nil]
    omega
  rw [total]
  rfl

/-- What is read off the front is the encoding of the traffic descriptor that is returned. -/
theorem URSPTrafficDescriptor.ensures_unmarshalPrefix (data : Bytes) :
    (unmarshalURSPTrafficDescriptorPrefix data).Ensures fun item =>
      0 < item.2 ∧ item.2 ≤ data.length ∧ item.1.marshalBinary = .ok (data.take item.2) := by
  rw [unmarshalURSPTrafficDescriptorPrefix]
  refine Go.ensures_failIf.bind fun _ header => ?_
  -- Precedence and length take three bytes.
  obtain ⟨precedence, r0, rfl, long0⟩ := exists_cons_of_le_length (Nat.le_of_not_lt header)
  obtain ⟨l0, r1, rfl, long1⟩ := exists_cons_of_le_length long0
  obtain ⟨l1, rest, rfl, -⟩ := exists_cons_of_le_length long1
  have lengthField : (Go.slice (precedence :: l0 :: l1 :: rest) 1 3 : Go Error Bytes) = .ok [l0, l1] :=
    Go.slice_between [precedence] rfl rfl rfl
  rw [lengthField, Go.ok_bind, Utf16.ByteOrder.getUint16_cons, Go.ok_bind]
  refine Go.ensures_failIf.bind fun _ some => ?_
  refine Go.ensures_failIf.bind fun _ inside => ?_
  rw [show (Go.index (precedence :: l0 :: l1 :: rest) 0 : Go Error UInt8) = .ok precedence from rfl, Go.ok_bind,
    Go.slice_eq_ok (by omega) (by omega), Go.ok_bind]
  obtain ⟨n, size⟩ : ∃ n, n = (bigEndian.uint16 l0 l1).toNat := ⟨_, rfl⟩
  rw [← size] at some inside ⊢
  simp only [List.length_cons] at inside
  -- The data are as long as the length says.
  have taken : (rest.take n).length = n := by
    rw [List.length_take]
    omega
  have cut : ((precedence :: l0 :: l1 :: rest).drop 3).take (3 + n - 3) = rest.take n := by simp
  rw [cut]
  refine Go.ensures_ok ⟨by simp only; omega, by simp only [List.length_cons]; omega, ?_⟩
  have bound := (bigEndian.uint16 l0 l1).toNat_lt
  refine marshalBinary_eq_ok.mpr ⟨by simp only [taken]; omega, by simp only [taken]; omega, ?_⟩
  rw [taken, size, UInt16.ofNat_toNat, putUint16_uint16, ← size, Nat.add_comm]
  rfl

/-- Every rule of a list is read back, whatever follows. -/
theorem URSPTrafficDescriptor.inverts : Sequence.Inverts URSPTrafficDescriptor.marshalItem
    URSPTrafficDescriptor.unmarshalItem id (fun _ => True) (fun _ => True) where
  nonempty := by
    -- An encoding has its header at least.
    intro before x encoded written
    obtain ⟨-, written⟩ := Go.unit_bind_eq_ok.mp written
    obtain ⟨-, -, rfl⟩ := marshalBinary_eq_ok.mp (Go.mapError_eq_ok.mp written)
    simp
  roundTrip := by
    -- A rule with a new precedence passes the check of the reader too.
    intro before x encoded rest _ written _
    obtain ⟨fresh, written⟩ := Go.unit_bind_eq_ok.mp written
    rw [Go.failIf_eq_ok] at fresh
    have read := unmarshalPrefix_marshalBinary (Go.mapError_eq_ok.mp written) rest
    rw [List.map_id, URSPTrafficDescriptor.unmarshalItem, read, Go.mapError_ok, Go.ok_bind, Go.failIf_bind_of_not fresh]
    rfl
  next := fun _ _ _ _ _ => trivial

/-- The parser of a list accepts only encoded rules. -/
theorem URSPTrafficDescriptor.canonical :
    Sequence.Canonical URSPTrafficDescriptor.marshalItem URSPTrafficDescriptor.unmarshalItem := by
  intro values data _
  refine (URSPTrafficDescriptor.ensures_unmarshalPrefix data).mapError.bind fun item read => ?_
  obtain ⟨progress, inside, encoded⟩ := read
  refine Go.ensures_failIf.bind fun _ fresh => ?_
  refine Go.ensures_ok ⟨progress, inside, ?_⟩
  rw [URSPTrafficDescriptor.marshalItem, Go.failIf_bind_of_not fresh]
  exact Go.mapError_eq_ok.mpr encoded

/-- Rules that are encoded have different precedences. -/
theorem URSPTrafficDescriptor.nodup_of_write {rules : List URSPTrafficDescriptor} {data : Bytes}
    (written : Sequence.write URSPTrafficDescriptor.marshalItem [] rules = .ok data) :
    (rules.map URSPTrafficDescriptor.precedence).Nodup := by
  refine Sequence.nodup_of_write (fun before x encoded item => ?_) written List.nodup_nil
  exact Go.failIf_eq_ok.mp (Go.unit_bind_eq_ok.mp item).1

/-- What a list of rules is encoded as. -/
theorem newURSPRulesTDOnlyTLV_eq_ok {rules : List URSPTrafficDescriptor} {tlv : TLV} :
    newURSPRulesTDOnlyTLV rules = .ok tlv ↔ tlv.type = TLVType.urspRulesTDOnly ∧
      Sequence.write URSPTrafficDescriptor.marshalItem [] rules = .ok tlv.data := by
  simp only [newURSPRulesTDOnlyTLV, Go.bind_eq_ok, Go.mapError_eq_ok, Go.pure_eq, Except.ok.injEq]
  constructor
  · rintro ⟨data, written, rfl⟩
    exact ⟨rfl, written⟩
  · rintro ⟨typed, written⟩
    exact ⟨tlv.data, written, by rw [← typed]⟩

/-- Rules are read back from their TLV. -/
theorem URSPRules.unmarshalTLV_new {rules : List URSPTrafficDescriptor} {tlv : TLV}
    (new : newURSPRulesTDOnlyTLV rules = .ok tlv) : URSPRules.unmarshalTLV tlv = .ok rules := by
  obtain ⟨typed, written⟩ := newURSPRulesTDOnlyTLV_eq_ok.mp new
  have read := URSPTrafficDescriptor.inverts.readAll_write trivial (fun _ _ => trivial) written
  rw [List.map_id] at read
  rw [URSPRules.unmarshalTLV, Go.failIf_bind_of_not (by simpa using typed), read, Go.mapError_ok]

/-- An accepted TLV of rules is the one of the rules it is read as. -/
theorem URSPRules.ensures_unmarshalTLV (tlv : TLV) :
    (URSPRules.unmarshalTLV tlv).Ensures fun rules => newURSPRulesTDOnlyTLV rules = .ok tlv := by
  refine Go.ensures_failIf.bind fun _ typed => ?_
  refine (URSPTrafficDescriptor.canonical.ensures_readAll tlv.data).mapError.mono fun rules written => ?_
  exact newURSPRulesTDOnlyTLV_eq_ok.mpr ⟨not_not.mp typed, written⟩

/-- The encodings of rules one after the other, whatever their precedences, and how they are read. -/
private theorem plain_inverts : Sequence.Inverts (fun _ (rule : URSPTrafficDescriptor) => rule.marshalBinary)
    (fun _ data => unmarshalURSPTrafficDescriptorPrefix data) id (fun _ => True) (fun _ => True) where
  nonempty := by
    intro before x encoded written
    obtain ⟨-, -, rfl⟩ := URSPTrafficDescriptor.marshalBinary_eq_ok.mp written
    simp
  roundTrip := fun _ _ _ rest _ written _ => URSPTrafficDescriptor.unmarshalPrefix_marshalBinary written rest
  next := fun _ _ _ _ _ => trivial

/-- The checked encoding of rules is their plain encoding. -/
private theorem plain_of_write {before rules : List URSPTrafficDescriptor} {data : Bytes}
    (written : Sequence.write URSPTrafficDescriptor.marshalItem before rules = .ok data) :
    Sequence.write (fun _ (rule : URSPTrafficDescriptor) => rule.marshalBinary) before rules = .ok data := by
  induction rules generalizing before data with
  | nil => exact written
  | cons rule rules ih =>
    -- Induction on the rules, of which each passes its check.
    obtain ⟨encoded, first, written⟩ := Go.bind_eq_ok.mp written
    obtain ⟨others, rest, written⟩ := Go.bind_eq_ok.mp written
    obtain ⟨-, first⟩ := Go.unit_bind_eq_ok.mp first
    rw [Sequence.write, Go.mapError_eq_ok.mp first, Go.ok_bind, ih rest, Go.ok_bind]
    exact written

/-- Data that holds two rules of one precedence is rejected. -/
theorem URSPRules.unmarshalTLV_duplicate {rules : List URSPTrafficDescriptor} {tlv : TLV}
    (written : Sequence.write (fun _ (rule : URSPTrafficDescriptor) => rule.marshalBinary) [] rules = .ok tlv.data)
    (duplicate : ¬ (rules.map URSPTrafficDescriptor.precedence).Nodup) :
    ∃ error, URSPRules.unmarshalTLV tlv = Go.fail error := by
  have accepted := URSPRules.ensures_unmarshalTLV tlv
  cases outcome : URSPRules.unmarshalTLV tlv with
  | error fault =>
    -- The parser fails, and does not panic.
    cases fault with
    | err error => exact ⟨error, rfl⟩
    | outOfRange => exact absurd outcome accepted.1
  | ok rules' =>
    -- The rules that were read have the same plain encoding, so they are the rules that were written.
    have written' := (newURSPRulesTDOnlyTLV_eq_ok.mp (accepted.2 rules' outcome)).2
    have read := plain_inverts.readAll_write trivial (fun _ _ => trivial) written
    have read' := plain_inverts.readAll_write trivial (fun _ _ => trivial) (plain_of_write written')
    rw [List.map_id] at read read'
    have same : rules = rules' := Except.ok.inj (read.symm.trans read')
    rw [same] at duplicate
    exact absurd (URSPTrafficDescriptor.nodup_of_write written') duplicate

/-! Route selection descriptors. -/

/-- The fields of a descriptor that can be sent. -/
def RouteSelectionDescriptor.Valid (d : RouteSelectionDescriptor) : Prop :=
  ¬ d.source > RouteSelectionDescriptorSource.modemLocal ∧
    ¬ d.purpose &&& ~~~RouteSelectionDescriptorPurpose.purchase ≠ 0 ∧ 0 < d.contents.length ∧
    d.contents.length + 3 < 2 ^ 16

/-- A descriptor is encoded exactly when it is valid. -/
theorem RouteSelectionDescriptor.marshalBinary_eq_ok {d : RouteSelectionDescriptor} {data : Bytes} :
    d.marshalBinary = .ok data ↔ d.Valid ∧ LittleEndian.putUint32 d.source ++ (LittleEndian.putUint32 d.purpose ++
      (bigEndian.putUint16 (UInt16.ofNat (3 + d.contents.length)) ++ (d.precedence ::
        (bigEndian.putUint16 (UInt16.ofNat d.contents.length) ++ d.contents)))) = data := by
  simp only [RouteSelectionDescriptor.marshalBinary, RouteSelectionDescriptor.Valid, Go.unit_bind_eq_ok, Go.failIf_eq_ok,
    Go.pure_eq, Except.ok.injEq]
  constructor
  · rintro ⟨source, purpose, some, short, same⟩
    exact ⟨⟨source, purpose, by omega, by omega⟩, same⟩
  · rintro ⟨⟨source, purpose, some, short⟩, same⟩
    exact ⟨source, purpose, by omega, by omega, same⟩

/-- A descriptor is read back from in front of anything. -/
theorem RouteSelectionDescriptor.unmarshalPrefix_marshalBinary {d : RouteSelectionDescriptor} {data : Bytes}
    (encoded : d.marshalBinary = .ok data) (rest : Bytes) :
    unmarshalRouteSelectionDescriptorPrefix (data ++ rest) = .ok (d, data.length) := by
  obtain ⟨⟨source, purpose, some, short⟩, rfl⟩ := marshalBinary_eq_ok.mp encoded
  obtain ⟨s0, s1, s2, s3, sourceStored, sourceRead⟩ := putUint32_eq d.source
  obtain ⟨p0, p1, p2, p3, purposeStored, purposeRead⟩ := putUint32_eq d.purpose
  obtain ⟨l0, l1, lengthStored, lengthRead⟩ := putUint16_eq bigEndian (UInt16.ofNat (3 + d.contents.length))
  obtain ⟨c0, c1, contentsStored, contentsRead⟩ := putUint16_eq bigEndian (UInt16.ofNat d.contents.length)
  -- Both length fields hold the true lengths, because these are below their limits.
  have length : (bigEndian.uint16 l0 l1).toNat = 3 + d.contents.length := by
    rw [lengthRead]
    exact UInt16.toNat_ofNat_of_lt' (by simp [UInt16.size]; omega)
  have contents : (bigEndian.uint16 c0 c1).toNat = d.contents.length := by
    rw [contentsRead]
    exact UInt16.toNat_ofNat_of_lt' (by simp [UInt16.size]; omega)
  rw [sourceStored, purposeStored, lengthStored, contentsStored]
  obtain ⟨whole, shape⟩ : ∃ whole, whole = [s0, s1, s2, s3] ++ ([p0, p1, p2, p3] ++ ([l0, l1] ++ (d.precedence ::
      ([c0, c1] ++ d.contents)))) ++ rest := ⟨_, rfl⟩
  have extent : whole.length = 13 + d.contents.length + rest.length := by
    simp only [shape, List.length_append, List.length_cons, List.length_nil]
    omega
  -- Every field stands where it is read.
  have sourceField : (Go.slice whole 0 4 : Go Error Bytes) = .ok [s0, s1, s2, s3] := Go.slice_between [] shape rfl rfl
  have purposeField : (Go.slice whole 4 8 : Go Error Bytes) = .ok [p0, p1, p2, p3] :=
    Go.slice_between [s0, s1, s2, s3] shape rfl rfl
  have lengthField : (Go.slice whole 8 10 : Go Error Bytes) = .ok [l0, l1] :=
    Go.slice_between [s0, s1, s2, s3, p0, p1, p2, p3] shape rfl rfl
  have contentsField : (Go.slice whole 11 13 : Go Error Bytes) = .ok [c0, c1] :=
    Go.slice_between [s0, s1, s2, s3, p0, p1, p2, p3, l0, l1, d.precedence] shape rfl rfl
  have precedence : (Go.index whole 10 : Go Error UInt8) = .ok d.precedence := by rw [shape]; rfl
  have content : (Go.slice whole 13 (10 + (3 + d.contents.length)) : Go Error Bytes) = .ok d.contents :=
    Go.slice_between [s0, s1, s2, s3, p0, p1, p2, p3, l0, l1, d.precedence, c0, c1] shape rfl
      (Nat.add_assoc 10 3 _)
  have total : ([s0, s1, s2, s3] ++ ([p0, p1, p2, p3] ++ ([l0, l1] ++ (d.precedence :: ([c0, c1] ++ d.contents))))).length =
      10 + (3 + d.contents.length) := by
    simp only [List.length_append, List.length_cons, List.length_nil]
    omega
  rw [← shape, total, unmarshalRouteSelectionDescriptorPrefix, Go.failIf_bind_of_not (by omega)]
  -- Field by field, each check passes.
  rw [sourceField, Go.ok_bind, LittleEndian.getUint32_cons, Go.ok_bind, sourceRead, Go.failIf_bind_of_not source]
  rw [purposeField, Go.ok_bind, LittleEndian.getUint32_cons, Go.ok_bind, purposeRead, Go.failIf_bind_of_not purpose]
  rw [lengthField, Go.ok_bind, Utf16.ByteOrder.getUint16_cons, Go.ok_bind, length]
  rw [Go.failIf_bind_of_not (by simp only [minimumRouteSelectionDescriptorLength]; omega),
    Go.failIf_bind_of_not (by omega)]
  rw [contentsField, Go.ok_bind, Utf16.ByteOrder.getUint16_cons, Go.ok_bind, contents,
    Go.failIf_bind_of_not (by omega), precedence, Go.ok_bind, content, Go.ok_bind]
  rfl

/-- What is read off the front is the encoding of the descriptor that is returned. -/
theorem RouteSelectionDescriptor.ensures_unmarshalPrefix (data : Bytes) :
    (unmarshalRouteSelectionDescriptorPrefix data).Ensures fun item =>
      0 < item.2 ∧ item.2 ≤ data.length ∧ item.1.marshalBinary = .ok (data.take item.2) := by
  rw [unmarshalRouteSelectionDescriptorPrefix]
  refine Go.ensures_failIf.bind fun _ header => ?_
  -- Ten bytes of header are there.
  obtain ⟨s0, r0, rfl, long0⟩ := exists_cons_of_le_length (Nat.le_of_not_lt header)
  obtain ⟨s1, r1, rfl, long1⟩ := exists_cons_of_le_length long0
  obtain ⟨s2, r2, rfl, long2⟩ := exists_cons_of_le_length long1
  obtain ⟨s3, r3, rfl, long3⟩ := exists_cons_of_le_length long2
  obtain ⟨p0, r4, rfl, long4⟩ := exists_cons_of_le_length long3
  obtain ⟨p1, r5, rfl, long5⟩ := exists_cons_of_le_length long4
  obtain ⟨p2, r6, rfl, long6⟩ := exists_cons_of_le_length long5
  obtain ⟨p3, r7, rfl, long7⟩ := exists_cons_of_le_length long6
  obtain ⟨l0, r8, rfl, long8⟩ := exists_cons_of_le_length long7
  obtain ⟨l1, rest, rfl, -⟩ := exists_cons_of_le_length long8
  obtain ⟨data, shape⟩ : ∃ data, data = s0 :: s1 :: s2 :: s3 :: p0 :: p1 :: p2 :: p3 :: l0 :: l1 :: rest := ⟨_, rfl⟩
  have extent : data.length = 10 + rest.length := by
    simp only [shape, List.length_cons]
    omega
  have sourceField : (Go.slice data 0 4 : Go Error Bytes) = .ok [s0, s1, s2, s3] := Go.slice_between [] shape rfl rfl
  have purposeField : (Go.slice data 4 8 : Go Error Bytes) = .ok [p0, p1, p2, p3] :=
    Go.slice_between [s0, s1, s2, s3] shape rfl rfl
  have lengthField : (Go.slice data 8 10 : Go Error Bytes) = .ok [l0, l1] :=
    Go.slice_between [s0, s1, s2, s3, p0, p1, p2, p3] shape rfl rfl
  rw [← shape, sourceField, Go.ok_bind, LittleEndian.getUint32_cons, Go.ok_bind]
  refine Go.ensures_failIf.bind fun _ source => ?_
  rw [purposeField, Go.ok_bind, LittleEndian.getUint32_cons, Go.ok_bind]
  refine Go.ensures_failIf.bind fun _ purpose => ?_
  rw [lengthField, Go.ok_bind, Utf16.ByteOrder.getUint16_cons, Go.ok_bind]
  obtain ⟨n, size⟩ : ∃ n, n = (bigEndian.uint16 l0 l1).toNat := ⟨_, rfl⟩
  have bound := (bigEndian.uint16 l0 l1).toNat_lt
  rw [← size] at bound ⊢
  refine Go.ensures_failIf.bind fun _ least => ?_
  refine Go.ensures_failIf.bind fun _ inside => ?_
  simp only [minimumRouteSelectionDescriptorLength] at least
  -- The declared length covers the precedence and the second length.
  have long : 3 ≤ rest.length := by omega
  obtain ⟨precedence, t0, rfl, more0⟩ := exists_cons_of_le_length long
  obtain ⟨c0, t1, rfl, more1⟩ := exists_cons_of_le_length more0
  obtain ⟨c1, tail, rfl, -⟩ := exists_cons_of_le_length more1
  have contentsField : (Go.slice data 11 13 : Go Error Bytes) = .ok [c0, c1] :=
    Go.slice_between [s0, s1, s2, s3, p0, p1, p2, p3, l0, l1, precedence] shape rfl rfl
  have precedenceField : (Go.index data 10 : Go Error UInt8) = .ok precedence := by rw [shape]; rfl
  rw [contentsField, Go.ok_bind, Utf16.ByteOrder.getUint16_cons, Go.ok_bind]
  refine Go.ensures_failIf.bind fun _ matching => ?_
  rw [not_not] at matching
  rw [precedenceField, Go.ok_bind, Go.slice_eq_ok (by omega) (by omega), Go.ok_bind]
  simp only [List.length_cons] at extent
  obtain ⟨m, rfl⟩ : ∃ m, n = 3 + m := ⟨n - 3, by omega⟩
  have cut : (data.drop 13).take (10 + (3 + m) - 13) = tail.take m := by
    rw [shape, show 10 + (3 + m) - 13 = m by omega]
    rfl
  have taken : (tail.take m).length = m := by
    rw [List.length_take]
    omega
  rw [cut]
  refine Go.ensures_ok ⟨by simp only; omega, by simp only; omega, ?_⟩
  apply marshalBinary_eq_ok.mpr
  refine ⟨⟨source, purpose, by simp only [taken]; omega, by simp only [taken]; omega⟩, ?_⟩
  -- Both length fields hold what was read from them.
  have contentsBytes : bigEndian.putUint16 (UInt16.ofNat m) = [c0, c1] := by
    rw [show m = (bigEndian.uint16 c0 c1).toNat by omega, UInt16.ofNat_toNat, putUint16_uint16]
  have lengthBytes : bigEndian.putUint16 (UInt16.ofNat (3 + m)) = [l0, l1] := by
    rw [size, UInt16.ofNat_toNat, putUint16_uint16]
  have whole : data.take (10 + (3 + m)) = s0 :: s1 :: s2 :: s3 :: p0 :: p1 :: p2 :: p3 :: l0 :: l1 :: precedence :: c0 ::
      c1 :: tail.take m := by
    rw [shape, ← Nat.add_assoc, Nat.add_comm]
    rfl
  simp only [taken]
  rw [putUint32_of_bytes, putUint32_of_bytes, lengthBytes, contentsBytes, whole]
  rfl

/-- Every descriptor of a list is read back, whatever follows. -/
theorem RouteSelectionDescriptor.inverts : Sequence.Inverts RouteSelectionDescriptor.marshalItem
    RouteSelectionDescriptor.unmarshalItem id (fun _ => True) (fun _ => True) where
  nonempty := by
    intro before x encoded written
    obtain ⟨-, rfl⟩ := marshalBinary_eq_ok.mp (Go.mapError_eq_ok.mp written)
    simp [LittleEndian.putUint32]
  roundTrip := by
    intro before x encoded rest _ written _
    exact Go.mapError_eq_ok.mpr (unmarshalPrefix_marshalBinary (Go.mapError_eq_ok.mp written) rest)
  next := fun _ _ _ _ _ => trivial

/-- The parser of a list accepts only encoded descriptors. -/
theorem RouteSelectionDescriptor.canonical :
    Sequence.Canonical RouteSelectionDescriptor.marshalItem RouteSelectionDescriptor.unmarshalItem := by
  intro values data _
  refine (RouteSelectionDescriptor.ensures_unmarshalPrefix data).mapError.mono fun item read => ?_
  obtain ⟨progress, inside, encoded⟩ := read
  exact ⟨progress, inside, Go.mapError_eq_ok.mpr encoded⟩

/-- Rules and descriptors are read back from their TLVs, accepted TLVs are encoded again as they were, and two rules of
one precedence are rejected on both sides. -/
theorem policy_tlvs_exact :
    (∀ rules tlv, newURSPRulesTDOnlyTLV rules = .ok tlv → URSPRules.unmarshalTLV tlv = .ok rules) ∧
    (∀ tlv, (URSPRules.unmarshalTLV tlv).Ensures fun rules => newURSPRulesTDOnlyTLV rules = .ok tlv) ∧
    (∀ values tlv, newRouteSelectionDescriptorsTLV values = .ok tlv →
      RouteSelectionDescriptors.unmarshalTLV tlv = .ok values) ∧
    (∀ tlv, (RouteSelectionDescriptors.unmarshalTLV tlv).Ensures fun values =>
      newRouteSelectionDescriptorsTLV values = .ok tlv) ∧
    ∀ rules : List URSPTrafficDescriptor, ¬ (rules.map URSPTrafficDescriptor.precedence).Nodup →
      (∀ tlv, newURSPRulesTDOnlyTLV rules ≠ .ok tlv) ∧ (∀ tlv, URSPRules.unmarshalTLV tlv ≠ .ok rules) ∧
      ∀ data, Sequence.write (fun _ (rule : URSPTrafficDescriptor) => rule.marshalBinary) [] rules = .ok data →
        ∃ error, URSPRules.unmarshalTLV ⟨TLVType.urspRulesTDOnly, data⟩ = Go.fail error := by
  refine ⟨fun _ _ => URSPRules.unmarshalTLV_new, URSPRules.ensures_unmarshalTLV, ?_, ?_, ?_⟩
  · intro values tlv new
    have read : RouteSelectionDescriptors.unmarshalTLV tlv = .ok (values.map id) :=
      unmarshalListTLV_newListTLV RouteSelectionDescriptor.inverts trivial (fun _ _ => trivial) new
    rwa [List.map_id] at read
  · exact fun tlv => ensures_unmarshalListTLV RouteSelectionDescriptor.canonical tlv
  · intro rules duplicate
    have refused (tlv : TLV) : newURSPRulesTDOnlyTLV rules ≠ .ok tlv := fun new =>
      duplicate (URSPTrafficDescriptor.nodup_of_write (newURSPRulesTDOnlyTLV_eq_ok.mp new).2)
    refine ⟨refused, fun tlv read => ?_, fun data written => ?_⟩
    · exact refused tlv ((URSPRules.ensures_unmarshalTLV tlv).2 rules read)
    · exact URSPRules.unmarshalTLV_duplicate written duplicate

/-- Two rules of one precedence in one TLV. -/
example : URSPRules.unmarshalTLV ⟨20, [7, 0, 1, 0xAA, 7, 0, 1, 0xBB]⟩ =
    Go.fail (.wrap "parsing URSP rules traffic descriptors TLV" [] (.format "duplicate precedence %d" [7])) := by
  decide

end Wwan.Mbim
