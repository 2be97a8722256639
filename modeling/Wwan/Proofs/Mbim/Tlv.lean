import Wwan.Mbim.Tlv

/-! TLV lists are a canonical encoding. -/

namespace Wwan.Mbim

open Utf16.ByteOrder (littleEndian putUint16_eq putUint16_uint16)
open LittleEndian (putUint32_eq putUint32_of_bytes)

/-- The padding is the byte count that completes a group of four. -/
theorem paddingLength_lt (length : Nat) : paddingLength length < 4 := Nat.mod_lt _ (by decide)

/-- A padding length fits into its byte. -/
theorem toNat_paddingLength (length : Nat) : (UInt8.ofNat (paddingLength length)).toNat = paddingLength length :=
  UInt8.toNat_ofNat_of_lt' (by have := paddingLength_lt length; simp [UInt8.size]; omega)

/-- A TLV takes its header, its data and the padding. -/
theorem marshalTLV_length (typ : TLVType) (value : Bytes) :
    (marshalTLV typ value).length = 8 + value.length + paddingLength value.length := by
  obtain ⟨t0, t1, stored, -⟩ := putUint16_eq littleEndian typ
  simp only [marshalTLV, stored, List.length_append, List.length_cons, List.length_nil, LittleEndian.putUint32_length,
    List.length_replicate]

/-- Types that are not reserved pass their check. -/
theorem validateTLVType_eq_ok {typ : TLVType} :
    validateTLVType typ = .ok () ↔ ¬ (typ = 0 ∨ typ > maxTLVType) :=
  Go.failIf_eq_ok

/-- A TLV is encoded exactly when its type is not reserved and its length fits. -/
theorem TLV.marshalBinary_eq_ok {t : TLV} {data : Bytes} : t.marshalBinary = .ok data ↔
    t.Valid ∧ marshalTLV t.type t.data = data := by
  simp only [TLV.Valid, TLV.marshalBinary, Go.unit_bind_eq_ok, Go.mapError_eq_ok, validateTLVType_eq_ok, Go.failIf_eq_ok, Go.pure_eq,
    Except.ok.injEq]
  constructor
  · rintro ⟨typ, short, same⟩
    exact ⟨⟨typ, by omega⟩, same⟩
  · rintro ⟨⟨typ, short⟩, same⟩
    exact ⟨typ, by omega, same⟩

/-- A TLV is read back from in front of anything. -/
theorem unmarshalTLVPrefix_marshalTLV {typ : TLVType} {value : Bytes} (can : TLV.Valid ⟨typ, value⟩) (rest : Bytes) :
    unmarshalTLVPrefix (marshalTLV typ value ++ rest) = .ok (⟨typ, value⟩, (marshalTLV typ value).length) := by
  obtain ⟨valid, short⟩ := can
  simp only at valid short
  obtain ⟨t0, t1, typStored, typRead⟩ := putUint16_eq littleEndian typ
  obtain ⟨l0, l1, l2, l3, lengthStored, lengthRead⟩ := putUint32_eq (UInt32.ofNat value.length)
  -- The length field holds the true length, because that is below its limit.
  have size : (LittleEndian.uint32At [l0, l1, l2, l3] 0).toNat = value.length := by
    rw [lengthRead]
    exact UInt32.toNat_ofNat_of_lt' short
  have padding := toNat_paddingLength value.length
  have small := paddingLength_lt value.length
  have limit : ¬ UInt8.ofNat (paddingLength value.length) > 3 := by
    rw [gt_iff_lt, UInt8.lt_iff_toNat_lt, padding]
    simp only [UInt8.reduceToNat]
    omega
  have zeros : ¬ ∃ byte ∈ List.replicate (paddingLength value.length) (0 : UInt8), byte ≠ 0 := by
    rintro ⟨byte, member, nonzero⟩
    exact nonzero (List.eq_of_mem_replicate member)
  -- Behind the eight header bytes stand the data, the padding and the rest.
  obtain ⟨data, shape⟩ : ∃ data, data = t0 :: t1 :: 0 :: UInt8.ofNat (paddingLength value.length) :: l0 :: l1 :: l2 :: l3 ::
      (value ++ (List.replicate (paddingLength value.length) 0 ++ rest)) := ⟨_, rfl⟩
  have whole : marshalTLV typ value ++ rest = data := by
    simp [shape, marshalTLV, typStored, lengthStored]
  have long : data.length = 8 + value.length + paddingLength value.length + rest.length := by
    rw [← whole, List.length_append, marshalTLV_length]
  have typField : (Go.slice data 0 2 : Go Error Bytes) = .ok [t0, t1] := by simp [shape, Go.slice]
  have lengthField : (Go.slice data 4 8 : Go Error Bytes) = .ok [l0, l1, l2, l3] := by simp [shape, Go.slice]
  have reserved : (Go.index data 2 : Go Error UInt8) = .ok 0 := by simp [shape, Go.index]
  have declared : (Go.index data 3 : Go Error UInt8) = .ok (UInt8.ofNat (paddingLength value.length)) := by
    simp [shape, Go.index]
  have content : (Go.slice data 8 (8 + value.length) : Go Error Bytes) = .ok value :=
    Go.slice_between [t0, t1, 0, UInt8.ofNat (paddingLength value.length), l0, l1, l2, l3] shape rfl rfl
  have padded : (Go.slice data (8 + value.length) (8 + value.length + paddingLength value.length) : Go Error Bytes) =
      .ok (List.replicate (paddingLength value.length) 0) := by
    refine Go.slice_between (t0 :: t1 :: 0 :: UInt8.ofNat (paddingLength value.length) :: l0 :: l1 :: l2 :: l3 ::
      value) shape ?_ (by simp)
    simp only [List.length_cons]
    omega
  -- Every check passes and every field reads back.
  rw [whole, unmarshalTLVPrefix, Go.failIf_bind_of_not (by omega), typField]
  simp only [Go.ok_bind, Utf16.ByteOrder.getUint16_cons, typRead]
  rw [validateTLVType_eq_ok.mpr valid, reserved, declared, lengthField]
  simp only [Go.mapError_ok, Go.ok_bind, LittleEndian.getUint32_cons, size, padding]
  rw [Go.failIf_bind_of_not (by simp), Go.failIf_bind_of_not limit, Go.failIf_bind_of_not (by simp),
    Go.failIf_bind_of_not (by omega), padded, Go.ok_bind, Go.failIf_bind_of_not zeros, content, Go.ok_bind,
    marshalTLV_length]
  rfl

/-- What is read off the front is the encoding of the TLV that is returned. -/
theorem ensures_unmarshalTLVPrefix (data : Bytes) : (unmarshalTLVPrefix data).Ensures fun item =>
    0 < item.2 ∧ item.2 ≤ data.length ∧ item.1.marshalBinary = .ok (data.take item.2) := by
  rw [unmarshalTLVPrefix]
  refine Go.ensures_failIf.bind fun _ header => ?_
  -- Eight bytes of header are there, so the fixed fields are the bytes by name.
  obtain ⟨t0, r0, rfl, long0⟩ := exists_cons_of_le_length (Nat.le_of_not_lt header)
  obtain ⟨t1, r1, rfl, long1⟩ := exists_cons_of_le_length long0
  obtain ⟨reserved, r2, rfl, long2⟩ := exists_cons_of_le_length long1
  obtain ⟨declared, r3, rfl, long3⟩ := exists_cons_of_le_length long2
  obtain ⟨l0, r4, rfl, long4⟩ := exists_cons_of_le_length long3
  obtain ⟨l1, r5, rfl, long5⟩ := exists_cons_of_le_length long4
  obtain ⟨l2, r6, rfl, long6⟩ := exists_cons_of_le_length long5
  obtain ⟨l3, rest, rfl, -⟩ := exists_cons_of_le_length long6
  obtain ⟨data, shape⟩ : ∃ data, data = t0 :: t1 :: reserved :: declared :: l0 :: l1 :: l2 :: l3 :: rest := ⟨_, rfl⟩
  have typField : (Go.slice data 0 2 : Go Error Bytes) = .ok [t0, t1] := by simp [shape, Go.slice]
  have lengthField : (Go.slice data 4 8 : Go Error Bytes) = .ok [l0, l1, l2, l3] := by simp [shape, Go.slice]
  have reservedField : (Go.index data 2 : Go Error UInt8) = .ok reserved := by simp [shape, Go.index]
  have declaredField : (Go.index data 3 : Go Error UInt8) = .ok declared := by simp [shape, Go.index]
  rw [← shape, typField, reservedField, declaredField, lengthField]
  simp only [Go.ok_bind, Utf16.ByteOrder.getUint16_cons, LittleEndian.getUint32_cons]
  obtain ⟨n, size⟩ : ∃ n, n = (LittleEndian.uint32At [l0, l1, l2, l3] 0).toNat := ⟨_, rfl⟩
  rw [← size]
  refine Go.ensures_failIf.mapError.bind fun _ valid => ?_
  refine Go.ensures_failIf.bind fun _ cleared => ?_
  refine Go.ensures_failIf.bind fun _ _ => ?_
  refine Go.ensures_failIf.bind fun _ matching => ?_
  refine Go.ensures_failIf.bind fun _ inside => ?_
  rw [not_not] at cleared matching
  rw [matching] at inside ⊢
  have extent : data.length = 8 + rest.length := by
    simp only [shape, List.length_cons]
    omega
  -- The data and the padding stand in front of what is left.
  have padding : (Go.slice data (8 + n) (8 + n + paddingLength n) : Go Error Bytes) =
      .ok ((rest.drop n).take (paddingLength n)) := by
    rw [Go.slice_eq_ok (by omega) (by omega), shape]
    simp [Nat.add_comm 8]
  have content : (Go.slice data 8 (8 + n) : Go Error Bytes) = .ok (rest.take n) := by
    rw [Go.slice_eq_ok (by omega) (by omega), shape]
    simp
  rw [padding, content]
  simp only [Go.ok_bind]
  refine Go.ensures_failIf.bind fun _ zeros => ?_
  have filled : (rest.drop n).take (paddingLength n) = List.replicate (paddingLength n) 0 := by
    apply List.eq_replicate_iff.mpr
    constructor
    · rw [List.length_take, List.length_drop]
      omega
    · intro byte member
      by_contra nonzero
      exact zeros ⟨byte, member, nonzero⟩
  have taken : (rest.take n).length = n := by
    rw [List.length_take]
    omega
  refine Go.ensures_ok ⟨by simp only; omega, by simp only; omega, ?_⟩
  apply TLV.marshalBinary_eq_ok.mpr
  have bound := (LittleEndian.uint32At [l0, l1, l2, l3] 0).toNat_lt
  refine ⟨⟨valid, by simp only [taken]; omega⟩, ?_⟩
  -- The stored fields are the bytes that were read.
  have declaredByte : UInt8.ofNat (paddingLength n) = declared := by rw [← matching, UInt8.ofNat_toNat]
  have lengthBytes : LittleEndian.putUint32 (UInt32.ofNat n) = [l0, l1, l2, l3] := by
    rw [size, UInt32.ofNat_toNat, putUint32_of_bytes]
  have cut : data.take (8 + n + paddingLength n) = t0 :: t1 :: reserved :: declared :: l0 :: l1 :: l2 :: l3 ::
      (rest.take n ++ (rest.drop n).take (paddingLength n)) := by
    rw [shape, Nat.add_assoc, Nat.add_comm 8, ← List.take_add]
    rfl
  simp only [marshalTLV, taken, putUint16_uint16, declaredByte, lengthBytes, cut, filled, cleared]
  rfl

/-- Every TLV of a list is read back, whatever follows. -/
theorem TLVs.inverts : Sequence.Inverts TLVs.marshalItem TLVs.unmarshalItem id (fun _ => True) (fun _ => True) where
  nonempty := by
    intro before x encoded written empty
    obtain ⟨-, same⟩ := TLV.marshalBinary_eq_ok.mp (Go.mapError_eq_ok.mp written)
    have length := marshalTLV_length x.type x.data
    rw [same, empty, List.length_nil] at length
    omega
  roundTrip := by
    intro before x encoded rest _ written _
    obtain ⟨valid, rfl⟩ := TLV.marshalBinary_eq_ok.mp (Go.mapError_eq_ok.mp written)
    rw [TLVs.unmarshalItem, unmarshalTLVPrefix_marshalTLV valid]
    rfl
  next := fun _ _ _ _ _ => trivial

/-- The parser of a list accepts only encoded TLVs. -/
theorem TLVs.canonical : Sequence.Canonical TLVs.marshalItem TLVs.unmarshalItem := by
  intro values data _
  refine (ensures_unmarshalTLVPrefix data).mapError.mono fun item read => ?_
  obtain ⟨progress, inside, encoded⟩ := read
  exact ⟨progress, inside, Go.mapError_eq_ok.mpr encoded⟩

section

variable {α : Type} {marshal : List α → α → Go Error Bytes} {unmarshal : List α → Bytes → Go Error (α × Nat)}
  {normal : α → α} {Valid : α → Prop} {Follows : Bytes → Prop}

/-- A list TLV holds the encoding of a list that is not empty. -/
theorem newListTLV_eq_ok {typ : TLVType} {empty : String} {values : List α} {tlv : TLV} :
    newListTLV typ empty marshal values = .ok tlv ↔
      values ≠ [] ∧ tlv.type = typ ∧ Sequence.write marshal [] values = .ok tlv.data := by
  rw [newListTLV, Go.unit_bind_eq_ok, Go.failIf_eq_ok, List.length_eq_zero_iff]
  simp only [Go.bind_eq_ok, Go.pure_eq, Except.ok.injEq]
  constructor
  · rintro ⟨some, data, written, rfl⟩
    exact ⟨some, rfl, written⟩
  · rintro ⟨some, rfl, written⟩
    exact ⟨some, tlv.data, written, rfl⟩

/-- A list TLV is read back. -/
theorem unmarshalListTLV_newListTLV (law : Sequence.Inverts marshal unmarshal normal Valid Follows) (last : Follows [])
    {typ : TLVType} {noValues wrongType noData : String} {values : List α} {tlv : TLV}
    (valid : ∀ x ∈ values, Valid x) (new : newListTLV typ noValues marshal values = .ok tlv) :
    unmarshalListTLV typ wrongType noData unmarshal tlv = .ok (values.map normal) := by
  obtain ⟨some, typed, written⟩ := newListTLV_eq_ok.mp new
  have filled : tlv.data.length ≠ 0 := fun empty =>
    law.write_ne_nil some written (List.length_eq_zero_iff.mp empty)
  rw [unmarshalListTLV, Go.failIf_bind_of_not (by simpa using typed), Go.failIf_bind_of_not filled]
  exact law.readAll_write last valid written

/-- An accepted list TLV is the one its values are encoded as. -/
theorem ensures_unmarshalListTLV (law : Sequence.Canonical marshal unmarshal) {typ : TLVType}
    {noValues wrongType noData : String} (tlv : TLV) :
    (unmarshalListTLV typ wrongType noData unmarshal tlv).Ensures fun values =>
      newListTLV typ noValues marshal values = .ok tlv := by
  refine Go.ensures_failIf.bind fun _ typed => ?_
  refine Go.ensures_failIf.bind fun _ filled => ?_
  refine (law.ensures_readAll tlv.data).mono fun values written => ?_
  apply newListTLV_eq_ok.mpr
  refine ⟨?_, not_not.mp typed, written⟩
  -- No values are encoded as no data.
  rintro rfl
  rw [← Except.ok.inj written] at filled
  exact filled rfl

end

/-- Valid TLVs are what survives its encoding, and an accepted byte string is the only encoding of its list. -/
theorem tlvs_bijective :
    (∀ values : TLVs, (∀ t ∈ values, t.Valid) →
      ∃ data, TLVs.marshalBinary values = .ok data ∧ TLVs.unmarshalBinary data = .ok values) ∧
    (∀ data values, TLVs.unmarshalBinary data = .ok values →
      (∀ t ∈ values, t.Valid) ∧ TLVs.marshalBinary values = .ok data) ∧
    (∀ data, TLVs.unmarshalBinary data ≠ .error .outOfRange) ∧
    ∀ data data' values, TLVs.unmarshalBinary data = .ok values → TLVs.unmarshalBinary data' = .ok values →
      data = data' := by
  have accepted (data : Bytes) := TLVs.canonical.ensures_readAll data
  refine ⟨?_, ?_, fun data => (accepted data).1, ?_⟩
  · intro values valid
    have each : ∀ before, ∀ t ∈ values, ∃ encoded, TLVs.marshalItem before t = .ok encoded := fun before t member =>
      ⟨_, Go.mapError_eq_ok.mpr (TLV.marshalBinary_eq_ok.mpr ⟨valid t member, rfl⟩)⟩
    obtain ⟨data, written⟩ := Sequence.exists_write each
    have read := TLVs.inverts.readAll_write trivial (fun _ _ => trivial) written
    rw [List.map_id] at read
    exact ⟨data, written, read⟩
  · intro data values read
    have written := (accepted data).2 values read
    refine ⟨fun t member => ?_, written⟩
    -- A TLV that has an encoding is valid.
    obtain ⟨before, encoded, each⟩ := Sequence.forall_of_write written t member
    exact (TLV.marshalBinary_eq_ok.mp (Go.mapError_eq_ok.mp each)).1
  · -- Both byte strings are the encoding of the values.
    intro data data' values read read'
    have first := (accepted data).2 values read
    have second := (accepted data').2 values read'
    exact Except.ok.inj (first.symm.trans second)

/-- Two padded TLVs, there and back. -/
example : (TLVs.marshalBinary [⟨9, [1, 2, 3]⟩, ⟨10, []⟩]).bind TLVs.unmarshalBinary =
    .ok [⟨9, [1, 2, 3]⟩, ⟨10, []⟩] := by decide

end Wwan.Mbim
