import Wwan.Qcom.Tlv

/-! The two parsers of element lists agree with each other and with the encoder. -/

namespace Wwan.Qcom

open Utf16.ByteOrder (littleEndian putUint16_eq putUint16_uint16)

namespace TLV

/-- An element is written exactly when its header gives the true length. -/
theorem marshalItem_eq_ok {before : List TLV} {t : TLV} {data : Bytes} : marshalItem before t = .ok data ↔
    t.len.toNat = t.value.length ∧ t.type :: (littleEndian.putUint16 t.len ++ t.value) = data := by
  rw [marshalItem, Go.unit_bind_eq_ok, Go.failIf_eq_ok, not_not, Go.pure_eq, Except.ok.injEq, List.cons_append]

/-- An element is read back from in front of anything. -/
theorem unmarshalItem_marshalItem {before : List TLV} {t : TLV} {data : Bytes} (written : marshalItem before t = .ok data)
    (items : List TLV) (rest : Bytes) : unmarshalItem items (data ++ rest) = .ok (t, data.length) := by
  obtain ⟨honest, rfl⟩ := marshalItem_eq_ok.mp written
  obtain ⟨l0, l1, stored, read⟩ := putUint16_eq littleEndian t.len
  rw [stored]
  have lengthField : (Go.slice (t.type :: ([l0, l1] ++ t.value) ++ rest) 1 3 : Go MessageError Bytes) = .ok [l0, l1] :=
    Go.slice_between [t.type] rfl rfl rfl
  have content : (Go.slice (t.type :: ([l0, l1] ++ t.value) ++ rest) 3 (3 + t.value.length) : Go MessageError Bytes) =
      .ok t.value := Go.slice_between [t.type, l0, l1] rfl rfl rfl
  have total : (t.type :: ([l0, l1] ++ t.value)).length = 3 + t.value.length := by
    simp only [List.length_cons, List.length_append, List.length_nil]
    omega
  rw [unmarshalItem, Go.failIf_bind_of_not (by simp), lengthField, Go.ok_bind, Utf16.ByteOrder.getUint16_cons, Go.ok_bind,
    read, honest]
  rw [Go.failIf_bind_of_not (by rw [List.length_append, total]; omega)]
  rw [show (Go.index (t.type :: ([l0, l1] ++ t.value) ++ rest) 0 : Go MessageError UInt8) = .ok t.type from rfl,
    Go.ok_bind, content, Go.ok_bind, total, ← honest, UInt16.ofNat_toNat]
  rfl

/-- Less than a header is refused. -/
theorem unmarshalItem_short {items : List TLV} {data : Bytes} (short : data.length < 3) :
    unmarshalItem items data = Go.fail (.format "truncated TLV header" []) := by
  rw [unmarshalItem, Go.failIf_bind_of short]

/-- Behind a header, the value is there or it is cut off. -/
theorem unmarshalItem_cons (items : List TLV) (typ l0 l1 : UInt8) (rest : Bytes) :
    unmarshalItem items (typ :: l0 :: l1 :: rest) =
      if rest.length < (littleEndian.uint16 l0 l1).toNat then Go.fail (.format "truncated TLV value" [])
      else .ok (⟨typ, littleEndian.uint16 l0 l1, rest.take (littleEndian.uint16 l0 l1).toNat⟩,
        3 + (littleEndian.uint16 l0 l1).toNat) := by
  have lengthField : (Go.slice (typ :: l0 :: l1 :: rest) 1 3 : Go MessageError Bytes) = .ok [l0, l1] :=
    Go.slice_between [typ] rfl rfl rfl
  rw [unmarshalItem, Go.failIf_bind_of_not (by simp), lengthField, Go.ok_bind, Utf16.ByteOrder.getUint16_cons, Go.ok_bind]
  obtain ⟨n, size⟩ : ∃ n, n = (littleEndian.uint16 l0 l1).toNat := ⟨_, rfl⟩
  rw [← size]
  have extent : (typ :: l0 :: l1 :: rest).length = 3 + rest.length := by
    simp only [List.length_cons]
    omega
  by_cases cut : rest.length < n
  · rw [if_pos cut, Go.failIf_bind_of (by omega)]
  · rw [if_neg cut, Go.failIf_bind_of_not (by omega)]
    rw [show (Go.index (typ :: l0 :: l1 :: rest) 0 : Go MessageError UInt8) = .ok typ from rfl, Go.ok_bind,
      Go.slice_eq_ok (by omega) (by omega), Go.ok_bind, size, UInt16.ofNat_toNat, ← size]
    simp

/-- What is read off the front is the encoding of the element that is returned. -/
theorem canonical : Sequence.Canonical marshalItem unmarshalItem := by
  intro items data _
  by_cases short : data.length < 3
  · rw [unmarshalItem_short short]
    exact Go.ensures_fail _
  · obtain ⟨typ, r0, rfl, long0⟩ := exists_cons_of_le_length (Nat.le_of_not_lt short)
    obtain ⟨l0, r1, rfl, long1⟩ := exists_cons_of_le_length long0
    obtain ⟨l1, rest, rfl, -⟩ := exists_cons_of_le_length long1
    rw [unmarshalItem_cons]
    refine Go.ensures_ite (fun _ => Go.ensures_fail _) fun whole => Go.ensures_ok ⟨?_, ?_, ?_⟩
    · simp only
      omega
    · simp only [List.length_cons]
      omega
    · refine marshalItem_eq_ok.mpr ⟨?_, ?_⟩
      · simp only [List.length_take]
        omega
      · rw [putUint16_uint16, Nat.add_comm]
        rfl

/-- Every element of a list is read back, whatever follows. -/
theorem inverts : Sequence.Inverts marshalItem unmarshalItem id (fun _ => True) (fun _ => True) where
  nonempty := by
    intro before t encoded written
    obtain ⟨-, rfl⟩ := marshalItem_eq_ok.mp written
    simp
  roundTrip := fun _ _ _ rest _ written _ => unmarshalItem_marshalItem written _ rest
  next := fun _ _ _ _ _ => trivial

/-- The elements that the constructors build. -/
inductive Built : TLV → Prop where
  | bytes (typ : UInt8) (value : Bytes) : Built (TLV.bytes typ value)
  | uint (typ : UInt8) (value : UintValue) : Built (TLV.uint typ value)

/-- A built element is written exactly when its value is short enough for the header. -/
theorem Built.honest_iff {t : TLV} (built : Built t) : t.len.toNat = t.value.length ↔ t.value.length ≤ 65535 := by
  have bound := t.len.toNat_lt
  constructor
  · intro honest
    omega
  · -- Both constructors store the length, which does not wrap below 65536.
    intro short
    cases built with
    | bytes typ value => exact UInt16.toNat_ofNat_of_lt' (Nat.lt_succ_of_le short)
    | uint typ value => exact UInt16.toNat_ofNat_of_lt' (Nat.lt_succ_of_le short)

end TLV

namespace TLVs

open TLV

/-- Elements are written exactly when all of their headers give the true lengths. -/
theorem exists_marshalBinary_iff {ts : List TLV} :
    (∃ data, marshalBinary ts = .ok data) ↔ ∀ t ∈ ts, t.len.toNat = t.value.length := by
  constructor
  · rintro ⟨data, written⟩ t member
    obtain ⟨before, encoded, item⟩ := Sequence.forall_of_write written t member
    exact (marshalItem_eq_ok.mp item).1
  · intro honest
    exact Sequence.exists_write fun before t member => ⟨_, marshalItem_eq_ok.mpr ⟨honest t member, rfl⟩⟩

/-- Writing does not panic. -/
theorem write_ne_outOfRange (before ts : List TLV) : (Sequence.write marshalItem before ts).Ensures fun _ => True := by
  induction ts generalizing before with
  | nil => exact Go.ensures_ok trivial
  | cons t ts ih =>
    have item : (marshalItem before t).Ensures fun _ => True :=
      Go.ensures_failIf.bind fun _ _ => Go.ensures_ok trivial
    exact item.bind fun _ _ => (ih (before ++ [t])).bind fun _ _ => Go.ensures_ok trivial

/-- Enough bytes are read as a field. -/
theorem readField_enough (context : String) {r : Reader} {n : Nat} (enough : n ≤ r.bytes.length) :
    ∃ left : Reader, readField context r n = .ok (r.bytes.take n, left) ∧ left.bytes = r.bytes.drop n := by
  obtain ⟨left, got, rest⟩ := Reader.readFull_enough enough
  exact ⟨left, by rw [readField, got]; rfl, rest⟩

/-- Too few bytes are an error. -/
theorem readField_short (context : String) {r : Reader} {n : Nat} (short : r.bytes.length < n) :
    ∃ error, readField context r n = Go.fail error := by
  rw [readField, Reader.readFull_short short]
  exact ⟨_, rfl⟩

/-- A stream with a byte has not ended. -/
theorem readItem_some {r : Reader} (some : 1 ≤ r.bytes.length) : ¬ r.readFull 1 = .error .eof := by
  obtain ⟨left, got, -⟩ := Reader.readFull_enough some
  rw [got]
  simp

/-- At the end of a stream there is no element. -/
theorem readItem_nil {r : Reader} (empty : r.bytes = []) : readItem r = .ok none := by
  have ended : r.readFull 1 = .error .eof := by
    rw [Reader.readFull_short (by simp [empty]), if_pos empty]
  rw [readItem, if_pos ended]
  rfl

/-- A stream that ends inside a header is rejected. -/
theorem readItem_short {r : Reader} (some : 1 ≤ r.bytes.length) (short : r.bytes.length < 3) :
    ∃ error, readItem r = Go.fail error := by
  obtain ⟨r1, typRead, rest1⟩ := readField_enough "read TLV type" some
  obtain ⟨typ, rest, shape⟩ : ∃ typ rest, r.bytes = typ :: rest := by
    cases bytes : r.bytes with
    | nil => simp [bytes] at some
    | cons typ rest => exact ⟨typ, rest, rfl⟩
  rw [shape] at typRead rest1 short
  have cut : r1.bytes.length < 2 := by
    rw [rest1]
    simp at short ⊢
    omega
  obtain ⟨error, failed⟩ := readField_short "read TLV length" cut
  refine ⟨error, ?_⟩
  rw [readItem, if_neg (readItem_some some), typRead, Go.ok_bind]
  rw [show (Go.index ((typ :: rest).take 1) 0 : Go MessageError UInt8) = .ok typ from rfl, Go.ok_bind, failed]
  rfl

/-- Behind a header, the value is there or it is cut off. -/
theorem readItem_cons {r : Reader} {typ l0 l1 : UInt8} {rest : Bytes} (shape : r.bytes = typ :: l0 :: l1 :: rest) :
    (rest.length < (littleEndian.uint16 l0 l1).toNat → ∃ error, readItem r = Go.fail error) ∧
    ((littleEndian.uint16 l0 l1).toNat ≤ rest.length → ∃ left : Reader,
      left.bytes = rest.drop (littleEndian.uint16 l0 l1).toNat ∧
        readItem r = .ok (some (⟨typ, littleEndian.uint16 l0 l1, rest.take (littleEndian.uint16 l0 l1).toNat⟩, left))) := by
  have one : 1 ≤ r.bytes.length := by simp [shape]
  obtain ⟨r1, typRead, rest1⟩ := readField_enough "read TLV type" one
  rw [shape] at typRead rest1
  have two : 2 ≤ r1.bytes.length := by simp [rest1]
  obtain ⟨r2, lengthRead, rest2⟩ := readField_enough "read TLV length" two
  rw [rest1] at lengthRead rest2
  have behind : r2.bytes = rest := rest2
  -- The header is read, and the value is what is left to look at.
  have header : readItem r = readField "read TLV value" r2 (littleEndian.uint16 l0 l1).toNat >>= fun value =>
      .ok (some (⟨typ, littleEndian.uint16 l0 l1, value.1⟩, value.2)) := by
    rw [readItem, if_neg (readItem_some one), typRead, Go.ok_bind]
    rw [show (Go.index ((typ :: l0 :: l1 :: rest).take 1) 0 : Go MessageError UInt8) = .ok typ from rfl, Go.ok_bind,
      lengthRead, Go.ok_bind]
    rfl
  rw [header]
  constructor
  · -- The value ends early.
    intro cut
    rw [← behind] at cut
    obtain ⟨error, failed⟩ := readField_short "read TLV value" cut
    exact ⟨error, by rw [failed]; rfl⟩
  · -- The value is there in full.
    intro whole
    rw [← behind] at whole
    obtain ⟨left, valueRead, left'⟩ := readField_enough "read TLV value" whole
    rw [behind] at valueRead left'
    exact ⟨left, left', by rw [valueRead]; rfl⟩

/-- The stream reader accepts what the parser accepts, with the same elements, and rejects what it rejects. -/
theorem readItems_agrees {k rounds : Nat} (items : List TLV) (count : Nat) (r : Reader) (enough : r.bytes.length ≤ k)
    (lasts : r.bytes.length < rounds) :
    (∀ ts, Sequence.read unmarshalItem k items r.bytes = .ok ts →
      readItems rounds items count r = .ok (ts, count + r.bytes.length)) ∧
    ∀ error, Sequence.read unmarshalItem k items r.bytes = Go.fail error →
      ∃ error, readItems rounds items count r = Go.fail error := by
  -- Each round of either parser takes one element, so one induction follows both.
  induction k generalizing rounds items count r with
  -- Nothing is left to read.
  | zero =>
    have empty : r.bytes = [] := List.length_eq_zero_iff.mp (by omega)
    obtain ⟨rounds, rfl⟩ : ∃ fewer, rounds = fewer + 1 := ⟨rounds - 1, by omega⟩
    rw [readItems, readItem_nil empty, empty]
    simp [Sequence.read, Go.fail]
  | succ k ih =>
    obtain ⟨rounds, rfl⟩ : ∃ fewer, rounds = fewer + 1 := ⟨rounds - 1, by omega⟩
    by_cases empty : r.bytes = []
    · -- Nothing is left to read.
      rw [readItems, readItem_nil empty, empty]
      simp [Sequence.read, Go.fail]
    · -- One element is read by either parser.
      obtain ⟨typ, tail, shape⟩ := List.exists_cons_of_ne_nil empty
      have step : Sequence.read unmarshalItem (k + 1) items r.bytes = unmarshalItem items r.bytes >>= fun item =>
          Go.slice r.bytes item.2 r.bytes.length >>= fun data =>
            Sequence.read unmarshalItem k (items ++ [item.1]) data := by
        rw [shape, Sequence.read]
      rw [step, readItems]
      by_cases short : r.bytes.length < 3
      · -- Both stop in the header.
        obtain ⟨error, failed⟩ := readItem_short (List.length_pos_iff.mpr empty) short
        rw [unmarshalItem_short short, failed]
        exact ⟨by simp, fun _ _ => ⟨error, rfl⟩⟩
      · obtain ⟨typ, r0, shape, long0⟩ := exists_cons_of_le_length (Nat.le_of_not_lt short)
        obtain ⟨l0, r1, rfl, long1⟩ := exists_cons_of_le_length long0
        obtain ⟨l1, rest, rfl, -⟩ := exists_cons_of_le_length long1
        obtain ⟨cutOff, whole⟩ := readItem_cons shape
        have extent : r.bytes.length = 3 + rest.length := by
          simp only [shape, List.length_cons]
          omega
        by_cases cut : rest.length < (littleEndian.uint16 l0 l1).toNat
        · -- Both stop in the value.
          obtain ⟨error, failed⟩ := cutOff cut
          rw [shape, unmarshalItem_cons, if_pos cut, failed]
          exact ⟨by simp, fun _ _ => ⟨error, rfl⟩⟩
        · -- Both take the element and go on with the same bytes.
          obtain ⟨left, remaining, taken⟩ := whole (Nat.le_of_not_lt cut)
          have behind : (Go.slice r.bytes (3 + (littleEndian.uint16 l0 l1).toNat) r.bytes.length : Go MessageError Bytes) =
              .ok left.bytes := by
            rw [Go.slice_from (by omega), remaining, shape, Nat.add_comm]
            rfl
          have accepted : unmarshalItem items r.bytes = .ok (⟨typ, littleEndian.uint16 l0 l1,
              rest.take (littleEndian.uint16 l0 l1).toNat⟩, 3 + (littleEndian.uint16 l0 l1).toNat) := by
            rw [shape, unmarshalItem_cons, if_neg cut]
          have fewer : left.bytes.length = rest.length - (littleEndian.uint16 l0 l1).toNat := by
            rw [remaining, List.length_drop]
          have size : (rest.take (littleEndian.uint16 l0 l1).toNat).length = (littleEndian.uint16 l0 l1).toNat := by
            rw [List.length_take]
            omega
          rw [accepted, Go.ok_bind, behind, Go.ok_bind, taken, Go.ok_bind]
          simp only [size]
          have total : count + r.bytes.length = count + 3 + (littleEndian.uint16 l0 l1).toNat + left.bytes.length := by omega
          rw [total]
          exact ih _ _ left (by omega) (by omega)

/-- An accepted byte string is the encoding of its elements. -/
theorem ensures_unmarshalBinary (data : Bytes) :
    (unmarshalBinary data).Ensures fun ts => marshalBinary ts = .ok data :=
  TLV.canonical.ensures_readAll data

/-- The two parsers agree on every byte string, in whatever pieces the stream delivers it. -/
theorem readFrom_agrees (r : Reader) :
    (∀ ts, unmarshalBinary r.bytes = .ok ts ↔ ∃ count, readFrom r = .ok (ts, count)) ∧
    ((∃ error, unmarshalBinary r.bytes = Go.fail error) ↔ ∃ error, readFrom r = Go.fail error) := by
  obtain ⟨accepts, rejects⟩ := readItems_agrees [] 0 r le_rfl (Nat.lt_succ_self r.bytes.length)
  rcases (ensures_unmarshalBinary r.bytes).cases with ⟨ts, parsed, -⟩ | ⟨error, failed⟩
  · have read : readFrom r = .ok (ts, 0 + r.bytes.length) := accepts ts parsed
    rw [parsed, read]
    simp [Go.fail]
  · obtain ⟨error', read⟩ := rejects error failed
    rw [failed, show readFrom r = Go.fail error' from read]
    simp [Go.fail]

/-- Honest elements survive their encoding, built elements are refused rather than cut, the stream reader and the
parser agree on every byte string, and what they accept is encoded as it was. -/
theorem qmi_tlvs_exact :
    (∀ ts : List TLV, (∀ t ∈ ts, t.len.toNat = t.value.length) →
      ∃ data, marshalBinary ts = .ok data ∧ unmarshalBinary data = .ok ts) ∧
    (∀ ts : List TLV, (∀ t ∈ ts, TLV.Built t) → (∃ t ∈ ts, 65535 < t.value.length) →
      ∃ error, marshalBinary ts = Go.fail error) ∧
    (∀ r : Reader, (∀ ts, unmarshalBinary r.bytes = .ok ts ↔ ∃ count, readFrom r = .ok (ts, count)) ∧
      ((∃ error, unmarshalBinary r.bytes = Go.fail error) ↔ ∃ error, readFrom r = Go.fail error)) ∧
    ∀ data, (unmarshalBinary data).Ensures fun ts => marshalBinary ts = .ok data := by
  refine ⟨fun ts honest => ?_, fun ts built long => ?_, readFrom_agrees, ensures_unmarshalBinary⟩
  · obtain ⟨data, written⟩ := exists_marshalBinary_iff.mpr honest
    have read := TLV.inverts.readAll_write trivial (fun _ _ => trivial) written
    rw [List.map_id] at read
    exact ⟨data, written, read⟩
  · obtain ⟨t, member, long⟩ := long
    rcases (write_ne_outOfRange [] ts).cases with ⟨data, written, -⟩ | failed
    · -- A list that is written has no header that wrapped.
      have honest := exists_marshalBinary_iff.mp ⟨data, written⟩ t member
      have short := (built t member).honest_iff.mp honest
      omega
    · exact failed

/-- The bytes of one element in three pieces. -/
example : readFrom ⟨[[1], [2, 0, 7], [9]], true⟩ = .ok ([⟨1, 2, [7, 9]⟩], 5) := by decide

end TLVs

end Wwan.Qcom
