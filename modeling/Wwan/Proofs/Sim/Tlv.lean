import Wwan.Sim.Tlv

/-! Items survive their encoding, and nothing else is decoded to them at a shorter length. -/

namespace Wwan.Sim.Tlv

/-! Length fields. -/

/-- The highest bit is clear below 128. -/
theorem and_0x80_eq_zero (b : UInt8) : b &&& 0x80 = 0 ↔ b.toNat < 128 := by
  have all : ∀ n : Fin 256, UInt8.ofNat n.val &&& 0x80 = 0 ↔ n.val < 128 := by decide +kernel
  have here := all ⟨b.toNat, b.toNat_lt⟩
  rwa [UInt8.ofNat_toNat] at here

/-- A length up to two bytes has a field, which is decoded to it in front of anything. -/
theorem decodeLength_marshalLength {length : Nat} (bounded : length ≤ 0xFFFF) :
    ∃ field, marshalLength length = .ok field ∧ ∀ rest, decodeLength (field ++ rest) = .ok (length, field.length) := by
  unfold marshalLength
  by_cases short : length < 0x80
  · -- The short form is the length itself.
    refine ⟨[UInt8.ofNat length], by rw [if_pos short]; rfl, fun rest => ?_⟩
    have value : (UInt8.ofNat length).toNat = length := UInt8.toNat_ofNat_of_lt' (by simp [UInt8.size]; omega)
    have clear : UInt8.ofNat length &&& 0x80 = 0 := (and_0x80_eq_zero _).mpr (by omega)
    simp [decodeLength, clear, value]
  · rw [if_neg short]
    by_cases one : length ≤ 0xFF
    · -- One byte follows.
      refine ⟨[0x81, UInt8.ofNat length], by rw [if_pos one]; rfl, fun rest => ?_⟩
      have value : (UInt8.ofNat length).toNat = length := UInt8.toNat_ofNat_of_lt' (by simp [UInt8.size]; omega)
      have set : ¬ (0x81 : UInt8) &&& 0x80 = 0 := by decide
      have count : ((0x81 : UInt8) &&& 0x7F).toNat = 1 := by decide
      simp [decodeLength, set, count, Nat.mod_eq_of_lt (show length < 256 by omega)]
    · -- Two bytes follow.
      rw [if_neg one, if_pos bounded]
      refine ⟨_, rfl, fun rest => ?_⟩
      have set : ¬ (0x82 : UInt8) &&& 0x80 = 0 := by decide
      have count : ((0x82 : UInt8) &&& 0x7F).toNat = 2 := by decide
      have high : (UInt8.ofNat (length >>> 8)).toNat = length / 256 := by
        rw [Nat.shiftRight_eq_div_pow]
        exact UInt8.toNat_ofNat_of_lt' (by simp [UInt8.size]; omega)
      have low : (UInt8.ofNat length).toNat = length % 256 := by simp
      -- The two bytes are put together again.
      have whole : (length / 256) <<< 8 ||| length % 256 = length := by
        rw [← Nat.shiftLeft_add_eq_or_of_lt (show length % 256 < 2 ^ 8 by omega), Nat.shiftLeft_eq]
        omega
      simp [decodeLength, set, count, high, low, whole]

/-- A field for a length is no longer than another that holds the length. -/
theorem marshalLength_le {length size : Nat} (bounded : length ≤ 0xFFFF) (one : length < 0x80 ∨ 2 ≤ size)
    (two : length ≤ 0xFF ∨ 3 ≤ size) (some : 0 < size) : ∃ field, marshalLength length = .ok field ∧ field.length ≤ size := by
  unfold marshalLength
  by_cases short : length < 0x80
  · exact ⟨[UInt8.ofNat length], by rw [if_pos short]; rfl, some⟩
  · by_cases single : length ≤ 0xFF
    · exact ⟨_, by rw [if_neg short, if_pos single]; rfl, by simp; omega⟩
    · exact ⟨_, by rw [if_neg short, if_neg single, if_pos bounded]; rfl, by simp; omega⟩

/-- The length that a field holds has at most two bytes, and its own field is no longer. -/
theorem marshalLength_decodeLength {data : Bytes} {length size : Nat} (ran : decodeLength data = .ok (length, size)) :
    length ≤ 0xFFFF ∧ ∃ field, marshalLength length = .ok field ∧ field.length ≤ size := by
  cases data with
  | nil => simp [decodeLength] at ran
  | cons first rest =>
    simp only [decodeLength] at ran
    split at ran
    · -- The short form is below 128.
      rename_i clear
      cases ran
      have small := (and_0x80_eq_zero first).mp clear
      exact ⟨by omega, marshalLength_le (by omega) (.inl small) (.inl (by omega)) Nat.one_pos⟩
    · split at ran
      · cases ran
      · rename_i good
        simp only [not_or, not_lt, gt_iff_lt] at good
        obtain ⟨some, most, there⟩ := good
        generalize (first &&& 0x7F).toNat = count at ran some most there
        -- One byte or two bytes follow.
        obtain rfl | rfl : count = 1 ∨ count = 2 := by omega
        · -- One byte.
          obtain ⟨b, rest, rfl⟩ := List.exists_cons_of_length_pos there
          have below := b.toNat_lt
          simp only [List.take_succ_cons, List.take_zero, List.foldl_cons, List.foldl_nil, Nat.zero_shiftLeft,
            Nat.zero_or, Except.ok.injEq, Prod.mk.injEq] at ran
          obtain ⟨rfl, rfl⟩ := ran
          exact ⟨by omega, marshalLength_le (by omega) (.inr le_rfl) (.inl (by omega)) (by omega)⟩
        · -- Two bytes.
          obtain ⟨high, rest, rfl⟩ := List.exists_cons_of_length_pos (by omega : 0 < rest.length)
          simp only [List.length_cons] at there
          obtain ⟨low, rest, rfl⟩ := List.exists_cons_of_length_pos (by omega : 0 < rest.length)
          have highBelow := high.toNat_lt
          have lowBelow := low.toNat_lt
          simp only [List.take_succ_cons, List.take_zero, List.foldl_cons, List.foldl_nil, Nat.zero_shiftLeft,
            Nat.zero_or, Except.ok.injEq, Prod.mk.injEq] at ran
          obtain ⟨rfl, rfl⟩ := ran
          have sum : high.toNat <<< 8 ||| low.toNat = high.toNat * 256 + low.toNat := by
            rw [← Nat.shiftLeft_add_eq_or_of_lt (show low.toNat < 2 ^ 8 by omega), Nat.shiftLeft_eq]
          rw [sum]
          exact ⟨by omega, marshalLength_le (by omega) (.inr (by omega)) (.inr le_rfl) (by omega)⟩

/-- What follows a length field is not looked at. -/
theorem decodeLength_append {data : Bytes} {field : Nat × Nat} (ran : decodeLength data = .ok field) (more : Bytes) :
    decodeLength (data ++ more) = .ok field := by
  cases data with
  | nil => simp [decodeLength] at ran
  | cons first rest =>
    simp only [List.cons_append, decodeLength] at ran ⊢
    split
    · rename_i clear
      rwa [if_pos clear] at ran
    · rename_i set
      rw [if_neg set] at ran
      split at ran
      · cases ran
      · rename_i good
        simp only [not_or, not_lt] at good
        rw [if_neg (by simp only [List.length_append]; omega), List.take_append_of_le_length good.2.2]
        exact ran

/-! Items. -/

/-- What `consume` takes: a tag, a length field, and a value of that length. -/
theorem consume_eq_ok {data : Bytes} {item : Item} {consumed : Nat} :
    consume data = .ok (item, consumed) ↔ ∃ rest length size, data = item.tag :: rest ∧
      decodeLength rest = .ok (length, size) ∧ size + length ≤ rest.length ∧
      item.value = (rest.drop size).take length ∧ consumed = 1 + size + length := by
  rcases data with _ | ⟨tag, _ | ⟨next, rest⟩⟩
  · simp [consume]
  · -- A tag alone has no length field.
    simp only [consume, reduceCtorEq, List.cons.injEq, false_iff, not_exists, not_and]
    rintro rest length size ⟨-, rfl⟩ ran
    simp [decodeLength] at ran
  · simp only [consume, List.cons.injEq]
    -- The length field decides how much of the data is the value.
    cases ran : decodeLength (next :: rest) with
    | error err =>
      simp only [reduceCtorEq, false_iff, not_exists, not_and]
      rintro rest' length size ⟨-, rfl⟩ other
      simp [ran] at other
    | ok field =>
      obtain ⟨length, size⟩ := field
      have inside := (InRange.decodeLength_le ran).2
      have dropped : (tag :: next :: rest).drop (1 + size) = (next :: rest).drop size := by
        rw [Nat.add_comm, List.drop_succ_cons]
      simp only [dropped, List.length_drop]
      constructor
      · intro taken
        split at taken
        · cases taken
        · cases taken
          exact ⟨_, length, size, ⟨rfl, rfl⟩, ran, by omega, rfl, rfl⟩
      · rintro ⟨_, length', size', ⟨rfl, rfl⟩, other, enough, value, rfl⟩
        simp only [ran, Except.ok.injEq, Prod.mk.injEq] at other
        obtain ⟨rfl, rfl⟩ := other
        rw [if_neg (by omega), ← value]

/-- An item is taken from its encoding, whatever follows. -/
theorem consume_marshalBinary (item : Item) (bounded : item.value.length ≤ 0xFFFF) :
    ∃ encoded, item.marshalBinary = .ok encoded ∧
      ∀ rest, consume (encoded ++ rest) = .ok (item, encoded.length) := by
  obtain ⟨field, marshalled, decoded⟩ := decodeLength_marshalLength bounded
  refine ⟨item.tag :: field ++ item.value, by simp [Item.marshalBinary, marshalled], fun rest => ?_⟩
  refine consume_eq_ok.mpr ⟨field ++ (item.value ++ rest), item.value.length, field.length, by simp, decoded _, ?_, ?_, ?_⟩
  · simp
  · simp
  · simp
    omega

/-- Only a value of at most two length bytes is encoded. -/
theorem bounded_of_marshalBinary {item : Item} {encoded : Bytes} (ran : item.marshalBinary = .ok encoded) :
    item.value.length ≤ 0xFFFF := by
  by_contra large
  simp [Item.marshalBinary, marshalLength, show ¬ item.value.length < 128 by omega,
    show ¬ item.value.length ≤ 255 by omega, large] at ran

/-- What was encoded is taken, whatever follows. -/
theorem consume_of_marshalBinary {item : Item} {encoded : Bytes} (ran : item.marshalBinary = .ok encoded) (rest : Bytes) :
    consume (encoded ++ rest) = .ok (item, encoded.length) := by
  obtain ⟨same, marshalled, taken⟩ := consume_marshalBinary item (bounded_of_marshalBinary ran)
  obtain rfl : encoded = same := Except.ok.inj (ran.symm.trans marshalled)
  exact taken rest

/-- What is taken is within the data, fits an encoding, and its encoding is no longer. -/
theorem marshalBinary_consume {data : Bytes} {item : Item} {consumed : Nat} (ran : consume data = .ok (item, consumed)) :
    consumed ≤ data.length ∧ item.value.length ≤ 0xFFFF ∧
      ∃ encoded, item.marshalBinary = .ok encoded ∧ encoded.length ≤ consumed := by
  obtain ⟨rest, length, size, rfl, decoded, enough, value, rfl⟩ := consume_eq_ok.mp ran
  obtain ⟨bounded, field, marshalled, shorter⟩ := marshalLength_decodeLength decoded
  have same : item.value.length = length := by
    rw [value, List.length_take, List.length_drop]
    omega
  refine ⟨by simp; omega, by omega, item.tag :: field ++ item.value, ?_, ?_⟩
  · simp [Item.marshalBinary, same, marshalled]
  · simp only [List.cons_append, List.length_cons, List.length_append, same]
    omega

/-- What follows an item is not looked at. -/
theorem consume_append {data : Bytes} {taken : Item × Nat} (ran : consume data = .ok taken) (more : Bytes) :
    consume (data ++ more) = .ok taken := by
  obtain ⟨item, consumed⟩ := taken
  obtain ⟨rest, length, size, rfl, decoded, enough, value, rfl⟩ := consume_eq_ok.mp ran
  refine consume_eq_ok.mpr ⟨rest ++ more, length, size, rfl, decodeLength_append decoded more, ?_, ?_, rfl⟩
  · simp only [List.length_append]
    omega
  · rw [value, List.drop_append_of_le_length (by omega), List.take_append_of_le_length]
    rw [List.length_drop]
    omega

/-! Lists of items. -/

/-- The loop ends with the data. -/
@[simp] theorem unmarshalBinary_nil : InRange.unmarshalBinary [] = .ok [] := by
  rw [InRange.unmarshalBinary, if_pos rfl]
  rfl

/-- Data that starts with no item is refused. -/
theorem unmarshalBinary_of_error {data : Bytes} {err : Error} (some : data ≠ []) (ran : consume data = .error err) :
    InRange.unmarshalBinary data = Go.fail err := by
  have same : InRange.consume data = Go.fail err := by
    rw [InRange.consume_eq, ran]
    rfl
  rw [InRange.unmarshalBinary, if_neg some]
  split
  · rename_i fault faulted
    rw [same] at faulted
    cases faulted
    rfl
  · rename_i item consumed taken
    exact absurd (same.symm.trans taken) (Go.fail_ne_ok _ _)

/-- The first item of the data is the first of the list. -/
theorem unmarshalBinary_of_consume {data : Bytes} {item : Item} {consumed : Nat}
    (ran : consume data = .ok (item, consumed)) :
    InRange.unmarshalBinary data = do return item :: (← InRange.unmarshalBinary (data.drop consumed)) := by
  have some : data ≠ [] := by
    rintro rfl
    simp [consume] at ran
  have same : InRange.consume data = .ok (item, consumed) := by rw [InRange.consume_eq, Go.ofExcept_eq_ok, ran]
  have inside := (marshalBinary_consume ran).1
  rw [InRange.unmarshalBinary, if_neg some]
  split
  · rename_i fault faulted
    rw [same] at faulted
    cases faulted
  · rename_i other others taken
    rw [same] at taken
    cases taken
    rw [Go.slice_from inside]

/-- Items are decoded from their encoding. -/
theorem unmarshalBinary_marshalBinary {items : List Item} (bounded : ∀ item ∈ items, item.value.length ≤ 0xFFFF) :
    ∃ data, marshalBinary items = .ok data ∧ InRange.unmarshalBinary data = .ok items := by
  induction items with
  | nil => exact ⟨[], rfl, unmarshalBinary_nil⟩
  | cons item items ih =>
    obtain ⟨first, rest⟩ := List.forall_mem_cons.mp bounded
    obtain ⟨encoded, marshalled, taken⟩ := consume_marshalBinary item first
    obtain ⟨others, tail, decoded⟩ := ih rest
    refine ⟨encoded ++ others, by simp [marshalBinary, marshalled, tail], ?_⟩
    rw [unmarshalBinary_of_consume (taken others), List.drop_left, decoded]
    rfl

/-- The decoder stays within the data; what it accepts are items of an encoding that is no longer than the data. -/
theorem unmarshalBinary_ensures (data : Bytes) :
    (InRange.unmarshalBinary data).Ensures fun items =>
      (∀ item ∈ items, item.value.length ≤ 0xFFFF) ∧
        ∃ again, marshalBinary items = .ok again ∧ again.length ≤ data.length := by
  -- The induction is on the length of the data, since every item takes bytes.
  induction size : data.length using Nat.strong_induction_on generalizing data with
  | _ n ih =>
    subst size
    by_cases some : data = []
    · -- The empty data have no items.
      subst some
      rw [unmarshalBinary_nil]
      exact Go.ensures_ok ⟨by simp, [], rfl, le_rfl⟩
    · cases ran : consume data with
      | error err =>
        rw [unmarshalBinary_of_error some ran]
        exact Go.ensures_fail err
      | ok taken =>
        obtain ⟨item, consumed⟩ := taken
        -- The item takes bytes, so the rest is shorter.
        have positive := consume_pos ran
        obtain ⟨inside, bounded, encoded, marshalled, shorter⟩ := marshalBinary_consume ran
        have fewer : (data.drop consumed).length < data.length := by
          rw [List.length_drop]
          omega
        rw [unmarshalBinary_of_consume ran]
        refine (ih _ fewer _ rfl).bind fun items holds => ?_
        obtain ⟨others, again, tail, less⟩ := holds
        refine Go.ensures_ok ⟨List.forall_mem_cons.mpr ⟨bounded, others⟩, encoded ++ again, ?_, ?_⟩
        · simp [marshalBinary, marshalled, tail]
        · rw [List.length_drop] at less
          rw [List.length_append]
          omega

/-! Wrapped values. -/

/-- Unwrapping takes an item that is all there is. -/
theorem unwrapBER_eq (data : Bytes) :
    unwrapBER data =
      match consume data with
      | .error err => .error err
      | .ok (item, consumed) => if data.length ≠ consumed then .error .malformed else .ok (item.tag, item.value) := by
  rcases data with _ | ⟨tag, _ | ⟨next, rest⟩⟩
  · rfl
  · rfl
  · simp only [unwrapBER, consume]
    cases decodeLength (next :: rest) with
    | error err => rfl
    | ok field =>
      dsimp only
      split <;> rfl

/-- No index of `UnwrapBER` is out of range. -/
theorem InRange.unwrapBER_eq (data : Bytes) : InRange.unwrapBER data = Go.ofExcept (Tlv.unwrapBER data) := by
  -- Less than two bytes are too few for a tag and a length field.
  rcases data with _ | ⟨tag, _ | ⟨next, rest⟩⟩
  · rfl
  · rfl
  · rw [InRange.unwrapBER, if_neg (by simp), Go.slice_from (by simp), Go.ok_bind, List.drop_one, List.tail_cons,
      decodeLength_eq]
    simp only [Tlv.unwrapBER]
    -- The guards of the source keep the slices inside.
    cases ran : Tlv.decodeLength (next :: rest) with
    | error err => rfl
    | ok field =>
      obtain ⟨length, size⟩ := field
      obtain ⟨-, inside⟩ := decodeLength_le ran
      simp only [List.length_cons] at inside
      simp only [Go.ofExcept, Go.ok_bind]
      rw [Go.slice_from (by simp only [List.length_cons]; omega), Go.ok_bind]
      split
      · rfl
      · rename_i enough
        simp only [List.length_drop, List.length_cons] at enough
        split
        · rfl
        · rw [Go.index_eq_ok List.getElem?_cons_zero, Go.slice_eq_ok (by omega) (by simp; omega)]
          simp

/-- A value is unwrapped exactly from what it is wrapped in. -/
theorem unwrapBER_wrapBER {tag : UInt8} {value wrapped : Bytes} (ran : wrapBER tag value = .ok wrapped) :
    InRange.unwrapBER wrapped = .ok (tag, value) ∧
    (∀ part, part <+: wrapped → part ≠ wrapped → ∃ err, InRange.unwrapBER part = Go.fail err) ∧
    ∀ more, more ≠ [] → ∃ err, InRange.unwrapBER (wrapped ++ more) = Go.fail err := by
  have item : Item.marshalBinary { tag, value } = .ok wrapped := ran
  have taken := consume_of_marshalBinary item
  have whole := taken []
  rw [List.append_nil] at whole
  refine ⟨?_, fun part front proper => ?_, fun more some => ?_⟩
  · -- All of the wrapped bytes are one item.
    rw [InRange.unwrapBER_eq, unwrapBER_eq, whole]
    simp [Go.ofExcept]
  · -- What is taken from a part is taken from the whole, and is then all of it.
    obtain ⟨rest, rfl⟩ := front
    rw [InRange.unwrapBER_eq, unwrapBER_eq]
    cases ran : consume part with
    | error err => exact ⟨err, rfl⟩
    | ok other =>
      have same := (consume_append ran rest).symm.trans whole
      cases same
      have shorter : rest ≠ [] := by
        rintro rfl
        simp at proper
      refine ⟨.malformed, ?_⟩
      simp [Go.ofExcept, shorter]
  · -- What follows the item is refused.
    rw [InRange.unwrapBER_eq, unwrapBER_eq, taken more]
    refine ⟨.malformed, ?_⟩
    simp [Go.ofExcept, some]

/-- A value of at most two length bytes can be wrapped. -/
theorem wrapBER_isOk (tag : UInt8) {value : Bytes} (bounded : value.length ≤ 0xFFFF) :
    ∃ wrapped, wrapBER tag value = .ok wrapped := by
  obtain ⟨encoded, marshalled, -⟩ := consume_marshalBinary { tag, value } bounded
  exact ⟨encoded, marshalled⟩

/-- Items survive their encoding, whatever is accepted is encoded again at no greater length, and a wrapped value is
unwrapped from exactly its bytes. -/
theorem berTlv_exact :
    (∀ items : List Item, (∀ item ∈ items, item.value.length ≤ 65535) →
      ∃ data, marshalBinary items = .ok data ∧ InRange.unmarshalBinary data = .ok items) ∧
    (∀ data, InRange.unmarshalBinary data ≠ .error .outOfRange ∧
      ∀ items, InRange.unmarshalBinary data = .ok items →
        ∃ again, marshalBinary items = .ok again ∧ again.length ≤ data.length ∧
          InRange.unmarshalBinary again = .ok items) ∧
    (∀ (tag : UInt8) (value : Bytes), value.length ≤ 65535 → ∃ wrapped, wrapBER tag value = .ok wrapped) ∧
    ∀ (tag : UInt8) (value wrapped : Bytes), wrapBER tag value = .ok wrapped →
      InRange.unwrapBER wrapped = .ok (tag, value) ∧
      (∀ part, part <+: wrapped → part ≠ wrapped → ∃ err, InRange.unwrapBER part = Go.fail err) ∧
      ∀ more, more ≠ [] → ∃ err, InRange.unwrapBER (wrapped ++ more) = Go.fail err := by
  refine ⟨fun items bounded => unmarshalBinary_marshalBinary bounded, fun data => ?_,
    fun tag value bounded => wrapBER_isOk tag bounded, fun tag value wrapped ran => unwrapBER_wrapBER ran⟩
  obtain ⟨inRange, accepted⟩ := unmarshalBinary_ensures data
  refine ⟨inRange, fun items ran => ?_⟩
  obtain ⟨bounded, again, marshalled, shorter⟩ := accepted items ran
  obtain ⟨other, same, decoded⟩ := unmarshalBinary_marshalBinary bounded
  obtain rfl : again = other := Except.ok.inj (marshalled.symm.trans same)
  exact ⟨again, marshalled, shorter, decoded⟩

end Wwan.Sim.Tlv
