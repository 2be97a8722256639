import Wwan.Lib.Go

/-! Byte strings as little-endian bit streams, where bit `i` is bit `i % 8` of byte `i / 8`. -/

namespace Wwan.BitStream

variable {ε : Type}

/-- Bit `i` of the stream, clear beyond the last byte. -/
def bitAt (s : Bytes) (i : Nat) : Bool :=
  (s.getD (i / 8) 0).toNat.testBit (i % 8)

/-- The assignment `s[i/8] |= 1 << (i%8)`. -/
def setBit (s : Bytes) (i : Nat) : Go ε Bytes := do
  let byte ← Go.index s (i / 8)
  return s.set (i / 8) (UInt8.ofNat (byte.toNat ||| 2 ^ (i % 8)))

/-- Setting a bit of one byte changes no other bit of it. -/
private theorem testBit_or_two_pow (byte : UInt8) (i j : Nat) (small : i < 8) :
    (UInt8.ofNat (byte.toNat ||| 2 ^ i)).toNat.testBit j = (byte.toNat.testBit j || j == i) := by
  -- The disjunction stays below 256, so storing it in a byte loses nothing.
  have power : 2 ^ i < 2 ^ 8 := Nat.pow_lt_pow_right (by omega) small
  have fits : byte.toNat ||| 2 ^ i < 2 ^ 8 := Nat.or_lt_two_pow byte.toNat_lt power
  rw [UInt8.toNat_ofNat_of_lt' fits, Nat.testBit_or, Nat.testBit_two_pow]
  congr 1
  exact decide_eq_decide.mpr eq_comm

/-- A bit inside the stream can be set, and it is then the only bit that may have changed. -/
theorem setBit_spec (s : Bytes) (i : Nat) (inside : i < 8 * s.length) :
    ∃ t, (setBit s i : Go ε Bytes) = .ok t ∧ t.length = s.length ∧
      ∀ j, bitAt t j = (bitAt s j || j == i) := by
  have byteInside : i / 8 < s.length := by omega
  have found : s[i / 8]? = some s[i / 8] := List.getElem?_eq_getElem byteInside
  refine ⟨s.set (i / 8) (UInt8.ofNat (s[i / 8].toNat ||| 2 ^ (i % 8))), ?_, ?_, ?_⟩
  · simp [setBit, Go.index_eq_ok found]
  · simp
  · intro j
    simp only [bitAt, List.getD_eq_getElem?_getD, List.getElem?_set]
    by_cases same : i / 8 = j / 8
    · -- Bits of the assigned byte are compared inside that byte.
      rw [if_pos same, if_pos byteInside, Option.getD_some, ← same, found, Option.getD_some,
        testBit_or_two_pow _ _ _ (by omega)]
      congr 1
      have : (j % 8 == i % 8) = (j == i) := by
        rw [Bool.eq_iff_iff]
        simp only [beq_iff_eq]
        omega
      exact this
    · -- Bits of any other byte are read from the untouched part of the stream.
      rw [if_neg same]
      have : (j == i) = false := by
        simp only [beq_eq_false_iff_ne]
        intro equal
        exact same (by rw [equal])
      simp [this]

/-- Storing the low bits of a value one by one, over clear bits inside the stream, sets exactly these bits. -/
theorem storeBits_spec (s : Bytes) (offset : Nat) (value : UInt8) (count : Nat)
    (inside : offset + count ≤ 8 * s.length) :
    ∃ stored, ((List.range count).foldlM (fun s bit =>
        if value.toNat.testBit bit then setBit s (offset + bit) else return s) s : Go ε Bytes) = .ok stored ∧
      stored.length = s.length ∧
      ∀ j, bitAt stored j = (bitAt s j || (offset ≤ j && j < offset + count && value.toNat.testBit (j - offset))) := by
  induction count with
  | zero =>
    refine ⟨s, rfl, rfl, fun j => ?_⟩
    have : (decide (offset ≤ j) && decide (j < offset + 0)) = false := by
      simp only [Bool.and_eq_false_iff, decide_eq_false_iff_not]
      omega
    rw [this, Bool.false_and, Bool.or_false]
  | succ count ih =>
    obtain ⟨stored, wrote, length, bits⟩ := ih (by omega)
    rw [List.range_succ, List.foldlM_append, wrote, Go.ok_bind, List.foldlM_cons]
    simp only [List.foldlM_nil, bind_pure]
    -- Below the new position nothing changes, and the new position takes the value's next bit.
    by_cases bit : value.toNat.testBit count = true
    · obtain ⟨next, wroteNext, nextLength, nextBits⟩ := setBit_spec (ε := ε) stored (offset + count) (by omega)
      refine ⟨next, by rw [if_pos bit, wroteNext], by omega, fun j => ?_⟩
      rw [nextBits, bits]
      by_cases last : j = offset + count
      · subst last
        simp [bit]
      · have other : (j == offset + count) = false := by simpa using last
        have range : (j < offset + (count + 1)) ↔ (j < offset + count) := by omega
        simp [other, range]
    · refine ⟨stored, by rw [if_neg bit]; rfl, length, fun j => ?_⟩
      rw [bits]
      by_cases last : j = offset + count
      · subst last
        simp [bit]
      · have range : (j < offset + (count + 1)) ↔ (j < offset + count) := by omega
        simp [range]

/-- An all-zero stream has no set bit. -/
@[simp] theorem bitAt_replicate_zero (count i : Nat) : bitAt (List.replicate count 0) i = false := by
  simp [bitAt, List.getD_eq_getElem?_getD, List.getElem?_replicate]
  split <;> simp

/-- A prefix of the stream carries its own bits. -/
theorem bitAt_append_left (s t : Bytes) (i : Nat) (inside : i < 8 * s.length) :
    bitAt (s ++ t) i = bitAt s i := by
  have : i / 8 < s.length := by omega
  simp [bitAt, List.getD_eq_getElem?_getD, List.getElem?_append, this]

/-- The bits after a prefix are those of the rest. -/
theorem bitAt_append_right (s t : Bytes) (i : Nat) (beyond : 8 * s.length ≤ i) :
    bitAt (s ++ t) i = bitAt t (i - 8 * s.length) := by
  have outside : ¬ i / 8 < s.length := by omega
  have quotient : i / 8 - s.length = (i - 8 * s.length) / 8 := by omega
  have remainder : i % 8 = (i - 8 * s.length) % 8 := by omega
  simp [bitAt, List.getD_eq_getElem?_getD, List.getElem?_append, outside, quotient, remainder]

/-- The first eight bits are those of the first byte. -/
theorem bitAt_cons (b : UInt8) (s : Bytes) (i : Nat) :
    bitAt (b :: s) i = if i < 8 then b.toNat.testBit i else bitAt s (i - 8) := by
  split
  · rename_i small
    have quotient : i / 8 = 0 := by omega
    have remainder : i % 8 = i := by omega
    simp [bitAt, quotient, remainder]
  · rename_i large
    have quotient : i / 8 = (i - 8) / 8 + 1 := by omega
    have remainder : i % 8 = (i - 8) % 8 := by omega
    simp [bitAt, quotient, remainder]

/-- Streams of one length with the same bits are equal. -/
theorem ext_bitAt {s t : Bytes} (lengths : s.length = t.length)
    (bits : ∀ i, i < 8 * s.length → bitAt s i = bitAt t i) : s = t := by
  -- Each byte is determined by the eight stream bits it holds.
  refine List.ext_getElem lengths fun n left right => ?_
  apply UInt8.toNat_inj.mp
  apply Nat.eq_of_testBit_eq
  intro j
  by_cases small : j < 8
  · have bit := bits (8 * n + j) (by omega)
    have quotient : (8 * n + j) / 8 = n := by omega
    have remainder : (8 * n + j) % 8 = j := by omega
    simpa [bitAt, List.getD_eq_getElem?_getD, quotient, remainder, left, right] using bit
  · have high (byte : UInt8) : byte.toNat.testBit j = false :=
      Nat.testBit_lt_two_pow (Nat.lt_of_lt_of_le byte.toNat_lt (Nat.pow_le_pow_right (by omega) (by omega)))
    rw [high, high]

/-! Septets, seven bits to the byte. -/

/-- Bit `n` of a septet sequence, clear beyond the last septet. -/
def septetAt (septets : Bytes) (n : Nat) : Bool := (septets.getD (n / 7) 0).toNat.testBit (n % 7)

/-- There are no bits without septets. -/
@[simp] theorem septetAt_nil (n : Nat) : septetAt [] n = false := by
  simp [septetAt]

/-- The first seven bits belong to the first septet. -/
theorem septetAt_cons (septet : UInt8) (septets : Bytes) (n : Nat) :
    septetAt (septet :: septets) n = if n < 7 then septet.toNat.testBit n else septetAt septets (n - 7) := by
  split
  · rename_i small
    have quotient : n / 7 = 0 := by omega
    have remainder : n % 7 = n := by omega
    simp [septetAt, quotient, remainder]
  · rename_i large
    have quotient : n / 7 = (n - 7) / 7 + 1 := by omega
    have remainder : n % 7 = (n - 7) % 7 := by omega
    simp [septetAt, quotient, remainder]

/-- Clear septets behind others add no set bit. -/
theorem septetAt_append_replicate (septets : Bytes) (count n : Nat) :
    septetAt (septets ++ List.replicate count 0) n = septetAt septets n := by
  unfold septetAt
  congr 2
  simp only [List.getD_eq_getElem?_getD, List.getElem?_append, List.getElem?_replicate]
  by_cases inside : n / 7 < septets.length
  · rw [if_pos inside]
  · rw [if_neg inside, List.getElem?_eq_none (by omega)]
    split <;> rfl

/-- Septet sequences of one length with the same bits are equal. -/
theorem ext_septetAt {s t : Bytes} (lengths : s.length = t.length) (small : ∀ septet ∈ s, septet.toNat < 128)
    (others : ∀ septet ∈ t, septet.toNat < 128) (bits : ∀ n, n < 7 * s.length → septetAt s n = septetAt t n) : s = t := by
  refine List.ext_getElem lengths fun n left right => ?_
  apply UInt8.toNat_inj.mp
  apply Nat.eq_of_testBit_eq
  intro j
  by_cases low : j < 7
  · have bit := bits (7 * n + j) (by omega)
    have quotient : (7 * n + j) / 7 = n := by omega
    have remainder : (7 * n + j) % 7 = j := by omega
    simpa [septetAt, List.getD_eq_getElem?_getD, quotient, remainder, left, right] using bit
  · -- A septet has no eighth bit.
    have power : 2 ^ 7 ≤ 2 ^ j := Nat.pow_le_pow_right (by omega) (by omega)
    have high {septet : UInt8} (below : septet.toNat < 128) : septet.toNat.testBit j = false :=
      Nat.testBit_lt_two_pow (Nat.lt_of_lt_of_le below power)
    rw [high (small _ (List.getElem_mem left)), high (others _ (List.getElem_mem right))]

/-- The septets that fit the bytes of packed septets. -/
theorem septets_of_octets (count : Nat) :
    (count * 7 + 7) / 8 + (count * 7 + 7) / 8 / 7 = count + if count % 8 = 7 then 1 else 0 := by
  obtain ⟨groups, rest, few, rfl⟩ : ∃ groups rest, rest < 8 ∧ count = 8 * groups + rest :=
    ⟨count / 8, count % 8, Nat.mod_lt _ (by omega), (Nat.div_add_mod count 8).symm⟩
  -- Eight septets take seven bytes, and fewer take as many bytes as they are.
  have octets : (((8 * groups + rest) * 7 + 7) / 8) = 7 * groups + (rest * 7 + 7) / 8 := by omega
  rw [octets]
  rcases rest with _ | _ | _ | _ | _ | _ | _ | _ | rest
  all_goals first | omega | (simp only [Nat.reduceAdd, Nat.reduceMul, Nat.reduceDiv]; split <;> omega)

end Wwan.BitStream
