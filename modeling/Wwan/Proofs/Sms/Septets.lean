import Mathlib.Tactic.SplitIfs
import Wwan.Sms.Pdu

/-! Packed septets read back unchanged, whatever header precedes them. -/

namespace Wwan.Sms

open BitStream (bitAt)

/-- Storing bits inside the buffer sets exactly the value's bits at the offset. -/
theorem putBits_spec (dst : Bytes) (offset : Nat) (value : UInt8) (count : Nat)
    (inside : offset + count ≤ 8 * dst.length) :
    ∃ stored, putBits dst offset value count = .ok stored ∧ stored.length = dst.length ∧
      ∀ j, bitAt stored j =
        (bitAt dst j || (offset ≤ j && j < offset + count && value.toNat.testBit (j - offset))) := by
  exact BitStream.storeBits_spec dst offset value count inside

/-- Reading bits inside the buffer collects them into one octet, lowest first. -/
theorem readBits_spec (src : Bytes) (offset count : Nat) (octet : count ≤ 8)
    (inside : offset + count ≤ 8 * src.length) :
    ∃ value, readBits src offset count = .ok value ∧
      ∀ k, value.toNat.testBit k = (k < count && bitAt src (offset + k)) := by
  -- The induction is on the number of bits, the last of which is the highest.
  induction count with
  | zero => exact ⟨0, rfl, fun k => by simp⟩
  | succ count ih =>
    obtain ⟨value, read, bits⟩ := ih (by omega) (by omega)
    -- The bit is inside the buffer.
    have byteInside : (offset + count) / 8 < src.length := by omega
    have found : src[(offset + count) / 8]? = some src[(offset + count) / 8] :=
      List.getElem?_eq_getElem byteInside
    have bit : src[(offset + count) / 8].toNat.testBit ((offset + count) % 8) =
        bitAt src (offset + count) := by
      simp [bitAt, List.getD_eq_getElem?_getD, found]
    have unfolded : readBits src offset (count + 1) =
        (readBits src offset count >>= fun value =>
          return if bitAt src (offset + count) then UInt8.ofNat (value.toNat ||| 2 ^ count)
            else value) := by
      simp only [readBits, List.range_succ, List.foldlM_append, List.foldlM_cons, List.foldlM_nil,
        bind_pure, Go.index_eq_ok found, Go.ok_bind, bit]
    refine ⟨_, by rw [unfolded, read]; rfl, fun k => ?_⟩
    have power : 2 ^ count < 2 ^ 8 := Nat.pow_lt_pow_right (by omega) (by omega)
    have fits : value.toNat ||| 2 ^ count < 2 ^ 8 := Nat.or_lt_two_pow value.toNat_lt power
    by_cases set : bitAt src (offset + count) = true
    · -- A bit that is set is added at its own place.
      rw [if_pos set, UInt8.toNat_ofNat_of_lt' fits, Nat.testBit_or, bits, Nat.testBit_two_pow]
      by_cases last : k = count
      · subst last
        simp [set]
      · have range : (k < count + 1) ↔ (k < count) := by omega
        have other : ¬ count = k := fun same => last same.symm
        simp [range, other]
    · -- A bit that is clear adds nothing.
      rw [if_neg set, bits]
      by_cases last : k = count
      · subst last
        simp [set]
      · have range : (k < count + 1) ↔ (k < count) := by omega
        simp [range]

/-- Bit `n` of a septet sequence, seven bits to the septet. -/
def septetBit (septets : Bytes) (n : Nat) : Bool :=
  (septets.getD (n / 7) 0 &&& 0x7f).toNat.testBit (n % 7)

/-- The first seven bits belong to the first septet. -/
private theorem septetBit_cons (septet : UInt8) (rest : Bytes) (n : Nat) :
    septetBit (septet :: rest) n =
      if n < 7 then (septet &&& 0x7f).toNat.testBit n else septetBit rest (n - 7) := by
  split
  · rename_i small
    have quotient : n / 7 = 0 := by omega
    have remainder : n % 7 = n := by omega
    simp [septetBit, quotient, remainder]
  · rename_i large
    have quotient : n / 7 = (n - 7) / 7 + 1 := by omega
    have remainder : n % 7 = (n - 7) % 7 := by omega
    simp [septetBit, quotient, remainder]

/-- Beyond the last septet there are no bits. -/
private theorem septetBit_nil (n : Nat) : septetBit [] n = false := by
  simp [septetBit]

/-- The packing loop sets exactly the bits of its septets, from the first septet's position on. -/
private theorem packLoop_spec (septets : Bytes) (startBit position : Nat) (result : Bytes)
    (inside : startBit + (position + septets.length) * 7 ≤ 8 * result.length) :
    ∃ packed, (septets.zipIdx position).foldlM (fun result (septet, i) =>
        putBits result (startBit + i * 7) (septet &&& 0x7f) 7) result = .ok packed ∧
      packed.length = result.length ∧
      ∀ j, bitAt packed j = (bitAt result j ||
        (startBit + position * 7 ≤ j && septetBit septets (j - (startBit + position * 7)))) := by
  -- The induction is on the septets, each of which is stored at its own place.
  induction septets generalizing position result with
  | nil => exact ⟨result, rfl, rfl, fun j => by simp [septetBit_nil]⟩
  | cons septet rest ih =>
    simp only [List.length_cons] at inside
    obtain ⟨stored, wrote, length, bits⟩ :=
      putBits_spec result (startBit + position * 7) (septet &&& 0x7f) 7 (by omega)
    obtain ⟨packed, wroteRest, restLength, restBits⟩ :=
      ih (position + 1) stored (by rw [length]; omega)
    refine ⟨packed, ?_, by omega, fun j => ?_⟩
    · rw [List.zipIdx_cons, List.foldlM_cons]
      dsimp only
      rw [wrote, Go.ok_bind, wroteRest]
    · rw [restBits, bits, septetBit_cons, Bool.or_assoc]
      congr 1
      -- The new septet fills seven bits, and the others follow behind it.
      by_cases before : startBit + position * 7 ≤ j
      · by_cases first : j < startBit + position * 7 + 7
        · have small : j - (startBit + position * 7) < 7 := by omega
          have notYet : ¬ startBit + (position + 1) * 7 ≤ j := by omega
          simp [before, first, small, notYet]
        · have large : ¬ j - (startBit + position * 7) < 7 := by omega
          have reached : startBit + (position + 1) * 7 ≤ j := by omega
          have shifted : j - (startBit + (position + 1) * 7) =
              j - (startBit + position * 7) - 7 := by omega
          simp [before, first, large, reached, shifted]
      · have notYet : ¬ startBit + (position + 1) * 7 ≤ j := by omega
        simp [before, notYet]

/-- Packing keeps the header as a prefix and puts the septets' bits behind its padding. -/
theorem packSeptets_spec (septets header : Bytes) :
    ∃ packed, packSeptets septets header = .ok (packed, (header.length * 8 + 6) / 7) ∧
      packed.length = ((header.length * 8 + 6) / 7 * 7 + septets.length * 7 + 7) / 8 ∧
      packed.take header.length = header ∧
      ∀ n, bitAt packed ((header.length * 8 + 6) / 7 * 7 + n) = septetBit septets n := by
  generalize counted : (header.length * 8 + 6) / 7 = headerSeptets
  generalize sized : (headerSeptets * 7 + septets.length * 7 + 7) / 8 = size
  -- The header fits into the octets, and they start with it.
  have room : header.length ≤ size := by omega
  have copied : header.take size = header := List.take_of_length_le room
  have zeroed : (header ++ List.replicate (size - header.length) (0 : UInt8)).length = size := by
    simp
    omega
  obtain ⟨packed, wrote, length, bits⟩ := packLoop_spec septets (headerSeptets * 7) 0
    (header ++ List.replicate (size - header.length) 0) (by omega)
  have packedLength : packed.length = size := by omega
  refine ⟨packed, ?_, packedLength, ?_, fun n => ?_⟩
  · simp [packSeptets, counted, sized, copied, wrote]
  · -- The septets start behind the header, so none of its bits is touched.
    refine BitStream.ext_bitAt (by simp; omega) fun i below => ?_
    have inHeader : i < 8 * header.length := by
      simp only [List.length_take] at below
      omega
    have whole := BitStream.bitAt_append_left (packed.take header.length)
      (packed.drop header.length) i below
    rw [List.take_append_drop] at whole
    rw [← whole, bits, BitStream.bitAt_append_left _ _ _ inHeader]
    have before : ¬ headerSeptets * 7 ≤ i := by omega
    simp [before]
  · -- Behind the header all bits were clear.
    rw [bits, BitStream.bitAt_append_right _ _ _ (by omega)]
    simp

/-- Septets read back from a stream that carries their bits. -/
theorem unpackSeptets_spec (septets data : Bytes) (startBit : Nat)
    (septetSized : ∀ septet ∈ septets, septet ≤ 0x7f)
    (inside : startBit + septets.length * 7 ≤ 8 * data.length)
    (bits : ∀ n, n < septets.length * 7 → bitAt data (startBit + n) = septetBit septets n) :
    unpackSeptets data startBit septets.length = .ok septets := by
  have each : ∀ i ∈ List.range septets.length,
      readBits data (startBit + i * 7) 7 = .ok (septets.getD i 0) := by
    intro i member
    have below : i < septets.length := List.mem_range.mp member
    obtain ⟨value, read, valueBits⟩ := readBits_spec data (startBit + i * 7) 7 (by omega) (by omega)
    rw [read]
    congr 1
    apply UInt8.toNat_inj.mp
    apply Nat.eq_of_testBit_eq
    intro k
    -- Seven bits are read, and a septet has no eighth one.
    have entry : septets.getD i 0 = septets[i] := by
      simp [List.getD_eq_getElem?_getD, below]
    have small := septetSized septets[i] (List.getElem_mem below)
    rw [UInt8.le_iff_toNat_le] at small
    rw [valueBits, entry]
    by_cases inSeptet : k < 7
    · -- The bit is that of the septet at its place.
      have position := bits (i * 7 + k) (by omega)
      have quotient : (i * 7 + k) / 7 = i := by omega
      have remainder : (i * 7 + k) % 7 = k := by omega
      rw [← Nat.add_assoc] at position
      rw [position, septetBit, quotient, remainder, entry, UInt8.toNat_and, Nat.testBit_and]
      have mask : (0x7f : UInt8).toNat.testBit k = true := by
        have : (0x7f : UInt8).toNat = 2 ^ 7 - 1 := rfl
        rw [this, Nat.testBit_two_pow_sub_one]
        simpa using inSeptet
      rw [mask, Bool.and_true, decide_eq_true inSeptet, Bool.true_and]
    · have power : 2 ^ 7 ≤ 2 ^ k := Nat.pow_le_pow_right (by omega) (by omega)
      have high : septets[i].toNat.testBit k = false :=
        Nat.testBit_lt_two_pow (by simp at small; omega)
      simp [inSeptet, high]
  rw [unpackSeptets, Go.mapM_eq_ok each]
  congr 1
  refine List.ext_getElem (by simp) fun i left right => ?_
  simp [List.getD_eq_getElem?_getD, right]

/-- Septets packed behind a header read back from the bit that the count of header septets tells, and the header stands
unchanged in front of them. -/
theorem packed_septets_unpack (septets header : Bytes) (septetSized : ∀ septet ∈ septets, septet < 128) :
    ∃ packed headerSeptets, packSeptets septets header = .ok (packed, headerSeptets) ∧
      unpackSeptets packed (7 * headerSeptets) septets.length = .ok septets ∧ header <+: packed := by
  obtain ⟨packed, wrote, length, front, bits⟩ := packSeptets_spec septets header
  refine ⟨packed, _, wrote, ?_, ?_⟩
  · have within : ∀ septet ∈ septets, septet ≤ 0x7f := by
      intro septet member
      have small := septetSized septet member
      rw [UInt8.lt_iff_toNat_lt] at small
      rw [UInt8.le_iff_toNat_le]
      simp only [UInt8.reduceToNat] at small ⊢
      omega
    rw [Nat.mul_comm]
    -- The last septet may end inside the last octet, but not behind it.
    exact unpackSeptets_spec septets packed _ within (by omega) fun n _ => bits n
  · exact List.prefix_iff_eq_take.mpr front.symm

/-- Two septets behind a header of three octets, which leaves four bits of padding. -/
theorem two_packed_septets_unpack : (∀ septet ∈ ([0x7f, 0x41] : Bytes), septet < 128) ∧
    ∃ packed headerSeptets, packSeptets [0x7f, 0x41] [2, 0, 7] = .ok (packed, headerSeptets) ∧
      unpackSeptets packed (7 * headerSeptets) 2 = .ok [0x7f, 0x41] ∧ [2, 0, 7] <+: packed :=
  ⟨by simp, packed_septets_unpack [0x7f, 0x41] [2, 0, 7] (by simp)⟩

end Wwan.Sms
