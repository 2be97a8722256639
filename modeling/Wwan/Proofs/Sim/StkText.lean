import Wwan.Sim.StkText

/-! Which texts of toolkit commands survive their encoding. -/

namespace Wwan.Sim.Stk

open BitStream (bitAt septetAt)

/-! The alphabet. -/

/-- A code with a character is a septet and not the escape. -/
theorem gsm7Char_code {code : UInt8} (known : gsm7Char code ≠ '?') : code.toNat < 128 ∧ code ≠ 0x1b := by
  unfold gsm7Char at known
  cases found : gsm7Table.find? fun entry => entry.1 == code with
  | some entry =>
    -- The codes of the table are septets.
    have septets : gsm7Table.all fun entry => entry.1.toNat < 128 && entry.1 != 0x1b := by decide
    have septet := List.all_eq_true.mp septets entry (List.mem_of_find?_eq_some found)
    have same := List.find?_some (p := fun entry : UInt8 × Char => entry.1 == code) found
    simpa [beq_iff_eq.mp same] using septet
  | none =>
    simp only [found] at known
    split at known
    · -- The other codes are those shared with ASCII, which are no escape.
      next shared =>
      simp only [sharedWithASCII, decide_eq_true_eq] at shared
      refine ⟨by omega, ?_⟩
      rintro rfl
      simp at shared
    · exact absurd rfl known

/-- A code with a character behind an escape is a septet. -/
theorem gsm7ExtensionChar_code {code : UInt8} (known : gsm7ExtensionChar code ≠ '?') : code.toNat < 128 := by
  unfold gsm7ExtensionChar at known
  cases found : gsm7ExtensionTable.find? fun entry => entry.1 == code with
  | some entry =>
    have septets : gsm7ExtensionTable.all fun entry => entry.1.toNat < 128 := by decide
    have septet := List.all_eq_true.mp septets entry (List.mem_of_find?_eq_some found)
    have same := List.find?_some (p := fun entry : UInt8 × Char => entry.1 == code) found
    simpa [beq_iff_eq.mp same] using septet
  | none => simp [found] at known

/-- A character of the alphabet has one code that decodes to it, or one behind an escape. -/
theorem gsm7SeptetsForRune_cases {r : Char} {septets : Bytes} (found : gsm7SeptetsForRune r = some septets) :
    (∃ code, septets = [code] ∧ code.toNat < 128 ∧ code ≠ 0x1b ∧ decodeGSMChar code = some r) ∨
    ∃ code, septets = [0x1b, code] ∧ code.toNat < 128 ∧ decodeGSMExtension code = some r := by
  -- The question mark has a code of its own, and else stands for no character.
  have question : gsm7Septets '?' = [0x3f] := by decide
  unfold gsm7SeptetsForRune at found
  split at found
  · rename_i code made
    rw [Option.ite_none_right_eq_some] at found
    obtain ⟨same, made'⟩ := found
    cases made'
    refine .inl ⟨code, rfl, ?_⟩
    -- A code of its own decodes to its character, the question mark included.
    by_cases mark : r = '?'
    · rw [mark, question] at made
      cases made
      rw [mark]
      decide
    · rw [← same] at mark
      obtain ⟨small, plain⟩ := gsm7Char_code mark
      exact ⟨small, plain, by rw [decodeGSMChar, if_pos (.inl mark), same]⟩
  · rename_i escape code made
    rw [Option.ite_none_right_eq_some] at found
    obtain ⟨⟨rfl, same⟩, made'⟩ := found
    cases made'
    -- The extension of the question mark would be encoded by its own code.
    have mark : gsm7ExtensionChar code ≠ '?' := by
      intro mark
      rw [← same, mark, question] at made
      cases made
    exact .inr ⟨code, rfl, gsm7ExtensionChar_code mark, by rw [decodeGSMExtension, if_pos mark, same]⟩
  · cases found

/-- The replacement character for invalid bytes is not in the alphabet. -/
theorem gsm7SeptetsForRune_runeError : gsm7SeptetsForRune Utf8.runeError = none := by decide

/-! Septets of texts, packed or not. -/

/-- The number of septets of runes. -/
def septetCount (rs : List Char) : Nat := (rs.map fun r => ((gsm7SeptetsForRune r).getD []).length).sum

/-- Encoded runes of the alphabet: what both encoders return. -/
def septetsOf : List Char → Option Bytes
  | [] => some []
  | r :: rs =>
    match gsm7SeptetsForRune r, septetsOf rs with
    | some first, some rest => some (first ++ rest)
    | _, _ => none

/-- The packed decoder reads a code of its own first. -/
theorem Gsm7Text.decode_plain {code : UInt8} {r : Char} (plain : code ≠ 0x1b) (decoded : decodeGSMChar code = some r)
    (rest : Bytes) : Gsm7Text.decode (code :: rest) = do return r :: (← Gsm7Text.decode rest) := by
  rw [Gsm7Text.decode.eq_def]
  simp only [plain, if_false, decoded]

/-- The packed decoder reads an escaped code first. -/
theorem Gsm7Text.decode_escaped {code : UInt8} {r : Char} (decoded : decodeGSMExtension code = some r) (rest : Bytes) :
    Gsm7Text.decode (0x1b :: code :: rest) = do return r :: (← Gsm7Text.decode rest) := by
  rw [Gsm7Text.decode.eq_def]
  simp only [if_true, decoded]

/-- The unpacked decoder reads a code of its own first. -/
theorem GsmDefaultText.decode_plain {code : UInt8} {r : Char} (plain : code ≠ 0x1b)
    (decoded : decodeGSMChar code = some r) (rest : Bytes) :
    GsmDefaultText.decode (code :: rest) = do return r :: (← GsmDefaultText.decode rest) := by
  rw [GsmDefaultText.decode.eq_def]
  simp only [plain, if_false, decoded]

/-- The unpacked decoder reads an escaped code first. -/
theorem GsmDefaultText.decode_escaped {code : UInt8} {r : Char} (decoded : decodeGSMExtension code = some r)
    (rest : Bytes) : GsmDefaultText.decode (0x1b :: code :: rest) = do return r :: (← GsmDefaultText.decode rest) := by
  rw [GsmDefaultText.decode.eq_def]
  simp only [if_true, decoded]

/-- Both decoders read encoded runes back, in front of anything. -/
theorem decode_septetsOf {rs : List Char} {septets : Bytes} (encoded : septetsOf rs = some septets) :
    (∀ septet ∈ septets, septet.toNat < 128) ∧ septets.length = septetCount rs ∧ Utf8.runeError ∉ rs ∧
    (∀ rest, Gsm7Text.decode (septets ++ rest) = do return rs ++ (← Gsm7Text.decode rest)) ∧
    ∀ rest, GsmDefaultText.decode (septets ++ rest) = do return rs ++ (← GsmDefaultText.decode rest) := by
  -- The induction is on the runes, and both decoders take one rune at a time.
  induction rs generalizing septets with
  | nil =>
    cases encoded
    refine ⟨by simp, rfl, by simp, fun rest => ?_, fun rest => ?_⟩
    · cases ran : Gsm7Text.decode rest <;> simp [ran]
    · cases ran : GsmDefaultText.decode rest <;> simp [ran]
  | cons r rs ih =>
    simp only [septetsOf] at encoded
    split at encoded
    · rename_i first rest found others
      cases encoded
      obtain ⟨small, count, valid, packed, unpacked⟩ := ih others
      -- The replacement character is not in the alphabet.
      have notError : Utf8.runeError ≠ r := by
        rintro rfl
        rw [gsm7SeptetsForRune_runeError] at found
        cases found
      have total : (first ++ rest).length = septetCount (r :: rs) := by
        simp [septetCount, found, count]
      rcases gsm7SeptetsForRune_cases found with ⟨code, rfl, septet, plain, decoded⟩ | ⟨code, rfl, septet, decoded⟩
      · -- A rune with a code of its own.
        refine ⟨by simpa using ⟨septet, small⟩, total, by simp [notError, valid], fun more => ?_, fun more => ?_⟩
        · rw [List.append_assoc, List.singleton_append, Gsm7Text.decode_plain plain decoded, packed]
          cases Gsm7Text.decode more <;> rfl
        · rw [List.append_assoc, List.singleton_append, GsmDefaultText.decode_plain plain decoded, unpacked]
          cases GsmDefaultText.decode more <;> rfl
      · -- A rune behind an escape.
        refine ⟨by simpa using ⟨septet, small⟩, total, by simp [notError, valid], fun more => ?_, fun more => ?_⟩
        · simp only [List.cons_append, List.nil_append, Gsm7Text.decode_escaped decoded, packed]
          cases Gsm7Text.decode more <;> rfl
        · simp only [List.cons_append, List.nil_append, GsmDefaultText.decode_escaped decoded, unpacked]
          cases GsmDefaultText.decode more <;> rfl
    · cases encoded

/-- The packed encoder starts from these septets. -/
theorem Gsm7Text.encode_eq_ok {rs : List Char} {septets : Bytes} :
    Gsm7Text.encode rs = .ok septets ↔ septetsOf rs = some septets := by
  induction rs generalizing septets with
  | nil => simp [Gsm7Text.encode, septetsOf]
  | cons r rs ih =>
    cases found : gsm7SeptetsForRune r with
    | none => simp [Gsm7Text.encode, septetsOf, found]
    | some first =>
      simp only [Gsm7Text.encode, septetsOf, found, Go.bind_eq_ok, ih, Go.pure_eq, Except.ok.injEq]
      cases septetsOf rs <;> simp

/-- The unpacked encoder returns these septets. -/
theorem GsmDefaultText.encode_eq_ok {rs : List Char} {septets : Bytes} :
    GsmDefaultText.encode rs = .ok septets ↔ septetsOf rs = some septets := by
  induction rs generalizing septets with
  | nil => simp [GsmDefaultText.encode, septetsOf]
  | cons r rs ih =>
    cases found : gsm7SeptetsForRune r with
    | none => simp [GsmDefaultText.encode, septetsOf, found]
    | some first =>
      simp only [GsmDefaultText.encode, septetsOf, found, Go.bind_eq_ok, ih, Go.pure_eq, Except.ok.injEq]
      cases septetsOf rs <;> simp

/-! Packing and unpacking. -/

namespace Gsm7Text

/-- Packing sets exactly the bits of the septets, from the offset on. -/
theorem pack_spec (septets out : Bytes) (bit : Nat) (inside : bit + 7 * septets.length ≤ 8 * out.length) :
    ∃ packed, pack out bit septets = .ok packed ∧ packed.length = out.length ∧
      ∀ j, bitAt packed j = (bitAt out j || (bit ≤ j && septetAt septets (j - bit))) := by
  -- The induction is on the septets, for every offset.
  induction septets generalizing out bit with
  | nil => exact ⟨out, rfl, rfl, fun j => by simp⟩
  | cons septet septets ih =>
    simp only [List.length_cons] at inside
    obtain ⟨stored, wrote, length, bits⟩ := BitStream.storeBits_spec (ε := TextError) out bit septet 7 (by omega)
    obtain ⟨packed, wroteRest, restLength, restBits⟩ := ih stored (bit + 7) (by omega)
    refine ⟨packed, ?_, by omega, fun j => ?_⟩
    · rw [pack, wrote, Go.ok_bind, wroteRest]
    · rw [restBits, bits, BitStream.septetAt_cons, Bool.or_assoc]
      congr 1
      -- The new septet fills seven bits, and the others follow behind it.
      by_cases before : bit ≤ j
      · by_cases first : j < bit + 7
        · have small : j - bit < 7 := by omega
          have notYet : ¬ bit + 7 ≤ j := by omega
          simp [before, first, small, notYet]
        · have large : ¬ j - bit < 7 := by omega
          have reached : bit + 7 ≤ j := by omega
          have shifted : j - (bit + 7) = j - bit - 7 := by omega
          simp [before, first, large, reached, shifted]
      · have notYet : ¬ bit + 7 ≤ j := by omega
        simp [before, notYet]

/-- Every byte gives a septet, and every seven of them give one more. -/
theorem length_unpack (data : Bytes) (carry : UInt8) {carryBits : Nat} (few : carryBits < 7) :
    (unpack carry carryBits data).length = data.length + (data.length + carryBits) / 7 := by
  induction data generalizing carry carryBits with
  | nil =>
    simp only [unpack, List.length_nil]
    omega
  | cons b rest ih =>
    rw [unpack]
    by_cases last : carryBits + 1 = 7
    · simp only [if_pos last, List.length_cons, ih 0 (show 0 < 7 by omega)]
      omega
    · simp only [if_neg last, List.length_cons, ih _ (show carryBits + 1 < 7 by omega)]
      omega

/-- The bits of the septet that a byte completes. -/
theorem testBit_septet (b carry : UInt8) {carryBits : Nat} (few : carryBits < 7) (fits : carry.toNat < 2 ^ carryBits)
    (i : Nat) : (((b <<< UInt8.ofNat carryBits) &&& 0x7f) ||| carry).toNat.testBit i =
      if i < carryBits then carry.toNat.testBit i else decide (i < 7) && b.toNat.testBit (i - carryBits) := by
  have shift : (UInt8.ofNat carryBits).toNat % 8 = carryBits := by
    rw [UInt8.toNat_ofNat_of_lt' (by simp [UInt8.size]; omega)]
    omega
  have mask : (0x7f : UInt8).toNat = 2 ^ 7 - 1 := rfl
  rw [UInt8.toNat_or, UInt8.toNat_and, UInt8.toNat_shiftLeft, shift, mask, Nat.testBit_or, Nat.testBit_and,
    Nat.testBit_mod_two_pow, Nat.testBit_shiftLeft, Nat.testBit_two_pow_sub_one]
  -- Below the carried bits the septet is the carry, and above them the byte.
  by_cases low : i < carryBits
  · have notYet : ¬ i ≥ carryBits := by omega
    simp [low, notYet]
  · have power : 2 ^ carryBits ≤ 2 ^ i := Nat.pow_le_pow_right (by omega) (by omega)
    have none : carry.toNat.testBit i = false := Nat.testBit_lt_two_pow (by omega)
    have reached : i ≥ carryBits := by omega
    by_cases septet : i < 7
    · simp [low, none, reached, septet, show i < 8 by omega]
    · simp [low, none, septet]

/-- The bits that a byte carries over. -/
theorem testBit_carry (b : UInt8) {carryBits : Nat} (few : carryBits < 7) (i : Nat) :
    (b >>> UInt8.ofNat (7 - carryBits)).toNat.testBit i = b.toNat.testBit (i + 7 - carryBits) := by
  have shift : (UInt8.ofNat (7 - carryBits)).toNat % 8 = 7 - carryBits := by
    rw [UInt8.toNat_ofNat_of_lt' (by simp [UInt8.size]; omega)]
    omega
  rw [UInt8.toNat_shiftRight, shift, Nat.testBit_shiftRight]
  congr 1
  omega

/-- They are one more than before. -/
theorem carry_lt (b : UInt8) {carryBits : Nat} (few : carryBits < 7) :
    (b >>> UInt8.ofNat (7 - carryBits)).toNat < 2 ^ (carryBits + 1) := by
  have shift : (UInt8.ofNat (7 - carryBits)).toNat % 8 = 7 - carryBits := by
    rw [UInt8.toNat_ofNat_of_lt' (by simp [UInt8.size]; omega)]
    omega
  have below := b.toNat_lt
  rw [UInt8.toNat_shiftRight, shift, Nat.shiftRight_eq_div_pow, Nat.div_lt_iff_lt_mul (Nat.two_pow_pos _), ← Nat.pow_add]
  have width : carryBits + 1 + (7 - carryBits) = 8 := by omega
  rw [width]
  exact below

/-- The bits of the septets are the carried bits, and then those of the bytes. -/
theorem unpack_spec (data : Bytes) (carry : UInt8) {carryBits : Nat} (few : carryBits < 7)
    (fits : carry.toNat < 2 ^ carryBits) :
    (∀ septet ∈ unpack carry carryBits data, septet.toNat < 128) ∧
    ∀ n, n < 7 * (unpack carry carryBits data).length → septetAt (unpack carry carryBits data) n =
      if n < carryBits then carry.toNat.testBit n else bitAt data (n - carryBits) := by
  -- The induction is on the bytes, for any number of carried bits.
  induction data generalizing carry carryBits with
  | nil => exact ⟨by simp [unpack], by simp [unpack]⟩
  | cons b rest ih =>
    -- The first septet is the carry and the low bits of the byte.
    have septet : (((b <<< UInt8.ofNat carryBits) &&& 0x7f) ||| carry).toNat < 2 ^ 7 := by
      refine Nat.lt_pow_two_of_testBit _ fun i large => ?_
      rw [testBit_septet b carry few fits, if_neg (by omega), decide_eq_false (by omega), Bool.false_and]
    have first : ∀ n, n < 7 → (((b <<< UInt8.ofNat carryBits) &&& 0x7f) ||| carry).toNat.testBit n =
        if n < carryBits then carry.toNat.testBit n else bitAt (b :: rest) (n - carryBits) := by
      intro n small
      rw [testBit_septet b carry few fits, decide_eq_true small, Bool.true_and, BitStream.bitAt_cons,
        if_pos (show n - carryBits < 8 by omega)]
    rw [unpack]
    by_cases last : carryBits + 1 = 7
    · -- The seventh byte completes two septets.
      obtain rfl : carryBits = 6 := by omega
      obtain ⟨others, bits⟩ := ih 0 (show 0 < 7 by omega) (by simp)
      have second : ((b >>> UInt8.ofNat (7 - 6)) &&& 0x7f).toNat < 2 ^ 7 := by
        rw [UInt8.toNat_and]
        exact Nat.lt_of_le_of_lt Nat.and_le_right (by decide)
      have secondBits : ∀ n, n < 7 → ((b >>> UInt8.ofNat (7 - 6)) &&& 0x7f).toNat.testBit n =
          b.toNat.testBit (n + 1) := by
        intro n small
        have mask : (0x7f : UInt8).toNat = 2 ^ 7 - 1 := rfl
        rw [UInt8.toNat_and, Nat.testBit_and, testBit_carry b (by omega), mask, Nat.testBit_two_pow_sub_one,
          decide_eq_true small, Bool.and_true]
        congr 1
      simp only [Nat.reduceAdd, if_true]
      refine ⟨?_, fun n inside => ?_⟩
      · simp only [List.forall_mem_cons]
        exact ⟨septet, second, others⟩
      · simp only [List.length_cons] at inside
        rw [BitStream.septetAt_cons]
        split
        · exact first n ‹_›
        · rw [BitStream.septetAt_cons, if_neg (by omega : ¬ n < 6), BitStream.bitAt_cons]
          split
          · rw [secondBits _ ‹_›, if_pos (by omega)]
            congr 1
            omega
          · rw [bits _ (by omega), if_neg (by omega), if_neg (by omega)]
            congr 1
    · -- An earlier byte completes one septet, and its high bits are carried on.
      obtain ⟨others, bits⟩ := ih (b >>> UInt8.ofNat (7 - carryBits)) (show carryBits + 1 < 7 by omega) (carry_lt b few)
      simp only [if_neg last]
      refine ⟨?_, fun n inside => ?_⟩
      · simp only [List.forall_mem_cons]
        exact ⟨septet, others⟩
      · simp only [List.length_cons] at inside
        rw [BitStream.septetAt_cons]
        split
        · exact first n ‹_›
        · rw [bits _ (by omega), if_neg (by omega : ¬ n < carryBits), BitStream.bitAt_cons]
          split
          · rw [testBit_carry b few, if_pos (by omega)]
            congr 1
            omega
          · rw [if_neg (by omega)]
            congr 1
            omega

/-- Unpacking packed septets gives them back, and one clear septet more where the last byte leaves room for it. -/
theorem unpack_pack (septets : Bytes) (small : ∀ septet ∈ septets, septet.toNat < 128) :
    ∃ packed, pack (List.replicate ((septets.length * 7 + 7) / 8) 0) 0 septets = .ok packed ∧
      packed.length = (septets.length * 7 + 7) / 8 ∧
      unpack 0 0 packed = septets ++ List.replicate (if septets.length % 8 = 7 then 1 else 0) 0 := by
  obtain ⟨packed, wrote, length, bits⟩ :=
    pack_spec septets (List.replicate ((septets.length * 7 + 7) / 8) 0) 0 (by simp; omega)
  rw [List.length_replicate] at length
  have count := length_unpack packed 0 (show 0 < 7 by omega)
  obtain ⟨septetSized, unpacked⟩ := unpack_spec packed 0 (show 0 < 7 by omega) (by simp)
  refine ⟨packed, wrote, length, BitStream.ext_septetAt ?_ septetSized ?_ fun n inside => ?_⟩
  · -- There is room for one septet more in the last byte where seven bits of it are free.
    rw [count, length, List.length_append, List.length_replicate, Nat.add_zero]
    exact BitStream.septets_of_octets septets.length
  · -- The septet more is zero.
    intro septet member
    rcases List.mem_append.mp member with old | new
    · exact small septet old
    · rw [List.eq_of_mem_replicate new]
      decide
  · -- The bits are those that were packed.
    rw [unpacked n inside, if_neg (by omega), BitStream.septetAt_append_replicate, bits]
    simp

/-- A packed text is read back with a commercial at behind it where the last byte has room for a septet, and else as
it is. -/
theorem unmarshalBinary_marshalBinary {value : GoString} {data : Bytes} (marshalled : marshalBinary value = .ok data) :
    unmarshalBinary data =
      .ok (value ++ if septetCount (Utf8.runes value) % 8 = 7 then Utf8.encodeRune '@' else []) := by
  unfold marshalBinary at marshalled
  by_cases empty : value = []
  · -- The empty text has no septets.
    subst empty
    rw [if_pos rfl] at marshalled
    cases marshalled
    have none : Utf8.runes [] = [] := by rw [Utf8.runes]
    simp [unmarshalBinary, none, septetCount]
  · rw [if_neg empty] at marshalled
    obtain ⟨septets, encoded, packed'⟩ := Go.bind_eq_ok.mp marshalled
    rw [encode_eq_ok] at encoded
    obtain ⟨small, count, valid, decodes, -⟩ := decode_septetsOf encoded
    obtain ⟨packed, wrote, length, unpacked⟩ := unpack_pack septets small
    cases packed'.symm.trans wrote
    have whole := Utf8.encodeRunes_runes valid
    -- A text that is not empty has septets.
    have some : data ≠ [] := by
      rintro rfl
      have none : septets = [] := by
        rw [← List.length_eq_zero_iff]
        simp only [List.length_nil] at length
        omega
      subst none
      cases runes : Utf8.runes value with
      | nil =>
        rw [runes] at whole
        exact empty whole.symm
      | cons r rs =>
        rw [runes] at encoded
        simp only [septetsOf] at encoded
        split at encoded
        · rename_i first rest found others
          rcases gsm7SeptetsForRune_cases found with ⟨code, rfl, -⟩ | ⟨code, rfl, -⟩ <;> simp at encoded
        · cases encoded
    rw [unmarshalBinary, if_neg some, unpacked, decodes, ← count]
    split
    · -- The septet more decodes to an at sign.
      have at_ : decode (List.replicate 1 0) = .ok ['@'] := by decide
      rw [at_]
      simp [whole]
    · -- Without it the text is as it was.
      have nothing : decode (List.replicate 0 0) = .ok [] := rfl
      rw [nothing]
      simp [whole]

end Gsm7Text

/-- An unpacked text is read back. -/
theorem GsmDefaultText.unmarshalBinary_marshalBinary {value : GoString} {data : Bytes}
    (marshalled : GsmDefaultText.marshalBinary value = .ok data) : GsmDefaultText.unmarshalBinary data = .ok value := by
  rw [GsmDefaultText.marshalBinary, GsmDefaultText.encode_eq_ok] at marshalled
  obtain ⟨-, -, valid, -, decodes⟩ := decode_septetsOf marshalled
  have all := decodes []
  rw [List.append_nil] at all
  rw [GsmDefaultText.unmarshalBinary, all]
  simp [GsmDefaultText.decode, Utf8.encodeRunes_runes valid]

namespace Ucs2Text

/-- Two bytes for each rune of the basic plane decode to it. -/
theorem decode_encode {rs : List Char} {data : Bytes} (encoded : encode rs = .ok data) :
    data.length % 2 = 0 ∧ decode data = .ok rs := by
  induction rs generalizing data with
  | nil =>
    cases encoded
    exact ⟨rfl, rfl⟩
  | cons r rs ih =>
    rw [encode] at encoded
    split at encoded
    · simp at encoded
    · -- A rune of the basic plane is its high and its low byte.
      rename_i basic
      obtain ⟨rest, others, encoded⟩ := Go.bind_eq_ok.mp encoded
      cases encoded
      obtain ⟨even, decoded⟩ := ih others
      have high : (UInt8.ofNat (r.toNat / 256)).toNat = r.toNat / 256 :=
        UInt8.toNat_ofNat_of_lt' (by simp [UInt8.size]; omega)
      have low : (UInt8.ofNat r.toNat).toNat = r.toNat % 256 := by simp
      have whole : r.toNat / 256 * 256 + r.toNat % 256 = r.toNat := by omega
      -- A rune is no surrogate.
      have scalar := r.valid
      simp only [UInt32.isValidChar, Nat.isValidChar] at scalar
      have value : r.val.toNat = r.toNat := rfl
      rw [value] at scalar
      refine ⟨by simp; omega, ?_⟩
      rw [decode]
      simp only [high, low, whole]
      rw [if_neg (by omega), decoded]
      simp [Char.ofNat_toNat]

/-- A text of big-endian units is read back. -/
theorem unmarshalBinary_marshalBinary {value : GoString} {data : Bytes} (marshalled : marshalBinary value = .ok data) :
    unmarshalBinary data = .ok value := by
  unfold marshalBinary at marshalled
  split at marshalled
  · simp at marshalled
  · rename_i valid
    obtain ⟨even, decoded⟩ := decode_encode marshalled
    rw [unmarshalBinary, if_neg (by omega), decoded]
    simp [Utf8.encodeRunes_runes_of_valid (by simpa using valid)]

end Ucs2Text

/-! Text strings. -/

/-- A text that can be encoded is read back, unless it is packed and has seven septets more than a multiple of eight. -/
theorem textString_roundTrip_iff {t : TextString} {data : Bytes}
    (scheme : t.dcs = dcsGSM7Packed ∨ t.dcs = dcsGSM8Unpacked ∨ t.dcs = dcsUCS2)
    (marshalled : t.marshalBinary = .ok data) :
    TextString.unmarshalBinary data = .ok t ↔
      ¬ (t.dcs = dcsGSM7Packed ∧ septetCount (Utf8.runes t.value) % 8 = 7) := by
  obtain ⟨dcs, value⟩ := t
  simp only [TextString.marshalBinary, dcsGSM7Packed, dcsGSM8Unpacked, dcsUCS2] at marshalled scheme ⊢
  by_cases empty : value = []
  · -- Without a text there are no septets, and only the scheme is encoded, unless it is the default.
    subst empty
    have none : septetCount (Utf8.runes []) % 8 ≠ 7 := by
      have none : Utf8.runes [] = [] := by rw [Utf8.runes]
      rw [none]
      decide
    simp only [none, and_false, not_false_eq_true, iff_true]
    rcases scheme with rfl | rfl | rfl
    all_goals
      cases marshalled
      rfl
  · rw [if_neg empty] at marshalled
    simp only [empty, false_and, and_false, if_false] at marshalled
    rcases scheme with rfl | rfl | rfl
    · -- Only the packed text can gain a character.
      rw [if_pos rfl] at marshalled
      obtain ⟨raw, made, marshalled⟩ := Go.bind_eq_ok.mp marshalled
      cases marshalled
      have same : decodeTextString 0 raw = Gsm7Text.unmarshalBinary raw := rfl
      rw [TextString.unmarshalBinary, same, Gsm7Text.unmarshalBinary_marshalBinary made]
      by_cases seven : septetCount (Utf8.runes value) % 8 = 7
      · simp [seven, Utf8.encodeRune, String.utf8EncodeChar]
      · simp [seven]
    · -- Unpacked text has one byte for each code.
      rw [if_neg (by decide), if_pos rfl] at marshalled
      obtain ⟨raw, made, marshalled⟩ := Go.bind_eq_ok.mp marshalled
      cases marshalled
      have same : decodeTextString 4 raw = GsmDefaultText.unmarshalBinary raw := rfl
      rw [TextString.unmarshalBinary, same, GsmDefaultText.unmarshalBinary_marshalBinary made]
      simp
    · -- So does a text of two bytes for each rune read back.
      rw [if_neg (by decide), if_neg (by decide), if_pos rfl] at marshalled
      obtain ⟨raw, made, marshalled⟩ := Go.bind_eq_ok.mp marshalled
      cases marshalled
      have same : decodeTextString 8 raw = Ucs2Text.unmarshalBinary raw := rfl
      rw [TextString.unmarshalBinary, same, Ucs2Text.unmarshalBinary_marshalBinary made]
      simp

/-- A packed text of two characters is read back. -/
theorem textString_roundTrip_two :
    TextString.marshalBinary { dcs := dcsGSM7Packed, value := [0x48, 0x69] } = .ok [0x00, 0xc8, 0x34] ∧
    TextString.unmarshalBinary [0x00, 0xc8, 0x34] = .ok { dcs := dcsGSM7Packed, value := [0x48, 0x69] } := by
  have marshalled : TextString.marshalBinary { dcs := dcsGSM7Packed, value := [0x48, 0x69] } =
      .ok [0x00, 0xc8, 0x34] := by
    decide +kernel
  refine ⟨marshalled, (textString_roundTrip_iff (.inl rfl) marshalled).mpr ?_⟩
  decide +kernel

/-- A packed text of seven characters is read back with a commercial at behind it. -/
theorem textString_seven_not_roundTrip :
    TextString.marshalBinary { dcs := dcsGSM7Packed, value := [0x31, 0x32, 0x33, 0x34, 0x35, 0x36, 0x37] } =
      .ok [0x00, 0x31, 0xd9, 0x8c, 0x56, 0xb3, 0xdd, 0x00] ∧
    TextString.unmarshalBinary [0x00, 0x31, 0xd9, 0x8c, 0x56, 0xb3, 0xdd, 0x00] =
      .ok { dcs := dcsGSM7Packed, value := [0x31, 0x32, 0x33, 0x34, 0x35, 0x36, 0x37, 0x40] } := by
  constructor
  · decide +kernel
  · decide +kernel

end Wwan.Sim.Stk
