import Wwan.Proofs.Sim.StkText
import Wwan.Sim.AlphaIdentifier

/-! Which alpha identifiers survive being encoded again. -/

namespace Wwan.Sim.Stk

/-! The indices stay in range. -/

namespace InRange

/-- The loop that trims padding returns the bytes before it. -/
theorem trimPaddingTo_eq (data : Bytes) {length : Nat} (inside : length ≤ data.length) :
    trimPaddingTo data length = .ok (Stk.trimPadding (data.take length)) := by
  induction length with
  | zero => simp [trimPaddingTo, Go.slice_to, Stk.trimPadding]
  | succ length ih =>
    have last : data.take (length + 1) = data.take length ++ [data[length]] := (List.take_append_getElem inside).symm
    have found : (data.take (length + 1))[length]? = some data[length] := by
      rw [List.getElem?_take_of_lt (by omega), List.getElem?_eq_getElem inside]
    rw [trimPaddingTo, Go.slice_to inside, Go.ok_bind, Go.index_eq_ok found, Go.ok_bind, ih (by omega), last]
    simp only [Stk.trimPadding, List.reverse_append, List.reverse_singleton, List.singleton_append, List.dropWhile_cons,
      decide_eq_true_eq]
    split
    · rfl
    · simp

/-- No index of `trimPadding` is out of range. -/
theorem trimPadding_eq (data : Bytes) : trimPadding data = .ok (Stk.trimPadding data) := by
  rw [trimPadding, trimPaddingTo_eq data le_rfl, List.take_length]

/-- No index of the loop over codes is out of range. -/
theorem gsmRunesFrom_eq (data : Bytes) (i : Nat) : gsmRunesFrom data i = GsmDefaultText.decode (data.drop i) := by
  -- The induction is on what is left behind the index.
  induction left : data.length - i using Nat.strong_induction_on generalizing i with
  | _ n ih =>
    rw [gsmRunesFrom]
    by_cases inside : i < data.length
    · rw [if_pos inside, Go.index_eq_ok (List.getElem?_eq_getElem inside), Go.ok_bind, List.drop_eq_getElem_cons inside,
        GsmDefaultText.decode.eq_def]
      dsimp only
      split
      · -- An escape takes the next code with it, where there is one.
        by_cases more : i + 1 < data.length
        · have rest := ih _ (by omega) (i + 2) rfl
          rw [if_neg (by omega), Go.index_eq_ok (List.getElem?_eq_getElem more), Go.ok_bind,
            List.drop_eq_getElem_cons more]
          cases found : decodeGSMExtension data[i + 1] <;> simp only [found, rest]
        · rw [if_pos (by omega), List.drop_eq_nil_of_le (by omega)]
      · -- Any other code stands for itself.
        have rest := ih _ (by omega) (i + 1) rfl
        cases decodeGSMChar data[i] <;> simp only [rest]
    · rw [if_neg inside, List.drop_eq_nil_of_le (by omega)]
      rfl

/-- No index of the loop over a compressed payload is out of range. -/
theorem compressedFrom_eq (base : Nat) (payload : Bytes) (i : Nat) :
    compressedFrom base payload i = decodeCompressed base (payload.drop i) := by
  -- The induction is on what is left behind the index.
  induction left : payload.length - i using Nat.strong_induction_on generalizing i with
  | _ n ih =>
    rw [compressedFrom]
    by_cases inside : i < payload.length
    · rw [if_pos inside, Go.index_eq_ok (List.getElem?_eq_getElem inside), Go.ok_bind, List.drop_eq_getElem_cons inside,
        decodeCompressed.eq_def]
      dsimp only
      split
      · -- A byte with its high bit set is an offset from the base.
        rw [ih _ (by omega) (i + 1) rfl]
      · split
        · -- An escape takes the next code with it, where there is one.
          by_cases more : i + 1 < payload.length
          · have rest := ih _ (by omega) (i + 2) rfl
            rw [if_neg (by omega), Go.index_eq_ok (List.getElem?_eq_getElem more), Go.ok_bind,
              List.drop_eq_getElem_cons more]
            cases found : decodeGSMExtension payload[i + 1] <;> simp only [found, rest]
          · rw [if_pos (by omega), List.drop_eq_nil_of_le (by omega)]
        · -- Any other code stands for itself.
          have rest := ih _ (by omega) (i + 1) rfl
          cases decodeGSMChar payload[i] <;> simp only [rest]
    · rw [if_neg inside, List.drop_eq_nil_of_le (by omega)]
      rfl

/-- The loop that trims units returns the bytes before them. -/
theorem trimUnitsTo_eq (data : Bytes) {length : Nat} (inside : length ≤ data.length) :
    trimUnitsTo data length = .ok (trimUnits (data.take length).reverse).reverse := by
  -- The loop goes back by two bytes, so the induction does.
  induction length using Nat.twoStepInduction with
  | zero => simp [trimUnitsTo, Go.slice_to, trimUnits]
  | one =>
    obtain ⟨first, rest, rfl⟩ := List.exists_cons_of_length_pos inside
    simp [trimUnitsTo, Go.slice_to, trimUnits]
  | more length ih _ =>
    -- The last unit is the two bytes before the length.
    have high : data.take (length + 1) = data.take length ++ [data[length]] :=
      (List.take_append_getElem (by omega)).symm
    have low : data.take (length + 2) = data.take (length + 1) ++ [data[length + 1]] :=
      (List.take_append_getElem (by omega)).symm
    have foundHigh : (data.take (length + 2))[length]? = some data[length] := by
      rw [List.getElem?_take_of_lt (by omega), List.getElem?_eq_getElem (by omega)]
    have foundLow : (data.take (length + 2))[length + 1]? = some data[length + 1] := by
      rw [List.getElem?_take_of_lt (by omega), List.getElem?_eq_getElem (by omega)]
    rw [trimUnitsTo, Go.slice_to inside, Go.ok_bind, Go.index_eq_ok foundHigh, Go.ok_bind, Go.index_eq_ok foundLow,
      Go.ok_bind, ih (by omega), low, high]
    simp only [List.reverse_append, List.reverse_singleton, List.singleton_append, trimUnits]
    split
    · rfl
    · simp

/-- No index of the loops over units is out of range. -/
theorem ucs2Runes_ucs2UnitsFrom (data : Bytes) (i : Nat) (even : (data.length - i) % 2 = 0) :
    ∃ units, ucs2UnitsFrom data i = .ok units ∧ ucs2Runes units = Ucs2Text.decode (data.drop i) := by
  induction left : data.length - i using Nat.strong_induction_on generalizing i with
  | _ n ih =>
    rw [ucs2UnitsFrom]
    by_cases inside : i < data.length
    · obtain ⟨units, collected, same⟩ := ih _ (by omega) (i + 2) (by omega) rfl
      have more : i + 1 < data.length := by omega
      have pair : (data.drop i).take (i + 2 - i) = [data[i], data[i + 1]] := by
        rw [List.drop_eq_getElem_cons inside, List.drop_eq_getElem_cons more, Nat.add_sub_cancel_left]
        rfl
      refine ⟨(data[i].toNat * 256 + data[i + 1].toNat) :: units, ?_, ?_⟩
      · rw [if_pos inside, Go.slice_eq_ok (by omega) (by omega), pair, collected]
        rfl
      · rw [List.drop_eq_getElem_cons inside, List.drop_eq_getElem_cons more, ucs2Runes, Ucs2Text.decode, same]
    · refine ⟨[], if_neg inside, ?_⟩
      rw [List.drop_eq_nil_of_le (by omega)]
      rfl

/-- No index of `ucs2Text.UnmarshalBinary` is out of range. -/
theorem unmarshalUCS2_eq (data : Bytes) : unmarshalUCS2 data = Ucs2Text.unmarshalBinary data := by
  rw [unmarshalUCS2, Ucs2Text.unmarshalBinary]
  split
  · rfl
  · rename_i even
    obtain ⟨units, collected, same⟩ := ucs2Runes_ucs2UnitsFrom data 0 (by omega)
    rw [collected, Go.ok_bind, same, List.drop_zero]

/-- No index of `decodeAlphaUCS2` is out of range. -/
theorem decodeAlphaUCS2_eq (data : Bytes) : decodeAlphaUCS2 data = Stk.decodeAlphaUCS2 data := by
  rw [decodeAlphaUCS2, Stk.decodeAlphaUCS2]
  by_cases odd : data.length % 2 ≠ 0
  · have last : data[data.length - 1]? = data.getLast? := List.getLast?_eq_getElem?.symm
    obtain ⟨b, isLast⟩ : ∃ b, data.getLast? = some b := by
      cases ends : data.getLast? with
      | none => simp [List.getLast?_eq_none_iff.mp ends] at odd
      | some b => exact ⟨b, rfl⟩
    rw [if_pos odd, if_pos odd, Go.index_eq_ok (last.trans isLast), Go.ok_bind, isLast]
    by_cases padding : b = 0xff
    · rw [if_neg (by simp [padding]), if_neg (by simp [padding]), trimUnitsTo_eq data (by omega), Go.ok_bind,
        unmarshalUCS2_eq, ← List.dropLast_eq_take]
      rfl
    · rw [if_pos padding, if_pos (by simp [padding])]
      rfl
  · rw [if_neg odd, if_neg odd, trimUnitsTo_eq data le_rfl, List.take_length, Go.ok_bind, unmarshalUCS2_eq]
    rfl

/-- No index of `decodeCompressedUCS2` is out of range. -/
theorem decodeCompressedUCS2_eq (data : Bytes) : decodeCompressedUCS2 data = Stk.decodeCompressedUCS2 data := by
  simp only [decodeCompressedUCS2, Stk.decodeCompressedUCS2, compressedFrom_eq, List.drop_zero]

/-- The decoder with its indices is the decoder of Lean lists. -/
theorem decodeAlphaIdentifier_eq (data : Bytes) : decodeAlphaIdentifier data = Stk.decodeAlphaIdentifier data := by
  cases data with
  | nil => rfl
  | cons first rest =>
    have begins : (Go.index (first :: rest) 0 : Go TextError UInt8) = .ok first := rfl
    have behind : (Go.slice (first :: rest) 1 (first :: rest).length : Go TextError Bytes) = .ok rest := by
      rw [Go.slice_eq_ok (by simp) le_rfl]
      simp
    rw [decodeAlphaIdentifier, if_neg (by simp), begins, Go.ok_bind, behind, Go.ok_bind, decodeAlphaUCS2_eq,
      decodeCompressedUCS2_eq, trimPadding_eq, Go.ok_bind, gsmRunesFrom_eq, List.drop_zero]
    rfl

end InRange

/-! What a decoder returns. -/

/-- The character whose two bytes are padding. -/
def paddingRune : Char := Char.ofNat 0xffff

/-- The runes of a text that UCS2 can hold. -/
def Basic (rs : List Char) : Prop := ∀ r ∈ rs, r.toNat ≤ 0xffff

/-- A character of the default alphabet is of the basic plane and is no padding. -/
theorem decodeGSMChar_basic {code : UInt8} {r : Char} (decoded : decodeGSMChar code = some r) : r.toNat < 0xffff := by
  have table : ∀ entry ∈ gsm7Table, entry.2.toNat < 0xffff := by decide
  have basic : (gsm7Char code).toNat < 0xffff := by
    unfold gsm7Char
    split
    · next found => exact table _ (List.mem_of_find?_eq_some found)
    · -- A code that is not in the table stands for itself, or for nothing.
      have byte := code.toNat_lt
      split
      · rw [Utf8.toNat_ofNat (.inl (by omega))]
        omega
      · decide
  simp only [decodeGSMChar] at decoded
  split at decoded
  · exact Option.some.inj decoded ▸ basic
  · cases decoded

/-- So is a character behind an escape. -/
theorem decodeGSMExtension_basic {code : UInt8} {r : Char} (decoded : decodeGSMExtension code = some r) :
    r.toNat < 0xffff := by
  have table : ∀ entry ∈ gsm7ExtensionTable, entry.2.toNat < 0xffff := by decide
  have basic : (gsm7ExtensionChar code).toNat < 0xffff := by
    unfold gsm7ExtensionChar
    split
    · next found => exact table _ (List.mem_of_find?_eq_some found)
    · decide
  simp only [decodeGSMExtension] at decoded
  split at decoded
  · exact Option.some.inj decoded ▸ basic
  · cases decoded

/-- Codes of the default alphabet decode to characters before the padding. -/
theorem GsmDefaultText.decode_ensures (data : Bytes) :
    (GsmDefaultText.decode data).Ensures fun rs => ∀ r ∈ rs, r.toNat < 0xffff := by
  -- The cases are those of the decoder.
  induction data using GsmDefaultText.decode.induct with
  | case1 => exact Go.ensures_ok (by simp)
  | case2 => exact Go.ensures_fail _
  | case3 code rest unknown =>
    simp only [GsmDefaultText.decode, unknown, if_true]
    exact Go.ensures_fail _
  | case4 code rest r known ih =>
    simp only [GsmDefaultText.decode, known, if_true]
    exact ih.bind fun rs small => Go.ensures_ok (List.forall_mem_cons.mpr ⟨decodeGSMExtension_basic known, small⟩)
  | case5 value rest plain unknown =>
    rw [GsmDefaultText.decode.eq_def]
    simp only [plain, unknown, if_false]
    exact Go.ensures_fail _
  | case6 value rest plain r known ih =>
    rw [GsmDefaultText.decode.eq_def]
    simp only [plain, known, if_false]
    exact ih.bind fun rs small => Go.ensures_ok (List.forall_mem_cons.mpr ⟨decodeGSMChar_basic known, small⟩)

/-- Whether the last byte of a compressed payload stands for the padding character. -/
def LastIsPadding (base : Nat) (payload : Bytes) : Prop :=
  ∃ b, payload.getLast? = some b ∧ b &&& 0x80 ≠ 0 ∧ base + (b &&& 0x7f).toNat = 0xffff

/-- What follows a byte decides whether the last one stands for the padding character. -/
theorem lastIsPadding_cons (base : Nat) (b : UInt8) (rest : Bytes) :
    LastIsPadding base (b :: rest) ↔
      if rest = [] then b &&& 0x80 ≠ 0 ∧ base + (b &&& 0x7f).toNat = 0xffff else LastIsPadding base rest := by
  cases rest with
  | nil => simp [LastIsPadding]
  | cons next rest => simp [LastIsPadding, List.getLast?_cons_cons]

/-- What a payload compressed over a base decodes to, as far as encoding it again needs it. -/
structure Decompressed (base : Nat) (payload : Bytes) (rs : List Char) : Prop where
  basic : Basic rs
  nil_iff : rs = [] ↔ payload = []
  last_iff : rs.getLast? = some paddingRune ↔ LastIsPadding base payload

/-- A byte that decodes to a character puts it in front. -/
theorem Decompressed.cons {base : Nat} {payload : Bytes} {rs : List Char} (rest : Decompressed base payload rs)
    {b : UInt8} {r : Char} (small : r.toNat ≤ 0xffff)
    (same : r = paddingRune ↔ b &&& 0x80 ≠ 0 ∧ base + (b &&& 0x7f).toNat = 0xffff) :
    Decompressed base (b :: payload) (r :: rs) := by
  refine ⟨List.forall_mem_cons.mpr ⟨small, rest.basic⟩, by simp, ?_⟩
  rw [lastIsPadding_cons]
  cases payload with
  | nil =>
    rw [rest.nil_iff.mpr rfl, if_pos rfl, ← same]
    simp
  | cons next payload =>
    have more : rs ≠ [] := fun none => by simpa using rest.nil_iff.mp none
    obtain ⟨following, others, rfl⟩ := List.exists_cons_of_ne_nil more
    rw [if_neg (by simp), List.getLast?_cons_cons, rest.last_iff]

/-- A character before the padding is not the padding. -/
theorem ne_paddingRune {r : Char} (small : r.toNat < 0xffff) : r ≠ paddingRune := by
  rintro rfl
  exact absurd small (by decide)

/-- A compressed payload decodes to characters of the basic plane, the last of which can be the padding. -/
theorem decodeCompressed_ensures (base : Nat) (payload : Bytes) :
    (decodeCompressed base payload).Ensures (Decompressed base payload) := by
  -- The cases are those of the decoder, one byte at a time or two behind an escape.
  induction payload using decodeCompressed.induct base with
  | case1 => exact Go.ensures_ok ⟨by simp [Basic], by simp, by simp [LastIsPadding]⟩
  | case2 b rest high codePoint outside =>
    rw [decodeCompressed.eq_def]
    simp only [if_pos high]
    rw [if_pos outside]
    exact Go.ensures_fail _
  | case3 b rest high codePoint inside ih =>
    rw [decodeCompressed.eq_def]
    simp only [if_pos high]
    rw [if_neg inside]
    refine ih.bind fun rs decoded => Go.ensures_ok ?_
    -- An offset that is inside gives a rune of the basic plane.
    have value : (Char.ofNat (base + (b &&& 0x7f).toNat)).toNat = base + (b &&& 0x7f).toNat :=
      Utf8.toNat_ofNat (by simp only [Nat.isValidChar]; omega)
    refine decoded.cons (by rw [value]; omega) ⟨fun same => ⟨high, ?_⟩, fun same => by rw [same.2]; rfl⟩
    rw [← value, same]
    rfl
  | case4 plain =>
    simp only [decodeCompressed, if_neg plain, if_true]
    exact Go.ensures_fail _
  | case5 code rest high plain =>
    simp only [decodeCompressed, if_neg plain, if_pos high, if_true]
    exact Go.ensures_fail _
  | case6 code rest low unknown plain =>
    simp only [decodeCompressed, if_neg plain, if_neg low, unknown, if_true]
    exact Go.ensures_fail _
  | case7 code rest low r known plain ih =>
    simp only [decodeCompressed, if_neg plain, if_neg low, known, if_true]
    refine ih.bind fun rs decoded => Go.ensures_ok ?_
    have small := decodeGSMExtension_basic known
    -- Neither the escape nor the code behind it has its high bit set.
    have behind : Decompressed base (code :: rest) (r :: rs) :=
      decoded.cons (Nat.le_of_lt small) (by simp [ne_paddingRune small, not_not.mp low])
    refine ⟨behind.basic, by simp, ?_⟩
    rw [behind.last_iff, lastIsPadding_cons base 0x1b, if_neg (by simp)]
  | case8 b rest plain other unknown =>
    rw [decodeCompressed.eq_def]
    simp only [if_neg plain, other, unknown, if_false]
    exact Go.ensures_fail _
  | case9 b rest plain other r known ih =>
    rw [decodeCompressed.eq_def]
    simp only [if_neg plain, other, known, if_false]
    refine ih.bind fun rs decoded => Go.ensures_ok ?_
    have small := decodeGSMChar_basic known
    exact decoded.cons (Nat.le_of_lt small) (by simp [ne_paddingRune small, not_not.mp plain])

/-! Encoding what was decoded. -/

/-- Characters of the basic plane can be encoded. -/
theorem Ucs2Text.encode_of_basic {rs : List Char} (basic : Basic rs) :
    ∃ data, Ucs2Text.encode rs = .ok data ∧ data.length = 2 * rs.length := by
  induction rs with
  | nil => exact ⟨[], rfl, rfl⟩
  | cons r rs ih =>
    obtain ⟨small, others⟩ := List.forall_mem_cons.mp basic
    obtain ⟨data, encoded, long⟩ := ih others
    refine ⟨UInt8.ofNat (r.toNat / 256) :: UInt8.ofNat r.toNat :: data, ?_, by simp [long]; omega⟩
    rw [Ucs2Text.encode, if_neg (by omega), encoded]
    rfl

/-- Two texts are encoded one behind the other. -/
theorem Ucs2Text.encode_append {before after : List Char} {first second : Bytes}
    (encodedFirst : Ucs2Text.encode before = .ok first) (encodedSecond : Ucs2Text.encode after = .ok second) :
    Ucs2Text.encode (before ++ after) = .ok (first ++ second) := by
  induction before generalizing first with
  | nil =>
    cases encodedFirst
    exact encodedSecond
  | cons r before ih =>
    rw [Ucs2Text.encode] at encodedFirst
    split at encodedFirst
    · simp at encodedFirst
    · rename_i small
      obtain ⟨rest, encodedRest, joined⟩ := Go.bind_eq_ok.mp encodedFirst
      cases joined
      rw [List.cons_append, Ucs2Text.encode, if_neg small, ih encodedRest]
      rfl

/-- Units decode to one character each, and to those whose units they are. -/
theorem Ucs2Text.decode_ensures (data : Bytes) :
    (Ucs2Text.decode data).Ensures fun rs =>
      rs.length = data.length / 2 ∧ (data.length % 2 = 0 → Basic rs ∧ Ucs2Text.encode rs = .ok data) := by
  -- The cases are those of the decoder, which takes two bytes at a time.
  induction data using Ucs2Text.decode.induct with
  | case1 high low rest unit surrogate =>
    simp only [Ucs2Text.decode]
    rw [if_pos surrogate]
    exact Go.ensures_fail _
  | case2 high low rest unit inside ih =>
    simp only [Ucs2Text.decode]
    rw [if_neg inside]
    refine ih.bind fun rs known => Go.ensures_ok ?_
    obtain ⟨long, inverse⟩ := known
    refine ⟨by simp only [List.length_cons]; omega, fun even => ?_⟩
    obtain ⟨basic, encoded⟩ := inverse (by simp only [List.length_cons] at even; omega)
    -- The two bytes are those of the rune.
    have highLt := high.toNat_lt
    have lowLt := low.toNat_lt
    have value : (Char.ofNat (high.toNat * 256 + low.toNat)).toNat = high.toNat * 256 + low.toNat :=
      Utf8.toNat_ofNat (by simp only [Nat.isValidChar]; omega)
    have upper : (high.toNat * 256 + low.toNat) / 256 = high.toNat := by omega
    have lower : UInt8.ofNat (high.toNat * 256 + low.toNat) = low := by
      apply UInt8.toNat_inj.mp
      simp
    refine ⟨List.forall_mem_cons.mpr ⟨by omega, basic⟩, ?_⟩
    rw [Ucs2Text.encode, value, if_neg (by omega), encoded, upper, lower, UInt8.ofNat_toNat]
    rfl
  | case3 data short =>
    rcases data with _ | ⟨high, _ | ⟨low, rest⟩⟩
    · exact Go.ensures_ok ⟨rfl, fun _ => ⟨by simp [Basic], rfl⟩⟩
    · exact Go.ensures_ok ⟨by simp, fun even => by simp at even⟩
    · exact (short high low rest rfl).elim

/-- Fewer than two bytes are no unit to trim. -/
theorem trimUnits_short {data : Bytes} (short : ∀ low high rest, data = low :: high :: rest → False) :
    trimUnits data = data := by
  match data, short with
  | [], _ => rfl
  | [_], _ => rfl
  | low :: high :: rest, short => exact (short low high rest rfl).elim

/-- Trimming units only shortens. -/
theorem length_trimUnits (data : Bytes) : (trimUnits data).length ≤ data.length := by
  induction data using trimUnits.induct with
  | case1 low high rest padding ih =>
    rw [trimUnits, if_pos padding]
    simp only [List.length_cons]
    omega
  | case2 low high rest other => rw [trimUnits, if_neg other]
  | case3 data short => rw [trimUnits_short short]

/-- Trimmed units are not trimmed further. -/
theorem trimUnits_trimUnits (data : Bytes) : trimUnits (trimUnits data) = trimUnits data := by
  induction data using trimUnits.induct with
  | case1 low high rest padding ih => rw [trimUnits, if_pos padding, ih]
  | case2 low high rest other =>
    have kept : trimUnits (low :: high :: rest) = low :: high :: rest := by rw [trimUnits, if_neg other]
    rw [kept, kept]
  | case3 data short => rw [trimUnits_short short, trimUnits_short short]

/-- The bytes of an odd length lose the last of them. -/
theorem decodeAlphaUCS2_even {data : Bytes} (even : data.length % 2 = 0) :
    decodeAlphaUCS2 data = Ucs2Text.unmarshalBinary (trimUnits data.reverse).reverse := by
  rw [decodeAlphaUCS2, if_neg (by omega)]
  rfl

/-- Both bytes of a character are padding when it is the padding character. -/
theorem padding_bytes_iff {r : Char} (small : r.toNat ≤ 0xffff) :
    (UInt8.ofNat (r.toNat / 256) = 0xff ∧ UInt8.ofNat r.toNat = 0xff) ↔ r = paddingRune := by
  refine ⟨fun ⟨high, low⟩ => ?_, fun same => by rw [same]; decide⟩
  have upper := congrArg UInt8.toNat high
  have lower := congrArg UInt8.toNat low
  simp at upper lower
  have value : r.toNat = 0xffff := by omega
  rw [← Char.ofNat_toNat r, value]
  rfl

/-- A text is not read from less than its units. -/
theorem Ucs2Text.unmarshalBinary_ne {rs : List Char} {data : Bytes} (short : data.length < 2 * rs.length) :
    Ucs2Text.unmarshalBinary data ≠ .ok (Utf8.encodeRunes rs) := by
  intro read
  rw [Ucs2Text.unmarshalBinary] at read
  split at read
  · simp at read
  · obtain ⟨decoded, found, joined⟩ := Go.bind_eq_ok.mp read
    have same : decoded = rs := by
      rw [← Utf8.runes_encodeRunes decoded, ← Utf8.runes_encodeRunes rs, Except.ok.inj joined]
    have long := ((Ucs2Text.decode_ensures data).2 decoded found).1
    rw [same] at long
    omega

/-- Whether characters of the basic plane survive being encoded depends on the last of them. -/
theorem decodeAlphaUCS2_encode {rs : List Char} {data : Bytes} (basic : Basic rs)
    (encoded : Ucs2Text.encode rs = .ok data) :
    decodeAlphaUCS2 data = .ok (Utf8.encodeRunes rs) ↔ rs.getLast? ≠ some paddingRune := by
  obtain ⟨even, decoded⟩ := Ucs2Text.decode_encode encoded
  have whole : Ucs2Text.unmarshalBinary data = .ok (Utf8.encodeRunes rs) := by
    rw [Ucs2Text.unmarshalBinary, if_neg (by omega), decoded]
    rfl
  rw [decodeAlphaUCS2_even even]
  rcases List.eq_nil_or_concat rs with rfl | ⟨before, last, rfl⟩
  · -- The empty text has nothing to trim.
    cases encoded
    simp [trimUnits, Ucs2Text.unmarshalBinary, Ucs2Text.decode]
  · rw [List.concat_eq_append] at basic encoded whole ⊢
    have small : last.toNat ≤ 0xffff := basic last (by simp)
    have others : Basic before := fun r member => basic r (by simp [member])
    obtain ⟨first, encodedFirst, long⟩ := Ucs2Text.encode_of_basic others
    -- The last rune is the last two bytes.
    have encodedLast : Ucs2Text.encode [last] = .ok [UInt8.ofNat (last.toNat / 256), UInt8.ofNat last.toNat] := by
      rw [Ucs2Text.encode, if_neg (by omega)]
      rfl
    have split := Ucs2Text.encode_append encodedFirst encodedLast
    rw [encoded, Except.ok.injEq] at split
    subst split
    simp only [List.reverse_append, List.reverse_cons, List.reverse_nil, List.nil_append, List.cons_append,
      trimUnits, padding_bytes_iff small]
    rw [List.getLast?_concat, ne_eq, Option.some.injEq]
    split
    · rename_i padding
      -- The decoder sees at least one unit less than there are characters.
      refine ⟨fun read => absurd read (Ucs2Text.unmarshalBinary_ne ?_), fun other => absurd padding other⟩
      have shorter := length_trimUnits first.reverse
      simp only [List.length_reverse, List.length_append, List.length_singleton] at shorter ⊢
      omega
    · -- Another last rune is not trimmed.
      rename_i other
      refine ⟨fun _ => other, fun _ => ?_⟩
      simpa using whole

/-! Whole identifiers. -/

/-- A text of the basic plane, with the condition under which it ends in the padding character. -/
def Readable (ends : Prop) (value : GoString) : Prop :=
  ∃ rs, value = Utf8.encodeRunes rs ∧ Basic rs ∧ (rs.getLast? = some paddingRune ↔ ends)

/-- An identifier in the form 0x82 whose last byte stands for the padding character. -/
def EndsLikePadding (data : Bytes) : Prop :=
  ∃ length high low rest, data = 0x82 :: length :: high :: low :: rest ∧
    LastIsPadding (high.toNat * 256 + low.toNat) (rest.take length.toNat)

/-- A text of units with their padding trimmed does not end in the padding character. -/
theorem decodeAlphaUCS2_ensures (data : Bytes) : (decodeAlphaUCS2 data).Ensures (Readable False) := by
  have each : ∀ kept, (Ucs2Text.unmarshalBinary (trimUnits kept).reverse).Ensures (Readable False) := by
    -- What was trimmed once has nothing more to trim.
    intro kept
    rw [Ucs2Text.unmarshalBinary]
    refine Go.ensures_ite (fun _ => Go.ensures_fail _) fun even => ?_
    have read : (Ucs2Text.decode (trimUnits kept).reverse).Ensures fun rs =>
        Ucs2Text.decode (trimUnits kept).reverse = .ok rs ∧ Basic rs ∧
          Ucs2Text.encode rs = .ok (trimUnits kept).reverse := by
      obtain ⟨inRange, returned⟩ := Ucs2Text.decode_ensures (trimUnits kept).reverse
      exact ⟨inRange, fun rs decoded => ⟨decoded, (returned rs decoded).2 (by omega)⟩⟩
    refine read.bind fun rs known => Go.ensures_ok ?_
    obtain ⟨decoded, basic, encoded⟩ := known
    refine ⟨rs, rfl, basic, iff_false_intro ((decodeAlphaUCS2_encode basic encoded).mp ?_)⟩
    rw [decodeAlphaUCS2_even (by omega), List.reverse_reverse, trimUnits_trimUnits, Ucs2Text.unmarshalBinary,
      if_neg even, decoded]
    rfl
  rw [decodeAlphaUCS2]
  split
  · split
    · exact Go.ensures_fail _
    · exact each _
  · exact each _

/-- A text of the default alphabet does not end in the padding character. -/
theorem GsmDefaultText.unmarshalBinary_ensures (data : Bytes) :
    (GsmDefaultText.unmarshalBinary data).Ensures (Readable False) := by
  refine (GsmDefaultText.decode_ensures data).bind fun rs small => Go.ensures_ok ⟨rs, rfl, ?_, ?_⟩
  · exact fun r member => Nat.le_of_lt (small r member)
  · exact iff_false_intro fun last => ne_paddingRune (small _ (List.mem_of_getLast? last)) rfl

/-- What a payload compressed over a base is read as. -/
theorem readable_of_decompressed {base : Nat} {payload : Bytes} {rs : List Char}
    (decoded : Decompressed base payload rs) : Readable (LastIsPadding base payload) (Utf8.encodeRunes rs) :=
  ⟨rs, rfl, decoded.basic, decoded.last_iff⟩

/-- The page of the form 0x81 is too low for the padding character. -/
theorem not_lastIsPadding_page (page : UInt8) (payload : Bytes) : ¬ LastIsPadding (page.toNat <<< 7) payload := by
  rintro ⟨b, -, -, same⟩
  have pageLt := page.toNat_lt
  have offset : (b &&& 0x7f).toNat ≤ 0x7f := by
    rw [UInt8.toNat_and]
    exact Nat.and_le_right
  rw [Nat.shiftLeft_eq] at same
  omega

/-- A compressed text ends in the padding character when its last byte stands for it. -/
theorem decodeCompressedUCS2_ensures {first : UInt8} (compressed : first = 0x81 ∨ first = 0x82) (rest : Bytes) :
    (decodeCompressedUCS2 (first :: rest)).Ensures (Readable (EndsLikePadding (first :: rest))) := by
  rcases compressed with rfl | rfl
  · -- The first form has a page of its own and cannot reach the padding.
    have never : ¬ EndsLikePadding (0x81 :: rest) := by
      rintro ⟨length, high, low, others, same, -⟩
      simp at same
    simp only [never]
    rcases rest with _ | ⟨length, _ | ⟨page, others⟩⟩
    · exact Go.ensures_fail _
    · exact Go.ensures_fail _
    · -- Past its checks the payload is decoded from its page.
      have whole : decodeCompressedUCS2 (0x81 :: length :: page :: others) =
          if length.toNat > others.length then Go.fail .truncatedAlphaIdentifier
          else return Utf8.encodeRunes (← decodeCompressed (page.toNat <<< 7) (others.take length.toNat)) := by
        by_cases truncated : length.toNat > others.length
        · simp [decodeCompressedUCS2, Go.index, truncated]
        · have payload : (Go.slice (0x81 :: length :: page :: others) 3 (3 + length.toNat) : Go TextError Bytes) =
              .ok (others.take length.toNat) := by
            rw [Go.slice_eq_ok (by omega) (by simp only [List.length_cons]; omega), Nat.add_sub_cancel_left]
            rfl
          simp [decodeCompressedUCS2, Go.index, truncated, payload, show ¬ others.length + 1 + 1 + 1 < 3 by omega]
      rw [whole]
      refine Go.ensures_ite (fun _ => Go.ensures_fail _) fun inside => ?_
      refine (decodeCompressed_ensures _ _).bind fun rs decoded => Go.ensures_ok ?_
      simpa only [not_lastIsPadding_page] using readable_of_decompressed decoded
  · -- The second form has its base in two bytes.
    rcases rest with _ | ⟨length, _ | ⟨high, _ | ⟨low, others⟩⟩⟩
    · exact Go.ensures_fail _
    · exact Go.ensures_fail _
    · exact Go.ensures_fail _
    · have whole : decodeCompressedUCS2 (0x82 :: length :: high :: low :: others) =
          if length.toNat > others.length then Go.fail .truncatedAlphaIdentifier
          else do
            return Utf8.encodeRunes
              (← decodeCompressed (high.toNat * 256 + low.toNat) (others.take length.toNat)) := by
        by_cases truncated : length.toNat > others.length
        · simp [decodeCompressedUCS2, Go.index, truncated]
        · have payload : (Go.slice (0x82 :: length :: high :: low :: others) 4 (4 + length.toNat) : Go TextError Bytes) =
              .ok (others.take length.toNat) := by
            rw [Go.slice_eq_ok (by omega) (by simp only [List.length_cons]; omega), Nat.add_sub_cancel_left]
            rfl
          simp [decodeCompressedUCS2, Go.index, truncated, payload, show ¬ others.length + 1 + 1 + 1 + 1 < 4 by omega]
      -- It ends like padding where the last byte of its payload stands for it.
      have same : EndsLikePadding (0x82 :: length :: high :: low :: others) ↔
          LastIsPadding (high.toNat * 256 + low.toNat) (others.take length.toNat) := by
        refine ⟨?_, fun last => ⟨length, high, low, others, rfl, last⟩⟩
        rintro ⟨_, _, _, _, split, last⟩
        simp only [List.cons.injEq, true_and] at split
        obtain ⟨rfl, rfl, rfl, rfl⟩ := split
        exact last
      rw [whole, same]
      refine Go.ensures_ite (fun _ => Go.ensures_fail _) fun inside => ?_
      exact (decodeCompressed_ensures _ _).bind fun rs decoded => Go.ensures_ok (readable_of_decompressed decoded)

/-- A decoded identifier ends in the padding character when the form 0x82 says so. -/
theorem decodeAlphaIdentifier_ensures (data : Bytes) :
    (decodeAlphaIdentifier data).Ensures (Readable (EndsLikePadding data)) := by
  cases data with
  | nil =>
    refine Go.ensures_ok ⟨[], rfl, by simp [Basic], ?_⟩
    simp [EndsLikePadding]
  | cons first rest =>
    rw [decodeAlphaIdentifier]
    have never (other : first ≠ 0x82) : EndsLikePadding (first :: rest) ↔ False := by
      refine iff_false_intro ?_
      rintro ⟨length, high, low, others, same, -⟩
      exact other (List.cons.inj same).1
    refine Go.ensures_ite (fun units => ?_) fun _ => Go.ensures_ite (fun compressed => ?_) fun plain => ?_
    · simp only [never (by rw [units]; decide)]
      exact decodeAlphaUCS2_ensures rest
    · exact decodeCompressedUCS2_ensures compressed rest
    · simp only [never fun wide => plain (.inr wide)]
      exact GsmDefaultText.unmarshalBinary_ensures _

/-- What is read can be encoded, and is read back unless it ends in the padding character. -/
theorem AlphaIdentifier.marshalBinary_of_readable {ends : Prop} {value : GoString} (readable : Readable ends value) :
    ∃ encoded, AlphaIdentifier.marshalBinary value = .ok encoded ∧
      (decodeAlphaIdentifier encoded = .ok value ↔ ¬ ends) := by
  obtain ⟨rs, rfl, basic, last⟩ := readable
  rw [← last]
  by_cases empty : Utf8.encodeRunes rs = []
  · have none : rs = [] := by rw [← Utf8.runes_encodeRunes rs, empty, Utf8.runes]
    refine ⟨[], by rw [AlphaIdentifier.marshalBinary, if_pos empty]; rfl, ?_⟩
    subst none
    simp [decodeAlphaIdentifier]
  · obtain ⟨raw, encoded, -⟩ := Ucs2Text.encode_of_basic basic
    have text : Ucs2Text.marshalBinary (Utf8.encodeRunes rs) = .ok raw := by
      rw [Ucs2Text.marshalBinary, Utf8.validString_encodeRunes, Utf8.runes_encodeRunes, encoded]
      rfl
    refine ⟨0x80 :: raw, by rw [AlphaIdentifier.marshalBinary, if_neg empty, text]; rfl, ?_⟩
    rw [decodeAlphaIdentifier, if_pos rfl]
    exact decodeAlphaUCS2_encode basic encoded

/-- The decoder stays in range, and what it returns can be encoded and is read back from that encoding unless the form
0x82 ends in the padding character. -/
theorem alphaIdentifier_roundTrip_iff (data : Bytes) :
    InRange.decodeAlphaIdentifier data ≠ .error .outOfRange ∧
      ∀ value, InRange.decodeAlphaIdentifier data = .ok value →
        ∃ encoded, AlphaIdentifier.marshalBinary value = .ok encoded ∧
          (InRange.decodeAlphaIdentifier encoded = .ok value ↔ ¬ EndsLikePadding data) := by
  simp only [InRange.decodeAlphaIdentifier_eq]
  obtain ⟨inRange, returned⟩ := decodeAlphaIdentifier_ensures data
  exact ⟨inRange, fun value read => AlphaIdentifier.marshalBinary_of_readable (returned value read)⟩

/-- A compressed identifier of one letter and one character over a base survives. -/
theorem alphaIdentifier_roundTrip_mixed :
    InRange.decodeAlphaIdentifier [0x82, 0x02, 0x4f, 0x00, 0x41, 0xe0] = .ok [0x41, 0xe4, 0xbd, 0xa0] ∧
      ∃ encoded, AlphaIdentifier.marshalBinary [0x41, 0xe4, 0xbd, 0xa0] = .ok encoded ∧
        (InRange.decodeAlphaIdentifier encoded = .ok [0x41, 0xe4, 0xbd, 0xa0] ↔
          ¬ EndsLikePadding [0x82, 0x02, 0x4f, 0x00, 0x41, 0xe0]) := by
  have read : InRange.decodeAlphaIdentifier [0x82, 0x02, 0x4f, 0x00, 0x41, 0xe0] = .ok [0x41, 0xe4, 0xbd, 0xa0] := by
    decide +kernel
  exact ⟨read, (alphaIdentifier_roundTrip_iff _).2 _ read⟩

/-- A compressed identifier of the padding character is read back as an empty one. -/
theorem alphaIdentifier_padding_lost :
    InRange.decodeAlphaIdentifier [0x82, 0x01, 0xff, 0x80, 0xff] = .ok [0xef, 0xbf, 0xbf] ∧
      AlphaIdentifier.marshalBinary [0xef, 0xbf, 0xbf] = .ok [0x80, 0xff, 0xff] ∧
      InRange.decodeAlphaIdentifier [0x80, 0xff, 0xff] = .ok [] := by
  decide +kernel

end Wwan.Sim.Stk
