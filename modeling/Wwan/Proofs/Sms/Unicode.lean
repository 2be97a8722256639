import Wwan.Lib.Codec
import Wwan.Proofs.Sms.Text

/-! The UCS-2 and UTF-16 codecs accept exactly what is well formed, and lose nothing. -/

namespace Wwan.Sms

open Utf16 (ByteOrder)

/-! Surrogates and their pairs. -/

/-- A trailing surrogate stands at an index. -/
def lowAt (units : List UInt16) (i : Nat) : Bool := units[i]?.any Utf16.isLow

/-- A leading surrogate stands at an index. -/
def highAt (units : List UInt16) (i : Nat) : Bool := units[i]?.any Utf16.isHigh

/-- A trailing surrogate stands behind each leading one and nowhere else. -/
def Paired (units : List UInt16) : Prop := lowAt units 0 = false ∧ ∀ i, lowAt units (i + 1) = highAt units i

/-- The same behind a unit that is or is not a leading surrogate. -/
def PairedAfter (high : Bool) (units : List UInt16) : Prop :=
  lowAt units 0 = high ∧ ∀ i, lowAt units (i + 1) = highAt units i

/-- The first unit is a trailing surrogate if it has to be, and the others follow it. -/
theorem pairedAfter_cons (high : Bool) (unit : UInt16) (units : List UInt16) :
    PairedAfter high (unit :: units) ↔ Utf16.isLow unit = high ∧ PairedAfter (Utf16.isHigh unit) units := by
  constructor
  · rintro ⟨first, later⟩
    refine ⟨first, later 0, fun i => ?_⟩
    exact later (i + 1)
  · rintro ⟨first, second, later⟩
    refine ⟨first, fun i => ?_⟩
    cases i with
    | zero => exact second
    | succ i => exact later i

/-- No unit is a surrogate of both kinds. -/
theorem isHigh_of_isLow {unit : UInt16} (low : Utf16.isLow unit = true) : Utf16.isHigh unit = false := by
  simp only [Utf16.isLow, Bool.and_eq_true, decide_eq_true_eq, UInt16.le_iff_toNat_le] at low
  simp only [Utf16.isHigh, Bool.and_eq_false_iff, decide_eq_false_iff_not, UInt16.le_iff_toNat_le]
  simp at low ⊢
  omega

/-- Units are well formed exactly when their surrogates are paired. -/
theorem wellFormed_iff_paired (units : List UInt16) : Utf16.wellFormed units = true ↔ Paired units := by
  show Utf16.wellFormed units = true ↔ PairedAfter false units
  -- A leading surrogate takes the unit behind it along.
  induction units using Utf16.wellFormed.induct with
  | case1 => simp [Utf16.wellFormed, PairedAfter, lowAt, highAt]
  | case2 unit high =>
    -- A leading surrogate at the end has no unit behind it.
    rw [pairedAfter_cons]
    simp [Utf16.wellFormed, high, PairedAfter, lowAt]
  | case3 unit high next rest ih =>
    rw [pairedAfter_cons, pairedAfter_cons, high]
    -- A leading surrogate is no trailing one.
    have single : Utf16.isLow unit = false := by
      by_contra low
      rw [isHigh_of_isLow (by simpa using low)] at high
      cases high
    rw [Utf16.wellFormed, if_pos high]
    simp only [single, true_and, Bool.and_eq_true, ih]
    constructor
    · rintro ⟨low, later⟩
      exact ⟨low, by rwa [isHigh_of_isLow low]⟩
    · rintro ⟨low, later⟩
      exact ⟨low, by rwa [isHigh_of_isLow low] at later⟩
  | case4 unit rest high ih =>
    -- Any other unit stands alone.
    have plain : Utf16.isHigh unit = false := by simpa using high
    rw [pairedAfter_cons, Utf16.wellFormed.eq_def, plain, ← ih]
    simp [plain]

/-- The surrogate check passes exactly paired surrogates. -/
theorem checkSurrogates_iff (units : List UInt16) :
    checkSurrogates units = .ok () ↔ Utf16.wellFormed units = true := by
  constructor
  · intro passed
    induction units using checkSurrogates.induct with
    | case1 => rfl
    | case2 unit high => simp [checkSurrogates, high] at passed
    | case3 unit high next rest low ih =>
      simp only [checkSurrogates, high, if_true, low] at passed
      simp [Utf16.wellFormed, high, low, ih passed]
    | case4 unit high next rest low => simp [checkSurrogates, high, low] at passed
    | case5 unit rest high low =>
      rw [checkSurrogates.eq_def] at passed
      simp [high, low] at passed
    | case6 unit rest high low ih =>
      rw [checkSurrogates.eq_def] at passed
      rw [Utf16.wellFormed.eq_def]
      simp only [high, low] at passed ⊢
      simpa using ih (by simpa using passed)
  · exact checkSurrogates_of_wellFormed

/-- The surrogate check does not panic. -/
theorem checkSurrogates_ne_outOfRange (units : List UInt16) : checkSurrogates units ≠ .error .outOfRange := by
  induction units using checkSurrogates.induct with
  | case1 => simp [checkSurrogates]
  | case2 unit high => simp [checkSurrogates, high, Go.fail]
  | case3 unit high next rest low ih => simpa [checkSurrogates, high, low] using ih
  | case4 unit high next rest low => simp [checkSurrogates, high, low, Go.fail]
  | case5 unit rest high low =>
    rw [checkSurrogates.eq_def]
    simp [high, low, Go.fail]
  | case6 unit rest high low ih =>
    rw [checkSurrogates.eq_def]
    simpa [high, low] using ih

/-! UTF-16. -/

/-- Valid text is encoded as the units of its runes. -/
theorem marshalUTF16_of_valid {t : GoString} (valid : Utf8.validString t = true) (order : ByteOrder) :
    marshalUTF16 t order = .ok (order.bytes (Utf16.encode (Utf8.runes t))) := by
  simp [marshalUTF16, valid]

/-- What is decoded has an even length and paired surrogates, and is the text of its units. -/
theorem unmarshalUTF16_eq_ok {data : Bytes} {order : ByteOrder} {decoded : GoString} :
    unmarshalUTF16 data order = .ok decoded ↔ data.length % 2 = 0 ∧ Utf16.wellFormed (order.units data) = true ∧
      decoded = Utf8.encodeRunes (Utf16.decode (order.units data)) := by
  unfold unmarshalUTF16
  by_cases even : data.length % 2 = 0
  · simp only [even, ne_eq, not_true_eq_false, if_false, true_and, Go.bind_eq_ok, Go.pure_eq, Except.ok.injEq]
    constructor
    · rintro ⟨_, passed, rfl⟩
      exact ⟨(checkSurrogates_iff _).mp passed, rfl⟩
    · rintro ⟨paired, rfl⟩
      exact ⟨(), checkSurrogates_of_wellFormed paired, rfl⟩
  · simp [even]

/-- The UTF-16 codec takes every valid text, and every even number of bytes with paired surrogates. -/
theorem utf16_exact (order : ByteOrder) :
    Codec.Exact (marshalUTF16 · order) (unmarshalUTF16 · order) (fun text => Utf8.validString text = true)
      (fun data => data.length % 2 = 0 ∧ Paired (order.units data)) := by
  refine ⟨fun text valid => ?_, fun data => ?_, fun data => ?_, fun data decoded accepted => ?_⟩
  · -- A valid text is encoded and decoded back.
    refine ⟨_, marshalUTF16_of_valid valid order, ?_⟩
    rw [unmarshalUTF16_encode, Utf8.encodeRunes_runes_of_valid valid]
  · -- What is accepted is even and paired.
    simp only [unmarshalUTF16_eq_ok, ← wellFormed_iff_paired]
    constructor
    · rintro ⟨decoded, even, paired, -⟩
      exact ⟨even, paired⟩
    · rintro ⟨even, paired⟩
      exact ⟨_, even, paired, rfl⟩
  · -- No byte string panics.
    intro panicked
    simp only [unmarshalUTF16] at panicked
    split at panicked
    · simp [Go.fail] at panicked
    · cases passed : checkSurrogates (order.units data) with
      | ok _ => simp [passed] at panicked
      | error fault =>
        rw [passed, Go.error_bind] at panicked
        cases panicked
        exact checkSurrogates_ne_outOfRange _ passed
  · -- The units of the decoded runes are those that were read.
    obtain ⟨even, paired, rfl⟩ := unmarshalUTF16_eq_ok.mp accepted
    rw [marshalUTF16_of_valid (Utf8.validString_encodeRunes _), Utf8.runes_encodeRunes, Utf16.encode_decode paired,
      order.bytes_units even]

/-! UCS-2. -/

/-- The text is valid and has no rune beyond the basic plane. -/
def InUCS2 (text : GoString) : Prop := Utf8.validString text = true ∧ ∀ r ∈ Utf8.runes text, r.toNat ≤ 0xffff

/-- No unit is a surrogate. -/
def SurrogateFree (units : List UInt16) : Prop := ∀ unit ∈ units, ¬ (0xd800 ≤ unit ∧ unit ≤ 0xdfff)

/-- A unit is a surrogate exactly in one range. -/
theorem not_surrogate_iff (unit : UInt16) :
    ¬ (0xd800 ≤ unit ∧ unit ≤ 0xdfff) ↔ Utf16.isHigh unit = false ∧ Utf16.isLow unit = false := by
  simp only [Utf16.isHigh, Utf16.isLow, Bool.and_eq_false_iff, decide_eq_false_iff_not, UInt16.le_iff_toNat_le]
  simp
  omega

/-- Runes of the basic plane are encoded, each as its unit. -/
theorem marshalUCS2Runes_of_basic {rs : List Char} (basic : ∀ r ∈ rs, r.toNat ≤ 0xffff) (order : ByteOrder) :
    marshalUCS2Runes order rs = .ok (order.bytes (Utf16.encode rs)) := by
  induction rs with
  | nil => rfl
  | cons r rs ih =>
    have inside : r.toNat ≤ 0xffff := basic r (by simp)
    -- A rune is no surrogate.
    have scalar := r.valid
    simp only [UInt32.isValidChar, Nat.isValidChar] at scalar
    have value : r.val.toNat = r.toNat := rfl
    rw [value] at scalar
    have single : Utf16.encodeRune r = [UInt16.ofNat r.toNat] := by
      rw [Utf16.encodeRune, if_pos (by omega)]
    rw [marshalUCS2Runes, if_neg (by omega), ih fun r member => basic r (by simp [member])]
    simp [single, ByteOrder.bytes]

/-- Units are decoded exactly when none is a surrogate, each as its rune. -/
theorem unmarshalUCS2Units_eq_ok {units : List UInt16} {rs : List Char} :
    unmarshalUCS2Units units = .ok rs ↔ SurrogateFree units ∧ rs = units.map fun unit => Char.ofNat unit.toNat := by
  induction units generalizing rs with
  | nil => simp [unmarshalUCS2Units, SurrogateFree, eq_comm]
  | cons unit units ih =>
    rw [unmarshalUCS2Units]
    by_cases surrogate : 0xd800 ≤ unit ∧ unit ≤ 0xdfff
    · rw [if_pos surrogate]
      refine ⟨fun failed => by simp at failed, fun ⟨free, _⟩ => absurd surrogate (free unit (by simp))⟩
    · rw [if_neg surrogate]
      simp only [Go.bind_eq_ok, ih, Go.pure_eq, Except.ok.injEq]
      constructor
      · rintro ⟨_, ⟨free, rfl⟩, rfl⟩
        exact ⟨List.forall_mem_cons.mpr ⟨surrogate, free⟩, rfl⟩
      · rintro ⟨free, rfl⟩
        exact ⟨_, ⟨(List.forall_mem_cons.mp free).2, rfl⟩, rfl⟩

/-- Units without a surrogate are the units of their runes. -/
theorem encode_map_ofNat {units : List UInt16} (free : SurrogateFree units) :
    Utf16.encode (units.map fun unit => Char.ofNat unit.toNat) = units := by
  induction units with
  | nil => rfl
  | cons unit units ih =>
    obtain ⟨first, rest⟩ := List.forall_mem_cons.mp free
    obtain ⟨notHigh, notLow⟩ := (not_surrogate_iff unit).mp first
    rw [List.map_cons, Utf16.encode_cons, Utf16.encodeRune_ofNat notHigh notLow, ih rest]
    rfl

/-- The rune of a unit is in the basic plane. -/
theorem toNat_ofNat_le (unit : UInt16) : (Char.ofNat unit.toNat).toNat ≤ 0xffff := by
  have below := unit.toNat_lt
  by_cases scalar : unit.toNat.isValidChar
  · rw [Utf8.toNat_ofNat scalar]
    omega
  · rw [Char.ofNat, dif_neg scalar]
    decide

/-- The units of runes of the basic plane are no surrogates, and give the runes back. -/
theorem units_of_basic {rs : List Char} (basic : ∀ r ∈ rs, r.toNat ≤ 0xffff) :
    SurrogateFree (Utf16.encode rs) ∧ (Utf16.encode rs).map (fun unit => Char.ofNat unit.toNat) = rs := by
  induction rs with
  | nil => exact ⟨by simp [SurrogateFree], rfl⟩
  | cons r rs ih =>
    obtain ⟨first, rest⟩ := List.forall_mem_cons.mp basic
    obtain ⟨free, same⟩ := ih rest
    rcases Utf16.encodeRune_cases r with ⟨unit, units, notHigh, notLow, rune⟩ | ⟨high, low, units, -⟩
    · rw [Utf16.encode_cons, units, List.singleton_append]
      refine ⟨List.forall_mem_cons.mpr ⟨(not_surrogate_iff unit).mpr ⟨notHigh, notLow⟩, free⟩, ?_⟩
      rw [List.map_cons, rune, same]
    · -- Only a rune beyond the basic plane has two units.
      rw [Utf16.encodeRune, if_pos (by omega)] at units
      cases units

/-- The UCS-2 codec takes every valid text of the basic plane, and every even number of bytes without surrogates. -/
theorem ucs2_exact (order : ByteOrder) :
    Codec.Exact (marshalUCS2 · order) (unmarshalUCS2 · order) InUCS2
      (fun data => data.length % 2 = 0 ∧ SurrogateFree (order.units data)) := by
  -- What is accepted is even and has no surrogates.
  have decodes : ∀ {data : Bytes} {decoded : GoString}, unmarshalUCS2 data order = .ok decoded ↔
      data.length % 2 = 0 ∧ SurrogateFree (order.units data) ∧
        decoded = Utf8.encodeRunes ((order.units data).map fun unit => Char.ofNat unit.toNat) := by
    intro data decoded
    unfold unmarshalUCS2
    by_cases even : data.length % 2 = 0
    · simp only [even, ne_eq, not_true_eq_false, if_false, true_and, Go.bind_eq_ok, unmarshalUCS2Units_eq_ok, Go.pure_eq,
        Except.ok.injEq]
      constructor
      · rintro ⟨_, ⟨free, rfl⟩, rfl⟩
        exact ⟨free, rfl⟩
      · rintro ⟨free, rfl⟩
        exact ⟨_, ⟨free, rfl⟩, rfl⟩
    · simp [even]
  refine ⟨fun text valid => ?_, fun data => ?_, fun data => ?_, fun data decoded accepted => ?_⟩
  · -- A valid text of the basic plane has one unit for each rune.
    obtain ⟨valid, basic⟩ := valid
    obtain ⟨free, same⟩ := units_of_basic basic
    refine ⟨order.bytes (Utf16.encode (Utf8.runes text)), ?_, ?_⟩
    · simp [marshalUCS2, valid, marshalUCS2Runes_of_basic basic]
    · refine decodes.mpr ⟨by simp, by simpa using free, ?_⟩
      rw [ByteOrder.units_bytes, same, Utf8.encodeRunes_runes_of_valid valid]
  · constructor
    · rintro ⟨decoded, accepted⟩
      obtain ⟨even, free, -⟩ := decodes.mp accepted
      exact ⟨even, free⟩
    · rintro ⟨even, free⟩
      exact ⟨_, decodes.mpr ⟨even, free, rfl⟩⟩
  · intro panicked
    simp only [unmarshalUCS2] at panicked
    split at panicked
    · simp [Go.fail] at panicked
    · generalize order.units data = units at panicked
      -- The loop over the units only ever fails with its error.
      have inRange : unmarshalUCS2Units units ≠ .error .outOfRange := by
        clear panicked
        induction units with
        | nil => simp [unmarshalUCS2Units]
        | cons unit units ih =>
          rw [unmarshalUCS2Units]
          split
          · simp [Go.fail]
          · cases later : unmarshalUCS2Units units with
            | ok rs => simp
            | error fault =>
              rw [later] at ih
              simpa using ih
      cases ran : unmarshalUCS2Units units with
      | ok rs => simp [ran] at panicked
      | error fault =>
        rw [ran, Go.error_bind] at panicked
        cases panicked
        exact inRange ran
  · -- Encoding what was decoded gives the units back.
    obtain ⟨even, free, rfl⟩ := decodes.mp accepted
    have basic : ∀ r ∈ (order.units data).map fun unit => Char.ofNat unit.toNat, r.toNat ≤ 0xffff := by
      intro r member
      obtain ⟨unit, -, rfl⟩ := List.mem_map.mp member
      exact toNat_ofNat_le unit
    simp only [marshalUCS2, Utf8.validString_encodeRunes, Bool.not_true, Bool.false_eq_true, if_false,
      Utf8.runes_encodeRunes]
    rw [marshalUCS2Runes_of_basic basic, encode_map_ofNat free, order.bytes_units even]

/-- Text with an encoding is valid and in the basic plane. -/
theorem inUCS2_of_marshalUCS2 {text : GoString} {order : ByteOrder} {data : Bytes}
    (marshalled : marshalUCS2 text order = .ok data) : InUCS2 text := by
  unfold marshalUCS2 at marshalled
  split at marshalled
  · simp at marshalled
  · rename_i valid
    refine ⟨by simpa using valid, ?_⟩
    generalize Utf8.runes text = rs at marshalled
    induction rs generalizing data with
    | nil => simp
    | cons r rs ih =>
      rw [marshalUCS2Runes] at marshalled
      split at marshalled
      · simp at marshalled
      · obtain ⟨rest, others, -⟩ := Go.bind_eq_ok.mp marshalled
        exact List.forall_mem_cons.mpr ⟨by omega, ih others⟩

/-- In either byte order, both codecs lose no valid text, accept exactly what is well formed, and have one encoding for
each text. -/
theorem unicode_exact (order : ByteOrder) :
    Codec.Exact (marshalUTF16 · order) (unmarshalUTF16 · order) (fun text => Utf8.validString text = true)
      (fun data => data.length % 2 = 0 ∧ Paired (order.units data)) ∧
    Codec.Exact (marshalUCS2 · order) (unmarshalUCS2 · order) InUCS2
      (fun data => data.length % 2 = 0 ∧ SurrogateFree (order.units data)) :=
  ⟨utf16_exact order, ucs2_exact order⟩

end Wwan.Sms
