import Wwan.Lib.Utf8

/-! UTF-16 as the Go standard library reads it, and its two byte orders. -/

namespace Wwan.Utf16

/-- A leading surrogate unit. -/
def isHigh (unit : UInt16) : Bool := 0xd800 ≤ unit && unit ≤ 0xdbff

/-- A trailing surrogate unit. -/
def isLow (unit : UInt16) : Bool := 0xdc00 ≤ unit && unit ≤ 0xdfff

/-- The code units `utf16.AppendRune` writes for a rune. -/
def encodeRune (r : Char) : List UInt16 :=
  -- Runes of the supplementary planes take a surrogate pair.
  if r.toNat < 0x10000 then [UInt16.ofNat r.toNat]
  else [UInt16.ofNat (0xd800 + (r.toNat - 0x10000) / 0x400),
    UInt16.ofNat (0xdc00 + (r.toNat - 0x10000) % 0x400)]

/-- The function `utf16.Encode`. -/
def encode (rs : List Char) : List UInt16 := rs.flatMap encodeRune

/-- The rune a surrogate pair stands for. -/
def pairRune (high low : UInt16) : Char :=
  Char.ofNat ((high.toNat - 0xd800) * 0x400 + (low.toNat - 0xdc00) + 0x10000)

/-- The function `utf16.Decode`. -/
def decode : List UInt16 → List Char
  | [] => []
  | unit :: rest =>
    if isHigh unit then
      match rest with
      | [] => [Utf8.runeError]
      | next :: rest' =>
        -- A leading surrogate without its trailing one reads as the error rune.
        if isLow next then pairRune unit next :: decode rest'
        else Utf8.runeError :: decode (next :: rest')
    else if isLow unit then Utf8.runeError :: decode rest
    else Char.ofNat unit.toNat :: decode rest

/-- Every surrogate belongs to a pair, leading unit first. -/
def wellFormed : List UInt16 → Bool
  | [] => true
  | unit :: rest =>
    if isHigh unit then
      match rest with
      | [] => false
      | next :: rest' => isLow next && wellFormed rest'
    else !isLow unit && wellFormed rest

/-- A rune has one code unit, or the two of a surrogate pair. -/
theorem encodeRune_cases (r : Char) :
    (∃ unit, encodeRune r = [unit] ∧ isHigh unit = false ∧ isLow unit = false ∧
        Char.ofNat unit.toNat = r) ∨
      ∃ high low, encodeRune r = [high, low] ∧ isHigh high = true ∧ isLow low = true ∧
        pairRune high low = r := by
  -- A rune's scalar value avoids the surrogate range and ends below 0x110000.
  have scalar := r.valid
  simp only [UInt32.isValidChar, Nat.isValidChar] at scalar
  have value : r.val.toNat = r.toNat := rfl
  rw [value] at scalar
  by_cases basic : r.toNat < 0x10000
  · refine .inl ⟨UInt16.ofNat r.toNat, by simp [encodeRune, basic], ?_, ?_, ?_⟩
    · have size : (UInt16.ofNat r.toNat).toNat = r.toNat := UInt16.toNat_ofNat_of_lt' basic
      simp only [isHigh, Bool.and_eq_false_iff, decide_eq_false_iff_not, UInt16.le_iff_toNat_le, size]
      simp
      omega
    · have size : (UInt16.ofNat r.toNat).toNat = r.toNat := UInt16.toNat_ofNat_of_lt' basic
      simp only [isLow, Bool.and_eq_false_iff, decide_eq_false_iff_not, UInt16.le_iff_toNat_le, size]
      simp
      omega
    · rw [UInt16.toNat_ofNat_of_lt' basic]
      exact Char.ofNat_toNat r
  · -- The offset above the basic plane has twenty bits, ten for each half of the pair.
    have high : (UInt16.ofNat (0xd800 + (r.toNat - 0x10000) / 0x400)).toNat =
        0xd800 + (r.toNat - 0x10000) / 0x400 :=
      UInt16.toNat_ofNat_of_lt' (by simp [UInt16.size]; omega)
    have low : (UInt16.ofNat (0xdc00 + (r.toNat - 0x10000) % 0x400)).toNat =
        0xdc00 + (r.toNat - 0x10000) % 0x400 :=
      UInt16.toNat_ofNat_of_lt' (by simp [UInt16.size]; omega)
    refine .inr ⟨_, _, by rw [encodeRune, if_neg basic], ?_, ?_, ?_⟩
    · simp only [isHigh, Bool.and_eq_true, decide_eq_true_eq, UInt16.le_iff_toNat_le, high]
      simp
      omega
    · simp only [isLow, Bool.and_eq_true, decide_eq_true_eq, UInt16.le_iff_toNat_le, low]
      simp
      omega
    · rw [pairRune, high, low]
      have whole : (0xd800 + (r.toNat - 0x10000) / 0x400 - 0xd800) * 0x400 +
          (0xdc00 + (r.toNat - 0x10000) % 0x400 - 0xdc00) + 0x10000 = r.toNat := by omega
      rw [whole]
      exact Char.ofNat_toNat r

/-- Encoding distributes over concatenation. -/
@[simp] theorem encode_append (xs ys : List Char) : encode (xs ++ ys) = encode xs ++ encode ys := by
  simp [encode]

/-- The first rune's units come first. -/
@[simp] theorem encode_cons (r : Char) (rs : List Char) :
    encode (r :: rs) = encodeRune r ++ encode rs := by
  simp [encode]

/-- No rune encodes to nothing. -/
@[simp] theorem encode_nil : encode [] = [] := rfl

/-- Decoding the units of a rune sequence gives the runes back. -/
@[simp] theorem decode_encode (rs : List Char) : decode (encode rs) = rs := by
  induction rs with
  | nil => rfl
  | cons r rs ih =>
    rw [encode_cons]
    rcases encodeRune_cases r with ⟨unit, units, notHigh, notLow, rune⟩ |
      ⟨high, low, units, isHigh, isLow, rune⟩
    · -- A unit outside of the surrogates decodes on its own.
      rw [units, List.singleton_append, decode.eq_def]
      simp [notHigh, notLow, rune, ih]
    · -- A pair decodes together.
      simp [units, decode, isHigh, isLow, rune, ih]

/-- The units of a rune sequence pair all of their surrogates. -/
@[simp] theorem wellFormed_encode (rs : List Char) : wellFormed (encode rs) = true := by
  induction rs with
  | nil => rfl
  | cons r rs ih =>
    rw [encode_cons]
    rcases encodeRune_cases r with ⟨unit, units, notHigh, notLow, rune⟩ |
      ⟨high, low, units, isHigh, isLow, rune⟩
    · rw [units, List.singleton_append, wellFormed.eq_def]
      simp [notHigh, notLow, ih]
    · simp [units, wellFormed, isHigh, isLow, ih]

/-- A unit outside the surrogates is the code unit of its own rune. -/
theorem encodeRune_ofNat {unit : UInt16} (notHigh : isHigh unit = false) (notLow : isLow unit = false) :
    encodeRune (Char.ofNat unit.toNat) = [unit] := by
  -- The unit is a scalar value.
  have below := unit.toNat_lt
  have scalar : unit.toNat.isValidChar := by
    simp only [isHigh, isLow, Bool.and_eq_false_iff, decide_eq_false_iff_not, UInt16.le_iff_toNat_le] at notHigh notLow
    simp only [Nat.isValidChar]
    simp at notHigh notLow
    omega
  have rune : (Char.ofNat unit.toNat).toNat = unit.toNat := Utf8.toNat_ofNat scalar
  rw [encodeRune, rune, if_pos (by omega), UInt16.ofNat_toNat]

/-- A surrogate pair is the encoding of the rune it stands for. -/
theorem encodeRune_pairRune {high low : UInt16} (isHigh' : isHigh high = true) (isLow' : isLow low = true) :
    encodeRune (pairRune high low) = [high, low] := by
  simp only [isHigh, isLow, Bool.and_eq_true, decide_eq_true_eq, UInt16.le_iff_toNat_le] at isHigh' isLow'
  simp at isHigh' isLow'
  -- The two halves are ten bits each above the basic plane.
  have scalar : ((high.toNat - 0xd800) * 0x400 + (low.toNat - 0xdc00) + 0x10000).isValidChar := by
    simp only [Nat.isValidChar]
    omega
  have rune : (pairRune high low).toNat = (high.toNat - 0xd800) * 0x400 + (low.toNat - 0xdc00) + 0x10000 :=
    Utf8.toNat_ofNat scalar
  rw [encodeRune, rune, if_neg (by omega)]
  -- The offset is split into the same halves.
  have first : 0xd800 + ((high.toNat - 0xd800) * 0x400 + (low.toNat - 0xdc00) + 0x10000 - 0x10000) / 0x400 =
      high.toNat := by omega
  have second : 0xdc00 + ((high.toNat - 0xd800) * 0x400 + (low.toNat - 0xdc00) + 0x10000 - 0x10000) % 0x400 =
      low.toNat := by omega
  rw [first, second, UInt16.ofNat_toNat, UInt16.ofNat_toNat]

/-- Units that pair all of their surrogates are the units of the runes they stand for. -/
theorem encode_decode {units : List UInt16} (paired : wellFormed units = true) : encode (decode units) = units := by
  -- The decoder and the predicate take the same path through the units.
  induction units using decode.induct with
  | case1 => rfl
  | case2 unit high => simp [wellFormed, high] at paired
  -- A pair is encoded as it was.
  | case3 unit high next rest low ih =>
    simp only [wellFormed, high, if_true, low, Bool.true_and] at paired
    rw [decode, if_pos high]
    simp only [low, if_true, encode_cons, encodeRune_pairRune high low, ih paired]
    rfl
  | case4 unit high next rest low ih => simp [wellFormed, high, low] at paired
  | case5 unit rest high low ih =>
    rw [wellFormed.eq_def] at paired
    simp [high, low] at paired
  | case6 unit rest high low ih =>
    -- A unit on its own is encoded as it was.
    rw [wellFormed.eq_def] at paired
    simp only [high, low] at paired
    have single := encodeRune_ofNat (by simpa using high) (by simpa using low)
    rw [decode.eq_def]
    simp only [high, low]
    simp [single, ih (by simpa using paired)]

/-- The runes of units take as many units again, whether or not the surrogates are paired. -/
theorem encode_decode_length (units : List UInt16) : (encode (decode units)).length = units.length := by
  -- The replacement character takes one unit, as what it replaces.
  have error : encodeRune Utf8.runeError = [0xFFFD] := by decide
  induction units using decode.induct with
  | case1 => rfl
  | case2 unit high => simp [decode, high, error]
  | case3 unit high next rest low ih =>
    rw [decode, if_pos high]
    simp [low, encodeRune_pairRune high low, ih]
  | case4 unit high next rest low ih =>
    rw [decode, if_pos high]
    simp [low, error, ih]
  | case5 unit rest high low ih =>
    rw [decode.eq_def]
    simp [high, low, error, ih]
  | case6 unit rest high low ih =>
    have single := encodeRune_ofNat (by simpa using high) (by simpa using low)
    rw [decode.eq_def]
    simp [high, low, single, ih]

/-- The byte order of a sixteen-bit unit. -/
inductive ByteOrder where
  | bigEndian
  | littleEndian
  deriving DecidableEq

/-- The two bytes `PutUint16` stores. -/
def ByteOrder.putUint16 (order : ByteOrder) (unit : UInt16) : Bytes :=
  match order with
  | .bigEndian => [UInt8.ofNat (unit.toNat / 256), UInt8.ofNat unit.toNat]
  | .littleEndian => [UInt8.ofNat unit.toNat, UInt8.ofNat (unit.toNat / 256)]

/-- The unit `Uint16` reads from two bytes. -/
def ByteOrder.uint16 (order : ByteOrder) (first second : UInt8) : UInt16 :=
  match order with
  | .bigEndian => UInt16.ofNat (first.toNat * 256 + second.toNat)
  | .littleEndian => UInt16.ofNat (second.toNat * 256 + first.toNat)

/-- The units of a byte string, two bytes each, with an odd last byte ignored. -/
def ByteOrder.units (order : ByteOrder) : Bytes → List UInt16
  | first :: second :: rest => order.uint16 first second :: order.units rest
  | _ => []

/-- The bytes of a unit sequence. -/
def ByteOrder.bytes (order : ByteOrder) (units : List UInt16) : Bytes :=
  units.flatMap order.putUint16

namespace ByteOrder

/-- The bytes of concatenated units are concatenated. -/
@[simp] theorem bytes_append (order : ByteOrder) (xs ys : List UInt16) :
    order.bytes (xs ++ ys) = order.bytes xs ++ order.bytes ys := by
  simp [bytes]

/-- A stored unit takes two bytes in either order. -/
theorem putUint16_eq (order : ByteOrder) (unit : UInt16) :
    ∃ first second, order.putUint16 unit = [first, second] ∧ order.uint16 first second = unit := by
  -- The high byte times 256 plus the low byte is the unit again.
  have high : (UInt8.ofNat (unit.toNat / 256)).toNat = unit.toNat / 256 :=
    UInt8.toNat_ofNat_of_lt' (by have := unit.toNat_lt; simp [UInt8.size]; omega)
  have low : (UInt8.ofNat unit.toNat).toNat = unit.toNat % 256 := by simp
  have whole : unit.toNat / 256 * 256 + unit.toNat % 256 = unit.toNat := by omega
  cases order with
  | bigEndian =>
    refine ⟨_, _, rfl, ?_⟩
    rw [uint16, high, low, whole, UInt16.ofNat_toNat]
  | littleEndian =>
    refine ⟨_, _, rfl, ?_⟩
    rw [uint16, high, low, whole, UInt16.ofNat_toNat]

/-- Reading back stored units gives the units. -/
@[simp] theorem units_bytes (order : ByteOrder) (us : List UInt16) :
    order.units (order.bytes us) = us := by
  induction us with
  | nil => rfl
  | cons unit us ih =>
    obtain ⟨first, second, stored, read⟩ := putUint16_eq order unit
    have split : order.bytes (unit :: us) = first :: second :: order.bytes us := by
      simp [bytes, stored]
    rw [split, units, read, ih]

/-- The unit of two bytes is stored as these bytes. -/
theorem putUint16_uint16 (order : ByteOrder) (first second : UInt8) :
    order.putUint16 (order.uint16 first second) = [first, second] := by
  have firstBound := first.toNat_lt
  have secondBound := second.toNat_lt
  cases order with
  | bigEndian =>
    have whole : (UInt16.ofNat (first.toNat * 256 + second.toNat)).toNat = first.toNat * 256 + second.toNat :=
      UInt16.toNat_ofNat_of_lt' (by simp [UInt16.size]; omega)
    have high : (first.toNat * 256 + second.toNat) / 256 = first.toNat := by omega
    rw [uint16, putUint16, whole, high, UInt8.ofNat_toNat]
    congr 2
    apply UInt8.toNat_inj.mp
    simp
  | littleEndian =>
    have whole : (UInt16.ofNat (second.toNat * 256 + first.toNat)).toNat = second.toNat * 256 + first.toNat :=
      UInt16.toNat_ofNat_of_lt' (by simp [UInt16.size]; omega)
    have high : (second.toNat * 256 + first.toNat) / 256 = second.toNat := by omega
    rw [uint16, putUint16, whole, high, UInt8.ofNat_toNat]
    congr 1
    apply UInt8.toNat_inj.mp
    simp

/-- Storing what was read from an even number of bytes gives these bytes. -/
theorem bytes_units (order : ByteOrder) {data : Bytes} (even : data.length % 2 = 0) :
    order.bytes (order.units data) = data := by
  induction data using ByteOrder.units.induct with
  | case1 first second rest ih =>
    have pair := putUint16_uint16 order first second
    have tail := ih (by simp at even; omega)
    rw [units, bytes, List.flatMap_cons, pair]
    simpa [bytes] using tail
  | case2 data short =>
    -- Only no byte at all is an even number without a pair.
    rcases data with _ | ⟨only, _ | ⟨next, rest⟩⟩
    · rfl
    · simp at even
    · exact absurd rfl (short only next rest)

/-- Every unit is stored as two bytes. -/
@[simp] theorem bytes_length (order : ByteOrder) (us : List UInt16) :
    (order.bytes us).length = 2 * us.length := by
  induction us with
  | nil => rfl
  | cons unit us ih =>
    obtain ⟨first, second, stored, -⟩ := putUint16_eq order unit
    have split : order.bytes (unit :: us) = first :: second :: order.bytes us := by
      simp [bytes, stored]
    rw [split]
    simp [ih]
    omega

end ByteOrder

end Wwan.Utf16
