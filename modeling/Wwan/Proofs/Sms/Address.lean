import Mathlib.Tactic.IntervalCases
import Wwan.Sms.Pdu

/-! Numeric addresses read back as the digits they were written from, up to their length fields. -/

namespace Wwan.Sms

/-- A byte that is a decimal digit. -/
def IsDigit (byte : UInt8) : Prop := 0x30 ≤ byte ∧ byte ≤ 0x39

/-- An optional plus sign followed by decimal digits. -/
def DialNumber (number : GoString) : Prop :=
  ∃ digits : GoString, (∀ digit ∈ digits, IsDigit digit) ∧ (number = digits ∨ number = 0x2b :: digits)

/-- The number of digits behind an optional plus sign. -/
def digitCount (number : GoString) : Nat := (normalizeNumber number).1.length

/-- The plus sign that an address type stands for. -/
def plusSign (international : Bool) : GoString := if international then [0x2b] else []

/-- Only a leading plus sign is removed, and it is remembered. -/
theorem plusSign_normalizeNumber (number : GoString) :
    plusSign (normalizeNumber number).2 ++ (normalizeNumber number).1 = number := by
  unfold normalizeNumber
  split <;> simp [plusSign]

/-- The digits of a dial number are decimal. -/
theorem DialNumber.digits {number : GoString} (dial : DialNumber number) :
    ∀ digit ∈ (normalizeNumber number).1, IsDigit digit := by
  obtain ⟨digits, decimal, rfl | rfl⟩ := dial
  · -- Decimal digits never start with a plus sign.
    unfold normalizeNumber
    split
    · have := decimal 0x2b (by simp)
      exact absurd this.1 (by decide)
    · exact decimal
  · exact decimal

/-- A number is its digits plus possibly one sign. -/
theorem length_eq_digitCount (number : GoString) :
    number.length = (plusSign (normalizeNumber number).2).length + digitCount number := by
  conv_lhs => rw [← plusSign_normalizeNumber number]
  simp [digitCount]

/-- Semi-octet `i` of a byte string, low half first. -/
def nibbleAt (data : Bytes) (i : Nat) : Nat :=
  (data.getD (i / 2) 0).toNat >>> (4 * (i % 2)) &&& 0x0f

/-- The digit a semi-octet decodes to, or nothing. -/
def nibbleDigit (nibble : Nat) : GoString :=
  if nibble ≤ 9 then [0x30 + UInt8.ofNat nibble] else []

/-- Decoding inside the data writes the sign and then every decimal semi-octet. -/
theorem decodeBCDAddress_eq (international : Bool) (data : Bytes) (count : Nat)
    (inside : count ≤ 2 * data.length) :
    decodeBCDAddress (typeOfAddress international) data count =
      .ok (plusSign international ++
        (List.range count).flatMap fun i => nibbleDigit (nibbleAt data i)) := by
  have sign : (if typeOfAddress international &&& 0x70 = 0x10 then [0x2b] else [] : GoString) =
      plusSign international := by
    cases international <;> rfl
  rw [decodeBCDAddress, sign]
  induction count with
  | zero => simp
  | succ count ih =>
    have byteInside : count / 2 < data.length := by omega
    have found : data[count / 2]? = some data[count / 2] := List.getElem?_eq_getElem byteInside
    have nibble : data[count / 2].toNat >>> (4 * (count % 2)) &&& 0x0f = nibbleAt data count := by
      simp [nibbleAt, List.getD_eq_getElem?_getD, found]
    rw [List.range_succ, List.foldlM_append, ih (by omega)]
    simp only [Go.ok_bind, List.foldlM_cons, List.foldlM_nil, Go.index_eq_ok found, nibble,
      Go.pure_eq, List.flatMap_append, List.flatMap_singleton, nibbleDigit]
    split <;> simp [List.append_assoc]

/-- A decoded address never has more digits than were counted. -/
theorem length_flatMap_nibbles_le (data : Bytes) (count : Nat) :
    ((List.range count).flatMap fun i => nibbleDigit (nibbleAt data i)).length ≤ count := by
  induction count with
  | zero => simp
  | succ count ih =>
    have one : (nibbleDigit (nibbleAt data count)).length ≤ 1 := by
      unfold nibbleDigit
      split <;> simp
    simp only [List.range_succ, List.flatMap_append, List.flatMap_singleton, List.length_append]
    omega

/-- Two digits share an octet, and an odd last one gets an octet of its own. -/
@[simp] theorem encodeBCDDigits_length (digits : GoString) :
    (encodeBCDDigits digits).length = (digits.length + 1) / 2 := by
  induction digits using encodeBCDDigits.induct with
  | case1 => rfl
  | case2 digit => simp [encodeBCDDigits]
  | case3 low high rest ih =>
    simp only [encodeBCDDigits, List.length_cons, ih]
    omega

/-- A digit's semi-octet is its value. -/
private theorem bcdNibble_digit {digit : UInt8} (decimal : IsDigit digit) :
    (bcdNibble digit).toNat = digit.toNat - 48 ∧ digit.toNat - 48 ≤ 9 ∧
      0x30 + UInt8.ofNat (digit.toNat - 48) = digit := by
  obtain ⟨low, high⟩ := decimal
  have subtracted : (bcdNibble digit) = digit - 0x30 := by simp [bcdNibble, low, high]
  rw [UInt8.le_iff_toNat_le] at low high
  simp only [UInt8.reduceToNat] at low high
  have value : (bcdNibble digit).toNat = digit.toNat - 48 := by
    rw [subtracted, UInt8.toNat_sub_of_le _ _ (by rw [UInt8.le_iff_toNat_le]; exact low)]
    rfl
  refine ⟨value, by omega, ?_⟩
  apply UInt8.toNat_inj.mp
  rw [UInt8.toNat_add, UInt8.toNat_ofNat_of_lt' (by simp [UInt8.size]; omega)]
  simp
  omega

/-- The halves of an octet built from two semi-octets are those semi-octets. -/
private theorem nibbles_of_octet (low high : UInt8) (lowSmall : low.toNat < 16)
    (highSmall : high.toNat < 16) :
    (low ||| high <<< 4).toNat &&& 0x0f = low.toNat ∧
      (low ||| high <<< 4).toNat >>> 4 &&& 0x0f = high.toNat := by
  -- Sixteen values on either side leave a finite table to check.
  have lows : ∀ l h : Fin 16,
      ((UInt8.ofNat l.val ||| UInt8.ofNat h.val <<< 4).toNat &&& 0x0f = l.val ∧
        (UInt8.ofNat l.val ||| UInt8.ofNat h.val <<< 4).toNat >>> 4 &&& 0x0f = h.val) := by
    decide
  have entry := lows ⟨low.toNat, lowSmall⟩ ⟨high.toNat, highSmall⟩
  simpa [UInt8.ofNat_toNat] using entry

/-- Encoded digits sit at their own semi-octets, followed by a filler where needed. -/
private theorem nibbleAt_encodeBCDDigits {digits : GoString}
    (decimal : ∀ digit ∈ digits, IsDigit digit) :
    (∀ i (inside : i < digits.length),
      nibbleAt (encodeBCDDigits digits) i = digits[i].toNat - 48) ∧
      (digits.length % 2 = 1 → nibbleAt (encodeBCDDigits digits) digits.length = 15) := by
  induction digits using encodeBCDDigits.induct with
  | case1 => simp
  | case2 digit =>
    -- A last digit alone is followed by the filler.
    obtain ⟨value, small, -⟩ := bcdNibble_digit (decimal digit (by simp))
    have filler : bcdNibble digit ||| 0xf0 = bcdNibble digit ||| (15 : UInt8) <<< (4 : UInt8) := rfl
    obtain ⟨low, high⟩ := nibbles_of_octet (bcdNibble digit) 15 (by omega) (by decide)
    constructor
    · intro i inside
      have : i = 0 := by simp at inside; omega
      subst this
      simpa [nibbleAt, encodeBCDDigits, filler, value] using low
    · intro _
      simpa [nibbleAt, encodeBCDDigits, filler] using high
  | case3 first second rest ih =>
    -- Two digits make an octet, the first in its lower half.
    obtain ⟨firstValue, firstSmall, -⟩ := bcdNibble_digit (decimal first (by simp))
    obtain ⟨secondValue, secondSmall, -⟩ := bcdNibble_digit (decimal second (by simp))
    obtain ⟨low, high⟩ :=
      nibbles_of_octet (bcdNibble first) (bcdNibble second) (by omega) (by omega)
    obtain ⟨inner, filler⟩ := ih fun digit member => decimal digit (by simp [member])
    -- Dropping one octet moves every position by two.
    have shifted : ∀ i, nibbleAt (encodeBCDDigits (first :: second :: rest)) (i + 2) =
        nibbleAt (encodeBCDDigits rest) i := by
      intro i
      have quotient : (i + 2) / 2 = i / 2 + 1 := by omega
      have remainder : (i + 2) % 2 = i % 2 := by omega
      simp [nibbleAt, encodeBCDDigits, quotient, remainder]
    constructor
    · intro i inside
      rcases i with _ | _ | i
      · simpa [nibbleAt, encodeBCDDigits, firstValue] using low
      · simpa [nibbleAt, encodeBCDDigits, secondValue] using high
      · rw [shifted]
        simpa using inner i (by simpa using inside)
    · intro odd
      simp only [List.length_cons] at odd ⊢
      rw [shifted]
      exact filler (by omega)

/-- Decoding the semi-octets of decimal digits writes the digits. -/
theorem flatMap_nibbles_encodeBCDDigits {digits : GoString}
    (decimal : ∀ digit ∈ digits, IsDigit digit) :
    ((List.range digits.length).flatMap fun i =>
      nibbleDigit (nibbleAt (encodeBCDDigits digits) i)) = digits := by
  have each : ∀ i ∈ List.range digits.length,
      nibbleDigit (nibbleAt (encodeBCDDigits digits) i) = [digits.getD i 0] := by
    intro i member
    have inside := List.mem_range.mp member
    obtain ⟨-, small, same⟩ := bcdNibble_digit (decimal digits[i] (List.getElem_mem inside))
    rw [(nibbleAt_encodeBCDDigits decimal).1 i inside, nibbleDigit, if_pos small, same]
    simp [List.getD_eq_getElem?_getD, inside]
  rw [List.flatMap_congr each, ← List.map_eq_flatMap]
  refine List.ext_getElem (by simp) fun i left right => ?_
  simp [List.getD_eq_getElem?_getD, right]

/-- An odd last digit's filler adds nothing when whole octets are decoded. -/
theorem flatMap_nibbles_whole_octets {digits : GoString}
    (decimal : ∀ digit ∈ digits, IsDigit digit) :
    ((List.range ((digits.length + 1) / 2 * 2)).flatMap fun i =>
      nibbleDigit (nibbleAt (encodeBCDDigits digits) i)) = digits := by
  rcases Nat.mod_two_eq_zero_or_one digits.length with even | odd
  · have whole : (digits.length + 1) / 2 * 2 = digits.length := by omega
    rw [whole, flatMap_nibbles_encodeBCDDigits decimal]
  · have whole : (digits.length + 1) / 2 * 2 = digits.length + 1 := by omega
    rw [whole, List.range_succ, List.flatMap_append, flatMap_nibbles_encodeBCDDigits decimal]
    simp [nibbleDigit, (nibbleAt_encodeBCDDigits decimal).2 odd]

/-- An appended address follows what was there before. -/
theorem appendAddress_eq (dst : Bytes) (number : GoString) :
    appendAddress dst number =
      dst ++ UInt8.ofNat (digitCount number) :: typeOfAddress (normalizeNumber number).2 ::
        encodeBCDDigits (normalizeNumber number).1 := by
  simp [appendAddress, digitCount]

/--
Reading a written address decodes as many digits as its length byte counts.

The length byte keeps only the low eight bits of the digit count.
-/
theorem readAddress_appendAddress (before : Bytes) (number : GoString) (after : Bytes) :
    readAddress (appendAddress before number ++ after) before.length =
      .ok (plusSign (normalizeNumber number).2 ++
          (List.range (digitCount number % 256)).flatMap fun i => nibbleDigit (nibbleAt
            ((encodeBCDDigits (normalizeNumber number).1).take ((digitCount number % 256 + 1) / 2)) i),
        before.length + 2 + (digitCount number % 256 + 1) / 2) := by
  generalize counted : digitCount number % 256 = count
  -- The counted octets are all there, since reducing the count can only shorten them.
  have octets : (encodeBCDDigits (normalizeNumber number).1).length = (digitCount number + 1) / 2 := by
    simp [digitCount]
  have enough : (count + 1) / 2 ≤ (encodeBCDDigits (normalizeNumber number).1).length := by
    rw [octets]
    omega
  generalize normalized : (normalizeNumber number).2 = international
  generalize coded : encodeBCDDigits (normalizeNumber number).1 = bcd at octets enough
  -- The address is its length, its type and its digits.
  have whole : appendAddress before number ++ after =
      before ++ UInt8.ofNat (digitCount number) :: typeOfAddress international :: (bcd ++ after) := by
    simp [appendAddress_eq, normalized, coded]
  have length : (UInt8.ofNat (digitCount number)).toNat = count := by simp [counted]
  have second : before ++ UInt8.ofNat (digitCount number) :: typeOfAddress international ::
      (bcd ++ after) = (before ++ [UInt8.ofNat (digitCount number)]) ++
        typeOfAddress international :: (bcd ++ after) := by simp
  have third : before ++ UInt8.ofNat (digitCount number) :: typeOfAddress international ::
      (bcd ++ after) = (before ++ [UInt8.ofNat (digitCount number), typeOfAddress international]) ++
        (bcd.take ((count + 1) / 2) ++ (bcd.drop ((count + 1) / 2) ++ after)) := by
    rw [← List.append_assoc (bcd.take _), List.take_append_drop]
    simp
  have numeric : ¬ typeOfAddress international &&& 0x70 = 0x50 := by cases international <;> decide
  -- The guards find the whole address.
  have present : ¬ ((before ++ UInt8.ofNat (digitCount number) :: typeOfAddress international ::
      (bcd ++ after)).length : Int) - before.length < 2 := by
    simp
    omega
  have untruncated : ¬ (count + 1) / 2 > (before ++ UInt8.ofNat (digitCount number) ::
      typeOfAddress international :: (bcd ++ after)).length - (before.length + 2) := by
    simp
    omega
  have type : (Go.index (before ++ UInt8.ofNat (digitCount number) :: typeOfAddress international ::
      (bcd ++ after)) (before.length + 1) : Go Error UInt8) = .ok (typeOfAddress international) := by
    rw [second]
    have := Go.index_append (ε := Error) (before ++ [UInt8.ofNat (digitCount number)])
      (typeOfAddress international) (bcd ++ after)
    simpa using this
  have window : (Go.slice (before ++ UInt8.ofNat (digitCount number) :: typeOfAddress international ::
      (bcd ++ after)) (before.length + 2) (before.length + 2 + (count + 1) / 2) : Go Error Bytes) =
        .ok (bcd.take ((count + 1) / 2)) := by
    rw [third]
    have := Go.slice_append (ε := Error)
      (before ++ [UInt8.ofNat (digitCount number), typeOfAddress international])
      (bcd.take ((count + 1) / 2)) (bcd.drop ((count + 1) / 2) ++ after)
    simpa [Nat.min_eq_left enough] using this
  rw [whole, readAddress, if_neg present, Go.index_append, Go.ok_bind, type, Go.ok_bind]
  simp only [length, numeric, if_false, untruncated, window, Go.ok_bind]
  rw [decodeBCDAddress_eq international _ _ (by simp; omega)]
  rfl

/-- A number of at most 255 digits reads back whole, with the offset right behind it. -/
theorem readAddress_of_short {number : GoString} (dial : DialNumber number)
    (short : digitCount number ≤ 255) (before after : Bytes) :
    readAddress (appendAddress before number ++ after) before.length =
      .ok (number, (appendAddress before number).length) := by
  have count : digitCount number % 256 = digitCount number := Nat.mod_eq_of_lt (by omega)
  have all : (encodeBCDDigits (normalizeNumber number).1).take ((digitCount number + 1) / 2) =
      encodeBCDDigits (normalizeNumber number).1 :=
    List.take_of_length_le (by simp [digitCount])
  have digits := flatMap_nibbles_encodeBCDDigits dial.digits
  rw [readAddress_appendAddress, count, all]
  rw [digitCount, digits, plusSign_normalizeNumber]
  simp only [appendAddress_eq, List.length_append, List.length_cons, encodeBCDDigits_length]
  rw [Nat.add_assoc, Nat.add_comm 2]

/-- A number of more than 255 digits never reads back. -/
theorem readAddress_of_long {number : GoString} (long : 255 < digitCount number)
    {before after : Bytes} {read : GoString} {offset : Nat}
    (found : readAddress (appendAddress before number ++ after) before.length = .ok (read, offset)) :
    read ≠ number := by
  -- The length byte counts at most 255 digits, so the decoded number is too short.
  rw [readAddress_appendAddress] at found
  simp only [Except.ok.injEq, Prod.mk.injEq] at found
  obtain ⟨rfl, -⟩ := found
  intro same
  have lengths := congrArg List.length same
  have bound := length_flatMap_nibbles_le ((encodeBCDDigits (normalizeNumber number).1).take
    ((digitCount number % 256 + 1) / 2)) (digitCount number % 256)
  rw [List.length_append, length_eq_digitCount number] at lengths
  omega

/-- Whatever the semi-octets are, the decoded symbols are decimal digits. -/
theorem isDigit_of_mem_nibbleDigit {nibble : Nat} {symbol : UInt8} (member : symbol ∈ nibbleDigit nibble) :
    IsDigit symbol := by
  -- Semi-octets above nine decode to nothing, and the others to one of ten digits.
  have table : ∀ n : Fin 10, 0x30 ≤ 0x30 + UInt8.ofNat n.val ∧ 0x30 + UInt8.ofNat n.val ≤ 0x39 := by decide
  unfold nibbleDigit at member
  split at member
  · next small =>
    rw [List.mem_singleton.mp member]
    exact table ⟨nibble, by omega⟩
  · simp at member

/-- A number of at most 255 symbols reads back whole exactly when its symbols are decimal digits. -/
theorem readAddress_appendAddress_iff {number : GoString} (short : digitCount number ≤ 255) (dst suffix : Bytes) :
    readAddress (appendAddress dst number ++ suffix) dst.length = .ok (number, (appendAddress dst number).length) ↔
      DialNumber number := by
  constructor
  · -- The decoder writes nothing but the sign and decimal digits.
    intro read
    rw [readAddress_appendAddress] at read
    obtain ⟨same, -⟩ := Prod.mk.inj (Except.ok.inj read)
    have digits := List.append_cancel_left (same.trans (plusSign_normalizeNumber number).symm)
    have decimal : ∀ digit ∈ (normalizeNumber number).1, IsDigit digit := by
      intro digit member
      rw [← digits] at member
      obtain ⟨i, -, inside⟩ := List.mem_flatMap.mp member
      exact isDigit_of_mem_nibbleDigit inside
    refine ⟨(normalizeNumber number).1, decimal, ?_⟩
    -- The sign is there or not.
    have whole := plusSign_normalizeNumber number
    cases sign : (normalizeNumber number).2 with
    | true =>
      rw [sign] at whole
      exact .inr whole.symm
    | false =>
      rw [sign] at whole
      exact .inl whole.symm
  · -- Decimal digits of a short number are read back.
    intro dial
    exact readAddress_of_short dial short dst suffix

/-- An international number with an odd number of digits reads back in front of other octets. -/
theorem oddNumber_readAddress :
    readAddress (appendAddress [7] [0x2b, 0x34, 0x39, 0x31] ++ [1, 2]) 1 = .ok ([0x2b, 0x34, 0x39, 0x31], 5) :=
  (readAddress_appendAddress_iff (by decide) [7] [1, 2]).mpr ⟨[0x34, 0x39, 0x31], by simp [IsDigit], .inr rfl⟩

/-- A star has a semi-octet, but it does not read back. -/
theorem star_not_readAddress :
    bcdNibble 0x2a = 0x0a ∧ readAddress (appendAddress [] [0x2a]) 0 = .ok ([], 3) ∧
      readAddress (appendAddress [] [0x2a] ++ []) 0 ≠ .ok ([0x2a], (appendAddress [] [0x2a]).length) := by
  decide

end Wwan.Sms
