import Wwan.Proofs.At.Csim
import Wwan.Sim.Identity

/-! The digits a SIM card stores are read as they were written. -/

namespace Wwan.Sim

open At (hexDigit hexDecode upperHex upperHexDigit Dark)

/-! Decimal text. -/

/-- A text of decimal digits. -/
def Decimal (text : GoString) : Prop := ∀ c ∈ text, 0x30 ≤ c ∧ c ≤ 0x39

/-- The value of a decimal digit. -/
def digitValue (c : UInt8) : Nat := c.toNat - 0x30

/-- A decimal digit, as the functions on bytes and characters see it. -/
theorem decimal_digit {c : UInt8} (decimal : 0x30 ≤ c ∧ c ≤ 0x39) :
    hexDigit c = some (digitValue c) ∧ digitValue c < 10 ∧ upperHexDigit (digitValue c) = c ∧ c < 0x80 ∧
      ¬ (Char.ofNat c.toNat < '0' ∨ Char.ofNat c.toNat > '9') ∧ Dark c = true ∧ c ∉ Address.grouping ∧ c ≠ 0x46 ∧
      c ≠ 0x2B := by
  obtain ⟨low, high⟩ := decimal
  rw [UInt8.le_iff_toNat_le] at low high
  simp only [UInt8.reduceToNat] at low high
  -- There are ten digits.
  have digit : c.toNat ∈ List.range' 0x30 10 := List.mem_range'_1.mpr ⟨low, by omega⟩
  rw [← UInt8.ofNat_toNat (x := c)]
  revert digit
  generalize c.toNat = n
  revert n
  decide

/-- Enough decimal digits pass the check. -/
theorem validateDigits_of_decimal {text : GoString} (decimal : Decimal text) {minLength : Nat}
    (long : minLength ≤ text.length) : validateDigits text minLength = .ok () := by
  have plain : ((Utf8.runes text).any fun r => r < '0' || r > '9') = false := by
    rw [(At.runes_ascii fun c member => (decimal_digit (decimal c member)).2.2.2.1).2, List.any_map, List.any_eq_false]
    intro c member outside
    simp only [Function.comp_apply, Bool.or_eq_true, decide_eq_true_eq] at outside
    exact (decimal_digit (decimal c member)).2.2.2.2.1 outside
  rw [validateDigits, if_neg (by omega), plain]
  rfl

/-! Semi-octets. -/

/-- Numbers below sixteen, two to a byte with the first in the low half, and a filler behind an odd last one. -/
def semiOctets : List Nat → Bytes
  | [] => []
  | [low] => [UInt8.ofNat (0xf * 16 + low)]
  | low :: high :: rest => UInt8.ofNat (high * 16 + low) :: semiOctets rest

/-- Two numbers to a byte. -/
theorem length_semiOctets (values : List Nat) : (semiOctets values).length = (values.length + 1) / 2 := by
  induction values using semiOctets.induct with
  | case1 => rfl
  | case2 low => simp [semiOctets]
  | case3 low high rest ih =>
    simp only [semiOctets, List.length_cons, ih]
    omega

/-- Swapping the halves of a byte changes which number comes first. -/
theorem swap_halves {a b : Nat} (small : a < 16) (few : b < 16) :
    BCD.swap (UInt8.ofNat (a * 16 + b)) = UInt8.ofNat (b * 16 + a) := by
  have all : ∀ a b : Fin 16, BCD.swap (UInt8.ofNat (a.val * 16 + b.val)) = UInt8.ofNat (b.val * 16 + a.val) := by
    decide
  exact all ⟨a, small⟩ ⟨b, few⟩

/-- A byte of two digits is written as them. -/
theorem upperHex_cons {a b : Nat} (small : a < 16) (few : b < 16) (rest : Bytes) :
    upperHex (UInt8.ofNat (a * 16 + b) :: rest) = upperHexDigit a :: upperHexDigit b :: upperHex rest := by
  have value : (UInt8.ofNat (a * 16 + b)).toNat = a * 16 + b := UInt8.toNat_ofNat_of_lt' (by simp [UInt8.size]; omega)
  have high : (a * 16 + b) / 16 = a := by omega
  have low : (a * 16 + b) % 16 = b := by omega
  rw [upperHex, List.flatMap_cons, value, high, low]
  rfl

/-- Digits with a filler behind an odd last one. -/
def filled (text : GoString) : GoString := if text.length % 2 ≠ 0 then text ++ [0x46] else text

/-- Two digits in front do not change whether there is a filler. -/
theorem filled_cons_cons (first second : UInt8) (rest : GoString) :
    filled (first :: second :: rest) = first :: second :: filled rest := by
  have same : (rest.length + 1 + 1) % 2 = rest.length % 2 := by omega
  simp only [filled, List.length_cons, same]
  split <;> rfl

/-- Decimal digits are stored as semi-octets. -/
theorem hexDecode_filled {text : GoString} (decimal : Decimal text) :
    hexDecode (filled text) = some ((semiOctets (text.map digitValue)).map BCD.swap) ∧
      upperHex ((semiOctets (text.map digitValue)).map BCD.swap) = filled text := by
  -- The digits come in pairs, except for an odd last one.
  match text with
  | [] => exact ⟨rfl, rfl⟩
  | [last] =>
    -- The filler stands for the digit that is missing.
    obtain ⟨read, small, written, -⟩ := decimal_digit (decimal last (by simp))
    have filler : hexDigit 0x46 = some 0xf := rfl
    have swapped := swap_halves (a := 0xf) (b := digitValue last) (by decide) (by omega)
    refine ⟨?_, ?_⟩
    · show hexDecode [last, 0x46] = some [BCD.swap (UInt8.ofNat (0xf * 16 + digitValue last))]
      rw [swapped, hexDecode, read, filler]
      rfl
    · show upperHex [BCD.swap (UInt8.ofNat (0xf * 16 + digitValue last))] = [last, 0x46]
      rw [swapped, upperHex_cons (by omega) (by decide), written]
      rfl
  | first :: second :: rest =>
    -- The pair is swapped, and the rest follows.
    have others : Decimal rest := fun c member => decimal c (by simp [member])
    obtain ⟨decoded, encoded⟩ := hexDecode_filled others
    obtain ⟨readFirst, smallFirst, writtenFirst, -⟩ := decimal_digit (decimal first (by simp))
    obtain ⟨readSecond, smallSecond, writtenSecond, -⟩ := decimal_digit (decimal second (by simp))
    have swapped := swap_halves (a := digitValue second) (b := digitValue first) (by omega) (by omega)
    rw [filled_cons_cons, List.map_cons, List.map_cons, semiOctets, List.map_cons, swapped]
    refine ⟨?_, ?_⟩
    · rw [hexDecode, readFirst, readSecond, decoded]
      rfl
    · rw [upperHex_cons (by omega) (by omega), writtenFirst, writtenSecond, encoded]

/-- Decimal digits are encoded as semi-octets. -/
theorem BCD.unmarshalText_of_decimal {text : GoString} (decimal : Decimal text) :
    BCD.unmarshalText text = .ok (semiOctets (text.map digitValue)) := by
  have back : BCD.swap ∘ BCD.swap = id := funext (forall_byte (by decide +kernel))
  have read := (hexDecode_filled decimal).1
  rw [filled] at read
  simp only [BCD.unmarshalText, read, List.map_map, back, List.map_id]

/-- Semi-octets are read as the decimal digits that they are. -/
theorem BCD.string_semiOctets {text : GoString} (decimal : Decimal text) :
    BCD.string (semiOctets (text.map digitValue)) = text := by
  have kept : text.rdropWhile (· == 0x46) = text := by
    rw [List.rdropWhile_eq_self_iff]
    intro nonempty filler
    exact (decimal_digit (decimal _ (List.getLast_mem nonempty))).2.2.2.2.2.2.2.1 (by simpa using filler)
  rw [BCD.string, (hexDecode_filled decimal).2, filled]
  split
  · rw [List.rdropWhile_concat_pos _ _ _ (by rfl), kept]
  · exact kept

/-! Round trips. -/

/-- A card's number is read back. -/
theorem ICCID.unmarshalBinary_marshalBinary {digits : GoString} (decimal : Decimal digits) (nonempty : digits ≠ []) :
    ∃ data, ICCID.marshalBinary digits = .ok data ∧ ICCID.unmarshalBinary data = .ok digits := by
  refine ⟨semiOctets (digits.map digitValue), ?_, ?_⟩
  · rw [ICCID.marshalBinary, if_neg nonempty, BCD.unmarshalText_of_decimal decimal, Go.mapError_ok]
  · rw [ICCID.unmarshalBinary, BCD.string_semiOctets decimal]
    exact if_neg nonempty

/-- A digit in front keeps a text decimal. -/
theorem Decimal.cons {c : UInt8} {text : GoString} (digit : 0x30 ≤ c ∧ c ≤ 0x39) (decimal : Decimal text) :
    Decimal (c :: text) := List.forall_mem_cons.mpr ⟨digit, decimal⟩

/-- Enough decimal digits are a subscriber's number. -/
theorem IMSI.setDigits_of_decimal {digits : GoString} (decimal : Decimal digits) (long : 6 ≤ digits.length) :
    IMSI.setDigits digits = .ok { digits, mcc := digits.take 3 } := by
  rw [IMSI.setDigits, validateDigits_of_decimal decimal long, Go.slice_eq_ok (Nat.zero_le _) (by omega)]
  rfl

/-- What a subscriber's number is stored as, with the digits behind a nine. -/
theorem IMSI.unmarshalBinary_nine {digits : GoString} (decimal : Decimal digits) (long : 6 ≤ digits.length)
    (short : digits.length ≤ 509) (after : Bytes) :
    IMSI.unmarshalBinary (UInt8.ofNat ((digits.length + 2) / 2) ::
      (semiOctets (9 :: digits.map digitValue) ++ after)) = .ok { digits, mcc := digits.take 3 } := by
  have nine : (9 :: digits.map digitValue) = (0x39 :: digits).map digitValue := rfl
  have size : (UInt8.ofNat ((digits.length + 2) / 2)).toNat = (semiOctets (9 :: digits.map digitValue)).length := by
    rw [length_semiOctets, UInt8.toNat_ofNat_of_lt' (by simp [UInt8.size]; omega), List.length_cons, List.length_map]
  have begins : (Go.index (UInt8.ofNat ((digits.length + 2) / 2) ::
      (semiOctets (9 :: digits.map digitValue) ++ after)) 0 : Go IdentityError UInt8) =
        .ok (UInt8.ofNat ((digits.length + 2) / 2)) := rfl
  have body := Go.slice_append (ε := IdentityError) [UInt8.ofNat ((digits.length + 2) / 2)]
    (semiOctets (9 :: digits.map digitValue)) after
  rw [IMSI.unmarshalBinary, if_neg (by simp), begins, Go.ok_bind, size,
    if_neg (by simp only [List.length_cons, List.length_append]; omega)]
  rw [List.singleton_append, List.length_singleton] at body
  rw [body, Go.ok_bind, nine, BCD.string_semiOctets (decimal.cons (by decide))]
  exact IMSI.setDigits_of_decimal decimal long

/-- A subscriber's number is encoded behind a nine, unless it takes more than 255 bytes. -/
theorem IMSI.marshalBinary_of_decimal {digits : GoString} (decimal : Decimal digits) (long : 6 ≤ digits.length)
    (mcc : GoString) :
    IMSI.marshalBinary { digits, mcc } =
      if digits.length ≤ 509 then
        .ok (UInt8.ofNat ((digits.length + 2) / 2) :: semiOctets (9 :: digits.map digitValue))
      else Go.fail .marshalingIMSILong := by
  have body : BCD.unmarshalText (0x39 :: digits) = .ok (semiOctets (9 :: digits.map digitValue)) :=
    BCD.unmarshalText_of_decimal (decimal.cons (by decide))
  have size : (semiOctets (9 :: digits.map digitValue)).length = (digits.length + 2) / 2 := by
    rw [length_semiOctets, List.length_cons, List.length_map]
  rw [IMSI.marshalBinary, validateDigits_of_decimal decimal long, body, Go.mapError_ok, Go.ok_bind, size]
  by_cases short : digits.length ≤ 509
  · rw [if_pos short, if_neg (by omega)]
    rfl
  · rw [if_neg short, if_pos (by omega)]
    rfl

/-- An address of digits, with a plus in front or not. -/
def addressText (plus : Bool) (digits : GoString) : GoString := if plus then 0x2B :: digits else digits

/-- There is no space around an address of digits. -/
theorem trimSpace_addressText {digits : GoString} (decimal : Decimal digits) (nonempty : digits ≠ []) (plus : Bool) :
    GoString.trimSpace (addressText plus digits) = addressText plus digits := by
  have dark (c : UInt8) (member : c ∈ digits) : Dark c = true := (decimal_digit (decimal c member)).2.2.2.2.2.1
  have last := dark _ (List.getLast_mem nonempty)
  have ends := (List.dropLast_append_getLast nonempty).symm
  cases plus with
  | true =>
    have sign : Dark 0x2B = true := by decide
    refine At.trimSpace_of_dark sign last rfl ⟨0x2B :: digits.dropLast, ?_⟩
    exact congrArg (0x2B :: ·) ends
  | false =>
    obtain ⟨first, rest, same⟩ := List.exists_cons_of_ne_nil nonempty
    exact At.trimSpace_of_dark (dark first (by simp [same])) last same ⟨_, ends⟩

/-- An address is read back. -/
theorem Address.unmarshalBinary_marshalBinary {digits : GoString} (decimal : Decimal digits) {plus : Bool}
    (nonempty : digits ≠ [] ∨ plus = false) :
    ∃ data, Address.marshalBinary (addressText plus digits) = .ok data ∧
      Address.unmarshalBinary data = .ok (addressText plus digits) := by
  by_cases empty : digits = []
  · -- Nothing is encoded as nothing.
    have none := nonempty.resolve_left (not_not.mpr empty)
    subst empty none
    exact ⟨[], rfl, rfl⟩
  have trimmed := trimSpace_addressText decimal empty plus
  -- No digit is one of the grouping characters.
  have kept : digits.filter (fun c => c ∉ Address.grouping) = digits := by
    rw [List.filter_eq_self]
    intro c member
    simpa using (decimal_digit (decimal c member)).2.2.2.2.2.2.1
  have some : 1 ≤ digits.length := List.length_pos_iff.mpr empty
  refine ⟨(if plus then 0x91 else 0x81) :: semiOctets (digits.map digitValue), ?_, ?_⟩
  · -- The writer takes the plus sign off the digits.
    rw [Address.marshalBinary, trimmed]
    cases plus with
    | false =>
      obtain ⟨first, rest, rfl⟩ := List.exists_cons_of_ne_nil empty
      have other : first ≠ 0x2B := (decimal_digit (decimal first (by simp))).2.2.2.2.2.2.2.2
      simp only [addressText, Bool.false_eq_true, if_false, List.head?_cons, Option.some.injEq, other, kept, empty,
        validateDigits_of_decimal decimal some, BCD.unmarshalText_of_decimal decimal]
      rfl
    | true =>
      simp only [addressText, if_true, List.head?_cons, List.tail_cons, kept, empty, reduceCtorEq, if_false,
        validateDigits_of_decimal decimal some, BCD.unmarshalText_of_decimal decimal]
      rfl
  · -- The reader puts it back from the type octet.
    rw [Address.unmarshalBinary, if_neg (by simp)]
    have behind : (Go.slice ((if plus then 0x91 else 0x81) :: semiOctets (digits.map digitValue)) 1
        ((if plus then 0x91 else 0x81) :: semiOctets (digits.map digitValue)).length : Go IdentityError Bytes) =
          .ok (semiOctets (digits.map digitValue)) := by
      rw [Go.slice_eq_ok (by simp) le_rfl]
      simp
    rw [behind, Go.ok_bind, BCD.string_semiOctets decimal]
    dsimp only
    rw [validateDigits_of_decimal decimal (Nat.zero_le _)]
    cases plus <;> simp [Go.ofExcept, empty, Go.index, addressText]

/-! A subscriber's number as the card stores it. -/

/-- The content of EF_IMSI by TS 31.102. -/
def efIMSI (digits : GoString) : Bytes :=
  let parity := if digits.length % 2 = 1 then 9 else 1
  let body := semiOctets (parity :: digits.map digitValue)
  UInt8.ofNat body.length :: body

/-- A number of an odd count of digits is read from the card as it is, whatever padding follows. -/
theorem IMSI.unmarshalBinary_efIMSI {digits : GoString} (decimal : Decimal digits) (long : 6 ≤ digits.length)
    (short : digits.length ≤ 15) (odd : digits.length % 2 = 1) (count : Nat) :
    IMSI.unmarshalBinary (efIMSI digits ++ List.replicate count 0xff) = .ok { digits, mcc := digits.take 3 } := by
  have content : efIMSI digits =
      UInt8.ofNat ((digits.length + 2) / 2) :: semiOctets (9 :: digits.map digitValue) := by
    simp only [efIMSI, if_pos odd]
    rw [length_semiOctets, List.length_cons, List.length_map]
  rw [content, List.cons_append]
  exact IMSI.unmarshalBinary_nine decimal long (by omega) _

/-- What is written is read back, short of numbers that `IMSI.MarshalBinary` refuses, and so is a number of an odd count
of digits that a card stores. -/
theorem identity_roundTrip {digits : GoString} (decimal : Decimal digits) :
    (6 ≤ digits.length → ∀ mcc,
      if digits.length ≤ 509 then
        ∃ data, IMSI.marshalBinary { digits, mcc } = .ok data ∧
          IMSI.unmarshalBinary data = .ok { digits, mcc := digits.take 3 }
      else IMSI.marshalBinary { digits, mcc } = Go.fail .marshalingIMSILong) ∧
    (digits ≠ [] → ∃ data, ICCID.marshalBinary digits = .ok data ∧ ICCID.unmarshalBinary data = .ok digits) ∧
    (∀ plus, digits ≠ [] ∨ plus = false →
      ∃ data, Address.marshalBinary (addressText plus digits) = .ok data ∧
        Address.unmarshalBinary data = .ok (addressText plus digits)) ∧
    (6 ≤ digits.length → digits.length ≤ 15 → digits.length % 2 = 1 → ∀ count,
      IMSI.unmarshalBinary (efIMSI digits ++ List.replicate count 0xff) = .ok { digits, mcc := digits.take 3 }) := by
  refine ⟨fun long mcc => ?_, ICCID.unmarshalBinary_marshalBinary decimal, fun plus nonempty => ?_, ?_⟩
  · have written := IMSI.marshalBinary_of_decimal decimal long mcc
    split
    · rename_i short
      rw [if_pos short] at written
      refine ⟨_, written, ?_⟩
      have read := IMSI.unmarshalBinary_nine decimal long short []
      rwa [List.append_nil] at read
    · rename_i large
      rwa [if_neg large] at written
  · exact Address.unmarshalBinary_marshalBinary decimal nonempty
  · exact IMSI.unmarshalBinary_efIMSI decimal

/-- A number of fifteen digits, and the card's content of it with nine bytes of padding. -/
theorem identity_roundTrip_fifteen :
    (∃ data, IMSI.marshalBinary { digits := GoString.ascii "001010123456789" } = .ok data ∧
      IMSI.unmarshalBinary data = .ok { digits := GoString.ascii "001010123456789", mcc := GoString.ascii "001" }) ∧
    IMSI.unmarshalBinary (efIMSI (GoString.ascii "001010123456789") ++ List.replicate 9 0xff) =
      .ok { digits := GoString.ascii "001010123456789", mcc := GoString.ascii "001" } := by
  have decimal : Decimal (GoString.ascii "001010123456789") := by
    unfold Decimal
    decide +kernel
  obtain ⟨imsi, -, -, card⟩ := identity_roundTrip decimal
  exact ⟨imsi (by decide) [], card (by decide) (by decide) (by decide) 9⟩

/-- A number of 510 digits is refused, and one of six digits is read from the card with its parity in front. -/
theorem identity_not_roundTrip :
    IMSI.marshalBinary { digits := List.replicate 510 0x31 } = Go.fail .marshalingIMSILong ∧
      efIMSI (GoString.ascii "001010") = [0x04, 0x01, 0x10, 0x10, 0xf0] ∧
      IMSI.unmarshalBinary [0x04, 0x01, 0x10, 0x10, 0xf0] =
        .ok { digits := GoString.ascii "1001010", mcc := GoString.ascii "100" } := by
  refine ⟨?_, by decide +kernel, by decide +kernel⟩
  have decimal : Decimal (List.replicate 510 0x31) := fun c member => by
    rw [List.eq_of_mem_replicate member]
    decide
  have many : (List.replicate 510 (0x31 : UInt8)).length = 510 := List.length_replicate
  rw [IMSI.marshalBinary_of_decimal decimal (by omega), if_neg (by omega)]

end Wwan.Sim
