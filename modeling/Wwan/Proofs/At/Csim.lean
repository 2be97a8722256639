import Wwan.At.Csim

/-! The answer that a modem writes for some bytes is read as those bytes. -/

namespace Wwan.At

open GoString (ascii trimSpace)

/-! Hexadecimal digits. -/

/-- A digit reads back. -/
theorem hexDigit_upperHexDigit {n : Nat} (small : n < 16) : hexDigit (upperHexDigit n) = some n := by
  have all : ∀ n : Fin 16, hexDigit (upperHexDigit n) = some n.val := by decide
  exact all ⟨n, small⟩

/-- Bytes read back from their digits. -/
theorem hexDecode_upperHex (data : Bytes) : hexDecode (upperHex data) = some data := by
  induction data with
  | nil => rfl
  | cons b rest ih =>
    have bound := b.toNat_lt
    have high := hexDigit_upperHexDigit (n := b.toNat / 16) (by omega)
    have low := hexDigit_upperHexDigit (n := b.toNat % 16) (by omega)
    have whole : UInt8.ofNat (b.toNat / 16 * 16 + b.toNat % 16) = b := by
      rw [Nat.div_add_mod']
      exact UInt8.ofNat_toNat
    show hexDecode (_ :: _ :: upperHex rest) = _
    rw [hexDecode, high, low, ih]
    exact congrArg (fun b => some (b :: rest)) whole

/-- The digits are of ASCII, and none is a quote, a comma or a space. -/
def Plain (c : UInt8) : Prop := 0x30 ≤ c ∧ c ≤ 0x46

instance (c : UInt8) : Decidable (Plain c) := inferInstanceAs (Decidable (_ ∧ _))

/-- Every digit is plain. -/
theorem upperHex_plain {data : Bytes} {c : UInt8} (member : c ∈ upperHex data) : Plain c := by
  have all : ∀ n : Fin 16, 0x30 ≤ upperHexDigit n ∧ upperHexDigit n ≤ 0x46 := by decide
  simp only [upperHex, List.mem_flatMap, List.mem_cons, List.not_mem_nil, or_false] at member
  obtain ⟨b, -, rfl | rfl⟩ := member
  · exact all ⟨b.toNat / 16, by have := b.toNat_lt; omega⟩
  · exact all ⟨b.toNat % 16, by omega⟩

/-- Quoted digits lose their quotes. -/
theorem unquoteBody_plain {text : GoString} (plain : ∀ c ∈ text, Plain c) :
    unquoteBody (text ++ [0x22]) = some text := by
  induction text with
  | nil => rfl
  | cons c rest ih =>
    have range := plain c (by simp)
    have quote : c ≠ 0x22 := by rintro rfl; exact absurd range (by decide)
    have feed : c ≠ 0x0A := by rintro rfl; exact absurd range (by decide)
    have escape : c ≠ 0x5C := by rintro rfl; exact absurd range (by decide)
    rw [List.cons_append, unquoteBody]
    · rw [ih fun c member => plain c (by simp [member])]
      rfl
    all_goals first | exact quote | exact feed | exact escape | (intros; simp_all)

/-- The characters of text in ASCII are its bytes. -/
theorem runes_ascii {text : GoString} (small : ∀ c ∈ text, c < 0x80) :
    text = Utf8.encodeRunes (text.map fun c => Char.ofNat c.toNat) ∧
      Utf8.runes text = text.map fun c => Char.ofNat c.toNat := by
  have all : ∀ n : Fin 128, Utf8.encodeRune (Char.ofNat n) = [UInt8.ofNat n] := by decide
  have byte (c : UInt8) (low : c < 0x80) : Utf8.encodeRune (Char.ofNat c.toNat) = [c] := by
    have same := all ⟨c.toNat, UInt8.lt_iff_toNat_lt.mp low⟩
    rwa [UInt8.ofNat_toNat] at same
  have written : text = Utf8.encodeRunes (text.map fun c => Char.ofNat c.toNat) := by
    induction text with
    | nil => rfl
    | cons c rest ih =>
      rw [List.map_cons, Utf8.encodeRunes_cons, byte c (small c (by simp)), ← ih fun c member => small c (by simp [member])]
      rfl
  refine ⟨written, ?_⟩
  nth_rewrite 1 [written]
  exact Utf8.runes_encodeRunes _

/-- Text in ASCII is what its characters are written as. -/
theorem encodeRunes_runes_ascii {text : GoString} (small : ∀ c ∈ text, c < 0x80) :
    Utf8.encodeRunes (Utf8.runes text) = text := by
  obtain ⟨written, read⟩ := runes_ascii small
  rw [read, ← written]

/-- Quoted digits are their digits. -/
theorem unquote_plain {text : GoString} (plain : ∀ c ∈ text, Plain c) : unquote (0x22 :: (text ++ [0x22])) = some text := by
  have small : ∀ c ∈ (0x22 :: (text ++ [0x22]) : GoString), c < 0x80 := by
    intro c member
    rcases List.mem_cons.mp member with rfl | member
    · decide
    · rcases List.mem_append.mp member with inside | last
      · exact UInt8.lt_of_le_of_lt (plain c inside).2 (by decide)
      · rw [List.mem_singleton.mp last]
        decide
  rw [unquote, encodeRunes_runes_ascii small]
  exact unquoteBody_plain plain

/-! Decimal digits. -/

/-- A decimal digit, by its value. -/
theorem digitChar_spec {n : Nat} (small : n < 10) :
    (0x30 ≤ UInt8.ofNat n.digitChar.toNat ∧ UInt8.ofNat n.digitChar.toNat ≤ 0x39) ∧
      (UInt8.ofNat n.digitChar.toNat).toNat - 0x30 = n := by
  have all : ∀ n : Fin 10, (0x30 ≤ UInt8.ofNat (Nat.digitChar n).toNat ∧
      UInt8.ofNat (Nat.digitChar n).toNat ≤ 0x39) ∧ (UInt8.ofNat (Nat.digitChar n).toNat).toNat - 0x30 = n.val := by
    decide
  exact all ⟨n, small⟩

/-- The digits of a number are those of its tenth and one more. -/
theorem digits_eq (n : Nat) : digits n = if n < 10 then [UInt8.ofNat n.digitChar.toNat]
    else digits (n / 10) ++ [UInt8.ofNat (n % 10).digitChar.toNat] := by
  rw [digits, Nat.toDigits_eq_if (by decide)]
  split
  · rfl
  · rw [List.map_append]
    rfl

/-- The digits of a number are decimal digits. -/
theorem digits_decimal {n : Nat} {c : UInt8} (member : c ∈ digits n) : 0x30 ≤ c ∧ c ≤ 0x39 := by
  induction n using Nat.strongRecOn with
  | _ n ih =>
    rw [digits_eq] at member
    split at member
    · next small =>
      rw [List.mem_singleton.mp member]
      exact (digitChar_spec small).1
    · next large =>
      rcases List.mem_append.mp member with earlier | last
      · exact ih (n / 10) (by omega) earlier
      · rw [List.mem_singleton.mp last]
        exact (digitChar_spec (Nat.mod_lt n (by decide))).1

/-- A number reads back from its digits. -/
theorem decimal_digits (n : Nat) : decimal (digits n) = some n := by
  induction n using Nat.strongRecOn with
  | _ n ih =>
    rw [digits_eq, decimal]
    split
    · next small =>
      obtain ⟨range, value⟩ := digitChar_spec small
      generalize UInt8.ofNat n.digitChar.toNat = c at range value ⊢
      simp [range, value]
    · next large =>
      obtain ⟨range, value⟩ := digitChar_spec (Nat.mod_lt n (by decide : 10 > 0))
      have tenth := ih (n / 10) (by omega)
      rw [decimal] at tenth
      rw [List.foldlM_append, tenth]
      generalize UInt8.ofNat (n % 10).digitChar.toNat = c at range value ⊢
      simp [range, value]
      omega

/-- Every number has a digit. -/
theorem digits_ne_nil (n : Nat) : digits n ≠ [] := by
  rw [digits_eq]
  split <;> simp

/-- A number that fits reads back as an integer. -/
theorem atoi_digits {n : Nat} (fits : n < 2 ^ 63) : atoi (digits n) = some (n : Int) := by
  have unsigned : ∀ c ∈ digits n, c ≠ 0x2B ∧ c ≠ 0x2D := by
    intro c member
    have range := digits_decimal member
    constructor <;> rintro rfl <;> exact absurd range (by decide)
  have range : -2 ^ 63 ≤ (n : Int) ∧ (n : Int) < 2 ^ 63 := by omega
  rw [atoi]
  · simp only [digits_ne_nil, if_false, decimal_digits, Bool.false_eq_true, if_pos range]
  · intro rest split
    exact (unsigned 0x2B (by simp [split])).1 rfl
  · intro rest split
    exact (unsigned 0x2D (by simp [split])).2 rfl

/-! Space around a text. -/

/-- Bytes that no encoding of a space starts or ends with. -/
def Dark (c : UInt8) : Bool :=
  GoString.spaces.all fun space => space.head? ≠ some c ∧ space.reverse.head? ≠ some c

/-- Nothing is cut off in front of a byte that none of the texts starts with. -/
theorem trimFront_of_head {texts : List GoString} (nonempty : ∀ text ∈ texts, text ≠ []) {c : UInt8}
    (other : ∀ text ∈ texts, text.head? ≠ some c) (fuel : Nat) (rest : GoString) :
    GoString.trimFront texts fuel (c :: rest) = c :: rest := by
  cases fuel with
  | zero => rfl
  | succ fuel =>
    have none : (texts.find? fun text => text.isPrefixOf (c :: rest)) = none := by
      rw [List.find?_eq_none]
      intro text member starts
      cases text with
      | nil => exact nonempty [] member rfl
      | cons first more =>
        rw [List.isPrefixOf_cons_cons, Bool.and_eq_true, beq_iff_eq] at starts
        exact other _ member (by simp [starts.1])
    rw [GoString.trimFront, none]

/-- No space is empty. -/
theorem spaces_nonempty : ∀ space ∈ GoString.spaces, space ≠ [] := by decide

/-- A text between two dark bytes is not trimmed. -/
theorem trimSpace_of_dark {first last : UInt8} (front : Dark first = true) (back : Dark last = true)
    {text middle : GoString} (starts : text = first :: middle) (ends : ∃ before, text = before ++ [last]) :
    trimSpace text = text := by
  -- No kind of white space starts or ends with the dark bytes.
  have heads : ∀ space ∈ GoString.spaces, space.head? ≠ some first := by
    intro space member
    have fact := List.all_eq_true.mp front space member
    simp only [decide_eq_true_eq] at fact
    exact fact.1
  have tails : ∀ space ∈ GoString.spaces.map List.reverse, space.head? ≠ some last := by
    intro space member
    obtain ⟨original, among, rfl⟩ := List.mem_map.mp member
    have fact := List.all_eq_true.mp back original among
    simp only [decide_eq_true_eq] at fact
    exact fact.2
  have nonempty : ∀ space ∈ GoString.spaces.map List.reverse, space ≠ [] := by decide
  obtain ⟨before, ends⟩ := ends
  have kept : GoString.trimFront GoString.spaces text.length text = text := by
    rw [starts]
    exact trimFront_of_head spaces_nonempty heads _ _
  simp only [trimSpace, kept]
  rw [ends, List.reverse_append, List.reverse_singleton, List.singleton_append, trimFront_of_head nonempty tails]
  simp

/-- A space in front of such a text is cut off. -/
theorem trimSpace_space {first last : UInt8} (front : Dark first = true) (back : Dark last = true)
    {text middle : GoString} (starts : text = first :: middle) (ends : ∃ before, text = before ++ [last]) :
    trimSpace (0x20 :: text) = text := by
  have heads : ∀ space ∈ GoString.spaces, space.head? ≠ some first := by
    intro space member
    have fact := List.all_eq_true.mp front space member
    simp only [decide_eq_true_eq] at fact
    exact fact.1
  have cut : GoString.trimFront GoString.spaces (0x20 :: text).length (0x20 :: text) = text := by
    have found : (GoString.spaces.find? fun space => space.isPrefixOf (0x20 :: text)) = some [0x20] := rfl
    rw [List.length_cons, GoString.trimFront, found]
    show GoString.trimFront GoString.spaces text.length text = text
    rw [starts]
    exact trimFront_of_head spaces_nonempty heads _ _
  have rest := trimSpace_of_dark front back starts ends
  have kept : GoString.trimFront GoString.spaces text.length text = text := by
    rw [starts]
    exact trimFront_of_head spaces_nonempty heads _ _
  simp only [trimSpace, kept] at rest
  simp only [trimSpace, cut]
  exact rest

/-! The round trip. -/

/-- The digits of a number start with a dark byte. -/
theorem digits_dark {n : Nat} {c : UInt8} (member : c ∈ digits n) : Dark c = true := by
  have all : ∀ n : Fin 10, Dark (UInt8.ofNat (0x30 + n)) = true := by decide
  obtain ⟨low, high⟩ := digits_decimal member
  have low := UInt8.le_iff_toNat_le.mp low
  have high := UInt8.le_iff_toNat_le.mp high
  have small : c.toNat - 0x30 < 10 := by
    have : (0x39 : UInt8).toNat = 0x39 := rfl
    omega
  have same := all ⟨c.toNat - 0x30, small⟩
  have back : 0x30 + (c.toNat - 0x30) = c.toNat := by
    have : (0x30 : UInt8).toNat = 0x30 := rfl
    omega
  simpa only [back, UInt8.ofNat_toNat] using same

/-- The data that is written reads back. -/
theorem unmarshalData_marshalData {data : Bytes} (fits : (upperHex data).length < 2 ^ 63) :
    unmarshalData (marshalData data) = .ok data := by
  -- The comma behind the number is the first one.
  have comma : ∀ c ∈ digits (upperHex data).length, c ≠ 0x2C := by
    intro c member
    have range := digits_decimal member
    rintro rfl
    exact absurd range (by decide)
  have whole : marshalData data =
      digits (upperHex data).length ++ (0x2C :: (0x22 :: (upperHex data ++ [0x22]))) := by
    simp [marshalData]
  have field : (marshalData data).takeWhile (· ≠ 0x2C) = digits (upperHex data).length := by
    rw [whole, List.takeWhile_append_of_pos (by simpa using comma)]
    simp
  have rest : ((marshalData data).dropWhile (· ≠ 0x2C)).drop 1 = 0x22 :: (upperHex data ++ [0x22]) := by
    rw [whole, List.dropWhile_append_of_pos (by simpa using comma)]
    simp
  -- The number and the quoted digits have nothing to trim.
  obtain ⟨first, middle, split⟩ := List.exists_cons_of_ne_nil (digits_ne_nil (upperHex data).length)
  obtain ⟨before, last, ends⟩ := List.eq_nil_or_concat' (digits (upperHex data).length) |>.resolve_left (digits_ne_nil _)
  have number : trimSpace (digits (upperHex data).length) = digits (upperHex data).length :=
    trimSpace_of_dark (digits_dark (by simp [split] : first ∈ digits (upperHex data).length))
      (digits_dark (by simp [ends] : last ∈ digits (upperHex data).length)) split ⟨before, ends⟩
  have quoted : trimSpace (0x22 :: (upperHex data ++ [0x22])) = 0x22 :: (upperHex data ++ [0x22]) :=
    trimSpace_of_dark (by decide : Dark 0x22 = true) (by decide : Dark 0x22 = true) rfl
      ⟨0x22 :: upperHex data, by simp⟩
  have present : (0x2C : UInt8) ∈ marshalData data := by simp [whole]
  have unquoted := unquote_plain fun c (member : c ∈ upperHex data) => upperHex_plain member
  rw [unmarshalData, if_pos present, field, rest]
  simp only [number, atoi_digits fits]
  rw [if_neg (by omega)]
  simp only [decodeData, quoted, unquoteData, List.head?_cons, if_true, unquoted, hexDecode_upperHex]
  simp

/-- A text without a line feed is one line. -/
theorem splitLines_of_no_feed {text : GoString} (single : ∀ c ∈ text, c ≠ 0x0A) : splitLines text = [text] := by
  induction text with
  | nil => rfl
  | cons c rest ih =>
    rw [splitLines, if_neg (single c (by simp)), ih fun c member => single c (by simp [member])]

/-- No written data has a line feed. -/
theorem marshalData_no_feed {data : Bytes} {c : UInt8} (member : c ∈ marshalData data) : c ≠ 0x0A := by
  rintro rfl
  simp only [marshalData, List.mem_append, List.mem_cons, List.not_mem_nil, or_false] at member
  rcases member with ((number | comma | quote) | digit) | quote
  · -- The length is decimal.
    exact absurd (digits_decimal number) (by decide)
  · exact absurd comma (by decide)
  · exact absurd quote (by decide)
  · -- The bytes are in hexadecimal digits.
    exact absurd (upperHex_plain digit) (by decide)
  · exact absurd quote (by decide)

/-- The answer that a modem writes for some bytes. -/
def csimLine (data : Bytes) : GoString := ascii "+CSIM: " ++ marshalData data

/-- The answer is read as the bytes it was written for. -/
theorem unmarshalResponse_csimLine {data : Bytes} (fits : (upperHex data).length < 2 ^ 63) :
    unmarshalResponse (csimLine data) = .ok data := by
  -- The answer is one line that starts with its name and ends in a quote.
  obtain ⟨first, middle, split⟩ := List.exists_cons_of_ne_nil (digits_ne_nil (upperHex data).length)
  have starts : marshalData data = first :: (middle ++ [0x2C, 0x22] ++ upperHex data ++ [0x22]) := by
    simp [marshalData, split]
  have dark : Dark first = true := digits_dark (by simp [split] : first ∈ digits (upperHex data).length)
  have quote : Dark 0x22 = true := by decide
  have single : splitLines (csimLine data) = [csimLine data] := by
    apply splitLines_of_no_feed
    intro c member
    rcases List.mem_append.mp member with front | body
    · have none : ∀ c ∈ ascii "+CSIM: ", c ≠ 0x0A := by decide +kernel
      exact none c front
    · exact marshalData_no_feed body
  have kept : trimSpace (csimLine data) = csimLine data :=
    trimSpace_of_dark (by decide : Dark 0x2B = true) quote rfl
      ⟨ascii "+CSIM: " ++ (digits (upperHex data).length ++ [0x2C, 0x22] ++ upperHex data), by
        simp [csimLine, marshalData]⟩
  have body : cutPrefix (csimLine data) csimPrefix = some (0x20 :: marshalData data) := rfl
  have trimmed : trimSpace (0x20 :: marshalData data) = marshalData data :=
    trimSpace_space dark quote starts ⟨digits (upperHex data).length ++ [0x2C, 0x22] ++ upperHex data, rfl⟩
  have found : ([csimLine data].findSome? fun line => cutPrefix (trimSpace line) csimPrefix) =
      some (0x20 :: marshalData data) := by
    rw [List.findSome?_cons, kept, body]
  rw [unmarshalResponse, single, found]
  simp only [trimmed, unmarshalBody, unmarshalData_marshalData fits]
  rfl

end Wwan.At
