import Wwan.Lib.Go

/-! UTF-8 as the Go language reads it: ranging over a string, validity, and rune conversion. -/

namespace Wwan.Utf8

/-- The rune an invalid byte reads as, `utf8.RuneError`. -/
def runeError : Char := '\uFFFD'

/-- A number that is a scalar value is the number of its rune. -/
theorem toNat_ofNat {n : Nat} (scalar : n.isValidChar) : (Char.ofNat n).toNat = n := by
  rw [Char.ofNat, dif_pos scalar]
  rfl

/-- The UTF-8 bytes of a rune, as written by `strings.Builder.WriteRune`. -/
def encodeRune (r : Char) : Bytes := String.utf8EncodeChar r

/-- The string conversion `string(runes)`. -/
def encodeRunes (rs : List Char) : GoString := rs.flatMap encodeRune

/-- The rune a well-formed string starts with, if its first bytes encode one. -/
def decodeRune? (s : GoString) : Option Char :=
  -- The standard decoder rejects overlong forms, surrogates, and truncated sequences.
  s.toByteArray.utf8DecodeChar? 0

/-- The runes visited by `for _, r := range s`. -/
def runes (s : GoString) : List Char :=
  match s with
  | [] => []
  | b :: rest =>
    -- An invalid byte yields the error rune and advances by a single byte.
    match decodeRune? (b :: rest) with
    | some r => r :: runes (rest.drop (r.utf8Size - 1))
    | none => runeError :: runes rest
termination_by s.length
decreasing_by all_goals simp_all; try omega

/-- The predicate `utf8.ValidString`. -/
def validString (s : GoString) : Bool :=
  match s with
  | [] => true
  | b :: rest =>
    -- Validity stops at the first byte that starts no well-formed rune.
    match decodeRune? (b :: rest) with
    | some r => validString (rest.drop (r.utf8Size - 1))
    | none => false
termination_by s.length
decreasing_by simp_all; try omega

/-- Encoding a rune sequence appends the runes' own encodings. -/
@[simp] theorem encodeRunes_nil : encodeRunes [] = [] := rfl

/-- The first rune's bytes come first. -/
@[simp] theorem encodeRunes_cons (r : Char) (rs : List Char) :
    encodeRunes (r :: rs) = encodeRune r ++ encodeRunes rs := by
  simp [encodeRunes]

/-- Encoding distributes over concatenation. -/
@[simp] theorem encodeRunes_append (xs ys : List Char) :
    encodeRunes (xs ++ ys) = encodeRunes xs ++ encodeRunes ys := by
  simp [encodeRunes]

/-- The string of divided runes is the strings of the groups joined. -/
theorem encodeRunes_flatten (groups : List (List Char)) :
    encodeRunes groups.flatten = groups.flatMap encodeRunes := by
  induction groups with
  | nil => rfl
  | cons group groups ih => simp [ih]

/-- No rune has an empty encoding. -/
theorem encodeRune_length (r : Char) : (encodeRune r).length = r.utf8Size :=
  String.length_utf8EncodeChar r

/-- A string that starts with a rune's encoding decodes that rune first. -/
theorem decodeRune?_encodeRune_append (r : Char) (rest : GoString) :
    decodeRune? (encodeRune r ++ rest) = some r := by
  rw [decodeRune?, List.toByteArray_append]
  exact ByteArray.utf8DecodeChar?_utf8EncodeChar_append

/-- A decoded rune's encoding is exactly the bytes the decoder consumed. -/
theorem eq_encodeRune_append {s : GoString} {r : Char} (decoded : decodeRune? s = some r) :
    s = encodeRune r ++ s.drop r.utf8Size := by
  -- Compare the underlying byte arrays, where the decoder's inverse law is stated.
  have whole := ByteArray.eq_of_utf8DecodeChar?_eq_some decoded
  have lists := congrArg (fun b : ByteArray => b.data.toList) whole
  simp only [List.data_toByteArray, ByteArray.data_append, ByteArray.data_extract,
    Array.toList_append, Array.toList_extract, List.toList_toArray, List.extract_eq_take_drop,
    List.size_toByteArray] at lists
  conv_lhs => rw [lists]
  rw [List.take_of_length_le (by simp)]
  rfl

/-- The bytes after a decoded first rune are those beyond its encoding. -/
private theorem drop_decoded (b : UInt8) (rest : GoString) (r : Char) :
    rest.drop (r.utf8Size - 1) = (b :: rest).drop r.utf8Size := by
  -- Every rune takes at least one byte, and the first one is the byte already split off.
  obtain ⟨size, exact⟩ : ∃ size, r.utf8Size = size + 1 :=
    ⟨r.utf8Size - 1, by have := r.utf8Size_pos; omega⟩
  simp [exact]

/-- Every rune's encoding has a first byte, followed by one byte fewer than its size. -/
private theorem encodeRune_eq_cons (r : Char) :
    ∃ b bs, encodeRune r = b :: bs ∧ bs.length = r.utf8Size - 1 := by
  have size := encodeRune_length r
  have positive := r.utf8Size_pos
  cases encoded : encodeRune r with
  | nil => simp [encoded] at size; omega
  | cons b bs => exact ⟨b, bs, rfl, by simp [encoded] at size; omega⟩

/-- Ranging over a string that starts with an encoded rune visits that rune first. -/
theorem runes_encodeRune_append (r : Char) (rest : GoString) :
    runes (encodeRune r ++ rest) = r :: runes rest := by
  -- The encoding is nonempty, so the decoder is consulted at its first byte.
  have decoded := decodeRune?_encodeRune_append r rest
  obtain ⟨b, bs, encoded, size⟩ := encodeRune_eq_cons r
  rw [encoded, List.cons_append] at decoded ⊢
  rw [runes, decoded]
  simp only [← size, List.drop_left]

/-- Ranging over converted runes visits exactly those runes. -/
@[simp] theorem runes_encodeRunes (rs : List Char) : runes (encodeRunes rs) = rs := by
  induction rs with
  | nil => rw [encodeRunes_nil, runes]
  | cons r rs ih => rw [encodeRunes_cons, runes_encodeRune_append, ih]

/-- The conversion of runes is valid. -/
@[simp] theorem validString_encodeRunes (rs : List Char) : validString (encodeRunes rs) = true := by
  induction rs with
  | nil => rw [encodeRunes_nil, validString]
  | cons r rs ih =>
    -- The first rune is decoded from its own encoding, and the others follow.
    have decoded := decodeRune?_encodeRune_append r (encodeRunes rs)
    obtain ⟨b, bs, encoded, size⟩ := encodeRune_eq_cons r
    rw [encodeRunes_cons, encoded, List.cons_append]
    rw [encoded, List.cons_append] at decoded
    rw [validString, decoded]
    simp only [← size, List.drop_left, ih]

/-- A string whose range loop meets no error rune is the conversion of its runes. -/
theorem encodeRunes_runes {s : GoString} (clean : runeError ∉ runes s) :
    encodeRunes (runes s) = s := by
  -- The induction follows the range loop, where only the invalid branch writes an error rune.
  induction s using runes.induct with
  | case1 => rw [runes, encodeRunes_nil]
  | case2 b rest r decoded ih =>
    rw [runes, decoded] at clean ⊢
    simp only [List.mem_cons, not_or] at clean
    rw [encodeRunes_cons, ih clean.2, drop_decoded b]
    exact (eq_encodeRune_append decoded).symm
  | case3 b rest invalid ih =>
    rw [runes, invalid] at clean
    simp at clean

/-- Valid strings are exactly the conversions of rune sequences. -/
theorem encodeRunes_runes_of_valid {s : GoString} (valid : validString s = true) :
    encodeRunes (runes s) = s := by
  -- Validity rules the error branch out at every position the loop visits.
  induction s using runes.induct with
  | case1 => rw [runes, encodeRunes_nil]
  | case2 b rest r decoded ih =>
    rw [validString, decoded] at valid
    rw [runes, decoded]
    rw [encodeRunes_cons, ih valid, drop_decoded b]
    exact (eq_encodeRune_append decoded).symm
  | case3 b rest invalid ih =>
    rw [validString, invalid] at valid
    simp at valid

end Wwan.Utf8
