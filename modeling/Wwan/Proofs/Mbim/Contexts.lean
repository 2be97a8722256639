import Wwan.Mbim.Contexts
import Wwan.Proofs.Mbim.Nssai
import Wwan.Proofs.Mbim.Wire

/-! Lists of contexts, attach configurations and providers are read back as long as their offsets do not wrap. -/

namespace Wwan.Mbim

open LittleEndian (putUint32)

/-! Fields and strings of records. -/

/-- The bytes of words are four for each. -/
@[simp] theorem putUint32_flatMap_length (words : List UInt32) : (words.flatMap putUint32).length = 4 * words.length := by
  induction words with
  | nil => rfl
  | cons word words ih =>
    rw [List.flatMap_cons, List.length_append, ih, LittleEndian.putUint32_length, List.length_cons]
    omega

/-- A word is read from where it stands among others. -/
theorem uint32Field_words {data front tail : Bytes} {words : List UInt32} {offset : Nat} (i : Nat) {word : UInt32}
    (shape : data = front ++ (words.flatMap putUint32 ++ tail)) (there : words[i]? = some word)
    (placed : front.length + 4 * i = offset) : uint32Field data offset = .ok word := by
  obtain ⟨inside, same⟩ := List.getElem?_eq_some_iff.mp there
  -- The words before it belong to the front.
  have split : words = words.take i ++ (word :: words.drop (i + 1)) := by
    rw [← same, ← List.drop_eq_getElem_cons inside, List.take_append_drop]
  have around : data = (front ++ (words.take i).flatMap putUint32) ++ (putUint32 word ++
      ((words.drop (i + 1)).flatMap putUint32 ++ tail)) := by
    rw [shape]
    conv_lhs => rw [split]
    simp only [List.flatMap_append, List.flatMap_cons, List.append_assoc]
  have place : (front ++ (words.take i).flatMap putUint32).length = offset := by
    rw [List.length_append, putUint32_flatMap_length, List.length_take]
    omega
  -- Its four bytes are the window that the decoder reads.
  have window : (Go.slice data offset (offset + 4) : Go Error Bytes) = .ok (putUint32 word) :=
    Go.slice_between _ around place rfl
  rw [uint32Field, window, Go.ok_bind]
  have read := LittleEndian.getUint32_putUint32 (ε := Error) word []
  rwa [List.append_nil] at read

/-- The size in a reference to a value is the value's. -/
theorem refTo_size (start : Nat) (value : Bytes) : (refTo start value).size = uint32Length value := by
  rw [refTo]
  by_cases empty : value.length = 0
  · rw [if_pos empty, uint32Length, empty]
    rfl
  · rw [if_neg empty]

/-- A string is read from the reference to its bytes. -/
theorem Refers.utf16String {base : Bytes} {r : ValueRef} {s : GoString} (refers : Refers base r (utf16Bytes s))
    (short : base.length < 2 ^ 32) (valid : Utf8.validString s = true) : Mbim.utf16String base r = .ok s := by
  have read := utf16RawString_utf16Bytes valid
  have checked := refers.validate short
  have bytes := refers.bytes short
  rw [Mbim.utf16String, checked, Go.ok_bind]
  rcases refers with ⟨empty, rfl⟩ | ⟨some, before, after, shape, behind, rfl⟩
  · -- Only the empty string takes no bytes.
    rw [empty] at read
    rw [if_pos rfl, ← read]
    rfl
  · -- A string that is not empty has a size, and so a place.
    obtain ⟨-, size⟩ := fields short shape
    have positive := List.length_pos_iff.mpr some
    have nonzero : ¬ uint32Length (utf16Bytes s) = 0 := by
      intro zero
      rw [zero] at size
      simp only [UInt32.reduceToNat] at size
      omega
    rw [ValueRef.bytes, if_neg fun both => nonzero both.2] at bytes
    rw [if_neg nonzero, bytes, Go.ok_bind, read]

/-- The strings of references are the strings whose bytes they refer to. -/
theorem readStrings_refers (context : String) {base : Bytes} {refs : List ValueRef} {strings : List GoString} (i : Nat)
    (short : base.length < 2 ^ 32) (valid : ∀ s ∈ strings, Utf8.validString s = true)
    (refers : List.Forall₂ (Refers base) refs (strings.map utf16Bytes)) :
    readStrings context base i refs = .ok strings := by
  -- The induction is on the strings, each with its reference.
  induction strings generalizing refs i with
  | nil =>
    rw [List.map_nil, List.forall₂_nil_right_iff] at refers
    rw [refers, readStrings]
  | cons s strings ih =>
    rw [List.map_cons, List.forall₂_cons_right_iff] at refers
    obtain ⟨r, others, first, rest, rfl⟩ := refers
    rw [List.forall_mem_cons] at valid
    rw [readStrings, first.utf16String short valid.1, Go.mapError_ok, Go.ok_bind, ih (i + 1) valid.2 rest]
    rfl

/-- References to values of whole code units that follow one another pass the check of strings. -/
theorem validateUTF16Loop_refsTo {base before after : Bytes} {values : List Bytes} (previousEnd : UInt32)
    (sawString : Bool) (short : base.length < 2 ^ 32) (shape : base = before ++ (area values ++ after))
    (behind : before ≠ []) (even : ∀ value ∈ values, value.length % 2 = 0) (ended : previousEnd.toNat ≤ before.length) :
    validateUTF16Loop base previousEnd sawString (refsTo before.length values) = .ok () := by
  -- The end of the last string is no further than the place of the next value.
  induction values generalizing before previousEnd sawString with
  | nil => rfl
  | cons value values ih =>
    obtain ⟨first, -⟩ := List.forall₂_cons.mp (refers_refsTo shape behind)
    rw [List.forall_mem_cons] at even
    -- The place of the next value is behind this one.
    have split : base = (before ++ padTo4Bytes value) ++ (area values ++ after) := by
      rw [shape, area, List.flatMap_cons]
      simp only [List.append_assoc, area]
    have up := le_align4 value.length
    have total : base.length = before.length + align4 value.length + ((area values).length + after.length) := by
      rw [split, List.length_append, List.length_append, List.length_append, padTo4Bytes_length]
    have rest (previousEnd : UInt32) (sawString : Bool) (ended : previousEnd.toNat ≤ before.length + align4 value.length) :
        validateUTF16Loop base previousEnd sawString (refsTo (before.length + align4 value.length) values) = .ok () := by
      have later := ih previousEnd sawString split (by simp [behind]) even.2
        (by rw [List.length_append, padTo4Bytes_length]; exact ended)
      rwa [List.length_append, padTo4Bytes_length] at later
    have fits : value.length < 2 ^ 32 := by omega
    have size := toNat_uint32Length fits
    have whole : ¬ (refTo before.length value).size % 2 ≠ 0 := by
      rw [refTo_size, not_not, ← UInt32.toNat_inj, UInt32.toNat_mod, size]
      exact even.1
    rw [refsTo, validateUTF16Loop, first.validate short, Go.ok_bind, Go.failIf_bind_of_not whole]
    -- An empty string has no place, and is skipped.
    by_cases none : (refTo before.length value).offset = 0
    · rw [if_pos none]
      exact rest previousEnd sawString (by omega)
    · -- A string stands at the place of the next value.
      have some : ¬ value.length = 0 := fun empty => none (by rw [refTo, if_pos empty])
      have made : refTo before.length value = ⟨UInt32.ofNat before.length, uint32Length value⟩ := by
        rw [refTo, if_neg some]
      have offset : (UInt32.ofNat before.length).toNat = before.length :=
        UInt32.toNat_ofNat_of_lt' (by simp only [UInt32.size]; omega)
      have ordered : ¬ (sawString ∧ (refTo before.length value).offset < previousEnd) := by
        rintro ⟨-, earlier⟩
        rw [made, UInt32.lt_iff_toNat_lt, offset] at earlier
        omega
      rw [if_neg none, Go.failIf_bind_of_not ordered]
      apply rest
      rw [made, UInt32.toNat_add, offset, size]
      omega

/-- Strings behind the fixed part of a record fill the record and are read back. -/
theorem record_strings (context : String) {base front : Bytes} {strings : List GoString} {dataStart : UInt32}
    (short : base.length < 2 ^ 32) (shape : base = front ++ area (strings.map utf16Bytes)) (behind : front ≠ [])
    (aligned : front.length % 4 = 0) (start : dataStart.toNat = front.length)
    (valid : ∀ s ∈ strings, Utf8.validString s = true) :
    validateRecordDataBufferRefs base dataStart (refsTo front.length (strings.map utf16Bytes)) = .ok () ∧
    validateUTF16Refs base (refsTo front.length (strings.map utf16Bytes)) = .ok () ∧
    readStrings context base 0 (refsTo front.length (strings.map utf16Bytes)) = .ok strings := by
  have open' : base = front ++ (area (strings.map utf16Bytes) ++ []) := by rw [List.append_nil, shape]
  refine ⟨?_, ?_, ?_⟩
  · -- The references reach to the end of the record.
    obtain ⟨last, ends⟩ := dataBufferEnds_refsTo short shape behind aligned start
    rw [validateRecordDataBufferRefs, ends, Go.ok_bind, if_pos (.inr rfl)]
    rfl
  · -- They name whole units, one string behind the other.
    refine validateUTF16Loop_refsTo 0 false short open' behind (fun value member => ?_) (Nat.zero_le _)
    obtain ⟨s, -, rfl⟩ := List.mem_map.mp member
    rw [utf16Bytes_length]
    omega
  · -- And they are where the strings are.
    exact readStrings_refers context 0 short valid (refers_refsTo open' behind)

/-- Three strings of allowed sizes pass the check of sizes. -/
theorem validateContextStringRefSizes_refsTo (start : Nat) {a b c : Bytes} (first : a.length ≤ accessStringMaximumSize)
    (second : b.length ≤ userNameMaximumSize) (third : c.length ≤ passwordMaximumSize) :
    validateContextStringRefSizes (refsTo start [a, b, c]) = .ok () := by
  have passes {value : Bytes} {limit : Nat} (fits : value.length ≤ limit) (small : limit < 2 ^ 32) (place : Nat) :
      ¬ (refTo place value).size > UInt32.ofNat limit := by
    rw [refTo_size, gt_iff_lt, UInt32.not_lt, UInt32.le_iff_toNat_le, toNat_uint32Length (by omega),
      UInt32.toNat_ofNat_of_lt' small]
    exact fits
  simp only [validateContextStringRefSizes, validateSizes, refsTo, Go.index, List.getElem?_cons_zero,
    List.getElem?_cons_succ, Go.ok_bind]
  rw [Go.failIf_bind_of_not (passes first (by decide) _), Go.failIf_bind_of_not (passes second (by decide) _),
    Go.failIf_bind_of_not (passes third (by decide) _)]

/-- Three values that are appended behind their fields are entered in them. -/
theorem appendRefValue_three {before after : Bytes} {fieldOffset : Nat} (placed : before.length = fieldOffset)
    (aligned : (before.length + 24 + after.length) % 4 = 0) (a b c : Bytes) :
    appendRefValue (appendRefValue (appendRefValue (before ++ (List.replicate 24 0 ++ after)) fieldOffset a)
        (fieldOffset + 8) b) (fieldOffset + 16) c =
      before ++ ((refsTo (before.length + 24 + after.length) [a, b, c]).flatMap ValueRef.encode ++
        (after ++ area [a, b, c])) := by
  have split : before ++ (List.replicate 24 0 ++ after) =
      before ++ (List.replicate 8 0 ++ (List.replicate 16 (0 : UInt8) ++ after)) := by
    rw [← List.append_assoc (List.replicate 8 0), ← List.replicate_add]
  obtain ⟨start, total⟩ : ∃ start, start = before.length + 24 + after.length := ⟨_, rfl⟩
  rw [← total] at aligned ⊢
  have rounded (value : Bytes) := align4_mod value.length
  -- The first value is entered; its reference joins the front, its bytes what follows.
  have one : appendRefValue (before ++ (List.replicate 24 0 ++ after)) fieldOffset a =
      (before ++ (refTo start a).encode) ++ (List.replicate 8 0 ++ (List.replicate 8 0 ++ (after ++ padTo4Bytes a))) := by
    have place : before.length + 8 + (List.replicate 16 (0 : UInt8) ++ after).length = start := by
      rw [List.length_append, List.length_replicate]
      omega
    rw [split, appendRefValue_append placed (by rw [place]; exact aligned), place]
    have halves : List.replicate 16 (0 : UInt8) = List.replicate 8 0 ++ List.replicate 8 0 := rfl
    rw [halves]
    simp only [List.append_assoc]
  -- The second follows, behind the first.
  have two : appendRefValue ((before ++ (refTo start a).encode) ++ (List.replicate 8 0 ++ (List.replicate 8 0 ++
        (after ++ padTo4Bytes a)))) (fieldOffset + 8) b =
      (before ++ (refTo start a).encode ++ (refTo (start + align4 a.length) b).encode) ++ (List.replicate 8 0 ++
        (after ++ (padTo4Bytes a ++ padTo4Bytes b))) := by
    have place : (before ++ (refTo start a).encode).length + 8 + (List.replicate 8 (0 : UInt8) ++
        (after ++ padTo4Bytes a)).length = start + align4 a.length := by
      simp only [List.length_append, List.length_replicate, ValueRef.encode_length, padTo4Bytes_length]
      omega
    rw [appendRefValue_append (by rw [List.length_append, placed]; rfl) (by rw [place]; have := rounded a; omega), place]
    simp only [List.append_assoc]
  -- And the third, behind both.
  have three : appendRefValue ((before ++ (refTo start a).encode ++ (refTo (start + align4 a.length) b).encode) ++
        (List.replicate 8 0 ++ (after ++ (padTo4Bytes a ++ padTo4Bytes b)))) (fieldOffset + 16) c =
      (before ++ (refTo start a).encode ++ (refTo (start + align4 a.length) b).encode) ++
        ((refTo (start + align4 a.length + align4 b.length) c).encode ++
          (after ++ (padTo4Bytes a ++ padTo4Bytes b) ++ padTo4Bytes c)) := by
    have place : (before ++ (refTo start a).encode ++ (refTo (start + align4 a.length) b).encode).length + 8 +
        (after ++ (padTo4Bytes a ++ padTo4Bytes b)).length = start + align4 a.length + align4 b.length := by
      simp only [List.length_append, ValueRef.encode_length, padTo4Bytes_length]
      omega
    rw [appendRefValue_append (by rw [List.length_append, List.length_append, placed]; rfl)
      (by rw [place]; have := rounded a; have := rounded b; omega), place]
  rw [one, two, three]
  simp only [refsTo, area, List.flatMap_cons, List.flatMap_nil, List.append_assoc, List.append_nil]

/-- Three references that stand one behind the other are read. -/
theorem readStringRefs_three {context : String} {data before after : Bytes} {r s t : ValueRef} {a b c : UInt32}
    (short : data.length < 2 ^ 32) (shape : data = before ++ ([r, s, t].flatMap ValueRef.encode ++ after))
    (first : before.length = a.toNat) (second : before.length + 8 = b.toNat) (third : before.length + 16 = c.toNat) :
    readStringRefs context data 0 [a, b, c] = .ok [r, s, t] := by
  -- Each reference stands behind the one before it.
  have one : readOffsetSizeRef data a = .ok r := by
    have around : data = before ++ (r.encode ++ (s.encode ++ (t.encode ++ after))) := by
      rw [shape]
      simp
    exact readOffsetSizeRef_append short around first
  have two : readOffsetSizeRef data b = .ok s := by
    have around : data = (before ++ r.encode) ++ (s.encode ++ (t.encode ++ after)) := by
      rw [shape]
      simp
    exact readOffsetSizeRef_append short around (by simpa using second)
  have three : readOffsetSizeRef data c = .ok t := by
    have around : data = (before ++ (r.encode ++ s.encode)) ++ (t.encode ++ after) := by
      rw [shape]
      simp
    exact readOffsetSizeRef_append short around (by simpa using third)
  simp only [readStringRefs, one, two, three, Go.mapError_ok, Go.ok_bind]
  rfl

/-- The strings of a context behind the fixed part of its record are accepted and read back. -/
theorem contextStrings_refsTo (context : String) {base front : Bytes} {a b c : GoString} {dataStart : UInt32}
    (short : base.length < 2 ^ 32) (shape : base = front ++ area [utf16Bytes a, utf16Bytes b, utf16Bytes c])
    (behind : front ≠ []) (aligned : front.length % 4 = 0) (start : dataStart.toNat = front.length)
    (valid : ∀ s ∈ [a, b, c], Utf8.validString s = true) (first : (utf16Bytes a).length ≤ accessStringMaximumSize)
    (second : (utf16Bytes b).length ≤ userNameMaximumSize) (third : (utf16Bytes c).length ≤ passwordMaximumSize) :
    validateRecordContextStringRefs base dataStart (refsTo front.length [utf16Bytes a, utf16Bytes b, utf16Bytes c]) =
      .ok () ∧
    readStrings context base 0 (refsTo front.length [utf16Bytes a, utf16Bytes b, utf16Bytes c]) = .ok [a, b, c] := by
  -- The strings are read like those of any record, once their sizes are checked.
  have listed : base = front ++ area ([a, b, c].map utf16Bytes) := shape
  obtain ⟨filled, units, read⟩ := record_strings context short listed behind aligned start valid
  have sizes := validateContextStringRefSizes_refsTo front.length first second third
  simp only [List.map_cons, List.map_nil] at filled units read
  rw [validateRecordContextStringRefs, sizes, Go.ok_bind, filled, Go.ok_bind]
  exact ⟨units, read⟩

/-! Lists of records. -/

/-- The slice that a reference cuts out is the value it refers to. -/
theorem Refers.slice {base value : Bytes} {r : ValueRef} (refers : Refers base r value) (short : base.length < 2 ^ 32) :
    (Go.slice base r.offset.toNat (r.offset + r.size).toNat : Go Error Bytes) = .ok value := by
  obtain ⟨inside, -⟩ := ValueRef.validate_eq_ok (refers.validate short)
  have long := uint32Length_le base
  have bytes := refers.bytes short
  rw [ValueRef.bytes_of_validate (refers.validate short)] at bytes
  rw [toNat_add_of_le inside, Go.slice_eq_ok (by omega) (by omega), Nat.add_sub_cancel_left]
  exact bytes

section

variable {α β : Type} {element : Bytes → ValueRef → Go Error Bytes} {decode : Bytes → Go Error β} {encode : α → Bytes}
  {normal : α → β} {xs : List α}

/-- Records that are found and parsed one by one are parsed in order. -/
theorem decodeElements_refers {context : String} {data : Bytes} {refs : List ValueRef} (i : Nat)
    (found : ∀ r value, Refers data r value → element data r = .ok value)
    (each : ∀ x ∈ xs, decode (encode x) = .ok (normal x))
    (refers : List.Forall₂ (Refers data) refs (xs.map encode)) :
    decodeElements context (element data) decode i refs = .ok (xs.map normal) := by
  -- The induction is on the elements, each with its reference.
  induction xs generalizing refs i with
  | nil =>
    rw [List.map_nil, List.forall₂_nil_right_iff] at refers
    rw [refers, decodeElements, List.map_nil]
  | cons x xs ih =>
    rw [List.map_cons, List.forall₂_cons_right_iff] at refers
    obtain ⟨r, others, first, rest, rfl⟩ := refers
    rw [List.forall_mem_cons] at each
    rw [decodeElements, found r _ first, Go.ok_bind, each.1, Go.mapError_ok, Go.ok_bind, ih (i + 1) each.2 rest]
    rfl

/-- A count takes a multiple of four bytes. -/
theorem putUint32_aligned (count : UInt32) : (putUint32 count).length % 4 = 0 := by
  rw [LittleEndian.putUint32_length]

/-- The length of a list of records in its table. -/
theorem marshalElements_length (elements : List Bytes) :
    (marshalElements elements).length = 4 + (elements.map fun element => 8 + align4 element.length).sum := by
  have sum : (elements.map fun element => 8 + align4 element.length).sum =
      elements.length * 8 + (elements.map fun element => align4 element.length).sum := by
    induction elements with
    | nil => rfl
    | cons element elements ih =>
      simp only [List.map_cons, List.sum_cons, List.length_cons, ih]
      omega
  rw [marshalElements, appendOffsetSizeElements_length (putUint32_aligned _), tableLength, LittleEndian.putUint32_length, sum]
  omega

/-- A list of records is read back exactly when its offsets do not wrap. -/
theorem unmarshalElements_marshalElements (normal : α → β) {what item : String}
    (found : ∀ data r value, data.length < 2 ^ 32 → Refers data r value → element data r = .ok value)
    (each : ∀ x ∈ xs, decode (encode x) = .ok (normal x)) :
    unmarshalElements what item element decode (marshalElements (xs.map encode)) = .ok (xs.map normal) ↔
      (marshalElements (xs.map encode)).length < 2 ^ 32 := by
  obtain ⟨data, shape⟩ : ∃ data, data = marshalElements (xs.map encode) := ⟨_, rfl⟩
  rw [← shape]
  constructor
  · -- An accepted table is never too long.
    intro read
    rw [unmarshalElements, Go.unit_bind_eq_ok, Go.bind_eq_ok] at read
    obtain ⟨-, count, -, read⟩ := read
    rw [Go.bind_eq_ok] at read
    obtain ⟨refs, accepted, -⟩ := read
    exact ((ensures_offsetSizeRefs data 4 count).2 refs (Go.mapError_eq_ok.mp accepted)).2.2.short
  · -- A table that is short enough is read back.
    intro short
    have size := marshalElements_length (xs.map encode)
    -- Its elements are fewer than its bytes, so that their number fits its field.
    have many : xs.length * 8 ≤ ((xs.map encode).map fun element => 8 + align4 element.length).sum := by
      rw [List.map_map]
      clear * -
      induction xs with
      | nil => simp
      | cons x xs ih =>
        simp only [List.map_cons, List.sum_cons, List.length_cons, Function.comp_apply]
        omega
    have counted : (UInt32.ofNat xs.length).toNat = xs.length := by
      apply UInt32.toNat_ofNat_of_lt'
      rw [← shape] at size
      simp only [UInt32.size]
      omega
    rw [marshalElements, List.length_map] at shape
    -- The number stands in front of the references, and these in front of the elements.
    have placed : data = [] ++ ([UInt32.ofNat xs.length].flatMap putUint32 ++
        ((refsTo (4 + xs.length * 8) (xs.map encode)).flatMap ValueRef.encode ++ area (xs.map encode))) := by
      rw [shape, appendOffsetSizeElements_eq (putUint32_aligned _), LittleEndian.putUint32_length, List.length_map]
      simp
    have long : ¬ data.length < 4 := by
      rw [placed]
      simp
    have accepted : offsetSizeRefs data 4 (UInt32.ofNat xs.length) = .ok (refsTo (4 + xs.length * 8) (xs.map encode)) := by
      have behind : (4 : UInt32).toNat = (putUint32 (UInt32.ofNat xs.length)).length := rfl
      have number : (UInt32.ofNat xs.length).toNat = (xs.map encode).length := by rw [counted, List.length_map]
      have table := offsetSizeRefs_refsTo short (putUint32_aligned _) shape behind number
      rwa [LittleEndian.putUint32_length, List.length_map] at table
    have refers := refers_elements (putUint32_aligned _) shape
    rw [LittleEndian.putUint32_length, List.length_map] at refers
    have count : uint32Field data 0 = .ok (UInt32.ofNat xs.length) := uint32Field_words 0 placed rfl rfl
    rw [unmarshalElements, Go.failIf_bind_of_not long, count, Go.ok_bind, accepted, Go.mapError_ok, Go.ok_bind]
    exact decodeElements_refers 0 (fun r value => found data r value short) each refers

/-- A list of records that are read back whole is read back exactly when its offsets do not wrap. -/
theorem unmarshalElements_recovered {what item : String} {decode : Bytes → Go Error α}
    (found : ∀ data r value, data.length < 2 ^ 32 → Refers data r value → element data r = .ok value)
    (each : ∀ x ∈ xs, decode (encode x) = .ok x) :
    unmarshalElements what item element decode (marshalElements (xs.map encode)) = .ok xs ↔
      (marshalElements (xs.map encode)).length < 2 ^ 32 := by
  rw [← unmarshalElements_marshalElements id found each, List.map_id]

/-- Records that are encoded one by one are encoded in order. -/
theorem encodeElements_map {context : String} {marshal : α → Go Error Bytes} (i : Nat)
    (each : ∀ x ∈ xs, marshal x = .ok (encode x)) : encodeElements context marshal i xs = .ok (xs.map encode) := by
  induction xs generalizing i with
  | nil => rfl
  | cons x xs ih =>
    rw [List.forall_mem_cons] at each
    rw [encodeElements, each.1, Go.mapError_ok, Go.ok_bind, ih (i + 1) each.2]
    rfl

end

/-! Attach configurations. -/

namespace LTEAttachConfiguration

/-- The strings of a configuration that passes its check are short enough. -/
theorem sizes_of_validate {c : LTEAttachConfiguration} (valid : c.validate = .ok ()) :
    (utf16Bytes c.accessString).length ≤ accessStringMaximumSize ∧
    (utf16Bytes c.userName).length ≤ userNameMaximumSize ∧ (utf16Bytes c.password).length ≤ passwordMaximumSize := by
  simp only [validate, Go.unit_bind_eq_ok, Go.failIf_eq_ok, Nat.not_lt] at valid
  exact valid.2.2.2.2.2

/-- The bytes of a configuration's record. -/
def record (c : LTEAttachConfiguration) : Bytes :=
  c.marshalStrings (utf16Bytes c.accessString) (utf16Bytes c.userName) (utf16Bytes c.password)

/-- The parts of a record: three words, the references, two words and the strings. -/
theorem record_eq (c : LTEAttachConfiguration) : c.record =
    [c.ipType, c.roaming, c.source].flatMap putUint32 ++
      ((refsTo 44 [utf16Bytes c.accessString, utf16Bytes c.userName, utf16Bytes c.password]).flatMap ValueRef.encode ++
        ([c.compression, c.authProtocol].flatMap putUint32 ++
          area [utf16Bytes c.accessString, utf16Bytes c.userName, utf16Bytes c.password])) := by
  -- The fixed part in front of the references takes twelve bytes.
  have placed : ([c.ipType, c.roaming, c.source].flatMap putUint32).length = 12 := by
    rw [putUint32_flatMap_length]
    rfl
  have total : ([c.ipType, c.roaming, c.source].flatMap putUint32).length + 24 +
      ([c.compression, c.authProtocol].flatMap putUint32).length = 44 := by
    rw [placed, putUint32_flatMap_length]
    rfl
  have entered := appendRefValue_three placed (by rw [total]) (utf16Bytes c.accessString) (utf16Bytes c.userName)
    (utf16Bytes c.password)
  rw [total] at entered
  rw [record, marshalStrings, fixedPart, List.append_assoc]
  exact entered

/-- A record takes its fixed part and the padded strings. -/
theorem record_length (c : LTEAttachConfiguration) : c.record.length =
    44 + align4 (utf16Bytes c.accessString).length + align4 (utf16Bytes c.userName).length +
      align4 (utf16Bytes c.password).length := by
  rw [record_eq]
  simp only [List.length_append, putUint32_flatMap_length, encode_flatMap_length, refsTo_length, area_length,
    List.map_cons, List.map_nil, List.sum_cons, List.sum_nil, List.length_cons, List.length_nil]
  omega

/-- A configuration is read back from its record. -/
theorem unmarshalBinary_record {c : LTEAttachConfiguration} (valid : c.validate = .ok ())
    (unicode : ∀ s ∈ [c.accessString, c.userName, c.password], Utf8.validString s = true) :
    unmarshalBinary c.record = .ok c := by
  obtain ⟨first, second, third⟩ := sizes_of_validate valid
  have shape := record_eq c
  have size := record_length c
  obtain ⟨data, made⟩ : ∃ data, data = c.record := ⟨_, rfl⟩
  rw [← made] at shape size ⊢
  -- The strings have their largest sizes, so that the record is short.
  have short : data.length < 2 ^ 32 := by
    unfold accessStringMaximumSize userNameMaximumSize passwordMaximumSize align4 at *
    omega
  have long : ¬ data.length < 44 := by omega
  obtain ⟨r, s, t, listed⟩ : ∃ r s t, refsTo 44 [utf16Bytes c.accessString, utf16Bytes c.userName,
      utf16Bytes c.password] = [r, s, t] := ⟨_, _, _, rfl⟩
  rw [listed] at shape
  have refs : readStringRefs "string %d reference" data 0 [12, 20, 28] = .ok [r, s, t] :=
    readStringRefs_three short shape rfl rfl rfl
  -- Everything in front of the strings is the fixed part.
  obtain ⟨front, fixed⟩ : ∃ front, front = [c.ipType, c.roaming, c.source].flatMap putUint32 ++
      ([r, s, t].flatMap ValueRef.encode ++ [c.compression, c.authProtocol].flatMap putUint32) := ⟨_, rfl⟩
  have frontSize : front.length = 44 := by
    rw [fixed]
    simp only [List.length_append, putUint32_flatMap_length, encode_flatMap_length, List.length_cons, List.length_nil]
  have behind : front ≠ [] := List.length_pos_iff.mp (by omega)
  have whole : data = front ++ area [utf16Bytes c.accessString, utf16Bytes c.userName, utf16Bytes c.password] := by
    rw [shape, fixed]
    simp only [List.append_assoc]
  have start : (44 : UInt32).toNat = front.length := by rw [frontSize]; rfl
  obtain ⟨accepted, strings⟩ := contextStrings_refsTo "decoding string %d" short whole behind (by rw [frontSize]) start
    unicode first second third
  rw [frontSize, listed] at accepted strings
  have found : lteAttachRecordStringRefs data 44 [12, 20, 28] = .ok [r, s, t] := by
    rw [lteAttachRecordStringRefs, refs, Go.ok_bind, accepted, Go.mapError_ok, Go.ok_bind]
    rfl
  -- The words in front of the references and behind them are read from their places.
  have leading : data = [] ++ ([c.ipType, c.roaming, c.source].flatMap putUint32 ++ ([r, s, t].flatMap ValueRef.encode ++
      ([c.compression, c.authProtocol].flatMap putUint32 ++
        area [utf16Bytes c.accessString, utf16Bytes c.userName, utf16Bytes c.password]))) := shape
  -- The decoder reads the words one by one.
  have ipType : uint32Field data 0 = .ok c.ipType := uint32Field_words 0 leading rfl rfl
  have roaming : uint32Field data 4 = .ok c.roaming := uint32Field_words 1 leading rfl rfl
  have source : uint32Field data 8 = .ok c.source := uint32Field_words 2 leading rfl rfl
  rw [← List.append_assoc] at shape
  have compression : uint32Field data 36 = .ok c.compression := uint32Field_words 0 shape rfl rfl
  have authProtocol : uint32Field data 40 = .ok c.authProtocol := uint32Field_words 1 shape rfl rfl
  -- With all of that the decoder is run, and its check is the one that was passed before.
  rw [unmarshalBinary, Go.failIf_bind_of_not long, found, Go.ok_bind, strings, Go.ok_bind, ipType, Go.ok_bind, roaming,
    Go.ok_bind, source, Go.ok_bind]
  simp only [Go.index, List.getElem?_cons_zero, List.getElem?_cons_succ, Go.ok_bind, compression, authProtocol, valid,
    Go.mapError_ok, Go.pure_eq]

end LTEAttachConfiguration

/-! Providers. -/

namespace Provider

/-- The strings of a provider that passes its check are short enough. -/
theorem sizes_of_validate {p : Provider} (valid : p.validate = .ok ()) :
    (utf16Bytes p.id).length ≤ 12 ∧ (utf16Bytes p.name).length ≤ 40 := by
  simp only [validate, validateProviderID, Go.unit_bind_eq_ok, Go.failIf_eq_ok, Nat.not_lt] at valid
  exact ⟨valid.1.1, valid.2.1⟩

/-- The parts of a record: the references with a word between them, three words and the strings. -/
theorem marshalRecord_eq (p : Provider) : p.marshalRecord =
    (refTo 32 (utf16Bytes p.id)).encode ++ ([p.state].flatMap putUint32 ++
      ((refTo (32 + align4 (utf16Bytes p.id).length) (utf16Bytes p.name)).encode ++
        ([p.cellularClass, p.rssi, p.errorRate].flatMap putUint32 ++ area [utf16Bytes p.id, utf16Bytes p.name]))) := by
  -- The first reference stands at the front of the record.
  obtain ⟨words, listed⟩ : ∃ words, words = [p.cellularClass, p.rssi, p.errorRate].flatMap putUint32 := ⟨_, rfl⟩
  have size : words.length = 12 := by
    rw [listed, putUint32_flatMap_length]
    rfl
  have rounded := align4_mod (utf16Bytes p.id).length
  have fixed : p.fixedPart = [] ++ (List.replicate 8 0 ++ (putUint32 p.state ++ (List.replicate 8 0 ++ words))) := by
    rw [fixedPart, ← listed]
    simp only [List.append_assoc, List.nil_append]
  have total : ([] : Bytes).length + 8 + (putUint32 p.state ++ (List.replicate 8 0 ++ words)).length = 32 := by
    simp [size]
  have alignedFirst : (([] : Bytes).length + 8 + (putUint32 p.state ++ (List.replicate 8 0 ++ words)).length) % 4 = 0 := by
    rw [total]
  have one := appendRefValue_append List.length_nil alignedFirst (utf16Bytes p.id)
  rw [total] at one
  -- The second reference has the first one and a word in front of it.
  have around : [] ++ ((refTo 32 (utf16Bytes p.id)).encode ++ ((putUint32 p.state ++ (List.replicate 8 0 ++ words)) ++
        padTo4Bytes (utf16Bytes p.id))) =
      ((refTo 32 (utf16Bytes p.id)).encode ++ putUint32 p.state) ++ (List.replicate 8 0 ++
        (words ++ padTo4Bytes (utf16Bytes p.id))) := by
    simp only [List.append_assoc, List.nil_append]
  have place : ((refTo 32 (utf16Bytes p.id)).encode ++ putUint32 p.state).length + 8 +
      (words ++ padTo4Bytes (utf16Bytes p.id)).length = 32 + align4 (utf16Bytes p.id).length := by
    simp only [List.length_append, ValueRef.encode_length, LittleEndian.putUint32_length, padTo4Bytes_length, size]
    omega
  have placed : ((refTo 32 (utf16Bytes p.id)).encode ++ putUint32 p.state).length = 12 := rfl
  have alignedSecond : (((refTo 32 (utf16Bytes p.id)).encode ++ putUint32 p.state).length + 8 +
      (words ++ padTo4Bytes (utf16Bytes p.id)).length) % 4 = 0 := by
    rw [place]
    omega
  -- The second is entered behind the first value.
  have two := appendRefValue_append placed alignedSecond (utf16Bytes p.name)
  rw [place] at two
  rw [marshalRecord, fixed, one, around, two, ← listed]
  simp only [area, List.flatMap_cons, List.flatMap_nil, List.append_assoc, List.append_nil]

/-- A record takes its fixed part and the padded strings. -/
theorem marshalRecord_length (p : Provider) : p.marshalRecord.length =
    32 + align4 (utf16Bytes p.id).length + align4 (utf16Bytes p.name).length := by
  rw [marshalRecord_eq]
  simp only [List.length_append, putUint32_flatMap_length, ValueRef.encode_length, area_length, List.map_cons,
    List.map_nil, List.sum_cons, List.sum_nil, List.length_cons, List.length_nil]
  omega

/-- A provider is read back from its record. -/
theorem unmarshalBinary_marshalRecord {p : Provider} (valid : p.validate = .ok ())
    (unicode : ∀ s ∈ [p.id, p.name], Utf8.validString s = true) : unmarshalBinary p.marshalRecord true = .ok p := by
  obtain ⟨first, second⟩ := sizes_of_validate valid
  have shape := marshalRecord_eq p
  have size := marshalRecord_length p
  obtain ⟨data, made⟩ : ∃ data, data = p.marshalRecord := ⟨_, rfl⟩
  rw [← made] at shape size ⊢
  -- Both strings are short, and so is the record.
  have short : data.length < 2 ^ 32 := by
    unfold align4 at size
    omega
  have long : ¬ data.length < 32 := by omega
  obtain ⟨r, idRef⟩ : ∃ r, r = refTo 32 (utf16Bytes p.id) := ⟨_, rfl⟩
  obtain ⟨s, nameRef⟩ : ∃ s, s = refTo (32 + align4 (utf16Bytes p.id).length) (utf16Bytes p.name) := ⟨_, rfl⟩
  have listed : refsTo 32 ([p.id, p.name].map utf16Bytes) = [r, s] := by rw [idRef, nameRef]; rfl
  rw [← idRef, ← nameRef] at shape
  -- The fields of the record stand behind what is in front of them.
  have leading : data = [] ++ (r.encode ++ ([p.state].flatMap putUint32 ++ (s.encode ++
      ([p.cellularClass, p.rssi, p.errorRate].flatMap putUint32 ++ area [utf16Bytes p.id, utf16Bytes p.name])))) := shape
  have middle : data = (r.encode ++ [p.state].flatMap putUint32) ++ (s.encode ++
      ([p.cellularClass, p.rssi, p.errorRate].flatMap putUint32 ++ area [utf16Bytes p.id, utf16Bytes p.name])) := by
    rw [shape, List.append_assoc]
  have trailing : data = (r.encode ++ [p.state].flatMap putUint32 ++ s.encode) ++
      ([p.cellularClass, p.rssi, p.errorRate].flatMap putUint32 ++ area [utf16Bytes p.id, utf16Bytes p.name]) := by
    rw [middle, List.append_assoc, List.append_assoc, List.append_assoc]
  have idFields : readOffsetSizeRef data 0 = .ok r := readOffsetSizeRef_append short leading rfl
  have nameFields : readOffsetSizeRef data 12 = .ok s := readOffsetSizeRef_append short middle rfl
  have state : uint32Field data 8 = .ok p.state := uint32Field_words 0 shape rfl rfl
  have cellularClass : uint32Field data 20 = .ok p.cellularClass := uint32Field_words 0 trailing rfl rfl
  have rssi : uint32Field data 24 = .ok p.rssi := uint32Field_words 1 trailing rfl rfl
  have errorRate : uint32Field data 28 = .ok p.errorRate := uint32Field_words 2 trailing rfl rfl
  -- The sizes are those that the decoder allows.
  have idSize : ¬ r.size > 12 := by
    rw [idRef, refTo_size, gt_iff_lt, UInt32.not_lt, UInt32.le_iff_toNat_le, toNat_uint32Length (by omega)]
    exact first
  have nameSize : ¬ s.size > 40 := by
    rw [nameRef, refTo_size, gt_iff_lt, UInt32.not_lt, UInt32.le_iff_toNat_le, toNat_uint32Length (by omega)]
    exact second
  -- Everything in front of the strings is the fixed part.
  obtain ⟨front, fixed⟩ : ∃ front, front = r.encode ++ [p.state].flatMap putUint32 ++ s.encode ++
      [p.cellularClass, p.rssi, p.errorRate].flatMap putUint32 := ⟨_, rfl⟩
  have frontSize : front.length = 32 := by
    rw [fixed]
    simp only [List.length_append, putUint32_flatMap_length, ValueRef.encode_length, List.length_cons, List.length_nil]
  have whole : data = front ++ area ([p.id, p.name].map utf16Bytes) := by
    rw [trailing, fixed, List.append_assoc (r.encode ++ _ ++ _)]
    rfl
  have behind : front ≠ [] := List.length_pos_iff.mp (by omega)
  have start : (32 : UInt32).toNat = front.length := by rw [frontSize]; rfl
  obtain ⟨filled, units, -⟩ := record_strings "" short whole behind (by rw [frontSize]) start unicode
  rw [frontSize, listed] at filled units
  -- Both strings are read from their references.
  have closed : data = front ++ (area ([p.id, p.name].map utf16Bytes) ++ []) := by rw [List.append_nil, ← whole]
  have refers := refers_refsTo closed behind
  rw [frontSize, listed] at refers
  obtain ⟨idRefers, others⟩ := List.forall₂_cons.mp refers
  obtain ⟨nameRefers, -⟩ := List.forall₂_cons.mp others
  have id := idRefers.utf16String short (unicode _ (by simp))
  have name := nameRefers.utf16String short (unicode _ (by simp))
  rw [unmarshalBinary, Go.failIf_bind_of_not long, idFields, Go.mapError_ok, Go.ok_bind, nameFields, Go.mapError_ok,
    Go.ok_bind, Go.failIf_bind_of_not idSize, Go.failIf_bind_of_not nameSize]
  simp only [if_true, filled, units, id, name, state, cellularClass, rssi, errorRate, valid, Go.mapError_ok, Go.ok_bind,
    Go.pure_eq]

end Provider

/-! Provisioned contexts. -/

/-- The identity of a type is copied whole. -/
theorem copy16_val (t : ContextType) : copy16 t.val = t := by
  apply Subtype.ext
  have size := t.property
  show (t.val ++ List.replicate 16 0).take 16 = t.val
  rw [List.take_append_of_le_length (by omega), List.take_of_length_le (by omega)]

namespace ProvisionedContextV2

/-- A context as a list of a version returns it: with that version, and with the absent fields of its slice cleared. -/
def normal (version : UInt16) (c : ProvisionedContextV2) : ProvisionedContextV2 :=
  { c with mbimExVersion := version, snssai := c.snssai.map SNSSAI.normal }

/-- The strings of a context that passes its check are short enough. -/
theorem sizes_of_validate {c : ProvisionedContextV2} (valid : c.validate = .ok ()) :
    (utf16Bytes c.accessString).length ≤ accessStringMaximumSize ∧
    (utf16Bytes c.userName).length ≤ userNameMaximumSize ∧ (utf16Bytes c.password).length ≤ passwordMaximumSize := by
  simp only [validate, Go.unit_bind_eq_ok, Go.failIf_eq_ok, Nat.not_lt] at valid
  exact ⟨valid.2.2.2.2.2.2.2.1, valid.2.2.2.2.2.2.2.2.1, valid.2.2.2.2.2.2.2.2.2.1⟩

/-- The slice identifier of a context that passes its check passes its own. -/
theorem validateSNSSAI_of_validate {c : ProvisionedContextV2} (valid : c.validate = .ok ()) :
    validateSNSSAI c.mbimExVersion c.snssai = .ok () := by
  simp only [validate, Go.unit_bind_eq_ok, Go.failIf_eq_ok] at valid
  exact valid.2.2.2.2.2.2.2.2.2.2

/-- An identifier that passes the check is encoded to at most nine bytes, and its normal form passes the check too. -/
theorem validateSNSSAI_some {version : UInt16} {s : SNSSAI} (valid : validateSNSSAI version (some s) = .ok ()) :
    SNSSAI.Form s.marshalBinaryUnchecked s.normal ∧ validateSNSSAI version (some s.normal) = .ok () := by
  rw [validateSNSSAI, Go.unit_bind_eq_ok, Go.failIf_eq_ok, Go.unit_bind_eq_ok, Go.failIf_eq_ok, Go.bind_eq_ok] at valid
  obtain ⟨recent, unmapped, data, encoded, -⟩ := valid
  have written := Go.mapError_eq_ok.mp encoded
  -- What is written is in a form that is read back to the normal form.
  have form := SNSSAI.form_of_marshalBinary written
  have same : s.marshalBinaryUnchecked = data := by
    rw [SNSSAI.marshalBinary, Go.unit_bind_eq_ok, Go.pure_eq, Except.ok.injEq] at written
    exact written.2
  refine ⟨by rw [same]; exact form, ?_⟩
  -- The flags are the same in the normal form.
  have unmapped' : ¬ (s.normal.hasMappedSliceServiceType || s.normal.hasMappedSliceDifferentiator) = true := unmapped
  rw [validateSNSSAI, Go.failIf_bind_of_not recent, Go.failIf_bind_of_not unmapped', form.written]
  rfl

/-- The normal form of a context passes the check that the context passes. -/
theorem validate_normal {version : UInt16} {c : ProvisionedContextV2}
    (valid : { c with mbimExVersion := version }.validate = .ok ()) : (c.normal version).validate = .ok () := by
  have slice : validateSNSSAI version (c.snssai.map SNSSAI.normal) = .ok () := by
    have checked := validateSNSSAI_of_validate valid
    simp only at checked
    cases present : c.snssai with
    | none => rfl
    | some s =>
      rw [present] at checked
      exact (validateSNSSAI_some checked).2
  simp only [validate, Go.unit_bind_eq_ok, Go.failIf_eq_ok] at valid ⊢
  obtain ⟨ipType, state, roaming, mediaType, source, compression, auth, access, user, password, -⟩ := valid
  exact ⟨ipType, state, roaming, mediaType, source, compression, auth, access, user, password, slice⟩

/-- The bytes of a slice identifier, or none. -/
def sliceData (c : ProvisionedContextV2) : Bytes :=
  (c.snssai.map SNSSAI.marshalBinaryUnchecked).getD []

/-- From version 4.0 on, a TLV stands behind the fixed part. -/
theorem sliceTLV_eq (c : ProvisionedContextV2) (version : UInt16) : c.sliceTLV version =
    if version ≥ mbimExVersion40 then marshalTLV TLVType.singleNSSAI c.sliceData else [] := by
  rw [sliceTLV, sliceData]
  cases c.snssai with
  | none => rfl
  | some s => rfl

/-- A slice identifier that passes its check takes at most nine bytes. -/
theorem sliceData_length {version : UInt16} {c : ProvisionedContextV2}
    (valid : validateSNSSAI version c.snssai = .ok ()) : c.sliceData.length ≤ 9 := by
  rw [sliceData]
  cases present : c.snssai with
  | none => simp
  | some s =>
    rw [present] at valid
    have form := (validateSNSSAI_some valid).1
    rw [Option.map_some, Option.getD_some]
    generalize s.marshalBinaryUnchecked = data at form ⊢
    generalize s.normal = identifier at form
    cases form <;> simp

/-- The TLV of a slice identifier is parsed as its normal form. -/
theorem unmarshalTLV_sliceData {version : UInt16} {c : ProvisionedContextV2}
    (valid : validateSNSSAI version c.snssai = .ok ()) :
    OptionalSNSSAI.unmarshalTLV ⟨TLVType.singleNSSAI, c.sliceData⟩ = .ok (c.snssai.map SNSSAI.normal) := by
  rw [sliceData]
  -- Without an identifier the TLV is empty.
  cases present : c.snssai with
  | none => rfl
  | some s =>
    rw [present] at valid
    have form := (validateSNSSAI_some valid).1
    rw [Option.map_some, Option.getD_some, Option.map_some]
    -- An identifier is never written as nothing.
    have some : ¬ s.marshalBinaryUnchecked.length = 0 := by
      obtain ⟨first, rest, shape, -⟩ := form.length
      rw [shape]
      simp
    rw [OptionalSNSSAI.unmarshalTLV, Go.failIf_bind_of_not (by simp), if_neg some, form.read]
    rfl

/-- The TLV behind the fixed part takes a multiple of four bytes, and few of them. -/
theorem sliceTLV_length {version : UInt16} {c : ProvisionedContextV2}
    (valid : validateSNSSAI version c.snssai = .ok ()) :
    (c.sliceTLV version).length % 4 = 0 ∧ (c.sliceTLV version).length ≤ 20 := by
  have size := sliceData_length valid
  rw [sliceTLV_eq]
  by_cases recent : version ≥ mbimExVersion40
  · rw [if_pos recent, marshalTLV_length, paddingLength]
    omega
  · rw [if_neg recent]
    simp

/-- The slice identifier behind the fixed part is read back, and the strings start behind it. -/
theorem unmarshalSlice_sliceTLV {version : UInt16} {c : ProvisionedContextV2}
    (valid : validateSNSSAI version c.snssai = .ok ()) {data front rest : Bytes}
    (shape : data = front ++ (c.sliceTLV version ++ rest)) (fixed : front.length = 72) :
    ∃ dataStart : UInt32, unmarshalSlice version data = .ok (c.snssai.map SNSSAI.normal, dataStart) ∧
      dataStart.toNat = 72 + (c.sliceTLV version).length := by
  have small := (sliceTLV_length valid).2
  have size := sliceData_length valid
  rw [sliceTLV_eq] at shape small ⊢
  by_cases recent : version ≥ mbimExVersion40
  · -- From version 4.0 on, the TLV stands behind the fixed part.
    rw [if_pos recent] at shape small ⊢
    have can : TLV.Valid ⟨TLVType.singleNSSAI, c.sliceData⟩ := by
      have allowed : ¬ (TLVType.singleNSSAI = 0 ∨ TLVType.singleNSSAI > maxTLVType) := by decide
      refine ⟨allowed, ?_⟩
      simp only
      omega
    have behind : (Go.slice data 72 data.length : Go Error Bytes) =
        .ok (marshalTLV TLVType.singleNSSAI c.sliceData ++ rest) := by
      rw [Go.slice_from (by rw [shape, List.length_append, fixed]; omega), shape, ← fixed, List.drop_left]
    -- The strings begin behind it.
    refine ⟨72 + UInt32.ofNat (marshalTLV TLVType.singleNSSAI c.sliceData).length, ?_, ?_⟩
    · rw [unmarshalSlice, if_pos recent, behind, Go.ok_bind, unmarshalTLVPrefix_marshalTLV can, Go.mapError_ok, Go.ok_bind,
        unmarshalTLV_sliceData valid, Go.ok_bind]
      rfl
    · rw [UInt32.toNat_add, UInt32.toNat_ofNat_of_lt' (by simp only [UInt32.size]; omega)]
      simp only [UInt32.reduceToNat]
      omega
  · rw [if_neg recent] at shape ⊢
    refine ⟨72, ?_, rfl⟩
    -- Before version 4.0 a context has no slice identifier.
    have none : c.snssai = none := by
      cases present : c.snssai with
      | none => rfl
      | some s =>
        rw [present, validateSNSSAI, Go.unit_bind_eq_ok, Go.failIf_eq_ok, UInt16.not_lt] at valid
        exact absurd valid.1 recent
    rw [unmarshalSlice, if_neg recent, none]
    rfl

/-- What stands in front of a context's references. -/
def lead (c : ProvisionedContextV2) : Bytes :=
  putUint32 c.contextID ++ (c.contextType.val ++
    [c.ipType, c.state, c.roaming, c.mediaType, c.source].flatMap putUint32)

/-- Forty bytes stand in front of the references. -/
theorem lead_length (c : ProvisionedContextV2) : c.lead.length = 40 := by
  rw [lead, List.length_append, List.length_append, c.contextType.property, putUint32_flatMap_length]
  rfl

/-- The UTF-16 bytes of a context's strings. -/
def strings (c : ProvisionedContextV2) : List Bytes :=
  [utf16Bytes c.accessString, utf16Bytes c.userName, utf16Bytes c.password]

/-- The parts of a record: the lead, the references, two words, the slice identifier and the strings. -/
theorem marshalProvisionedContextV2_eq {version : UInt16} {c : ProvisionedContextV2}
    (valid : validateSNSSAI version c.snssai = .ok ()) : marshalProvisionedContextV2 c.contextID c version =
      c.lead ++ ((refsTo (72 + (c.sliceTLV version).length) c.strings).flatMap ValueRef.encode ++
        (([c.compression, c.authProtocol].flatMap putUint32 ++ c.sliceTLV version) ++ area c.strings)) := by
  have aligned := (sliceTLV_length valid).1
  have placed := lead_length c
  -- The slice identifier stands between the fixed part and the strings.
  have total : c.lead.length + 24 +
      ([c.compression, c.authProtocol].flatMap putUint32 ++ c.sliceTLV version).length = 72 + (c.sliceTLV version).length := by
    rw [placed, List.length_append, putUint32_flatMap_length]
    simp only [List.length_cons, List.length_nil]
    omega
  have entered := appendRefValue_three placed (by rw [total]; omega) (utf16Bytes c.accessString) (utf16Bytes c.userName)
    (utf16Bytes c.password)
  rw [total] at entered
  have fixed : fixedPart c.contextID c ++ c.sliceTLV version = c.lead ++ (List.replicate 24 0 ++
      ([c.compression, c.authProtocol].flatMap putUint32 ++ c.sliceTLV version)) := by
    rw [fixedPart, lead]
    simp only [List.append_assoc]
  rw [marshalProvisionedContextV2, fixed]
  exact entered

/-- A record takes its fixed part, the slice identifier and the padded strings. -/
theorem marshalProvisionedContextV2_length {version : UInt16} {c : ProvisionedContextV2}
    (valid : validateSNSSAI version c.snssai = .ok ()) : (marshalProvisionedContextV2 c.contextID c version).length =
      72 + (c.sliceTLV version).length + align4 (utf16Bytes c.accessString).length +
        align4 (utf16Bytes c.userName).length + align4 (utf16Bytes c.password).length := by
  rw [marshalProvisionedContextV2_eq valid, strings]
  simp only [List.length_append, lead_length, putUint32_flatMap_length, encode_flatMap_length, refsTo_length, area_length,
    List.map_cons, List.map_nil, List.sum_cons, List.sum_nil, List.length_cons, List.length_nil]
  omega

/-- A context is read back from its record in its normal form. -/
theorem unmarshalBinary_marshalProvisionedContextV2 {version : UInt16} {c : ProvisionedContextV2}
    (valid : { c with mbimExVersion := version }.validate = .ok ())
    (unicode : ∀ s ∈ [c.accessString, c.userName, c.password], Utf8.validString s = true) :
    unmarshalBinary version (marshalProvisionedContextV2 c.contextID c version) = .ok (c.normal version) := by
  obtain ⟨first, second, third⟩ := sizes_of_validate valid
  have checked : validateSNSSAI version c.snssai = .ok () := validateSNSSAI_of_validate valid
  obtain ⟨multiple, small⟩ := sliceTLV_length checked
  have shape := marshalProvisionedContextV2_eq checked
  have size := marshalProvisionedContextV2_length checked
  obtain ⟨data, made⟩ : ∃ data, data = marshalProvisionedContextV2 c.contextID c version := ⟨_, rfl⟩
  obtain ⟨tlv, slice⟩ : ∃ tlv, tlv = c.sliceTLV version := ⟨_, rfl⟩
  rw [← made, ← slice] at shape size
  rw [← slice] at small multiple
  rw [← made]
  simp only at first second third
  -- The strings have their largest sizes, so that the record is short.
  have short : data.length < 2 ^ 32 := by
    unfold accessStringMaximumSize userNameMaximumSize passwordMaximumSize align4 at *
    omega
  have long : ¬ data.length < 72 := by omega
  obtain ⟨r, s, t, listed⟩ : ∃ r s t, refsTo (72 + tlv.length) c.strings = [r, s, t] := ⟨_, _, _, rfl⟩
  rw [listed] at shape
  have placed := lead_length c
  have refs : readStringRefs "parsing MBIM provisioned context V2 string %d reference" data 0 [40, 48, 56] =
      .ok [r, s, t] := readStringRefs_three short shape placed (by rw [placed]; rfl) (by rw [placed]; rfl)
  -- The fixed part with its references stands in front of the slice identifier.
  obtain ⟨words, trailing⟩ : ∃ words, words = [c.compression, c.authProtocol].flatMap putUint32 := ⟨_, rfl⟩
  obtain ⟨front, fixed⟩ : ∃ front, front = c.lead ++ ([r, s, t].flatMap ValueRef.encode ++ words) := ⟨_, rfl⟩
  have frontSize : front.length = 72 := by
    rw [fixed, trailing]
    simp only [List.length_append, placed, putUint32_flatMap_length, encode_flatMap_length, List.length_cons,
      List.length_nil]
  have around : data = front ++ (tlv ++ area c.strings) := by
    rw [shape, fixed, ← trailing]
    simp only [List.append_assoc]
  obtain ⟨dataStart, parsed, start⟩ := unmarshalSlice_sliceTLV checked (slice ▸ around) frontSize
  have whole : data = (front ++ tlv) ++ area c.strings := by rw [around, List.append_assoc]
  have place : (front ++ tlv).length = 72 + tlv.length := by rw [List.length_append, frontSize]
  have behind : front ++ tlv ≠ [] := List.length_pos_iff.mp (by omega)
  obtain ⟨accepted, read⟩ := contextStrings_refsTo "parsing MBIM provisioned context V2 string %d" short whole behind
    (by rw [place]; omega) (by rw [place, start, slice]) unicode first second third
  rw [place] at accepted read
  rw [show refsTo (72 + tlv.length) [utf16Bytes c.accessString, utf16Bytes c.userName, utf16Bytes c.password] = [r, s, t]
    from listed] at accepted read
  -- The fields are read from their places in the fixed part.
  obtain ⟨rest, remaining⟩ : ∃ rest, rest = [r, s, t].flatMap ValueRef.encode ++ ((words ++ tlv) ++ area c.strings) :=
    ⟨_, rfl⟩
  rw [← trailing, ← remaining] at shape
  -- The same bytes are cut at each of the places that are read.
  have identity : data = [] ++ ([c.contextID].flatMap putUint32 ++ (c.contextType.val ++
      ([c.ipType, c.state, c.roaming, c.mediaType, c.source].flatMap putUint32 ++ rest))) := by
    rw [shape, lead]
    simp
  have typed : data = putUint32 c.contextID ++ (c.contextType.val ++
      ([c.ipType, c.state, c.roaming, c.mediaType, c.source].flatMap putUint32 ++ rest)) := by
    rw [shape, lead]
    simp only [List.append_assoc]
  have middle : data = (putUint32 c.contextID ++ c.contextType.val) ++
      ([c.ipType, c.state, c.roaming, c.mediaType, c.source].flatMap putUint32 ++ rest) := by
    rw [typed, List.append_assoc]
  have twenty : (putUint32 c.contextID ++ c.contextType.val).length = 20 := by
    rw [List.length_append, c.contextType.property]
    rfl
  have ending : data = (c.lead ++ [r, s, t].flatMap ValueRef.encode) ++
      ([c.compression, c.authProtocol].flatMap putUint32 ++ (tlv ++ area c.strings)) := by
    rw [around, fixed, trailing]
    simp only [List.append_assoc]
  have sixtyFour : (c.lead ++ [r, s, t].flatMap ValueRef.encode).length = 64 := by
    rw [List.length_append, placed, encode_flatMap_length]
    rfl
  have contextID : uint32Field data 0 = .ok c.contextID := uint32Field_words 0 identity rfl rfl
  have contextType : (Go.slice data 4 20 : Go Error Bytes) = .ok c.contextType.val :=
    Go.slice_between _ typed rfl (by rw [c.contextType.property])
  have ipType : uint32Field data 20 = .ok c.ipType := uint32Field_words 0 middle rfl (by rw [twenty])
  have state : uint32Field data 24 = .ok c.state := uint32Field_words 1 middle rfl (by rw [twenty])
  have roaming : uint32Field data 28 = .ok c.roaming := uint32Field_words 2 middle rfl (by rw [twenty])
  have mediaType : uint32Field data 32 = .ok c.mediaType := uint32Field_words 3 middle rfl (by rw [twenty])
  have source : uint32Field data 36 = .ok c.source := uint32Field_words 4 middle rfl (by rw [twenty])
  have compression : uint32Field data 64 = .ok c.compression := uint32Field_words 0 ending rfl (by rw [sixtyFour])
  have authProtocol : uint32Field data 68 = .ok c.authProtocol := uint32Field_words 1 ending rfl (by rw [sixtyFour])
  -- The check is made before the identity of the type is copied.
  have passes : (ProvisionedContextV2.mk version c.contextID (copy16 []) c.ipType c.state c.roaming c.mediaType c.source
      c.accessString c.userName c.password c.compression c.authProtocol (c.snssai.map SNSSAI.normal)).validate = .ok () :=
    validate_normal valid
  rw [unmarshalBinary, Go.failIf_bind_of_not long, parsed, Go.ok_bind, refs, Go.ok_bind, accepted, Go.mapError_ok,
    Go.ok_bind, read, Go.ok_bind]
  simp only [contextID, ipType, state, roaming, mediaType, source, compression, authProtocol, contextType, passes, Go.index,
    List.getElem?_cons_zero, List.getElem?_cons_succ, Go.mapError_ok, Go.ok_bind, Go.pure_eq, copy16_val]
  rfl

end ProvisionedContextV2

/-! The lists as a whole. -/

/-- How many bytes a context takes in a list of a version. -/
def ProvisionedContextV2.wireLength (version : UInt16) (c : ProvisionedContextV2) : Nat :=
  72 + (if version ≥ mbimExVersion40 then 8 + align4 c.sliceData.length else 0) +
    align4 (utf16Bytes c.accessString).length + align4 (utf16Bytes c.userName).length +
    align4 (utf16Bytes c.password).length

/-- How many bytes a configuration takes in a list. -/
def LTEAttachConfiguration.wireLength (c : LTEAttachConfiguration) : Nat :=
  44 + align4 (utf16Bytes c.accessString).length + align4 (utf16Bytes c.userName).length +
    align4 (utf16Bytes c.password).length

/-- How many bytes a provider takes in a list. -/
def Provider.wireLength (p : Provider) : Nat :=
  32 + align4 (utf16Bytes p.id).length + align4 (utf16Bytes p.name).length

/-- A length that is a multiple of four is not rounded. -/
theorem align4_of_mod {n : Nat} (multiple : n % 4 = 0) : align4 n = n := by
  unfold align4
  omega

/-- The length of a list whose records take multiples of four bytes. -/
theorem marshalElements_map_length {α : Type} {encode : α → Bytes} {length : α → Nat} {xs : List α}
    (each : ∀ x ∈ xs, (encode x).length = length x ∧ length x % 4 = 0) :
    (marshalElements (xs.map encode)).length = 4 + (xs.map fun x => 8 + length x).sum := by
  rw [marshalElements_length, List.map_map]
  congr 2
  apply List.map_congr_left
  intro x member
  obtain ⟨size, multiple⟩ := each x member
  rw [Function.comp_apply, size, align4_of_mod multiple]

/-- A context takes its length in a list, which is a multiple of four. -/
theorem ProvisionedContextV2.wireLength_eq {version : UInt16} {c : ProvisionedContextV2}
    (valid : validateSNSSAI version c.snssai = .ok ()) :
    (marshalProvisionedContextV2 c.contextID c version).length = c.wireLength version ∧ c.wireLength version % 4 = 0 := by
  -- The TLV is there from version 4.0 on.
  have slice : (c.sliceTLV version).length =
      if version ≥ mbimExVersion40 then 8 + align4 c.sliceData.length else 0 := by
    rw [sliceTLV_eq]
    by_cases recent : version ≥ mbimExVersion40
    · rw [if_pos recent, if_pos recent, marshalTLV_length, paddingLength, align4]
      omega
    · rw [if_neg recent, if_neg recent, List.length_nil]
  have multiple := (sliceTLV_length valid).1
  have access := align4_mod (utf16Bytes c.accessString).length
  have user := align4_mod (utf16Bytes c.userName).length
  have password := align4_mod (utf16Bytes c.password).length
  rw [marshalProvisionedContextV2_length valid, wireLength, ← slice]
  exact ⟨rfl, by omega⟩

/-- A configuration takes its length in a list, which is a multiple of four. -/
theorem LTEAttachConfiguration.wireLength_eq (c : LTEAttachConfiguration) :
    c.record.length = c.wireLength ∧ c.wireLength % 4 = 0 := by
  have access := align4_mod (utf16Bytes c.accessString).length
  have user := align4_mod (utf16Bytes c.userName).length
  have password := align4_mod (utf16Bytes c.password).length
  rw [record_length, wireLength]
  exact ⟨rfl, by omega⟩

/-- A provider takes its length in a list, which is a multiple of four. -/
theorem Provider.wireLength_eq (p : Provider) : p.marshalRecord.length = p.wireLength ∧ p.wireLength % 4 = 0 := by
  have id := align4_mod (utf16Bytes p.id).length
  have name := align4_mod (utf16Bytes p.name).length
  rw [marshalRecord_length, wireLength]
  exact ⟨rfl, by omega⟩

/-- Contexts are read back exactly when the offsets of their list do not wrap. -/
theorem provisionedContexts_iff {version : UInt16} {contexts : List ProvisionedContextV2}
    (valid : ∀ c ∈ contexts, { c with mbimExVersion := version }.validate = .ok ())
    (unicode : ∀ c ∈ contexts, ∀ s ∈ [c.accessString, c.userName, c.password], Utf8.validString s = true) :
    (∃ data, ProvisionedContextsV2Info.marshalBinary version contexts = .ok data ∧
      ProvisionedContextsV2Info.unmarshalBinary version data = .ok (contexts.map (ProvisionedContextV2.normal version))) ↔
    4 + (contexts.map fun c => 8 + c.wireLength version).sum < 2 ^ 32 := by
  -- Every context passes its check, so the list is encoded as a table of records.
  obtain ⟨encode, encoder⟩ : ∃ encode : ProvisionedContextV2 → Bytes, encode = fun c =>
      ProvisionedContextV2.marshalProvisionedContextV2 c.contextID c version := ⟨_, rfl⟩
  have each : ∀ c ∈ contexts, { c with mbimExVersion := version }.marshalBinary = .ok (encode c) := by
    intro c member
    rw [ProvisionedContextV2.marshalBinary, valid c member, encoder]
    rfl
  have written : ProvisionedContextsV2Info.marshalBinary version contexts = .ok (marshalElements (contexts.map encode)) := by
    rw [ProvisionedContextsV2Info.marshalBinary, encodeElements_map 0 each, Go.ok_bind]
    rfl
  -- The length of a record is known from its fields.
  have sizes : ∀ c ∈ contexts, (encode c).length = c.wireLength version ∧ c.wireLength version % 4 = 0 := by
    intro c member
    rw [encoder]
    exact ProvisionedContextV2.wireLength_eq (ProvisionedContextV2.validateSNSSAI_of_validate (valid c member))
  have read : ∀ c ∈ contexts, ProvisionedContextV2.unmarshalBinary version (encode c) = .ok (c.normal version) := by
    intro c member
    rw [encoder]
    exact ProvisionedContextV2.unmarshalBinary_marshalProvisionedContextV2 (valid c member) (unicode c member)
  -- The table is read back exactly when it is short enough.
  rw [written, ← marshalElements_map_length sizes]
  simp only [Except.ok.injEq, exists_eq_left']
  exact unmarshalElements_marshalElements _ (fun _ _ _ short refers => refers.bytes short) read

/-- Configurations are read back exactly when the offsets of their list do not wrap. -/
theorem lteAttachConfigurations_iff {configurations : List LTEAttachConfiguration}
    (valid : ∀ c ∈ configurations, c.validate = .ok ())
    (unicode : ∀ c ∈ configurations, ∀ s ∈ [c.accessString, c.userName, c.password], Utf8.validString s = true) :
    (∃ data, LTEAttachConfigurationsInfo.marshalBinary configurations = .ok data ∧
      LTEAttachConfigurationsInfo.unmarshalBinary data = .ok configurations) ↔
    4 + (configurations.map fun c => 8 + c.wireLength).sum < 2 ^ 32 := by
  have each : ∀ c ∈ configurations, c.marshalBinary = .ok c.record := by
    intro c member
    rw [LTEAttachConfiguration.marshalBinary, valid c member]
    rfl
  -- The list is encoded as a table of records.
  have written : LTEAttachConfigurationsInfo.marshalBinary configurations =
      .ok (marshalElements (configurations.map LTEAttachConfiguration.record)) := by
    rw [LTEAttachConfigurationsInfo.marshalBinary, encodeElements_map 0 each, Go.ok_bind]
    rfl
  have read : ∀ c ∈ configurations, LTEAttachConfiguration.unmarshalBinary c.record = .ok c := fun c member =>
    LTEAttachConfiguration.unmarshalBinary_record (valid c member) (unicode c member)
  rw [written, ← marshalElements_map_length fun c _ => c.wireLength_eq]
  simp only [Except.ok.injEq, exists_eq_left']
  exact unmarshalElements_recovered (fun _ _ _ short refers => refers.bytes short) read

/-- A list of providers that pass their checks passes its own. -/
theorem validateProviders_eq_ok {providers : List Provider} (i : Nat) (valid : ∀ p ∈ providers, p.validate = .ok ()) :
    validateProviders i providers = .ok () := by
  induction providers generalizing i with
  | nil => rfl
  | cons p providers ih =>
    rw [List.forall_mem_cons] at valid
    rw [validateProviders, valid.1, Go.mapError_ok, Go.ok_bind, ih (i + 1) valid.2]

/-- Providers are read back exactly when the offsets of their list do not wrap. -/
theorem providers_iff {providers : List Provider} (valid : ∀ p ∈ providers, p.validate = .ok ())
    (unicode : ∀ p ∈ providers, ∀ s ∈ [p.id, p.name], Utf8.validString s = true) :
    (∃ data, Providers.marshalBinary providers = .ok data ∧ Providers.unmarshalBinary data = .ok providers) ↔
    4 + (providers.map fun p => 8 + p.wireLength).sum < 2 ^ 32 := by
  have written : Providers.marshalBinary providers = .ok (marshalElements (providers.map Provider.marshalRecord)) := by
    rw [Providers.marshalBinary, validateProviders_eq_ok 0 valid]
    rfl
  have read : ∀ p ∈ providers, Provider.unmarshalBinary p.marshalRecord true = .ok p := fun p member =>
    Provider.unmarshalBinary_marshalRecord (valid p member) (unicode p member)
  rw [written, ← marshalElements_map_length fun p _ => p.wireLength_eq]
  simp only [Except.ok.injEq, exists_eq_left']
  exact unmarshalElements_recovered (fun _ _ _ short refers => refers.slice short) read

/-- Lists of contexts, configurations and providers that pass their checks and hold well-formed strings are read back
exactly when they are shorter than four gibibytes. -/
theorem record_lists_exact (version : UInt16) (contexts : List ProvisionedContextV2)
    (configurations : List LTEAttachConfiguration) (providers : List Provider)
    (validContexts : ∀ c ∈ contexts, { c with mbimExVersion := version }.validate = .ok ())
    (validConfigurations : ∀ c ∈ configurations, c.validate = .ok ())
    (validProviders : ∀ p ∈ providers, p.validate = .ok ())
    (unicodeContexts : ∀ c ∈ contexts, ∀ s ∈ [c.accessString, c.userName, c.password], Utf8.validString s = true)
    (unicodeConfigurations : ∀ c ∈ configurations, ∀ s ∈ [c.accessString, c.userName, c.password],
      Utf8.validString s = true)
    (unicodeProviders : ∀ p ∈ providers, ∀ s ∈ [p.id, p.name], Utf8.validString s = true) :
    ((∃ data, ProvisionedContextsV2Info.marshalBinary version contexts = .ok data ∧
        ProvisionedContextsV2Info.unmarshalBinary version data =
          .ok (contexts.map (ProvisionedContextV2.normal version))) ↔
      4 + (contexts.map fun c => 8 + c.wireLength version).sum < 2 ^ 32) ∧
    ((∃ data, LTEAttachConfigurationsInfo.marshalBinary configurations = .ok data ∧
        LTEAttachConfigurationsInfo.unmarshalBinary data = .ok configurations) ↔
      4 + (configurations.map fun c => 8 + c.wireLength).sum < 2 ^ 32) ∧
    ((∃ data, Providers.marshalBinary providers = .ok data ∧ Providers.unmarshalBinary data = .ok providers) ↔
      4 + (providers.map fun p => 8 + p.wireLength).sum < 2 ^ 32) :=
  ⟨provisionedContexts_iff validContexts unicodeContexts,
    lteAttachConfigurations_iff validConfigurations unicodeConfigurations,
    providers_iff validProviders unicodeProviders⟩

/-- A context of version 4.0 with a slice identifier and a user name of three letters, and one without. -/
def homeContexts : List ProvisionedContextV2 :=
  [{ mbimExVersion := 0x0400, contextID := 1, contextType := copy16 [0x7E], ipType := 1, state := 1, roaming := 6
     mediaType := 0, source := 1, accessString := [], userName := [0x61, 0x62, 0x63], password := [], compression := 0
     authProtocol := 1, snssai := some { sliceServiceType := 1 } },
   { mbimExVersion := 0x0400, contextID := 2, contextType := copy16 [0x7E], ipType := 2, state := 1, roaming := 6
     mediaType := 0, source := 1, accessString := [0x69], userName := [], password := [], compression := 0
     authProtocol := 0, snssai := none }]

/-- A configuration with an access string of three letters, and one with a password. -/
def homeConfigurations : List LTEAttachConfiguration :=
  [{ ipType := 1, roaming := 0, source := 1, accessString := [0x61, 0x62, 0x63], userName := [], password := []
     compression := 0, authProtocol := 0 },
   { ipType := 2, roaming := 1, source := 1, accessString := [0x69], userName := [], password := [0x70, 0x71]
     compression := 0, authProtocol := 1 }]

/-- Two providers with identities of five digits. -/
def homeProviders : List Provider :=
  [{ id := [0x32, 0x36, 0x32, 0x30, 0x31], state := 1, name := [0x61], cellularClass := 1, rssi := 31, errorRate := 99 },
   { id := [0x32, 0x36, 0x32, 0x30, 0x32], state := 8, name := [0x62, 0x63], cellularClass := 1, rssi := 20
     errorRate := 99 }]

/-- Two of each are read back. -/
theorem home_recovered :
    (∃ data, ProvisionedContextsV2Info.marshalBinary 0x0400 homeContexts = .ok data ∧
      ProvisionedContextsV2Info.unmarshalBinary 0x0400 data = .ok homeContexts) ∧
    (∃ data, LTEAttachConfigurationsInfo.marshalBinary homeConfigurations = .ok data ∧
      LTEAttachConfigurationsInfo.unmarshalBinary data = .ok homeConfigurations) ∧
    (∃ data, Providers.marshalBinary homeProviders = .ok data ∧ Providers.unmarshalBinary data = .ok homeProviders) := by
  obtain ⟨contexts, configurations, providers⟩ := record_lists_exact 0x0400 homeContexts homeConfigurations homeProviders
    (by decide +kernel) (by decide +kernel) (by decide +kernel) (by decide +kernel) (by decide +kernel) (by decide +kernel)
  exact ⟨contexts.mpr (by decide +kernel), configurations.mpr (by decide +kernel), providers.mpr (by decide +kernel)⟩

/-- A provider without strings. -/
def bareProvider : Provider := { id := [], state := 0, name := [], cellularClass := 0, rssi := 99, errorRate := 99 }

/-- Too many providers are lost. -/
theorem bareProviders_lost {count : Nat} (many : 2 ^ 32 ≤ count * 40) :
    ¬ ∃ data, Providers.marshalBinary (List.replicate count bareProvider) = .ok data ∧
      Providers.unmarshalBinary data = .ok (List.replicate count bareProvider) := by
  have valid : bareProvider.validate = .ok () := by decide +kernel
  have unicode : ∀ s ∈ [bareProvider.id, bareProvider.name], Utf8.validString s = true := by decide +kernel
  have size : bareProvider.wireLength = 32 := by decide +kernel
  rw [providers_iff (fun p member => List.eq_of_mem_replicate member ▸ valid)
    fun p member => List.eq_of_mem_replicate member ▸ unicode]
  rw [List.map_replicate, List.sum_replicate_nat, size]
  omega

/-- A list of 2^27 providers is written and not read back. -/
theorem manyProviders_lost :
    ¬ ∃ data, Providers.marshalBinary (List.replicate (2 ^ 27) bareProvider) = .ok data ∧
      Providers.unmarshalBinary data = .ok (List.replicate (2 ^ 27) bareProvider) :=
  bareProviders_lost (by omega)

end Wwan.Mbim
