import Mathlib.Data.List.Forall2
import Wwan.Lib.Spans
import Wwan.Mbim.Wire

/-! Strings and reference tables on the wire. -/

namespace Wwan.Mbim

open Utf16.ByteOrder (littleEndian)

/-! Strings. -/

/-- The bytes of a string are two for each code unit. -/
theorem utf16Bytes_length (s : GoString) : (utf16Bytes s).length = 2 * (Utf16.encode (Utf8.runes s)).length :=
  littleEndian.bytes_length _

/-- A string of valid UTF-8 is read back from its UTF-16 bytes. -/
theorem utf16RawString_utf16Bytes {s : GoString} (valid : Utf8.validString s = true) :
    utf16RawString (utf16Bytes s) = .ok s := by
  have even : ¬ (utf16Bytes s).length % 2 ≠ 0 := by
    rw [utf16Bytes_length]
    omega
  rw [utf16RawString, Go.failIf_bind_of_not even, utf16Bytes, Utf16.ByteOrder.units_bytes, Utf16.decode_encode,
    Utf8.encodeRunes_runes_of_valid valid]
  rfl

/-- The string of UTF-16 bytes takes as many bytes again. -/
theorem ensures_utf16RawString (raw : Bytes) :
    (utf16RawString raw).Ensures fun s => (utf16Bytes s).length = raw.length := by
  refine Go.ensures_failIf.bind fun _ even => ?_
  apply Go.ensures_ok
  rw [utf16Bytes_length, Utf8.runes_encodeRunes, Utf16.encode_decode_length]
  have whole := congrArg List.length (littleEndian.bytes_units (not_not.mp even))
  rwa [Utf16.ByteOrder.bytes_length] at whole

/-! Lengths and rounding. -/

/-- A wrapped length is no larger than the length. -/
theorem uint32Length_le (data : Bytes) : (uint32Length data).toNat ≤ data.length :=
  Nat.mod_le _ _

/-- A length that fits is not wrapped. -/
theorem toNat_uint32Length {data : Bytes} (short : data.length < 2 ^ 32) : (uint32Length data).toNat = data.length :=
  UInt32.toNat_ofNat_of_lt' short

/-- Rounding goes up. -/
theorem le_align4 (n : Nat) : n ≤ align4 n := by
  unfold align4
  omega

/-- Rounding goes to a multiple of four. -/
theorem align4_mod (n : Nat) : align4 n % 4 = 0 := by
  unfold align4
  omega

/-- The padding of a value goes to a multiple of four. -/
theorem paddedEnd_eq (n : Nat) : paddedEnd n = align4 n := by
  unfold paddedEnd align4
  by_cases whole : n % 4 = 0
  · simp only [whole, ne_eq, not_true_eq_false, if_false]
    omega
  · simp only [ne_eq, whole, not_false_eq_true, if_true]
    omega

/-- Two numbers that pass the check of a reference have a sum that does not wrap and stays below the limit. -/
theorem add_le_of_not_gt {a b limit : UInt32} (checked : ¬ (a > limit ∨ b > limit - a)) :
    a.toNat + b.toNat ≤ limit.toNat := by
  obtain ⟨first, second⟩ := not_or.mp checked
  have low : a ≤ limit := UInt32.not_lt.mp first
  have high : b ≤ limit - a := UInt32.not_lt.mp second
  rw [UInt32.le_iff_toNat_le] at high
  rw [UInt32.toNat_sub_of_le _ _ low] at high
  rw [UInt32.le_iff_toNat_le] at low
  omega

/-- A sum below the wrapped length of a buffer does not wrap. -/
theorem toNat_add_of_le {a b : UInt32} {base : Bytes} (inside : a.toNat + b.toNat ≤ (uint32Length base).toNat) :
    (a + b).toNat = a.toNat + b.toNat := by
  have bound := (uint32Length base).toNat_lt
  rw [UInt32.toNat_add]
  omega

/-! What accepted references are. -/

/-- Where a reference points. -/
def ValueRef.span (r : ValueRef) : Span := ⟨r.offset.toNat, r.size.toNat⟩

/-- Where the references point that do not stand for empty values. -/
def spans (refs : List ValueRef) : List Span := (refs.filter fun r => r.size ≠ 0).map ValueRef.span

/-- Reading a reference stays inside the data. -/
theorem ensures_readOffsetSizeRef (data : Bytes) (fieldOffset : UInt32) :
    (readOffsetSizeRef data fieldOffset).Ensures fun r =>
      (data.drop fieldOffset.toNat).take 8 = LittleEndian.putUint32 r.offset ++ LittleEndian.putUint32 r.size := by
  refine Go.ensures_failIf.bind fun _ checked => ?_
  -- The guard has checked that all eight bytes are inside.
  have inside : fieldOffset.toNat + 8 ≤ (uint32Length data).toNat := add_le_of_not_gt checked
  have long := uint32Length_le data
  have bound := (uint32Length data).toNat_lt
  -- So no sum of an offset wraps.
  have four : (fieldOffset + 4).toNat = fieldOffset.toNat + 4 := by
    rw [UInt32.toNat_add]
    simp only [UInt32.reduceToNat]
    omega
  have eight : (fieldOffset + 8).toNat = fieldOffset.toNat + 8 := by
    rw [UInt32.toNat_add]
    simp only [UInt32.reduceToNat]
    omega
  rw [four, eight, Go.slice_eq_ok (by omega) (by omega), Go.ok_bind]
  refine (LittleEndian.ensures_getUint32 (by simp; omega)).bind fun offset first => ?_
  rw [Go.slice_eq_ok (by omega) (by omega), Go.ok_bind]
  refine (LittleEndian.ensures_getUint32 (by simp; omega)).bind fun size second => ?_
  apply Go.ensures_ok
  -- The two windows of four bytes are the window of eight.
  rw [first, second, Nat.add_sub_cancel_left, show fieldOffset.toNat + 8 - (fieldOffset.toNat + 4) = 4 by omega,
    ← List.drop_drop, ← List.take_add]

/-- A reference that passes its check points into the buffer, and an offset of zero stands for an empty value. -/
theorem ValueRef.validate_eq_ok {r : ValueRef} {base : Bytes} (valid : r.validate base = .ok ()) :
    r.offset.toNat + r.size.toNat ≤ (uint32Length base).toNat ∧ (r.offset = 0 → r.size = 0) := by
  rw [ValueRef.validate] at valid
  by_cases none : r.offset = 0
  · rw [if_pos none, Go.failIf_eq_ok, not_not] at valid
    rw [none, valid]
    exact ⟨by simp, fun _ => rfl⟩
  · rw [if_neg none, Go.failIf_eq_ok] at valid
    exact ⟨add_le_of_not_gt valid, fun zero => absurd zero none⟩

/-- The bytes of a reference that passes its check are in range. -/
theorem ValueRef.bytes_of_validate {r : ValueRef} {base : Bytes} (valid : r.validate base = .ok ()) :
    r.bytes base = .ok ((base.drop r.offset.toNat).take r.size.toNat) := by
  obtain ⟨inside, -⟩ := ValueRef.validate_eq_ok valid
  have long := uint32Length_le base
  rw [ValueRef.bytes, toNat_add_of_le inside]
  by_cases none : r.offset = 0 ∧ r.size = 0
  · rw [if_pos none, none.2]
    simp
  · rw [if_neg none, Go.slice_eq_ok (by omega) (by omega), Nat.add_sub_cancel_left]

/-- Checking a reference does not panic. -/
theorem ValueRef.ensures_validate (r : ValueRef) (base : Bytes) :
    (r.validate base).Ensures fun _ => r.validate base = .ok () := by
  refine Go.ensures_passed ?_
  rw [ValueRef.validate]
  by_cases none : r.offset = 0
  · rw [if_pos none]
    exact Go.ensures_failIf.1
  · rw [if_neg none]
    exact Go.ensures_failIf.1

/-- The loop accepts references to values that follow one another from the place of the next. -/
theorem ensures_dataBufferLoop (base : Bytes) (dataStart : UInt32) (i : Nat) (refs : List ValueRef) (ends : Nat × Nat) :
    (dataBufferLoop base dataStart i refs ends).Ensures fun stop =>
      Tiles align4 ends.2 (spans refs) stop.2 ∧ stop.2 ≤ max ends.2 (align4 (uint32Length base).toNat) ∧
      ∀ r ∈ refs, r.validate base = .ok () ∧ r.offset % 4 = 0 := by
  -- The induction is on the references, for every place of the next value.
  induction refs generalizing i ends with
  | nil => exact Go.ensures_ok ⟨rfl, Nat.le_max_left _ _, by simp⟩
  | cons r refs ih =>
    rw [dataBufferLoop]
    have checked : (r.validateDataBuffer base dataStart).Ensures fun _ =>
        r.validate base = .ok () ∧ r.offset % 4 = 0 := by
      refine (r.ensures_validate base).bind fun _ valid => ?_
      refine Go.ensures_failIf.bind fun _ _ => ?_
      refine Go.ensures_failIf.mono fun _ aligned => ?_
      exact ⟨valid, not_not.mp aligned⟩
    refine checked.mapError.bind fun _ first => ?_
    refine Go.ensures_ite (fun empty => ?_) fun some => ?_
    · -- An empty value takes no room.
      have same : spans (r :: refs) = spans refs := by simp [spans, empty]
      refine (ih (i + 1) ends).mono fun stop others => ?_
      rw [same, List.forall_mem_cons]
      exact ⟨others.1, others.2.1, first, others.2.2⟩
    · -- A value that is not empty stands at the place of the next, and the rest behind it.
      refine Go.ensures_failIf.bind fun _ _ => ?_
      refine Go.ensures_failIf.bind fun _ placed => ?_
      rw [not_not] at placed
      have here : spans (r :: refs) = r.span :: spans refs := by simp [spans, some]
      refine (ih (i + 1) _).mono fun stop others => ?_
      obtain ⟨tiles, limit, all⟩ := others
      rw [paddedEnd_eq] at tiles limit
      have inside := (ValueRef.validate_eq_ok first.1).1
      rw [here, List.forall_mem_cons]
      refine ⟨⟨placed, ?_⟩, ?_, first, all⟩
      · rw [← placed]
        exact tiles
      · -- The end of a value inside the buffer is rounded to no more than the buffer's end is.
        have rounded : align4 (r.offset.toNat + r.size.toNat) ≤ align4 (uint32Length base).toNat := by
          unfold align4
          omega
        simp only at limit
        omega

/-- Values fill a buffer behind its start: the buffer is short enough for four-byte offsets, the values follow one
another with nothing but padding between them, and every reference points into the buffer. -/
structure Filled (base : Bytes) (dataStart : Nat) (refs : List ValueRef) : Prop where
  short : base.length < 2 ^ 32
  tiles : Tiles align4 dataStart (spans refs) base.length
  valid : ∀ r ∈ refs, r.validate base = .ok ()
  aligned : ∀ r ∈ refs, r.offset % 4 = 0

/-- Accepted references are to values that fill the buffer. -/
theorem ensures_validateDataBufferRefs (base : Bytes) (dataStart : UInt32) (refs : List ValueRef) :
    (validateDataBufferRefs base dataStart refs).Ensures fun _ => Filled base dataStart.toNat refs := by
  rw [validateDataBufferRefs, dataBufferEnds]
  have ends : (dataBufferEnds base dataStart refs).Ensures fun stop =>
      Tiles align4 dataStart.toNat (spans refs) stop.2 ∧
      stop.2 ≤ max dataStart.toNat (align4 (uint32Length base).toNat) ∧
      ∀ r ∈ refs, r.validate base = .ok () ∧ r.offset % 4 = 0 :=
    Go.ensures_failIf.bind fun _ _ => ensures_dataBufferLoop base dataStart 0 refs _
  refine ends.bind fun stop accepted => ?_
  obtain ⟨tiles, limit, all⟩ := accepted
  refine Go.ensures_failIf.bind fun _ notBeyond => ?_
  refine Go.ensures_failIf.mono fun _ notBefore => ?_
  -- The buffer ends where the last value does.
  have whole : stop.2 = base.length := by omega
  rw [whole] at tiles limit
  refine ⟨?_, tiles, fun r member => (all r member).1, fun r member => (all r member).2⟩
  -- A buffer whose length wraps is longer than any end that its references can have.
  have bound := dataStart.toNat_lt
  have wrapped : (uint32Length base).toNat = base.length % 2 ^ 32 := rfl
  rw [wrapped] at limit
  unfold align4 at limit
  omega

/-- A table that passes its check lies inside the buffer. -/
theorem table_inside {tableOffset count : UInt32} {data : Bytes}
    (checked : ¬ (tableOffset > uint32Length data ∨ count > (uint32Length data - tableOffset) / 8)) :
    tableOffset.toNat + count.toNat * 8 ≤ (uint32Length data).toNat := by
  obtain ⟨first, second⟩ := not_or.mp checked
  have low : tableOffset ≤ uint32Length data := UInt32.not_lt.mp first
  have high : count ≤ (uint32Length data - tableOffset) / 8 := UInt32.not_lt.mp second
  rw [UInt32.le_iff_toNat_le, UInt32.toNat_div, UInt32.toNat_sub_of_le _ _ low] at high
  rw [UInt32.le_iff_toNat_le] at low
  simp only [UInt32.reduceToNat] at high
  omega

/-- The start of the values behind a table inside the buffer does not wrap. -/
theorem toNat_dataStart {tableOffset count : UInt32} {n : Nat} (inside : tableOffset.toNat + count.toNat * 8 ≤ n)
    (bound : n < 2 ^ 32) : (tableOffset + count * 8).toNat = tableOffset.toNat + count.toNat * 8 := by
  rw [UInt32.toNat_add, UInt32.toNat_mul]
  simp only [UInt32.reduceToNat]
  omega

/-- An accepted table has its references read in order, and their values fill the buffer behind it. -/
theorem ensures_offsetSizeRefs (data : Bytes) (tableOffset count : UInt32) :
    (offsetSizeRefs data tableOffset count).Ensures fun refs => refs.length = count.toNat ∧
      (tableOffset + count * 8).toNat = tableOffset.toNat + count.toNat * 8 ∧
      Filled data (tableOffset.toNat + count.toNat * 8) refs := by
  rw [offsetSizeRefs]
  refine Go.ensures_failIf.bind fun _ checked => ?_
  have start := toNat_dataStart (table_inside checked) (uint32Length data).toNat_lt
  refine Go.Ensures.bind (Go.ensures_mapM_forall₂ fun i _ => ?_) fun refs each => ?_
  · exact (ensures_readOffsetSizeRef data _).mapError.mono fun _ _ => trivial
  refine (ensures_validateDataBufferRefs data _ refs).bind fun _ filled => ?_
  rw [start] at filled
  refine Go.ensures_ok ⟨?_, start, filled⟩
  rw [← each.length_eq, List.length_range]

/-- Values that fill a buffer lie behind the start, aligned, without overlap and in order, and are in range. -/
theorem Filled.sound {base : Bytes} {dataStart : Nat} {refs : List ValueRef} (filled : Filled base dataStart refs) :
    (∀ r ∈ refs, r.size ≠ 0 → dataStart ≤ r.offset.toNat ∧ r.offset.toNat + r.size.toNat ≤ base.length ∧
      r.offset.toNat % 4 = 0) ∧
    (refs.filter fun r => r.size ≠ 0).Pairwise (fun a b => a.offset.toNat + a.size.toNat ≤ b.offset.toNat) ∧
    ∀ r ∈ refs, (r.offset + r.size).toNat = r.offset.toNat + r.size.toNat ∧
      r.bytes base = .ok ((base.drop r.offset.toNat).take r.size.toNat) := by
  refine ⟨fun r member some => ?_, ?_, fun r member => ?_⟩
  · have present : r.span ∈ spans refs := List.mem_map_of_mem (List.mem_filter.mpr ⟨member, by simpa using some⟩)
    obtain ⟨behind, before⟩ := filled.tiles.inside le_align4 r.span present
    have rounded := le_align4 (r.span.offset + r.span.size)
    have multiple := congrArg UInt32.toNat (filled.aligned r member)
    rw [UInt32.toNat_mod] at multiple
    exact ⟨behind, Nat.le_trans rounded before, multiple⟩
  · exact List.pairwise_map.mp (filled.tiles.pairwise le_align4)
  · have valid := filled.valid r member
    exact ⟨toNat_add_of_le (ValueRef.validate_eq_ok valid).1, ValueRef.bytes_of_validate valid⟩

/-! Values are found where they are put. -/

/-- The bytes of an offset and a size. -/
def ValueRef.encode (r : ValueRef) : Bytes := LittleEndian.putUint32 r.offset ++ LittleEndian.putUint32 r.size

/-- The reference to a value at a place, which an empty value does not have. -/
def refTo (start : Nat) (value : Bytes) : ValueRef :=
  if value.length = 0 then ⟨0, 0⟩ else ⟨UInt32.ofNat start, uint32Length value⟩

/-- The references to values that follow one another, each with its padding. -/
def refsTo : Nat → List Bytes → List ValueRef
  | _, [] => []
  | start, value :: values => refTo start value :: refsTo (start + align4 value.length) values

/-- The values with their padding. -/
def area (values : List Bytes) : Bytes := values.flatMap padTo4Bytes

/-- A value with its padding takes a multiple of four bytes. -/
@[simp] theorem padTo4Bytes_length (data : Bytes) : (padTo4Bytes data).length = align4 data.length := by
  have up := le_align4 data.length
  rw [padTo4Bytes, List.length_append, List.length_replicate]
  omega

/-- Padding behind a multiple of four bytes is the padding of what follows them. -/
theorem padTo4Bytes_append {front : Bytes} (aligned : front.length % 4 = 0) (value : Bytes) :
    padTo4Bytes (front ++ value) = front ++ padTo4Bytes value := by
  have same : align4 (front ++ value).length - (front ++ value).length = align4 value.length - value.length := by
    rw [List.length_append]
    unfold align4
    omega
  rw [padTo4Bytes, same, padTo4Bytes, List.append_assoc]

/-- An offset and a size take eight bytes. -/
@[simp] theorem ValueRef.encode_length (r : ValueRef) : r.encode.length = 8 := rfl

/-- An offset and a size are stored in place of eight bytes. -/
theorem storeRef_append {before window : Bytes} {fieldOffset : Nat} (placed : before.length = fieldOffset)
    (size : window.length = 8) (after : Bytes) (r : ValueRef) :
    storeRef (before ++ (window ++ after)) fieldOffset r.offset r.size = before ++ (r.encode ++ after) := by
  have split : before ++ (window ++ after) = before ++ (window.take 4 ++ (window.drop 4 ++ after)) := by
    rw [← List.append_assoc (window.take 4), List.take_append_drop]
  rw [storeRef, split, LittleEndian.storeUint32_append placed (by rw [List.length_take, size]; rfl), ← List.append_assoc]
  rw [LittleEndian.storeUint32_append (by simp [placed]) (by rw [List.length_drop, size]), ValueRef.encode,
    List.append_assoc, List.append_assoc]

/-- A value that is appended and entered stands behind the data, and its reference in the fields reserved for it. -/
theorem enter_append {before after value : Bytes} {fieldOffset : Nat} (placed : before.length = fieldOffset)
    (aligned : (before.length + 8 + after.length) % 4 = 0) :
    padTo4Bytes ((if value.length ≠ 0
        then storeRef (before ++ (List.replicate 8 0 ++ after)) fieldOffset
          (uint32Length (before ++ (List.replicate 8 0 ++ after))) (uint32Length value)
        else before ++ (List.replicate 8 0 ++ after)) ++ value) =
      before ++ ((refTo (before.length + 8 + after.length) value).encode ++ (after ++ padTo4Bytes value)) := by
  have total (window : Bytes) (size : window.length = 8) :
      (before ++ (window ++ after)).length = before.length + 8 + after.length := by
    rw [List.length_append, List.length_append, size]
    omega
  have entered : (if value.length ≠ 0
      then storeRef (before ++ (List.replicate 8 0 ++ after)) fieldOffset
        (uint32Length (before ++ (List.replicate 8 0 ++ after))) (uint32Length value)
      else before ++ (List.replicate 8 0 ++ after)) =
        before ++ ((refTo (before.length + 8 + after.length) value).encode ++ after) := by
    by_cases empty : value.length = 0
    · -- The fields of an empty value stay zero.
      rw [if_neg (not_not.mpr empty), refTo, if_pos empty]
      rfl
    · rw [if_pos empty, refTo, if_neg empty, uint32Length, total _ (by simp)]
      exact storeRef_append placed (by simp) after ⟨_, _⟩
  rw [entered, padTo4Bytes_append (by rw [total _ (ValueRef.encode_length _)]; exact aligned)]
  simp only [List.append_assoc]

/-- A value that is appended behind the fields reserved for it is entered in them. -/
theorem appendRefValue_append {before after : Bytes} {fieldOffset : Nat} (placed : before.length = fieldOffset)
    (aligned : (before.length + 8 + after.length) % 4 = 0) (value : Bytes) :
    appendRefValue (before ++ (List.replicate 8 0 ++ after)) fieldOffset value =
      before ++ ((refTo (before.length + 8 + after.length) value).encode ++ (after ++ padTo4Bytes value)) := by
  rw [← enter_append placed aligned, appendRefValue]
  by_cases empty : value.length = 0
  · obtain rfl := List.length_eq_zero_iff.mp empty
    rw [if_pos empty, if_neg (not_not.mpr empty), padTo4Bytes_append (by simp; omega)]
    simp [padTo4Bytes, align4]
  · rw [if_neg empty, if_pos empty]

/-- The elements stand behind the data in order, and their references in the table. -/
theorem appendElements_append (before after : Bytes) {tableOffset : Nat} (i : Nat) {elements : List Bytes}
    (placed : before.length = tableOffset + i * 8) (aligned : (before.length + elements.length * 8 + after.length) % 4 = 0) :
    appendElements tableOffset i elements (before ++ (List.replicate (elements.length * 8) 0 ++ after)) =
      before ++ ((refsTo (before.length + elements.length * 8 + after.length) elements).flatMap ValueRef.encode ++
        (after ++ area elements)) := by
  -- The induction is on the elements: a reference joins what stands before the rest of the table, a value what
  -- stands behind it.
  induction elements generalizing before after i with
  | nil => simp [appendElements, refsTo, area]
  | cons element elements ih =>
    -- The table has room for one reference more than the rest.
    have count : (element :: elements).length * 8 = 8 + elements.length * 8 := by
      rw [List.length_cons]
      omega
    rw [count] at aligned ⊢
    have table : before ++ (List.replicate (8 + elements.length * 8) 0 ++ after) =
        before ++ (List.replicate 8 0 ++ (List.replicate (elements.length * 8) 0 ++ after)) := by
      rw [List.replicate_add, List.append_assoc]
    have total : before.length + 8 + (List.replicate (elements.length * 8) (0 : UInt8) ++ after).length =
        before.length + (8 + elements.length * 8) + after.length := by
      rw [List.length_append, List.length_replicate]
      omega
    -- The first reference is entered, and its value appended.
    rw [appendElements, table, enter_append placed (by rw [total]; exact aligned), total, refsTo]
    obtain ⟨r, made⟩ : ∃ r, r = refTo (before.length + (8 + elements.length * 8) + after.length) element := ⟨_, rfl⟩
    rw [← made]
    have rounded := align4_mod element.length
    have next := ih (before ++ r.encode) (after ++ padTo4Bytes element) (i + 1)
      (by rw [List.length_append, ValueRef.encode_length]; omega)
      (by simp only [List.length_append, ValueRef.encode_length, padTo4Bytes_length]; omega)
    -- The rest finds its values behind this one.
    have place : (before ++ r.encode).length + elements.length * 8 + (after ++ padTo4Bytes element).length =
        before.length + (8 + elements.length * 8) + after.length + align4 element.length := by
      simp only [List.length_append, ValueRef.encode_length, padTo4Bytes_length]
      omega
    rw [place] at next
    simp only [List.append_assoc, List.flatMap_cons, area] at next ⊢
    exact next

/-- A table and its elements stand behind the header. -/
theorem appendOffsetSizeElements_eq {header : Bytes} (aligned : header.length % 4 = 0) (elements : List Bytes) :
    appendOffsetSizeElements header elements =
      header ++ ((refsTo (header.length + elements.length * 8) elements).flatMap ValueRef.encode ++ area elements) := by
  have start : header.length = header.length + 0 * 8 := by omega
  have wide : (header.length + elements.length * 8 + ([] : Bytes).length) % 4 = 0 := by
    simp only [List.length_nil]
    omega
  have placed := appendElements_append header [] 0 start wide
  simpa [appendOffsetSizeElements] using placed

/-- There is a reference for every value. -/
@[simp] theorem refsTo_length (start : Nat) (values : List Bytes) : (refsTo start values).length = values.length := by
  induction values generalizing start with
  | nil => rfl
  | cons value values ih => rw [refsTo, List.length_cons, List.length_cons, ih]

/-- References take eight bytes each. -/
@[simp] theorem encode_flatMap_length (refs : List ValueRef) : (refs.flatMap ValueRef.encode).length = refs.length * 8 := by
  induction refs with
  | nil => rfl
  | cons r refs ih =>
    rw [List.flatMap_cons, List.length_append, ih, ValueRef.encode_length, List.length_cons]
    omega

/-- Values take their padded lengths. -/
theorem area_length (values : List Bytes) : (area values).length = (values.map fun value => align4 value.length).sum := by
  simp [area, List.length_flatMap]

/-- A reference is read from where it is stored. -/
theorem readOffsetSizeRef_append {data before : Bytes} {r : ValueRef} {after : Bytes} {fieldOffset : UInt32}
    (short : data.length < 2 ^ 32) (shape : data = before ++ (r.encode ++ after))
    (placed : before.length = fieldOffset.toNat) : readOffsetSizeRef data fieldOffset = .ok r := by
  -- The reference is inside the data.
  have total : data.length = fieldOffset.toNat + 8 + after.length := by
    rw [shape, List.length_append, List.length_append, ValueRef.encode_length, placed]
    omega
  have whole := toNat_uint32Length short
  -- The sums of its field offsets do not wrap.
  have four : (fieldOffset + 4).toNat = fieldOffset.toNat + 4 := by
    rw [UInt32.toNat_add]
    simp only [UInt32.reduceToNat]
    omega
  have eight : (fieldOffset + 8).toNat = fieldOffset.toNat + 8 := by
    rw [UInt32.toNat_add]
    simp only [UInt32.reduceToNat]
    omega
  have low : fieldOffset ≤ uint32Length data := by
    rw [UInt32.le_iff_toNat_le, whole]
    omega
  -- So the guard lets it pass.
  have passes : ¬ (fieldOffset > uint32Length data ∨ 8 > uint32Length data - fieldOffset) := by
    rw [not_or, gt_iff_lt, gt_iff_lt, UInt32.not_lt, UInt32.not_lt]
    refine ⟨low, ?_⟩
    rw [UInt32.le_iff_toNat_le, UInt32.toNat_sub_of_le _ _ low, whole]
    simp only [UInt32.reduceToNat]
    omega
  -- The two fields stand where they were put.
  have offsetField : (Go.slice data fieldOffset.toNat (fieldOffset.toNat + 4) : Go Error Bytes) =
      .ok (LittleEndian.putUint32 r.offset) := by
    rw [shape, ValueRef.encode, List.append_assoc]
    exact Go.slice_between before rfl placed rfl
  have sizeField : (Go.slice data (fieldOffset.toNat + 4) (fieldOffset.toNat + 8) : Go Error Bytes) =
      .ok (LittleEndian.putUint32 r.size) := by
    rw [shape, ValueRef.encode, List.append_assoc, ← List.append_assoc]
    exact Go.slice_between (before ++ LittleEndian.putUint32 r.offset) rfl (by simp [placed]) rfl
  rw [readOffsetSizeRef, Go.failIf_bind_of_not passes, four, eight, offsetField, Go.ok_bind,
    show LittleEndian.putUint32 r.offset = LittleEndian.putUint32 r.offset ++ [] from (List.append_nil _).symm,
    LittleEndian.getUint32_putUint32, Go.ok_bind, sizeField, Go.ok_bind,
    show LittleEndian.putUint32 r.size = LittleEndian.putUint32 r.size ++ [] from (List.append_nil _).symm,
    LittleEndian.getUint32_putUint32, Go.ok_bind]
  rfl

/-- A reference to a value of the buffer, or to nothing in place of an empty value. -/
def Refers (base : Bytes) (r : ValueRef) (value : Bytes) : Prop :=
  value = [] ∧ r = ⟨0, 0⟩ ∨
    value ≠ [] ∧ ∃ before after, base = before ++ (value ++ after) ∧ before ≠ [] ∧
      r = ⟨UInt32.ofNat before.length, uint32Length value⟩

/-- The references to values are to the values where they stand. -/
theorem refers_refsTo {base before after : Bytes} {values : List Bytes} (shape : base = before ++ (area values ++ after))
    (behind : before ≠ []) : List.Forall₂ (Refers base) (refsTo before.length values) values := by
  induction values generalizing before with
  | nil => exact .nil
  | cons value values ih =>
    -- The value stands first, and the area of the others behind it.
    rw [refsTo]
    have split : base = (before ++ padTo4Bytes value) ++ (area values ++ after) := by
      rw [shape, area, List.flatMap_cons]
      simp only [List.append_assoc, area]
    refine .cons ?_ ?_
    · -- An empty value has the empty reference.
      rw [refTo]
      by_cases empty : value.length = 0
      · rw [if_pos empty]
        exact .inl ⟨List.length_eq_zero_iff.mp empty, rfl⟩
      · rw [if_neg empty]
        refine .inr ⟨fun nil => empty (by rw [nil]; rfl), before,
          List.replicate (align4 value.length - value.length) 0 ++ (area values ++ after), ?_, behind, rfl⟩
        rw [split, padTo4Bytes, List.append_assoc, List.append_assoc]
    · -- The others start behind the padding of this one.
      have later := ih split (by simp [behind])
      rwa [List.length_append, padTo4Bytes_length] at later

namespace Refers

variable {base value : Bytes} {r : ValueRef}

/-- The fields of a reference to a value that is not empty. -/
theorem fields (short : base.length < 2 ^ 32) {before after : Bytes} (shape : base = before ++ (value ++ after)) :
    (UInt32.ofNat before.length).toNat = before.length ∧ (uint32Length value).toNat = value.length := by
  have total : base.length = before.length + (value.length + after.length) := by
    rw [shape, List.length_append, List.length_append]
  exact ⟨UInt32.toNat_ofNat_of_lt' (by simp only [UInt32.size]; omega), toNat_uint32Length (by omega)⟩

/-- A reference to a value passes its check. -/
theorem validate (refers : Refers base r value) (short : base.length < 2 ^ 32) : r.validate base = .ok () := by
  rcases refers with ⟨rfl, rfl⟩ | ⟨some, before, after, shape, behind, rfl⟩
  · rfl
  · -- The offset and the size fit into four bytes.
    obtain ⟨offset, size⟩ := fields short shape
    have whole := toNat_uint32Length short
    have total : base.length = before.length + (value.length + after.length) := by
      rw [shape, List.length_append, List.length_append]
    have positive := List.length_pos_iff.mpr behind
    -- The value stands behind the table, so its offset is not zero.
    have nonzero : ¬ UInt32.ofNat before.length = 0 := by
      intro zero
      rw [zero] at offset
      simp only [UInt32.reduceToNat] at offset
      omega
    have low : UInt32.ofNat before.length ≤ uint32Length base := by
      rw [UInt32.le_iff_toNat_le, whole, offset]
      omega
    rw [ValueRef.validate, if_neg nonzero, Go.failIf_eq_ok, not_or, gt_iff_lt, gt_iff_lt, UInt32.not_lt, UInt32.not_lt]
    refine ⟨low, ?_⟩
    rw [UInt32.le_iff_toNat_le, UInt32.toNat_sub_of_le _ _ low, whole, size, offset]
    omega

/-- The bytes of a reference are the value. -/
theorem bytes (refers : Refers base r value) (short : base.length < 2 ^ 32) : r.bytes base = .ok value := by
  rw [ValueRef.bytes_of_validate (refers.validate short)]
  rcases refers with ⟨rfl, rfl⟩ | ⟨some, before, after, shape, behind, rfl⟩
  · simp
  · obtain ⟨offset, size⟩ := fields short shape
    rw [offset, size, shape, List.drop_left, List.take_left]

end Refers

/-- The loop passes over the reference to an empty value. -/
theorem dataBufferLoop_empty (base : Bytes) (dataStart : UInt32) (i : Nat) (refs : List ValueRef) (ends : Nat × Nat) :
    dataBufferLoop base dataStart i (⟨0, 0⟩ :: refs) ends = dataBufferLoop base dataStart (i + 1) refs ends := by
  have passes : (ValueRef.mk 0 0).validateDataBuffer base dataStart = .ok () := by
    rw [ValueRef.validateDataBuffer, show (ValueRef.mk 0 0).validate base = .ok () from rfl, Go.ok_bind,
      Go.failIf_bind_of_not (by simp)]
    rfl
  rw [dataBufferLoop, passes, Go.mapError_ok, Go.ok_bind, if_pos rfl]

/-- The loop goes on behind a value at the place of the next. -/
theorem dataBufferLoop_value {base : Bytes} {dataStart : UInt32} {r : ValueRef} {ends : Nat × Nat}
    (valid : r.validate base = .ok ()) (some : r.size ≠ 0) (aligned : r.offset % 4 = 0) (behind : dataStart ≤ r.offset)
    (placed : r.offset.toNat = ends.2) (i : Nat) (refs : List ValueRef) :
    dataBufferLoop base dataStart i (r :: refs) ends =
      dataBufferLoop base dataStart (i + 1) refs (r.offset.toNat + r.size.toNat, align4 (r.offset.toNat + r.size.toNat)) := by
  have passes : r.validateDataBuffer base dataStart = .ok () := by
    have fixed : ¬ (r.size ≠ 0 ∧ r.offset < dataStart) := fun both => UInt32.not_lt.mpr behind both.2
    rw [ValueRef.validateDataBuffer, valid, Go.ok_bind, Go.failIf_bind_of_not fixed, Go.failIf_eq_ok]
    exact not_not.mpr aligned
  rw [dataBufferLoop, passes, Go.mapError_ok, Go.ok_bind, if_neg some, Go.failIf_bind_of_not (by omega),
    Go.failIf_bind_of_not (by omega)]
  simp only [paddedEnd_eq]

/-- The references to values that follow one another from the place of the next pass the loop. -/
theorem dataBufferLoop_refsTo {base before after : Bytes} {values : List Bytes} {dataStart : UInt32} (i payloadEnd : Nat)
    (short : base.length < 2 ^ 32) (shape : base = before ++ (area values ++ after)) (behind : before ≠ [])
    (aligned : before.length % 4 = 0) (start : dataStart.toNat ≤ before.length) :
    ∃ last, dataBufferLoop base dataStart i (refsTo before.length values) (payloadEnd, before.length) =
      .ok (last, before.length + (area values).length) := by
  induction values generalizing before i payloadEnd with
  | nil => exact ⟨payloadEnd, rfl⟩
  | cons value values ih =>
    obtain ⟨first, -⟩ := List.forall₂_cons.mp (refers_refsTo shape behind)
    have split : base = (before ++ padTo4Bytes value) ++ (area values ++ after) := by
      rw [shape, area, List.flatMap_cons]
      simp only [List.append_assoc, area]
    have rounded := align4_mod value.length
    have wide : (before ++ padTo4Bytes value).length % 4 = 0 := by
      rw [List.length_append, padTo4Bytes_length]
      omega
    -- What is left of the loop has the value in front of it.
    have rest (payloadEnd : Nat) := ih (i + 1) payloadEnd split (by simp [behind]) wide
      (by rw [List.length_append]; omega)
    rw [List.length_append, padTo4Bytes_length] at rest
    have total : before.length + (area (value :: values)).length =
        before.length + align4 value.length + (area values).length := by
      rw [area, List.flatMap_cons, List.length_append, padTo4Bytes_length, area]
      omega
    rw [total, refsTo]
    -- An empty value is passed without a move.
    by_cases empty : value.length = 0
    · have none : refTo before.length value = ⟨0, 0⟩ := by rw [refTo, if_pos empty]
      have nowhere : align4 value.length = 0 := by rw [empty]; rfl
      rw [nowhere, Nat.add_zero] at rest ⊢
      rw [none, dataBufferLoop_empty]
      exact rest payloadEnd
    · -- A value is found at the place of the next, and the place moves behind its padding.
      have made : refTo before.length value = ⟨UInt32.ofNat before.length, uint32Length value⟩ := by
        rw [refTo, if_neg empty]
      have inner : base = before ++ (value ++ (List.replicate (align4 value.length - value.length) 0 ++
          (area values ++ after))) := by
        rw [split, padTo4Bytes, List.append_assoc, List.append_assoc]
      obtain ⟨offset, size⟩ := Refers.fields short inner
      have valid := first.validate short
      rw [made] at valid ⊢
      have some : uint32Length value ≠ 0 := by
        intro zero
        rw [zero] at size
        simp only [UInt32.reduceToNat] at size
        omega
      have multiple : UInt32.ofNat before.length % 4 = 0 := by
        rw [← UInt32.toNat_inj, UInt32.toNat_mod, offset]
        exact aligned
      rw [dataBufferLoop_value valid some multiple (by rw [UInt32.le_iff_toNat_le, offset]; exact start) offset]
      -- Rounding the end is rounding the size, for the place is aligned.
      have stop : align4 (before.length + value.length) = before.length + align4 value.length := by
        unfold align4
        omega
      simp only [offset, size, stop]
      exact rest _

/-- Values that follow one another behind the start end where the buffer does. -/
theorem dataBufferEnds_refsTo {base before : Bytes} {values : List Bytes} {dataStart : UInt32}
    (short : base.length < 2 ^ 32) (shape : base = before ++ area values) (behind : before ≠ [])
    (aligned : before.length % 4 = 0) (start : dataStart.toNat = before.length) :
    ∃ last, dataBufferEnds base dataStart (refsTo before.length values) = .ok (last, base.length) := by
  have inside : ¬ dataStart.toNat > base.length := by
    rw [start, shape, List.length_append]
    omega
  have open' : base = before ++ (area values ++ []) := by rw [List.append_nil, shape]
  obtain ⟨last, passed⟩ := dataBufferLoop_refsTo 0 before.length short open' behind aligned (Nat.le_of_eq start)
  refine ⟨last, ?_⟩
  rw [dataBufferEnds, Go.failIf_bind_of_not inside, start, passed, shape, List.length_append]

/-- Values that follow one another behind the start fill the buffer. -/
theorem validateDataBufferRefs_refsTo {base before : Bytes} {values : List Bytes} {dataStart : UInt32}
    (short : base.length < 2 ^ 32) (shape : base = before ++ area values) (behind : before ≠ [])
    (aligned : before.length % 4 = 0) (start : dataStart.toNat = before.length) :
    validateDataBufferRefs base dataStart (refsTo before.length values) = .ok () := by
  obtain ⟨last, ends⟩ := dataBufferEnds_refsTo short shape behind aligned start
  rw [validateDataBufferRefs, ends, Go.ok_bind, Go.failIf_bind_of_not (by simp), Go.failIf_eq_ok]
  simp

/-- The references of a table are read in order. -/
theorem mapM_readOffsetSizeRef {data header after : Bytes} {refs : List ValueRef} {tableOffset : UInt32}
    (short : data.length < 2 ^ 32) (shape : data = header ++ (refs.flatMap ValueRef.encode ++ after))
    (placed : header.length = tableOffset.toNat) :
    ((List.range refs.length).mapM fun i =>
      Go.mapError (Error.wrap "reference %d" [i]) (readOffsetSizeRef data (tableOffset + UInt32.ofNat i * 8))) = .ok refs := by
  have total : data.length = header.length + (refs.length * 8 + after.length) := by
    rw [shape, List.length_append, List.length_append, encode_flatMap_length]
  -- The references are those at the indices of the loop.
  have listed : (List.range refs.length).map (fun i => refs.getD i ⟨0, 0⟩) = refs := by
    apply List.ext_getElem (by simp)
    intro i _ inside
    simp [List.getD_eq_getElem?_getD, inside]
  conv_rhs => rw [← listed]
  refine Go.mapM_eq_ok fun i member => Go.mapError_eq_ok.mpr ?_
  have inside := List.mem_range.mp member
  -- The reference at an index stands behind those before it.
  have split : refs = refs.take i ++ (refs.getD i ⟨0, 0⟩ :: refs.drop (i + 1)) := by
    rw [List.getD_eq_getElem?_getD, List.getElem?_eq_getElem inside, Option.getD_some, ← List.drop_eq_getElem_cons inside,
      List.take_append_drop]
  have place : (header ++ (refs.take i).flatMap ValueRef.encode).length = (tableOffset + UInt32.ofNat i * 8).toNat := by
    have index : (UInt32.ofNat i).toNat = i := UInt32.toNat_ofNat_of_lt' (by simp only [UInt32.size]; omega)
    rw [UInt32.toNat_add, UInt32.toNat_mul, index, List.length_append, encode_flatMap_length, List.length_take]
    simp only [UInt32.reduceToNat]
    omega
  have around : data = (header ++ (refs.take i).flatMap ValueRef.encode) ++ ((refs.getD i ⟨0, 0⟩).encode ++
      ((refs.drop (i + 1)).flatMap ValueRef.encode ++ after)) := by
    rw [shape]
    conv_lhs => rw [split]
    simp only [List.flatMap_append, List.flatMap_cons, List.append_assoc]
  exact readOffsetSizeRef_append short around place

/-- A table is accepted with the references to its elements. -/
theorem offsetSizeRefs_refsTo {data header : Bytes} {elements : List Bytes} {tableOffset count : UInt32}
    (short : data.length < 2 ^ 32) (aligned : header.length % 4 = 0) (shape : data = appendOffsetSizeElements header elements)
    (placed : tableOffset.toNat = header.length) (counted : count.toNat = elements.length) :
    offsetSizeRefs data tableOffset count = .ok (refsTo (header.length + elements.length * 8) elements) := by
  rw [appendOffsetSizeElements_eq aligned] at shape
  obtain ⟨refs, made⟩ : ∃ refs, refs = refsTo (header.length + elements.length * 8) elements := ⟨_, rfl⟩
  have number : refs.length = elements.length := by rw [made, refsTo_length]
  rw [← made] at shape ⊢
  -- The table is inside the data.
  have total : data.length = header.length + (elements.length * 8 + (area elements).length) := by
    rw [shape, List.length_append, List.length_append, encode_flatMap_length, number]
  have whole := toNat_uint32Length short
  have low : tableOffset ≤ uint32Length data := by
    rw [UInt32.le_iff_toNat_le, whole, placed]
    omega
  -- So the guard on its count lets it pass.
  have passes : ¬ (tableOffset > uint32Length data ∨ count > (uint32Length data - tableOffset) / 8) := by
    rw [not_or, gt_iff_lt, gt_iff_lt, UInt32.not_lt, UInt32.not_lt]
    refine ⟨low, ?_⟩
    rw [UInt32.le_iff_toNat_le, UInt32.toNat_div, UInt32.toNat_sub_of_le _ _ low, whole, placed, counted]
    simp only [UInt32.reduceToNat]
    omega
  have read := mapM_readOffsetSizeRef short shape placed.symm
  rw [number, ← counted] at read
  -- The values start behind the table.
  have start : (tableOffset + count * 8).toNat = (header ++ refs.flatMap ValueRef.encode).length := by
    rw [toNat_dataStart (n := data.length) (by omega) short, List.length_append, encode_flatMap_length, number, placed,
      counted]
  have filled : validateDataBufferRefs data (tableOffset + count * 8) refs = .ok () := by
    rw [← List.append_assoc] at shape
    by_cases none : elements = []
    · -- Without elements the buffer ends behind the header.
      have whole : (tableOffset + count * 8).toNat = data.length := by
        rw [start, shape, none]
        simp [area]
      have empty : refs = [] := by rw [made, none, refsTo]
      rw [empty, validateDataBufferRefs, dataBufferEnds, Go.failIf_bind_of_not (by omega), dataBufferLoop, Go.ok_bind,
        Go.failIf_bind_of_not (by omega), Go.failIf_eq_ok]
      omega
    · -- With elements the values stand behind the table.
      have some : 0 < elements.length := List.length_pos_iff.mpr none
      have behind : header ++ refs.flatMap ValueRef.encode ≠ [] := by
        apply List.length_pos_iff.mp
        rw [List.length_append, encode_flatMap_length, number]
        omega
      have place : (header ++ refs.flatMap ValueRef.encode).length = header.length + elements.length * 8 := by
        rw [List.length_append, encode_flatMap_length, number]
      have passed := validateDataBufferRefs_refsTo short shape behind (by rw [place]; omega) start
      rwa [place, ← made] at passed
  rw [offsetSizeRefs, Go.failIf_bind_of_not passes, read, Go.ok_bind, filled]
  rfl

/-! Tables as a whole. -/

/-- Read a table and the values that it refers to. -/
def readElements (data : Bytes) (tableOffset count : UInt32) : Go Error (List Bytes) := do
  let refs ← offsetSizeRefs data tableOffset count
  refs.mapM fun r => r.bytes data

/-- The length of a table and its elements behind a header. -/
def tableLength (header : Bytes) (elements : List Bytes) : Nat :=
  header.length + elements.length * 8 + (elements.map fun element => align4 element.length).sum

/-- A table and its elements take their length. -/
theorem appendOffsetSizeElements_length {header : Bytes} (aligned : header.length % 4 = 0) (elements : List Bytes) :
    (appendOffsetSizeElements header elements).length = tableLength header elements := by
  rw [appendOffsetSizeElements_eq aligned, List.length_append, List.length_append, encode_flatMap_length, refsTo_length,
    area_length, tableLength]
  omega

/-- The references of a table are to its elements. -/
theorem refers_elements {data header : Bytes} {elements : List Bytes} (aligned : header.length % 4 = 0)
    (shape : data = appendOffsetSizeElements header elements) :
    List.Forall₂ (Refers data) (refsTo (header.length + elements.length * 8) elements) elements := by
  rw [appendOffsetSizeElements_eq aligned] at shape
  by_cases none : elements = []
  · rw [none]
    exact .nil
  · have some : 0 < elements.length := List.length_pos_iff.mpr none
    obtain ⟨table, made⟩ : ∃ table, table =
        header ++ (refsTo (header.length + elements.length * 8) elements).flatMap ValueRef.encode := ⟨_, rfl⟩
    have place : table.length = header.length + elements.length * 8 := by
      rw [made, List.length_append, encode_flatMap_length, refsTo_length]
    rw [← List.append_assoc, ← made, ← List.append_nil (area elements)] at shape
    have behind : table ≠ [] := List.length_pos_iff.mp (by omega)
    have refers := refers_refsTo shape behind
    rwa [place] at refers

/-- A table that is short enough is read back. -/
theorem readElements_appendOffsetSizeElements {header : Bytes} {elements : List Bytes} (aligned : header.length % 4 = 0)
    (short : tableLength header elements < 2 ^ 32) :
    readElements (appendOffsetSizeElements header elements) (UInt32.ofNat header.length) (UInt32.ofNat elements.length) =
      .ok elements := by
  have size := appendOffsetSizeElements_length aligned elements
  -- The offset and the count of a table this short fit.
  have placed : (UInt32.ofNat header.length).toNat = header.length := by
    apply UInt32.toNat_ofNat_of_lt'
    unfold tableLength at short
    simp only [UInt32.size]
    omega
  have counted : (UInt32.ofNat elements.length).toNat = elements.length := by
    apply UInt32.toNat_ofNat_of_lt'
    unfold tableLength at short
    simp only [UInt32.size]
    omega
  obtain ⟨data, shape⟩ : ∃ data, data = appendOffsetSizeElements header elements := ⟨_, rfl⟩
  rw [← shape] at size ⊢
  rw [← size] at short
  rw [readElements, offsetSizeRefs_refsTo short aligned shape placed counted, Go.ok_bind]
  exact Go.mapM_of_forall₂ ((refers_elements aligned shape).imp fun _ _ refers => refers.bytes short)

/-- A table that is accepted is short enough for its offsets. -/
theorem length_lt_of_readElements {data : Bytes} {tableOffset count : UInt32} {elements : List Bytes}
    (read : readElements data tableOffset count = .ok elements) : data.length < 2 ^ 32 := by
  rw [readElements, Go.bind_eq_ok] at read
  obtain ⟨refs, accepted, -⟩ := read
  exact ((ensures_offsetSizeRefs data tableOffset count).2 refs accepted).2.2.short

/-- The entries of a table inside the buffer do not wrap. -/
theorem toNat_entryOffset {tableOffset count : UInt32} {i n : Nat} (entry : i < count.toNat)
    (inside : tableOffset.toNat + count.toNat * 8 ≤ n) (bound : n < 2 ^ 32) :
    (tableOffset + UInt32.ofNat i * 8).toNat = tableOffset.toNat + i * 8 := by
  have index : (UInt32.ofNat i).toNat = i := UInt32.toNat_ofNat_of_lt' (by simp only [UInt32.size]; omega)
  rw [UInt32.toNat_add, UInt32.toNat_mul, index]
  simp only [UInt32.reduceToNat]
  omega

/-- A table is read back exactly when it is short enough for its four-byte offsets, and an accepted table refers to values
inside the buffer behind it, aligned, in order and with nothing but padding between them, without a sum that wraps or a
value out of range. -/
theorem offset_tables (header : Bytes) (elements : List Bytes) (aligned : header.length % 4 = 0) :
    (readElements (appendOffsetSizeElements header elements) (UInt32.ofNat header.length) (UInt32.ofNat elements.length) =
        .ok elements ↔ tableLength header elements < 2 ^ 32) ∧
    ∀ (data : Bytes) (tableOffset count : UInt32), (offsetSizeRefs data tableOffset count).Ensures fun refs =>
      refs.length = count.toNat ∧
      (∀ r ∈ refs, r.size ≠ 0 → tableOffset.toNat + count.toNat * 8 ≤ r.offset.toNat ∧
        r.offset.toNat + r.size.toNat ≤ data.length ∧ r.offset.toNat % 4 = 0) ∧
      (refs.filter fun r => r.size ≠ 0).Pairwise (fun a b => a.offset.toNat + a.size.toNat ≤ b.offset.toNat) ∧
      Tiles align4 (tableOffset.toNat + count.toNat * 8) (spans refs) data.length ∧
      data.length < 2 ^ 32 ∧ (tableOffset + count * 8).toNat = tableOffset.toNat + count.toNat * 8 ∧
      (∀ i < count.toNat, (tableOffset + UInt32.ofNat i * 8).toNat = tableOffset.toNat + i * 8) ∧
      ∀ r ∈ refs, (r.offset + r.size).toNat = r.offset.toNat + r.size.toNat ∧
        r.bytes data = .ok ((data.drop r.offset.toNat).take r.size.toNat) := by
  refine ⟨⟨fun read => ?_, readElements_appendOffsetSizeElements aligned⟩, fun data tableOffset count => ?_⟩
  · rw [← appendOffsetSizeElements_length aligned]
    exact length_lt_of_readElements read
  · refine (ensures_offsetSizeRefs data tableOffset count).mono fun refs accepted => ?_
    obtain ⟨number, start, filled⟩ := accepted
    obtain ⟨inside, ordered, inRange⟩ := filled.sound
    have extent := filled.tiles.le le_align4
    exact ⟨number, inside, ordered, filled.tiles, filled.short, start,
      fun i entry => toNat_entryOffset entry extent filled.short, inRange⟩

/-- A table of two elements, one of them empty, is read back. -/
theorem twoElements_recovered : tableLength [2, 0, 0, 0] [[7, 8, 9], []] < 2 ^ 32 ∧
    readElements (appendOffsetSizeElements [2, 0, 0, 0] [[7, 8, 9], []]) 4 2 = .ok [[7, 8, 9], []] :=
  ⟨by decide, (offset_tables [2, 0, 0, 0] [[7, 8, 9], []] rfl).1.mpr (by decide)⟩

/-- A table with an element whose length wraps is not read back. -/
theorem readElements_long {header element : Bytes} (aligned : header.length % 4 = 0) (long : 2 ^ 32 ≤ element.length)
    (tableOffset count : UInt32) : readElements (appendOffsetSizeElements header [element]) tableOffset count ≠ .ok [element] := by
  intro read
  have short := length_lt_of_readElements read
  have up := le_align4 element.length
  rw [appendOffsetSizeElements_length aligned, tableLength, List.map_singleton, List.sum_singleton] at short
  omega

/-- An element of four gibibytes is lost. -/
theorem longElement_lost : ¬ readElements (appendOffsetSizeElements [] [List.replicate (2 ^ 32) 0]) 0 1 =
    .ok [List.replicate (2 ^ 32) 0] :=
  readElements_long rfl (Nat.le_of_eq List.length_replicate.symm) 0 1

end Wwan.Mbim
