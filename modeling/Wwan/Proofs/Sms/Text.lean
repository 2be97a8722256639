import Wwan.Sms.Text

/-! Encoded text of either alphabet decodes to the text it came from. -/

namespace Wwan.Sms

/-- A rune of the default alphabet sits in the table at its own code. -/
theorem gsm7DefaultEncode_spec {r : Char} {value : UInt8}
    (encoded : gsm7DefaultEncode r = some value) :
    value ≤ 0x7f ∧ value ≠ 0x1b ∧ gsm7DefaultDecode[value.toNat]? = some r := by
  unfold gsm7DefaultEncode at encoded
  split at encoded
  · simp at encoded
  · rename_i nonzero
    obtain ⟨i, located, rfl⟩ := Option.map_eq_some_iff.mp encoded
    obtain ⟨inside, found, -⟩ := List.findIdx?_eq_some_iff_getElem.mp located
    have small : i < 128 := inside
    have code : (UInt8.ofNat i).toNat = i := UInt8.toNat_ofNat_of_lt' (by simp [UInt8.size]; omega)
    have entry : gsm7DefaultDecode[i]? = some r := by
      rw [List.getElem?_eq_getElem inside, eq_of_beq found]
    refine ⟨?_, ?_, by rw [code, entry]⟩
    · rw [UInt8.le_iff_toNat_le, code]
      simp
      omega
    · -- The table holds the zero rune at the escape code, and the reverse table skips it.
      intro escape
      have : i = 27 := by rw [← code, escape]; rfl
      subst this
      simp [gsm7DefaultDecode] at entry
      exact nonzero entry.symm

/-- A rune of the extension table has a code that decodes to it. -/
theorem gsm7ExtensionEncode_spec {r : Char} {value : UInt8}
    (encoded : gsm7ExtensionEncode r = some value) :
    value ≤ 0x7f ∧ value ≠ 0x1b ∧ gsm7ExtensionDecode value = some r := by
  obtain ⟨entry, located, rfl⟩ := Option.map_eq_some_iff.mp encoded
  have member := List.mem_of_find?_eq_some located
  have named := List.find?_some located
  have table : ∀ entry ∈ gsm7ExtensionTable,
      entry.1 ≤ 0x7f ∧ entry.1 ≠ 0x1b ∧ gsm7ExtensionDecode entry.1 = some entry.2 := by
    decide
  have spec := table entry member
  rwa [eq_of_beq named] at spec

/-- A character of the default alphabet, whose zero marks the escape code, or of the extension table. -/
def InGSM7Tables (r : Char) : Prop :=
  (r ≠ '\x00' ∧ r ∈ gsm7DefaultDecode) ∨ r ∈ gsm7ExtensionTable.map Prod.snd

/-- A rune has septets exactly when one of the tables has it. -/
theorem encodeGSM7Rune_isSome_iff (r : Char) : (encodeGSM7Rune r).isSome ↔ InGSM7Tables r := by
  -- The reverse tables are looked up one after the other.
  have default : (gsm7DefaultEncode r).isSome ↔ r ≠ '\x00' ∧ r ∈ gsm7DefaultDecode := by
    unfold gsm7DefaultEncode
    by_cases zero : r = '\x00'
    · simp [zero]
    · simp [zero, List.isSome_idxOf?]
  have extension : (gsm7ExtensionEncode r).isSome ↔ r ∈ gsm7ExtensionTable.map Prod.snd := by
    simp [gsm7ExtensionEncode, List.find?_isSome]
  rw [InGSM7Tables, ← default, ← extension, encodeGSM7Rune]
  cases gsm7DefaultEncode r with
  | some value => simp
  | none => cases gsm7ExtensionEncode r <;> simp

/-- Every code but the escape stands for a character that has septets. -/
theorem encodeGSM7Rune_gsm7DefaultDecode {value : UInt8} (septet : value ≤ 0x7f) (plain : value ≠ 0x1b) :
    ∃ r, gsm7DefaultDecode[value.toNat]? = some r ∧ (encodeGSM7Rune r).isSome := by
  have small : value.toNat < gsm7DefaultDecode.length := by
    have := UInt8.le_iff_toNat_le.mp septet
    simp at this
    show value.toNat < 128
    omega
  -- Only the entry of the escape is the zero rune.
  have table : ∀ n : Fin 128, n.val ≠ 27 → gsm7DefaultDecode[n.val]? ≠ some '\x00' := by decide +kernel
  have found := List.getElem?_eq_getElem small
  refine ⟨_, found, (encodeGSM7Rune_isSome_iff _).mpr (.inl ⟨fun zero => ?_, List.getElem_mem small⟩)⟩
  rw [zero] at found
  exact table ⟨value.toNat, small⟩ (fun same => plain (UInt8.toNat_inj.mp same)) found

namespace GSM7

/-- The septets of one rune decode to that rune and leave the rest to be decoded. -/
theorem unmarshalSeptets_append {r : Char} {encoded : Bytes}
    (representable : encodeGSM7Rune r = some encoded) (rest : Bytes) :
    unmarshalSeptets false (encoded ++ rest) =
      (do return Utf8.encodeRune r ++ (← unmarshalSeptets false rest)) := by
  unfold encodeGSM7Rune at representable
  split at representable
  · -- A default code is read directly.
    rename_i value found
    simp only [Option.some.injEq] at representable
    subst representable
    obtain ⟨small, notEscape, entry⟩ := gsm7DefaultEncode_spec found
    have septet : ¬ value > 0x7f := UInt8.not_lt.mpr small
    simp [unmarshalSeptets, septet, notEscape, Go.index_eq_ok entry]
  · split at representable
    · -- An extension code is read after its escape.
      rename_i value found
      simp only [Option.some.injEq] at representable
      subst representable
      obtain ⟨small, notEscape, entry⟩ := gsm7ExtensionEncode_spec found
      have septet : ¬ value > 0x7f := UInt8.not_lt.mpr small
      have escape : ¬ (0x1b : UInt8) > 0x7f := by decide
      simp [unmarshalSeptets, septet, escape, notEscape, entry]
    · simp at representable

/-- Encoding a nonempty rune sequence encodes its first rune and then the others. -/
theorem marshalRunes_cons_eq_ok {r : Char} {rs : List Char} {septets : Bytes} :
    marshalRunes (r :: rs) = .ok septets ↔
      ∃ encoded rest, encodeGSM7Rune r = some encoded ∧ marshalRunes rs = .ok rest ∧
        septets = encoded ++ rest := by
  cases representable : encodeGSM7Rune r with
  | none => simp [marshalRunes, representable]
  | some encoded =>
    simp only [marshalRunes, representable, Go.bind_eq_ok, Go.pure_eq, Except.ok.injEq,
      Option.some.injEq, exists_eq_left', exists_and_left]
    constructor
    · rintro ⟨rest, marshalled, rfl⟩
      exact ⟨rest, marshalled, rfl⟩
    · rintro ⟨rest, marshalled, rfl⟩
      exact ⟨rest, marshalled, rfl⟩

/-- Decoding encoded runes gives their string. -/
theorem unmarshalBinary_marshalRunes {rs : List Char} {septets : Bytes}
    (marshalled : marshalRunes rs = .ok septets) :
    unmarshalBinary septets = .ok (Utf8.encodeRunes rs) := by
  unfold unmarshalBinary
  induction rs generalizing septets with
  | nil =>
    simp only [marshalRunes, Go.pure_eq, Except.ok.injEq] at marshalled
    subst marshalled
    simp [unmarshalSeptets]
  | cons r rs ih =>
    obtain ⟨encoded, rest, representable, tail, rfl⟩ := marshalRunes_cons_eq_ok.mp marshalled
    rw [unmarshalSeptets_append representable, ih tail]
    simp

/-- An encodable string is valid UTF-8, because the error rune has no code. -/
theorem encodeRunes_runes_of_marshal {t : GoString} {septets : Bytes}
    (marshalled : marshalBinary t = .ok septets) : Utf8.encodeRunes (Utf8.runes t) = t := by
  refine Utf8.encodeRunes_runes ?_
  unfold marshalBinary at marshalled
  generalize Utf8.runes t = rs at marshalled
  induction rs generalizing septets with
  | nil => simp
  | cons r rs ih =>
    obtain ⟨encoded, rest, representable, tail, rfl⟩ := marshalRunes_cons_eq_ok.mp marshalled
    rw [List.mem_cons, not_or]
    refine ⟨?_, ih tail⟩
    rintro rfl
    have : encodeGSM7Rune Utf8.runeError = none := by decide
    simp [this] at representable

/-! What decoding accepts, and what it returns. -/

/-- Text has septets exactly when each of its runes has. -/
theorem marshalRunes_isOk (rs : List Char) :
    (∃ septets, marshalRunes rs = .ok septets) ↔ ∀ r ∈ rs, (encodeGSM7Rune r).isSome := by
  induction rs with
  | nil => simp [marshalRunes]
  | cons r rs ih =>
    rw [List.forall_mem_cons, ← ih, Option.isSome_iff_exists]
    simp only [marshalRunes_cons_eq_ok]
    constructor
    · rintro ⟨septets, encoded, rest, representable, tail, -⟩
      exact ⟨⟨encoded, representable⟩, rest, tail⟩
    · rintro ⟨⟨encoded, representable⟩, rest, tail⟩
      exact ⟨encoded ++ rest, encoded, rest, representable, tail, rfl⟩

/-- The septets end in an escape that is not the second half of an escape pair. -/
def endsInEscape : Bytes → Bool
  | [] => false
  | [value] => value = 0x1b
  | value :: next :: rest =>
    -- An escape takes the value behind it, whatever that is.
    if value = 0x1b then endsInEscape rest else endsInEscape (next :: rest)

/-- A septet that is no escape leaves the rest alone. -/
theorem endsInEscape_cons {value : UInt8} (plain : value ≠ 0x1b) (rest : Bytes) :
    endsInEscape (value :: rest) = endsInEscape rest := by
  cases rest with
  | nil => simp [endsInEscape, plain]
  | cons next rest => rw [endsInEscape, if_neg plain]

/-- The septets that the decoder still has to answer for, with the escape it remembers. -/
def pending (escaped : Bool) (septets : Bytes) : Bytes := if escaped then 0x1b :: septets else septets

/-- A septet behind an escape is decoded to a rune that has septets. -/
theorem unmarshalSeptets_escaped {value : UInt8} (septet : value ≤ 0x7f) (rest : Bytes) :
    ∃ r, (encodeGSM7Rune r).isSome ∧ unmarshalSeptets true (value :: rest) =
      (do return Utf8.encodeRune r ++ (← unmarshalSeptets false rest)) := by
  have small : ¬ value > 0x7f := UInt8.not_lt.mpr septet
  -- The extension table, the default alphabet behind it and the space are all encodable.
  by_cases escape : value = 0x1b
  · subst escape
    exact ⟨' ', by decide, rfl⟩
  · cases found : gsm7ExtensionDecode value with
    | some r =>
      have table : ∀ entry ∈ gsm7ExtensionTable, (encodeGSM7Rune entry.2).isSome := by decide +kernel
      obtain ⟨entry, located, rfl⟩ := Option.map_eq_some_iff.mp found
      refine ⟨entry.2, table entry (List.mem_of_find?_eq_some located), ?_⟩
      simp [unmarshalSeptets, small, found, escape]
    | none =>
      obtain ⟨r, entry, encodable⟩ := encodeGSM7Rune_gsm7DefaultDecode septet escape
      exact ⟨r, encodable, by simp [unmarshalSeptets, small, found, escape, Go.index_eq_ok entry]⟩

/-- What the decoder does with its first septet. -/
theorem unmarshalSeptets_cons {value : UInt8} (septet : value ≤ 0x7f) (escaped : Bool) (rest : Bytes) :
    (escaped = false ∧ value = 0x1b ∧ unmarshalSeptets escaped (value :: rest) = unmarshalSeptets true rest) ∨
    ((escaped = true ∨ value ≠ 0x1b) ∧ ∃ r, (encodeGSM7Rune r).isSome ∧ unmarshalSeptets escaped (value :: rest) =
      (do return Utf8.encodeRune r ++ (← unmarshalSeptets false rest))) := by
  have small : ¬ value > 0x7f := UInt8.not_lt.mpr septet
  cases escaped with
  | true =>
    obtain ⟨r, encodable, same⟩ := unmarshalSeptets_escaped septet rest
    exact .inr ⟨.inl rfl, r, encodable, same⟩
  | false =>
    by_cases escape : value = 0x1b
    · refine .inl ⟨rfl, escape, ?_⟩
      rw [unmarshalSeptets, if_neg small, if_neg (by simp), if_pos escape]
    · obtain ⟨r, entry, encodable⟩ := encodeGSM7Rune_gsm7DefaultDecode septet escape
      refine .inr ⟨.inr escape, r, encodable, ?_⟩
      rw [unmarshalSeptets, if_neg small, if_neg (by simp), if_neg escape, Go.index_eq_ok entry]
      rfl

/-- Decoding fails at a value that is no septet or at an escape without a second half, and else it returns. -/
theorem unmarshalSeptets_cases (escaped : Bool) (septets : Bytes) :
    (((∃ value ∈ septets, value > 0x7f) ∨ endsInEscape (pending escaped septets) = true) ∧
      ∃ err, unmarshalSeptets escaped septets = Go.fail err) ∨
    (¬ ((∃ value ∈ septets, value > 0x7f) ∨ endsInEscape (pending escaped septets) = true) ∧
      ∃ rs, (∀ r ∈ rs, (encodeGSM7Rune r).isSome) ∧ unmarshalSeptets escaped septets = .ok (Utf8.encodeRunes rs)) := by
  -- Induction on the septets, with the escape that is still open kept general.
  induction septets generalizing escaped with
  | nil =>
    cases escaped with
    | true => exact .inl ⟨.inr rfl, _, rfl⟩
    | false => exact .inr ⟨by simp [pending, endsInEscape], [], by simp, rfl⟩
  | cons value rest ih =>
    by_cases septet : value ≤ 0x7f
    · have small : ¬ value > 0x7f := UInt8.not_lt.mpr septet
      simp only [List.mem_cons, exists_eq_or_imp, small, false_or]
      rcases unmarshalSeptets_cons septet escaped rest with ⟨rfl, rfl, same⟩ | ⟨shift, r, encodable, same⟩
      · -- The escape is remembered, so that what is pending stays the same.
        rw [same]
        exact ih true
      · -- A rune is completed, and nothing is pending behind it.
        have moved : endsInEscape (pending escaped (value :: rest)) = endsInEscape (pending false rest) := by
          rcases shift with rfl | plain
          · rfl
          · cases escaped with
            | true => rfl
            | false => exact endsInEscape_cons plain rest
        rw [moved, same]
        rcases ih false with ⟨bad, err, failed⟩ | ⟨good, rs, all, decoded⟩
        · exact .inl ⟨bad, err, by rw [failed, Go.fail_bind]⟩
        · refine .inr ⟨good, r :: rs, by simpa using ⟨encodable, all⟩, ?_⟩
          rw [decoded, Go.ok_bind, Utf8.encodeRunes_cons]
          rfl
    · -- The value is no septet.
      have large : value > 0x7f := UInt8.not_le.mp septet
      refine .inl ⟨.inl ⟨value, by simp, large⟩, .notASeptet value, ?_⟩
      rw [unmarshalSeptets, if_pos large]

/-- Encoded runes do not end in an escape. -/
theorem endsInEscape_of_marshalRunes {rs : List Char} {septets : Bytes} (marshalled : marshalRunes rs = .ok septets) :
    endsInEscape septets = false := by
  -- They decode, so that no escape is left over.
  have decoded := unmarshalBinary_marshalRunes marshalled
  rcases unmarshalSeptets_cases false septets with ⟨-, err, failed⟩ | ⟨good, -⟩
  · exact absurd (failed.symm.trans decoded) (Go.fail_ne_ok err _)
  · rw [← Bool.not_eq_true]
    exact fun escape => good (.inr escape)

/-- Text of the alphabet survives encoding and decoding, decoding fails exactly on values that are no septets and on an
escape at the end, and decoded text can be encoded again. -/
theorem codec_laws (text : GoString) (septets : Bytes) :
    ((∀ r ∈ Utf8.runes text, InGSM7Tables r) →
      ∃ encoded, marshalBinary text = .ok encoded ∧ unmarshalBinary encoded = .ok text) ∧
    ((∃ err, unmarshalBinary septets = Go.fail err) ↔
      (∃ value ∈ septets, value > 0x7f) ∨ endsInEscape septets = true) ∧
    ((∀ err, unmarshalBinary septets ≠ Go.fail err) → ∃ decoded, unmarshalBinary septets = .ok decoded ∧
      (∀ r ∈ Utf8.runes decoded, (encodeGSM7Rune r).isSome) ∧
      ∃ again, marshalBinary decoded = .ok again ∧ unmarshalBinary again = .ok decoded) := by
  refine ⟨fun inside => ?_, ?_, fun returned => ?_⟩
  · obtain ⟨encoded, marshalled⟩ := (marshalRunes_isOk (Utf8.runes text)).mpr fun r member =>
      (encodeGSM7Rune_isSome_iff r).mpr (inside r member)
    refine ⟨encoded, marshalled, ?_⟩
    rw [unmarshalBinary_marshalRunes marshalled, encodeRunes_runes_of_marshal marshalled]
  · rcases unmarshalSeptets_cases false septets with ⟨bad, failed⟩ | ⟨good, rs, -, decoded⟩
    · exact ⟨fun _ => bad, fun _ => failed⟩
    · refine ⟨fun failed => ?_, fun bad => absurd bad good⟩
      obtain ⟨err, failed⟩ := failed
      exact absurd (failed.symm.trans decoded) (Go.fail_ne_ok err _)
  · rcases unmarshalSeptets_cases false septets with ⟨-, err, failed⟩ | ⟨-, rs, all, decoded⟩
    · exact absurd failed (returned err)
    · -- The runes of the decoded text are those that were written.
      obtain ⟨again, marshalled⟩ := (marshalRunes_isOk rs).mpr all
      refine ⟨_, decoded, by simpa using all, again, ?_, unmarshalBinary_marshalRunes marshalled⟩
      rw [marshalBinary, Utf8.runes_encodeRunes, marshalled]

end GSM7

/-- Units with paired surrogates pass the surrogate check. -/
theorem checkSurrogates_of_wellFormed {units : List UInt16}
    (paired : Utf16.wellFormed units = true) : checkSurrogates units = .ok () := by
  -- The check and the predicate take the same path through the units.
  induction units using checkSurrogates.induct with
  | case1 => rw [checkSurrogates]; rfl
  | case2 unit high => simp [Utf16.wellFormed, high] at paired
  | case3 unit high next rest low ih =>
    simp only [Utf16.wellFormed, high, if_true, low, Bool.true_and] at paired
    simp [checkSurrogates, high, low, ih paired]
  | case4 unit high next rest low =>
    simp [Utf16.wellFormed, high, low] at paired
  | case5 unit rest high low =>
    rw [Utf16.wellFormed.eq_def] at paired
    simp [high, low] at paired
  | case6 unit rest high low ih =>
    rw [Utf16.wellFormed.eq_def] at paired
    simp only [high, low] at paired
    rw [checkSurrogates.eq_def]
    simpa [high, low] using ih (by simpa using paired)

/-- Decoding the code units of runes gives their string, in either byte order. -/
theorem unmarshalUTF16_encode (rs : List Char) (order : Utf16.ByteOrder) :
    unmarshalUTF16 (order.bytes (Utf16.encode rs)) order = .ok (Utf8.encodeRunes rs) := by
  simp [unmarshalUTF16, checkSurrogates_of_wellFormed]

/-- A marshalled string is the conversion of its runes. -/
theorem marshalUTF16_eq_ok {t : GoString} {order : Utf16.ByteOrder} {payload : Bytes}
    (marshalled : marshalUTF16 t order = .ok payload) :
    Utf8.encodeRunes (Utf8.runes t) = t ∧ payload = order.bytes (Utf16.encode (Utf8.runes t)) := by
  unfold marshalUTF16 at marshalled
  split at marshalled
  · simp at marshalled
  · rename_i valid
    simp only [Go.pure_eq, Except.ok.injEq] at marshalled
    exact ⟨Utf8.encodeRunes_runes_of_valid (by simpa using valid), marshalled.symm⟩

end Wwan.Sms
