import Wwan.Modem.Ussd
import Wwan.Proofs.Sms.Septets
import Wwan.Proofs.Sms.Split
import Wwan.Proofs.Sms.Unicode

/-! Which texts of supplementary services survive their encoding. -/

namespace Wwan.Modem.Mbim

open Sms (InGSM7Tables septetCount)
open Greedy (total)

/-- The text fills its septets up with a carriage return of its own. -/
def EndsLikePadding (text : GoString) : Prop :=
  (∀ r ∈ Utf8.runes text, InGSM7Tables r) ∧ total septetCount (Utf8.runes text) % 8 = 0 ∧
    (Utf8.runes text).getLast? = some '\r'

/-- Only the carriage return has the septets of a carriage return at the end. -/
theorem getLast?_encodeGSM7Rune {r : Char} {encoded : Bytes} (found : Sms.encodeGSM7Rune r = some encoded) :
    encoded.getLast? = some 0x0d ↔ r = '\r' := by
  constructor
  · intro last
    unfold Sms.encodeGSM7Rune at found
    split at found
    · -- The rune has a code of its own in the default table.
      rename_i value located
      cases found
      simp only [List.getLast?_singleton, Option.some.injEq] at last
      subst last
      have entry := (Sms.gsm7DefaultEncode_spec located).2.2
      have table : Sms.gsm7DefaultDecode[(0x0d : UInt8).toNat]? = some '\r' := by decide
      exact (Option.some.inj (table.symm.trans entry)).symm
    · -- The rune is in the extension table, whose second halves hold no carriage return.
      split at found
      · rename_i value located
        cases found
        simp at last
        subst last
        have entry := (Sms.gsm7ExtensionEncode_spec located).2.2
        have table : Sms.gsm7ExtensionDecode 0x0d = none := by decide
        rw [table] at entry
        cases entry
      · cases found
  · rintro rfl
    have own : Sms.encodeGSM7Rune '\r' = some [0x0d] := by decide
    cases own.symm.trans found
    rfl

/-- The septets of runes are those of all but the last, and those of the last. -/
theorem marshalRunes_concat {rs : List Char} {r : Char} {septets : Bytes}
    (marshalled : Sms.GSM7.marshalRunes (rs ++ [r]) = .ok septets) :
    ∃ before encoded, Sms.GSM7.marshalRunes rs = .ok before ∧ Sms.encodeGSM7Rune r = some encoded ∧
      septets = before ++ encoded := by
  induction rs generalizing septets with
  | nil =>
    obtain ⟨encoded, rest, found, none, rfl⟩ := Sms.GSM7.marshalRunes_cons_eq_ok.mp marshalled
    cases none
    exact ⟨[], encoded, rfl, found, by simp⟩
  | cons first rs ih =>
    obtain ⟨encoded, rest, found, others, rfl⟩ := Sms.GSM7.marshalRunes_cons_eq_ok.mp marshalled
    obtain ⟨before, last, tail, foundLast, rfl⟩ := ih others
    exact ⟨encoded ++ before, last, Sms.GSM7.marshalRunes_cons_eq_ok.mpr ⟨_, _, found, tail, rfl⟩, foundLast, by simp⟩

/-- The septets end in a carriage return exactly when the runes do. -/
theorem getLast?_marshalRunes {rs : List Char} {septets : Bytes} (marshalled : Sms.GSM7.marshalRunes rs = .ok septets) :
    septets.getLast? = some 0x0d ↔ rs.getLast? = some '\r' := by
  rcases List.eq_nil_or_concat' rs with rfl | ⟨rs, r, rfl⟩
  · cases marshalled
    simp
  · obtain ⟨before, encoded, -, found, rfl⟩ := marshalRunes_concat marshalled
    have some : encoded ≠ [] := by
      have := (Sms.encodeGSM7Rune_length found).1
      rintro rfl
      simp at this
    rw [List.getLast?_append_of_ne_nil _ some, getLast?_encodeGSM7Rune found]
    simp

/-- Septets that leave no room for another are unpacked from their packed form, without a carriage return that fills
it. -/
theorem ussdSeptets_packSeptets {septets : Bytes} (small : ∀ septet ∈ septets, septet ≤ 0x7f)
    (full : septets.length % 8 ≠ 7) :
    ∃ packed count, Sms.packSeptets septets [] = .ok (packed, count) ∧
      ussdSeptets packed =
        .ok (if septets.length % 8 = 0 ∧ septets.getLast? = some 0x0d then septets.dropLast else septets) := by
  obtain ⟨packed, wrote, length, -, bits⟩ := Sms.packSeptets_spec septets []
  simp only [List.length_nil, Nat.zero_mul, Nat.zero_add, Nat.reduceDiv] at wrote length bits
  refine ⟨packed, 0, wrote, ?_⟩
  have count : packed.length * 8 / 7 = septets.length := by
    have room := BitStream.septets_of_octets septets.length
    rw [if_neg full, ← length] at room
    omega
  have whole : packed.length % 7 = 0 ↔ septets.length % 8 = 0 := by omega
  have unpacked := Sms.unpackSeptets_spec septets packed 0 small (by omega) fun n _ => by rw [Nat.zero_add, bits]
  rw [ussdSeptets, count, unpacked, Go.ok_bind]
  simp only [whole]
  split <;> rfl

/-- Text of the alphabet is read back from its septets. -/
theorem unmarshalBinary_of_marshalBinary {text : GoString} {septets : Bytes}
    (marshalled : Sms.GSM7.marshalBinary text = .ok septets) : Sms.GSM7.unmarshalBinary septets = .ok text := by
  rw [Sms.GSM7.unmarshalBinary_marshalRunes marshalled, Sms.GSM7.encodeRunes_runes_of_marshal marshalled]

/-- What is sent of a text in packed septets is read back, unless it ends like padding. -/
theorem ussdSeptets_text_iff {text : GoString} {septets : Bytes} (marshalled : Sms.GSM7.marshalBinary text = .ok septets) :
    ∃ packed count, Sms.packSeptets (if septets.length % 8 = 7 then septets ++ [0x0d] else septets) [] = .ok (packed, count) ∧
      ∃ kept, ussdSeptets packed = .ok kept ∧ ∃ decoded, Sms.GSM7.unmarshalBinary kept = .ok decoded ∧
        (decoded = text ↔ ¬ (septets.length % 8 = 0 ∧ (Utf8.runes text).getLast? = some '\r')) := by
  have small := Sms.marshalRunes_septets marshalled
  have text_ := unmarshalBinary_of_marshalBinary marshalled
  by_cases seven : septets.length % 8 = 7
  · -- The carriage return that was added is taken away.
    rw [if_pos seven]
    have padded : ∀ septet ∈ septets ++ [0x0d], septet ≤ 0x7f := by
      intro septet member
      rcases List.mem_append.mp member with old | new
      · exact small septet old
      · rw [List.mem_singleton.mp new]
        decide
    obtain ⟨packed, count, wrote, kept⟩ := ussdSeptets_packSeptets padded (by simp; omega)
    rw [if_pos (by simp; omega), List.dropLast_concat] at kept
    exact ⟨packed, count, wrote, septets, kept, text, text_, by simp; omega⟩
  · -- No padding was added, so that the last septet is one of the text.
    rw [if_neg seven]
    obtain ⟨packed, count, wrote, kept⟩ := ussdSeptets_packSeptets small seven
    refine ⟨packed, count, wrote, _, kept, ?_⟩
    simp only [getLast?_marshalRunes marshalled]
    by_cases ends : septets.length % 8 = 0 ∧ (Utf8.runes text).getLast? = some '\r'
    · -- The text's own carriage return is taken away.
      rw [if_pos ends]
      obtain ⟨rs, runes⟩ := List.getLast?_eq_some_iff.mp ends.2
      unfold Sms.GSM7.marshalBinary at marshalled
      rw [runes] at marshalled
      obtain ⟨before, encoded, others, found, rfl⟩ := marshalRunes_concat marshalled
      have own : Sms.encodeGSM7Rune '\r' = some [0x0d] := by decide
      cases own.symm.trans found
      rw [List.dropLast_concat]
      refine ⟨_, Sms.GSM7.unmarshalBinary_marshalRunes others, ?_⟩
      simp only [ends, and_self, not_true_eq_false, iff_false]
      intro same
      have lengths := congrArg (fun s => (Utf8.runes s).length) same
      simp [runes] at lengths
    · -- The text is read back whole.
      rw [if_neg ends]
      exact ⟨text, text_, by simp [ends]⟩

/-- A text that is encoded is read back exactly when it does not end like padding. -/
theorem ussd_roundTrip_iff {text : GoString} {dcs : UInt32} {payload : Bytes} (response : UInt32)
    (encoded : encodeUSSD text = .ok (dcs, payload)) :
    (∃ message, ussdMessage { response, dataCodingScheme := dcs, payload } = .ok message ∧ message.text = text) ↔
      ¬ EndsLikePadding text := by
  unfold encodeUSSD at encoded
  split at encoded
  · -- Every rune is in the GSM tables, and the text goes out as septets.
    rename_i septets marshalled
    obtain ⟨packed, count, wrote, kept, unpacked, decoded, read, same⟩ := ussdSeptets_text_iff marshalled
    simp only [wrote, Go.mapError_ok, Go.ok_bind] at encoded
    split at encoded
    · simp at encoded
    · cases encoded
      have inside : ∀ r ∈ Utf8.runes text, InGSM7Tables r := by
        intro r member
        rw [← Sms.encodeGSM7Rune_isSome_iff]
        exact (Sms.GSM7.marshalRunes_isOk _).mp ⟨septets, marshalled⟩ r member
      have message : ussdMessage { response, dataCodingScheme := ussdDCSGSM7, payload } =
          .ok { state := ussdState { response, dataCodingScheme := ussdDCSGSM7, payload }, text := decoded,
                dcs := ussdDCSGSM7, data := payload } := by
        rw [ussdMessage, if_pos rfl, unpacked, Go.mapError_ok, Go.ok_bind, read, Go.mapError_ok]
        rfl
      simp only [message, Except.ok.injEq, exists_eq_left', same, EndsLikePadding, Sms.total_septetCount marshalled]
      constructor
      · intro other padding
        exact other padding.2
      · intro other ends
        exact other ⟨inside, ends⟩
  · -- Some rune is outside the tables, and the text goes out as UCS-2.
    rename_i fault failed
    obtain ⟨units, marshalled, encoded⟩ := Go.bind_eq_ok.mp encoded
    rw [Go.mapError_eq_ok] at marshalled
    split at encoded
    · simp at encoded
    · cases encoded
      -- A text with other characters is sent in units.
      have other : ¬ EndsLikePadding text := by
        rintro ⟨inside, -⟩
        obtain ⟨septets, marshalled⟩ := (Sms.GSM7.marshalRunes_isOk (Utf8.runes text)).mpr fun r member =>
          (Sms.encodeGSM7Rune_isSome_iff r).mpr (inside r member)
        rw [Sms.GSM7.marshalBinary, marshalled] at failed
        cases failed
      obtain ⟨data, again, read⟩ := (Sms.ucs2_exact .bigEndian).roundTrip text (Sms.inUCS2_of_marshalUCS2 marshalled)
      cases marshalled.symm.trans again
      have message : ussdMessage { response, dataCodingScheme := ussdDCSUCS2, payload } =
          .ok { state := ussdState { response, dataCodingScheme := ussdDCSUCS2, payload }, text,
                dcs := ussdDCSUCS2, data := payload } := by
        rw [ussdMessage, if_neg (by decide : ¬ ussdDCSUCS2 = ussdDCSGSM7), if_pos rfl, Sms.UCS2.unmarshalBinary, read,
          Go.mapError_ok]
        rfl
      simp [message, other]

/-- A service code is read back. -/
theorem ussd_roundTrip_code :
    encodeUSSD [0x2a, 0x31, 0x32, 0x33, 0x23] = .ok (ussdDCSGSM7, [0xaa, 0x98, 0x6c, 0x36, 0x02]) ∧
    ∃ message, ussdMessage { response := 0, dataCodingScheme := ussdDCSGSM7, payload := [0xaa, 0x98, 0x6c, 0x36, 0x02] } =
      .ok message ∧ message.text = [0x2a, 0x31, 0x32, 0x33, 0x23] := by
  have encoded : encodeUSSD [0x2a, 0x31, 0x32, 0x33, 0x23] = .ok (ussdDCSGSM7, [0xaa, 0x98, 0x6c, 0x36, 0x02]) := by
    decide +kernel
  refine ⟨encoded, (ussd_roundTrip_iff 0 encoded).mpr ?_⟩
  rintro ⟨-, count, -⟩
  revert count
  decide +kernel

/-- A text of eight septets that ends in a carriage return is read back without it. -/
theorem ussd_carriageReturn_lost :
    encodeUSSD [0x31, 0x32, 0x33, 0x34, 0x35, 0x36, 0x37, 0x0d] =
      .ok (ussdDCSGSM7, [0x31, 0xd9, 0x8c, 0x56, 0xb3, 0xdd, 0x1a]) ∧
    ussdMessage { dataCodingScheme := ussdDCSGSM7, payload := [0x31, 0xd9, 0x8c, 0x56, 0xb3, 0xdd, 0x1a] } =
      .ok { state := .networkResponse, text := [0x31, 0x32, 0x33, 0x34, 0x35, 0x36, 0x37], dcs := ussdDCSGSM7,
            data := [0x31, 0xd9, 0x8c, 0x56, 0xb3, 0xdd, 0x1a] } := by
  constructor
  · decide +kernel
  · decide +kernel

end Wwan.Modem.Mbim
