import Wwan.Proofs.Sms.RoundTrip

/-! The parts of a message together hold its whole encoding, each within the size of a PDU. -/

namespace Wwan.Sms

open Greedy

/-- The encoding of the whole content in the alphabet it is sent in. -/
def Encodes (cfg : MessageConfig) (encoding : Bytes) : Alphabet → Prop
  | .gsm7 => cfg.text ≠ [] ∧ GSM7.marshalBinary cfg.text = .ok encoding
  | .ucs2 => cfg.text ≠ [] ∧ (∀ septets, GSM7.marshalBinary cfg.text ≠ .ok septets) ∧
      UTF16.marshalBinary cfg.text = .ok encoding
  | .binary => cfg.text = [] ∧ encoding = cfg.data

/-- The chunk ends behind a whole escape pair or surrogate pair. -/
def Undivided (chunk : Bytes) : Alphabet → Prop
  | .gsm7 => GSM7.endsInEscape chunk = false
  | .ucs2 => Utf16.wellFormed (Utf16.ByteOrder.bigEndian.units chunk) = true
  | .binary => True

/-- The user-data field and its length octet hold a header and a chunk within the size of a PDU. -/
def Holds (header chunk : Bytes) (length : UInt8) (field : Bytes) : Alphabet → Prop
  | .gsm7 => length.toNat = (header.length * 8 + 6) / 7 + chunk.length ∧ length.toNat ≤ 160 ∧ field.length ≤ 140 ∧
      field.take header.length = header ∧
      unpackSeptets field ((header.length * 8 + 6) / 7 * 7) chunk.length = .ok chunk
  | .binary | .ucs2 => length.toNat = field.length ∧ field.length ≤ 140 ∧ field = header ++ chunk

/-- The PDU has such a field, and announces a header exactly when there is one. -/
def PartOf (cfg : MessageConfig) (alphabet : Alphabet) (header chunk pdu : Bytes) : Prop :=
  ∃ first length field, (first &&& 0x40 ≠ 0 ↔ header ≠ []) ∧ Holds header chunk length field alphabet ∧
    pdu = appendAddress (encodeSMSC cfg.smsc ++ [first, 0]) cfg.number ++ 0 :: alphabet.scheme :: length :: field

/-- A message in one PDU has no header, and in several PDUs one that numbers the part and counts all of them. -/
def Numbered (count i : Nat) (header : Bytes) : Prop :=
  if count = 1 then header = []
  else ∃ ref total index : UInt8, header = [5, 0, 3, ref, total, index] ∧ total.toNat = count ∧ index.toNat = i + 1

/-- The PDUs split the content without loss and within their sizes. -/
def Lossless (cfg : MessageConfig) (pdus : List Bytes) : Prop :=
  ∃ (alphabet : Alphabet) (encoding : Bytes) (chunks : List Bytes), Encodes cfg encoding alphabet ∧ chunks.flatten = encoding ∧
    (∀ chunk ∈ chunks, Undivided chunk alphabet) ∧ pdus.length = chunks.length ∧
    ∀ i pdu chunk, pdus[i]? = some pdu → chunks[i]? = some chunk →
      ∃ header, Numbered pdus.length i header ∧ PartOf cfg alphabet header chunk pdu

/-! The field of one PDU. -/

/-- A header and a chunk together are within the size of a PDU. -/
def Within (header chunk : Bytes) : Alphabet → Prop
  | .gsm7 => (∀ septet ∈ chunk, septet ≤ 0x7f) ∧ (header.length * 8 + 6) / 7 + chunk.length ≤ 160
  | .binary | .ucs2 => header.length + chunk.length ≤ 140

/-- What is within the size of a PDU makes a field that holds it. -/
theorem userData_holds {header chunk : Bytes} {alphabet : Alphabet} (within : Within header chunk alphabet) :
    ∃ length field, userData alphabet chunk header = .ok (length :: field) ∧ Holds header chunk length field alphabet := by
  have octets (small : header.length + chunk.length ≤ 140) : (UInt8.ofNat (header ++ chunk).length).toNat =
      (header ++ chunk).length := UInt8.toNat_ofNat_of_lt' (by simp [UInt8.size]; omega)
  cases alphabet with
  | gsm7 =>
    -- The septets stand behind the padding of the header.
    obtain ⟨septets, small⟩ := within
    obtain ⟨packed, wrote, size, front, bits⟩ := packSeptets_spec chunk header
    have counted : (UInt8.ofNat ((header.length * 8 + 6) / 7 + chunk.length)).toNat =
        (header.length * 8 + 6) / 7 + chunk.length := UInt8.toNat_ofNat_of_lt' (by simp [UInt8.size]; omega)
    refine ⟨UInt8.ofNat ((header.length * 8 + 6) / 7 + chunk.length), packed, by simp [userData, wrote], counted,
      by omega, by omega, front, ?_⟩
    exact unpackSeptets_spec chunk packed _ septets (by omega) fun n _ => bits n
  | binary =>
    have small : header.length + chunk.length ≤ 140 := within
    exact ⟨_, _, rfl, octets small, by simpa using small, rfl⟩
  | ucs2 =>
    have small : header.length + chunk.length ≤ 140 := within
    exact ⟨_, _, rfl, octets small, by simpa using small, rfl⟩

/-- So a submission can be built from it, and has that field. -/
theorem buildSubmitPDU_partOf {cfg : MessageConfig} {header chunk : Bytes} {alphabet : Alphabet}
    (within : Within header chunk alphabet) {pdu : Bytes} (built : buildSubmitPDU cfg alphabet chunk header = .ok pdu) :
    PartOf cfg alphabet header chunk pdu := by
  obtain ⟨length, field, coded, holds⟩ := userData_holds within
  rw [buildSubmitPDU_eq, coded, Go.ok_bind, Go.pure_eq, Except.ok.injEq] at built
  refine ⟨0x01 ||| (if cfg.deliveryReport then 0x20 else 0) ||| (if decide (header.length ≠ 0) then 0x40 else 0), length,
    field, ?_, holds, by rw [← built, List.append_assoc]; rfl⟩
  -- Of the flags of the first octet only the header's is looked at.
  have flag := (firstOctet_flags cfg.deliveryReport (decide (header.length ≠ 0))).2.2.2
  rw [decide_eq_decide] at flag
  rw [flag, ne_eq, List.length_eq_zero_iff]

/-! The chunks. -/

/-- The chunks of greedy groups are undivided and within their size when the groups are. -/
theorem Splits.chunks {α : Type} {weight : α → Nat} {capacity : Nat} {encodes : List α → Bytes → Prop} {items : List α}
    {chunks : List Bytes} (splits : Splits weight capacity encodes items chunks) {P : Bytes → Prop}
    (each : ∀ group chunk, encodes group chunk → total weight group ≤ capacity → P chunk) : ∀ chunk ∈ chunks, P chunk := by
  -- Every chunk stands at the place of a group.
  obtain ⟨groups, -, greedy, pairs⟩ := splits
  intro chunk member
  obtain ⟨i, inside, rfl⟩ := List.getElem_of_mem member
  have groupInside : i < groups.length := pairs.length_eq ▸ inside
  exact each groups[i] chunks[i] (by simpa using pairs.get groupInside inside)
    (greedy.within groups[i] (List.getElem_mem _)).2

/-- Encoded groups together are the encoding of all runes. -/
theorem marshalRunes_flatten {groups : List (List Char)} {chunks : List Bytes}
    (each : List.Forall₂ (fun group chunk => GSM7.marshalRunes group = .ok chunk) groups chunks) :
    GSM7.marshalRunes groups.flatten = .ok chunks.flatten := by
  -- The induction is over the groups with their chunks.
  induction each with
  | nil => rfl
  | cons first _ ih => simpa using marshalRunes_append first ih

/-- The code units of groups together are those of all runes. -/
theorem bytes_flatten {order : Utf16.ByteOrder} {groups : List (List Char)} {chunks : List Bytes}
    (each : List.Forall₂ (fun group chunk => chunk = order.bytes (Utf16.encode group)) groups chunks) :
    chunks.flatten = order.bytes (Utf16.encode groups.flatten) := by
  induction each with
  | nil => rfl
  | cons first _ ih => simp [first, ih]

/-- What the chunks of an accepted message are, and how many. -/
structure Chunked (cfg : MessageConfig) (alphabet : Alphabet) (encoding : Bytes) (chunks : List Bytes) : Prop where
  encodes : Encodes cfg encoding alphabet
  whole : chunks.flatten = encoding
  undivided : ∀ chunk ∈ chunks, Undivided chunk alphabet

/-- An accepted message is one chunk without a header, or as few chunks as possible with headers. -/
inductive Sent (ref : UInt8) (cfg : MessageConfig) (alphabet : Alphabet) (chunks : List Bytes) (pdus : List Bytes) : Prop where
  | single (chunk pdu : Bytes) (one : chunks = [chunk]) (sent : pdus = [pdu])
      (built : buildSubmitPDU cfg alphabet chunk [] = .ok pdu) (within : Within [] chunk alphabet) (fits : FitsParts 255 cfg)
  | parts (many : 2 ≤ chunks.length) (built : buildMultipartPDUs ref cfg alphabet chunks = .ok pdus)
      (within : ∀ chunk ∈ chunks, ∀ header : Bytes, header.length = 6 → Within header chunk alphabet)
      (fewest : FitsParts 255 cfg ↔ chunks.length ≤ 255)

/-- A single PDU is what its submission is. -/
theorem single_of_encoded {cfg : MessageConfig} {alphabet : Alphabet} {data : Bytes} {pdus : List Bytes}
    (encoded : (do return [← buildSubmitPDU cfg alphabet data []] : Go Error (List Bytes)) = .ok pdus) :
    ∃ pdu, pdus = [pdu] ∧ buildSubmitPDU cfg alphabet data [] = .ok pdu := by
  obtain ⟨pdu, built, single⟩ := Go.bind_eq_ok.mp encoded
  exact ⟨pdu, (Except.ok.inj single).symm, built⟩

section Encoded

variable {ref : UInt8} {cfg : MessageConfig} {pdus : List Bytes}

/-- Text of the default alphabet. -/
theorem encodeGSM7PDUs_sent (present : cfg.text ≠ []) {septets : Bytes}
    (marshalled : GSM7.marshalBinary cfg.text = .ok septets) (encoded : encodeGSM7PDUs ref cfg = .ok pdus) :
    ∃ chunks, Chunked cfg .gsm7 septets chunks ∧ Sent ref cfg .gsm7 chunks pdus := by
  have representable := (GSM7.marshalRunes_isOk _).mp ⟨septets, marshalled⟩
  have fitsParts (count : Nat) : FitsParts count cfg ↔
      Divides septetCount smsGSM7PartSeptets count (Utf8.runes cfg.text) := by
    rw [FitsParts, if_neg present, if_pos representable]
  have weight := total_septetCount marshalled
  rw [encodeGSM7PDUs, marshalled, Go.ok_bind] at encoded
  split at encoded
  · -- The text fits into one message.
    next small =>
    obtain ⟨pdu, rfl, built⟩ := single_of_encoded encoded
    refine ⟨[septets], ⟨⟨present, marshalled⟩, by simp, ?_⟩, .single septets pdu rfl rfl built ?_ ?_⟩
    · intro chunk member
      rw [List.mem_singleton.mp member]
      exact GSM7.endsInEscape_of_marshalRunes marshalled
    · exact ⟨marshalRunes_septets marshalled, by simpa [smsGSM7SingleSeptets] using small⟩
    · -- A part has room for any one rune, and there are no more runes than septets.
      unfold smsGSM7SingleSeptets at small
      exact (fitsParts 255).mpr (divides_septets representable (by omega))
  · -- The text is divided into parts.
    next large =>
    obtain ⟨chunks, split, built⟩ := Go.bind_eq_ok.mp encoded
    have splits := splitGSM7_splits split
    refine ⟨chunks, ⟨⟨present, marshalled⟩, ?_, ?_⟩, .parts ?_ built ?_ ?_⟩
    · -- The parts together are the text.
      obtain ⟨groups, whole, -, each⟩ := splits
      have all := marshalRunes_flatten each
      rw [whole] at all
      exact Except.ok.inj (all.symm.trans marshalled)
    · exact splits.chunks fun group chunk coded _ => GSM7.endsInEscape_of_marshalRunes coded
    · -- There is more than one part, for the text is longer than a part.
      apply splits.two_le
      rw [weight]
      unfold smsGSM7SingleSeptets at large
      unfold smsGSM7PartSeptets
      omega
    · -- Each part has room for its header.
      refine splits.chunks fun group chunk coded within header six => ⟨marshalRunes_septets coded, ?_⟩
      rw [total_septetCount coded] at within
      unfold smsGSM7PartSeptets at within
      rw [six]
      omega
    · rw [fitsParts]
      exact (splits.length_le_iff 255).symm

/-- Text that needs UTF-16. -/
theorem encodeUCS2PDUs_sent (present : cfg.text ≠ []) (other : ∀ septets, GSM7.marshalBinary cfg.text ≠ .ok septets)
    (encoded : encodeUCS2PDUs ref cfg = .ok pdus) :
    ∃ payload chunks, Chunked cfg .ucs2 payload chunks ∧ Sent ref cfg .ucs2 chunks pdus := by
  obtain ⟨payload, marshalled, encoded⟩ := Go.bind_eq_ok.mp encoded
  obtain ⟨-, rfl⟩ := marshalUTF16_eq_ok marshalled
  -- A rune outside the alphabet is why UTF-16 is needed.
  have needed : ¬ ∀ r ∈ Utf8.runes cfg.text, (encodeGSM7Rune r).isSome := by
    intro all
    obtain ⟨septets, coded⟩ := (GSM7.marshalRunes_isOk _).mpr all
    exact other septets coded
  have fitsParts (count : Nat) : FitsParts count cfg ↔
      Divides unitCount smsUTF16PartUnits count (Utf8.runes cfg.text) := by
    rw [FitsParts, if_neg present, if_neg needed]
  have units : (Utf16.ByteOrder.bigEndian.bytes (Utf16.encode (Utf8.runes cfg.text))).length =
      2 * total unitCount (Utf8.runes cfg.text) := by simp
  refine ⟨Utf16.ByteOrder.bigEndian.bytes (Utf16.encode (Utf8.runes cfg.text)), ?_⟩
  split at encoded
  · -- The text fits into one message.
    next small =>
    obtain ⟨pdu, rfl, built⟩ := single_of_encoded encoded
    unfold smsUTF16SingleUnits at small
    refine ⟨[_], ⟨⟨present, other, marshalled⟩, by simp, ?_⟩, .single _ pdu rfl rfl built ?_ ?_⟩
    · intro chunk member
      rw [List.mem_singleton.mp member]
      simp [Undivided]
    · show ([] : Bytes).length + _ ≤ 140
      rw [List.length_nil]
      omega
    · exact (fitsParts 255).mpr (divides_units (by omega))
  · next large =>
    have splits := splitUTF16_splits (Utf8.runes cfg.text)
    refine ⟨_, ⟨⟨present, other, marshalled⟩, ?_, ?_⟩, .parts ?_ encoded ?_ ?_⟩
    · obtain ⟨groups, whole, -, each⟩ := splits
      rw [bytes_flatten each, whole]
    · refine splits.chunks fun group chunk coded _ => ?_
      rw [coded]
      simp [Undivided]
    · apply splits.two_le
      unfold smsUTF16SingleUnits at large
      unfold smsUTF16PartUnits
      omega
    · refine splits.chunks fun group chunk coded within header six => ?_
      show header.length + chunk.length ≤ 140
      unfold smsUTF16PartUnits at within
      rw [coded, six, Utf16.ByteOrder.bytes_length, length_encode]
      omega
    · rw [fitsParts]
      exact (splits.length_le_iff 255).symm

/-- Binary data. -/
theorem encodeBinaryPDUs_sent (absent : cfg.text = []) (encoded : encodeBinaryPDUs ref cfg = .ok pdus) :
    ∃ chunks, Chunked cfg .binary cfg.data chunks ∧ Sent ref cfg .binary chunks pdus := by
  have fitsParts (count : Nat) : FitsParts count cfg ↔ Divides octetCount smsBinaryPartOctets count cfg.data := by
    rw [FitsParts, if_pos absent]
  unfold encodeBinaryPDUs at encoded
  split at encoded
  · next small =>
    obtain ⟨pdu, rfl, built⟩ := single_of_encoded encoded
    unfold smsMaxUserDataOctets at small
    refine ⟨[cfg.data], ⟨⟨absent, rfl⟩, by simp, fun _ _ => trivial⟩, .single cfg.data pdu rfl rfl built ?_ ?_⟩
    · show ([] : Bytes).length + cfg.data.length ≤ 140
      rw [List.length_nil]
      omega
    · refine (fitsParts 255).mpr (divides_of_length_le (by omega) fun octet _ => ?_)
      simp [octetCount, smsBinaryPartOctets]
  · next large =>
    have splits := splitBinary_splits cfg.data
    refine ⟨_, ⟨⟨absent, rfl⟩, ?_, fun _ _ => trivial⟩, .parts ?_ encoded ?_ ?_⟩
    · obtain ⟨groups, whole, -, each⟩ := splits
      have same : splitBinary cfg.data = groups := by
        have pairs := each.flip
        rwa [List.forall₂_eq_eq_eq] at pairs
      rw [same, whole]
    · apply splits.two_le
      rw [total_octetCount]
      unfold smsMaxUserDataOctets at large
      unfold smsBinaryPartOctets
      omega
    · refine splits.chunks fun group chunk coded within header six => ?_
      show header.length + chunk.length ≤ 140
      rw [total_octetCount] at within
      unfold smsBinaryPartOctets at within
      rw [coded, six]
      omega
    · rw [fitsParts]
      exact (splits.length_le_iff 255).symm

/-- Every accepted message is sent in chunks of one alphabet. -/
theorem encodePDUs_sent (encoded : encodePDUs ref cfg = .ok pdus) :
    ∃ alphabet encoding chunks, Chunked cfg alphabet encoding chunks ∧ Sent ref cfg alphabet chunks pdus := by
  unfold encodePDUs at encoded
  by_cases present : cfg.text = []
  · rw [if_neg (by simp [present])] at encoded
    exact ⟨.binary, cfg.data, encodeBinaryPDUs_sent present encoded⟩
  · rw [if_pos present] at encoded
    cases marshalled : GSM7.marshalBinary cfg.text with
    | ok septets =>
      rw [marshalled] at encoded
      exact ⟨.gsm7, septets, encodeGSM7PDUs_sent present marshalled encoded⟩
    | error fault =>
      have other : ∀ septets, GSM7.marshalBinary cfg.text ≠ .ok septets := by
        intro septets coded
        cases marshalled.symm.trans coded
      rw [marshalled] at encoded
      cases fault with
      | err cause => exact ⟨.ucs2, encodeUCS2PDUs_sent present other encoded⟩
      | outOfRange => cases encoded

end Encoded

/-! Numbering. -/

/-- One octet counts the parts up to 255 of them. -/
theorem numbered_concatHeader {ref : UInt8} {count i : Nat} (many : 2 ≤ count) (few : count ≤ 255) (inside : i < count) :
    Numbered count i (concatHeader ref count i) := by
  rw [Numbered, if_neg (by omega)]
  refine ⟨ref, UInt8.ofNat count, UInt8.ofNat (i + 1), rfl, ?_, ?_⟩
  · exact UInt8.toNat_ofNat_of_lt' (by simp [UInt8.size]; omega)
  · exact UInt8.toNat_ofNat_of_lt' (by simp [UInt8.size]; omega)

/-- No octet counts more. -/
theorem not_numbered {count i : Nat} (many : 255 < count) (header : Bytes) : ¬ Numbered count i header := by
  rw [Numbered, if_neg (by omega)]
  rintro ⟨ref, total, index, -, counted, -⟩
  have := total.toNat_lt
  omega

/-- Sent chunks are lossless exactly when they can be numbered. -/
theorem Sent.lossless_iff {ref : UInt8} {cfg : MessageConfig} {alphabet : Alphabet} {encoding : Bytes}
    {chunks pdus : List Bytes} (chunked : Chunked cfg alphabet encoding chunks) (sent : Sent ref cfg alphabet chunks pdus) :
    Lossless cfg pdus ↔ FitsParts 255 cfg := by
  cases sent with
  | single chunk pdu one sent built within fits =>
    subst one sent
    refine iff_of_true ⟨alphabet, encoding, [chunk], chunked.encodes, chunked.whole, chunked.undivided, rfl, ?_⟩ fits
    intro i other piece here there
    -- There is one PDU, and it has no header.
    cases i with
    | zero =>
      cases here
      cases there
      exact ⟨[], by simp [Numbered], buildSubmitPDU_partOf within built⟩
    | succ i => cases here
  | parts many built within fewest =>
    have each := Go.forall₂_of_mapM built
    have same : pdus.length = chunks.length := by simpa using each.length_eq.symm
    rw [fewest]
    constructor
    · intro lossless
      by_contra past
      obtain ⟨_, _, others, -, -, -, lengths, all⟩ := lossless
      obtain ⟨header, numbered, -⟩ := all 0 pdus[0] others[0] (List.getElem?_eq_getElem (by omega))
        (List.getElem?_eq_getElem (by omega))
      exact not_numbered (by omega) header numbered
    · intro few
      refine ⟨alphabet, encoding, chunks, chunked.encodes, chunked.whole, chunked.undivided, same, ?_⟩
      intro i pdu chunk here there
      obtain ⟨inside, rfl⟩ := List.getElem?_eq_some_iff.mp here
      obtain ⟨chunkInside, rfl⟩ := List.getElem?_eq_some_iff.mp there
      have one := each.get (by simpa using chunkInside) inside
      simp only [List.get_eq_getElem, List.getElem_zipIdx, Nat.zero_add] at one
      refine ⟨concatHeader ref chunks.length i, ?_, ?_⟩
      · rw [same]
        exact numbered_concatHeader many few chunkInside
      · exact buildSubmitPDU_partOf (within _ (List.getElem_mem chunkInside) _ rfl) one

/-- An accepted message is split without loss, within the sizes, between pairs and with true numbers exactly when its
content can be divided into 255 parts. -/
theorem encodePDUs_lossless_iff (ref : UInt8) (cfg : MessageConfig) {pdus : List Bytes}
    (encoded : encodePDUs ref cfg = .ok pdus) : Lossless cfg pdus ↔ FitsParts 255 cfg := by
  obtain ⟨alphabet, encoding, chunks, chunked, sent⟩ := encodePDUs_sent encoded
  exact sent.lossless_iff chunked

/-- Three hundred octets. -/
def threeHundredOctets : MessageConfig := { number := [0x31], data := List.replicate 300 5 }

/-- They are sent in three PDUs without loss. -/
theorem threeHundredOctets_lossless :
    ∃ pdus, encodePDUs 7 threeHundredOctets = .ok pdus ∧ pdus.length = 3 ∧ Lossless threeHundredOctets pdus := by
  have glance : (encodePDUs 7 threeHundredOctets).toOption.map List.length = some 3 := by decide +kernel
  cases encoded : encodePDUs 7 threeHundredOctets with
  | error fault => simp [encoded, Except.toOption] at glance
  | ok pdus =>
    refine ⟨pdus, rfl, by simpa [encoded, Except.toOption] using glance, ?_⟩
    refine (encodePDUs_lossless_iff 7 _ encoded).mpr ?_
    -- The first 134 octets, the next 134 and the last 32.
    exact ⟨[List.replicate 134 5, List.replicate 134 5, List.replicate 32 5], by decide +kernel⟩

/-- One octet more than 255 parts can carry. -/
def tooManyOctets : MessageConfig := { number := [0x31], data := List.replicate 34171 0 }

/-- Such data is accepted, but the headers of its parts cannot count them. -/
theorem tooManyOctets_not_lossless :
    ∃ pdus, encodePDUs 7 tooManyOctets = .ok pdus ∧ ¬ Lossless tooManyOctets pdus := by
  have size : tooManyOctets.data.length = 34171 := List.length_replicate
  have absent : tooManyOctets.text = [] := rfl
  have encodes : encodePDUs 7 tooManyOctets = buildMultipartPDUs 7 tooManyOctets .binary
      (splitBinary tooManyOctets.data) := by
    rw [encodePDUs, if_neg (not_not_intro absent), encodeBinaryPDUs, if_neg (by rw [size]; decide)]
  obtain ⟨pdus, built⟩ : ∃ pdus, encodePDUs 7 tooManyOctets = .ok pdus := by
    rw [encodes]
    exact ⟨_, Go.mapM_eq_ok fun chunk member => rfl⟩
  refine ⟨pdus, built, fun lossless => ?_⟩
  obtain ⟨alphabet, encoding, chunks, chunked, sent⟩ := encodePDUs_sent built
  have fits := (sent.lossless_iff chunked).mp lossless
  rw [FitsParts, if_pos absent] at fits
  have bound := fits.total_le
  rw [total_octetCount, size] at bound
  simp [smsBinaryPartOctets] at bound

end Wwan.Sms
