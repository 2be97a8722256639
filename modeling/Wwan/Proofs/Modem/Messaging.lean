import Wwan.Modem.Messaging
import Wwan.Proofs.Sms.Accounting
import Wwan.Proofs.Sms.Safety

/-! A listing accounts for every stored record whose message is complete. -/

namespace Wwan.Modem

open Sms

variable {ε : Type}

/-- The stored messages as one of the two backends gets at them. -/
inductive MessageStore (ε : Type) where
  | qmi (modem : Qmi.MessageModem ε)
  | mbim (read : Except ε (List Mbim.SMSPDURecord))

/-- The listing of a backend. -/
def MessageStore.listMessages : MessageStore ε → Go (RequestError ε) Listing
  | .qmi modem => Qmi.listMessages modem
  | .mbim read => Mbim.listMessages read

/-- The point-to-point record that an entry of the modem stands for. -/
def Qmi.recordOf (modem : MessageModem ε) (entry : WMSListedMessage) : Option StoredRecord :=
  match modem.read entry.reference with
  | .error _ => none
  | .ok raw => if raw.format = .gwPointToPoint then some (storedRecord entry raw) else none

/-- The point-to-point records of one store of the modem. -/
def Qmi.recordsIn (modem : MessageModem ε) (storage : WMSStorage) : List StoredRecord :=
  match wmsListMessages modem storage with
  | .error _ => []
  | .ok listed => listed.filterMap (recordOf modem)

/-- The stored point-to-point records, in the order in which they are listed. -/
def MessageStore.records : MessageStore ε → List StoredRecord
  | .qmi modem => Qmi.recordsIn modem .uim ++ Qmi.recordsIn modem .nv
  | .mbim (.error _) => []
  | .mbim (.ok records) => records.map Mbim.storedRecord

/-- All references of a listing, of its messages and of its errors. -/
def Listing.refs (listing : Listing) : List MessageRef :=
  listing.messages.flatMap Message.refs ++ listing.errors.map MessageDecodeError.ref

/-- The part that a record decodes to. -/
def StoredRecord.part? (record : StoredRecord) : Option Part :=
  (Part.unmarshalBinary record.pdu).toOption.map record.stamp

/-- The error of a record that does not decode. -/
def StoredRecord.error? (record : StoredRecord) : Option MessageDecodeError :=
  match Part.unmarshalBinary record.pdu with
  | .error (.err err) => some { ref := record.ref, pdu := record.pdu, err }
  | _ => none

/-- The parts of the records that decode. -/
def storedParts (records : List StoredRecord) : List Part := records.filterMap StoredRecord.part?

/-- The record decodes to a part of a message of several parts, one of which is not stored. -/
def MissesIndex (records : List StoredRecord) (record : StoredRecord) : Prop :=
  ∃ part, record.part? = some part ∧ 2 ≤ part.total ∧
    ∃ index ∈ indices part.total, ∀ other ∈ storedParts records, other.key = part.key → other.index ≠ index

/-- Unless the record stands alone, its set is completed before its index comes again. -/
def SetCompleted (before : List StoredRecord) (record : StoredRecord) (after : List StoredRecord) : Prop :=
  ∀ part, record.part? = some part → 2 ≤ part.total → Reaches (storedParts before) part (storedParts after)

/-! The loops collect every record. -/

/-- A record is collected as its part or as its error. -/
theorem Collected.record_eq (collected : Collected) (record : StoredRecord) :
    (collected.record record : Go ε Collected) = .ok
      { parts := collected.parts ++ record.part?.toList
        decodeErrors := collected.decodeErrors ++ record.error?.toList } := by
  -- Decoding never panics, so every outcome is one of the two.
  have ensures := Part.unmarshalBinary_ensures record.pdu
  unfold Collected.record StoredRecord.part? StoredRecord.error?
  cases decoded : Part.unmarshalBinary record.pdu with
  | ok part => simp [Except.toOption]
  | error fault =>
    cases fault with
    | err err => simp [Except.toOption]
    | outOfRange => exact absurd decoded ensures.1

/-- Records are collected one after another. -/
theorem Collected.foldlM_record (collected : Collected) (records : List StoredRecord) :
    (records.foldlM Collected.record collected : Go ε Collected) = .ok
      { parts := collected.parts ++ storedParts records
        decodeErrors := collected.decodeErrors ++ records.filterMap StoredRecord.error? } := by
  induction records generalizing collected with
  | nil => simp [storedParts]
  | cons record records ih =>
    rw [List.foldlM_cons, Collected.record_eq, Go.ok_bind, ih]
    cases part : record.part? <;> cases error : record.error? <;> simp [storedParts, part, error]

/-- Entries that can all be read are collected as the records they stand for. -/
theorem Qmi.foldlM_collectEntry {modem : MessageModem ε} {collected result : Collected}
    {entries : List WMSListedMessage} (read : entries.foldlM (collectEntry modem) collected = .ok result) :
    (entries.filterMap (recordOf modem)).foldlM Collected.record collected = (.ok result : Go (RequestError ε) Collected) := by
  -- The induction is on the entries, each of which is read before the next.
  induction entries generalizing collected with
  | nil => exact read
  | cons entry entries ih =>
    rw [List.foldlM_cons, Go.bind_eq_ok] at read
    obtain ⟨next, entered, rest⟩ := read
    have later := ih rest
    unfold collectEntry at entered
    cases answer : modem.read entry.reference with
    | error err => simp [answer] at entered
    | ok raw =>
      simp only [answer] at entered
      split at entered
      · -- A message of another mode is skipped.
        rename_i skipped
        have none_ : recordOf modem entry = none := by simp [recordOf, answer, skipped]
        rw [List.filterMap_cons_none none_, Except.ok.inj entered]
        exact later
      · -- The message is collected as a record.
        rename_i kept
        have some_ : recordOf modem entry = some (storedRecord entry raw) := by
          simp only [ne_eq, not_not] at kept
          simp [recordOf, answer, kept]
        rw [List.filterMap_cons_some some_, List.foldlM_cons, entered]
        exact later

/-- A listing has the messages of all parts and the errors of all other records. -/
theorem MessageStore.listMessages_eq {store : MessageStore ε} {listing : Listing}
    (listed : store.listMessages = .ok listing) :
    listing = { messages := assemble (storedParts store.records)
                errors := store.records.filterMap StoredRecord.error? } := by
  cases store with
  -- The records are read all at once.
  | mbim read =>
    cases read with
    | error err => simp [MessageStore.listMessages, Mbim.listMessages] at listed
    | ok records =>
      have collected := Collected.foldlM_record (ε := RequestError ε) {} (records.map Mbim.storedRecord)
      rw [List.foldlM_map] at collected
      simp only [MessageStore.listMessages, Mbim.listMessages] at listed
      rw [collected] at listed
      simpa [MessageStore.records, Collected.listing] using (Except.ok.inj listed).symm
  | qmi modem =>
    -- The card and the device are listed one after the other.
    simp only [MessageStore.listMessages, Qmi.listMessages, List.foldlM_cons, List.foldlM_nil, Go.bind_eq_ok] at listed
    obtain ⟨collected, ⟨card, ⟨cardList, cardListed, cardRead⟩, device, ⟨deviceList, deviceListed, deviceRead⟩, same⟩,
      result⟩ := listed
    simp only [Go.pure_eq, Except.ok.injEq] at same result
    subst same result
    have records : (MessageStore.qmi modem).records =
        cardList.filterMap (Qmi.recordOf modem) ++ deviceList.filterMap (Qmi.recordOf modem) := by
      simp [MessageStore.records, Qmi.recordsIn, cardListed, deviceListed]
    -- Both stores are collected one after the other.
    have first := Qmi.foldlM_collectEntry cardRead
    have second := Qmi.foldlM_collectEntry deviceRead
    have both : ((MessageStore.qmi modem).records.foldlM Collected.record {} : Go (RequestError ε) Collected) = .ok device := by
      rw [records, List.foldlM_append, first, Go.ok_bind, second]
    rw [Collected.foldlM_record] at both
    simp [← Except.ok.inj both, Collected.listing]

/-! The references of a listing. -/

/-- A stored part stands alone or is numbered inside its message. -/
theorem storedParts_sound {records : List StoredRecord} {part : Part} (member : part ∈ storedParts records) :
    part.Sound := by
  obtain ⟨record, -, decodes⟩ := List.mem_filterMap.mp member
  obtain ⟨decoded, returned, rfl⟩ := Option.map_eq_some_iff.mp decodes
  have ok : Part.unmarshalBinary record.pdu = .ok decoded := by
    cases outcome : Part.unmarshalBinary record.pdu with
    | ok part => simpa [outcome, Except.toOption] using returned
    | error fault => simp [outcome, Except.toOption] at returned
  -- Stamping a part leaves its place in the message.
  rcases (Part.unmarshalBinary_ensures record.pdu).2 decoded ok with none | ⟨positive, inside⟩
  · exact .inl (by simp [StoredRecord.stamp, none])
  · by_cases single : decoded.total ≤ 1
    · exact .inl single
    · refine .inr ⟨?_, positive, inside⟩
      rw [UInt8.le_iff_toNat_le] at single ⊢
      simp only [UInt8.reduceToNat] at single ⊢
      show 2 ≤ decoded.total.toNat
      omega

/-- A stored part has the reference of its record alone. -/
theorem StoredRecord.refs_part? {record : StoredRecord} {part : Part} (decodes : record.part? = some part) :
    part.message.refs = [record.ref] := by
  obtain ⟨decoded, -, rfl⟩ := Option.map_eq_some_iff.mp decodes
  rfl

/-- A record that does not decode is reported as an error, and no other is. -/
theorem StoredRecord.error?_isSome (record : StoredRecord) : record.error?.isSome ↔ record.part? = none := by
  have ensures := Part.unmarshalBinary_ensures record.pdu
  unfold StoredRecord.part? StoredRecord.error?
  cases decoded : Part.unmarshalBinary record.pdu with
  | ok part => simp [Except.toOption]
  | error fault =>
    cases fault with
    | err err => simp [Except.toOption]
    | outOfRange => exact absurd decoded ensures.1

/-- An error names the record that it is about. -/
theorem StoredRecord.ref_error? {record : StoredRecord} {error : MessageDecodeError}
    (failed : record.error? = some error) : error.ref = record.ref := by
  unfold StoredRecord.error? at failed
  split at failed
  · rw [← Option.some.inj failed]
  · simp at failed

/-- The errors of other records do not name this one. -/
theorem count_errors_eq_zero {records : List StoredRecord} {ref : MessageRef} (absent : ref ∉ records.map StoredRecord.ref) :
    ((records.filterMap StoredRecord.error?).map MessageDecodeError.ref).count ref = 0 := by
  refine List.count_eq_zero_of_not_mem fun named => absent ?_
  obtain ⟨error, member, rfl⟩ := List.mem_map.mp named
  obtain ⟨record, stored, failed⟩ := List.mem_filterMap.mp member
  exact List.mem_map.mpr ⟨record, stored, (StoredRecord.ref_error? failed).symm⟩

/-- The parts of other records do not have the reference of this one. -/
theorem not_mem_refs_of_absent {records : List StoredRecord} {ref : MessageRef}
    (absent : ref ∉ records.map StoredRecord.ref) {part : Part} (member : part ∈ storedParts records) :
    ref ∉ part.message.refs := by
  obtain ⟨record, stored, decodes⟩ := List.mem_filterMap.mp member
  rw [StoredRecord.refs_part? decodes, List.mem_singleton]
  rintro rfl
  exact absent (List.mem_map_of_mem stored)

/-- A record that does not decode is in no message. -/
theorem count_returnedRefs_of_absent {records : List StoredRecord} {ref : MessageRef}
    (absent : ref ∉ records.map StoredRecord.ref) : (returnedRefs (storedParts records)).count ref = 0 :=
  (HeldAt.before (fun _ => storedParts_sound) fun _ => not_mem_refs_of_absent absent).2

/--
A complete listing has every reference at most once, and exactly once if its set was completed.

The set of a record is the one that is open when the record is listed: the records of its message since all indices were
last complete. Messages of 255 parts are left out of the second half, since they are never completed.
-/
theorem MessageStore.listMessages_accounts (store : MessageStore ε) (listing : Listing)
    (listed : store.listMessages = .ok listing) (distinct : (store.records.map StoredRecord.ref).Nodup)
    (before : List StoredRecord) (record : StoredRecord) (after : List StoredRecord)
    (split : store.records = before ++ record :: after) :
    listing.refs.count record.ref ≤ 1 ∧
      ((∀ part, record.part? = some part → part.total ≠ 255) →
        (listing.refs.count record.ref = 1 ↔ SetCompleted before record after)) := by
  rw [split, List.map_append, List.map_cons, List.nodup_append, List.nodup_cons] at distinct
  -- No other record has the reference.
  have absent : record.ref ∉ (before ++ after).map StoredRecord.ref := by
    rw [List.map_append, List.mem_append]
    rintro (earlier | later)
    · exact distinct.2.2 _ earlier _ (by simp) rfl
    · exact distinct.2.1.1 later
  have errors := count_errors_eq_zero absent
  rw [List.filterMap_append, List.map_append, List.count_append] at errors
  -- The reference is counted among the messages and among the errors.
  have counted : listing.refs.count record.ref = (returnedRefs (storedParts store.records)).count record.ref +
      (record.error?.toList.map MessageDecodeError.ref).count record.ref := by
    rw [MessageStore.listMessages_eq listed, Listing.refs, List.count_append, returnedRefs, split]
    cases failed : record.error? with
    | none =>
      rw [List.filterMap_append, List.filterMap_cons_none failed]
      simp
      omega
    | some error =>
      rw [List.filterMap_append, List.filterMap_cons_some failed]
      simp [List.count_cons]
      omega
  cases decodes : record.part? with
  | none =>
    -- A record that does not decode is counted as its error alone.
    have parts : storedParts store.records = storedParts (before ++ after) := by
      simp [split, storedParts, List.filterMap_append, List.filterMap_cons_none decodes]
    obtain ⟨error, failed⟩ := Option.isSome_iff_exists.mp (record.error?_isSome.mpr decodes)
    have once : listing.refs.count record.ref = 1 := by
      rw [counted, parts, count_returnedRefs_of_absent absent, failed]
      simp [StoredRecord.ref_error? failed]
    exact ⟨Nat.le_of_eq once, fun _ => ⟨fun _ part other => by simp [decodes] at other, fun _ => once⟩⟩
  | some part =>
    -- A record that decodes is counted as its part alone.
    have parts : storedParts store.records = storedParts before ++ part :: storedParts after := by
      simp [split, storedParts, List.filterMap_append, List.filterMap_cons_some decodes]
    have noError : record.error? = none := by
      rw [← Option.not_isSome_iff_eq_none, record.error?_isSome, decodes]
      simp
    have sound : ∀ other ∈ storedParts before ++ part :: storedParts after, other.Sound :=
      fun other member => storedParts_sound (parts ▸ member)
    have own := StoredRecord.refs_part? decodes
    have unrelated : ∀ other ∈ storedParts before ++ storedParts after, record.ref ∉ other.message.refs := by
      intro other member
      refine not_mem_refs_of_absent absent ?_
      rwa [storedParts, List.filterMap_append]
    have only : listing.refs.count record.ref =
        (returnedRefs (storedParts before ++ part :: storedParts after)).count record.ref := by
      rw [counted, noError, parts]
      rfl
    rw [only]
    refine ⟨returnedRefs_atMostOnce sound own unrelated, fun small => ?_⟩
    by_cases several : 2 ≤ part.total
    · -- A message of several parts is returned when its set is complete.
      rw [count_returnedRefs_iff sound own unrelated several (small part rfl)]
      refine ⟨fun reaches other same _ => ?_, fun completed => completed part decodes several⟩
      rwa [← Option.some.inj (decodes.symm.trans same)]
    · -- A message of one part is returned.
      have single : part.total ≤ 1 := by
        rw [UInt8.le_iff_toNat_le] at several ⊢
        simp only [UInt8.reduceToNat] at several ⊢
        omega
      refine ⟨fun _ other same many => ?_, fun _ => count_returnedRefs_of_single sound own unrelated single⟩
      rw [← Option.some.inj (decodes.symm.trans same)] at many
      exact absurd many several

/-- A PDU with one octet of a binary message in two parts. -/
def partPDU (index octet : UInt8) : Bytes :=
  [0x00, 0x44, 0x00, 0x91, 0x00, 0x04, 0x62, 0x10, 0x10, 0x00, 0x00, 0x00, 0x00, 7, 5, 0, 3, 1, 2, index, octet]

/-- A device with the two parts of a message and a truncated PDU. -/
def wholeStore : MessageStore Unit :=
  .mbim (.ok [⟨7, .old, partPDU 2 0x62⟩, ⟨3, .new, [0x00]⟩, ⟨4, .old, partPDU 1 0x61⟩])

/-- The listing of the two parts has the reference of the first of them exactly once. -/
theorem wholeStore_accounts : ∃ listing record after, wholeStore.listMessages = .ok listing ∧
    (wholeStore.records.map StoredRecord.ref).Nodup ∧ wholeStore.records = [] ++ record :: after ∧
    SetCompleted [] record after ∧ listing.refs.count record.ref = 1 := by
  have distinct : (wholeStore.records.map StoredRecord.ref).Nodup := by decide +kernel
  -- The first record decodes to the second part, and the last one completes its set.
  have completed : SetCompleted [] (Mbim.storedRecord ⟨7, .old, partPDU 2 0x62⟩)
      [Mbim.storedRecord ⟨3, .new, [0x00]⟩, Mbim.storedRecord ⟨4, .old, partPDU 1 0x61⟩] := by
    intro part decodes _
    have found : (Mbim.storedRecord ⟨7, .old, partPDU 2 0x62⟩).part? =
        some ((Mbim.storedRecord ⟨7, .old, partPDU 2 0x62⟩).part?.getD {}) := by decide +kernel
    rw [← Option.some.inj (found.symm.trans decodes)]
    exact ⟨[1], by decide +kernel, by decide +kernel, by decide +kernel⟩
  cases outcome : wholeStore.listMessages with
  | error fault =>
    have returned : wholeStore.listMessages.toOption.isSome := by decide +kernel
    simp [outcome, Except.toOption] at returned
  | ok listing =>
    refine ⟨listing, _, _, rfl, distinct, rfl, completed, ?_⟩
    refine ((wholeStore.listMessages_accounts listing outcome distinct [] _ _ rfl).2 ?_).mpr completed
    intro part decodes
    have small : (Mbim.storedRecord ⟨7, .old, partPDU 2 0x62⟩).part?.map Part.total = some 2 := by decide +kernel
    rw [decodes] at small
    rw [Option.some.inj small]
    decide

/-- A modem with the first part of a message twice on its card, and the second part in its own memory. -/
def repeatedStore : MessageStore Unit :=
  .qmi {
    list := fun storage =>
      .ok (if storage = .uim then [(1, .mtRead), (2, .mtRead)] else [(1, .mtNotRead)])
    read := fun reference =>
      let data := if reference.storage = .uim then partPDU 1 0x61 else partPDU 2 0x62
      .ok { tag := .mtRead, format := .gwPointToPoint, data } }

/-- All parts of a message are stored, but the listing has the reference of a repeated part nowhere. -/
theorem repeatedStore_not_accounted : ∃ listing record, repeatedStore.listMessages = .ok listing ∧
    (repeatedStore.records.map StoredRecord.ref).Nodup ∧ record ∈ repeatedStore.records ∧
    ¬ MissesIndex repeatedStore.records record ∧ listing.refs.count record.ref = 0 := by
  have distinct : (repeatedStore.records.map StoredRecord.ref).Nodup := by decide +kernel
  cases outcome : repeatedStore.listMessages with
  | error fault =>
    have returned : repeatedStore.listMessages.toOption.isSome := by decide +kernel
    simp [outcome, Except.toOption] at returned
  | ok listing =>
    have counted : repeatedStore.listMessages.toOption.map
        (fun listing => listing.refs.count { storage := .sim, id := 1 }) = some 0 := by decide +kernel
    have first : ∃ record, repeatedStore.records.head? = some record ∧ record.ref = { storage := .sim, id := 1 } := by
      refine ⟨repeatedStore.records.head (by decide +kernel), List.head?_eq_some_head _, ?_⟩
      decide +kernel
    obtain ⟨record, head, ref⟩ := first
    refine ⟨listing, record, rfl, distinct, List.mem_of_head? head, ?_, ?_⟩
    · -- Both indices are stored.
      rintro ⟨part, decodes, -, index, wanted, absent⟩
      have all : ∀ part ∈ (repeatedStore.records.head?.bind StoredRecord.part?).toList, ∀ index ∈ indices part.total,
          ∃ other ∈ storedParts repeatedStore.records, other.key = part.key ∧ other.index = index := by
        decide +kernel
      obtain ⟨other, stored, same, found⟩ := all part (by simp [head, decodes]) index wanted
      exact absent other stored same found
    · rw [outcome] at counted
      rw [ref]
      simpa [Except.toOption] using counted

end Wwan.Modem
