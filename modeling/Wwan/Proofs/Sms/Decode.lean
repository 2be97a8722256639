import Wwan.Proofs.Sms.Address

/-! What each stage of PDU decoding reads, and what it leaves alone. -/

namespace Wwan.Sms

/-- An information element sets at most the concatenation fields. -/
theorem unmarshalHeaderElement_message {p q : Part} {kind : UInt8} {value : Bytes}
    (read : unmarshalHeaderElement p kind value = .ok q) : q.message = p.message := by
  unfold unmarshalHeaderElement at read
  split at read
  · -- A concatenation element with a reference of one octet.
    obtain ⟨_, -, read⟩ := Go.bind_eq_ok.mp read
    obtain ⟨_, -, read⟩ := Go.bind_eq_ok.mp read
    obtain ⟨_, -, read⟩ := Go.bind_eq_ok.mp read
    simp only [Go.pure_eq, Except.ok.injEq] at read
    rw [← read]
  · split at read
    · -- A concatenation element with a reference of two octets.
      obtain ⟨_, -, read⟩ := Go.bind_eq_ok.mp read
      obtain ⟨_, -, read⟩ := Go.bind_eq_ok.mp read
      obtain ⟨_, -, read⟩ := Go.bind_eq_ok.mp read
      obtain ⟨_, -, read⟩ := Go.bind_eq_ok.mp read
      simp only [Go.pure_eq, Except.ok.injEq] at read
      rw [← read]
    · -- Every other element is skipped.
      simp only [Go.pure_eq, Except.ok.injEq] at read
      rw [read]

/-- All information elements together set at most the concatenation fields. -/
theorem unmarshalHeaderElements_message {data : Bytes} {headerLength offset : Nat} {p q : Part}
    (read : unmarshalHeaderElements data headerLength p offset = .ok q) : q.message = p.message := by
  -- Every element moves the offset towards the end of the header.
  induction gap : headerLength - offset using Nat.strongRecOn generalizing p offset with
  | ind gap ih =>
    rw [unmarshalHeaderElements] at read
    split at read
    · split at read
      · simp at read
      · -- An element that fits into the header is read, and the rest behind it.
        obtain ⟨kind, -, read⟩ := Go.bind_eq_ok.mp read
        obtain ⟨length, -, read⟩ := Go.bind_eq_ok.mp read
        dsimp only at read
        split at read
        · simp at read
        · obtain ⟨value, -, read⟩ := Go.bind_eq_ok.mp read
          obtain ⟨next, element, read⟩ := Go.bind_eq_ok.mp read
          have rest := ih (headerLength - (offset + 2 + length.toNat)) (by omega) read rfl
          rw [rest, unmarshalHeaderElement_message element]
    · -- The end of the header.
      simp only [Go.pure_eq, Except.ok.injEq] at read
      rw [read]

/-- A user-data header only sets the concatenation fields. -/
theorem unmarshalUserDataHeader_message {p q : Part} {data : Bytes} {length : Nat}
    (read : unmarshalUserDataHeader p data = .ok (q, length)) : q.message = p.message := by
  unfold unmarshalUserDataHeader at read
  split at read
  · simp at read
  · obtain ⟨first, -, read⟩ := Go.bind_eq_ok.mp read
    dsimp only at read
    split at read
    · simp at read
    · obtain ⟨next, elements, read⟩ := Go.bind_eq_ok.mp read
      split at read
      · simp at read
      · simp only [Go.pure_eq, Except.ok.injEq, Prod.mk.injEq] at read
        rw [← read.1]
        exact unmarshalHeaderElements_message elements

/-- A header that is absent or keeps the message keeps it either way. -/
private theorem optionalHeader_message {hasHeader : Bool} {p q : Part}
    {header : Go Error (Part × Nat)} {length : Nat}
    (inner : ∀ q length, header = .ok (q, length) → q.message = p.message)
    (read : optionalHeader hasHeader p header = .ok (q, length)) : q.message = p.message := by
  unfold optionalHeader at read
  split at read
  · exact inner q length read
  · simp only [Go.pure_eq, Except.ok.injEq, Prod.mk.injEq] at read
    rw [read.1]

/-- A user-data header counted in septets only sets the concatenation fields. -/
private theorem unmarshalGSM7UserDataHeader_message {p q : Part} {data : Bytes} {length : Nat}
    (read : unmarshalGSM7UserDataHeader p data = .ok (q, length)) : q.message = p.message := by
  obtain ⟨⟨inner, headerLength⟩, header, done⟩ := Go.bind_eq_ok.mp read
  simp only [Go.pure_eq, Except.ok.injEq, Prod.mk.injEq] at done
  rw [← done.1]
  exact unmarshalUserDataHeader_message header

/-- Both messages name the same service centre and the same number. -/
def SameEnvelope (left right : Message) : Prop :=
  left.smsc = right.smsc ∧ left.number = right.number

/-- Decoding the user data leaves the addresses alone. -/
theorem unmarshalUserData_envelope {p q : Part} {pdu : Bytes} {offset : Nat} {hasHeader : Bool}
    {dcs : UInt8} (read : unmarshalUserData p pdu offset hasHeader dcs = .ok q) :
    SameEnvelope q.message p.message := by
  unfold unmarshalUserData at read
  split at read
  · simp at read
  · obtain ⟨length, -, read⟩ := Go.bind_eq_ok.mp read
    dsimp only at read
    split at read
    · -- Septets replace the text only.
      split at read
      · simp at read
      · obtain ⟨data, -, read⟩ := Go.bind_eq_ok.mp read
        obtain ⟨⟨next, headerSeptets⟩, header, read⟩ := Go.bind_eq_ok.mp read
        have kept := optionalHeader_message
          (fun _ _ inner => unmarshalGSM7UserDataHeader_message inner) header
        dsimp only at read
        split at read
        · simp at read
        · obtain ⟨septets, -, read⟩ := Go.bind_eq_ok.mp read
          obtain ⟨text, -, read⟩ := Go.bind_eq_ok.mp read
          simp only [Go.pure_eq, Except.ok.injEq] at read
          rw [← read]
          exact ⟨by rw [← kept], by rw [← kept]⟩
    · -- Octets replace the data or the text.
      split at read
      · simp at read
      · obtain ⟨data, -, read⟩ := Go.bind_eq_ok.mp read
        obtain ⟨⟨next, headerLength⟩, header, read⟩ := Go.bind_eq_ok.mp read
        have kept := optionalHeader_message
          (fun _ _ inner => unmarshalUserDataHeader_message inner) header
        obtain ⟨payload, -, read⟩ := Go.bind_eq_ok.mp read
        split at read
        · simp only [Go.pure_eq, Except.ok.injEq] at read
          rw [← read]
          exact ⟨by rw [← kept], by rw [← kept]⟩
        · split at read
          · simp at read
          · obtain ⟨text, -, read⟩ := Go.bind_eq_ok.mp read
            simp only [Go.pure_eq, Except.ok.injEq] at read
            rw [← read]
            exact ⟨by rw [← kept], by rw [← kept]⟩

/-- Decoding the transport PDU leaves the service-centre address alone. -/
theorem unmarshalTPDU_smsc {p q : Part} {pdu : Bytes} {offset : Nat} {first : UInt8}
    (read : unmarshalTPDU p pdu offset first = .ok q) : q.message.smsc = p.message.smsc := by
  unfold unmarshalTPDU at read
  split at read
  · -- A received message.
    obtain ⟨⟨number, next⟩, -, read⟩ := Go.bind_eq_ok.mp read
    dsimp only at read
    split at read
    · simp at read
    · obtain ⟨dcs, -, read⟩ := Go.bind_eq_ok.mp read
      obtain ⟨stamp, -, read⟩ := Go.bind_eq_ok.mp read
      obtain ⟨time, -, read⟩ := Go.bind_eq_ok.mp read
      exact (unmarshalUserData_envelope read).1
  · split at read
    · -- A submitted message.
      unfold unmarshalSubmitPDU at read
      split at read
      · simp at read
      · obtain ⟨reference, -, read⟩ := Go.bind_eq_ok.mp read
        obtain ⟨⟨number, next⟩, -, read⟩ := Go.bind_eq_ok.mp read
        dsimp only at read
        split at read
        · simp at read
        · obtain ⟨dcs, -, read⟩ := Go.bind_eq_ok.mp read
          split at read
          · simp at read
          · exact (unmarshalUserData_envelope read).1
    · split at read
      · -- A delivery report.
        unfold unmarshalStatusReportPDU at read
        split at read
        · simp at read
        · obtain ⟨reference, -, read⟩ := Go.bind_eq_ok.mp read
          obtain ⟨⟨number, next⟩, -, read⟩ := Go.bind_eq_ok.mp read
          dsimp only at read
          split at read
          · simp at read
          · obtain ⟨stamp, -, read⟩ := Go.bind_eq_ok.mp read
            obtain ⟨time, -, read⟩ := Go.bind_eq_ok.mp read
            simp only [Go.pure_eq, Except.ok.injEq] at read
            rw [← read]
      · simp at read

/-- The octets of a nonempty service-centre address. -/
theorem encodeSMSC_of_ne_nil {smsc : GoString} (nonempty : smsc ≠ []) :
    encodeSMSC smsc = UInt8.ofNat (1 + (digitCount smsc + 1) / 2) ::
      typeOfAddress (normalizeNumber smsc).2 :: encodeBCDDigits (normalizeNumber smsc).1 := by
  simp [encodeSMSC, nonempty, digitCount, Nat.add_comm 1]

/-- A service-centre address always has its length octet. -/
theorem encodeSMSC_eq_cons (smsc : GoString) : ∃ length rest, encodeSMSC smsc = length :: rest := by
  by_cases empty : smsc = []
  · exact ⟨0, [], by simp [encodeSMSC, empty]⟩
  · exact ⟨_, _, encodeSMSC_of_ne_nil empty⟩

/-- A service-centre address of at most 508 digits is counted by its length octet and reads back. -/
theorem readSMSC_of_short {smsc : GoString} (dial : DialNumber smsc) (short : digitCount smsc ≤ 508)
    (after : Bytes) :
    (Go.index (encodeSMSC smsc ++ after) 0 : Go Error UInt8) =
        .ok (UInt8.ofNat ((encodeSMSC smsc).length - 1)) ∧
      (UInt8.ofNat ((encodeSMSC smsc).length - 1)).toNat + 1 = (encodeSMSC smsc).length ∧
      readSMSC (encodeSMSC smsc ++ after) ((encodeSMSC smsc).length - 1) = .ok smsc := by
  by_cases empty : smsc = []
  · subst empty
    exact ⟨rfl, rfl, rfl⟩
  · -- The length octet counts the type octet and the digits, two to an octet.
    have octets : (encodeBCDDigits (normalizeNumber smsc).1).length = (digitCount smsc + 1) / 2 := by
      simp [digitCount]
    have digits := flatMap_nibbles_whole_octets dial.digits
    have length : (encodeSMSC smsc).length = (digitCount smsc + 1) / 2 + 2 := by
      simp [encodeSMSC_of_ne_nil empty, octets]
    have counted : (UInt8.ofNat ((encodeSMSC smsc).length - 1)).toNat = (encodeSMSC smsc).length - 1 :=
      UInt8.toNat_ofNat_of_lt' (by simp [UInt8.size]; omega)
    refine ⟨?_, by omega, ?_⟩
    · rw [length, encodeSMSC_of_ne_nil empty, Nat.add_comm 1]
      rfl
    · -- The type octet and the digits stand where the reader looks for them.
      have positive : (encodeSMSC smsc).length - 1 > 0 := by omega
      have type : (Go.index (encodeSMSC smsc ++ after) 1 : Go Error UInt8) =
          .ok (typeOfAddress (normalizeNumber smsc).2) := by
        rw [encodeSMSC_of_ne_nil empty]
        rfl
      have window : (Go.slice (encodeSMSC smsc ++ after) 2 (1 + ((encodeSMSC smsc).length - 1)) :
          Go Error Bytes) = .ok (encodeBCDDigits (normalizeNumber smsc).1) := by
        have bound : 1 + ((digitCount smsc + 1) / 2 + 2 - 1) = 2 + (digitCount smsc + 1) / 2 := by omega
        rw [length, bound, encodeSMSC_of_ne_nil empty]
        have := Go.slice_append (ε := Error) [UInt8.ofNat (1 + (digitCount smsc + 1) / 2),
          typeOfAddress (normalizeNumber smsc).2] (encodeBCDDigits (normalizeNumber smsc).1) after
        simpa [octets] using this
      have count : ((encodeSMSC smsc).length - 1 - 1) * 2 =
          ((normalizeNumber smsc).1.length + 1) / 2 * 2 := by
        rw [length]
        rfl
      rw [readSMSC, if_pos positive, window, Go.ok_bind, type, Go.ok_bind,
        decodeBCDAddress_eq _ _ _ (by omega), count, digits, plusSign_normalizeNumber]

/-- Decoding starts with the service-centre address and goes on with the first octet. -/
theorem unmarshalBinary_of_short {smsc : GoString} (dial : DialNumber smsc)
    (short : digitCount smsc ≤ 508) (first : UInt8) (after : Bytes) :
    Part.unmarshalBinary (encodeSMSC smsc ++ first :: after) =
      unmarshalTPDU (startPart smsc (encodeSMSC smsc ++ first :: after))
        (encodeSMSC smsc ++ first :: after) ((encodeSMSC smsc).length + 1) first := by
  obtain ⟨found, counted, read⟩ := readSMSC_of_short dial short (first :: after)
  obtain ⟨length, rest, split⟩ := encodeSMSC_eq_cons smsc
  have positive : 0 < (encodeSMSC smsc).length := by simp [split]
  have smscLength : (UInt8.ofNat ((encodeSMSC smsc).length - 1)).toNat = (encodeSMSC smsc).length - 1 := by
    omega
  -- The PDU is long enough for every check up to the first octet.
  have long : ¬ (encodeSMSC smsc ++ first :: after).length < 2 := by
    simp
    omega
  have inside : ¬ (encodeSMSC smsc).length - 1 > (encodeSMSC smsc ++ first :: after).length - 1 := by
    simp
    omega
  have offset : 1 + ((encodeSMSC smsc).length - 1) = (encodeSMSC smsc).length := by omega
  have present : ¬ (encodeSMSC smsc).length ≥ (encodeSMSC smsc ++ first :: after).length := by simp
  rw [Part.unmarshalBinary, if_neg long, found, Go.ok_bind]
  simp only [smscLength, inside, if_false, read, Go.ok_bind, offset, present, Go.index_append]

/-- A service-centre address of more than 508 digits never reads back. -/
theorem unmarshalBinary_smsc_of_long {smsc : GoString} (long : 508 < digitCount smsc)
    {after : Bytes} {p : Part} (read : Part.unmarshalBinary (encodeSMSC smsc ++ after) = .ok p) :
    p.message.smsc ≠ smsc := by
  -- Such an address is not empty.
  have nonempty : smsc ≠ [] := by
    rintro rfl
    simp [digitCount, normalizeNumber] at long
  unfold Part.unmarshalBinary at read
  split at read
  · simp at read
  · obtain ⟨length, counted, read⟩ := Go.bind_eq_ok.mp read
    dsimp only at read
    split at read
    · simp at read
    · rename_i inside
      obtain ⟨decoded, address, read⟩ := Go.bind_eq_ok.mp read
      split at read
      · simp at read
      · obtain ⟨first, -, read⟩ := Go.bind_eq_ok.mp read
        rw [unmarshalTPDU_smsc read]
        change decoded ≠ smsc
        -- The length octet counts at most 255 octets, so at most 508 digits are decoded.
        have octet := length.toNat_lt
        unfold readSMSC at address
        split at address
        · obtain ⟨window, cut, address⟩ := Go.bind_eq_ok.mp address
          obtain ⟨type, typed, address⟩ := Go.bind_eq_ok.mp address
          have type_eq : type = typeOfAddress (normalizeNumber smsc).2 := by
            rw [encodeSMSC_of_ne_nil nonempty] at typed
            exact (Except.ok.inj typed).symm
          -- The window is what the length octet says.
          have windowLength : window.length = length.toNat - 1 := by
            unfold Go.slice at cut
            split at cut
            · rename_i bounds
              rw [← Except.ok.inj cut, List.length_take, List.length_drop]
              omega
            · simp at cut
          rw [type_eq, decodeBCDAddress_eq _ _ _ (by omega)] at address
          rw [← Except.ok.inj address]
          -- The decoded number is shorter than the one that was encoded.
          intro same
          have lengths := congrArg List.length same
          have bound := length_flatMap_nibbles_le window ((length.toNat - 1) * 2)
          rw [List.length_append, length_eq_digitCount smsc] at lengths
          omega
        · -- Without a length octet nothing is decoded.
          rw [← Except.ok.inj address]
          exact nonempty.symm

/-- The first octet names a submission without a validity period and carries both flags. -/
theorem firstOctet_flags (report header : Bool) :
    ((0x01 ||| (if report then 0x20 else 0) ||| (if header then 0x40 else 0) : UInt8) &&& 0x03 = 1) ∧
      validityPeriodOctets (0x01 ||| (if report then 0x20 else 0) ||| (if header then 0x40 else 0)) = 0 ∧
      decide ((0x01 ||| (if report then 0x20 else 0) ||| (if header then 0x40 else 0) : UInt8) &&& 0x20
        ≠ 0) = report ∧
      decide ((0x01 ||| (if report then 0x20 else 0) ||| (if header then 0x40 else 0) : UInt8) &&& 0x40
        ≠ 0) = header := by
  cases report <;> cases header <;> decide

/-- A submission to a number of at most 255 digits is decoded up to its user data. -/
theorem unmarshalSubmitPDU_of_short (p : Part) (before : Bytes) {number : GoString}
    (dial : DialNumber number) (short : digitCount number ≤ 255) {first : UInt8}
    (noValidity : validityPeriodOctets first = 0) (dcs : UInt8) (after : Bytes) :
    unmarshalSubmitPDU p (appendAddress (before ++ [0]) number ++ 0 :: dcs :: after) before.length
        first =
      unmarshalUserData { p with message := { p.message with
          messageReference := 0, number, deliveryReport := first &&& 0x20 ≠ 0 } }
        (appendAddress (before ++ [0]) number ++ 0 :: dcs :: after)
        ((appendAddress (before ++ [0]) number).length + 2) (first &&& 0x40 ≠ 0) dcs := by
  -- The fields stand in order, and the guards find them inside the PDU.
  have address := readAddress_of_short dial short (before ++ [0]) (0 :: dcs :: after)
  have offset : (before ++ [(0 : UInt8)]).length = before.length + 1 := by simp
  have present : ¬ before.length ≥
      (appendAddress (before ++ [0]) number ++ 0 :: dcs :: after).length := by
    simp [appendAddress_eq]
  have reference : (Go.index (appendAddress (before ++ [0]) number ++ 0 :: dcs :: after)
      before.length : Go Error UInt8) = .ok 0 := by
    have := Go.index_append (ε := Error) before 0 (UInt8.ofNat (digitCount number) ::
      typeOfAddress (normalizeNumber number).2 :: (encodeBCDDigits (normalizeNumber number).1 ++
        0 :: dcs :: after))
    simpa [appendAddress_eq] using this
  have fixed : ¬ ((appendAddress (before ++ [0]) number ++ 0 :: dcs :: after).length : Int) -
      (appendAddress (before ++ [0]) number).length < 2 := by
    rw [List.length_append, List.length_cons, List.length_cons]
    omega
  have scheme : (Go.index (appendAddress (before ++ [0]) number ++ 0 :: dcs :: after)
      ((appendAddress (before ++ [0]) number).length + 1) : Go Error UInt8) = .ok dcs := by
    have := Go.index_append (ε := Error) (appendAddress (before ++ [0]) number ++ [0]) dcs after
    simpa using this
  have period : ¬ (appendAddress (before ++ [0]) number).length + 2 + 0 >
      (appendAddress (before ++ [0]) number ++ 0 :: dcs :: after).length := by
    simp
  rw [offset] at address
  rw [unmarshalSubmitPDU, if_neg present, reference, Go.ok_bind, address, Go.ok_bind]
  simp only [fixed, if_false, scheme, Go.ok_bind, noValidity, period]
  rfl

/-- A submission to a number of more than 255 digits never reads back. -/
theorem unmarshalSubmitPDU_number_of_long {p q : Part} {before : Bytes} {number : GoString}
    (long : 255 < digitCount number) {first : UInt8} {after : Bytes}
    (read : unmarshalSubmitPDU p (appendAddress (before ++ [0]) number ++ after) before.length first =
      .ok q) : q.message.number ≠ number := by
  unfold unmarshalSubmitPDU at read
  split at read
  · simp at read
  · obtain ⟨reference, -, read⟩ := Go.bind_eq_ok.mp read
    obtain ⟨⟨found, next⟩, address, read⟩ := Go.bind_eq_ok.mp read
    have offset : (before ++ [(0 : UInt8)]).length = before.length + 1 := by simp
    rw [← offset] at address
    -- What was read as the number is not the number.
    have wrong := readAddress_of_long long address
    dsimp only at read
    split at read
    · simp at read
    · obtain ⟨dcs, -, read⟩ := Go.bind_eq_ok.mp read
      split at read
      · simp at read
      · -- The user data does not touch it.
        rw [(unmarshalUserData_envelope read).2]
        exact wrong

/-- The index check on a concatenation header. -/
def badIndex (total index : UInt8) : Prop := total ≠ 0 ∧ (index = 0 ∨ index > total)

instance (total index : UInt8) : Decidable (badIndex total index) :=
  inferInstanceAs (Decidable (_ ∧ _))

/-- A concatenation header records its reference and numbering, unless the index check refuses it. -/
theorem unmarshalUserDataHeader_concatHeader (p : Part) (ref : UInt8) (count i : Nat) (after : Bytes) :
    unmarshalUserDataHeader p (concatHeader ref count i ++ after) =
      if badIndex (UInt8.ofNat count) (UInt8.ofNat (i + 1)) then
        Go.fail (.multipartIndex (UInt8.ofNat (i + 1)) (UInt8.ofNat count))
      else .ok ({ p with reference := ref.toUInt16, total := UInt8.ofNat count,
                         index := UInt8.ofNat (i + 1) }, 6) := by
  have elements : unmarshalHeaderElements (concatHeader ref count i ++ after) 6 p 1 =
      .ok { p with reference := ref.toUInt16, total := UInt8.ofNat count,
                   index := UInt8.ofNat (i + 1) } := by
    -- The single element fills the header, so the loop ends right behind it.
    rw [unmarshalHeaderElements]
    -- The value is the reference, the total and the index.
    have value : (Go.slice (concatHeader ref count i ++ after) 3 6 : Go Error Bytes) =
        .ok [ref, UInt8.ofNat count, UInt8.ofNat (i + 1)] := by
      rw [Go.slice_eq_ok (by omega) (by simp [concatHeader])]
      rfl
    have element : unmarshalHeaderElement p 0 [ref, UInt8.ofNat count, UInt8.ofNat (i + 1)] =
        .ok { p with reference := ref.toUInt16, total := UInt8.ofNat count,
                     index := UInt8.ofNat (i + 1) } := rfl
    have kind : (Go.index (concatHeader ref count i ++ after) 1 : Go Error UInt8) = .ok 0 := rfl
    have length : (Go.index (concatHeader ref count i ++ after) (1 + 1) : Go Error UInt8) = .ok 3 := rfl
    simp only [kind, length, Go.ok_bind]
    simp only [show (1 : Nat) < 6 by decide, if_true, show ¬ 6 - 1 < 2 by decide, if_false,
      show ¬ (3 : UInt8).toNat > 6 - (1 + 2) by decide,
      show 1 + 2 + (3 : UInt8).toNat = 6 by decide, show 1 + 2 = 3 by decide, value, element,
      Go.ok_bind]
    rw [unmarshalHeaderElements]
    rfl
  -- The header length octet counts that one element.
  have first : (Go.index (concatHeader ref count i ++ after) 0 : Go Error UInt8) = .ok 5 := rfl
  have size : ¬ (concatHeader ref count i ++ after).length = 0 := by simp [concatHeader]
  have inside : ¬ 6 > (concatHeader ref count i ++ after).length := by simp [concatHeader]
  rw [unmarshalUserDataHeader, if_neg size, first, Go.ok_bind]
  simp only [show (5 : UInt8).toNat + 1 = 6 by decide, inside, if_false, elements, Go.ok_bind]
  rfl

end Wwan.Sms
