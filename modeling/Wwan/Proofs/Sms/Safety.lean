import Wwan.Proofs.Sms.Text
import Wwan.Sms.Pdu

/-! Decoding a PDU never reads outside of it, and places every part inside its message. -/

namespace Wwan.Sms

/-! Septets and addresses. -/

/-- Bits inside the octets can be read. -/
theorem readBits_ensures {src : Bytes} {offset count : Nat} (inside : offset + count ≤ 8 * src.length) :
    (readBits src offset count).Ensures fun _ => True := by
  -- Every iteration reads the octet that its bit lies in.
  refine Go.ensures_foldlM trivial fun value _ bit member => ?_
  have below := List.mem_range.mp member
  exact (Go.ensures_index (by omega)).bind fun octet _ => Go.ensures_ok trivial

/-- Septets inside the octets can be unpacked. -/
theorem unpackSeptets_ensures {data : Bytes} {startBit count : Nat} (inside : startBit + count * 7 ≤ 8 * data.length) :
    (unpackSeptets data startBit count).Ensures fun _ => True := by
  refine Go.ensures_mapM fun i member => ?_
  have below := List.mem_range.mp member
  exact readBits_ensures (by omega)

/-- Decoding septets never panics. -/
theorem GSM7.unmarshalBinary_ensures (septets : Bytes) : (GSM7.unmarshalBinary septets).Ensures fun _ => True := by
  -- It either fails with an error or returns text.
  rcases GSM7.unmarshalSeptets_cases false septets with ⟨-, err, failed⟩ | ⟨-, rs, -, decoded⟩
  · rw [GSM7.unmarshalBinary, failed]
    exact Go.ensures_fail err
  · rw [GSM7.unmarshalBinary, decoded]
    exact Go.ensures_ok trivial

/-- The surrogate check never panics. -/
theorem checkSurrogates_ensures (units : List UInt16) : (checkSurrogates units).Ensures fun _ => True := by
  -- The induction follows the check, which looks at one unit or at two.
  fun_induction checkSurrogates units with
  | case1 => exact Go.ensures_ok trivial
  | case2 => exact Go.ensures_fail _
  | case3 _ _ _ _ _ ih => exact ih
  | case4 => exact Go.ensures_fail _
  | case5 => exact Go.ensures_fail _
  | case6 _ _ _ _ ih => exact ih

/-- Decoding code units never panics. -/
theorem UTF16.unmarshalBinary_ensures (data : Bytes) : (UTF16.unmarshalBinary data).Ensures fun _ => True := by
  unfold UTF16.unmarshalBinary unmarshalUTF16
  refine Go.ensures_ite (fun _ => Go.ensures_fail _) fun _ => ?_
  exact (checkSurrogates_ensures _).bind fun _ _ => Go.ensures_ok trivial

/-- Semi-octets inside the data can be decoded. -/
theorem decodeBCDAddress_ensures {type : UInt8} {data : Bytes} {count : Nat} (inside : count ≤ 2 * data.length) :
    (decodeBCDAddress type data count).Ensures fun _ => True := by
  refine Go.ensures_foldlM trivial fun result _ i member => ?_
  have below := List.mem_range.mp member
  exact (Go.ensures_index (by omega)).bind fun octet _ => Go.ensures_ok trivial

/-- An address is read inside the PDU, and so is what follows it. -/
theorem readAddress_ensures (pdu : Bytes) (offset : Nat) :
    (readAddress pdu offset).Ensures fun read => read.2 ≤ pdu.length := by
  unfold readAddress
  refine Go.ensures_ite (fun _ => Go.ensures_fail _) fun present => ?_
  refine (Go.ensures_index (by omega)).bind fun digits _ => ?_
  refine (Go.ensures_index (by omega)).bind fun type _ => ?_
  refine Go.ensures_ite (fun _ => ?_) fun _ => ?_
  · -- The useful semi-octets hold the septets of an alphanumeric address.
    refine Go.ensures_ite (fun _ => Go.ensures_fail _) fun untruncated => ?_
    refine (Go.ensures_slice (by omega) (by omega)).bind fun window width => ?_
    refine (unpackSeptets_ensures (by omega)).bind fun septets _ => ?_
    have text := GSM7.unmarshalBinary_ensures septets
    cases decoded : GSM7.unmarshalBinary septets with
    | ok text => exact Go.ensures_ok (by dsimp only; omega)
    | error fault =>
      cases fault with
      | err cause => exact Go.ensures_fail _
      | outOfRange => exact absurd decoded text.1
  · refine Go.ensures_ite (fun _ => Go.ensures_fail _) fun untruncated => ?_
    refine (Go.ensures_slice (by omega) (by omega)).bind fun window width => ?_
    refine (decodeBCDAddress_ensures (by omega)).bind fun address _ => ?_
    exact Go.ensures_ok (by dsimp only; omega)

/-! User data. -/

/-- The part is a whole message, or its index is one of its parts. -/
def Part.Placed (p : Part) : Prop := p.total = 0 ∨ (1 ≤ p.index ∧ p.index ≤ p.total)

/-- An information element is read inside its value. -/
theorem unmarshalHeaderElement_ensures (p : Part) (kind : UInt8) (value : Bytes) :
    (unmarshalHeaderElement p kind value).Ensures fun _ => True := by
  unfold unmarshalHeaderElement
  refine Go.ensures_ite (fun element => ?_) fun _ => Go.ensures_ite (fun element => ?_) fun _ => Go.ensures_ok trivial
  · refine (Go.ensures_index (by omega)).bind fun reference _ => ?_
    refine (Go.ensures_index (by omega)).bind fun total _ => ?_
    exact (Go.ensures_index (by omega)).bind fun index _ => Go.ensures_ok trivial
  · refine (Go.ensures_index (by omega)).bind fun high _ => ?_
    refine (Go.ensures_index (by omega)).bind fun low _ => ?_
    refine (Go.ensures_index (by omega)).bind fun total _ => ?_
    exact (Go.ensures_index (by omega)).bind fun index _ => Go.ensures_ok trivial

/-- The information elements are read inside the header. -/
theorem unmarshalHeaderElements_ensures {data : Bytes} {headerLength : Nat} (inside : headerLength ≤ data.length)
    (p : Part) (offset : Nat) : (unmarshalHeaderElements data headerLength p offset).Ensures fun _ => True := by
  -- The rest of the header gets shorter with every element.
  induction rest : headerLength - offset using Nat.strongRecOn generalizing p offset with
  | _ n ih =>
    rw [unmarshalHeaderElements]
    refine Go.ensures_ite (fun more => ?_) fun _ => Go.ensures_ok trivial
    refine Go.ensures_ite (fun _ => Go.ensures_fail _) fun roomy => ?_
    refine (Go.ensures_index (by omega)).bind fun kind _ => ?_
    refine (Go.ensures_index (by omega)).bind fun length _ => ?_
    refine Go.ensures_ite (fun _ => Go.ensures_fail _) fun untruncated => ?_
    refine (Go.ensures_slice (by omega) (by omega)).bind fun value _ => ?_
    refine (unmarshalHeaderElement_ensures p kind value).bind fun p _ => ?_
    exact ih (headerLength - (offset + 2 + length.toNat)) (by omega) p _ rfl

/-- A header that is read lies inside the data and places its part. -/
theorem unmarshalUserDataHeader_ensures (p : Part) (data : Bytes) :
    (unmarshalUserDataHeader p data).Ensures fun read => read.1.Placed ∧ read.2 ≤ data.length := by
  unfold unmarshalUserDataHeader
  refine Go.ensures_ite (fun _ => Go.ensures_fail _) fun nonempty => ?_
  refine (Go.ensures_index (by omega)).bind fun length _ => ?_
  refine Go.ensures_ite (fun _ => Go.ensures_fail _) fun untruncated => ?_
  refine (unmarshalHeaderElements_ensures (by omega) p 1).bind fun p _ => ?_
  refine Go.ensures_ite (fun _ => Go.ensures_fail _) fun placed => Go.ensures_ok ⟨?_, by dsimp only; omega⟩
  -- The last check of the header is the one that places the part.
  by_cases whole : p.total = 0
  · exact .inl whole
  · have inside : ¬ (p.index = 0 ∨ p.index > p.total) := fun outside => placed ⟨whole, outside⟩
    rw [not_or] at inside
    refine .inr ⟨?_, UInt8.not_lt.mp inside.2⟩
    rw [UInt8.le_iff_toNat_le]
    have nonzero : p.index.toNat ≠ 0 := fun zero => inside.1 (UInt8.toNat_inj.mp zero)
    exact Nat.one_le_iff_ne_zero.mpr nonzero

/-- A header is read only where there is one. -/
theorem optionalHeader_ensures {hasHeader : Bool} {p : Part} (placed : p.Placed) {header : Go Error (Part × Nat)}
    {limit : Nat} (ensures : header.Ensures fun read => read.1.Placed ∧ read.2 ≤ limit) :
    (optionalHeader hasHeader p header).Ensures fun read => read.1.Placed ∧ read.2 ≤ limit := by
  unfold optionalHeader
  exact Go.ensures_ite (fun _ => ensures) fun _ => Go.ensures_ok ⟨placed, Nat.zero_le limit⟩

/-- A header in septets reaches at most one septet behind its octets. -/
theorem unmarshalGSM7UserDataHeader_ensures (p : Part) (data : Bytes) :
    (unmarshalGSM7UserDataHeader p data).Ensures fun read =>
      read.1.Placed ∧ read.2 ≤ (data.length * 8 + 6) / 7 := by
  unfold unmarshalGSM7UserDataHeader
  refine (unmarshalUserDataHeader_ensures p data).bind fun read inside => ?_
  exact Go.ensures_ok ⟨inside.1, Nat.div_le_div_right (by have := inside.2; omega)⟩

/-- User data is read inside the PDU, and keeps the part in its place. -/
theorem unmarshalUserData_ensures {p : Part} (placed : p.Placed) (pdu : Bytes) (offset : Nat) (hasHeader : Bool)
    (dcs : UInt8) : (unmarshalUserData p pdu offset hasHeader dcs).Ensures Part.Placed := by
  unfold unmarshalUserData
  refine Go.ensures_ite (fun _ => Go.ensures_fail _) fun present => ?_
  refine (Go.ensures_index (by omega)).bind fun length _ => ?_
  -- The two alphabets of octets are decoded alike.
  have octets (alphabet : Alphabet) : (if length.toNat > pdu.length - (offset + 1) then
      Go.fail (.text "decoding SMS PDU: user data is truncated")
    else do
      let data ← Go.slice pdu (offset + 1) (offset + 1 + length.toNat)
      let read ← optionalHeader hasHeader p (unmarshalUserDataHeader p data)
      let payload ← Go.slice data read.2 data.length
      if alphabet = .binary then return { read.1 with message := { read.1.message with data := payload } }
      else if payload.length % 2 ≠ 0 then
        Go.fail (.text "decoding SMS PDU: UCS-2 user data has odd length")
      else
        let text ← UTF16.unmarshalBinary payload
        return { read.1 with message := { read.1.message with text } } : Go Error Part).Ensures Part.Placed := by
    refine Go.ensures_ite (fun _ => Go.ensures_fail _) fun untruncated => ?_
    refine (Go.ensures_slice (by omega) (by omega)).bind fun data width => ?_
    refine (optionalHeader_ensures placed (unmarshalUserDataHeader_ensures p data)).bind fun read inside => ?_
    refine (Go.ensures_slice inside.2 le_rfl).bind fun payload _ => ?_
    refine Go.ensures_ite (fun _ => Go.ensures_ok inside.1) fun _ => ?_
    refine Go.ensures_ite (fun _ => Go.ensures_fail _) fun _ => ?_
    exact (UTF16.unmarshalBinary_ensures payload).bind fun text _ => Go.ensures_ok inside.1
  cases alphabetFromDCS dcs with
  | gsm7 =>
    refine Go.ensures_ite (fun _ => Go.ensures_fail _) fun untruncated => ?_
    refine (Go.ensures_slice (by omega) (by omega)).bind fun data width => ?_
    refine (optionalHeader_ensures placed (unmarshalGSM7UserDataHeader_ensures p data)).bind fun read inside => ?_
    refine Go.ensures_ite (fun _ => Go.ensures_fail _) fun short => ?_
    refine (unpackSeptets_ensures (by omega)).bind fun septets _ => ?_
    exact (GSM7.unmarshalBinary_ensures septets).bind fun text _ => Go.ensures_ok inside.1
  | binary => exact octets .binary
  | ucs2 => exact octets .ucs2

/-! Whole PDUs. -/

/-- A timestamp of seven octets can be decoded. -/
theorem unmarshalTimestamp_ensures (value : Bytes) : (unmarshalTimestamp value).Ensures fun _ => True := by
  unfold unmarshalTimestamp
  refine Go.ensures_ite (fun _ => Go.ensures_fail _) fun seven => ?_
  -- Six fields and the zone are read.
  have field (i : Nat) (inside : i < 7) :
      (do return swappedDigits (← Go.index value i) : Go Error Nat).Ensures fun _ => True :=
    (Go.ensures_index (by omega)).bind fun octet _ => Go.ensures_ok trivial
  refine (field 0 (by omega)).bind fun year _ => ?_
  refine (Go.ensures_index (by omega)).bind fun zone _ => ?_
  refine (field 1 (by omega)).bind fun month _ => ?_
  refine (field 2 (by omega)).bind fun day _ => ?_
  refine (field 3 (by omega)).bind fun hour _ => ?_
  refine (field 4 (by omega)).bind fun minute _ => ?_
  exact (field 5 (by omega)).bind fun second _ => Go.ensures_ok trivial

/-- A received message is read inside its PDU. -/
theorem unmarshalDeliverPDU_ensures {p : Part} (placed : p.Placed) (pdu : Bytes) (offset : Nat) (first : UInt8) :
    (unmarshalDeliverPDU p pdu offset first).Ensures Part.Placed := by
  unfold unmarshalDeliverPDU
  refine (readAddress_ensures pdu offset).bind fun read inside => ?_
  refine Go.ensures_ite (fun _ => Go.ensures_fail _) fun fixed => ?_
  refine (Go.ensures_index (by omega)).bind fun dcs _ => ?_
  refine (Go.ensures_slice (by omega) (by omega)).bind fun window _ => ?_
  refine (unmarshalTimestamp_ensures window).bind fun timestamp _ => ?_
  apply unmarshalUserData_ensures
  -- Neither the number nor the other fields move the part.
  exact placed

/-- A submitted message is read inside its PDU. -/
theorem unmarshalSubmitPDU_ensures {p : Part} (placed : p.Placed) (pdu : Bytes) (offset : Nat) (first : UInt8) :
    (unmarshalSubmitPDU p pdu offset first).Ensures Part.Placed := by
  unfold unmarshalSubmitPDU
  refine Go.ensures_ite (fun _ => Go.ensures_fail _) fun present => ?_
  refine (Go.ensures_index (by omega)).bind fun reference _ => ?_
  refine (readAddress_ensures pdu (offset + 1)).bind fun read inside => ?_
  refine Go.ensures_ite (fun _ => Go.ensures_fail _) fun fixed => ?_
  refine (Go.ensures_index (by omega)).bind fun dcs _ => ?_
  refine Go.ensures_ite (fun _ => Go.ensures_fail _) fun _ => ?_
  apply unmarshalUserData_ensures
  -- Neither the number nor the other fields move the part.
  exact placed

/-- A delivery report is read inside its PDU. -/
theorem unmarshalStatusReportPDU_ensures {p : Part} (placed : p.Placed) (pdu : Bytes) (offset : Nat) :
    (unmarshalStatusReportPDU p pdu offset).Ensures Part.Placed := by
  unfold unmarshalStatusReportPDU
  refine Go.ensures_ite (fun _ => Go.ensures_fail _) fun present => ?_
  refine (Go.ensures_index (by omega)).bind fun reference _ => ?_
  refine (readAddress_ensures pdu (offset + 1)).bind fun read inside => ?_
  refine Go.ensures_ite (fun _ => Go.ensures_fail _) fun fixed => ?_
  refine (Go.ensures_slice (by omega) (by omega)).bind fun window _ => ?_
  exact (unmarshalTimestamp_ensures window).bind fun timestamp _ => Go.ensures_ok placed

/-- The service-centre address is read inside the PDU. -/
theorem readSMSC_ensures {pdu : Bytes} {smscLength : Nat} (inside : smscLength ≤ pdu.length - 1) :
    (readSMSC pdu smscLength).Ensures fun _ => True := by
  unfold readSMSC
  refine Go.ensures_ite (fun present => ?_) fun _ => Go.ensures_ok trivial
  refine (Go.ensures_slice (by omega) (by omega)).bind fun digits width => ?_
  refine (Go.ensures_index (by omega)).bind fun type _ => ?_
  exact decodeBCDAddress_ensures (by omega)

/-- Decoding never reads outside of the PDU, and what it returns is in its place. -/
theorem Part.unmarshalBinary_ensures (pdu : Bytes) : (Part.unmarshalBinary pdu).Ensures Part.Placed := by
  unfold Part.unmarshalBinary
  refine Go.ensures_ite (fun _ => Go.ensures_fail _) fun long => ?_
  refine (Go.ensures_index (by omega)).bind fun smscLength _ => ?_
  refine Go.ensures_ite (fun _ => Go.ensures_fail _) fun untruncated => ?_
  refine (readSMSC_ensures (by omega)).bind fun smsc _ => ?_
  refine Go.ensures_ite (fun _ => Go.ensures_fail _) fun present => ?_
  refine (Go.ensures_index (by omega)).bind fun first _ => ?_
  have placed : (startPart smsc pdu).Placed := .inl rfl
  -- The message type names one of three layouts.
  unfold unmarshalTPDU
  refine Go.ensures_ite (fun _ => unmarshalDeliverPDU_ensures placed pdu _ first) fun _ => ?_
  refine Go.ensures_ite (fun _ => unmarshalSubmitPDU_ensures placed pdu _ first) fun _ => ?_
  exact Go.ensures_ite (fun _ => unmarshalStatusReportPDU_ensures placed pdu _) fun _ => Go.ensures_fail _

/-- On every byte string decoding returns without a panic, a failure leaves the receiver as it was, and a success either
reports no concatenation or places the part inside its message. -/
theorem Part.unmarshalBinary_safe (p : Part) (pdu : Bytes) :
    (p.unmarshalBinaryInto pdu).2 ≠ .error .outOfRange ∧
    (∀ err, (p.unmarshalBinaryInto pdu).2 = Go.fail err → (p.unmarshalBinaryInto pdu).1 = p) ∧
    ((p.unmarshalBinaryInto pdu).2 = .ok () → (p.unmarshalBinaryInto pdu).1.total = 0 ∨
      (1 ≤ (p.unmarshalBinaryInto pdu).1.index ∧
        (p.unmarshalBinaryInto pdu).1.index ≤ (p.unmarshalBinaryInto pdu).1.total)) := by
  have ensures := Part.unmarshalBinary_ensures pdu
  unfold Part.unmarshalBinaryInto
  cases decoded : Part.unmarshalBinary pdu with
  | ok part => exact ⟨by simp, fun err failed => by simp [Go.fail] at failed, fun _ => ensures.2 part decoded⟩
  | error fault =>
    refine ⟨fun panicked => ensures.1 ?_, fun _ _ => rfl, fun returned => by simp at returned⟩
    rw [decoded, Except.error.inj panicked]

end Wwan.Sms
