import Wwan.Proofs.Qcom.Tlv
import Wwan.Qcom.Qmux

/-! Frames carry their true lengths, streams of frames fall apart into them, and accepted answers fill their frames. -/

namespace Wwan.Qcom.Qmux

open Utf16.ByteOrder (littleEndian putUint16_eq putUint16_uint16)

/-! ## Headers -/

/-- The bytes of a message's header, by service. -/
def Header.bytes (serviceType : UInt8) (h : Header) : Bytes :=
  if serviceType = 0 then h.controlBytes else h.serviceBytes

/-- A frame's header takes six bytes. -/
@[simp] theorem QMUXHeader.bytes_length (h : QMUXHeader) : h.bytes.length = 6 := by
  simp [QMUXHeader.bytes]

/-- A control message's header takes six bytes. -/
@[simp] theorem Header.controlBytes_length (h : Header) : h.controlBytes.length = 6 := by
  simp [Header.controlBytes]

/-- A service message's header takes seven bytes. -/
@[simp] theorem Header.serviceBytes_length (h : Header) : h.serviceBytes.length = 7 := by
  simp [Header.serviceBytes]

/-- Six bytes are the frame's header that they are decoded to. -/
theorem QMUXHeader.ensures_decode {window : Bytes} (size : window.length = 6) :
    (QMUXHeader.decode window).Ensures fun h => h.bytes = window := by
  -- The six fields of the header.
  obtain ⟨ifType, r0, rfl, s0⟩ := exists_cons_of_length size
  obtain ⟨l0, r1, rfl, s1⟩ := exists_cons_of_length s0
  obtain ⟨l1, flags, service, client, rfl⟩ := List.length_eq_four.mp s1
  have decoded : QMUXHeader.decode [ifType, l0, l1, flags, service, client] =
      .ok ⟨ifType, littleEndian.uint16 l0 l1, flags, service, client⟩ := rfl
  rw [decoded]
  apply Go.ensures_ok
  rw [QMUXHeader.bytes, putUint16_uint16]
  rfl

/-- Six bytes are the control header that they are decoded to. -/
theorem Header.ensures_decodeControl {window : Bytes} (size : window.length = 6) :
    (Header.decodeControl window).Ensures fun h => h.controlBytes = window := by
  -- The six bytes of the header.
  obtain ⟨typ, r0, rfl, s0⟩ := exists_cons_of_length size
  obtain ⟨transaction, r1, rfl, s1⟩ := exists_cons_of_length s0
  obtain ⟨m0, m1, l0, l1, rfl⟩ := List.length_eq_four.mp s1
  have decoded : Header.decodeControl [typ, transaction, m0, m1, l0, l1] =
      .ok ⟨typ, UInt16.ofNat transaction.toNat, littleEndian.uint16 m0 m1, littleEndian.uint16 l0 l1⟩ := rfl
  -- A transaction of one byte survives the wider field.
  have narrow : UInt8.ofNat (UInt16.ofNat transaction.toNat).toNat = transaction := by
    rw [UInt16.toNat_ofNat_of_lt' (Nat.lt_of_lt_of_le transaction.toNat_lt (by decide)), UInt8.ofNat_toNat]
  rw [decoded]
  apply Go.ensures_ok
  rw [Header.controlBytes, putUint16_uint16, putUint16_uint16, narrow]
  rfl

/-- Seven bytes are the service header that they are decoded to. -/
theorem Header.ensures_decodeService {window : Bytes} (size : window.length = 7) :
    (Header.decodeService window).Ensures fun h => h.serviceBytes = window := by
  -- The seven bytes of the header.
  obtain ⟨typ, r0, rfl, s0⟩ := exists_cons_of_length size
  obtain ⟨t0, r1, rfl, s1⟩ := exists_cons_of_length s0
  obtain ⟨t1, r2, rfl, s2⟩ := exists_cons_of_length s1
  obtain ⟨m0, m1, l0, l1, rfl⟩ := List.length_eq_four.mp s2
  have decoded : Header.decodeService [typ, t0, t1, m0, m1, l0, l1] =
      .ok ⟨typ, littleEndian.uint16 t0 t1, littleEndian.uint16 m0 m1, littleEndian.uint16 l0 l1⟩ := rfl
  rw [decoded]
  apply Go.ensures_ok
  rw [Header.serviceBytes, putUint16_uint16, putUint16_uint16, putUint16_uint16]
  rfl

/-! ## Requests -/

/-- A service that fits a byte is the control service exactly when its byte is zero. -/
theorem serviceByte_eq_zero {service : UInt32} (narrow : ¬ service > 0xFF) :
    UInt8.ofNat service.toNat = 0 ↔ service = serviceControl := by
  have small : service.toNat < 256 := by
    have bound := UInt32.not_lt.mp narrow
    rw [UInt32.le_iff_toNat_le] at bound
    exact Nat.lt_succ_of_le bound
  rw [← UInt8.toNat_inj, ← UInt32.toNat_inj, UInt8.toNat_ofNat_of_lt' small]
  rfl

/-- A request that is sent has a service of one byte. -/
theorem service_le_of_validateRequest {req : Request} (valid : validateRequest req = .ok ()) : ¬ req.service > 0xFF := by
  rw [validateRequest, Go.unit_bind_eq_ok, Go.failIf_eq_ok] at valid
  exact valid.1

/-- A message is its header and its elements. -/
theorem requestSDU_eq {req : Request} (narrow : ¬ req.service > 0xFF) (payload : Bytes) :
    requestSDU req payload = Header.bytes (UInt8.ofNat req.service.toNat)
      ⟨messageTypeRequest, req.transactionID, req.messageID, UInt16.ofNat payload.length⟩ ++ payload := by
  rw [requestSDU, Header.bytes]
  by_cases control : req.service = serviceControl
  · rw [if_pos control, if_pos ((serviceByte_eq_zero narrow).mpr control)]
  · rw [if_neg control, if_neg fun zero => control ((serviceByte_eq_zero narrow).mp zero)]

/-- The limits on the elements leave room for both headers. -/
theorem requestSDU_length_le {req : Request} {payload : Bytes} (fits : ¬ payload.length >
    if req.service = serviceControl then maxQMUXControlTLVLength else maxQMUXServiceTLVLength) :
    payload.length < 65536 ∧ (requestSDU req payload).length + 5 < 65536 := by
  -- The limits are what a length of two bytes leaves to the elements.
  have control : maxQMUXControlTLVLength = 65523 := rfl
  have service : maxQMUXServiceTLVLength = 65522 := rfl
  rw [requestSDU]
  split at fits
  · -- A control message has six bytes of header.
    rename_i isControl
    rw [if_pos isControl, List.length_append, Header.controlBytes_length]
    omega
  · -- A service message has seven bytes of header.
    rename_i isService
    rw [if_neg isService, List.length_append, Header.serviceBytes_length]
    omega

/-- The frame of a request is the two headers with the true lengths and the encoded elements. -/
theorem marshalRequest_eq_ok {req : Request} {frame : Bytes} (sent : marshalRequest req = .ok frame) :
    ∃ payload : Bytes, ∃ length messageLength : UInt16, TLVs.marshalBinary req.tlvs = .ok payload ∧
      frame = QMUXHeader.bytes ⟨qmuxIfType, length, qmuxControlFlagRequest, UInt8.ofNat req.service.toNat, req.clientID⟩ ++
        (Header.bytes (UInt8.ofNat req.service.toNat)
          ⟨messageTypeRequest, req.transactionID, req.messageID, messageLength⟩ ++ payload) ∧
      length.toNat + 1 = frame.length ∧ messageLength.toNat = payload.length := by
  rw [marshalRequest, Go.unit_bind_eq_ok, Go.bind_eq_ok] at sent
  obtain ⟨valid, payload, encoded, sent⟩ := sent
  rw [Go.unit_bind_eq_ok, Go.failIf_eq_ok, Go.pure_eq, Except.ok.injEq] at sent
  obtain ⟨fits, rfl⟩ := sent
  -- Neither length wraps, because the limit counts both headers.
  obtain ⟨small, smallFrame⟩ := requestSDU_length_le fits
  refine ⟨payload, UInt16.ofNat ((requestSDU req payload).length + 5), UInt16.ofNat payload.length,
    Go.mapError_eq_ok.mp encoded, ?_, ?_, ?_⟩
  · rw [← requestSDU_eq (service_le_of_validateRequest valid)]
  · rw [List.length_append, QMUXHeader.bytes_length, UInt16.toNat_ofNat_of_lt' smallFrame]
    omega
  · exact UInt16.toNat_ofNat_of_lt' small

/-! ## Streams -/

/-- A frame says how long it is behind its first byte. -/
def Delimited (frame : Bytes) : Prop :=
  ∃ marker l0 l1 rest, frame = marker :: l0 :: l1 :: rest ∧ (littleEndian.uint16 l0 l1).toNat + 1 = frame.length

/-- The frame of a request says how long it is. -/
theorem delimited_of_marshalRequest {req : Request} {frame : Bytes} (sent : marshalRequest req = .ok frame) :
    Delimited frame := by
  obtain ⟨payload, length, messageLength, -, shape, total, -⟩ := marshalRequest_eq_ok sent
  obtain ⟨l0, l1, stored, read⟩ := putUint16_eq littleEndian length
  rw [QMUXHeader.bytes, stored] at shape
  exact ⟨qmuxIfType, l0, l1, _, shape, by rw [read, total]⟩

/-- Enough bytes of a stream are read. -/
theorem readBytes_enough {r : Reader} {n : Nat} (enough : n ≤ r.bytes.length) :
    ∃ left : Reader, readBytes r n = .ok (r.bytes.take n, left) ∧ left.bytes = r.bytes.drop n := by
  obtain ⟨left, got, rest⟩ := Reader.readFull_enough enough
  exact ⟨left, by rw [readBytes, got]; rfl, rest⟩

/-- A stream that begins with a frame delivers the frame and goes on behind it. -/
theorem readFrame_append {r : Reader} {frame behind : Bytes} (delimited : Delimited frame)
    (stream : r.bytes = frame ++ behind) : ∃ left : Reader, readFrame r = .ok (frame, left) ∧ left.bytes = behind := by
  obtain ⟨marker, l0, l1, rest, rfl, total⟩ := delimited
  -- The first three bytes hold the length.
  obtain ⟨r1, headerRead, left1⟩ := readBytes_enough (r := r) (n := 3) (by simp [stream])
  have front : r.bytes.take 3 = [marker, l0, l1] := by
    rw [stream]
    rfl
  have remaining : r1.bytes = rest ++ behind := by
    rw [left1, stream]
    rfl
  rw [front] at headerRead
  -- What is left of the frame is as long as the length says.
  have size : (littleEndian.uint16 l0 l1).toNat + 1 - 3 = rest.length := by
    simp only [List.length_cons] at total
    omega
  obtain ⟨r2, restRead, left2⟩ := readBytes_enough (r := r1) (n := rest.length) (by simp [remaining])
  rw [remaining, List.take_left] at restRead
  rw [remaining, List.drop_left] at left2
  have lengthField : (Go.slice [marker, l0, l1] 1 3 : Go MessageError Bytes) = .ok [l0, l1] := rfl
  refine ⟨r2, ?_, left2⟩
  rw [readFrame, headerRead, Go.ok_bind, lengthField, Go.ok_bind, Utf16.ByteOrder.getUint16_cons, Go.ok_bind]
  have long : ¬ (littleEndian.uint16 l0 l1).toNat + 1 < [marker, l0, l1].length := by
    simp only [List.length_cons, List.length_nil] at total ⊢
    omega
  rw [Go.failIf_bind_of_not long]
  rw [show (littleEndian.uint16 l0 l1).toNat + 1 - [marker, l0, l1].length = rest.length from size, restRead, Go.ok_bind]
  rfl

/-- At the end of a stream there is no frame. -/
theorem readFrame_nil {r : Reader} (empty : r.bytes = []) : readFrame r = Go.fail (.read .eof) := by
  have ended : readBytes r 3 = Go.fail (.read .eof) := by
    rw [readBytes, Reader.readFull_short (by simp [empty]), if_pos empty]
    rfl
  rw [readFrame, ended]
  rfl

/-- A stream of frames delivers them in order, and then what follows them. -/
theorem readFrames_flatten {frames : List Bytes} (delimited : ∀ frame ∈ frames, Delimited frame) {r : Reader}
    {behind : Bytes} (stream : r.bytes = frames.flatten ++ behind) :
    ∃ left : Reader, readFrames frames.length r = .ok (frames, left) ∧ left.bytes = behind := by
  -- The induction is on the frames; each read leaves a stream of the frames that follow.
  induction frames generalizing r with
  | nil => exact ⟨r, rfl, stream⟩
  | cons frame frames ih =>
    rw [List.flatten_cons, List.append_assoc] at stream
    obtain ⟨r1, first, left1⟩ := readFrame_append (delimited frame (by simp)) stream
    obtain ⟨r2, others, left2⟩ := ih (fun other member => delimited other (by simp [member])) left1
    refine ⟨r2, ?_, left2⟩
    rw [List.length_cons, readFrames, first, Go.ok_bind, others, Go.ok_bind]
    rfl

/-! ## Answers -/

/-- A field that is read is the front of the stream. -/
theorem ensures_readField (context : String) (r : Reader) (n : Nat) :
    (TLVs.readField context r n).Ensures fun field => field.1.length = n ∧ field.1 ++ field.2.bytes = r.bytes := by
  by_cases enough : n ≤ r.bytes.length
  · -- The field is there.
    obtain ⟨left, read, rest⟩ := TLVs.readField_enough context enough
    rw [read]
    refine Go.ensures_ok ⟨?_, ?_⟩
    · rw [List.length_take]
      omega
    · rw [rest, List.take_append_drop]
  · -- The stream ends within the field.
    obtain ⟨error, failed⟩ := TLVs.readField_short context (Nat.lt_of_not_le enough)
    rw [failed]
    exact Go.ensures_fail error

/-- A message's header is the front of its frame's content. -/
theorem ensures_readHeader (serviceType : UInt8) (r : Reader) :
    (readHeader serviceType r).Ensures fun message =>
      Header.bytes serviceType message.1 ++ message.2.bytes = r.bytes := by
  rw [readHeader]
  refine Go.ensures_ite (fun control => ?_) fun service => ?_
  · -- A control message has a transaction of one byte.
    refine (ensures_readField _ r 6).bind fun field front => ?_
    obtain ⟨size, split⟩ := front
    refine (Header.ensures_decodeControl size).bind fun header decoded => ?_
    apply Go.ensures_ok
    rw [Header.bytes, if_pos control, decoded, split]
  · -- A service message has a transaction of two bytes.
    refine (ensures_readField _ r 7).bind fun field front => ?_
    obtain ⟨size, split⟩ := front
    refine (Header.ensures_decodeService size).bind fun header decoded => ?_
    apply Go.ensures_ok
    rw [Header.bytes, if_neg service, decoded, split]

/-- The elements of an answer are parsed from the end of its frame. -/
theorem ensures_elements (front : Bytes) {elements : Bytes} {length : UInt16} (honest : elements.length = length.toNat) :
    (if length > 0 then do
        let tail ← Go.slice (front ++ elements) ((front ++ elements).length - length.toNat) (front ++ elements).length
        TLVs.unmarshalBinary tail
      else return [] : Go MessageError (List TLV)).Ensures fun tlvs => TLVs.marshalBinary tlvs = .ok elements := by
  refine Go.ensures_ite (fun some => ?_) fun none => ?_
  · -- The elements are the end of the frame.
    have tail : (Go.slice (front ++ elements) ((front ++ elements).length - length.toNat) (front ++ elements).length :
        Go MessageError Bytes) = .ok elements := by
      rw [Go.slice_from (Nat.sub_le _ _), List.length_append, ← honest, Nat.add_sub_cancel, List.drop_left]
    rw [tail, Go.ok_bind]
    exact TLVs.ensures_unmarshalBinary elements
  · -- Without elements there is nothing to parse, and nothing is encoded as nothing.
    have zero : length.toNat = 0 := by
      have bound := UInt16.not_lt.mp none
      rw [UInt16.le_iff_toNat_le] at bound
      exact Nat.le_zero.mp bound
    obtain rfl := List.length_eq_zero_iff.mp (honest.trans zero)
    exact Go.ensures_ok rfl

/-- An accepted answer is its two headers and its elements, and both headers give the true lengths. -/
theorem ensures_unmarshalBinary (data : Bytes) : (Response.unmarshalBinary data).Ensures fun resp =>
    resp.qmux.length.toNat + 1 = data.length ∧ ∃ elements : Bytes,
      data = resp.qmux.bytes ++ (Header.bytes resp.qmux.serviceType resp.header ++ elements) ∧
      resp.header.messageLength.toNat = elements.length ∧ TLVs.marshalBinary resp.tlvs = .ok elements := by
  rw [Response.unmarshalBinary]
  refine Go.ensures_failIf.bind fun _ _ => ?_
  -- The frame's header comes first.
  refine (ensures_readField _ _ 6).bind fun field front => ?_
  obtain ⟨size, split⟩ := front
  refine (QMUXHeader.ensures_decode size).bind fun qmux decoded => ?_
  refine Go.ensures_failIf.bind fun _ _ => ?_
  refine Go.ensures_failIf.bind fun _ total => ?_
  -- The message's header follows, and its length counts the elements.
  refine (ensures_readHeader qmux.serviceType field.2).bind fun message content => ?_
  refine Go.ensures_failIf.bind fun _ _ => ?_
  refine Go.ensures_failIf.bind fun _ honest => ?_
  rw [not_not] at total honest
  -- The reader of the whole byte string holds the byte string.
  have whole : (Reader.mk [data] false).bytes = data := by simp [Reader.bytes]
  rw [whole, ← decoded, ← content, ← List.append_assoc] at split
  have elements := ensures_elements (qmux.bytes ++ Header.bytes qmux.serviceType message.1) honest
  rw [split] at elements
  refine elements.bind fun tlvs parsed => Go.ensures_ok ⟨total.symm, message.2.bytes, ?_, honest.symm, parsed⟩
  rw [← split, List.append_assoc]

/-- Frames carry their true lengths, a stream of frames delivers them in order and nothing else in whatever sizes it is
read, and an answer is accepted only when both of its lengths are true, without a panic on any byte string. -/
theorem qmux_framing :
    (∀ (req : Request) (frame : Bytes), marshalRequest req = .ok frame →
      ∃ payload : Bytes, ∃ length messageLength : UInt16, TLVs.marshalBinary req.tlvs = .ok payload ∧
        frame = QMUXHeader.bytes
            ⟨qmuxIfType, length, qmuxControlFlagRequest, UInt8.ofNat req.service.toNat, req.clientID⟩ ++
          (Header.bytes (UInt8.ofNat req.service.toNat)
            ⟨messageTypeRequest, req.transactionID, req.messageID, messageLength⟩ ++ payload) ∧
        length.toNat + 1 = frame.length ∧ messageLength.toNat = payload.length) ∧
    (∀ (reqs : List Request) (frames : List Bytes), reqs.mapM marshalRequest = .ok frames →
      ∀ r : Reader, r.bytes = frames.flatten → ∃ left : Reader,
        readFrames frames.length r = .ok (frames, left) ∧ left.bytes = [] ∧ readFrame left = Go.fail (.read .eof)) ∧
    ∀ data : Bytes, (Response.unmarshalBinary data).Ensures fun resp =>
      resp.qmux.length.toNat + 1 = data.length ∧ ∃ elements : Bytes,
        data = resp.qmux.bytes ++ (Header.bytes resp.qmux.serviceType resp.header ++ elements) ∧
        resp.header.messageLength.toNat = elements.length ∧ TLVs.marshalBinary resp.tlvs = .ok elements := by
  refine ⟨fun req frame sent => marshalRequest_eq_ok sent, fun reqs frames sent r stream => ?_, ensures_unmarshalBinary⟩
  -- Every frame that is sent ends where its length says.
  have delimited : ∀ frame ∈ frames, Delimited frame := by
    intro frame member
    obtain ⟨req, -, one⟩ := Go.exists_of_mapM sent member
    exact delimited_of_marshalRequest one
  rw [← List.append_nil frames.flatten] at stream
  obtain ⟨left, read, empty⟩ := readFrames_flatten delimited stream
  exact ⟨left, read, empty, readFrame_nil empty⟩

end Wwan.Qcom.Qmux
