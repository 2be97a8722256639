import Wwan.Proofs.Sim.FileCodec
import Wwan.Proofs.Sim.Reader
import Wwan.Sim.FileRead

/-! Which ranges and records of SIM files are read as they are on the card. -/

namespace Wwan.Sim.FileRead

open Exchange (sw1 sw2 data hasMore)

/-! Responses. -/

/-- The data of a response is what stands before its status. -/
@[simp] theorem data_append (answer : Bytes) (first second : UInt8) : data (answer ++ [first, second]) = answer := by
  rw [data, if_neg (by simp)]
  simp

/-- The first byte of the status is the last but one. -/
@[simp] theorem sw1_append (answer : Bytes) (first second : UInt8) : sw1 (answer ++ [first, second]) = first := by
  rw [sw1, if_neg (by simp)]
  simp [List.getD_eq_getElem?_getD]

/-- The second byte of the status is the last. -/
@[simp] theorem sw2_append (answer : Bytes) (first second : UInt8) : sw2 (answer ++ [first, second]) = second := by
  rw [sw2, if_neg (by simp)]
  simp [List.getD_eq_getElem?_getD]

/-- Data with a success. -/
@[simp] theorem ok_done (answer : Bytes) : ok (answer ++ [0x90, 0x00]) = true := by
  rw [ok, sw1_append, sw2_append]
  rfl

/-- Data with an announcement is no success. -/
@[simp] theorem ok_more (answer : Bytes) (more : UInt8) : ok (answer ++ [0x61, more]) = false := by
  rw [ok, sw1_append, sw2_append]
  exact forall_byte (P := fun more => (bigEndianUint16 0x61 more == 0x9000) = false) (by decide +kernel) more

variable {π : Type} {card : Card π} {w : World π}

/-! Exchanges. -/

/-- What is known of a response that is no error, with the data that its command is answered with. -/
structure Following (w : World π) (place : π) (whole collected resp : Bytes) : Prop where
  place_eq : ok resp = true ∨ hasMore resp = true → w.card.place = place
  more : hasMore resp = true → collected ++ w.card.pending = whole
  done : ok resp = true → collected = whole

/-- The answer to an APDU that the card got, and what the card has in mind then. -/
theorem transmitRaw_ensures (apdu : Bytes) :
    (transmitRaw card apdu).Ensures w
      (fun raw w' => w'.selected = w.selected ∧
        (2 ≤ raw.length → (ok raw = true ∨ hasMore raw = true) →
          ∃ whole s, card.execute w.card apdu = some (whole, s) ∧
            Following w' s.place whole (data raw) raw))
      (fun _ => True) := by
  unfold transmitRaw
  refine Call.ensures_get_bind ?_
  -- What the card answers is decided by its next turn.
  obtain ⟨selected, state, turns⟩ := w
  cases turns with
  | nil => exact Call.ensures_throw trivial
  | cons turn turns =>
    cases turn with
    | lost carriedOut => exact trivial
    -- A refusal is not taken for a success.
    | refused raw failed =>
      refine ⟨rfl, fun long good => ?_⟩
      obtain ⟨bad, last⟩ := failed.resolve_left (by omega)
      simp [bad, last] at good
    | sent count more =>
      -- The card carries the command out, or knows nothing of it.
      cases carried : card.execute state apdu with
      | none =>
        have answer : card.respond state apdu (.sent count more) = (some [0x6F, 0x00], state) := by
          rw [Card.respond, carried]
        simp only [answer]
        refine ⟨rfl, fun _ good => ?_⟩
        exact absurd good (by decide)
      | some pair =>
        obtain ⟨whole, s⟩ := pair
        -- It answers with all of its data at once.
        by_cases all : whole.length ≤ count
        · have answer : card.respond state apdu (.sent count more) = (some (whole ++ [0x90, 0x00]), s) := by
            rw [Card.respond, carried]
            exact if_pos all
          simp only [answer]
          refine ⟨rfl, fun _ _ => ⟨whole, s, rfl, fun _ => rfl, fun more => ?_, fun _ => data_append _ _ _⟩⟩
          simp [hasMore] at more
        · -- It answers with a part, and keeps the rest for GET RESPONSE.
          have answer : card.respond state apdu (.sent count more) =
              (some (whole.take count ++ [0x61, more]), { s with pending := whole.drop count }) := by
            rw [Card.respond, carried]
            exact if_neg all
          simp only [answer]
          refine ⟨rfl, fun _ _ => ⟨whole, s, rfl, fun _ => rfl, fun _ => ?_, fun done => ?_⟩⟩
          · rw [data_append]
            exact List.take_append_drop count whole
          · simp at done

/-- GET RESPONSE on the wire. -/
theorem marshalBinary_getResponse (length : UInt8) :
    (Request.getResponse length).marshalBinary = .ok [0x00, 0xC0, 0x00, 0x00, length] := rfl

/-- A further response continues the data where the last one left it. -/
theorem following_next {w' : World π} {place : π} {whole collected resp raw : Bytes} {length : UInt8}
    (following : Following w place whole collected resp) (more : hasMore resp = true)
    (answered : ok raw = true ∨ hasMore raw = true → ∃ rest s,
      card.execute w.card [0x00, 0xC0, 0x00, 0x00, length] = some (rest, s) ∧
        Following w' s.place rest (data raw) raw) : Following w' place whole (collected ++ data raw) raw := by
  -- GET RESPONSE gives what is pending and selects no other file.
  have next (good : ok raw = true ∨ hasMore raw = true) :
      Following w' w.card.place w.card.pending (data raw) raw := by
    obtain ⟨rest, s, executed, answered⟩ := answered good
    have gives : card.execute w.card [0x00, 0xC0, 0x00, 0x00, length] =
        if w.card.pending = [] then none else some (w.card.pending, { w.card with pending := [] }) := rfl
    rw [gives] at executed
    split at executed
    · cases executed
    · cases executed
      exact answered
  -- The file stays selected, and what was collected grows by what is given.
  refine ⟨fun good => ?_, fun last => ?_, fun last => ?_⟩
  · rw [(next good).place_eq good, following.place_eq (.inr more)]
  · rw [List.append_assoc, (next (.inr last)).more last, following.more more]
  · rw [(next (.inl last)).done last, following.more more]

/-- The loop ends with a response that announces no more data. -/
theorem followFrom_last (card : Card π) {resp : Bytes} (last : hasMore resp = false) (fuel : Nat) (collected : Bytes) :
    (followFrom card fuel collected resp : Op π Bytes) = pure (collected ++ [sw1 resp, sw2 resp]) := by
  cases fuel <;> rw [followFrom, last] <;> rfl

/-- The status that the loop returns is that of the last response. -/
theorem ok_status (collected resp : Bytes) : ok (collected ++ [sw1 resp, sw2 resp]) = ok resp := by
  rw [ok, sw1_append, sw2_append, ok]

/-- A response that announces no more data ends the loop with all of it, or with an error. -/
theorem followFrom_ensures_last {fuel : Nat} {place : π} {whole collected resp : Bytes}
    (following : Following w place whole collected resp) (last : hasMore resp = false) :
    (followFrom card fuel collected resp).Ensures w
      (fun final w' => w'.selected = w.selected ∧ (ok final = true → w'.card.place = place ∧ data final = whole))
      (fun _ => True) := by
  rw [followFrom_last card last]
  refine Call.ensures_pure ⟨rfl, fun done => ?_⟩
  rw [ok_status] at done
  exact ⟨following.place_eq (.inl done), by rw [data_append, following.done done]⟩

/-- The loop of `followGetResponse` collects all of the data, or ends with an error. -/
theorem followFrom_ensures {fuel : Nat} {place : π} {whole collected resp : Bytes}
    (following : Following w place whole collected resp) :
    (followFrom card fuel collected resp).Ensures w
      (fun final w' => w'.selected = w.selected ∧ (ok final = true → w'.card.place = place ∧ data final = whole))
      (fun _ => True) := by
  -- The induction is on the rounds that are left.
  induction fuel generalizing w collected resp with
  | zero =>
    by_cases more : hasMore resp = true
    · rw [followFrom, if_pos more]
      exact Call.ensures_throw trivial
    · exact followFrom_ensures_last following (by simpa using more)
  | succ fuel ih =>
    by_cases more : hasMore resp = true
    · rw [followFrom, if_pos more]
      -- Another part is asked for, and follows the last one.
      simp only [marshalBinary_getResponse]
      refine (transmitRaw_ensures _).bind fun raw w' ⟨kept, answered⟩ => ?_
      refine Call.ensures_ite (fun _ => Call.ensures_throw trivial) fun long => ?_
      have next := following_next following more fun good => answered (by omega) good
      exact (ih next).mono (fun final w'' ⟨keptNext, result⟩ => ⟨keptNext.trans kept, result⟩) fun _ => id
    · -- The last part is there.
      exact followFrom_ensures_last following (by simpa using more)

/-- A command that succeeds was carried out, and its data is all that the card answers to it. -/
theorem transmitCommand_ensures {cmd : Request} {apdu : Bytes} (marshalled : cmd.marshalBinary = .ok apdu) :
    (transmitCommand card cmd).Ensures w
      (fun resp w' => w'.selected = w.selected ∧
        ∃ s, card.execute w.card apdu = some (data resp, s) ∧ w'.card.place = s.place)
      (fun _ => True) := by
  simp only [transmitCommand, marshalled, transmit, transmitResponse, followGetResponse, bind_assoc]
  refine (transmitRaw_ensures apdu).bind fun raw w' ⟨kept, answered⟩ => ?_
  by_cases short : raw.length < 2
  · rw [if_pos short]
    exact Call.ensures_throw trivial
  rw [if_neg short]
  -- The answer has the data, or its beginning.
  by_cases good : ok raw = true ∨ hasMore raw = true
  · obtain ⟨whole, s, executed, following⟩ := answered (by omega) good
    simp only [bind_assoc]
    refine Call.ensures_get_bind ((followFrom_ensures following).bind fun final w'' ⟨keptNext, result⟩ => ?_)
    refine Call.ensures_ite (fun _ => Call.ensures_throw trivial) fun status => ?_
    obtain ⟨at_, whole_eq⟩ := result (by simpa using status)
    exact Call.ensures_pure ⟨keptNext.trans kept, s, by rw [whole_eq, executed], at_⟩
  · -- An error ends the loop at once, and is an error for the caller.
    obtain ⟨bad, last⟩ := not_or.mp good
    simp only [bind_assoc]
    refine Call.ensures_get_bind ?_
    rw [followFrom_last card (by simpa using last), pure_bind, if_pos]
    · exact Call.ensures_throw trivial
    · rw [ok_status]
      simpa using bad

/-! Transparent files. -/

/-- The bytes of a range that lies within a content. -/
def IsRange (content : Bytes) (offset length : Nat) (bytes : Bytes) : Prop :=
  bytes = (content.drop offset).take length ∧ (length = 0 ∨ offset + length ≤ content.length)

/-- A range that is read in pieces of at most 255 bytes, none of which starts behind an offset of 15 bits. -/
def Addressable (offset length : Nat) : Prop := length = 0 ∨ offset + 255 * ((length - 1) / 255) < 0x8000

/-- The bytes of a file, none for a file that is not transparent. -/
def Card.bytes (card : Card π) (place : π) : Bytes := (card.content place).getD []

/-- READ BINARY on the wire. -/
theorem marshalBinary_binaryRead (offset : UInt16) (length : UInt8) :
    (Request.binaryRead offset length).marshalBinary =
      .ok [0x00, 0xB0, (offset >>> 8).toUInt8, offset.toUInt8, length] := rfl

/-- The parameters of READ BINARY are the two bytes of the offset. -/
theorem toNat_parameters (offset : UInt16) :
    (offset >>> 8).toUInt8.toNat = offset.toNat / 256 ∧ offset.toUInt8.toNat = offset.toNat % 256 := by
  have small := offset.toNat_lt
  have shifted : (offset >>> 8).toNat = offset.toNat / 256 := by
    rw [UInt16.toNat_shiftRight]
    simp [Nat.shiftRight_eq_div_pow]
  refine ⟨?_, UInt16.toNat_toUInt8 offset⟩
  rw [UInt16.toNat_toUInt8, shifted]
  omega

/-- Bit 8 of the first parameter is the highest bit of the offset. -/
theorem parameter_high (offset : UInt16) : (offset >>> 8).toUInt8 &&& 0x80 = 0 ↔ offset.toNat < 0x8000 := by
  have bit (b : UInt8) : b &&& 0x80 = 0 ↔ b.toNat < 128 :=
    forall_byte (P := fun b => b &&& 0x80 = 0 ↔ b.toNat < 128) (by decide +kernel) b
  have small := offset.toNat_lt
  rw [bit, (toNat_parameters offset).1]
  omega

/-- A piece below an offset of 15 bits is one of the selected file. -/
theorem execute_binaryRead {s s' : CardState π} {offset : UInt16} (low : offset.toNat < 0x8000) {length : UInt8}
    (some_ : length ≠ 0) {answer : Bytes}
    (executed : card.execute s [0x00, 0xB0, (offset >>> 8).toUInt8, offset.toUInt8, length] = some (answer, s')) :
    s'.place = s.place ∧ IsRange (card.bytes s.place) offset.toNat length.toNat answer := by
  -- The two parameters are the offset, since its highest bit is clear.
  have start : (offset >>> 8).toUInt8.toNat * 256 + offset.toUInt8.toNat = offset.toNat := by
    rw [(toNat_parameters offset).1, (toNat_parameters offset).2]
    omega
  have reads : card.execute s [0x00, 0xB0, (offset >>> 8).toUInt8, offset.toUInt8, length] =
      card.readBinary s (offset >>> 8).toUInt8 offset.toUInt8 length := rfl
  rw [reads, Card.readBinary] at executed
  have high := (parameter_high offset).mpr low
  simp only [if_pos (Or.inl high), if_pos high, start, Card.expected, if_neg some_, Option.bind_eq_bind,
    Option.bind_some] at executed
  -- The selected file is one with bytes, and the piece lies inside it.
  cases found : card.content s.place with
  | none => simp [found] at executed
  | some content =>
    rw [found, Option.bind_some] at executed
    split at executed
    · rename_i inside
      cases executed
      exact ⟨rfl, by simp [Card.bytes, found], .inr (by simpa [Card.bytes, found] using inside)⟩
    · cases executed

/-- Two ranges next to each other are one. -/
theorem IsRange.append {content first second : Bytes} {offset length more : Nat} (one : IsRange content offset length first)
    (two : IsRange content (offset + length) more second) (some_ : length ≠ 0) :
    IsRange content offset (length + more) (first ++ second) := by
  obtain ⟨rfl, inside⟩ := one
  obtain ⟨rfl, insideNext⟩ := two
  refine ⟨by rw [List.take_add, List.drop_drop], .inr ?_⟩
  omega

/-- How the length of a piece is written. -/
theorem toNat_piece {length : UInt16} (some_ : length ≠ 0) :
    (min length 0xFF).toUInt8.toNat = min length.toNat 255 ∧ (min length 0xFF).toUInt8 ≠ 0 := by
  have positive : 0 < length.toNat := Nat.pos_of_ne_zero fun zero => some_ (UInt16.toNat_inj.mp zero)
  have value : (min length 0xFF).toUInt8.toNat = min length.toNat 255 := by
    rw [UInt16.toNat_toUInt8, Reader.toNat_chunk]
    omega
  refine ⟨value, fun zero => ?_⟩
  rw [zero] at value
  change 0 = _ at value
  omega

/-- The offset of the next piece, and the length that is left. -/
theorem toNat_next {offset length : UInt16} (fits : offset.toNat + length.toNat < 65536) :
    (offset + min length 0xFF).toNat = offset.toNat + min length.toNat 255 ∧
      (length - min length 0xFF).toNat = length.toNat - min length.toNat 255 := by
  refine ⟨?_, Reader.toNat_sub_chunk length⟩
  rw [UInt16.toNat_add, Reader.toNat_chunk]
  omega

/-- Behind the first piece, a range has the same last piece. -/
theorem addressable_next {offset length : Nat} (low : offset < 0x8000) (positive : 0 < length) :
    Addressable (offset + min length 255) (length - min length 255) ↔ Addressable offset length := by
  unfold Addressable
  by_cases more : length ≤ 255
  · have one : (length - 1) / 255 = 0 := by omega
    omega
  · have pieces : (length - 1) / 255 = (length - min length 255 - 1) / 255 + 1 := by omega
    omega

/-- The rounds of a read append the bytes of the range, if all of its pieces can be addressed. -/
theorem readBinaryFrom_ensures {fuel : Nat} {offset length : UInt16} (enough : length.toNat ≤ fuel)
    (addressable : Addressable offset.toNat length.toNat) (fits : offset.toNat + length.toNat < 65536) (read : Bytes) :
    (readBinaryFrom card fuel offset length read).Ensures w
      (fun result _ => ∃ bytes, result = read ++ bytes ∧
        IsRange (card.bytes w.card.place) offset.toNat length.toNat bytes)
      (fun _ => True) := by
  induction fuel generalizing offset length read w with
  | zero =>
    -- Nothing is left to be read.
    have none_ : length.toNat = 0 := by omega
    refine Call.ensures_pure ⟨[], (List.append_nil _).symm, ?_⟩
    rw [none_]
    exact ⟨List.take_zero.symm, .inl rfl⟩
  | succ fuel ih =>
    rw [readBinaryFrom]
    refine Call.ensures_ite (fun none_ => Call.ensures_pure ⟨[], (List.append_nil _).symm, ?_⟩) fun some_ => ?_
    · -- Nothing is asked for any more.
      rw [none_]
      exact ⟨List.take_zero.symm, .inl rfl⟩
    · -- The first piece can be addressed, and the rest is read from where it ends.
      have positive : 0 < length.toNat := Nat.pos_of_ne_zero fun zero => some_ (UInt16.toNat_inj.mp zero)
      have low : offset.toNat < 0x8000 := by
        rcases addressable with none_ | last <;> omega
      obtain ⟨nextOffset, nextLength⟩ := toNat_next fits
      obtain ⟨piece, nonzero⟩ := toNat_piece some_
      refine (transmitCommand_ensures (marshalBinary_binaryRead offset _)).bind fun raw w' ⟨_, s, executed, at_⟩ => ?_
      obtain ⟨still, first⟩ := execute_binaryRead low nonzero executed
      rw [piece] at first
      -- What is left is a range of the same file, with the same last piece.
      have rest : Addressable (offset + min length 0xFF).toNat (length - min length 0xFF).toNat := by
        rw [nextOffset, nextLength, addressable_next low positive]
        exact addressable
      refine (ih (by omega) rest (by omega) (read ++ data raw)).mono ?_ fun _ => id
      rintro result w'' ⟨bytes, rfl, second⟩
      rw [at_, still, nextOffset, nextLength] at second
      refine ⟨data raw ++ bytes, List.append_assoc _ _ _, ?_⟩
      have whole := first.append second (by omega)
      rwa [Nat.add_sub_cancel' (by omega)] at whole

/-- How long the range is that a call asks for: a length of zero is all of the file behind the offset. -/
def requested (offset length size : UInt16) : Nat := if length = 0 then size.toNat - offset.toNat else length.toNat

/-- A call of `ReadTransparent` that returns has read the range that it was asked for from the selected file. -/
def ReadsRange (card : Card π) (w : World π) (file : FileRef) (offset length size : UInt16) : Prop :=
  ∀ read, (readTransparent card file offset length).outcome w = .ok read →
    IsRange (card.bytes ((selectFile card file).after w).card.place) offset.toNat (requested offset length size) read

/-- A range whose pieces can all be addressed is read as it is. -/
theorem readsRange_of_addressable {file : FileRef} {offset length size : UInt16}
    (sized : ∀ info, (selectFile card file).outcome w = .ok info → info.fileSize = size)
    (inside : offset.toNat + requested offset length size ≤ size.toNat)
    (addressable : Addressable offset.toNat (requested offset length size)) :
    ReadsRange card w file offset length size := by
  intro read ran
  obtain ⟨info, selected, ran⟩ := Call.outcome_bind_eq_ok.mp ran
  obtain rfl := sized info selected
  have small := info.fileSize.toNat_lt
  split at ran
  · cases ran
  · -- A length of zero asks for all that is behind the offset.
    by_cases all : length = 0
    · rw [if_pos all] at ran
      split at ran
      · cases ran
      · rename_i behind
        have before : offset ≤ info.fileSize := UInt16.not_lt.mp behind
        have left : (info.fileSize - offset).toNat = info.fileSize.toNat - offset.toNat :=
          UInt16.toNat_sub_of_le _ _ before
        have count : requested offset length info.fileSize = (info.fileSize - offset).toNat := by
          rw [requested, if_pos all, left]
        rw [count] at inside addressable ⊢
        obtain ⟨bytes, rfl, range⟩ := (readBinaryFrom_ensures le_rfl addressable (by omega) []).of_outcome ran
        exact range
    · -- Any other length is read as it is.
      rw [if_neg all] at ran
      have count : requested offset length info.fileSize = length.toNat := if_neg all
      rw [count] at inside addressable ⊢
      obtain ⟨bytes, rfl, range⟩ := (readBinaryFrom_ensures le_rfl addressable (by omega) []).of_outcome ran
      exact range

/-! A card that misleads the reader. -/

/-- A command that the card carries out and answers at once succeeds. -/
theorem transmitCommand_done {cmd : Request} {apdu answer : Bytes} {s : CardState π} {count : Nat} {more : UInt8}
    {turns : List Turn} (marshalled : cmd.marshalBinary = .ok apdu) (executed : card.execute w.card apdu = some (answer, s))
    (small : answer.length ≤ count) (next : w.turns = .sent count more :: turns) :
    (transmitCommand card cmd).Ensures w
      (fun resp w' => data resp = answer ∧ w' = { w with card := s, turns }) (fun _ => False) := by
  -- The card has room for the whole answer in its first response.
  have answered : card.respond w.card apdu (.sent count more) = (some (answer ++ [0x90, 0x00]), s) := by
    rw [Card.respond, executed]
    exact if_pos small
  have raw : (transmitRaw card apdu).Ensures w
      (fun raw w' => raw = answer ++ [0x90, 0x00] ∧ w' = { w with card := s, turns }) (fun _ => False) := by
    refine Call.ensures_get_bind ?_
    simp only [next, answered]
    exact ⟨rfl, rfl⟩
  -- No further response is asked for.
  simp only [transmitCommand, marshalled, transmit, transmitResponse, followGetResponse, bind_assoc]
  refine raw.bind ?_
  rintro raw w' ⟨rfl, rfl⟩
  rw [if_neg (by simp)]
  simp only [bind_assoc]
  refine Call.ensures_get_bind ?_
  rw [followFrom_last card (by simp [hasMore]), pure_bind, data_append, sw1_append, sw2_append, if_neg (by simp)]
  exact Call.ensures_pure ⟨data_append _ _ _, rfl⟩

/-- The control information of a transparent file. -/
def transparentFCI (size : UInt16) : Bytes :=
  [0x62, 0x08, 0x82, 0x02, 0x41, 0x21, 0x80, 0x02, UInt8.ofNat (size.toNat / 256), size.toUInt8]

/-- It says how large the file is. -/
theorem unmarshalBinary_transparentFCI (size : UInt16) :
    FCI.unmarshalBinary (transparentFCI size) = .ok { fileStructure := 0x41, fileType := 0x21, fileSize := size } := by
  have parsed : FCI.unmarshalBinary (transparentFCI size) =
      .ok { fileStructure := 0x41, fileType := 0x21,
            fileSize := bigEndianUint16 (UInt8.ofNat (size.toNat / 256)) size.toUInt8 } := rfl
  rw [parsed, bigEndianUint16_putUint16]

/-- A card with a file of ones up to the offset 0x8000 and of zeros behind it, and another file of ones under each short
identifier. -/
def shortFiles (size : UInt16) : Card (Option UInt8) where
  fci _ := transparentFCI size
  select _ _ _ := some none
  content
    | none => some (List.replicate (min size.toNat 0x8000) 1 ++ List.replicate (size.toNat - 0x8000) 0)
    | some _ => some (List.replicate 510 1)
  records _ := []
  short identifier := some (some identifier)

/-- Every answer is sent at once. -/
def atOnce (count : Nat) : List Turn := List.replicate count (.sent 510 0)

/-- The file has its size. -/
theorem shortFiles_bytes (size : UInt16) :
    (shortFiles size).bytes none =
      List.replicate (min size.toNat 0x8000) 1 ++ List.replicate (size.toNat - 0x8000) 0 ∧
    ((shortFiles size).bytes none).length = size.toNat := by
  refine ⟨rfl, ?_⟩
  change (List.replicate _ (1 : UInt8) ++ List.replicate _ 0).length = _
  rw [List.length_append, List.length_replicate, List.length_replicate]
  omega

/-- Whatever file is selected, its first bytes are ones. -/
theorem shortFiles_front {size : UInt16} (large : 0x8000 < size.toNat) (place : Option UInt8) {start count : Nat}
    (front : start + count ≤ 510) :
    ∃ content, (shortFiles size).content place = some content ∧ start + count ≤ content.length ∧
      (content.drop start).take count = List.replicate count 1 := by
  cases place with
  | some identifier =>
    refine ⟨_, rfl, by rwa [List.length_replicate], ?_⟩
    rw [List.drop_replicate, List.take_replicate]
    congr 1
    omega
  | none =>
    refine ⟨_, rfl, by rw [List.length_append, List.length_replicate]; omega, ?_⟩
    rw [List.drop_append_of_le_length (by rw [List.length_replicate]; omega),
      List.take_append_of_le_length (by rw [List.length_drop, List.length_replicate]; omega), List.drop_replicate,
      List.take_replicate]
    congr 1
    omega

/-- A piece that starts behind an offset of 15 bits is one of ones. -/
theorem execute_shortFiles {size offset : UInt16} {s : CardState (Option UInt8)} {length : UInt8} (some_ : length ≠ 0)
    (inside : offset.toNat + length.toNat ≤ size.toNat) (place : offset.toNat < 0x8000 → s.place = none) :
    ∃ answer s', (shortFiles size).execute s [0x00, 0xB0, (offset >>> 8).toUInt8, offset.toUInt8, length] =
        some (answer, s') ∧ answer.length ≤ 510 ∧ (offset.toNat < 0x8000 → s'.place = none) ∧
      (0x8000 ≤ offset.toNat → answer = List.replicate length.toNat 1) := by
  have reads : (shortFiles size).execute s [0x00, 0xB0, (offset >>> 8).toUInt8, offset.toUInt8, length] =
      (shortFiles size).readBinary s (offset >>> 8).toUInt8 offset.toUInt8 length := rfl
  have start : (offset >>> 8).toUInt8.toNat * 256 + offset.toUInt8.toNat = offset.toNat := by
    rw [(toNat_parameters offset).1, (toNat_parameters offset).2]
    omega
  have count := length.toNat_lt
  rw [reads, Card.readBinary]
  by_cases low : offset.toNat < 0x8000
  · -- The selected file has the whole piece.
    have high := (parameter_high offset).mpr low
    have long : offset.toNat + length.toNat ≤ (List.replicate (min size.toNat 0x8000) (1 : UInt8) ++
        List.replicate (size.toNat - 0x8000) 0).length := by
      rw [List.length_append, List.length_replicate, List.length_replicate]
      omega
    simp only [if_pos (Or.inl high), if_pos high, start, Card.expected, if_neg some_, place low, shortFiles,
      Option.bind_eq_bind, Option.bind_some, if_pos long]
    refine ⟨_, _, rfl, ?_, fun _ => rfl, fun high => by omega⟩
    rw [List.length_take]
    omega
  · -- The card reads from the file of the short identifier, or from the selected file for the identifier zero.
    have second := offset.toUInt8.toNat_lt
    have behind := mt (parameter_high offset).mp low
    have positive : 0 < length.toNat := Nat.pos_of_ne_zero fun zero => some_ (UInt8.toNat_inj.mp zero)
    have large : 0x8000 < size.toNat := by omega
    -- Either way the piece is from the front of a file, where there are ones.
    have reading (place : Option UInt8) : (((shortFiles size).content place).bind fun content =>
        if offset.toUInt8.toNat + length.toNat ≤ content.length then
          some ((content.drop offset.toUInt8.toNat).take length.toNat, ({ place } : CardState (Option UInt8)))
        else none) = some (List.replicate length.toNat 1, { place }) := by
      obtain ⟨content, found, long, ones⟩ := shortFiles_front large place
        (show offset.toUInt8.toNat + length.toNat ≤ 510 by omega)
      rw [found, Option.bind_some, if_pos long, ones]
    simp only [if_neg behind, Card.expected, if_neg some_, Option.bind_eq_bind, Option.bind_some]
    have few : (List.replicate length.toNat (1 : UInt8)).length ≤ 510 := by
      rw [List.length_replicate]
      omega
    split
    · exact ⟨_, _, reading s.place, few, fun small => absurd small low, fun _ => rfl⟩
    · exact ⟨_, _, reading (some _), few, fun small => absurd small low, fun _ => rfl⟩

/-- The rounds of a read of such a card return, with a one as the last byte if a piece cannot be addressed. -/
theorem readBinaryFrom_shortFiles {size : UInt16} {fuel : Nat} {offset length : UInt16} {w : World (Option UInt8)}
    (enough : length.toNat ≤ fuel) (turns : w.turns = atOnce fuel)
    (inside : offset.toNat + length.toNat ≤ size.toNat) (place : offset.toNat < 0x8000 → w.card.place = none)
    (read : Bytes) :
    (readBinaryFrom (shortFiles size) fuel offset length read).Ensures w
      (fun result _ => length.toNat = 0 ∧ read.getLast? = some 1 ∨ ¬ Addressable offset.toNat length.toNat →
        result.getLast? = some 1) (fun _ => False) := by
  -- The induction is on the rounds, and the last piece decides.
  induction fuel generalizing offset length read w with
  -- Nothing is left, so that the last byte was read before.
  | zero =>
    refine Call.ensures_pure fun one => ?_
    rcases one with ⟨-, last⟩ | far
    · exact last
    · exact absurd (.inl (by omega)) far
  | succ fuel ih =>
    rw [readBinaryFrom]
    refine Call.ensures_ite (fun none_ => Call.ensures_pure fun one => ?_) fun some_ => ?_
    · -- Nothing is asked for any more.
      rcases one with ⟨-, last⟩ | far
      · exact last
      · exact absurd (.inl (by rw [none_]; rfl)) far
    · -- The next piece is read, wherever the card finds it.
      have positive : 0 < length.toNat := Nat.pos_of_ne_zero fun zero => some_ (UInt16.toNat_inj.mp zero)
      have small := size.toNat_lt
      have fits : offset.toNat + length.toNat < 65536 := by omega
      obtain ⟨nextOffset, nextLength⟩ := toNat_next fits
      obtain ⟨piece, nonzero⟩ := toNat_piece some_
      have within : offset.toNat + (min length 0xFF).toUInt8.toNat ≤ size.toNat := by omega
      obtain ⟨answer, s, executed, short, kept, ones⟩ := execute_shortFiles nonzero within place
      refine (transmitCommand_done (marshalBinary_binaryRead offset _) executed short turns).bind ?_
      rintro raw w' ⟨rfl, rfl⟩
      refine (ih (by omega) rfl (by omega) (fun low => kept (by omega)) _).mono (fun result _ found far => ?_) fun _ => id
      refine found ?_
      have far := far.resolve_left fun done => by omega
      rw [nextOffset, nextLength]
      -- A piece that can be addressed leaves the question to the rest.
      by_cases low : offset.toNat < 0x8000
      · exact .inr (mt (addressable_next low positive).mp far)
      · -- This piece is one of ones, and so is the last one.
        by_cases last : length.toNat - min length.toNat 255 = 0
        · refine .inl ⟨last, ?_⟩
          rw [ones (by omega), piece, List.getLast?_append, List.getLast?_replicate, if_neg (by omega)]
          rfl
        · refine .inr fun addressable => ?_
          rcases addressable with none_ | next <;> omega

/-- A SELECT of a file by its identifier succeeds where it leads to a file with control information. -/
theorem decodeFCI_done {place : π} {info : FCI} {first second : UInt8} {turns : List Turn}
    (leads : ∀ from_ p1 value, card.select from_ p1 value = some place)
    (parsed : FCI.unmarshalBinary (card.fci place) = .ok info) (small : (card.fci place).length ≤ 510)
    (next : w.turns = .sent 510 0 :: turns) :
    (decodeFCI card (.selectID [first, second])).Ensures w
      (fun info' w' => info' = info ∧ w' = { w with card := { place }, turns }) (fun _ => False) := by
  have executed : card.execute w.card [0x00, 0xA4, 0x00, 0x04, 0x02, first, second] =
      some (card.fci place, { place }) := by
    have selects : card.execute w.card [0x00, 0xA4, 0x00, 0x04, 0x02, first, second] =
        (card.select w.card.place 0x00 [first, second]).map fun place => (card.fci place, { place }) := rfl
    rw [selects, leads]
    rfl
  have marshalled : (Request.selectID [first, second]).marshalBinary =
      .ok [0x00, 0xA4, 0x00, 0x04, 0x02, first, second] := rfl
  refine (transmitCommand_done marshalled executed small next).bind ?_
  rintro raw w' ⟨answer, rfl⟩
  rw [answer]
  simp only [parsed]
  exact ⟨rfl, rfl⟩

/-- A file under the master file. -/
def someFile : FileRef := { path := [0x6F, 0x07] }

/-- A new reader of a card that sends every answer at once. -/
@[irreducible] def newReader (place : π) (count : Nat) : World π := { card := { place }, turns := atOnce (count + 2) }

/-- A new reader selects the file. -/
theorem selectFile_newReader {place : π} {info : FCI} (leads : ∀ from_ p1 value, card.select from_ p1 value = some place)
    (parsed : FCI.unmarshalBinary (card.fci place) = .ok info) (small : (card.fci place).length ≤ 510) (count : Nat) :
    (selectFile card someFile).Ensures (newReader place count)
      (fun info' w' => info' = info ∧ w'.card = { place } ∧ w'.turns = atOnce count) (fun _ => False) := by
  rw [selectFile, if_neg (by decide), newReader]
  refine Call.ensures_get_bind ?_
  rw [if_neg (by simp [Selection.matches])]
  refine (decodeFCI_done leads parsed small rfl).bind ?_
  rintro _ w ⟨-, rfl⟩
  refine (decodeFCI_done leads parsed small rfl).bind ?_
  rintro _ w ⟨rfl, rfl⟩
  exact ⟨rfl, rfl, rfl⟩

/-- A range with a piece that cannot be addressed is not read from such a card. -/
theorem not_readsRange_shortFiles {offset length size : UInt16}
    (inside : offset.toNat + requested offset length size ≤ size.toNat)
    (far : ¬ Addressable offset.toNat (requested offset length size)) :
    (∀ info, (selectFile (shortFiles size) someFile).outcome
        (newReader none (requested offset length size)) = .ok info → info.fileSize = size) ∧
      ¬ ReadsRange (shortFiles size) (newReader none (requested offset length size)) someFile offset length size := by
  -- The card leads to one file, whose size it tells.
  have leads : ∀ from_ p1 value, (shortFiles size).select from_ p1 value = some none := fun _ _ _ => rfl
  have parsed : FCI.unmarshalBinary ((shortFiles size).fci none) =
      .ok { fileStructure := 0x41, fileType := 0x21, fileSize := size } := unmarshalBinary_transparentFCI size
  have small : ((shortFiles size).fci none).length ≤ 510 := by
    change (10 : Nat) ≤ 510
    omega
  have selects := selectFile_newReader leads parsed small (requested offset length size)
  refine ⟨fun info selected => by rw [(selects.of_outcome selected).1], fun exact_ => ?_⟩
  -- The last byte that is read is a one.
  have returns : (readTransparent (shortFiles size) someFile offset length).Ensures
      (newReader none (requested offset length size)) (fun read _ => read.getLast? = some 1) (fun _ => False) := by
    refine selects.bind ?_
    rintro _ w ⟨rfl, at_, turns⟩
    rw [if_neg (by simp [structureTransparent])]
    have place : offset.toNat < 0x8000 → w.card.place = none := fun _ => by rw [at_]
    -- Both ways to say the length lead to the same rounds.
    refine Call.ensures_ite (fun all => ?_) fun part => ?_
    · have before : offset ≤ size := by
        rw [UInt16.le_iff_toNat_le]
        omega
      have count : requested offset length size = (size - offset).toNat := by
        rw [requested, if_pos all, UInt16.toNat_sub_of_le _ _ before]
      rw [count] at turns inside far
      rw [if_neg (UInt16.not_lt.mpr before)]
      exact (readBinaryFrom_shortFiles le_rfl turns inside place []).mono (fun read _ one => one (.inr far)) fun _ => id
    · have count : requested offset length size = length.toNat := if_neg part
      rw [count] at turns inside far
      exact (readBinaryFrom_shortFiles le_rfl turns inside place []).mono (fun read _ one => one (.inr far)) fun _ => id
  obtain ⟨read, ran, one⟩ := returns.returns
  obtain ⟨info, selected, -, at_, -⟩ := selects.returns
  obtain ⟨range, -⟩ := exact_ read ran
  obtain ⟨zeros, long⟩ := shortFiles_bytes size
  -- The last byte of the range lies behind the offset 0x8000, and is a zero.
  rw [at_] at range
  generalize requested offset length size = count at range inside far
  have behind : 0 < count ∧ 0x8000 ≤ offset.toNat + (count - 1) := by
    unfold Addressable at far
    omega
  have length_eq : read.length = count := by
    rw [range, List.length_take, List.length_drop, long]
    omega
  rw [List.getLast?_eq_getElem?, length_eq, range, List.getElem?_take, if_pos (by omega), List.getElem?_drop, zeros,
    List.getElem?_append_right (by rw [List.length_replicate]; omega), List.getElem?_replicate, List.length_replicate,
    if_pos (by omega)] at one
  cases one

/-! Records. -/

/-- A call of `ReadRecord` that returns has read the record of the number that it was asked for. -/
def ReadsRecord (card : Card π) (w : World π) (file : FileRef) (record length : UInt16) : Prop :=
  ∀ read, (readRecord card file record length).outcome w = .ok read →
    ∃ content, record ≠ 0 ∧ (card.records ((selectFile card file).after w).card.place)[record.toNat - 1]? = some content ∧
      read = if length = 0 then content else content.take length.toNat

/-- A file of so many records of one size, as its control information says. -/
def FixedRecords (card : Card π) (w : World π) (file : FileRef) (size : UInt16) (count : UInt8) : Prop :=
  let records := card.records ((selectFile card file).after w).card.place
  records.length = count.toNat ∧ (∀ content ∈ records, content.length = size.toNat) ∧
    ∀ info, (selectFile card file).outcome w = .ok info → info.recordSize = size

/-- The number of a record that the file does not have, whose low byte is the number of one that it has. -/
def Confused (record length size : UInt16) (count : UInt8) : Prop :=
  256 ≤ record.toNat ∧ 1 ≤ record.toNat % 256 ∧ record.toNat % 256 ≤ count.toNat ∧
    (if length = 0 then size else length).toNat ≤ 255 ∧ (if length = 0 then size else length).toNat ≤ size.toNat

/-- READ RECORD on the wire. -/
theorem marshalBinary_recordRead (record length : UInt8) :
    (Request.recordRead record length).marshalBinary = .ok [0x00, 0xB2, record, 0x04, length] := rfl

/-- READ RECORD reads the record of its first parameter. -/
theorem execute_recordRead (s : CardState π) (record length : UInt8) :
    card.execute s [0x00, 0xB2, record, 0x04, length] = card.readRecord s record length := rfl

/-- What is read is from the record whose number is the low byte of the number that is asked for. -/
theorem readRecordRaw_ensures (record length : UInt16) :
    (readRecordRaw card record length).Ensures w
      (fun read _ => record ≠ 0 ∧ length.toNat ≤ 255 ∧ 1 ≤ record.toNat % 256 ∧
        ∃ content, (card.records w.card.place)[record.toNat % 256 - 1]? = some content ∧
          (length.toNat = 0 ∧ read = content ∨ length.toNat ≤ content.length ∧ read = content.take length.toNat))
      (fun _ => True) := by
  rw [readRecordRaw]
  refine Call.ensures_ite (fun _ => Call.ensures_throw trivial) fun nonzero => ?_
  refine Call.ensures_ite (fun _ => Call.ensures_throw trivial) fun short => ?_
  -- The number is cut to a byte, and the length is one.
  have few : length.toNat ≤ 255 := UInt16.le_iff_toNat_le.mp (UInt16.not_lt.mp short)
  have number : record.toUInt8.toNat = record.toNat % 256 := UInt16.toNat_toUInt8 record
  have size : length.toUInt8.toNat = length.toNat := by
    rw [UInt16.toNat_toUInt8]
    omega
  have none_ : length.toUInt8 = 0 ↔ length.toNat = 0 := by
    rw [← UInt8.toNat_inj, size]
    rfl
  refine (transmitCommand_ensures (marshalBinary_recordRead _ _)).bind fun resp w' ⟨_, s, executed, _⟩ => ?_
  rw [execute_recordRead, Card.readRecord] at executed
  -- The card refuses the record zero, and reads the others if they are there.
  split at executed
  · cases executed
  · rename_i named
    have some_ : 1 ≤ record.toNat % 256 := by
      rw [← number]
      exact Nat.pos_of_ne_zero fun zero => named (UInt8.toNat_inj.mp zero)
    obtain ⟨content, found, executed⟩ := Option.bind_eq_some_iff.mp executed
    rw [number] at found
    refine Call.ensures_pure ⟨nonzero, few, some_, content, found, ?_⟩
    simp only [none_, size] at executed
    split at executed
    · -- All of the record is asked for.
      rename_i zero
      rw [Option.some.injEq, Prod.mk.injEq] at executed
      exact .inl ⟨zero, executed.1.symm⟩
    · -- A part of it is asked for.
      split at executed
      · rename_i inside
        rw [Option.some.injEq, Prod.mk.injEq] at executed
        exact .inr ⟨inside, executed.1.symm⟩
      · cases executed

/-- A record is read as it is, unless its number is confused with another. -/
theorem readsRecord_of_not_confused {file : FileRef} {record length size : UInt16} {count : UInt8}
    (fixed : FixedRecords card w file size count) (clear : ¬ Confused record length size count) :
    ReadsRecord card w file record length := by
  intro read ran
  obtain ⟨known, sized, said⟩ := fixed
  obtain ⟨info, selected, ran⟩ := Call.outcome_bind_eq_ok.mp ran
  obtain rfl := said info selected
  -- The file is checked before the record is read.
  by_cases other : info.fileStructure ≠ structureLinearFixed
  · rw [if_pos other] at ran
    cases ran
  rw [if_neg other] at ran
  obtain ⟨nonzero, few, some_, content, found, whole⟩ := (readRecordRaw_ensures _ _).of_outcome ran
  have inside := (List.getElem?_eq_some_iff.mp found).1
  have long := sized content (List.mem_of_getElem? found)
  -- A number of two bytes would be confused with that of the record that was found.
  have byte : record.toNat % 256 = record.toNat := by
    refine Nat.mod_eq_of_lt (Nat.lt_of_not_ge fun large => clear ⟨large, some_, by omega, few, ?_⟩)
    rcases whole with ⟨zero, -⟩ | ⟨enough, -⟩ <;> omega
  rw [byte] at found
  refine ⟨content, nonzero, found, ?_⟩
  -- All of the record, or a part from its front.
  by_cases all : length = 0
  · rw [if_pos all] at whole ⊢
    rcases whole with ⟨-, rfl⟩ | ⟨-, rfl⟩
    · rfl
    · rw [← long, List.take_length]
  · rw [if_neg all] at whole ⊢
    rcases whole with ⟨zero, -⟩ | ⟨-, rfl⟩
    · exact absurd (UInt16.toNat_inj.mp zero) all
    · rfl

/-- The control information of a file of records. -/
def recordsFCI (size : UInt16) (count : UInt8) : Bytes :=
  [0x62, 0x07, 0x82, 0x05, 0x42, 0x21, UInt8.ofNat (size.toNat / 256), size.toUInt8, count]

/-- It says how large the records are. -/
theorem unmarshalBinary_recordsFCI (size : UInt16) (count : UInt8) :
    FCI.unmarshalBinary (recordsFCI size count) =
      .ok { fileStructure := 0x42, fileType := 0x21, recordSize := size, recordCount := count } := by
  have parsed : FCI.unmarshalBinary (recordsFCI size count) =
      .ok { fileStructure := 0x42, fileType := 0x21,
            recordSize := bigEndianUint16 (UInt8.ofNat (size.toNat / 256)) size.toUInt8, recordCount := count } := rfl
  rw [parsed, bigEndianUint16_putUint16]

/-- A card with a file of records of zeros. -/
def oneFile (size : UInt16) (count : UInt8) : Card Unit where
  fci _ := recordsFCI size count
  select _ _ _ := some ()
  content _ := none
  records _ := List.replicate count.toNat (List.replicate size.toNat 0)
  short _ := none

/-- The card answers a confused number with the record of its low byte. -/
theorem readRecordRaw_oneFile {record length size : UInt16} {count : UInt8} {w : World Unit} (large : 256 ≤ record.toNat)
    (some_ : 1 ≤ record.toNat % 256) (inside : record.toNat % 256 ≤ count.toNat) (few : length.toNat ≤ 255)
    (long : length.toNat ≤ size.toNat) (empty : length.toNat = 0 → size.toNat = 0) (turns : w.turns = atOnce 1) :
    (readRecordRaw (oneFile size count) record length).Ensures w (fun _ _ => True) (fun _ => False) := by
  -- The low byte names a record that is there.
  have nonzero : record ≠ 0 := by
    rintro rfl
    exact absurd large (by decide)
  have number : record.toUInt8.toNat = record.toNat % 256 := UInt16.toNat_toUInt8 record
  have named : record.toUInt8 ≠ 0 := fun zero => by
    rw [zero] at number
    change 0 = _ at number
    omega
  have short : length.toUInt8.toNat = length.toNat := by
    rw [UInt16.toNat_toUInt8]
    omega
  have found : ((oneFile size count).records w.card.place)[record.toUInt8.toNat - 1]? =
      some (List.replicate size.toNat 0) := by
    change (List.replicate count.toNat (List.replicate size.toNat (0 : UInt8)))[record.toUInt8.toNat - 1]? = _
    rw [List.getElem?_replicate, if_pos (by omega)]
  -- The card answers with that record, all of it or a part.
  obtain ⟨answer, s, executed, small⟩ : ∃ answer s,
      (oneFile size count).execute w.card [0x00, 0xB2, record.toUInt8, 0x04, length.toUInt8] = some (answer, s) ∧
        answer.length ≤ 510 := by
    rw [execute_recordRead, Card.readRecord, if_neg named, found, Option.bind_eq_bind, Option.bind_some]
    by_cases all : length.toUInt8 = 0
    · have zero : length.toNat = 0 := by rw [← short, all]; rfl
      refine ⟨_, _, if_pos all, ?_⟩
      rw [List.length_replicate, empty zero]
      exact Nat.zero_le _
    · rw [if_neg all, if_pos (by rw [List.length_replicate]; omega)]
      refine ⟨_, _, rfl, ?_⟩
      rw [List.length_take]
      omega
  rw [readRecordRaw, if_neg nonzero, if_neg (UInt16.not_lt.mpr (UInt16.le_iff_toNat_le.mpr few))]
  exact (transmitCommand_done (marshalBinary_recordRead _ _) executed small turns).bind fun _ _ _ => Call.ensures_pure trivial

/-- A confused number is read as the record of its low byte. -/
theorem not_readsRecord_oneFile {record length size : UInt16} {count : UInt8} (confused : Confused record length size count) :
    FixedRecords (oneFile size count) (newReader () 1) someFile size count ∧
      ¬ ReadsRecord (oneFile size count) (newReader () 1) someFile record length := by
  -- The card has as many records as it tells, of one size.
  obtain ⟨large, some_, inside, few, long⟩ := confused
  have leads : ∀ from_ p1 value, (oneFile size count).select from_ p1 value = some () := fun _ _ _ => rfl
  have parsed : FCI.unmarshalBinary ((oneFile size count).fci ()) =
      .ok { fileStructure := 0x42, fileType := 0x21, recordSize := size, recordCount := count } :=
    unmarshalBinary_recordsFCI size count
  have small : ((oneFile size count).fci ()).length ≤ 510 := by
    change (9 : Nat) ≤ 510
    omega
  have selects := selectFile_newReader leads parsed small 1
  refine ⟨⟨List.length_replicate, fun content member => ?_, fun info selected => ?_⟩, fun exact_ => ?_⟩
  · rw [List.eq_of_mem_replicate member, List.length_replicate]
  · rw [(selects.of_outcome selected).1]
  · -- The read succeeds, although the card has no record of that number.
    have returns : (readRecord (oneFile size count) someFile record length).Ensures (newReader () 1)
        (fun _ _ => True) (fun _ => False) := by
      refine selects.bind ?_
      rintro _ w ⟨rfl, at_, turns⟩
      rw [if_neg (by simp [structureLinearFixed])]
      refine readRecordRaw_oneFile large some_ inside few long (fun zero => ?_) turns
      by_cases all : length = 0
      · rwa [if_pos all] at zero
      · rw [if_neg all] at zero
        exact absurd (UInt16.toNat_inj.mp zero) all
    obtain ⟨read, ran, -⟩ := returns.returns
    obtain ⟨content, -, found, -⟩ := exact_ read ran
    have known := (List.getElem?_eq_some_iff.mp found).1
    have limit := count.toNat_lt
    change record.toNat - 1 < (List.replicate count.toNat (List.replicate size.toNat (0 : UInt8))).length at known
    rw [List.length_replicate] at known
    omega

/-! All reads. -/

/-- Ranges and records are read as they are on every card, exactly if each piece of the range can be addressed with 15
bits and the number of the record is not confused with that of another one. -/
theorem fileReads_exact_iff (offset length size record : UInt16) (count : UInt8) :
    (offset.toNat + requested offset length size ≤ size.toNat →
      ((∀ (π : Type) (card : Card π) (w : World π) (file : FileRef),
          (∀ info, (selectFile card file).outcome w = .ok info → info.fileSize = size) →
            ReadsRange card w file offset length size) ↔
        Addressable offset.toNat (requested offset length size))) ∧
    ((∀ (π : Type) (card : Card π) (w : World π) (file : FileRef), FixedRecords card w file size count →
        ReadsRecord card w file record length) ↔
      ¬ Confused record length size count) := by
  refine ⟨fun inside => ⟨fun exact_ => ?_, fun addressable π card w file sized => ?_⟩, fun exact_ confused => ?_,
    fun clear π card w file fixed => ?_⟩
  · by_contra far
    obtain ⟨sized, wrong⟩ := not_readsRange_shortFiles inside far
    exact wrong (exact_ _ _ _ _ sized)
  · exact readsRange_of_addressable sized inside addressable
  · obtain ⟨fixed, wrong⟩ := not_readsRecord_oneFile confused
    exact wrong (exact_ _ _ _ _ fixed)
  · exact readsRecord_of_not_confused fixed clear

/-- Three hundred bytes from the offset 16 of a file are read as they are. -/
theorem fileReads_exact_low :
    Addressable 16 (requested 16 300 4096) ∧ ReadsRange (shortFiles 4096) (newReader none 2) someFile 16 300 4096 := by
  have addressable : Addressable 16 (requested 16 300 4096) := by
    unfold Addressable
    decide
  have selected : (selectFile (shortFiles 4096) someFile).outcome (newReader none 2) =
      .ok { fileStructure := 0x41, fileType := 0x21, fileSize := 4096 } := by decide +kernel
  refine ⟨addressable, ((fileReads_exact_iff 16 300 4096 1 1).1 (by decide)).mpr addressable _ _ _ _ fun info same => ?_⟩
  cases selected.symm.trans same
  rfl

/-- One byte at the offset 0x8100 is read from the file with the short identifier 1, and the record 257 as the record 1. -/
theorem fileReads_misaddressed :
    (readTransparent (shortFiles 0x8101) someFile 0x8100 1).outcome (newReader none 1) = .ok [1] ∧
      ((selectFile (shortFiles 0x8101) someFile).after (newReader none 1)).card.place = none ∧
      ((readTransparent (shortFiles 0x8101) someFile 0x8100 1).after (newReader none 1)).card.place = some 1 ∧
      (((shortFiles 0x8101).bytes none).drop 0x8100).take 1 = [0] ∧
      (readRecord (oneFile 1 1) someFile 257 0).outcome (newReader () 1) = .ok [0] ∧
      ((oneFile 1 1).records ())[256]? = none := by
  refine ⟨by decide +kernel, by decide +kernel, by decide +kernel, ?_, by decide +kernel, by decide +kernel⟩
  have size : (0x8101 : UInt16).toNat = 0x8101 := rfl
  have ones : min 0x8101 0x8000 - 0x8100 = 0 := by omega
  have zeros : 0x8101 - 0x8000 - (0x8100 - min 0x8101 0x8000) = 1 := by omega
  rw [(shortFiles_bytes 0x8101).1, size, List.drop_append, List.drop_replicate, List.drop_replicate,
    List.length_replicate, ones, zeros]
  rfl

end Wwan.Sim.FileRead
