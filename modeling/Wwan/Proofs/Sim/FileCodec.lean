import Wwan.Proofs.Sim.Tlv
import Wwan.Sim.FileCodec

/-! EF_DIR records and file control information are read as they were written, whatever padding follows a record. -/

namespace Wwan.Sim

/-! The indices stay in range. -/

namespace InRange

/-- The loop that trims padding returns the bytes before it. -/
theorem trimEFDirPaddingTo_eq (data : Bytes) {length : Nat} (inside : length ≤ data.length) :
    trimEFDirPaddingTo data length = .ok (Sim.trimEFDirPadding (data.take length)) := by
  induction length with
  | zero => simp [trimEFDirPaddingTo, Go.slice_to, Sim.trimEFDirPadding]
  | succ length ih =>
    have last : data.take (length + 1) = data.take length ++ [data[length]] := (List.take_append_getElem inside).symm
    have found : (data.take (length + 1))[length]? = some data[length] := by
      rw [List.getElem?_take_of_lt (by omega), List.getElem?_eq_getElem inside]
    rw [trimEFDirPaddingTo, Go.slice_to inside, Go.ok_bind, Go.index_eq_ok found, Go.ok_bind, ih (by omega), last]
    simp only [Sim.trimEFDirPadding, List.rdropWhile_concat, beq_iff_eq]
    split <;> rfl

/-- No index of `trimEFDirPadding` is out of range. -/
theorem trimEFDirPadding_eq (data : Bytes) : trimEFDirPadding data = .ok (Sim.trimEFDirPadding data) := by
  rw [trimEFDirPadding, trimEFDirPaddingTo_eq data le_rfl, List.take_length]

/-- No index of `consume` is out of range, and its errors are those of a malformed file. -/
theorem malformedTLV_consume (what : String) (data : Bytes) :
    malformedTLV what (Tlv.InRange.consume data) =
      match Tlv.consume data with
      | .error _ => Go.fail (.malformed what)
      | .ok taken => .ok taken := by
  rw [Tlv.InRange.consume_eq]
  cases Tlv.consume data <;> rfl

/-- No index of the loop over a record's items is out of range. -/
theorem acceptRecordItems_eq (parsed : Application) (inner : Bytes) {fuel : Nat} (enough : inner.length < fuel) :
    acceptRecordItems parsed inner = Go.ofExcept (Sim.acceptRecordItems fuel parsed inner) := by
  induction fuel generalizing parsed inner with
  | zero => omega
  | succ fuel ih =>
    rw [acceptRecordItems, trimEFDirPadding_eq, Go.ok_bind, Sim.acceptRecordItems]
    have none : (Sim.trimEFDirPadding inner).length = 0 ↔ Sim.trimEFDirPadding inner = [] := List.length_eq_zero_iff
    by_cases padding : Sim.trimEFDirPadding inner = []
    · rw [if_pos padding, if_pos (none.mpr padding)]
      rfl
    · rw [if_neg padding, if_neg (mt none.mp padding)]
      have same := malformedTLV_consume "" inner
      cases taken : Tlv.consume inner with
      | error err =>
        rw [taken] at same
        split
        · rename_i fault ran
          cases ran.symm.trans same
          rfl
        · rename_i item consumed ran
          cases ran.symm.trans same
      | ok pair =>
        rw [taken] at same
        obtain ⟨inside, -⟩ := Tlv.marshalBinary_consume taken
        have some := Tlv.consume_pos taken
        split
        · rename_i fault ran
          cases ran.symm.trans same
        · rename_i item consumed ran
          cases ran.symm.trans same
          -- What the item changes plays no part in where the loop goes on.
          dsimp only
          generalize (if item.tag = 0x4F then ({ parsed with aid := item.value } : Application)
            else if item.tag = 0x50 then { parsed with label := item.value } else parsed) = next
          split
          · rename_i fault sliced
            rw [Go.slice_from inside] at sliced
            cases sliced
          · rename_i rest sliced
            rw [Go.slice_from inside] at sliced
            cases sliced
            exact ih _ _ (by rw [List.length_drop]; omega)

/-- No index of the loop over items is out of range. -/
theorem unmarshalBinary_eq (data : Bytes) {fuel : Nat} (enough : data.length ≤ fuel) :
    Tlv.InRange.unmarshalBinary data = Go.ofExcept (unmarshalItemsFrom fuel data) := by
  induction fuel generalizing data with
  | zero =>
    obtain rfl := List.eq_nil_of_length_eq_zero (Nat.le_zero.mp enough)
    exact Tlv.unmarshalBinary_nil
  | succ fuel ih =>
    cases data with
    | nil => exact Tlv.unmarshalBinary_nil
    | cons first more =>
      rw [unmarshalItemsFrom]
      cases taken : Tlv.consume (first :: more) with
      | error err => exact Tlv.unmarshalBinary_of_error (by simp) taken
      | ok pair =>
        obtain ⟨item, consumed⟩ := pair
        have some := Tlv.consume_pos taken
        rw [Tlv.unmarshalBinary_of_consume taken, ih _ (by rw [List.length_drop]; omega)]
        dsimp only
        cases unmarshalItemsFrom fuel ((first :: more).drop consumed) <;> rfl
      · simp

/-- No index of the check of one child is out of range. -/
theorem acceptChild_eq (parsed : FCI) (seen : Bool) (item : Tlv.Item) :
    acceptChild parsed seen item = Go.ofExcept (parsed.accept seen item) := by
  obtain ⟨tag, value⟩ := item
  rw [acceptChild, FCI.accept]
  by_cases descriptor : tag = 0x82
  · rw [if_pos descriptor, if_pos descriptor]
    -- The decoder takes descriptors of two and of five bytes apart.
    rcases value with _ | ⟨_, _ | ⟨_, _ | ⟨_, _ | ⟨_, _ | ⟨_, _ | ⟨_, _⟩⟩⟩⟩⟩⟩
    · rfl
    · rfl
    · rfl
    · rfl
    · rfl
    · rfl
    · simp [Go.ofExcept]
  · rw [if_neg descriptor, if_neg descriptor]
    by_cases length : tag = 0x80
    · -- A length of two bytes is taken, and any other is refused.
      rw [if_pos length, if_pos length]
      rcases value with _ | ⟨_, _ | ⟨_, _ | ⟨_, _⟩⟩⟩
      · rfl
      · rfl
      · rfl
      · simp [Go.ofExcept]
    · -- Every other child is skipped.
      rw [if_neg length, if_neg length]
      rfl

/-- No index of the loop over the children is out of range. -/
theorem acceptChildren_eq (parsed : FCI) (seen : Bool) (items : List Tlv.Item) :
    acceptChildren parsed seen items = Go.ofExcept (parsed.acceptAll seen items) := by
  induction items generalizing parsed seen with
  | nil => rfl
  | cons item items ih =>
    rw [acceptChildren, acceptChild_eq, FCI.acceptAll]
    cases parsed.accept seen item with
    | error err => rfl
    | ok accepted => exact ih accepted.1 accepted.2

/-- No index of the loop over items is out of range, and its errors are those of a malformed file. -/
theorem malformedTLV_unmarshalBinary (what : String) (data : Bytes) :
    malformedTLV what (Tlv.InRange.unmarshalBinary data) =
      match unmarshalItems data with
      | .error _ => Go.fail (.malformed what)
      | .ok items => .ok items := by
  rw [unmarshalBinary_eq data le_rfl, ← unmarshalItems]
  cases unmarshalItems data <;> rfl

end InRange

/-! Receivers. -/

/-- What has been decoded is assigned, and an error is returned. -/
def assign {α : Type} (decoded : Except FileError α) : Call α (Fault FileError) Unit :=
  match decoded with
  | .error err => throw (.err err)
  | .ok parsed => set parsed

/-- A call without a receiver that returns. -/
@[simp] theorem receive_ok {σ ε α β : Type} (value : α) (next : α → Call σ (Fault ε) β) :
    (receive (.ok value : Go ε α) >>= next) = next value := rfl

/-- A call without a receiver that fails. -/
@[simp] theorem receive_fail {σ ε α β : Type} (error : ε) (next : α → Call σ (Fault ε) β) :
    (receive (Go.fail error : Go ε α) >>= next) = throw (.err error) := rfl

/-- The decoder of records assigns what is decoded without a receiver. -/
theorem EFDirRecord.unmarshalBinary_eq (data : Bytes) :
    EFDirRecord.unmarshalBinary data = assign (unmarshalEFDirRecord data) := by
  rw [EFDirRecord.unmarshalBinary, unmarshalEFDirRecord, InRange.trimEFDirPadding_eq, receive_ok]
  simp only [List.length_eq_zero_iff]
  by_cases padding : trimEFDirPadding data = []
  · -- A record of padding alone is empty.
    rw [if_pos padding, if_pos padding]
    rfl
  · rw [if_neg padding, if_neg padding, InRange.malformedTLV_consume]
    -- The record is one item, behind which only padding may stand.
    cases taken : Tlv.consume data with
    | error err => rfl
    | ok pair =>
      obtain ⟨top, consumed⟩ := pair
      obtain ⟨inside, -⟩ := Tlv.marshalBinary_consume taken
      rw [receive_ok]
      dsimp only
      -- Any other tag is refused.
      by_cases record : top.tag ≠ 0x61
      · rw [if_pos record, if_pos record]
        rfl
      · rw [if_neg record, if_neg record, Go.slice_from inside, receive_ok, InRange.trimEFDirPadding_eq, receive_ok]
        simp only [ne_eq, List.length_eq_zero_iff]
        -- Something else behind the record is refused.
        by_cases more : ¬ trimEFDirPadding (data.drop consumed) = []
        · rw [if_pos more, if_pos more]
          rfl
        · rw [if_neg more, if_neg more, InRange.acceptRecordItems_eq _ _ (Nat.lt_succ_self _)]
          cases acceptRecordItems (top.value.length + 1) {} top.value with
          | error err => rfl
          | ok parsed =>
            show (if parsed.aid = [] then _ else _) = _
            dsimp only
            split <;> rfl

/-- The decoder of file control information assigns what is decoded without a receiver. -/
theorem InRange.unmarshalFCI_eq (data : Bytes) : InRange.unmarshalFCI data = assign (FCI.unmarshalBinary data) := by
  -- The template is the only item of the answer.
  rw [InRange.unmarshalFCI, FCI.unmarshalBinary, InRange.malformedTLV_unmarshalBinary]
  cases unmarshalItems data with
  | error err => rfl
  | ok items =>
    match items with
    | [] => rfl
    | _ :: _ :: _ => rfl
    | [top] =>
      rw [receive_ok, if_neg (by simp)]
      show (if top.tag ≠ 0x62 then _ else _) = _
      dsimp only
      by_cases other : top.tag ≠ 0x62
      · rw [if_pos other, if_pos other]
        rfl
      · -- The children are accepted one after the other.
        rw [if_neg other, if_neg other, InRange.malformedTLV_unmarshalBinary]
        cases unmarshalItems top.value with
        | error err => rfl
        | ok inner =>
          rw [receive_ok, InRange.acceptChildren_eq]
          dsimp only
          match FCI.acceptAll {} false inner with
          | .error err => rfl
          | .ok (_, false) => rfl
          | .ok (_, true) => rfl

/-! Records. -/

/-- What an item of a record changes. -/
def Application.accept (parsed : Application) (item : Tlv.Item) : Application :=
  if item.tag = 0x4F then { parsed with aid := item.value }
  else if item.tag = 0x50 then { parsed with label := item.value }
  else parsed

/-- Bytes that start with something else are not only padding. -/
theorem trimEFDirPadding_ne_nil {first : UInt8} (other : first ≠ 0xFF) (rest : Bytes) :
    trimEFDirPadding (first :: rest) ≠ [] := by
  intro none
  rw [trimEFDirPadding, List.rdropWhile_eq_nil_iff] at none
  exact other (by simpa using none first (by simp))

/-- Padding is all trimmed. -/
theorem trimEFDirPadding_replicate (count : Nat) : trimEFDirPadding (List.replicate count 0xFF) = [] := by
  rw [trimEFDirPadding, List.rdropWhile_eq_nil_iff]
  intro b member
  rw [List.eq_of_mem_replicate member]
  rfl

/-- An encoded item starts with its tag. -/
theorem Tlv.Item.marshalBinary_eq_cons {item : Tlv.Item} {encoded : Bytes} (ran : item.marshalBinary = .ok encoded) :
    ∃ rest, encoded = item.tag :: rest := by
  obtain ⟨length, -, joined⟩ := Go.bind_eq_ok.mp ran
  cases joined
  exact ⟨_, rfl⟩

/-- Encoded items are accepted one after the other. -/
theorem acceptRecordItems_marshalBinary {items : List Tlv.Item} (tagged : ∀ item ∈ items, item.tag ≠ 0xFF) {data : Bytes}
    (ran : Tlv.marshalBinary items = .ok data) (parsed : Application) {fuel : Nat} (enough : data.length < fuel) :
    acceptRecordItems fuel parsed data = .ok (items.foldl Application.accept parsed) := by
  -- The induction is on the items, each of which uses up its own bytes.
  induction items generalizing parsed data fuel with
  | nil =>
    cases ran
    obtain ⟨fuel, rfl⟩ := Nat.exists_eq_succ_of_ne_zero (Nat.ne_of_gt enough)
    rfl
  | cons item items ih =>
    obtain ⟨other, others⟩ := List.forall_mem_cons.mp tagged
    obtain ⟨first, encoded, ran⟩ := Go.bind_eq_ok.mp ran
    obtain ⟨rest, encodedRest, joined⟩ := Go.bind_eq_ok.mp ran
    cases joined
    obtain ⟨more, begins⟩ := Tlv.Item.marshalBinary_eq_cons encoded
    obtain ⟨fuel, rfl⟩ := Nat.exists_eq_succ_of_ne_zero (Nat.ne_zero_of_lt enough)
    -- An item does not begin with padding.
    have some : trimEFDirPadding (first ++ rest) ≠ [] := by
      rw [begins]
      exact trimEFDirPadding_ne_nil other _
    rw [acceptRecordItems, if_neg some, Tlv.consume_of_marshalBinary encoded]
    dsimp only
    rw [List.drop_left]
    refine ih others encodedRest _ ?_
    simp only [begins, List.length_append, List.length_cons] at enough
    omega

/-- A record is read back, however much padding follows. -/
theorem unmarshalEFDirRecord_marshalBinary {rec : Application} {data : Bytes} (ran : rec.marshalBinary = .ok data)
    (count : Nat) : unmarshalEFDirRecord (data ++ List.replicate count 0xFF) = .ok rec := by
  rw [Application.marshalBinary] at ran
  split at ran
  · simp at ran
  · rename_i nonempty
    obtain ⟨value, inner, ran⟩ := Go.bind_eq_ok.mp ran
    rw [Go.mapError_eq_ok] at inner ran
    obtain ⟨encoded, record, ran⟩ := Go.bind_eq_ok.mp ran
    cases ran
    obtain ⟨rest, begins⟩ := Tlv.Item.marshalBinary_eq_cons record
    -- A record does not begin with padding.
    have some : trimEFDirPadding (encoded ++ [] ++ List.replicate count 0xFF) ≠ [] := by
      rw [begins]
      exact trimEFDirPadding_ne_nil (by simp) _
    have aid : rec.aid ≠ [] := fun none => nonempty (congrArg List.length none)
    -- The identifier comes first, and then the label where there is one.
    have accepted : acceptRecordItems (value.length + 1) {} value = .ok rec := by
      by_cases label : rec.label = []
      · rw [if_neg (not_not.mpr label)] at inner
        rw [acceptRecordItems_marshalBinary (by simp) inner {} (Nat.lt_succ_self _)]
        simp [Application.accept, ← label]
      · rw [if_pos label] at inner
        rw [acceptRecordItems_marshalBinary (by simp) inner {} (Nat.lt_succ_self _)]
        simp [Application.accept]
    rw [unmarshalEFDirRecord, if_neg some, List.append_nil, Tlv.consume_of_marshalBinary record]
    dsimp only
    rw [if_neg (by simp), List.drop_left, trimEFDirPadding_replicate, if_neg (by simp), accepted]
    dsimp only
    rw [if_neg aid]

/-! File control information. -/

/-- Only items of at most two length bytes are encoded. -/
theorem Tlv.bounded_of_marshalItems {items : List Tlv.Item} {data : Bytes} (ran : Tlv.marshalBinary items = .ok data) :
    ∀ item ∈ items, item.value.length ≤ 0xFFFF := by
  induction items generalizing data with
  | nil => simp
  | cons item items ih =>
    obtain ⟨first, encoded, ran⟩ := Go.bind_eq_ok.mp ran
    obtain ⟨rest, encodedRest, -⟩ := Go.bind_eq_ok.mp ran
    exact List.forall_mem_cons.mpr ⟨Tlv.bounded_of_marshalBinary encoded, ih encodedRest⟩

/-- Items that were encoded are read back. -/
theorem unmarshalItems_marshalBinary {items : List Tlv.Item} {data : Bytes} (ran : Tlv.marshalBinary items = .ok data) :
    unmarshalItems data = .ok items := by
  obtain ⟨same, marshalled, read⟩ := Tlv.unmarshalBinary_marshalBinary (Tlv.bounded_of_marshalItems ran)
  obtain rfl : data = same := Except.ok.inj (ran.symm.trans marshalled)
  rw [InRange.unmarshalBinary_eq data le_rfl, Go.ofExcept_eq_ok] at read
  exact read

/-- A number of two bytes is read back. -/
theorem bigEndianUint16_putUint16 (value : UInt16) :
    bigEndianUint16 (UInt8.ofNat (value.toNat / 256)) value.toUInt8 = value := by
  have small := value.toNat_lt
  have high : (UInt8.ofNat (value.toNat / 256)).toNat = value.toNat / 256 :=
    UInt8.toNat_ofNat_of_lt' (by simp [UInt8.size]; omega)
  have low : value.toUInt8.toNat = value.toNat % 256 := UInt16.toNat_toUInt8 value
  have whole : value.toNat / 256 * 256 + value.toNat % 256 = value.toNat := by omega
  rw [bigEndianUint16, high, low, whole, UInt16.ofNat_toNat]

/-- The children that an encoder writes. -/
def FCI.children (f : FCI) : List Tlv.Item :=
  let descriptor : Tlv.Item :=
    { tag := 0x82, value :=
        if f.recordSize ≠ 0 ∨ f.recordCount ≠ 0 then
          [f.fileStructure, f.fileType] ++ putUint16 f.recordSize ++ [f.recordCount]
        else [f.fileStructure, f.fileType] }
  if f.fileSize ≠ 0 then [descriptor] ++ [{ tag := 0x80, value := putUint16 f.fileSize }] else [descriptor]

/-- The children that an encoder writes are accepted as what they came from. -/
theorem FCI.acceptAll_children (f : FCI) : FCI.acceptAll {} false f.children = .ok (f, true) := by
  obtain ⟨fileStructure, fileType, recordSize, recordCount, fileSize⟩ := f
  -- Both numbers are left out when they are zero, which is what the decoder starts with.
  by_cases records : recordSize ≠ 0 ∨ recordCount ≠ 0 <;> by_cases size : fileSize = 0
  · simp [FCI.children, records, size, FCI.acceptAll, FCI.accept, putUint16, bigEndianUint16_putUint16]
  · simp [FCI.children, records, size, FCI.acceptAll, FCI.accept, putUint16, bigEndianUint16_putUint16]
  · obtain ⟨rfl, rfl⟩ : recordSize = 0 ∧ recordCount = 0 := by simpa using records
    simp [FCI.children, size, FCI.acceptAll, FCI.accept]
  · obtain ⟨rfl, rfl⟩ : recordSize = 0 ∧ recordCount = 0 := by simpa using records
    simp [FCI.children, size, FCI.acceptAll, FCI.accept, putUint16, bigEndianUint16_putUint16]

/-- File control information is read back. -/
theorem FCI.unmarshalBinary_marshalBinary {f : FCI} {data : Bytes} (ran : f.marshalBinary = .ok data) :
    FCI.unmarshalBinary data = .ok f := by
  rw [FCI.marshalBinary] at ran
  split at ran
  · simp at ran
  · obtain ⟨value, inner, ran⟩ := Go.bind_eq_ok.mp ran
    rw [Go.mapError_eq_ok] at inner ran
    have children : Tlv.marshalBinary f.children = .ok value := inner
    rw [FCI.unmarshalBinary, unmarshalItems_marshalBinary ran]
    dsimp only
    rw [if_neg (by simp), unmarshalItems_marshalBinary children]
    dsimp only
    rw [f.acceptAll_children]

/-! The codecs. -/

/-- A decoder that only assigns what was decoded does not panic, and it leaves the receiver when it fails. -/
theorem assign_failed {α : Type} {decoded : Except FileError α} {receiver left : α} {fault : Fault FileError}
    (failed : (assign decoded).run receiver = .error fault left) : fault ≠ .outOfRange ∧ left = receiver := by
  cases decoded with
  | error err =>
    cases failed
    exact ⟨by simp, rfl⟩
  | ok parsed => cases failed

/-- Records and file control information are read back, records with any padding behind them, and the decoders stay in
range and leave the receiver alone when they fail. -/
theorem fileCodecs_exact :
    (∀ (rec : Application) (data : Bytes), rec.aid ≠ [] → rec.marshalBinary = .ok data → ∀ count receiver,
      (EFDirRecord.unmarshalBinary (data ++ List.replicate count 0xFF)).run receiver = .ok () rec) ∧
    (∀ (f : FCI) (data : Bytes), f.marshalBinary = .ok data → ∀ receiver,
      (InRange.unmarshalFCI data).run receiver = .ok () f) ∧
    (∀ data receiver fault left, (EFDirRecord.unmarshalBinary data).run receiver = .error fault left →
      fault ≠ .outOfRange ∧ left = receiver) ∧
    ∀ data receiver fault left, (InRange.unmarshalFCI data).run receiver = .error fault left →
      fault ≠ .outOfRange ∧ left = receiver := by
  refine ⟨fun rec data _ ran count receiver => ?_, fun f data ran receiver => ?_, fun data receiver fault left => ?_,
    fun data receiver fault left => ?_⟩
  · rw [EFDirRecord.unmarshalBinary_eq, unmarshalEFDirRecord_marshalBinary ran]
    rfl
  · rw [InRange.unmarshalFCI_eq, FCI.unmarshalBinary_marshalBinary ran]
    rfl
  · rw [EFDirRecord.unmarshalBinary_eq]
    exact assign_failed
  · rw [InRange.unmarshalFCI_eq]
    exact assign_failed

/-- A record whose AID and label end in 0xFF, with three bytes of padding. -/
theorem fileCodecs_exact_filler :
    (EFDirRecord.unmarshalBinary
      ([0x61, 0x08, 0x4F, 0x02, 0xA0, 0xFF, 0x50, 0x02, 0x41, 0xFF] ++ List.replicate 3 0xFF)).run {} =
        .ok () { aid := [0xA0, 0xFF], label := [0x41, 0xFF] } ∧
    (InRange.unmarshalFCI [0x62, 0x08, 0x82, 0x02, 0x41, 0x21, 0x80, 0x02, 0x01, 0x00]).run {} =
      .ok () { fileStructure := 0x41, fileType := 0x21, fileSize := 256 } :=
  ⟨fileCodecs_exact.1 _ _ (by simp) (by decide +kernel) 3 {}, fileCodecs_exact.2.1 _ _ (by decide +kernel) {}⟩

end Wwan.Sim
