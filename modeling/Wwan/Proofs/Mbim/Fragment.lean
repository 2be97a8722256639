import Wwan.Mbim.Fragment

/-! The frames of a message parse to its pieces, and cutting a message gives such frames. -/

namespace Wwan.Mbim

open LittleEndian

/-- A message in the fragment format that stands in a single frame. -/
structure Fragmentable (data : Bytes) : Prop where
  long : 20 ≤ data.length
  kind : isFragmentMessage (messageTypeOf data) = true
  measured : (uint32At data 4).toNat = data.length
  total : uint32At data 12 = 1
  current : uint32At data 16 = 0

/-- Consecutive pieces of a message's payload, no more than their count field can say. -/
structure Pieces (data : Bytes) (pieces : List Bytes) : Prop where
  several : 0 < pieces.length
  few : pieces.length < 2 ^ 32
  whole : pieces.flatten = data.drop 20

/-- The frame that carries a numbered piece of a message. -/
def pieceFrame (data : Bytes) (pieces : List Bytes) (i : Nat) : Bytes :=
  fragmentFrame (messageTypeOf data) (transactionIDOf data) (UInt32.ofNat pieces.length)
    (UInt32.ofNat i) (pieces.getD i [])

/-- The frames carry the message's payload in consecutive pieces, numbered from zero. -/
def Fragments (data : Bytes) (frames : List Bytes) : Prop :=
  ∃ pieces, Pieces data pieces ∧ frames = (List.range pieces.length).map (pieceFrame data pieces)

section Header

variable (messageType : MessageType) (length transactionID total current : UInt32) (piece : Bytes)

/-- The fields of a fragment header read back. -/
theorem uint32At_fragmentHeader :
    uint32At (fragmentHeader messageType length transactionID total current ++ piece) 0 = messageType ∧
      uint32At (fragmentHeader messageType length transactionID total current ++ piece) 4 = length ∧
      uint32At (fragmentHeader messageType length transactionID total current ++ piece) 8 =
        transactionID ∧
      uint32At (fragmentHeader messageType length transactionID total current ++ piece) 12 = total ∧
      uint32At (fragmentHeader messageType length transactionID total current ++ piece) 16 = current := by
  simp only [fragmentHeader, List.append_assoc]
  refine ⟨?_, ?_, ?_, ?_, ?_⟩
  · exact uint32At_putUint32 [] messageType _ rfl
  · exact uint32At_putUint32 (putUint32 messageType) length _ rfl
  · rw [← List.append_assoc]
    exact uint32At_putUint32 _ transactionID _ rfl
  · rw [← List.append_assoc, ← List.append_assoc]
    exact uint32At_putUint32 _ total _ rfl
  · rw [← List.append_assoc, ← List.append_assoc, ← List.append_assoc]
    exact uint32At_putUint32 _ current _ rfl

/-- A fragment header takes twenty bytes. -/
@[simp] theorem fragmentHeader_length :
    (fragmentHeader messageType length transactionID total current).length = 20 := rfl

/-- A frame is twenty bytes longer than its piece. -/
@[simp] theorem fragmentFrame_length :
    (fragmentFrame messageType transactionID total current piece).length = 20 + piece.length := by
  simp [fragmentFrame]

/-- A frame is collected under its type and its transaction. -/
theorem frameKey_fragmentFrame :
    frameKey (fragmentFrame messageType transactionID total current piece) =
      { messageType, transactionID } := by
  obtain ⟨first, -, third, -⟩ := uint32At_fragmentHeader messageType
    (UInt32.ofNat (20 + piece.length)) transactionID total current piece
  simp only [frameKey, messageTypeOf, transactionIDOf, fragmentFrame, first, third]

/-- A frame with a valid number parses to its piece. -/
theorem unmarshalBinary_fragmentFrame (kind : isFragmentMessage messageType = true)
    (numbered : current.toNat < total.toNat) :
    Fragment.unmarshalBinary (fragmentFrame messageType transactionID total current piece) =
      .ok { messageType, transactionID, total, current, payload := piece } := by
  obtain ⟨first, second, third, fourth, fifth⟩ := uint32At_fragmentHeader messageType
    (UInt32.ofNat (20 + piece.length)) transactionID total current piece
  have size := fragmentFrame_length messageType transactionID total current piece
  have rest : (fragmentFrame messageType transactionID total current piece).drop 20 = piece :=
    List.drop_left' (fragmentHeader_length ..)
  have nonzero : total ≠ 0 := by
    rintro rfl
    simp at numbered
  have inside : ¬ total ≤ current := by
    rw [UInt32.le_iff_toNat_le]
    omega
  rw [fragmentFrame] at size rest ⊢
  simp only [Fragment.unmarshalBinary, messageTypeOf, transactionIDOf, size, first, second, third,
    fourth, fifth, rest, kind]
  simp [nonzero, inside]

end Header

/-- A single-frame message is its own only fragment. -/
theorem Fragmentable.eq_fragmentFrame {data : Bytes} (message : Fragmentable data) :
    data = fragmentFrame (messageTypeOf data) (transactionIDOf data) 1 0 (data.drop 20) := by
  have long := message.long
  have length : UInt32.ofNat (20 + (data.drop 20).length) = uint32At data 4 := by
    have whole : 20 + (data.drop 20).length = (uint32At data 4).toNat := by
      rw [message.measured, List.length_drop]
      omega
    rw [whole, UInt32.ofNat_toNat]
  have field (offset : Nat) (inside : offset + 4 ≤ data.length) : data.drop offset =
      putUint32 (uint32At data offset) ++ data.drop (offset + 4) := by
    rw [putUint32_uint32At inside, ← List.drop_drop, List.take_append_drop]
  rw [fragmentFrame, fragmentHeader, length, messageTypeOf, transactionIDOf, ← message.total,
    ← message.current]
  -- Each field is cut off the front in turn.
  calc data = data.drop 0 := rfl
    _ = putUint32 (uint32At data 0) ++ (putUint32 (uint32At data 4) ++ (putUint32 (uint32At data 8) ++
          (putUint32 (uint32At data 12) ++ (putUint32 (uint32At data 16) ++ data.drop 20)))) := by
        rw [field 0 (by omega), field 4 (by omega), field 8 (by omega), field 12 (by omega),
          field 16 (by omega)]
    _ = _ := by simp only [List.append_assoc]

/-- The message is shorter than its length field can say. -/
theorem Fragmentable.short {data : Bytes} (message : Fragmentable data) : data.length < 2 ^ 32 := by
  rw [← message.measured]
  exact (uint32At data 4).toNat_lt

/-- The frame loop cuts the payload into bounded pieces, as many as needed. -/
private theorem framesFrom_pieces (messageType : MessageType) (transactionID total : UInt32)
    {size : Nat} (positive : 0 < size) (current : Nat) (payload : Bytes) :
    ∃ pieces : List Bytes, pieces.flatten = payload ∧ (∀ piece ∈ pieces, piece.length ≤ size) ∧
      pieces.length = (payload.length + size - 1) / size ∧
      framesFrom messageType transactionID total size current payload =
        (pieces.zipIdx current).map fun (piece, i) =>
          fragmentFrame messageType transactionID total (UInt32.ofNat i) piece := by
  -- Induction on the length, since every frame takes a piece off the payload.
  induction length : payload.length using Nat.strong_induction_on generalizing payload current with
  | _ n ih =>
    rw [framesFrom]
    by_cases empty : payload = []
    · -- No piece is left.
      subst empty
      refine ⟨[], rfl, by simp, ?_, by simp⟩
      subst length
      simp only [List.length_nil, Nat.zero_add]
      exact (Nat.div_eq_of_lt (by omega)).symm
    · have filled := List.length_pos_of_ne_nil empty
      rw [if_neg (by simp [empty]; omega)]
      obtain ⟨pieces, flat, bounded, count, cut⟩ :=
        ih (payload.drop size).length (by simp; omega) (current + 1) (payload.drop size) rfl
      refine ⟨payload.take size :: pieces, ?_, ?_, ?_, ?_⟩
      · rw [List.flatten_cons, flat, List.take_append_drop]
      · intro piece member
        rcases List.mem_cons.mp member with rfl | later
        · exact List.length_take_le size payload
        · exact bounded piece later
      · -- One full piece accounts for one unit of the rounded-up quotient.
        rw [List.length_cons, count, List.length_drop, length]
        by_cases last : n ≤ size
        · have none : (n - size + size - 1) / size = 0 := Nat.div_eq_of_lt (by omega)
          have one : (n + size - 1) / size = 1 := by
            rw [Nat.div_eq_iff positive]
            omega
          omega
        · have shift : n + size - 1 = (n - size + size - 1) + size := by omega
          rw [shift, Nat.add_div_right _ positive]
      · rw [cut]
        rfl

/-- Cutting a message succeeds, stays within the frame size and gives its fragments. -/
theorem frames_fragments {data : Bytes} (message : Fragmentable data) {maxFrameSize : Nat}
    (roomy : 20 < maxFrameSize) :
    ∃ cut, frames data maxFrameSize = .ok cut ∧ Fragments data cut ∧
      ∀ frame ∈ cut, frame.length ≤ maxFrameSize := by
  have long := message.long
  have short := message.short
  have lengthField : uint32At data 4 = UInt32.ofNat data.length := by
    rw [← message.measured, UInt32.ofNat_toNat]
  by_cases fits : data.length ≤ maxFrameSize
  · refine ⟨[data], by simp [frames, fits], ?_, by simpa using fits⟩
    refine ⟨[data.drop 20], ⟨by simp, by simp, by simp⟩, ?_⟩
    conv_lhs => rw [message.eq_fragmentFrame]
    rfl
  · obtain ⟨pieces, flat, bounded, count, cut⟩ := framesFrom_pieces (messageTypeOf data)
      (transactionIDOf data) (UInt32.ofNat (max 1 (((data.drop 20).length + (maxFrameSize - 20) - 1) /
        (maxFrameSize - 20)))) (by omega : 0 < maxFrameSize - 20) 0 (data.drop 20)
    have several : 1 ≤ pieces.length := by
      rw [count, Nat.le_div_iff_mul_le (by omega)]
      simp only [List.length_drop]
      omega
    have few : pieces.length ≤ data.length := by
      rw [count]
      refine Nat.div_le_of_le_mul ?_
      obtain ⟨size, sized⟩ : ∃ size, maxFrameSize - 20 = size + 1 := ⟨maxFrameSize - 21, by omega⟩
      rw [sized, List.length_drop, Nat.add_mul]
      have : size ≤ size * data.length := Nat.le_mul_of_pos_right _ (by omega)
      omega
    have numbered : (pieces.zipIdx.map fun (piece, i) => fragmentFrame (messageTypeOf data)
        (transactionIDOf data) (UInt32.ofNat pieces.length) (UInt32.ofNat i) piece) =
          (List.range pieces.length).map (pieceFrame data pieces) := by
      refine List.ext_getElem (by simp) fun i left right => ?_
      have inside : i < pieces.length := by simpa using left
      simp [pieceFrame, List.getD_eq_getElem?_getD, inside]
    refine ⟨_, ?_, ⟨pieces, ⟨several, by omega, flat⟩, rfl⟩, ?_⟩
    · rw [← count, Nat.max_eq_right several, numbered] at cut
      simp only [frames, fits, if_false, show ¬ data.length < 20 by omega, message.kind, lengthField,
        show ¬ maxFrameSize ≤ 20 by omega, ← count, Nat.max_eq_right several, cut]
      simp
    · intro frame member
      rw [← numbered] at member
      obtain ⟨⟨piece, i⟩, inside, rfl⟩ := List.mem_map.mp member
      have := bounded piece (List.fst_mem_of_mem_zipIdx inside)
      simp only [fragmentFrame_length]
      omega

end Wwan.Mbim
