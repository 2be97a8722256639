import Wwan.Sim.Aka

/-! Which answers to a challenge are told apart. -/

namespace Wwan.Sim

/-! Chunks. -/

/-- A value behind its length. -/
def chunk (value : Bytes) : Bytes := UInt8.ofNat value.length :: value

/-- Whether a length fits the byte in front of a value. -/
def Short (value : Bytes) : Prop := value.length ≤ 0xFF

/-- A chunk is read, and what follows it is left. -/
theorem readAKAChunk_chunk {value : Bytes} (short : Short value) (after : Bytes) (name : AKAChunk) (original : Bytes) :
    readAKAChunk (chunk value ++ after) name original = .ok (value, after) := by
  -- The length byte holds the length of a short value.
  have size : (UInt8.ofNat value.length).toNat = value.length :=
    UInt8.toNat_ofNat_of_lt' (by simp only [Short] at short; simp [UInt8.size]; omega)
  have length : (Go.index (chunk value ++ after) 0 : Go AKAError UInt8) = .ok (UInt8.ofNat value.length) := rfl
  have behind : (Go.slice (chunk value ++ after) 1 (chunk value ++ after).length : Go AKAError Bytes) =
      .ok (value ++ after) := by
    rw [Go.slice_from (by simp [chunk])]
    rfl
  rw [readAKAChunk, if_neg (by simp [chunk]), length, Go.ok_bind, behind, Go.ok_bind, size, if_neg (by simp),
    Go.slice_to (by simp), Go.slice_from (by simp)]
  simp

/-- What is read is a chunk with something behind it. -/
theorem readAKAChunk_ensures (data : Bytes) (name : AKAChunk) (original : Bytes) :
    (readAKAChunk data name original).Ensures fun (value, after) => Short value ∧ data = chunk value ++ after := by
  rw [readAKAChunk]
  refine Go.ensures_ite (fun _ => Go.ensures_fail _) fun nonempty => ?_
  -- The length byte and what stands behind it.
  obtain ⟨length, rest, rfl⟩ := List.exists_cons_of_ne_nil fun none => nonempty (congrArg List.length none)
  have first : (Go.index (length :: rest) 0 : Go AKAError UInt8) = .ok length := rfl
  have behind : (Go.slice (length :: rest) 1 (length :: rest).length : Go AKAError Bytes) = .ok rest := by
    rw [Go.slice_from (by simp)]
    rfl
  rw [first, Go.ok_bind, behind, Go.ok_bind]
  refine Go.ensures_ite (fun _ => Go.ensures_fail _) fun inside => ?_
  rw [Go.slice_to (by omega), Go.ok_bind, Go.slice_from (by omega), Go.ok_bind]
  have size := length.toNat_lt
  -- The value is as long as its length byte says.
  have long : (rest.take length.toNat).length = length.toNat := by
    rw [List.length_take]
    omega
  refine Go.ensures_ok ⟨by rw [Short, long]; omega, ?_⟩
  rw [chunk, long, UInt8.ofNat_toNat]
  simp

/-- A value short enough is appended as a chunk. -/
theorem appendAKAChunk_eq_ok {out value data : Bytes} {name : AKAChunk} :
    appendAKAChunk out name value = .ok data ↔ Short value ∧ data = out ++ chunk value := by
  rw [appendAKAChunk]
  split
  · rename_i long
    simp only [Go.fail_ne_ok, Short, false_iff, not_and]
    omega
  · rename_i short
    rw [Except.ok.injEq]
    exact ⟨fun same => ⟨Nat.le_of_not_gt short, same.symm⟩, fun same => same.2.symm⟩

namespace Authenticate3GResult

/-! Answers. -/

/-- An answer that holds one of the three outcomes and nothing of the others. -/
inductive Sole : Authenticate3GResult → Prop where
  | success (res ck ik : Bytes) : Sole { res, ck, ik }
  | synchronization (auts : Bytes) : Sole { auts }
  | rejection : Sole { reject := true }

/-- How many of the three outcomes an answer has. -/
def outcomes (r : Authenticate3GResult) : Nat :=
  [r.successful, r.synchronizationFailed, r.authenticationRejected].count true

/-- A successful answer of which a part is empty. -/
def HasEmptyChunk (data : Bytes) : Prop :=
  ∃ res ck ik after, data = 0xDB :: (chunk res ++ (chunk ck ++ (chunk ik ++ after))) ∧
    Short res ∧ Short ck ∧ Short ik ∧ (res = [] ∨ ck = [] ∨ ik = [])

/-- The payload behind the tag of an answer. -/
theorem slice_payload (tag : UInt8) (payload : Bytes) :
    (Go.slice (tag :: payload) 1 (tag :: payload).length : Go AKAError Bytes) = .ok payload := by
  rw [Go.slice_from (by simp)]
  rfl

/-- An answer of three chunks is a successful one. -/
theorem unmarshalBinary_success {res ck ik : Bytes} (shortRes : Short res) (shortCK : Short ck) (shortIK : Short ik)
    (after : Bytes) :
    unmarshalBinary (0xDB :: (chunk res ++ (chunk ck ++ (chunk ik ++ after)))) = .ok { res, ck, ik } := by
  -- The tag is followed by the three parts in their order.
  have tag : (Go.index (0xDB :: (chunk res ++ (chunk ck ++ (chunk ik ++ after)))) 0 : Go AKAError UInt8) = .ok 0xDB := rfl
  rw [unmarshalBinary, if_neg (by simp), slice_payload, Go.ok_bind, tag, Go.ok_bind, if_pos rfl,
    readAKAChunk_chunk shortRes, Go.ok_bind]
  dsimp only
  rw [readAKAChunk_chunk shortCK, Go.ok_bind]
  dsimp only
  rw [readAKAChunk_chunk shortIK]
  rfl

/-- An answer that holds one outcome is read back. -/
theorem unmarshalBinary_marshalBinary {r : Authenticate3GResult} (sole : Sole r) {data : Bytes}
    (marshalled : r.marshalBinary = .ok data) : unmarshalBinary data = .ok r := by
  cases sole with
  | success res ck ik =>
    -- The tag of a success stands in front of its three parts.
    rw [marshalBinary] at marshalled
    split at marshalled
    · split at marshalled
      · simp at marshalled
      · -- No part of it is too long for its length byte.
        obtain ⟨withRES, appendedRES, marshalled⟩ := Go.bind_eq_ok.mp marshalled
        obtain ⟨withCK, appendedCK, appendedIK⟩ := Go.bind_eq_ok.mp marshalled
        obtain ⟨shortRES, rfl⟩ := appendAKAChunk_eq_ok.mp appendedRES
        obtain ⟨shortCK, rfl⟩ := appendAKAChunk_eq_ok.mp appendedCK
        obtain ⟨shortIK, rfl⟩ := appendAKAChunk_eq_ok.mp appendedIK
        have read := unmarshalBinary_success shortRES shortCK shortIK []
        simpa only [List.append_nil, List.append_assoc, List.singleton_append, List.cons_append, List.nil_append]
          using read
    · simp at marshalled
  | synchronization auts =>
    -- A result without AUTS has no outcome to write.
    by_cases empty : auts.length = 0
    · simp [marshalBinary, List.eq_nil_of_length_eq_zero empty] at marshalled
    · rw [marshalBinary] at marshalled
      simp only [List.length_nil, ne_eq, not_true_eq_false, or_self, if_false, empty, not_false_eq_true, if_true]
        at marshalled
      split at marshalled
      · simp at marshalled
      · rename_i fourteen
        -- AUTS has its fourteen bytes.
        obtain ⟨short, rfl⟩ := appendAKAChunk_eq_ok.mp marshalled
        have read := readAKAChunk_chunk short [] .auts (0xDC :: chunk auts)
        rw [List.append_nil] at read
        have tag : (Go.index (0xDC :: chunk auts) 0 : Go AKAError UInt8) = .ok 0xDC := rfl
        rw [List.singleton_append, unmarshalBinary, if_neg (by simp), slice_payload, Go.ok_bind, tag, Go.ok_bind,
          if_neg (by decide), if_pos rfl, if_neg (by simp [chunk]), read, Go.ok_bind]
        dsimp only
        rw [if_neg empty, if_neg fourteen]
        rfl
  | rejection =>
    cases marshalled
    decide +kernel

/-- An answer of three parts has an outcome when none of them is empty. -/
theorem outcomes_success (res ck ik : Bytes) : outcomes { res, ck, ik } = 1 ↔ res ≠ [] ∧ ck ≠ [] ∧ ik ≠ [] := by
  have only : outcomes { res, ck, ik } = if res ≠ [] ∧ ck ≠ [] ∧ ik ≠ [] then 1 else 0 := by
    simp only [outcomes, successful, synchronizationFailed, authenticationRejected, ne_eq, List.length_eq_zero_iff]
    split
    · rename_i whole
      rw [decide_eq_true whole]
      rfl
    · rename_i part
      rw [decide_eq_false part]
      rfl
  rw [only]
  split
  · exact iff_of_true rfl ‹_›
  · exact iff_of_false (by decide) ‹_›

/-- The three chunks of an answer say whether one of them is empty. -/
theorem hasEmptyChunk_iff {res ck ik : Bytes} (shortRES : Short res) (shortCK : Short ck) (shortIK : Short ik)
    (after : Bytes) :
    HasEmptyChunk (0xDB :: (chunk res ++ (chunk ck ++ (chunk ik ++ after)))) ↔ res = [] ∨ ck = [] ∨ ik = [] := by
  refine ⟨?_, fun empty => ⟨res, ck, ik, after, rfl, shortRES, shortCK, shortIK, empty⟩⟩
  rintro ⟨res', ck', ik', after', same, shortRES', shortCK', shortIK', empty⟩
  -- Both ways to cut the answer are what the decoder reads.
  have read := unmarshalBinary_success shortRES shortCK shortIK after
  rw [same, unmarshalBinary_success shortRES' shortCK' shortIK', Except.ok.injEq, Authenticate3GResult.mk.injEq] at read
  obtain ⟨rfl, rfl, rfl, -⟩ := read
  exact empty

/-- An answer that is read has one of the forms that are written, or is a success with an empty part. -/
theorem unmarshalBinary_ensures (data : Bytes) :
    (unmarshalBinary data).Ensures fun r => outcomes r = 1 ↔ ¬ HasEmptyChunk data := by
  rw [unmarshalBinary]
  refine Go.ensures_ite (fun _ => Go.ensures_fail _) fun nonempty => ?_
  have some : 0 < data.length := by omega
  obtain ⟨tag, payload, rfl⟩ := List.exists_cons_of_length_pos some
  have first : (Go.index (tag :: payload) 0 : Go AKAError UInt8) = .ok tag := rfl
  rw [slice_payload, Go.ok_bind, first, Go.ok_bind]
  refine Go.ensures_ite (fun success => ?_) fun other => Go.ensures_ite (fun failure => ?_) fun _ => Go.ensures_fail _
  · -- A success, of which any part may be empty.
    subst success
    refine (readAKAChunk_ensures payload .res _).bind fun (res, afterRES) ⟨shortRES, splitRES⟩ => ?_
    refine (readAKAChunk_ensures afterRES .ck _).bind fun (ck, afterCK) ⟨shortCK, splitCK⟩ => ?_
    refine (readAKAChunk_ensures afterCK .ik _).bind fun (ik, after) ⟨shortIK, splitIK⟩ => Go.ensures_ok ?_
    subst splitRES splitCK splitIK
    rw [hasEmptyChunk_iff shortRES shortCK shortIK]
    rw [outcomes_success]
    tauto
  · -- A synchronization failure is no success.
    have never : ¬ HasEmptyChunk (tag :: payload) := by
      rintro ⟨_, _, _, _, same, -⟩
      exact other (List.cons.inj same).1
    refine Go.ensures_ite (fun _ => ?_) fun _ => ?_
    · -- Without AUTS the answer is a rejection.
      exact Go.ensures_ok (iff_of_true rfl never)
    · refine (readAKAChunk_ensures payload .auts _).bind fun (auts, after) _ => ?_
      refine Go.ensures_ite (fun _ => Go.ensures_ok (iff_of_true rfl never)) fun some => ?_
      refine Go.ensures_ite (fun _ => Go.ensures_fail _) fun _ => Go.ensures_ok (iff_of_true ?_ never)
      simp [outcomes, successful, synchronizationFailed, authenticationRejected, some]

/-- An answer that holds one outcome is read back, and an answer that is read has exactly one outcome unless it is a
success with an empty part. -/
theorem aka_classified_iff (data : Bytes) (r : Authenticate3GResult) :
    (Sole r → marshalBinary r = .ok data → unmarshalBinary data = .ok r) ∧
      (unmarshalBinary data = .ok r → (outcomes r = 1 ↔ ¬ HasEmptyChunk data)) :=
  ⟨fun sole marshalled => unmarshalBinary_marshalBinary sole marshalled, (unmarshalBinary_ensures data).2 r⟩

/-- A success of three bytes is read back, and has one outcome. -/
theorem aka_classified_three :
    unmarshalBinary [0xDB, 0x01, 0x11, 0x01, 0x22, 0x01, 0x33] = .ok { res := [0x11], ck := [0x22], ik := [0x33] } ∧
      (outcomes { res := [0x11], ck := [0x22], ik := [0x33] } = 1 ↔
        ¬ HasEmptyChunk [0xDB, 0x01, 0x11, 0x01, 0x22, 0x01, 0x33]) := by
  obtain ⟨roundTrip, classified⟩ := aka_classified_iff [0xDB, 0x01, 0x11, 0x01, 0x22, 0x01, 0x33]
    { res := [0x11], ck := [0x22], ik := [0x33] }
  have read := roundTrip (.success _ _ _) (by decide +kernel)
  exact ⟨read, classified read⟩

/-- A success of three empty parts is read and has no outcome. -/
theorem aka_emptySuccess_unclassified :
    unmarshalBinary [0xDB, 0x00, 0x00, 0x00] = .ok {} ∧ successful {} = false ∧ synchronizationFailed {} = false ∧
      authenticationRejected {} = false := by
  decide +kernel

end Authenticate3GResult

end Wwan.Sim
