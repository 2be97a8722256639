import Wwan.Lib.Go

/-! Streams that deliver their bytes in reads of any sizes. -/

namespace Wwan

/-- Why a stream delivers no more. -/
inductive ReadError where
  /-- `io.EOF` -/
  | eof
  /-- `io.ErrUnexpectedEOF` -/
  | unexpectedEOF
  deriving DecidableEq

/-- A stream: the bytes its reads deliver at most, and whether the end is reported together with the last of them. -/
structure Reader where
  chunks : List Bytes
  endsWithLast : Bool
  deriving DecidableEq

namespace Reader

/-- All bytes that a stream is yet to deliver. -/
def bytes (r : Reader) : Bytes := r.chunks.flatten

/-- One `Read` into a buffer: what it stores, whether it reports the end, and the stream afterwards. -/
def read (r : Reader) (room : Nat) : Bytes × Bool × Reader :=
  match r.chunks with
  | [] => ([], true, r)
  | chunk :: rest =>
    if chunk.length ≤ room then (chunk, r.endsWithLast && rest.isEmpty, { r with chunks := rest })
    else (chunk.take room, false, { r with chunks := chunk.drop room :: rest })

/-- The loop of `io.ReadFull`, which reads until the buffer is full or the end is reported. -/
def fill : Nat → Reader → Nat → Bytes × Reader
  | 0, r, _ => ([], r)
  | rounds + 1, r, room =>
    if room = 0 then ([], r)
    else
      let got := r.read room
      if got.2.1 then (got.1, got.2.2)
      else
        let more := fill rounds got.2.2 (room - got.1.length)
        (got.1 ++ more.1, more.2)

/-- The function `io.ReadFull`, which tells a stream that has ended from one that ends too early. -/
def readFull (r : Reader) (n : Nat) : Except ReadError (Bytes × Reader) :=
  -- Every round takes a chunk, fills the buffer or finds the end.
  let got := fill (r.chunks.length + 1) r n
  if got.1.length ≥ n then .ok got
  else if got.1.length > 0 then .error .unexpectedEOF
  else .error .eof

/-- A read delivers the next bytes, and it reports the end only when all are delivered. -/
theorem read_spec (r : Reader) (room : Nat) :
    (r.read room).1 ++ (r.read room).2.2.bytes = r.bytes ∧ (r.read room).1.length ≤ room ∧
      ((r.read room).2.1 = true → (r.read room).2.2.bytes = []) ∧
      ((r.read room).2.1 = false → (r.read room).1.length = room ∨
        (r.read room).2.2.chunks.length < r.chunks.length) := by
  obtain ⟨chunks, endsWithLast⟩ := r
  cases chunks with
  | nil => simp [read, bytes]
  | cons chunk rest =>
    by_cases fits : chunk.length ≤ room
    · -- The whole chunk fits.
      have got : (Reader.mk (chunk :: rest) endsWithLast).read room =
          (chunk, endsWithLast && rest.isEmpty, ⟨rest, endsWithLast⟩) := by
        simp [read, fits]
      rw [got]
      refine ⟨by simp [bytes], fits, ?_, by simp⟩
      intro ended
      simp only [Bool.and_eq_true, List.isEmpty_iff] at ended
      simp [bytes, ended.2]
    · -- The chunk is cut, and its rest is kept for the next read.
      have got : (Reader.mk (chunk :: rest) endsWithLast).read room =
          (chunk.take room, false, ⟨chunk.drop room :: rest, endsWithLast⟩) := by
        simp [read, fits]
      rw [got]
      refine ⟨by simp [bytes, ← List.append_assoc], List.length_take_le _ _, by simp, ?_⟩
      intro _
      left
      simp only [List.length_take]
      omega

/-- A buffer without room is full. -/
theorem fill_zero (rounds : Nat) (r : Reader) : fill rounds r 0 = ([], r) := by
  cases rounds with
  | zero => rfl
  | succ rounds => rw [fill, if_pos rfl]

/-- Filling a buffer takes the bytes that fit from the front, whatever sizes they come in. -/
theorem fill_spec {rounds : Nat} (r : Reader) (room : Nat) (enough : r.chunks.length < rounds) :
    (fill rounds r room).1 = r.bytes.take room ∧ (fill rounds r room).2.bytes = r.bytes.drop room := by
  -- The induction is on the rounds, each of which takes a chunk or is the last.
  induction rounds generalizing r room with
  | zero => omega
  | succ rounds ih =>
    rw [fill]
    by_cases full : room = 0
    · -- There is no room left.
      simp [full]
    · rw [if_neg full]
      obtain ⟨delivered, fits, ended, continues⟩ := r.read_spec room
      generalize r.read room = got at *
      cases status : got.2.1 with
      | true =>
        -- The stream has ended with these bytes.
        rw [if_pos status]
        rw [ended status, List.append_nil] at delivered
        rw [← delivered, List.take_of_length_le fits, List.drop_of_length_le fits]
        exact ⟨rfl, ended status⟩
      | false =>
        -- There may be more to read.
        rw [if_neg (by simp [status]), ← delivered, List.take_append, List.drop_append, List.take_of_length_le fits,
          List.drop_of_length_le fits, List.nil_append]
        rcases continues status with filled | fewer
        · -- The buffer is full, so nothing more is read.
          rw [filled, Nat.sub_self, fill_zero]
          simp
        · -- A chunk is used up, and the rest of the room is filled from the others.
          have next := ih got.2.2 (room - got.1.length) (by omega)
          exact ⟨congrArg (got.1 ++ ·) next.1, next.2⟩

/-- A stream with enough bytes fills the buffer and is left without them. -/
theorem readFull_enough {r : Reader} {n : Nat} (enough : n ≤ r.bytes.length) :
    ∃ left : Reader, r.readFull n = .ok (r.bytes.take n, left) ∧ left.bytes = r.bytes.drop n := by
  obtain ⟨taken, left⟩ := fill_spec r n (Nat.lt_succ_self r.chunks.length)
  refine ⟨(fill (r.chunks.length + 1) r n).2, ?_, left⟩
  have full : (fill (r.chunks.length + 1) r n).1.length ≥ n := by
    rw [taken, List.length_take]
    omega
  rw [readFull, if_pos full, ← taken]

/-- A stream with fewer bytes has ended, or ends too early. -/
theorem readFull_short {r : Reader} {n : Nat} (short : r.bytes.length < n) :
    r.readFull n = .error (if r.bytes = [] then .eof else .unexpectedEOF) := by
  obtain ⟨taken, -⟩ := fill_spec r n (Nat.lt_succ_self r.chunks.length)
  rw [List.take_of_length_le (by omega)] at taken
  rw [readFull, if_neg (by rw [taken]; omega), taken]
  by_cases empty : r.bytes = []
  · simp [empty]
  · have some : r.bytes.length > 0 := List.length_pos_iff.mpr empty
    rw [if_pos some, if_neg empty]

end Reader

end Wwan
