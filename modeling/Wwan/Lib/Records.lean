import Wwan.Lib.Go

/-! Records of one size that stand one after the other, as many as a count says. -/

namespace Wwan.Records

variable {ε α : Type}

/-- Read records from an offset on. -/
def read (decodeAt : Bytes → Nat → Go ε α) (size : Nat) (data : Bytes) : Nat → Nat → Go ε (List α)
  | 0, _ => .ok []
  | count + 1, offset => do
    let record ← decodeAt data offset
    let records ← read decodeAt size data count (offset + size)
    return record :: records

/-- The records of a size, where they are read and how they are written. -/
structure Exact (encode : α → Bytes) (size : Nat) (decodeAt : Bytes → Nat → Go ε α) : Prop where
  /-- Every record takes the size. -/
  length : ∀ x, (encode x).length = size
  /-- A record is read back from where it stands. -/
  roundTrip : ∀ front x rest, decodeAt (front ++ (encode x ++ rest)) front.length = .ok x
  /-- What is read inside the data is written as the bytes there. -/
  canonical : ∀ data offset, offset + size ≤ data.length →
    (decodeAt data offset).Ensures fun x => encode x = (data.drop offset).take size

section

variable {encode : α → Bytes} {size : Nat} {decodeAt : Bytes → Nat → Go ε α}

/-- Records take their size each. -/
theorem Exact.length_flatMap (law : Exact encode size decodeAt) (xs : List α) :
    (xs.flatMap encode).length = xs.length * size := by
  induction xs with
  | nil => simp
  | cons x xs ih =>
    rw [List.flatMap_cons, List.length_append, law.length, ih, List.length_cons, Nat.succ_mul, Nat.add_comm]

/-- Written records are read back. -/
theorem Exact.read_flatMap (law : Exact encode size decodeAt) (front : Bytes) (xs : List α) (rest : Bytes) :
    read decodeAt size (front ++ (xs.flatMap encode ++ rest)) xs.length front.length = .ok xs := by
  -- What has been read joins the front, so the front stays quantified over.
  induction xs generalizing front with
  | nil => rfl
  | cons x xs ih =>
    have next := ih (front ++ encode x)
    rw [List.length_append, law.length, List.append_assoc, ← List.append_assoc (encode x)] at next
    rw [List.length_cons, read, List.flatMap_cons]
    rw [List.append_assoc (encode x), law.roundTrip front x, Go.ok_bind, ← List.append_assoc (encode x), next, Go.ok_bind]
    rfl

/-- Records inside the data are written as the bytes they are read from. -/
theorem Exact.ensures_read (law : Exact encode size decodeAt) {data : Bytes} {count offset : Nat}
    (inside : offset + count * size ≤ data.length) : (read decodeAt size data count offset).Ensures fun xs =>
      xs.length = count ∧ xs.flatMap encode = (data.drop offset).take (count * size) := by
  induction count generalizing offset with
  | zero => exact Go.ensures_ok ⟨rfl, by simp⟩
  | succ count ih =>
    rw [Nat.succ_mul] at inside ⊢
    -- The first record is written as its bytes, and so are the others behind it.
    refine (law.canonical data offset (by omega)).bind fun x first => ?_
    refine (ih (by omega)).bind fun xs others => ?_
    obtain ⟨counted, written⟩ := others
    refine Go.ensures_ok ⟨by rw [List.length_cons, counted], ?_⟩
    rw [List.flatMap_cons, first, written, Nat.add_comm (count * size), List.take_add, List.drop_drop]

/-- A record of two parts is read and written part by part. -/
theorem Exact.pair {β γ : Type} {encode' : β → Bytes} {size' : Nat} {decodeAt' : Bytes → Nat → Go ε β}
    {first : γ → α} {second : γ → β} (make : α → β → γ) (law : Exact encode size decodeAt) (law' : Exact encode' size' decodeAt')
    (made : ∀ x, make (first x) (second x) = x) (parts : ∀ a b, first (make a b) = a ∧ second (make a b) = b) :
    Exact (fun x => encode (first x) ++ encode' (second x)) (size + size') (fun data offset => do
      let a ← decodeAt data offset
      let b ← decodeAt' data (offset + size)
      return make a b) where
  length := by
    intro x
    rw [List.length_append, law.length, law'.length]
  roundTrip := by
    intro front x rest
    -- The second part is read behind the first.
    have left := law.roundTrip front (first x) (encode' (second x) ++ rest)
    have right := law'.roundTrip (front ++ encode (first x)) (second x) rest
    rw [List.length_append, law.length, List.append_assoc] at right
    rw [List.append_assoc (encode (first x)), left, Go.ok_bind, right, Go.ok_bind, made]
    rfl
  canonical := by
    intro data offset inside
    refine (law.canonical data offset (by omega)).bind fun a left => ?_
    refine (law'.canonical data (offset + size) (by omega)).bind fun b right => ?_
    apply Go.ensures_ok
    rw [(parts a b).1, (parts a b).2, left, right, List.take_add, List.drop_drop]

end

end Wwan.Records
