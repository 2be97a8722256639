import Wwan.Lib.Go

/-! Little-endian thirty-two-bit fields of byte strings. -/

namespace Wwan.LittleEndian

/-- The four bytes `PutUint32` stores. -/
def putUint32 (value : UInt32) : Bytes :=
  [UInt8.ofNat value.toNat, UInt8.ofNat (value.toNat / 2 ^ 8), UInt8.ofNat (value.toNat / 2 ^ 16),
   UInt8.ofNat (value.toNat / 2 ^ 24)]

/-- The value `Uint32` reads at an offset, which the callers have checked to lie inside. -/
def uint32At (data : Bytes) (offset : Nat) : UInt32 :=
  UInt32.ofNat ((data.getD offset 0).toNat + (data.getD (offset + 1) 0).toNat * 2 ^ 8 +
    (data.getD (offset + 2) 0).toNat * 2 ^ 16 + (data.getD (offset + 3) 0).toNat * 2 ^ 24)

/-- A stored value takes four bytes. -/
@[simp] theorem putUint32_length (value : UInt32) : (putUint32 value).length = 4 := rfl

/-- A stored value reads back. -/
theorem uint32At_putUint32 (before : Bytes) (value : UInt32) (after : Bytes) {offset : Nat}
    (placed : before.length = offset) : uint32At (before ++ (putUint32 value ++ after)) offset = value := by
  subst placed
  have bound := value.toNat_lt
  -- Each byte is a base-256 digit of the value.
  have digits : (UInt8.ofNat value.toNat).toNat + (UInt8.ofNat (value.toNat / 2 ^ 8)).toNat * 2 ^ 8 +
      (UInt8.ofNat (value.toNat / 2 ^ 16)).toNat * 2 ^ 16 +
      (UInt8.ofNat (value.toNat / 2 ^ 24)).toNat * 2 ^ 24 = value.toNat := by
    simp only [UInt8.toNat_ofNat']
    omega
  have entry (i : Nat) (inside : i < 4) :
      (before ++ (putUint32 value ++ after)).getD (before.length + i) 0 = (putUint32 value).getD i 0 := by
    rw [List.getD_eq_getElem?_getD, List.getElem?_append_right (by omega), Nat.add_sub_cancel_left,
      List.getElem?_append_left (by simpa using inside), List.getD_eq_getElem?_getD]
  have first := entry 0 (by decide)
  rw [Nat.add_zero] at first
  rw [uint32At, first, entry 1 (by decide), entry 2 (by decide), entry 3 (by decide)]
  exact (congrArg UInt32.ofNat digits).trans UInt32.ofNat_toNat

/-- The bytes of a field are what storing its value gives. -/
theorem putUint32_uint32At {data : Bytes} {offset : Nat} (inside : offset + 4 ≤ data.length) :
    putUint32 (uint32At data offset) = (data.drop offset).take 4 := by
  obtain ⟨a, b, c, d, rest, split⟩ : ∃ a b c d rest, data.drop offset = a :: b :: c :: d :: rest := by
    match dropped : data.drop offset with
    | a :: b :: c :: d :: rest => exact ⟨a, b, c, d, rest, rfl⟩
    | [] | [_] | [_, _] | [_, _, _] =>
      have := congrArg List.length dropped
      simp at this
      omega
  have entry (i : Nat) : data.getD (offset + i) 0 = (a :: b :: c :: d :: rest).getD i 0 := by
    rw [← split]
    simp [List.getD_eq_getElem?_getD]
  have read : uint32At data offset =
      UInt32.ofNat (a.toNat + b.toNat * 2 ^ 8 + c.toNat * 2 ^ 16 + d.toNat * 2 ^ 24) := by
    have first := entry 0
    rw [Nat.add_zero] at first
    simp only [uint32At, entry, first]
    rfl
  have ha := a.toNat_lt
  have hb := b.toNat_lt
  have hc := c.toNat_lt
  have hd := d.toNat_lt
  have value : (uint32At data offset).toNat =
      a.toNat + b.toNat * 2 ^ 8 + c.toNat * 2 ^ 16 + d.toNat * 2 ^ 24 := by
    rw [read]
    exact UInt32.toNat_ofNat_of_lt' (by simp [UInt32.size]; omega)
  rw [split, putUint32, value]
  simp only [List.take_succ_cons, List.take_zero, List.cons.injEq, and_true]
  refine ⟨?_, ?_, ?_, ?_⟩ <;> apply UInt8.toNat_inj.mp <;> simp only [UInt8.toNat_ofNat'] <;> omega

end Wwan.LittleEndian
