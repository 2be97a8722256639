import Wwan.Lib.Endian
import Wwan.Lib.Utf16

/-! Fixed-width fields read from byte strings, with the bounds that are checked at run time. -/

namespace Wwan

variable {ε : Type}

/-- The function `Uint16` of a byte order, which panics on fewer than two bytes. -/
def Utf16.ByteOrder.getUint16 (order : Utf16.ByteOrder) : Bytes → Go ε UInt16
  | first :: second :: _ => .ok (order.uint16 first second)
  | _ => .error .outOfRange

/-- The little-endian function `Uint32`, which panics on fewer than four bytes. -/
def LittleEndian.getUint32 : Bytes → Go ε UInt32
  | a :: b :: c :: d :: _ => .ok (LittleEndian.uint32At [a, b, c, d] 0)
  | _ => .error .outOfRange

/-- The eight bytes `AppendUint64` appends. -/
def LittleEndian.putUint64 (value : UInt64) : Bytes :=
  [UInt8.ofNat value.toNat, UInt8.ofNat (value.toNat / 2 ^ 8), UInt8.ofNat (value.toNat / 2 ^ 16),
   UInt8.ofNat (value.toNat / 2 ^ 24), UInt8.ofNat (value.toNat / 2 ^ 32), UInt8.ofNat (value.toNat / 2 ^ 40),
   UInt8.ofNat (value.toNat / 2 ^ 48), UInt8.ofNat (value.toNat / 2 ^ 56)]

/-- The little-endian function `Uint64`, which panics on fewer than eight bytes. -/
def LittleEndian.getUint64 : Bytes → Go ε UInt64
  | a :: b :: c :: d :: e :: f :: g :: h :: _ => .ok (UInt64.ofNat
      (a.toNat + b.toNat * 2 ^ 8 + c.toNat * 2 ^ 16 + d.toNat * 2 ^ 24 + e.toNat * 2 ^ 32 + f.toNat * 2 ^ 40
        + g.toNat * 2 ^ 48 + h.toNat * 2 ^ 56))
  | _ => .error .outOfRange

/-- The little-endian function `PutUint32` on the four bytes at an offset inside. -/
def LittleEndian.storeUint32 (data : Bytes) (offset : Nat) (value : UInt32) : Bytes :=
  data.take offset ++ (putUint32 value ++ data.drop (offset + 4))

namespace LittleEndian

/-- A stored value reads back. -/
@[simp] theorem getUint64_putUint64 (value : UInt64) : (getUint64 (putUint64 value) : Go ε UInt64) = .ok value := by
  have bound := value.toNat_lt
  -- Each byte is a base-256 digit of the value.
  have digits : (UInt8.ofNat value.toNat).toNat + (UInt8.ofNat (value.toNat / 2 ^ 8)).toNat * 2 ^ 8
      + (UInt8.ofNat (value.toNat / 2 ^ 16)).toNat * 2 ^ 16 + (UInt8.ofNat (value.toNat / 2 ^ 24)).toNat * 2 ^ 24
      + (UInt8.ofNat (value.toNat / 2 ^ 32)).toNat * 2 ^ 32 + (UInt8.ofNat (value.toNat / 2 ^ 40)).toNat * 2 ^ 40
      + (UInt8.ofNat (value.toNat / 2 ^ 48)).toNat * 2 ^ 48 + (UInt8.ofNat (value.toNat / 2 ^ 56)).toNat * 2 ^ 56
      = value.toNat := by
    simp only [UInt8.toNat_ofNat']
    omega
  exact congrArg Except.ok ((congrArg UInt64.ofNat digits).trans UInt64.ofNat_toNat)

/-- A stored value is four bytes that read back as the value. -/
theorem putUint32_eq (value : UInt32) :
    ∃ a b c d, putUint32 value = [a, b, c, d] ∧ uint32At [a, b, c, d] 0 = value :=
  ⟨_, _, _, _, rfl, uint32At_putUint32 [] value [] rfl⟩

/-- The value of four bytes is stored as these bytes. -/
theorem putUint32_of_bytes (a b c d : UInt8) : putUint32 (uint32At [a, b, c, d] 0) = [a, b, c, d] :=
  putUint32_uint32At (by simp)

/-- Four bytes are read as one value. -/
@[simp] theorem getUint32_cons (a b c d : UInt8) (rest : Bytes) :
    (getUint32 (a :: b :: c :: d :: rest) : Go ε UInt32) = .ok (uint32At [a, b, c, d] 0) := rfl

/-- A value is stored in place of four bytes. -/
theorem storeUint32_append {before window : Bytes} {offset : Nat} (placed : before.length = offset)
    (size : window.length = 4) (after : Bytes) (value : UInt32) :
    storeUint32 (before ++ (window ++ after)) offset value = before ++ (putUint32 value ++ after) := by
  subst placed
  have front : (before ++ (window ++ after)).take before.length = before := List.take_left
  have back : (before ++ (window ++ after)).drop (before.length + 4) = after := by
    rw [← size, ← List.drop_drop, List.drop_left, List.drop_left]
  rw [storeUint32, front, back]

end LittleEndian

/-- Two bytes are read as one value. -/
@[simp] theorem Utf16.ByteOrder.getUint16_cons (order : Utf16.ByteOrder) (first second : UInt8) (rest : Bytes) :
    (order.getUint16 (first :: second :: rest) : Go ε UInt16) = .ok (order.uint16 first second) := rfl

/-- A stored value reads back, whatever follows. -/
@[simp] theorem LittleEndian.getUint32_putUint32 (value : UInt32) (rest : Bytes) :
    (getUint32 (putUint32 value ++ rest) : Go ε UInt32) = .ok value := by
  obtain ⟨a, b, c, d, stored, read⟩ := putUint32_eq value
  rw [stored, List.cons_append, List.cons_append, List.cons_append, List.cons_append, getUint32_cons, read]

/-- Four bytes are read as the value that is stored as them. -/
theorem LittleEndian.ensures_getUint32 {window : Bytes} (size : window.length = 4) :
    (getUint32 window : Go ε UInt32).Ensures fun value => putUint32 value = window := by
  obtain ⟨a, b, c, d, rfl⟩ : ∃ a b c d, window = [a, b, c, d] := by
    rcases window with _ | ⟨a, _ | ⟨b, _ | ⟨c, _ | ⟨d, _ | ⟨e, rest⟩⟩⟩⟩⟩ <;> simp at size
    exact ⟨a, b, c, d, rfl⟩
  exact Go.ensures_ok (putUint32_of_bytes a b c d)

/-- A stored value reads back, whatever follows. -/
@[simp] theorem Utf16.ByteOrder.getUint16_putUint16 (order : Utf16.ByteOrder) (value : UInt16) (rest : Bytes) :
    (order.getUint16 (order.putUint16 value ++ rest) : Go ε UInt16) = .ok value := by
  obtain ⟨first, second, stored, read⟩ := putUint16_eq order value
  rw [stored, List.cons_append, List.cons_append, getUint16_cons, read]

/-- A stored value takes two bytes. -/
@[simp] theorem Utf16.ByteOrder.putUint16_length (order : Utf16.ByteOrder) (value : UInt16) :
    (order.putUint16 value).length = 2 := by
  obtain ⟨first, second, stored, -⟩ := putUint16_eq order value
  rw [stored]
  rfl

/-- Two bytes are read as the value that is stored as them. -/
theorem Utf16.ByteOrder.ensures_getUint16 (order : Utf16.ByteOrder) {window : Bytes} (size : window.length = 2) :
    (order.getUint16 window : Go ε UInt16).Ensures fun value => order.putUint16 value = window := by
  obtain ⟨first, second, rfl⟩ := List.length_eq_two.mp size
  exact Go.ensures_ok (putUint16_uint16 order first second)

/-- A byte string that is long enough has a byte in front. -/
theorem exists_cons_of_le_length {data : Bytes} {n : Nat} (long : n + 1 ≤ data.length) :
    ∃ first rest, data = first :: rest ∧ n ≤ rest.length := by
  cases data with
  | nil => simp at long
  | cons first rest => exact ⟨first, rest, rfl, by simpa using long⟩

/-- A byte string of a length above zero has a byte in front of the others. -/
theorem exists_cons_of_length {data : Bytes} {n : Nat} (size : data.length = n + 1) :
    ∃ first rest, data = first :: rest ∧ rest.length = n := by
  cases data with
  | nil => simp at size
  | cons first rest => exact ⟨first, rest, rfl, by simpa using size⟩

/-! Fields of either byte order. -/

namespace Utf16.ByteOrder

variable (order : Utf16.ByteOrder)

/-- The value `Uint32` reads from four bytes. -/
def uint32 (a b c d : UInt8) : UInt32 :=
  match order with
  | .littleEndian => LittleEndian.uint32At [a, b, c, d] 0
  | .bigEndian => LittleEndian.uint32At [d, c, b, a] 0

/-- The four bytes `PutUint32` stores. -/
def putUint32 (value : UInt32) : Bytes :=
  match order with
  | .littleEndian => LittleEndian.putUint32 value
  | .bigEndian => (LittleEndian.putUint32 value).reverse

/-- The function `Uint32` of a byte order, which panics on fewer than four bytes. -/
def getUint32 : Bytes → Go ε UInt32
  | a :: b :: c :: d :: _ => .ok (order.uint32 a b c d)
  | _ => .error .outOfRange

/-- The value of two bytes at an offset inside. -/
def uint16At (data : Bytes) (offset : Nat) : UInt16 := order.uint16 (data.getD offset 0) (data.getD (offset + 1) 0)

/-- The value of four bytes at an offset inside. -/
def uint32At (data : Bytes) (offset : Nat) : UInt32 :=
  order.uint32 (data.getD offset 0) (data.getD (offset + 1) 0) (data.getD (offset + 2) 0) (data.getD (offset + 3) 0)

/-- A stored value takes four bytes, which read back. -/
theorem putUint32_eq (value : UInt32) :
    ∃ a b c d, order.putUint32 value = [a, b, c, d] ∧ order.uint32 a b c d = value := by
  obtain ⟨a, b, c, d, stored, read⟩ := LittleEndian.putUint32_eq value
  cases order with
  | littleEndian => exact ⟨a, b, c, d, stored, read⟩
  | bigEndian => exact ⟨d, c, b, a, by rw [putUint32, stored]; rfl, read⟩

/-- A stored value takes four bytes. -/
@[simp] theorem putUint32_length (value : UInt32) : (order.putUint32 value).length = 4 := by
  obtain ⟨a, b, c, d, stored, -⟩ := order.putUint32_eq value
  rw [stored]
  rfl

/-- A stored value is the value at its place. -/
theorem uint32At_putUint32 (before : Bytes) (value : UInt32) (after : Bytes) :
    order.uint32At (before ++ (order.putUint32 value ++ after)) before.length = value := by
  obtain ⟨a, b, c, d, stored, read⟩ := order.putUint32_eq value
  simp [uint32At, stored, List.getD_eq_getElem?_getD, read]

/-- A byte inside stands in front of those behind it. -/
theorem drop_eq_getD_cons {data : Bytes} {offset : Nat} (inside : offset < data.length) :
    data.drop offset = data.getD offset 0 :: data.drop (offset + 1) := by
  rw [List.drop_eq_getElem_cons inside, List.getD_eq_getElem?_getD, List.getElem?_eq_getElem inside, Option.getD_some]

/-- What follows a read of two bytes inside starts with their value. -/
theorem slice_getUint16_bind {α : Type} {data : Bytes} {offset : Nat} (inside : offset + 2 ≤ data.length)
    (next : UInt16 → Go ε α) :
    (Go.slice data offset (offset + 2) >>= fun window => order.getUint16 window >>= next)
      = next (order.uint16At data offset) := by
  rw [Go.slice_eq_ok (by omega) inside, Go.ok_bind, Nat.add_sub_cancel_left, drop_eq_getD_cons (by omega),
    drop_eq_getD_cons (by omega)]
  rfl

/-- What follows a read of four bytes inside starts with their value. -/
theorem slice_getUint32_bind {α : Type} {data : Bytes} {offset : Nat} (inside : offset + 4 ≤ data.length)
    (next : UInt32 → Go ε α) :
    (Go.slice data offset (offset + 4) >>= fun window => order.getUint32 window >>= next)
      = next (order.uint32At data offset) := by
  rw [Go.slice_eq_ok (by omega) inside, Go.ok_bind, Nat.add_sub_cancel_left, drop_eq_getD_cons (by omega),
    drop_eq_getD_cons (by omega), drop_eq_getD_cons (by omega), drop_eq_getD_cons (by omega)]
  rfl

/-- Bytes in front of others are read at the same place. -/
theorem uint32At_append_left {front : Bytes} {offset : Nat} (inside : offset + 4 ≤ front.length) (rest : Bytes) :
    order.uint32At (front ++ rest) offset = order.uint32At front offset := by
  have entry (i : Nat) (small : i < front.length) : (front ++ rest).getD i 0 = front.getD i 0 := by
    simp [List.getD_eq_getElem?_getD, List.getElem?_append_left small]
  simp only [uint32At]
  rw [entry _ (by omega), entry _ (by omega), entry _ (by omega), entry _ (by omega)]

/-- Bytes in front of others are read at the same place. -/
theorem uint16At_append_left {front : Bytes} {offset : Nat} (inside : offset + 2 ≤ front.length) (rest : Bytes) :
    order.uint16At (front ++ rest) offset = order.uint16At front offset := by
  have entry (i : Nat) (small : i < front.length) : (front ++ rest).getD i 0 = front.getD i 0 := by
    simp [List.getD_eq_getElem?_getD, List.getElem?_append_left small]
  simp only [uint16At]
  rw [entry _ (by omega), entry _ (by omega)]

end Utf16.ByteOrder

end Wwan
