import Wwan.Lib.Go

/-! The tag-length-value items that toolkit commands and responses are made of. -/

namespace Wwan.Sim.Tlv

/-- The errors of the codec. -/
inductive Error where
  /-- `malformed TLV` -/
  | malformed
  /-- `TLV value exceeds 65535 bytes` -/
  | valueTooLarge
  deriving DecidableEq

/-- A tag with its value. -/
structure Item where
  tag : UInt8
  value : Bytes
  deriving DecidableEq

namespace Item

/-- `New` -/
def new (tag : UInt8) (value : Bytes) : Item := { tag, value }

/-- `NewComprehension` -/
def newComprehension (tag : UInt8) (value : Bytes) : Item :=
  let item := new (tag &&& 0x7f) value
  { item with tag := item.tag ||| 0x80 }

/-- The tag without the bit that says comprehension is required. -/
def comprehensionTag (item : Item) : UInt8 := item.tag &&& 0x7f

/-- Whether a terminal that does not understand the item must not go on. -/
def comprehensionRequired (item : Item) : Bool := item.tag &&& 0x80 ≠ 0

end Item

/-- The length field of a value. -/
def marshalLength (length : Nat) : Go Error Bytes :=
  if length < 0x80 then return [UInt8.ofNat length]
  else if length ≤ 0xFF then return [0x81, UInt8.ofNat length]
  else if length ≤ 0xFFFF then return [0x82, UInt8.ofNat (length >>> 8), UInt8.ofNat length]
  else Go.fail .valueTooLarge

/-- `Item.MarshalBinary` -/
def Item.marshalBinary (item : Item) : Go Error Bytes := do
  let length ← marshalLength item.value.length
  return item.tag :: length ++ item.value

/-- `Items.MarshalBinary` -/
def marshalBinary : List Item → Go Error Bytes
  | [] => return []
  | item :: items => do
    let first ← item.marshalBinary
    return first ++ (← marshalBinary items)

/-- `WrapBER` -/
def wrapBER (tag : UInt8) (value : Bytes) : Go Error Bytes := do
  let length ← marshalLength value.length
  return tag :: length ++ value

/-- The length a length field holds, and how long the field is. -/
def decodeLength : Bytes → Except Error (Nat × Nat)
  | [] => .error .malformed
  | first :: rest =>
    if first &&& 0x80 = 0 then .ok (first.toNat, 1)
    else
      let count := (first &&& 0x7F).toNat
      if count = 0 ∨ count > 2 ∨ rest.length < count then .error .malformed
      else
        -- The long form has its most significant byte first.
        .ok ((rest.take count).foldl (fun length b => length <<< 8 ||| b.toNat) 0, 1 + count)

/-- The item that data starts with, and how many bytes it takes. -/
def consume (data : Bytes) : Except Error (Item × Nat) :=
  match data with
  | [] | [_] => .error .malformed
  | tag :: rest =>
    match decodeLength rest with
    | .error err => .error err
    | .ok (length, size) =>
      let offset := 1 + size
      if (data.drop offset).length < length then .error .malformed
      else .ok ({ tag, value := (data.drop offset).take length }, offset + length)

/-- `UnwrapBER` -/
def unwrapBER (data : Bytes) : Except Error (UInt8 × Bytes) :=
  match data with
  | [] | [_] => .error .malformed
  | tag :: rest =>
    match decodeLength rest with
    | .error err => .error err
    | .ok (length, size) =>
      let offset := 1 + size
      if (data.drop offset).length < length then .error .malformed
      -- Nothing may follow the item.
      else if data.length ≠ offset + length then .error .malformed
      else .ok (tag, (data.drop offset).take length)

/-- `Items.Find` -/
def find (items : List Item) (tag : UInt8) : Option Item :=
  items.find? fun item => item.comprehensionTag = tag &&& 0x7f

/-- `Items.All` -/
def all (items : List Item) (tag : UInt8) : List Item :=
  items.filter fun item => item.comprehensionTag = tag &&& 0x7f

/-- Every item takes bytes. -/
theorem consume_pos {data : Bytes} {item : Item} {consumed : Nat}
    (ran : consume data = .ok (item, consumed)) : 0 < consumed := by
  unfold consume at ran
  split at ran
  · exact absurd ran (by simp)
  · exact absurd ran (by simp)
  · split at ran
    · exact absurd ran (by simp)
    · simp only at ran
      split at ran
      · exact absurd ran (by simp)
      · simp only [Except.ok.injEq, Prod.mk.injEq] at ran
        omega

/-! The decoders with every index and slice as Go checks it. -/

namespace InRange

/-- `decodeLength` -/
def decodeLength (data : Bytes) : Go Error (Nat × Nat) := do
  if data.length = 0 then Go.fail .malformed
  else
    let length := (← Go.index data 0).toNat
    -- A short length is its own byte.
    if length &&& 0x80 = 0 then return (length, 1)
    else
      let count := length &&& 0x7F
      -- A long one has one or two bytes.
      if count = 0 ∨ count > 2 ∨ data.length < 1 + count then Go.fail .malformed
      else
        let field ← Go.slice data 1 (1 + count)
        return (field.foldl (fun length b => length <<< 8 ||| b.toNat) 0, 1 + count)

/-- `consume` -/
def consume (data : Bytes) : Go Error (Item × Nat) := do
  if data.length < 2 then Go.fail .malformed
  else
    let field ← decodeLength (← Go.slice data 1 data.length)
    let offset := 1 + field.2
    let value ← Go.slice data offset data.length
    if value.length < field.1 then Go.fail .malformed
    else return ({ tag := ← Go.index data 0, value := ← Go.slice data offset (offset + field.1) }, offset + field.1)

/-- No index of `decodeLength` is out of range. -/
theorem decodeLength_eq (data : Bytes) : decodeLength data = Go.ofExcept (Tlv.decodeLength data) := by
  cases data with
  | nil => rfl
  | cons first rest =>
    have high : first.toNat &&& 0x80 = 0 ↔ first &&& 0x80 = 0 := by
      rw [← UInt8.toNat_inj]
      simp
    have low : (first &&& 0x7F).toNat = first.toNat &&& 0x7F := by simp
    rw [decodeLength, if_neg (by simp), Go.index_eq_ok List.getElem?_cons_zero, Go.ok_bind, Tlv.decodeLength]
    simp only [high, low]
    by_cases short : first &&& 0x80 = 0
    · rw [if_pos short, if_pos short]
      rfl
    · rw [if_neg short, if_neg short]
      by_cases bad : first.toNat &&& 0x7F = 0 ∨ first.toNat &&& 0x7F > 2 ∨ rest.length < first.toNat &&& 0x7F
      · rw [if_pos bad, if_pos (by simp only [List.length_cons]; omega)]
        rfl
      · have inside : 1 + (first.toNat &&& 0x7F) ≤ (first :: rest).length := by
          simp only [List.length_cons]
          omega
        rw [if_neg bad, if_neg (by omega), Go.slice_eq_ok (by omega) inside]
        simp [Go.ofExcept]

/-- A length field is within the data. -/
theorem decodeLength_le {data : Bytes} {length size : Nat} (ran : Tlv.decodeLength data = .ok (length, size)) :
    0 < size ∧ size ≤ data.length := by
  cases data with
  | nil => simp [Tlv.decodeLength] at ran
  | cons first rest =>
    simp only [Tlv.decodeLength] at ran
    split at ran
    · cases ran
      simp
    · split at ran
      · cases ran
      · rename_i good
        simp only [Except.ok.injEq, Prod.mk.injEq] at ran
        simp only [List.length_cons]
        omega

/-- No index of `consume` is out of range. -/
theorem consume_eq (data : Bytes) : consume data = Go.ofExcept (Tlv.consume data) := by
  rcases data with _ | ⟨tag, _ | ⟨next, rest⟩⟩
  · rfl
  · rfl
  · rw [consume, if_neg (by simp), Go.slice_from (by simp), Go.ok_bind, List.drop_one, List.tail_cons, decodeLength_eq]
    simp only [Tlv.consume]
    cases ran : Tlv.decodeLength (next :: rest) with
    | error err => rfl
    | ok field =>
      obtain ⟨length, size⟩ := field
      obtain ⟨-, inside⟩ := decodeLength_le ran
      simp only [List.length_cons] at inside
      simp only [Go.ofExcept, Go.ok_bind]
      rw [Go.slice_from (by simp only [List.length_cons]; omega), Go.ok_bind]
      split
      · rfl
      · rename_i enough
        simp only [List.length_drop, List.length_cons] at enough
        rw [Go.index_eq_ok List.getElem?_cons_zero, Go.slice_eq_ok (by omega) (by simp; omega)]
        simp

/-- `UnwrapBER` -/
def unwrapBER (data : Bytes) : Go Error (UInt8 × Bytes) := do
  if data.length < 2 then Go.fail .malformed
  else
    let field ← decodeLength (← Go.slice data 1 data.length)
    let offset := 1 + field.2
    let value ← Go.slice data offset data.length
    if value.length < field.1 then Go.fail .malformed
    -- Nothing may follow the item.
    else if data.length ≠ offset + field.1 then Go.fail .malformed
    else return (← Go.index data 0, ← Go.slice data offset (offset + field.1))

/-- `Items.UnmarshalBinary` -/
def unmarshalBinary (data : Bytes) : Go Error (List Item) :=
  if data = [] then return []
  else
    match _ran : consume data with
    | .error fault => .error fault
    | .ok (item, consumed) =>
      match _sliced : Go.slice data consumed data.length with
      | .error fault => .error fault
      | .ok rest => do return item :: (← unmarshalBinary rest)
termination_by data.length
decreasing_by
  -- Every item takes bytes, so that fewer are left.
  rw [consume_eq, Go.ofExcept_eq_ok] at _ran
  have taken := consume_pos _ran
  unfold Go.slice at _sliced
  split at _sliced
  · cases _sliced
    simp only [List.length_take, List.length_drop]
    omega
  · cases _sliced

end InRange

end Wwan.Sim.Tlv
