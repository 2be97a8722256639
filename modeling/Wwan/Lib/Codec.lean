import Wwan.Lib.Go

/-! What a pair of an encoder and a decoder owes its users. -/

namespace Wwan.Codec

variable {ε α : Type}

/-- Valid values survive their encoding, and what is decoded is exactly what is well formed, in its only encoding. -/
structure Exact (marshal : α → Go ε Bytes) (unmarshal : Bytes → Go ε α) (Valid : α → Prop)
    (WellFormed : Bytes → Prop) : Prop where
  /-- A valid value has an encoding, which is decoded to the value. -/
  roundTrip : ∀ x, Valid x → ∃ data, marshal x = .ok data ∧ unmarshal data = .ok x
  /-- The decoder accepts exactly the well-formed byte strings. -/
  accepts : ∀ data, (∃ x, unmarshal data = .ok x) ↔ WellFormed data
  /-- It refuses the others with an error. -/
  inRange : ∀ data, unmarshal data ≠ .error .outOfRange
  /-- An accepted byte string is the encoding of its value. -/
  canonical : ∀ data x, unmarshal data = .ok x → marshal x = .ok data

end Wwan.Codec
