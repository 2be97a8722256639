import Mathlib.Data.List.Basic

/-! Stretches of a buffer that follow one another, with room between them that rounding leaves. -/

namespace Wwan

/-- A stretch of a buffer. -/
structure Span where
  offset : Nat
  size : Nat
  deriving DecidableEq

/-- Stretches that start where the one before ends, with the ends rounded. -/
def Tiles (round : Nat → Nat) : Nat → List Span → Nat → Prop
  | start, [], stop => start = stop
  | start, span :: spans, stop => span.offset = start ∧ Tiles round (round (start + span.size)) spans stop

namespace Tiles

variable {round : Nat → Nat} {start stop : Nat} {spans : List Span}

/-- Stretches end behind their start. -/
theorem le (up : ∀ n, n ≤ round n) (tiles : Tiles round start spans stop) : start ≤ stop := by
  induction spans generalizing start with
  | nil => exact Nat.le_of_eq tiles
  | cons span spans ih =>
    have later := ih tiles.2
    have rounded := up (start + span.size)
    omega

/-- Every stretch lies between the start and the end. -/
theorem inside (up : ∀ n, n ≤ round n) (tiles : Tiles round start spans stop) :
    ∀ span ∈ spans, start ≤ span.offset ∧ round (span.offset + span.size) ≤ stop := by
  induction spans generalizing start with
  | nil => simp
  | cons first spans ih =>
    obtain ⟨rfl, others⟩ := tiles
    rw [List.forall_mem_cons]
    refine ⟨⟨Nat.le_refl _, others.le up⟩, fun span member => ?_⟩
    -- The others start behind the first.
    obtain ⟨behind, before⟩ := ih others span member
    have rounded := up (first.offset + first.size)
    exact ⟨by omega, before⟩

/-- No stretch overlaps with a later one or stands behind it. -/
theorem pairwise (up : ∀ n, n ≤ round n) (tiles : Tiles round start spans stop) :
    spans.Pairwise fun a b => a.offset + a.size ≤ b.offset := by
  induction spans generalizing start with
  | nil => exact .nil
  | cons first spans ih =>
    obtain ⟨rfl, others⟩ := tiles
    refine .cons (fun later member => ?_) (ih others)
    have behind := (others.inside up later member).1
    have rounded := up (first.offset + first.size)
    omega

end Tiles

end Wwan
