import Mathlib.Data.List.Basic

/-! Lists that are sorted and have each element once. -/

namespace Wwan.SortedSet

variable {α : Type} [DecidableEq α]

/-- `slices.Compact`: of equal elements that stand together, one is kept. -/
def compact : List α → List α
  | one :: other :: rest => if one = other then compact (other :: rest) else one :: compact (other :: rest)
  | [one] => [one]
  | [] => []

/-- Sort the elements and keep one of each. -/
def normalize (le : α → α → Bool) (elements : List α) : List α := compact (elements.mergeSort le)

/-- Compacting keeps the elements. -/
theorem mem_compact {elements : List α} {x : α} : x ∈ compact elements ↔ x ∈ elements := by
  fun_induction compact elements with
  | case1 one rest ih => simpa using ih
  | case2 one other rest different ih => simp [ih]
  | case3 one => rfl
  | case4 => rfl

/-- In a sorted list, equal elements stand together. -/
theorem pairwise_compact {le : α → α → Bool} (antisymm : ∀ a b, le a b → le b a → a = b) {elements : List α}
    (sorted : elements.Pairwise fun a b => le a b) : (compact elements).Pairwise fun a b => le a b ∧ a ≠ b := by
  fun_induction compact elements with
  | case1 one rest ih => exact ih (List.pairwise_cons.mp sorted).2
  | case2 one other rest different ih =>
    obtain ⟨below, sorted⟩ := List.pairwise_cons.mp sorted
    refine List.pairwise_cons.mpr ⟨fun x member => ⟨below x (mem_compact.mp member), ?_⟩, ih sorted⟩
    -- An element that stands further on and is equal would be between the two.
    rintro rfl
    rcases List.mem_cons.mp (mem_compact.mp member) with same | later
    · exact different same
    · have above := (List.pairwise_cons.mp sorted).1 one later
      exact different (antisymm one other (below other (by simp)) above)
  | case3 one => simp
  | case4 => exact .nil

/-- Normalising keeps the elements. -/
theorem mem_normalize {le : α → α → Bool} {elements : List α} {x : α} : x ∈ normalize le elements ↔ x ∈ elements := by
  rw [normalize, mem_compact, List.mem_mergeSort]

/-- Normalising sorts the elements, without one twice. -/
theorem pairwise_normalize {le : α → α → Bool} (trans : ∀ a b c, le a b → le b c → le a c)
    (total : ∀ a b, le a b || le b a) (antisymm : ∀ a b, le a b → le b a → a = b) (elements : List α) :
    (normalize le elements).Pairwise fun a b => le a b ∧ a ≠ b :=
  pairwise_compact antisymm (List.pairwise_mergeSort trans total elements)

end Wwan.SortedSet
