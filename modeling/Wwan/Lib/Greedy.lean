import Mathlib.Data.List.Basic
import Mathlib.Data.List.Induction
import Mathlib.Algebra.BigOperators.Group.List.Basic
import Mathlib.Algebra.Order.BigOperators.Group.List
import Mathlib.Algebra.Ring.Nat

/-! Dividing a sequence of weighted items into consecutive groups of bounded weight. -/

namespace Wwan.Greedy

variable {α : Type} (weight : α → Nat) (capacity : Nat)

/-- The weight of a group of items. -/
def total (group : List α) : Nat := (group.map weight).sum

/-- The items can be divided into at most `count` consecutive groups within capacity. -/
def Divides (count : Nat) (items : List α) : Prop :=
  ∃ groups : List (List α), groups.flatten = items ∧ groups.length ≤ count ∧
    ∀ group ∈ groups, total weight group ≤ capacity

/-- Each group is nonempty, within capacity, and too full for the first item of the next one. -/
def IsGreedy : List (List α) → Prop
  | [] => True
  | [group] => group ≠ [] ∧ total weight group ≤ capacity
  | group :: next :: rest =>
    group ≠ [] ∧ total weight group ≤ capacity ∧
      (∀ item ∈ next.head?, capacity < total weight group + weight item) ∧
      IsGreedy (next :: rest)

/-- The empty group weighs nothing. -/
@[simp] theorem total_nil : total weight [] = 0 := rfl

/-- Weights of concatenated groups add up. -/
@[simp] theorem total_append (xs ys : List α) :
    total weight (xs ++ ys) = total weight xs + total weight ys := by
  simp [total]

/-- One item weighs its own weight. -/
@[simp] theorem total_singleton (item : α) : total weight [item] = weight item := by
  simp [total]

/-- A prefix weighs no more than the whole. -/
theorem total_le_of_prefix {xs ys : List α} (isPrefix : xs <+: ys) :
    total weight xs ≤ total weight ys := by
  obtain ⟨rest, rfl⟩ := isPrefix
  simp

/-- Every sequence starts with a group that no further item fits into. -/
theorem exists_full_prefix (items : List α) : ∃ group rest, items = group ++ rest ∧
    total weight group ≤ capacity ∧
      ∀ item ∈ rest.head?, capacity < total weight group + weight item := by
  -- Induction on the items from the end, which the last item may join.
  induction items using List.reverseRecOn with
  | nil => exact ⟨[], [], rfl, by simp, by simp⟩
  | append_singleton items last ih =>
    obtain ⟨group, rest, rfl, fits, full⟩ := ih
    cases rest with
    -- The group is full already.
    | cons next rest => exact ⟨group, next :: rest ++ [last], by simp, fits, by simpa using full⟩
    | nil =>
      by_cases more : total weight group + weight last ≤ capacity
      · -- The last item still fits.
        exact ⟨group ++ [last], [], by simp, by simpa using more, by simp⟩
      · -- The last item does not fit.
        exact ⟨group, [last], by simp, fits, by simpa using more⟩

variable {weight capacity}

/-- Every greedy group is within capacity. -/
theorem IsGreedy.within {groups : List (List α)} (greedy : IsGreedy weight capacity groups) :
    ∀ group ∈ groups, group ≠ [] ∧ total weight group ≤ capacity := by
  induction groups with
  | nil => simp
  | cons group rest ih =>
    -- Only the last group has nothing behind it.
    cases rest with
    | nil => simpa [IsGreedy] using greedy
    | cons next rest =>
      obtain ⟨nonempty, within, -, tail⟩ := greedy
      intro other member
      rcases List.mem_cons.mp member with rfl | member
      · exact ⟨nonempty, within⟩
      · exact ih tail other member

/-- A full group in front of a greedy division keeps it greedy. -/
theorem IsGreedy.cons {group : List α} {groups : List (List α)} (nonempty : group ≠ [])
    (fits : total weight group ≤ capacity) (greedy : IsGreedy weight capacity groups)
    (full : ∀ item ∈ groups.flatten.head?, capacity < total weight group + weight item) :
    IsGreedy weight capacity (group :: groups) := by
  cases groups with
  | nil => exact ⟨nonempty, fits⟩
  | cons next rest =>
    refine ⟨nonempty, fits, ?_, greedy⟩
    -- The next group is nonempty, so the division's first item is its first item.
    obtain ⟨item, items, rfl⟩ := List.exists_cons_of_ne_nil (greedy.within next (by simp)).1
    simpa using full

/-- Items that all weigh something are no more than they weigh. -/
theorem length_le_total {items : List α} (positive : ∀ item ∈ items, 1 ≤ weight item) :
    items.length ≤ total weight items := by
  induction items with
  | nil => simp
  | cons item items ih =>
    have first := positive item (by simp)
    have rest := ih fun other member => positive other (by simp [member])
    rw [← List.singleton_append, total_append, total_singleton, List.length_append,
      List.length_singleton]
    omega

/-- A division bounds the weight of what it divides. -/
theorem Divides.total_le {count : Nat} {items : List α} (divides : Divides weight capacity count items) :
    total weight items ≤ count * capacity := by
  -- Each of the groups weighs no more than the capacity.
  obtain ⟨groups, rfl, short, within⟩ := divides
  have bound : total weight groups.flatten ≤ groups.length * capacity := by
    clear short
    induction groups with
    | nil => simp
    | cons group groups ih =>
      have first := within group (by simp)
      have rest := ih fun other member => within other (by simp [member])
      rw [List.flatten_cons, total_append, List.length_cons, Nat.add_one_mul]
      omega
  exact bound.trans (Nat.mul_le_mul_right capacity short)

/-- A short sequence of items that fit alone can be divided into single items. -/
theorem divides_of_length_le {items : List α} {count : Nat} (short : items.length ≤ count)
    (alone : ∀ item ∈ items, weight item ≤ capacity) : Divides weight capacity count items := by
  refine ⟨items.map fun item => [item], ?_, by simpa using short, ?_⟩
  · rw [← List.flatMap_def]
    exact List.flatMap_singleton' items
  · intro group member
    obtain ⟨item, inside, rfl⟩ := List.mem_map.mp member
    simpa using alone item inside

/--
A greedy division of a suffix never needs more groups than any division of the whole.

The suffix is what lets the first group of each division be removed together.
-/
theorem IsGreedy.length_le_of_suffix {groups others : List (List α)}
    (greedy : IsGreedy weight capacity groups)
    (within : ∀ group ∈ others, total weight group ≤ capacity)
    (suffix : groups.flatten <:+ others.flatten) : groups.length ≤ others.length := by
  induction others generalizing groups with
  | nil =>
    cases groups with
    | nil => simp
    | cons group rest =>
      -- A nonempty first group cannot be a suffix of nothing.
      have nonempty := (greedy.within group (by simp)).1
      simp only [List.flatten_nil, List.suffix_nil, List.flatten_cons, List.append_eq_nil_iff] at suffix
      exact absurd suffix.1 nonempty
  | cons other others ih =>
    cases groups with
    | nil => simp
    | cons group rest =>
      cases rest with
      | nil => simp
      | cons next rest =>
        obtain ⟨nonempty, fits, full, tail⟩ := greedy
        have following := (tail.within next (by simp)).1
        obtain ⟨item, items, rfl⟩ := List.exists_cons_of_ne_nil following
        have tooFull : capacity < total weight group + weight item := full item (by simp)
        have shorter : ((item :: items) :: rest).flatten.length ≤ others.flatten.length := by
          -- Otherwise the other first group would contain this group and the item after it.
          by_contra longer
          obtain ⟨before, whole⟩ := suffix
          have other_prefix : other <+: before ++ group ++ item :: (items ++ rest.flatten) := by
            refine ⟨others.flatten, ?_⟩
            rw [← List.flatten_cons, ← whole]
            simp
          have contains : before ++ group ++ [item] <+: other := by
            have this_prefix : before ++ group ++ [item] <+:
                before ++ group ++ item :: (items ++ rest.flatten) :=
              ⟨items ++ rest.flatten, by simp⟩
            refine List.prefix_of_prefix_length_le this_prefix other_prefix ?_
            have lengths := congrArg List.length whole
            simp only [List.flatten_cons, List.length_append, List.length_cons] at lengths longer ⊢
            simp
            omega
          have heavy := total_le_of_prefix weight contains
          have light := within other (by simp)
          simp only [total_append, total_singleton] at heavy
          omega
        have suffix' : ((item :: items) :: rest).flatten <:+ others.flatten := by
          have mine : ((item :: items) :: rest).flatten <:+ other ++ others.flatten :=
            (List.suffix_append _ _).trans suffix
          exact List.suffix_of_suffix_length_le mine (List.suffix_append _ _) shorter
        have bound := ih tail (fun group member => within group (by simp [member])) suffix'
        simp only [List.length_cons] at bound ⊢
        omega

/-- A greedy division is a shortest one. -/
theorem IsGreedy.length_le_iff {groups : List (List α)} (greedy : IsGreedy weight capacity groups)
    (count : Nat) : groups.length ≤ count ↔ Divides weight capacity count groups.flatten := by
  constructor
  · intro short
    exact ⟨groups, rfl, short, fun group member => (greedy.within group member).2⟩
  · rintro ⟨others, same, short, within⟩
    exact (greedy.length_le_of_suffix within (same ▸ List.suffix_refl _)).trans short

end Wwan.Greedy
