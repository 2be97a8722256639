import Wwan.Lib.GoMap

/-! Reference counts in a Go map, where a key without an entry counts zero. -/

namespace Wwan.GoMap

variable {K : Type} [DecidableEq K]

/-- The count of a key, `m[k]`. -/
def count (m : GoMap K Int) (k : K) : Int := (m.get k).getD 0

/-- The statement `m[k]++`. -/
def incr (m : GoMap K Int) (k : K) : GoMap K Int := m.set k (m.count k + 1)

/-- The statement `m[k]--`, after which an entry of zero is deleted. -/
def decr (m : GoMap K Int) (k : K) : GoMap K Int :=
  let m := m.set k (m.count k - 1)
  if m.count k = 0 then m.delete k else m

/-- Take one from a count above one, and delete any other entry. -/
def drop (m : GoMap K Int) (k : K) : GoMap K Int :=
  if m.count k > 1 then m.set k (m.count k - 1) else m.delete k

/-- The keys with a positive count, in the order the model iterates over the map. -/
def positives (m : GoMap K Int) : List K := (m.entries.filter fun entry => entry.2 > 0).map Prod.fst

/-- Nothing is counted in an empty map. -/
@[simp] theorem count_empty (k : K) : (∅ : GoMap K Int).count k = 0 := by
  simp [count]

/-- Assigning a key changes its count only. -/
theorem count_set (m : GoMap K Int) (k other : K) (n : Int) :
    (m.set k n).count other = if other = k then n else m.count other := by
  unfold count
  rw [get_set]
  split <;> rfl

/-- Deleting a key leaves it without a count. -/
theorem count_delete (m : GoMap K Int) (k other : K) :
    (m.delete k).count other = if other = k then 0 else m.count other := by
  unfold count
  rw [get_delete]
  split <;> rfl

/-- Incrementing a key adds one to its count only. -/
theorem count_incr (m : GoMap K Int) (k other : K) :
    (m.incr k).count other = m.count other + if other = k then 1 else 0 := by
  rw [incr, count_set]
  split
  · rename_i same
    rw [same]
  · omega

/-- Decrementing a key takes one from its count only, whether or not the entry is deleted. -/
theorem count_decr (m : GoMap K Int) (k other : K) :
    (m.decr k).count other = m.count other - if other = k then 1 else 0 := by
  have own : (m.set k (m.count k - 1)).count k = m.count k - 1 := by simp [count_set]
  unfold decr
  dsimp only
  rw [own]
  by_cases same : other = k
  · -- The key itself is counted once less, and a count of zero is no entry.
    subst same
    split
    · rename_i zero
      simp [count_delete, zero]
    · simp [count_set]
  · -- Another key keeps its count.
    split
    · simp [count_delete, count_set, same]
    · simp [count_set, same]

/-- Dropping a counted key takes one from its count only. -/
theorem count_drop (m : GoMap K Int) {k : K} (counted : 0 < m.count k) (other : K) :
    (m.drop k).count other = m.count other - if other = k then 1 else 0 := by
  unfold drop
  by_cases same : other = k
  · -- The key itself loses one, or its last one.
    subst same
    split
    · simp [count_set]
    · rw [count_delete]
      simp
      omega
  · -- Another key keeps its count.
    split
    · simp [count_set, same]
    · simp [count_delete, same]

/-- Incrementing distinct keys adds one to the count of each. -/
theorem count_foldl_incr (m : GoMap K Int) {keys : List K} (distinct : keys.Nodup) (k : K) :
    (keys.foldl incr m).count k = m.count k + if k ∈ keys then 1 else 0 := by
  induction keys generalizing m with
  | nil => simp
  | cons first keys ih =>
    obtain ⟨fresh, rest⟩ := List.nodup_cons.mp distinct
    rw [List.foldl_cons, ih _ rest, count_incr]
    -- The first key does not come again.
    by_cases same : k = first
    · subst same
      simp [fresh]
    · simp [same]

/-- Decrementing distinct keys takes one from the count of each. -/
theorem count_foldl_decr (m : GoMap K Int) {keys : List K} (distinct : keys.Nodup) (k : K) :
    (keys.foldl decr m).count k = m.count k - if k ∈ keys then 1 else 0 := by
  -- The first key is not among the others.
  induction keys generalizing m with
  | nil => simp
  | cons first keys ih =>
    obtain ⟨fresh, rest⟩ := List.nodup_cons.mp distinct
    rw [List.foldl_cons, ih _ rest, count_decr]
    by_cases same : k = first
    · subst same
      simp [fresh]
    · simp [same]

/-- Dropping distinct counted keys takes one from the count of each. -/
theorem count_foldl_drop (m : GoMap K Int) {keys : List K} (distinct : keys.Nodup)
    (counted : ∀ k ∈ keys, 0 < m.count k) (k : K) :
    (keys.foldl drop m).count k = m.count k - if k ∈ keys then 1 else 0 := by
  induction keys generalizing m with
  | nil => simp
  | cons first keys ih =>
    obtain ⟨fresh, rest⟩ := List.nodup_cons.mp distinct
    have firstCounted := counted first (by simp)
    -- The other keys are still counted, since the first one is none of them.
    have still : ∀ k ∈ keys, 0 < (m.drop first).count k := by
      intro k member
      have different : k ≠ first := fun same => fresh (same ▸ member)
      rw [m.count_drop firstCounted, if_neg different]
      have := counted k (by simp [member])
      omega
    rw [List.foldl_cons, ih _ rest still, m.count_drop firstCounted]
    by_cases same : k = first
    · subst same
      simp [fresh]
    · simp [same]

/-- The keys with a positive count are those that are counted at all. -/
theorem mem_positives (m : GoMap K Int) (k : K) : k ∈ m.positives ↔ 0 < m.count k := by
  simp only [positives, List.mem_map, List.mem_filter, Prod.exists, exists_and_right, exists_eq_right,
    mem_entries_iff, count, decide_eq_true_eq]
  cases found : m.get k with
  | none => simp
  | some n => simp

end Wwan.GoMap
