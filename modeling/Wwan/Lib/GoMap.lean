import Mathlib.Data.List.AList

/-! Go maps as association lists without duplicate keys. -/

namespace Wwan

/-- A Go map, with a nil map and an empty one not told apart. -/
def GoMap (K V : Type) := AList fun _ : K => V

namespace GoMap

variable {K V : Type}

instance : EmptyCollection (GoMap K V) := inferInstanceAs (EmptyCollection (AList _))

/-- The keys of the map, in the order the model iterates over it. -/
def keys (m : GoMap K V) : List K := AList.keys m

/-- The entries of the map, in the order the model iterates over it. -/
def entries (m : GoMap K V) : List (K × V) := (AList.entries m).map fun entry => (entry.1, entry.2)

/-- The number of entries, `len(m)`. -/
def len (m : GoMap K V) : Nat := m.keys.length

/-- No key occurs twice. -/
theorem keys_nodup (m : GoMap K V) : m.keys.Nodup := AList.keys_nodup m

/-- The keys are the first components of the entries. -/
theorem map_fst_entries (m : GoMap K V) : m.entries.map Prod.fst = m.keys := by
  simp [entries, keys, AList.keys, List.keys]

/-- The keys of a key-preserving selection are among the keys. -/
private theorem keys_filterMap_sublist (f : K → V → Option V) (l : List (Sigma fun _ : K => V)) :
    List.Sublist (l.filterMap fun entry =>
      (f entry.1 entry.2).map fun v => (⟨entry.1, v⟩ : Sigma fun _ : K => V)).keys l.keys := by
  induction l with
  | nil => exact List.Sublist.refl _
  | cons entry rest ih =>
    cases kept : f entry.1 entry.2 with
    | none => simpa [kept, List.keys] using ih.cons entry.1
    | some v => simpa [kept, List.keys] using ih.cons_cons entry.1

/-- The map with every value changed by `f`, and the entries without a new value deleted. -/
def filterMap (f : K → V → Option V) (m : GoMap K V) : GoMap K V :=
  ⟨(AList.entries m).filterMap fun entry => (f entry.1 entry.2).map fun v => ⟨entry.1, v⟩,
    List.Nodup.sublist (keys_filterMap_sublist f _) (AList.nodupKeys m)⟩

variable [DecidableEq K]

/-- The comma-ok form `v, ok := m[k]`. -/
def get (m : GoMap K V) (k : K) : Option V := AList.lookup k m

/-- The assignment `m[k] = v`. -/
def set (m : GoMap K V) (k : K) (v : V) : GoMap K V := AList.insert k v m

/-- The statement `delete(m, k)`. -/
def delete (m : GoMap K V) (k : K) : GoMap K V := AList.erase k m

/-- An empty map holds nothing. -/
@[simp] theorem get_empty (k : K) : (∅ : GoMap K V).get k = none := AList.lookup_empty k

/-- Assigning a key changes what is found under that key only. -/
theorem get_set (m : GoMap K V) (k other : K) (v : V) :
    (m.set k v).get other = if other = k then some v else m.get other := by
  split
  · rename_i same
    subst same
    exact AList.lookup_insert m
  · rename_i different
    exact AList.lookup_insert_ne different

/-- Deleting a key changes what is found under that key only. -/
theorem get_delete (m : GoMap K V) (k other : K) :
    (m.delete k).get other = if other = k then none else m.get other := by
  split
  · rename_i same
    subst same
    exact AList.lookup_erase other m
  · rename_i different
    exact AList.lookup_erase_ne different

/-- An assigned key holds its value. -/
@[simp] theorem get_set_self (m : GoMap K V) (k : K) (v : V) : (m.set k v).get k = some v := by
  simp [get_set]

/-- Assigning one key leaves the others alone. -/
theorem get_set_ne (m : GoMap K V) {k other : K} (v : V) (different : other ≠ k) :
    (m.set k v).get other = m.get other := by
  simp [get_set, different]

/-- A deleted key holds nothing. -/
@[simp] theorem get_delete_self (m : GoMap K V) (k : K) : (m.delete k).get k = none := by
  simp [get_delete]

/-- Deleting one key leaves the others alone. -/
theorem get_delete_ne (m : GoMap K V) {k other : K} (different : other ≠ k) :
    (m.delete k).get other = m.get other := by
  simp [get_delete, different]

/-- A key is present exactly when its lookup finds a value. -/
theorem mem_keys_iff (m : GoMap K V) (k : K) : k ∈ m.keys ↔ ∃ v, m.get k = some v := by
  rw [← Option.isSome_iff_exists]
  exact AList.lookup_isSome.symm

/-- The entries are the pairs of keys and values found under them. -/
theorem mem_entries_iff (m : GoMap K V) (k : K) (v : V) : (k, v) ∈ m.entries ↔ m.get k = some v := by
  -- What is found under a key is an entry of the association list.
  have stored : m.get k = some v ↔ Sigma.mk k v ∈ AList.entries m := AList.mem_lookup_iff
  rw [stored, entries, List.mem_map]
  constructor
  · rintro ⟨⟨k', v'⟩, member, same⟩
    simp only [Prod.mk.injEq] at same
    obtain ⟨rfl, rfl⟩ := same
    exact member
  · intro member
    exact ⟨_, member, rfl⟩

/-- Changing all values changes what is found under each key. -/
theorem get_filterMap (f : K → V → Option V) (m : GoMap K V) (k : K) :
    (m.filterMap f).get k = (m.get k).bind (f k) := by
  refine Option.ext fun v => ?_
  have stored : (m.filterMap f).get k = some v ↔ Sigma.mk k v ∈ AList.entries (m.filterMap f) :=
    AList.mem_lookup_iff
  have source (w : V) : m.get k = some w ↔ Sigma.mk k w ∈ AList.entries m := AList.mem_lookup_iff
  rw [stored, Option.bind_eq_some_iff]
  simp only [source]
  constructor
  · -- The new entry comes from one under the same key.
    intro member
    obtain ⟨⟨k', w⟩, inside, made⟩ := List.mem_filterMap.mp member
    obtain ⟨v', changed, same⟩ := Option.map_eq_some_iff.mp made
    cases same
    exact ⟨w, inside, changed⟩
  · -- The old entry is kept with its new value.
    rintro ⟨w, inside, changed⟩
    exact List.mem_filterMap.mpr ⟨⟨k, w⟩, inside, by simp [changed]⟩

/-- The slice under a key, empty where the key is absent. -/
def items {W : Type} (m : GoMap K (List W)) (k : K) : List W := (m.get k).getD []

/-- Store a slice under a key, or delete the key where the slice is empty. -/
def store {W : Type} (m : GoMap K (List W)) (k : K) (l : List W) : GoMap K (List W) :=
  if l = [] then m.delete k else m.set k l

/-- Assigning a slice changes the slice under that key only. -/
theorem items_set {W : Type} (m : GoMap K (List W)) (k other : K) (l : List W) :
    (m.set k l).items other = if other = k then l else m.items other := by
  unfold items
  rw [get_set]
  split <;> rfl

/-- Deleting a key empties the slice under that key only. -/
theorem items_delete {W : Type} (m : GoMap K (List W)) (k other : K) :
    (m.delete k).items other = if other = k then [] else m.items other := by
  unfold items
  rw [get_delete]
  split <;> rfl

/-- Storing a slice changes the slice under that key only. -/
@[simp] theorem items_store {W : Type} (m : GoMap K (List W)) (k other : K) (l : List W) :
    (m.store k l).items other = if other = k then l else m.items other := by
  unfold store
  split
  · rename_i empty
    rw [items_delete, empty]
  · rw [items_set]

/-- An empty map has empty slices. -/
@[simp] theorem items_empty {W : Type} (k : K) : (∅ : GoMap K (List W)).items k = [] := by
  simp [items]

/-- A map without entries holds nothing. -/
theorem get_of_len_eq_zero {m : GoMap K V} (empty : m.len = 0) (k : K) : m.get k = none := by
  refine Option.eq_none_iff_forall_ne_some.mpr fun v found => ?_
  have member := (m.mem_keys_iff k).mpr ⟨v, found⟩
  rw [List.length_eq_zero_iff.mp empty] at member
  cases member

/-- A list made from each entry has no repetitions where every element tells its key. -/
theorem nodup_flatMap_entries {W : Type} (m : GoMap K V) (made : V → List W) (home : W → Option K)
    (distinct : ∀ k v, m.get k = some v → (made v).Nodup)
    (homed : ∀ k v, m.get k = some v → ∀ w ∈ made v, home w = some k) :
    (m.entries.flatMap fun entry => made entry.2).Nodup := by
  -- Different entries have different keys.
  have keys : m.entries.Pairwise fun a b => a.1 ≠ b.1 := by
    have nodup := m.keys_nodup
    rwa [← m.map_fst_entries, List.Nodup, List.pairwise_map] at nodup
  rw [List.nodup_flatMap]
  refine ⟨fun entry member => distinct _ _ ((m.mem_entries_iff _ _).mp member), ?_⟩
  refine keys.imp_of_mem fun {one other} first second different => ?_
  -- An element of both lists would have two keys.
  intro w inside also
  have one := homed _ _ ((m.mem_entries_iff _ _).mp first) w inside
  rw [homed _ _ ((m.mem_entries_iff _ _).mp second) w also] at one
  exact different (Option.some.inj one).symm

/-- A map whose keys are drawn from a list without repetitions fills it exactly by length. -/
theorem len_eq_iff_of_subset (m : GoMap K V) {domain : List K} (distinct : domain.Nodup)
    (inside : ∀ k v, m.get k = some v → k ∈ domain) :
    m.len = domain.length ↔ ∀ k ∈ domain, ∃ v, m.get k = some v := by
  -- Keys are distinct, so equal length turns inclusion into a permutation.
  have keysInside : m.keys ⊆ domain := by
    intro k member
    obtain ⟨v, found⟩ := (m.mem_keys_iff k).mp member
    exact inside k v found
  unfold len
  constructor
  · intro lengths k member
    have permuted := (List.subperm_of_subset m.keys_nodup keysInside).perm_of_length_le
      (Nat.le_of_eq lengths.symm)
    exact (m.mem_keys_iff k).mp (permuted.mem_iff.mpr member)
  · intro full
    have domainInside : domain ⊆ m.keys := fun k member => (m.mem_keys_iff k).mpr (full k member)
    exact Nat.le_antisymm (List.subperm_of_subset m.keys_nodup keysInside).length_le
      (List.subperm_of_subset distinct domainInside).length_le

end GoMap

end Wwan
