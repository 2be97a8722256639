import Mathlib.Data.List.Basic

/-! Go's slices over backing arrays, and what appending to one can change. -/

namespace Wwan

/-- A slice: the backing array it shows, from where on, and how far. -/
structure Slice where
  array : Nat
  offset : Nat
  length : Nat
  capacity : Nat
  deriving DecidableEq, Inhabited

/-- The slice `nil`, which shows nothing of any array. -/
def Slice.nil : Slice := ⟨0, 0, 0, 0⟩

/-- The slice `s[:0:0]`. -/
def Slice.cut (s : Slice) : Slice := { s with length := 0, capacity := 0 }

/-- The backing arrays of one element type, in the order they were allocated. -/
abbrev Arrays (α : Type) := List (List α)

/-- The loop `for i := range n` over a state. -/
def forRange {σ : Type} (count : Nat) (body : Nat → σ → σ) (state : σ) : σ :=
  match count with
  | 0 => state
  | count + 1 => body count (forRange count body state)

/-- What every turn of a loop carries on holds after the loop. -/
theorem forRange_induction {σ : Type} {count : Nat} {body : Nat → σ → σ} {state : σ} (P : Nat → σ → Prop)
    (first : P 0 state) (turn : ∀ i s, i < count → P i s → P (i + 1) (body i s)) :
    P count (forRange count body state) := by
  induction count with
  | zero => exact first
  | succ count ih => exact turn _ _ (Nat.lt_succ_self _) (ih fun i s below => turn i s (Nat.lt_succ_of_lt below))

namespace Arrays

variable {α : Type}

/-- The backing array of a slice. -/
def backing (arrays : Arrays α) (s : Slice) : List α := arrays.getD s.array []

/-- The elements a slice shows. -/
def read (arrays : Arrays α) (s : Slice) : List α := ((arrays.backing s).drop s.offset).take s.length

/-- The slice `make([]T, n)`. -/
def make [Inhabited α] (arrays : Arrays α) (n : Nat) : Arrays α × Slice :=
  (arrays ++ [List.replicate n default], ⟨arrays.length, 0, n, n⟩)

/-- The element `s[i]`, of a slice that shows one there. -/
def index [Inhabited α] (arrays : Arrays α) (s : Slice) (i : Nat) : α := (arrays.read s).getD i default

/-- The assignment `s[i] = value`. -/
def store (arrays : Arrays α) (s : Slice) (i : Nat) (value : α) : Arrays α :=
  arrays.modify s.array fun array => array.set (s.offset + i) value

/-- The array with values written over it from a position on. -/
def overwrite (array : List α) (start : Nat) (values : List α) : List α :=
  array.take start ++ values ++ array.drop (start + values.length)

/--
The call `append(s, values...)`.

The run-time system chooses how much larger than needed a new array becomes.
-/
def append [Inhabited α] (spare : Slice → Nat → Nat) (arrays : Arrays α) (s : Slice) (values : List α) :
    Arrays α × Slice :=
  let length := s.length + values.length
  if length ≤ s.capacity then
    (arrays.modify s.array fun array => overwrite array (s.offset + s.length) values, { s with length })
  else
    let unused := spare s values.length
    (arrays ++ [arrays.read s ++ values ++ List.replicate unused default],
      ⟨arrays.length, 0, length, length + unused⟩)

/-- The call `slices.Clone(s)`. -/
def clone [Inhabited α] (spare : Slice → Nat → Nat) (arrays : Arrays α) (s : Slice) : Arrays α × Slice :=
  arrays.append spare s.cut (arrays.read s)

/-- The slice shows elements of an array that exists, and may grow to its capacity there. -/
structure Valid (arrays : Arrays α) (s : Slice) : Prop where
  length_le : s.length ≤ s.capacity
  inside : s.capacity = 0 ∨ s.array < arrays.length ∧ s.offset + s.capacity ≤ (arrays.backing s).length

/-- The slice cannot write to the arrays that existed at the start. -/
def Fresh (start : Arrays α) (s : Slice) : Prop := s.capacity = 0 ∨ start.length ≤ s.array

/-- No array can be written through both slices. -/
def Apart (s t : Slice) : Prop := s.capacity = 0 ∨ t.capacity = 0 ∨ s.array ≠ t.array

/-! What exists is kept when arrays are added. -/

/-- An added array leaves the backing arrays of valid slices as they are. -/
private theorem backing_of_isPrefix {start arrays : Arrays α} {s : Slice} (kept : start <+: arrays)
    (below : s.array < start.length) : arrays.backing s = start.backing s := by
  obtain ⟨added, rfl⟩ := kept
  simp [backing, List.getD_eq_getElem?_getD, List.getElem?_append_left below]

/-- A slice that can never grow shows nothing. -/
private theorem read_of_capacity {arrays : Arrays α} {s : Slice} (valid : arrays.Valid s) (none : s.capacity = 0) :
    arrays.read s = [] := by
  have empty : s.length = 0 := by have := valid.length_le; omega
  simp [read, empty]

/-- A slice of the arrays at the start shows what it showed then. -/
theorem read_of_isPrefix {start arrays : Arrays α} {s : Slice} (kept : start <+: arrays) (valid : start.Valid s) :
    arrays.read s = start.read s := by
  rcases valid.inside with none | ⟨below, -⟩
  · have empty : s.length = 0 := by have := valid.length_le; omega
    simp [read, empty]
  · simp only [read, backing_of_isPrefix kept below]

/-- A valid slice shows as many elements as its length says. -/
theorem length_read {arrays : Arrays α} {s : Slice} (valid : arrays.Valid s) :
    (arrays.read s).length = s.length := by
  have shorter := valid.length_le
  rcases valid.inside with none | ⟨-, inside⟩
  · simp only [read_of_capacity valid none, List.length_nil]
    omega
  · simp only [read, List.length_take, List.length_drop]
    omega

/-- The element a valid slice shows at a place within it. -/
theorem getElem?_index [Inhabited α] {arrays : Arrays α} {s : Slice} (valid : arrays.Valid s) {i : Nat}
    (within : i < s.length) : (arrays.read s)[i]? = some (arrays.index s i) := by
  have below : i < (arrays.read s).length := by rwa [length_read valid]
  simp [index, List.getD_eq_getElem?_getD, List.getElem?_eq_getElem below]

/-- An element of a slice of the arrays at the start is read as it was then. -/
theorem index_of_isPrefix [Inhabited α] {start arrays : Arrays α} {s : Slice} (kept : start <+: arrays)
    (valid : start.Valid s) (i : Nat) : arrays.index s i = start.index s i := by
  rw [index, index, read_of_isPrefix kept valid]

/-- A slice of the arrays at the start stays valid. -/
theorem Valid.of_isPrefix {start arrays : Arrays α} {s : Slice} (valid : start.Valid s) (kept : start <+: arrays) :
    arrays.Valid s where
  length_le := valid.length_le
  inside := by
    rcases valid.inside with none | ⟨below, inside⟩
    · exact .inl none
    · exact .inr ⟨Nat.lt_of_lt_of_le below kept.length_le, by rwa [backing_of_isPrefix kept below]⟩

/-! What a change of one array leaves as it is. -/

/-- Changing an array that was not there at the start keeps the arrays that were. -/
private theorem isPrefix_modify {start arrays : Arrays α} {i : Nat} (change : List α → List α)
    (kept : start <+: arrays) (behind : start.length ≤ i) : start <+: arrays.modify i change := by
  obtain ⟨added, rfl⟩ := kept
  refine ⟨added.modify (i - start.length) change, ?_⟩
  apply List.ext_getElem?
  intro j
  grind

/-- Changing an array leaves the other arrays as they are. -/
private theorem backing_modify_ne {arrays : Arrays α} {i : Nat} {t : Slice} (change : List α → List α)
    (other : i ≠ t.array) : Arrays.backing (List.modify arrays i change) t = arrays.backing t := by
  simp only [backing, List.getD_eq_getElem?_getD, List.getElem?_modify_ne _ _ other]

/-- A slice shows the changed array behind its own. -/
private theorem backing_modify {arrays : Arrays α} {s : Slice} (change : List α → List α)
    (below : s.array < arrays.length) :
    Arrays.backing (List.modify arrays s.array change) s = change (arrays.backing s) := by
  simp [backing, List.getD_eq_getElem?_getD, List.getElem?_eq_getElem below]

/-- A slice apart from a changed one stays valid. -/
private theorem Valid.modify {arrays : Arrays α} {i : Nat} {t : Slice} (valid : arrays.Valid t)
    (change : List α → List α) (apart : t.capacity = 0 ∨ i ≠ t.array) :
    Arrays.Valid (List.modify arrays i change) t where
  length_le := valid.length_le
  inside := by
    rcases apart with none | other
    · exact .inl none
    · rcases valid.inside with none | ⟨below, inside⟩
      · exact .inl none
      · exact .inr ⟨by simpa using below, by rwa [backing_modify_ne change other]⟩

/-- A slice apart from a changed one shows what it showed. -/
private theorem read_modify {arrays : Arrays α} {i : Nat} {t : Slice} (valid : arrays.Valid t)
    (change : List α → List α) (apart : t.capacity = 0 ∨ i ≠ t.array) :
    Arrays.read (List.modify arrays i change) t = arrays.read t := by
  rcases apart with none | other
  · rw [read_of_capacity (valid.modify change (.inl none)) none, read_of_capacity valid none]
  · simp only [read, backing_modify_ne change other]

/-! Writing values over an array. -/

/-- Values written inside an array leave its length as it is. -/
private theorem length_overwrite {array values : List α} {start : Nat} (inside : start + values.length ≤ array.length) :
    (overwrite array start values).length = array.length := by
  simp only [overwrite, List.length_append, List.length_take, List.length_drop]
  omega

/-- The elements in front of the values stay, and the values follow them. -/
private theorem take_overwrite {array values : List α} {offset length : Nat}
    (inside : offset + length + values.length ≤ array.length) :
    ((overwrite array (offset + length) values).drop offset).take (length + values.length)
      = (array.drop offset).take length ++ values := by
  -- The part that is overwritten lies inside of the array.
  have front : (array.take (offset + length)).length = offset + length := by
    rw [List.length_take]
    omega
  simp only [overwrite, List.append_assoc]
  rw [List.drop_append_of_le_length (by omega), List.drop_take, Nat.add_sub_cancel_left]
  have shown : ((array.drop offset).take length).length = length := by
    rw [List.length_take, List.length_drop]
    omega
  rw [← List.append_assoc, List.take_left' (by rw [List.length_append, shown])]

/-! Appending to a slice. -/

section Append

variable [Inhabited α] (spare : Slice → Nat → Nat) {start arrays : Arrays α} {s t : Slice}

/-- The result shows the values behind what the slice showed. -/
theorem read_append (valid : arrays.Valid s) (values : List α) :
    (arrays.append spare s values).1.read (arrays.append spare s values).2 = arrays.read s ++ values := by
  have shown := length_read valid
  unfold append
  by_cases fits : s.length + values.length ≤ s.capacity
  · simp only [fits, ↓reduceIte]
    rcases valid.inside with none | ⟨below, inside⟩
    · -- Without capacity nothing was shown and nothing is appended.
      have empty : s.length = 0 ∧ values = [] := by
        rw [← List.length_eq_zero_iff]
        omega
      simp [read, empty]
    · -- The values are written into the array of the slice.
      have changed := backing_modify (fun array => overwrite array (s.offset + s.length) values) below
      simp only [read, backing] at changed ⊢
      rw [changed]
      exact take_overwrite (by simp only [backing] at inside; omega)
  · -- A new array takes the old elements and the values.
    simp only [fits, ↓reduceIte]
    simp only [read, backing, List.getD_eq_getElem?_getD]
    rw [List.getElem?_concat_length]
    simp only [Option.getD_some, List.drop_zero]
    rw [List.take_left']
    rw [List.length_append]
    exact congrArg (· + values.length) shown

/-- The result is valid. -/
theorem valid_append (valid : arrays.Valid s) (values : List α) :
    (arrays.append spare s values).1.Valid (arrays.append spare s values).2 := by
  have shown := length_read valid
  unfold append
  by_cases fits : s.length + values.length ≤ s.capacity
  · simp only [fits, ↓reduceIte]
    refine ⟨fits, ?_⟩
    rcases valid.inside with none | ⟨below, inside⟩
    · -- There is no array to stay inside of.
      exact .inl none
    · refine .inr ⟨by simpa using below, ?_⟩
      have changed := backing_modify (fun array => overwrite array (s.offset + s.length) values) below
      simp only [backing] at changed inside ⊢
      rw [changed, length_overwrite (by omega)]
      exact inside
  · -- The new array is as long as the new capacity.
    simp only [fits, ↓reduceIte]
    refine ⟨Nat.le_add_right _ _, .inr ⟨by simp, ?_⟩⟩
    simp only [backing, List.getD_eq_getElem?_getD]
    rw [List.getElem?_concat_length]
    simp [shown, Nat.add_assoc]

/-- What existed at the start is kept, and the result cannot write to it. -/
theorem isPrefix_append (kept : start <+: arrays) (fresh : Fresh start s) (values : List α) :
    start <+: (arrays.append spare s values).1 ∧ Fresh start (arrays.append spare s values).2 := by
  unfold append
  by_cases fits : s.length + values.length ≤ s.capacity
  · -- The values fit, and are written behind what existed at the start.
    simp only [fits, ↓reduceIte]
    refine ⟨?_, fresh⟩
    rcases fresh with none | behind
    · -- Nothing fits into no capacity but nothing.
      have empty : values = [] := List.length_eq_zero_iff.mp (by omega)
      have same : (fun array : List α => overwrite array (s.offset + s.length) values) = id := by
        funext array
        simp [overwrite, empty]
      simpa [same] using kept
    · exact isPrefix_modify _ kept behind
  · -- The new array stands behind all others.
    simp only [fits, ↓reduceIte]
    exact ⟨kept.trans (List.prefix_append _ _), .inr kept.length_le⟩

/-- A slice apart from the one appended to is valid, shows what it showed, and stays apart from the result. -/
theorem append_apart (valid : arrays.Valid t) (apart : Apart s t) (values : List α) :
    (arrays.append spare s values).1.Valid t ∧ (arrays.append spare s values).1.read t = arrays.read t
      ∧ Apart (arrays.append spare s values).2 t := by
  unfold append
  by_cases fits : s.length + values.length ≤ s.capacity
  · -- The values fit, and change an array that is not the other slice's.
    simp only [fits, ↓reduceIte]
    rcases apart with none | apart
    · have empty : values = [] := List.length_eq_zero_iff.mp (by omega)
      have same : (fun array : List α => overwrite array (s.offset + s.length) values) = id := by
        funext array
        simp [overwrite, empty]
      simp only [same, List.modify_id]
      exact ⟨valid, trivial, .inl none⟩
    · exact ⟨valid.modify _ apart, read_modify valid _ apart, .inr apart⟩
  · -- The values go into a new array.
    simp only [fits, ↓reduceIte]
    have kept : arrays <+: arrays ++ [arrays.read s ++ values ++ List.replicate (spare s values.length) default] :=
      List.prefix_append _ _
    refine ⟨valid.of_isPrefix kept, read_of_isPrefix kept valid, ?_⟩
    -- The array of the result is new.
    rcases valid.inside with none | ⟨below, -⟩
    · exact .inr (.inl none)
    · exact .inr (.inr (Nat.ne_of_gt below))

end Append

/-! A new slice. -/

/-- A new slice shows zero values, and what existed before is kept. -/
theorem make_spec [Inhabited α] (arrays : Arrays α) (n : Nat) :
    (arrays.make n).1.Valid (arrays.make n).2 ∧ (arrays.make n).1.read (arrays.make n).2 = List.replicate n default
      ∧ arrays <+: (arrays.make n).1 ∧ Fresh arrays (arrays.make n).2 := by
  -- The new array is the last one.
  have last : (arrays.make n).1.backing (arrays.make n).2 = List.replicate n default := by
    simp only [make, backing, List.getD_eq_getElem?_getD]
    rw [List.getElem?_concat_length]
    rfl
  refine ⟨⟨Nat.le_refl _, .inr ⟨by simp [make], ?_⟩⟩, ?_, List.prefix_append _ _, .inr (Nat.le_refl _)⟩
  · rw [last]
    simp [make]
  · rw [read, last]
    simp [make]

/-! Assigning an element. -/

section Store

variable {start arrays : Arrays α} {s : Slice} {i : Nat}

/-- The slice shows the assigned element. -/
theorem read_store (valid : arrays.Valid s) (within : i < s.length) (value : α) :
    (arrays.store s i value).read s = (arrays.read s).set i value := by
  have shorter := valid.length_le
  -- An element can only be assigned in an array.
  have below : s.array < arrays.length := by
    rcases valid.inside with none | ⟨below, -⟩
    · omega
    · exact below
  have changed := backing_modify (fun array => array.set (s.offset + i) value) below
  simp only [read, store]
  rw [changed]
  apply List.ext_getElem?
  intro j
  grind

/-- The slice stays valid. -/
theorem valid_store (valid : arrays.Valid s) (value : α) : (arrays.store s i value).Valid s where
  length_le := valid.length_le
  inside := by
    -- Assigning keeps the length of the array.
    rcases valid.inside with none | ⟨below, inside⟩
    · exact .inl none
    · refine .inr ⟨by simpa [store] using below, ?_⟩
      have changed := backing_modify (fun array => array.set (s.offset + i) value) below
      rw [store, changed, List.length_set]
      exact inside

/-- What existed at the start is kept. -/
theorem isPrefix_store (kept : start <+: arrays) (valid : arrays.Valid s) (fresh : Fresh start s)
    (within : i < s.length) (value : α) : start <+: arrays.store s i value := by
  have shorter := valid.length_le
  rcases fresh with none | behind
  · omega
  · exact isPrefix_modify _ kept behind

end Store

/-! Slices that a function has to itself. -/

/-- The slices are the function's own: none can be written through another, nor what existed at the start through any. -/
structure Owns (start arrays : Arrays α) (slices : List Slice) : Prop where
  kept : start <+: arrays
  valid : ∀ s ∈ slices, arrays.Valid s
  fresh : ∀ s ∈ slices, Fresh start s
  apart : ∀ (i j : Nat) (s t : Slice), i ≠ j → slices[i]? = some s → slices[j]? = some t → Apart s t

namespace Owns

variable {start arrays : Arrays α} {slices : List Slice}

/-- Slices without capacity are nobody's. -/
theorem of_capacity (none : ∀ s ∈ slices, s.length = 0 ∧ s.capacity = 0) : Owns start start slices where
  kept := List.prefix_refl _
  valid s found := ⟨Nat.le_of_eq ((none s found).1.trans (none s found).2.symm), .inl (none s found).2⟩
  fresh s found := .inl (none s found).2
  apart _ _ s _ _ atI _ := .inl (none s (List.mem_of_getElem? atI)).2

/-- A slice without capacity takes the place of any other. -/
theorem set_cut (owns : Owns start arrays slices) (i : Nat) {s : Slice} (length : s.length = 0)
    (capacity : s.capacity = 0) : Owns start arrays (slices.set i s) where
  kept := owns.kept
  valid t found := by
    rcases List.mem_or_eq_of_mem_set found with old | rfl
    · exact owns.valid t old
    · exact ⟨Nat.le_of_eq (length.trans capacity.symm), .inl capacity⟩
  fresh t found := by
    rcases List.mem_or_eq_of_mem_set found with old | rfl
    · exact owns.fresh t old
    · exact .inl capacity
  apart j k t u other atJ atK := by
    grind [Apart, owns.apart j k t u other]

/-- A slice without capacity joins the others. -/
theorem concat_cut (owns : Owns start arrays slices) {s : Slice} (length : s.length = 0)
    (capacity : s.capacity = 0) : Owns start arrays (slices ++ [s]) where
  kept := owns.kept
  valid t found := by
    rcases List.mem_append.mp found with old | last
    · exact owns.valid t old
    · rw [List.mem_singleton.mp last]
      exact ⟨Nat.le_of_eq (length.trans capacity.symm), .inl capacity⟩
  fresh t found := by
    rcases List.mem_append.mp found with old | last
    · exact owns.fresh t old
    · rw [List.mem_singleton.mp last]
      exact .inl capacity
  apart j k t u other atJ atK := by
    grind [Apart, owns.apart j k t u other]

variable [Inhabited α] (spare : Slice → Nat → Nat)

/-- Appending to an own slice leaves the result in its place. -/
theorem append (owns : Owns start arrays slices) {i : Nat} {s : Slice} (at_i : slices[i]? = some s)
    (values : List α) :
    Owns start (arrays.append spare s values).1 (slices.set i (arrays.append spare s values).2) := by
  have found : s ∈ slices := List.mem_of_getElem? at_i
  obtain ⟨kept, fresh⟩ := isPrefix_append spare owns.kept (owns.fresh s found) values
  -- Every other slice is apart from the one appended to.
  have others : ∀ j t, j ≠ i → slices[j]? = some t →
      (arrays.append spare s values).1.Valid t ∧ Apart (arrays.append spare s values).2 t := by
    intro j t other at_j
    have apart := owns.apart i j s t (Ne.symm other) at_i at_j
    obtain ⟨valid, -, stays⟩ := append_apart spare (owns.valid t (List.mem_of_getElem? at_j)) apart values
    exact ⟨valid, stays⟩
  have member : ∀ t, t ∈ slices.set i (arrays.append spare s values).2 →
      t = (arrays.append spare s values).2 ∨ ∃ j, j ≠ i ∧ slices[j]? = some t := by
    intro t there
    obtain ⟨j, at_j⟩ := List.mem_iff_getElem?.mp there
    grind
  refine ⟨kept, ?_, ?_, ?_⟩
  · -- Every slice stays valid.
    intro t there
    rcases member t there with rfl | ⟨j, other, at_j⟩
    · exact valid_append spare (owns.valid s found) values
    · exact (others j t other at_j).1
  · -- None of them reaches what existed at the start.
    intro t there
    rcases member t there with rfl | ⟨j, other, at_j⟩
    · exact fresh
    · exact owns.fresh t (List.mem_of_getElem? at_j)
  · -- Two of them are apart, the result included.
    intro j k t u other at_j at_k
    by_cases first : j = i
    · grind
    · by_cases second : k = i
      · have apart := (others j t first (by grind)).2
        grind [Apart]
      · exact owns.apart j k t u other (by grind) (by grind)

/-- The values stand behind what the slice showed, and the other slices show what they did. -/
theorem map_read_append (owns : Owns start arrays slices) {i : Nat} {s : Slice} (at_i : slices[i]? = some s)
    (values : List α) :
    (slices.set i (arrays.append spare s values).2).map (arrays.append spare s values).1.read
      = (slices.map arrays.read).set i (arrays.read s ++ values) := by
  apply List.ext_getElem?
  intro j
  by_cases same : j = i
  · -- The result shows the values.
    subst same
    have below : j < slices.length := (List.getElem?_eq_some_iff.mp at_i).1
    simp [below, read_append spare (owns.valid s (List.mem_of_getElem? at_i)) values]
  · -- The other slice shows what it did.
    rw [List.getElem?_map, List.getElem?_set_ne (Ne.symm same), List.getElem?_set_ne (Ne.symm same),
      List.getElem?_map]
    cases at_j : slices[j]? with
    | none => rfl
    | some t =>
      have apart := owns.apart i j s t (Ne.symm same) at_i at_j
      have reads := (append_apart spare (owns.valid t (List.mem_of_getElem? at_j)) apart values).2.1
      simp only [Option.map_some, reads]

end Owns

end Arrays

end Wwan
