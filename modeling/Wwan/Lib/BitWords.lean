import Mathlib.Data.Nat.Bitwise

/-! Sets of numbers as the bits of a few 64-bit words. -/

namespace Wwan.BitWords

/-- The word with one bit. -/
def bit (i : Nat) : UInt64 := 1 <<< UInt64.ofNat i

/-- A word has a bit set. -/
def hasBit (word : UInt64) (i : Nat) : Bool := word &&& bit i ≠ 0

/-- Set the bit of a number in the word that it belongs to. -/
def insert {n : Nat} (words : Vector UInt64 n) (k : Nat) : Vector UInt64 n :=
  if inside : k / 64 < n then words.set (k / 64) (words[k / 64] ||| bit (k % 64)) inside else words

/-- The number is in the set that a list of words shows. -/
def Has (words : List UInt64) (k : Nat) : Prop := ∃ word, words[k / 64]? = some word ∧ hasBit word (k % 64)

/-- The word with one bit is a power of two. -/
theorem toNat_bit {i : Nat} (small : i < 64) : (bit i).toNat = 2 ^ i := by
  have below : 2 ^ i < 2 ^ 64 := Nat.pow_lt_pow_right (by decide) small
  rw [bit, UInt64.toNat_shiftLeft, UInt64.toNat_ofNat', Nat.mod_eq_of_lt (show i < 2 ^ 64 by omega),
    Nat.mod_eq_of_lt small, Nat.shiftLeft_eq]
  simpa using below

/-- Testing a bit by its mask is testing it. -/
theorem hasBit_eq {i : Nat} (small : i < 64) (word : UInt64) : hasBit word i = word.toNat.testBit i := by
  -- The mask keeps one bit.
  have masked : (word &&& bit i).toNat = (word.toNat.testBit i).toNat * 2 ^ i := by
    rw [UInt64.toNat_and, toNat_bit small, Nat.and_two_pow]
  have zero : word &&& bit i = 0 ↔ (word &&& bit i).toNat = 0 := by
    rw [← UInt64.toNat_inj]
    rfl
  simp only [hasBit, ne_eq, decide_not, zero, masked]
  cases word.toNat.testBit i <;> simp

/-- Setting a bit sets that one alone. -/
theorem hasBit_or {i j : Nat} (small : i < 64) (small' : j < 64) (word : UInt64) :
    hasBit (word ||| bit j) i = (hasBit word i || decide (j = i)) := by
  rw [hasBit_eq small, hasBit_eq small, UInt64.toNat_or, toNat_bit small', Nat.testBit_or, Nat.testBit_two_pow]

/-- A mask has a bit of a union exactly if it has one of either. -/
theorem or_and_ne_zero (one other mask : UInt64) :
    (one ||| other) &&& mask ≠ 0 ↔ one &&& mask ≠ 0 ∨ other &&& mask ≠ 0 := by
  have split : (one ||| other) &&& mask = (one &&& mask) ||| (other &&& mask) := by
    rw [← UInt64.toNat_inj]
    simp only [UInt64.toNat_and, UInt64.toNat_or]
    exact Nat.and_or_distrib_right _ _ _
  rw [split, ne_eq, UInt64.or_eq_zero_iff, not_and_or]

/-- A number within the words is in the set exactly if its bit is set. -/
theorem has_iff {n : Nat} {words : Vector UInt64 n} {k : Nat} (inside : k / 64 < n) :
    Has words.toList k ↔ hasBit words[k / 64] (k % 64) := by
  constructor
  · rintro ⟨word, found, set⟩
    simp only [Vector.getElem?_toList, Vector.getElem?_eq_getElem inside, Option.some.injEq] at found
    rw [found]
    exact set
  · intro set
    exact ⟨words[k / 64], by simp [inside], set⟩

/-- No other numbers are in the set. -/
theorem Has.inside {n : Nat} {words : Vector UInt64 n} {k : Nat} (has : Has words.toList k) : k / 64 < n := by
  obtain ⟨word, found, -⟩ := has
  by_contra beyond
  simp [Nat.not_lt.mp beyond] at found

/-- Inserting a number adds it to the set. -/
theorem has_insert {n : Nat} {words : Vector UInt64 n} {j k : Nat} (fits : j / 64 < n) :
    Has (insert words j).toList k ↔ Has words.toList k ∨ k = j := by
  by_cases inside : k / 64 < n
  · -- The number is within the words.
    rw [has_iff inside, has_iff inside, insert, dif_pos fits]
    by_cases same : j / 64 = k / 64
    · have small : k % 64 < 64 := Nat.mod_lt _ (by decide)
      have small' : j % 64 < 64 := Nat.mod_lt _ (by decide)
      simp only [Vector.getElem_set, same, if_true]
      rw [hasBit_or small small']
      simp only [Bool.or_eq_true, decide_eq_true_eq]
      refine or_congr Iff.rfl ⟨fun equal => ?_, fun equal => by rw [equal]⟩
      omega
    · -- Another word is not changed.
      have other : k ≠ j := fun equal => same (by rw [equal])
      simp [same, other]
  · -- A number beyond the words is in neither set.
    refine ⟨fun has => absurd has.inside inside, ?_⟩
    rintro (has | rfl)
    · exact absurd has.inside inside
    · exact absurd fits inside

/-- Nothing is in the set of words without bits. -/
theorem not_has_zero {n k : Nat} : ¬Has (Vector.replicate n (0 : UInt64)).toList k := by
  intro has
  have inside := has.inside
  rw [has_iff inside] at has
  simp [hasBit] at has

/-- A word that shows a number is not zero. -/
theorem Has.nonzero {words : List UInt64} {k : Nat} (has : Has words k) : ∃ word ∈ words, word ≠ 0 := by
  obtain ⟨word, found, set⟩ := has
  refine ⟨word, List.mem_of_getElem? found, ?_⟩
  rintro rfl
  simp [hasBit] at set

/-- One word shows the first numbers of the words it begins. -/
theorem has_first {n : Nat} {words : Vector UInt64 (n + 1)} {k : Nat} :
    Has [words[0]] k ↔ Has words.toList k ∧ k < 64 := by
  by_cases small : k < 64
  · have first : k / 64 = 0 := by omega
    rw [has_iff (by omega)]
    simp [Has, first, small]
  · simp [Has, small]

/-- The union of two sets. -/
theorem has_zipWith {n : Nat} {one other : Vector UInt64 n} {k : Nat} :
    Has (one.zipWith (· ||| ·) other).toList k ↔ Has one.toList k ∨ Has other.toList k := by
  have small : k % 64 < 64 := Nat.mod_lt _ (by decide)
  by_cases inside : k / 64 < n
  · rw [has_iff inside, has_iff inside, has_iff inside, hasBit_eq small, hasBit_eq small, hasBit_eq small]
    simp
  · exact iff_of_false (fun has => inside has.inside) (fun has => inside (has.elim Has.inside Has.inside))

/-- Words that are not all zero have a number in their set. -/
theorem exists_has {words : List UInt64} {word : UInt64} (member : word ∈ words) (set : word ≠ 0) : ∃ k, Has words k := by
  obtain ⟨i, bound, rfl⟩ := List.mem_iff_getElem.mp member
  have positive : words[i].toNat ≠ 0 := fun zero => set (UInt64.toNat_inj.mp zero)
  -- Some bit of the word is set, and it is one of the 64.
  obtain ⟨j, bit⟩ := Nat.exists_testBit_of_ne_zero positive
  have small : j < 64 := by
    by_contra large
    have bounded : words[i].toNat < 2 ^ j :=
      lt_of_lt_of_le words[i].toNat_lt (Nat.pow_le_pow_right (by decide) (Nat.not_lt.mp large))
    rw [Nat.testBit_lt_two_pow bounded] at bit
    cases bit
  refine ⟨i * 64 + j, words[i], ?_, ?_⟩
  · have place : (i * 64 + j) / 64 = i := by omega
    rw [place, List.getElem?_eq_getElem bound]
  · have rest : (i * 64 + j) % 64 = j := by omega
    rw [rest, hasBit_eq small]
    exact bit

end Wwan.BitWords
