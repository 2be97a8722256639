import Mathlib.Algebra.Ring.Int.Defs
import Mathlib.Algebra.Ring.Nat
import Mathlib.Data.List.Basic

/-! Go calls that can fail: error values, run-time panics, and bounds-checked slices. -/

namespace Wwan

/-- A byte slice, with a nil slice and an empty one not told apart. -/
abbrev Bytes := List UInt8

/-- A Go string is an arbitrary byte sequence, not necessarily valid UTF-8. -/
abbrev GoString := List UInt8

/-- Two strings that compare equal are the same bytes. -/
instance : LawfulBEq GoString := inferInstanceAs (LawfulBEq (List UInt8))

/-- What holds of the 256 bytes holds of every byte. -/
theorem forall_byte {P : UInt8 → Prop} (all : ∀ n : Fin 256, P (UInt8.ofNat n)) (b : UInt8) : P b := by
  have holds := all ⟨b.toNat, b.toNat_lt⟩
  rwa [UInt8.ofNat_toNat] at holds

/-- How a Go call can fail to return a value. -/
inductive Fault (ε : Type) where
  /-- The call returned a non-nil error. -/
  | err (error : ε)
  /-- The call panicked on an index or a slice bound. -/
  | outOfRange
  deriving DecidableEq

/-- The outcome of a Go call with an error result. -/
abbrev Go (ε α : Type) := Except (Fault ε) α

namespace Go

variable {ε α β : Type}

/-- Return a non-nil error. -/
def fail (error : ε) : Go ε α :=
  -- Every value of the error type stands for a non-nil Go error.
  .error (.err error)

/-- A call that has no index or slice to panic on. -/
def ofExcept (call : Except ε α) : Go ε α :=
  match call with
  | .ok value => .ok value
  | .error error => fail error

/-- A call whose error is returned inside another. -/
def mapError {ε' : Type} (wrap : ε → ε') (call : Go ε α) : Go ε' α :=
  match call with
  | .ok value => .ok value
  | .error (.err error) => fail (wrap error)
  | .error .outOfRange => .error .outOfRange

/-- The guard `if c { return err }`. -/
def failIf (c : Prop) [Decidable c] (error : ε) : Go ε Unit :=
  if c then fail error else .ok ()

/-- A method that assigns its receiver as its last step. -/
def assign (receiver : α) (call : Go ε α) : Go ε Unit × α :=
  match call with
  | .ok value => (.ok (), value)
  | .error fault => (.error fault, receiver)

/-- The element expression `s[i]`, which panics outside the slice. -/
def index (s : List α) (i : Nat) : Go ε α :=
  -- Go checks the index against the length at run time.
  match s[i]? with
  | some x => .ok x
  | none => .error .outOfRange

/-- The slice expression `s[low:high]`, which panics on inverted or excessive bounds. -/
def slice (s : List α) (low high : Nat) : Go ε (List α) :=
  -- Bounds above the length count as a panic even where the capacity would allow them.
  if low ≤ high ∧ high ≤ s.length then .ok ((s.drop low).take (high - low))
  else .error .outOfRange

/-- Sequencing after a returned value continues with that value. -/
@[simp] theorem ok_bind (x : α) (f : α → Go ε β) : ((.ok x : Go ε α) >>= f) = f x := rfl

/-- Sequencing after a fault keeps the fault. -/
@[simp] theorem error_bind (fault : Fault ε) (f : α → Go ε β) :
    ((.error fault : Go ε α) >>= f) = .error fault := rfl

/-- Sequencing after a returned error keeps the error. -/
@[simp] theorem fail_bind (error : ε) (f : α → Go ε β) :
    ((fail error : Go ε α) >>= f) = fail error := rfl

/-- Returning is the successful outcome. -/
@[simp] theorem pure_eq (x : α) : (pure x : Go ε α) = .ok x := rfl

/-- An error is never a returned value. -/
@[simp] theorem fail_ne_ok (error : ε) (x : α) : (fail error : Go ε α) ≠ .ok x := by
  simp [fail]

/-- What is returned is not wrapped. -/
@[simp] theorem mapError_ok {ε' : Type} (wrap : ε → ε') (value : α) : mapError wrap (.ok value) = .ok value := rfl

/-- A call returns what it would return without its error wrapped. -/
theorem mapError_eq_ok {ε' : Type} {wrap : ε → ε'} {call : Go ε α} {value : α} :
    mapError wrap call = .ok value ↔ call = .ok value := by
  rcases call with (_ | _) | _ <;> simp [mapError, fail]

/-- A wrapped error is not a panic. -/
theorem mapError_ne_outOfRange {ε' : Type} {wrap : ε → ε'} {call : Go ε α} :
    mapError wrap call ≠ .error .outOfRange ↔ call ≠ .error .outOfRange := by
  rcases call with (_ | _) | _ <;> simp [mapError, fail]

/-- A guard lets pass what it does not name. -/
@[simp] theorem failIf_eq_ok {c : Prop} [Decidable c] {error : ε} {result : Unit} :
    failIf c error = .ok result ↔ ¬ c := by
  by_cases check : c <;> simp [failIf, check]

/-- What a guard lets pass is as if the guard were not there. -/
theorem failIf_bind_of_not {c : Prop} [Decidable c] {error : ε} {next : Unit → Go ε α} (passes : ¬ c) :
    (failIf c error >>= next) = next () := by
  simp [failIf, passes]

/-- A guard returns the error for what it names. -/
theorem failIf_bind_of {c : Prop} [Decidable c] {error : ε} {next : Unit → Go ε α} (caught : c) :
    (failIf c error >>= next) = fail error := by
  simp [failIf, caught]

/-- It returns what it returns. -/
@[simp] theorem ofExcept_eq_ok {call : Except ε α} {value : α} : ofExcept call = .ok value ↔ call = .ok value := by
  cases call <;> simp [ofExcept, fail]

/-- A sequence returns exactly when both of its halves return. -/
theorem bind_eq_ok {x : Go ε α} {f : α → Go ε β} {result : β} :
    (x >>= f) = .ok result ↔ ∃ value, x = .ok value ∧ f value = .ok result := by
  -- A faulting first half leaves no value for the second half to use.
  cases x with
  | error fault => simp
  | ok value => simp

/-- A sequence behind a call without a result returns exactly when both of its halves return. -/
theorem unit_bind_eq_ok {x : Go ε Unit} {f : Unit → Go ε β} {result : β} :
    (x >>= f) = .ok result ↔ x = .ok () ∧ f () = .ok result := by
  cases x with
  | error fault => simp
  | ok value => simp

/-- An index inside the slice reads the element there. -/
theorem index_eq_ok {s : List α} {i : Nat} {x : α} (found : s[i]? = some x) :
    (index s i : Go ε α) = .ok x := by
  simp [index, found]

/-- Ordered bounds inside the slice cut out the window between them. -/
theorem slice_eq_ok {s : List α} {low high : Nat} (ordered : low ≤ high)
    (inside : high ≤ s.length) :
    (slice s low high : Go ε (List α)) = .ok ((s.drop low).take (high - low)) := by
  simp [slice, ordered, inside]

/-- The slice from an index on is what is left without the elements before it. -/
theorem slice_from {s : List α} {low : Nat} (inside : low ≤ s.length) :
    (slice s low s.length : Go ε (List α)) = .ok (s.drop low) := by
  rw [slice_eq_ok inside le_rfl, List.take_of_length_le (by rw [List.length_drop])]

/-- The slice up to an index is what is in front of it. -/
theorem slice_to {s : List α} {high : Nat} (inside : high ≤ s.length) :
    (slice s 0 high : Go ε (List α)) = .ok (s.take high) := by
  rw [slice_eq_ok (Nat.zero_le high) inside, List.drop_zero, Nat.sub_zero]

/-- The element right behind a prefix sits at the prefix's length. -/
theorem index_append (before : List α) (x : α) (after : List α) :
    (index (before ++ x :: after) before.length : Go ε α) = .ok x :=
  index_eq_ok (by simp)

/-- The window right behind a prefix is cut out by the prefix's length. -/
theorem slice_append (before window after : List α) :
    (slice (before ++ (window ++ after)) before.length (before.length + window.length) :
      Go ε (List α)) = .ok window := by
  rw [slice_eq_ok (by omega) (by simp)]
  simp

/-- Bounds that mark the ends of a window cut it out. -/
theorem slice_between {s window after : List α} {low high : Nat} (before : List α) (split : s = before ++ (window ++ after))
    (start : before.length = low) (stop : low + window.length = high) :
    (slice s low high : Go ε (List α)) = .ok window := by
  subst split start stop
  exact slice_append before window after

/-- A loop whose every iteration returns collects the returned values. -/
theorem mapM_eq_ok {f : α → Go ε β} {g : α → β} {list : List α}
    (each : ∀ x ∈ list, f x = .ok (g x)) : list.mapM f = .ok (list.map g) := by
  induction list with
  | nil => rfl
  | cons x rest ih =>
    rw [List.mapM_cons, each x (by simp), ih fun y member => each y (by simp [member])]
    rfl

/-- A loop that returns has run every iteration to its own value. -/
theorem forall₂_of_mapM {f : α → Go ε β} {list : List α} {results : List β}
    (ran : list.mapM f = .ok results) : List.Forall₂ (fun x y => f x = .ok y) list results := by
  induction list generalizing results with
  | nil =>
    rw [List.mapM_nil, pure_eq, Except.ok.injEq] at ran
    subst ran
    exact .nil
  | cons x rest ih =>
    -- The first iteration returns, and so do the others.
    rw [List.mapM_cons] at ran
    obtain ⟨y, first, ran⟩ := bind_eq_ok.mp ran
    obtain ⟨ys, others, ran⟩ := bind_eq_ok.mp ran
    rw [pure_eq, Except.ok.injEq] at ran
    subst ran
    exact .cons first (ih others)

/-- A loop whose iterations return the values of a list returns the list. -/
theorem mapM_of_forall₂ {f : α → Go ε β} {list : List α} {results : List β}
    (each : List.Forall₂ (fun x y => f x = .ok y) list results) : list.mapM f = .ok results := by
  induction each with
  | nil => rfl
  | cons first _ ih =>
    rw [List.mapM_cons, first, ok_bind, ih]
    rfl

/-- What a loop has collected is what one of its iterations returned. -/
theorem exists_of_mapM {f : α → Go ε β} {list : List α} {results : List β} (ran : list.mapM f = .ok results) {y : β}
    (member : y ∈ results) : ∃ x ∈ list, f x = .ok y := by
  have each := forall₂_of_mapM ran
  clear ran
  induction each with
  | nil => cases member
  | cons first others ih =>
    rcases List.mem_cons.mp member with rfl | later
    · exact ⟨_, by simp, first⟩
    · obtain ⟨x, earlier, returned⟩ := ih later
      exact ⟨x, by simp [earlier], returned⟩

/-! What a call ensures. -/

/-- The call does not panic, and a value it returns has a property. -/
def Ensures (call : Go ε α) (P : α → Prop) : Prop :=
  -- A returned error carries no value, so nothing is required of it.
  call ≠ .error .outOfRange ∧ ∀ value, call = .ok value → P value

/-- A returned value is all there is to look at. -/
theorem ensures_ok {x : α} {P : α → Prop} (holds : P x) : Ensures (.ok x : Go ε α) P := by
  -- The call returns this value and no other.
  refine ⟨by simp, fun value same => ?_⟩
  cases same
  exact holds

/-- A returned error satisfies every property of values. -/
theorem ensures_fail (error : ε) {P : α → Prop} : Ensures (fail error : Go ε α) P := by
  -- There is an error, so there is neither a panic nor a value.
  exact ⟨by simp [fail], fun value same => absurd same (fail_ne_ok error value)⟩

/-- A weaker property follows. -/
theorem Ensures.mono {call : Go ε α} {P Q : α → Prop} (ensures : call.Ensures P) (weaker : ∀ x, P x → Q x) :
    call.Ensures Q := by
  exact ⟨ensures.1, fun value returned => weaker value (ensures.2 value returned)⟩

/-- A sequence ensures what its second half ensures of every value the first half may return. -/
theorem Ensures.bind {call : Go ε α} {next : α → Go ε β} {P : α → Prop} {Q : β → Prop} (first : call.Ensures P)
    (second : ∀ x, P x → (next x).Ensures Q) : (call >>= next).Ensures Q := by
  -- Only a returned value reaches the second half.
  cases call with
  | error fault =>
    refine ⟨fun panicked => first.1 ?_, fun value returned => ?_⟩
    · rw [Except.error.inj panicked]
    · cases returned
  | ok x => exact second x (first.2 x rfl)

/-- Both branches of a check are to be looked at. -/
theorem ensures_ite {c : Prop} [Decidable c] {yes no : Go ε α} {P : α → Prop} (holds : c → yes.Ensures P)
    (fails : ¬ c → no.Ensures P) : (if c then yes else no).Ensures P := by
  by_cases check : c
  · rw [if_pos check]
    exact holds check
  · rw [if_neg check]
    exact fails check

/-- Behind a guard, what the guard names does not hold. -/
theorem ensures_failIf {c : Prop} [Decidable c] {error : ε} : (failIf c error).Ensures fun _ => ¬ c := by
  refine ensures_ite (fun _ => ensures_fail error) fun passes => ?_
  exact ensures_ok passes

/-- A check that does not panic has passed where it returns. -/
theorem ensures_passed {call : Go ε Unit} (inRange : call ≠ .error .outOfRange) : call.Ensures fun _ => call = .ok () :=
  ⟨inRange, fun _ returned => returned⟩

/-- Wrapping an error changes neither values nor panics. -/
theorem Ensures.mapError {ε' : Type} {wrap : ε → ε'} {call : Go ε α} {P : α → Prop} (ensures : call.Ensures P) :
    (mapError wrap call).Ensures P := by
  refine ⟨mapError_ne_outOfRange.mpr ensures.1, fun value returned => ?_⟩
  exact ensures.2 value (mapError_eq_ok.mp returned)

/-- An index inside the slice does not panic. -/
theorem ensures_index {s : List α} {i : Nat} (inside : i < s.length) :
    (index s i : Go ε α).Ensures fun x => s[i]? = some x := by
  rw [index_eq_ok (List.getElem?_eq_getElem inside)]
  exact ensures_ok (List.getElem?_eq_getElem inside)

/-- Ordered bounds inside the slice do not panic, and they are the length of the window. -/
theorem ensures_slice {s : List α} {low high : Nat} (ordered : low ≤ high) (inside : high ≤ s.length) :
    (slice s low high : Go ε (List α)).Ensures fun window => window.length = high - low := by
  rw [slice_eq_ok ordered inside]
  apply ensures_ok
  rw [List.length_take, List.length_drop]
  omega

/-- A loop that carries a value keeps what each of its iterations keeps. -/
theorem ensures_foldlM {step : β → α → Go ε β} {P : β → Prop} {list : List α} {start : β} (holds : P start)
    (each : ∀ acc, P acc → ∀ x ∈ list, (step acc x).Ensures P) : (list.foldlM step start).Ensures P := by
  -- The induction is over the list, for every value that the loop can start with.
  induction list generalizing start with
  | nil => exact ensures_ok holds
  | cons x rest ih =>
    rw [List.foldlM_cons]
    refine (each start holds x (by simp)).bind fun acc kept => ?_
    exact ih kept fun acc kept y member => each acc kept y (by simp [member])

/-- A loop that collects values does not panic when none of its iterations does. -/
theorem ensures_mapM {f : α → Go ε β} {list : List α} (each : ∀ x ∈ list, (f x).Ensures fun _ => True) :
    (list.mapM f).Ensures fun _ => True := by
  induction list with
  | nil => exact ensures_ok trivial
  | cons x rest ih =>
    rw [List.mapM_cons]
    refine (each x (by simp)).bind fun y _ => ?_
    exact (ih fun y member => each y (by simp [member])).bind fun ys _ => ensures_ok trivial

/-- A loop whose iterations do not panic returns what each of them returns. -/
theorem ensures_mapM_forall₂ {f : α → Go ε β} {list : List α} (each : ∀ x ∈ list, (f x).Ensures fun _ => True) :
    (list.mapM f).Ensures fun ys => List.Forall₂ (fun x y => f x = .ok y) list ys :=
  ⟨(ensures_mapM each).1, fun _ ran => forall₂_of_mapM ran⟩

/-- A loop that collects values returns them when every iteration has done what it is to do. -/
theorem ensures_mapM_map {f : α → Go ε β} {g : α → β} {P : α → Prop} {list : List α}
    (each : ∀ x ∈ list, (f x).Ensures fun y => P x ∧ y = g x) :
    (list.mapM f).Ensures fun ys => (∀ x ∈ list, P x) ∧ ys = list.map g := by
  induction list with
  | nil => exact ensures_ok ⟨by simp, rfl⟩
  | cons x rest ih =>
    rw [List.mapM_cons]
    refine (each x (by simp)).bind fun y first => ?_
    refine (ih fun y member => each y (by simp [member])).bind fun ys others => ?_
    refine ensures_ok ⟨?_, by rw [first.2, others.2, List.map_cons]⟩
    rw [List.forall_mem_cons]
    exact ⟨first.1, others.1⟩

/-- A call that does not panic returns or fails. -/
theorem Ensures.cases {call : Go ε α} {P : α → Prop} (ensures : call.Ensures P) :
    (∃ value, call = .ok value ∧ P value) ∨ ∃ error, call = fail error := by
  cases outcome : call with
  | ok value => exact .inl ⟨value, rfl, ensures.2 value outcome⟩
  | error fault =>
    cases fault with
    | err error => exact .inr ⟨error, rfl⟩
    | outOfRange => exact absurd outcome ensures.1

end Go

end Wwan
