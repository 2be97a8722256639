import Mathlib.Data.List.Basic
import Mathlib.Tactic.Simps.Basic
import Mathlib.Tactic.SplitIfs

/-! Buffered Go channels, with everything that was ever sent on them. -/

namespace Wwan

/-- The identity of a channel. -/
abbrev ChanID := Nat

/-- A buffered channel. -/
structure Chan (α : Type) where
  capacity : Nat
  /-- The values waiting to be received, oldest first. -/
  buffer : List α := []
  closed : Bool := false
  /-- Every value ever sent, oldest first. -/
  sent : List α := []
  deriving DecidableEq

namespace Chan

variable {α : Type}

/-- `make(chan T, capacity)` -/
@[simps] def make (capacity : Nat) : Chan α := { capacity }

/-- There is room for one more value. -/
def hasRoom (c : Chan α) : Bool := c.buffer.length < c.capacity

/-- The channel with one more value. -/
@[simps] def push (c : Chan α) (x : α) : Chan α := { c with buffer := c.buffer ++ [x], sent := c.sent ++ [x] }

/-- The statement `c <- x`, which blocks without room and panics on a closed channel. -/
def send? (c : Chan α) (x : α) : Option (Chan α) :=
  if c.closed then none else if c.hasRoom then some (c.push x) else none

/-- The channel without its oldest waiting value. -/
@[simps] def pop (c : Chan α) : Chan α := { c with buffer := c.buffer.tail }

/-- The statement `close(c)`. -/
@[simps] def close (c : Chan α) : Chan α := { c with closed := true }

/-- A send that goes through finds room on an open channel. -/
theorem send?_eq_some {c c' : Chan α} {x : α} :
    c.send? x = some c' ↔ c.closed = false ∧ c.hasRoom = true ∧ c' = c.push x := by
  unfold send?
  split_ifs with closed room
  · simp [closed]
  · simp [closed, room, eq_comm]
  · simp [room]

/-- A loop of sends, one after the other. -/
def sendAll? (c : Chan α) (xs : List α) : Option (Chan α) := xs.foldlM send? c

/-- A loop of sends goes through on an open channel with room for all of them. -/
theorem sendAll?_eq_some {c : Chan α} {xs : List α} (isOpen : c.closed = false)
    (fits : c.buffer.length + xs.length ≤ c.capacity) :
    c.sendAll? xs = some { c with buffer := c.buffer ++ xs, sent := c.sent ++ xs } := by
  induction xs generalizing c with
  | nil => simp [sendAll?]
  | cons x rest ih =>
    simp only [List.length_cons] at fits
    have sent : c.send? x = some (c.push x) :=
      send?_eq_some.mpr ⟨isOpen, by simp [hasRoom]; omega, rfl⟩
    have more := ih (c := c.push x) isOpen (by simp; omega)
    simp only [sendAll?] at more
    simp only [sendAll?, List.foldlM_cons, sent, Option.bind_eq_bind, Option.bind_some, more]
    simp [push]

/-- A loop of sends that goes through fills the channel within its capacity. -/
theorem eq_of_sendAll? {c c' : Chan α} {xs : List α} (filled : c.sendAll? xs = some c')
    (bounded : c.buffer.length ≤ c.capacity) :
    c' = { c with buffer := c.buffer ++ xs, sent := c.sent ++ xs } ∧
      c'.buffer.length ≤ c'.capacity := by
  induction xs generalizing c with
  | nil =>
    cases filled
    simpa using bounded
  | cons x rest ih =>
    simp only [sendAll?, List.foldlM_cons, Option.bind_eq_bind, Option.bind_eq_some_iff] at filled
    obtain ⟨next, sent, filled⟩ := filled
    obtain ⟨-, room, rfl⟩ := send?_eq_some.mp sent
    simp only [hasRoom, decide_eq_true_eq] at room
    obtain ⟨rfl, bounded⟩ := ih (c := c.push x) filled (by simp; omega)
    exact ⟨by simp [push], bounded⟩

end Chan

end Wwan
