import Wwan.Lib.Machine

/-! Goroutines that send results on a channel until they fail or their context ends. -/

namespace Wwan.Streams

/-- A streamed value, with an error if there is one. -/
structure Result (α ε : Type) where
  value : α
  err : Option ε := none
  deriving DecidableEq

/-- What a goroutine does next, where queries are named by the places they are made at. -/
inductive Act (κ ρ σ α ε : Type) where
  /-- Close the channel and return. -/
  | ret
  /-- Wait for one of the cases of a loop. -/
  | select (locals : σ)
  /-- Make a query and go on with its answer. -/
  | query (site : κ) (next : ρ → Act κ ρ σ α ε)
  /-- Return if the context has ended. -/
  | ifLive (next : Act κ ρ σ α ε)
  /-- Send a result, or return if the context ends first. -/
  | send (result : Result α ε) (next : Act κ ρ σ α ε)
  /-- Wait until the next poll. -/
  | pollWait (site : κ) (ask : ρ → Result α ε)
  /-- Start a stream of polls, to forward what it sends. -/
  | forward (site : κ) (ask : ρ → Result α ε)
  /-- Range over the stream of polls. -/
  | range

variable {κ ρ σ ι ς α ε : Type}

/-- One round of polling: an error ends it. -/
def pollLoop (site : κ) (ask : ρ → Result α ε) : Act κ ρ σ α ε :=
  .ifLive (.query site fun answer => .ifLive (.send (ask answer)
    (if (ask answer).err.isSome then .ret else .pollWait site ask)))

/-- How far a goroutine is. -/
inductive Stage (κ ρ σ α ε : Type) where
  /-- It has not been started. -/
  | absent
  | run (act : Act κ ρ σ α ε)
  /-- The context was live when it was looked at, and the goroutine is about to select. -/
  | putting (result : Result α ε) (next : Act κ ρ σ α ε)
  /-- It waits for room in the channel or for the end of the context. -/
  | blocked (result : Result α ε) (next : Act κ ρ σ α ε)
  /-- It has returned and closed its channel. -/
  | closed

/-- A goroutine with its channel. -/
structure Goroutine (κ ρ σ α ε : Type) where
  stage : Stage κ ρ σ α ε := .absent
  /-- The results in the channel. -/
  buffer : List (Result α ε) := []
  /-- The results that were put into the channel, and whether the context had ended by then. -/
  sent : List (Result α ε × Bool) := []

/-- The capacity of the channels. -/
def capacity : Nat := 1

/-- What a goroutine can be let do. -/
inductive Move (ρ ι : Type) where
  /-- Go on. -/
  | go
  /-- See in a select that the context has ended. -/
  | done
  /-- Get the answer to a query. -/
  | answer (answer : ρ)
  /-- Take a case of the loop. -/
  | case (i : ι)
  /-- See that it is time for the next poll. -/
  | tick
  deriving DecidableEq

namespace Goroutine

/-- Put a result into the channel. -/
def put (g : Goroutine κ ρ σ α ε) (cancelled : Bool) (result : Result α ε) (next : Act κ ρ σ α ε) :
    Goroutine κ ρ σ α ε :=
  { stage := .run next, buffer := g.buffer ++ [result], sent := g.sent ++ [(result, cancelled)] }

/-- One move of a goroutine whose loop has the given cases. -/
def move (body : σ → ι → Option (Act κ ρ σ α ε)) (cancelled : Bool) (g : Goroutine κ ρ σ α ε) :
    Move ρ ι → Option (Goroutine κ ρ σ α ε)
  | .go =>
    match g.stage with
    | .run .ret => some { g with stage := .closed }
    | .run (.ifLive next) => some { g with stage := .run (if cancelled then .ret else next) }
    | .run (.send result next) => some { g with stage := if cancelled then .run .ret else .putting result next }
    | .putting result next =>
      if g.buffer.length < capacity then some (g.put cancelled result next)
      else some { g with stage := if cancelled then .run .ret else .blocked result next }
    | _ => none
  | .done =>
    match g.stage with
    | .run (.select _) | .run (.pollWait _ _) | .putting _ _ =>
      if cancelled then some { g with stage := .run .ret } else none
    | _ => none
  | .answer answer =>
    match g.stage with
    | .run (.query _ next) => some { g with stage := .run (next answer) }
    | _ => none
  | .case i =>
    match g.stage with
    | .run (.select locals) => (body locals i).map fun act => { g with stage := .run act }
    | _ => none
  | .tick =>
    match g.stage with
    | .run (.pollWait site ask) => some { g with stage := .run (pollLoop site ask) }
    | _ => none

/-- The end of the context wakes a goroutine that is blocked. -/
def wake (g : Goroutine κ ρ σ α ε) : Goroutine κ ρ σ α ε :=
  match g.stage with
  | .blocked _ _ => { g with stage := .run .ret }
  | _ => g

/-- The first result leaves the channel, and makes room for that of a goroutine that is blocked. -/
def drain (cancelled : Bool) (g : Goroutine κ ρ σ α ε) : Option (Result α ε × Goroutine κ ρ σ α ε) :=
  match g.buffer with
  | [] => none
  | first :: rest =>
    match g.stage with
    | .blocked result next => some (first, { g with buffer := rest }.put cancelled result next)
    | _ => some (first, { g with buffer := rest })

end Goroutine

/-- A watcher: how it starts on each outcome of its subscriptions, and the cases of its loop. -/
structure Watcher (κ ρ σ ι ς α ε : Type) where
  start : ς → Act κ ρ σ α ε
  body : σ → ι → Option (Act κ ρ σ α ε)

/-- A watcher that runs, with the stream of polls it may forward. -/
structure Watch (κ ρ σ α ε : Type) where
  /-- The context of the consumer has ended. -/
  cancelled : Bool := false
  main : Goroutine κ ρ σ α ε := {}
  inner : Goroutine κ ρ σ α ε := {}

/-- What can happen to a watcher. -/
inductive Event (ρ ι ς : Type) where
  | start (subscriptions : ς)
  | cancel
  /-- The consumer receives a result. -/
  | receive
  | main (m : Move ρ ι)
  | inner (m : Move ρ ι)
  /-- The stream of polls is started. -/
  | forward
  /-- A result of the polls is received, to be forwarded. -/
  | take
  /-- The stream of polls has closed, and everything it sent is received. -/
  | drained
  deriving DecidableEq

namespace Watcher

variable (w : Watcher κ ρ σ ι ς α ε)

/-- One step. -/
def step (s : Watch κ ρ σ α ε) : Event ρ ι ς → Option (Watch κ ρ σ α ε)
  | .start subscriptions =>
    match s.main.stage with
    | .absent => some { s with main := { s.main with stage := .run (w.start subscriptions) } }
    | _ => none
  | .cancel =>
    if s.cancelled then none
    else some { cancelled := true, main := s.main.wake, inner := s.inner.wake }
  | .receive => (s.main.drain s.cancelled).map fun (_, main) => { s with main }
  | .main m => (s.main.move w.body s.cancelled m).map fun main => { s with main }
  | .inner m => (s.inner.move w.body s.cancelled m).map fun inner => { s with inner }
  | .forward =>
    match s.main.stage with
    | .run (.forward site ask) =>
      some { s with main := { s.main with stage := .run .range }, inner := { stage := .run (pollLoop site ask) } }
    | _ => none
  | .take =>
    match s.main.stage with
    | .run .range =>
      (s.inner.drain s.cancelled).map fun (result, inner) =>
        { s with main := { s.main with stage := .run (.send result .range) }, inner }
    | _ => none
  | .drained =>
    match s.main.stage, s.inner.stage, s.inner.buffer with
    | .run .range, .closed, [] => some { s with main := { s.main with stage := .run .ret } }
    | _, _, _ => none

/-- The machine of a watcher. -/
def machine : Machine (Watch κ ρ σ α ε) (Event ρ ι ς) where
  init := {}
  step := w.step

end Watcher

end Wwan.Streams
