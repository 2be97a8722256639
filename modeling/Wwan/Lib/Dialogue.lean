import Wwan.Lib.Call

/-! Calls that send requests to an environment of which nothing is known but that it answers. -/

namespace Wwan

namespace Call

variable {σ ε ε' α : Type}

/-- The outcome of a call as a value, for a caller that looks at the error. -/
def attempt (call : Call σ ε α) : Call σ ε' (Except ε α) := fun s =>
  match call.run s with
  | .ok x s' => .ok (.ok x) s'
  | .error err s' => .ok (.error err) s'

/-- What follows an attempt starts where the call ends, with its value or its error. -/
theorem Ensures.attempt_bind {β : Type} {call : Call σ ε α} {s : σ} {returned : α → σ → Prop} {failed : σ → Prop}
    {next : Except ε α → Call σ ε' β} {result : β → σ → Prop} {broken : σ → Prop}
    (ensures : call.Ensures s returned failed)
    (ok : ∀ x s', returned x s' → (next (.ok x)).Ensures s' result broken)
    (bad : ∀ err s', failed s' → (next (.error err)).Ensures s' result broken) :
    (call.attempt >>= next).Ensures s result broken := by
  unfold Ensures at ensures
  cases ran : call.run s with
  | ok x s' =>
    have attempted : (call.attempt : Call σ ε' (Except ε α)).run s = .ok (.ok x) s' := by
      simp only [Call.attempt, EStateM.run] at ran ⊢
      rw [ran]
    rw [ran] at ensures
    unfold Ensures
    rw [EStateM.run_bind, attempted]
    exact ok x s' ensures
  | error err s' =>
    have attempted : (call.attempt : Call σ ε' (Except ε α)).run s = .ok (.error err) s' := by
      simp only [Call.attempt, EStateM.run] at ran ⊢
      rw [ran]
    rw [ran] at ensures
    unfold Ensures
    rw [EStateM.run_bind, attempted]
    exact bad err s' ensures

/-- What follows an attempt starts with its outcome, where the call ends. -/
theorem after_attempt_bind {β : Type} (call : Call σ ε α) (next : Except ε α → Call σ ε' β) (s : σ) :
    (call.attempt >>= next).after s = (next (call.outcome s)).after (call.after s) := by
  rw [after_bind]
  unfold attempt outcome after
  simp only [EStateM.run]
  cases call s <;> rfl

end Call

/-- A dialogue with an environment: the answers it is going to give, what was said, and the state of the caller. -/
structure Dialogue (Q A S : Type) where
  /-- Since a request follows from the answers before it, a tape of answers is any environment. -/
  tape : Nat → A
  log : List (Q × A)
  state : S

namespace Dialogue

variable {Q A S ε α : Type}

/-- The answer to the next request. -/
def answer (d : Dialogue Q A S) : A := d.tape d.log.length

/-- The dialogue after a request. -/
def say (d : Dialogue Q A S) (request : Q) : Dialogue Q A S := { d with log := d.log ++ [(request, d.answer)] }

/-- Send a request and wait for the answer. -/
def ask (request : Q) : Call (Dialogue Q A S) ε A := fun d => .ok d.answer (d.say request)

/-- The state of the caller. -/
def getState : Call (Dialogue Q A S) ε S := fun d => .ok d.state d

/-- Change the state of the caller. -/
def setState (f : S → S) : Call (Dialogue Q A S) ε Unit := fun d => .ok () { d with state := f d.state }

variable {d : Dialogue Q A S} {returned : α → Dialogue Q A S → Prop} {failed : Dialogue Q A S → Prop}

@[simp] theorem say_log (d : Dialogue Q A S) (request : Q) : (d.say request).log = d.log ++ [(request, d.answer)] := rfl
@[simp] theorem say_state (d : Dialogue Q A S) (request : Q) : (d.say request).state = d.state := rfl

/-- What follows a request starts with the answer. -/
theorem ensures_ask_bind {request : Q} {next : A → Call (Dialogue Q A S) ε α}
    (holds : (next d.answer).Ensures (d.say request) returned failed) :
    (ask request >>= next).Ensures d returned failed := holds

/-- What follows a look at the state of the caller starts with it. -/
theorem ensures_getState_bind {next : S → Call (Dialogue Q A S) ε α}
    (holds : (next d.state).Ensures d returned failed) : (getState >>= next).Ensures d returned failed := holds

/-- What follows a change of the state of the caller starts with the changed one. -/
theorem ensures_setState_bind {f : S → S} {next : Unit → Call (Dialogue Q A S) ε α}
    (holds : (next ()).Ensures { d with state := f d.state } returned failed) :
    (setState f >>= next).Ensures d returned failed := holds

end Dialogue

end Wwan
