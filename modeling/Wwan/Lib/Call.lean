import Mathlib.Data.List.Basic

/-! Calls that leave a state behind also when they fail, and what they ensure. -/

namespace Wwan

/-- A call that returns a value or an error, and a state either way. -/
abbrev Call (σ ε α : Type) := EStateM ε σ α

namespace Call

variable {σ ε α β : Type}

/-- Started in this state, the call ends as one condition says if it returns, and as the other if it fails. -/
def Ensures (call : Call σ ε α) (s : σ) (returned : α → σ → Prop) (failed : σ → Prop) : Prop :=
  match call.run s with
  | .ok x s' => returned x s'
  | .error _ s' => failed s'

/-- The outcome of a call, without the state it leaves. -/
def outcome (call : Call σ ε α) (s : σ) : Except ε α :=
  match call.run s with
  | .ok x _ => .ok x
  | .error err _ => .error err

/-- The state that a call leaves. -/
def after (call : Call σ ε α) (s : σ) : σ :=
  match call.run s with
  | .ok _ s' => s'
  | .error _ s' => s'

variable {s : σ} {returned : α → σ → Prop} {failed : σ → Prop}

/-- Returning a value leaves the state. -/
theorem ensures_pure {x : α} (holds : returned x s) : Ensures (pure x : Call σ ε α) s returned failed :=
  holds

/-- Failing leaves the state. -/
theorem ensures_throw {err : ε} (holds : failed s) : Ensures (throw err : Call σ ε α) s returned failed :=
  holds

/-- A weaker condition is ensured too. -/
theorem Ensures.mono {call : Call σ ε α} {returned' : α → σ → Prop} {failed' : σ → Prop}
    (ensures : call.Ensures s returned failed) (ok : ∀ x s', returned x s' → returned' x s')
    (bad : ∀ s', failed s' → failed' s') : call.Ensures s returned' failed' := by
  unfold Ensures at ensures ⊢
  cases ran : call.run s with
  | ok x s' => simpa only [ran] using ok x s' (by simpa only [ran] using ensures)
  | error err s' => simpa only [ran] using bad s' (by simpa only [ran] using ensures)

/-- A sequence of two calls ends where the second one does, or where the first one fails. -/
theorem Ensures.bind {call : Call σ ε α} {next : α → Call σ ε β} {between : α → σ → Prop} {returned : β → σ → Prop}
    (first : call.Ensures s between failed)
    (second : ∀ x s', between x s' → (next x).Ensures s' returned failed) :
    (call >>= next).Ensures s returned failed := by
  unfold Ensures at first ⊢
  rw [EStateM.run_bind]
  cases ran : call.run s with
  -- The first call returns, and the second one runs where it left the state.
  | ok x s' =>
    rw [ran] at first
    exact second x s' first
  -- The first call fails, and the second one is not made.
  | error err s' =>
    rw [ran] at first
    exact first

/-- What follows a look at the state starts there. -/
theorem ensures_get_bind {next : σ → Call σ ε α} (holds : (next s).Ensures s returned failed) :
    Ensures (get >>= next) s returned failed :=
  holds

/-- What follows a change of the state starts in the changed one. -/
theorem ensures_modify_bind {f : σ → σ} {next : PUnit → Call σ ε α}
    (holds : (next ⟨⟩).Ensures (f s) returned failed) : Ensures (modify f >>= next) s returned failed :=
  holds

/-- A result that is only renamed is ensured under its new name. -/
theorem Ensures.map {call : Call σ ε α} {f : α → β} {returned : β → σ → Prop}
    (ensures : call.Ensures s (fun x => returned (f x)) failed) : Ensures (f <$> call) s returned failed := by
  rw [← bind_pure_comp]
  exact Ensures.bind ensures fun x s' holds => holds

/-- A choice ensures what each of its branches does. -/
theorem ensures_ite {c : Prop} [Decidable c] {yes no : Call σ ε α} (holds : c → yes.Ensures s returned failed)
    (fails : ¬ c → no.Ensures s returned failed) : (if c then yes else no).Ensures s returned failed := by
  split
  · rename_i yes
    exact holds yes
  · rename_i no
    exact fails no

/-- What is ensured of a call that returned holds of its outcome and its state. -/
theorem Ensures.of_outcome {call : Call σ ε α} {x : α} (ensures : call.Ensures s returned failed)
    (ran : call.outcome s = .ok x) : returned x (call.after s) := by
  unfold Ensures at ensures
  unfold outcome at ran
  unfold after
  cases result : call.run s with
  | ok y s' =>
    simp only [result, Except.ok.injEq] at ensures ran ⊢
    exact ran ▸ ensures
  | error err s' => simp [result] at ran

/-- What is ensured either way holds of the state that the call leaves. -/
theorem Ensures.after {call : Call σ ε α} {P : σ → Prop} (ensures : call.Ensures s (fun _ => P) P) :
    P (call.after s) := by
  unfold Ensures at ensures
  unfold Call.after
  cases result : call.run s with
  | ok y s' => simpa only [result] using ensures
  | error err s' => simpa only [result] using ensures

/-- A call that cannot fail returns. -/
theorem Ensures.returns {call : Call σ ε α} (ensures : call.Ensures s returned fun _ => False) :
    ∃ x, call.outcome s = .ok x ∧ returned x (call.after s) := by
  unfold Ensures at ensures
  unfold outcome Call.after
  cases result : call.run s with
  | ok x s' =>
    rw [result] at ensures
    exact ⟨x, rfl, ensures⟩
  | error err s' =>
    rw [result] at ensures
    exact ensures.elim

/-- The outcome of a sequence is that of its second call, or the error of the first one. -/
theorem outcome_bind (call : Call σ ε α) (next : α → Call σ ε β) (s : σ) :
    (call >>= next).outcome s =
      match call.outcome s with
      | .ok x => (next x).outcome (call.after s)
      | .error err => .error err := by
  unfold outcome after
  rw [EStateM.run_bind]
  cases call.run s <;> rfl

/-- A sequence leaves what its second call does, or what the first one does where it fails. -/
theorem after_bind (call : Call σ ε α) (next : α → Call σ ε β) (s : σ) :
    (call >>= next).after s =
      match call.outcome s with
      | .ok x => (next x).after (call.after s)
      | .error _ => call.after s := by
  unfold outcome after
  rw [EStateM.run_bind]
  cases call.run s <;> rfl

/-- A sequence returns when both of its calls do, the second one from the state that the first one leaves. -/
theorem outcome_bind_eq_ok {call : Call σ ε α} {next : α → Call σ ε β} {y : β} :
    (call >>= next).outcome s = .ok y ↔ ∃ x, call.outcome s = .ok x ∧ (next x).outcome (call.after s) = .ok y := by
  rw [outcome_bind]
  cases call.outcome s with
  | ok x => simp
  | error err => simp

/-- Every error of a call is of a kind. -/
def Fails (call : Call σ ε α) (kind : ε → Prop) : Prop := ∀ s err, call.outcome s = .error err → kind err

variable {kind : ε → Prop}

/-- Returning a value is no error. -/
theorem fails_pure {x : α} : Fails (pure x : Call σ ε α) kind := nofun

/-- Failing is failing with this error. -/
theorem fails_throw {err : ε} (holds : kind err) : Fails (throw err : Call σ ε α) kind := by
  intro s other failed
  cases failed
  exact holds

/-- The error of a sequence is that of one of its calls. -/
theorem Fails.bind {call : Call σ ε α} {next : α → Call σ ε β} (first : call.Fails kind)
    (second : ∀ x, (next x).Fails kind) : Fails (call >>= next) kind := by
  intro s err failed
  rw [outcome_bind] at failed
  cases ran : call.outcome s with
  | ok x =>
    rw [ran] at failed
    exact second x _ err failed
  | error other =>
    rw [ran] at failed
    cases failed
    exact first s err ran

/-- The error of a choice is that of one of its branches. -/
theorem fails_ite {c : Prop} [Decidable c] {yes no : Call σ ε α} (holds : yes.Fails kind) (fails : no.Fails kind) :
    (if c then yes else no).Fails kind := by
  split
  · exact holds
  · exact fails

end Call

end Wwan
