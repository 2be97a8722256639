import Mathlib.Algebra.Ring.Int.Defs
import Mathlib.Algebra.Ring.Nat
import Mathlib.Data.List.Basic

/-! State machines whose events carry every choice, and what holds along their runs. -/

namespace Wwan

/-- A machine that accepts an event in a state or refuses it. -/
structure Machine (σ ε : Type) where
  init : σ
  step : σ → ε → Option σ

namespace Machine

variable {σ ε : Type} (m : Machine σ ε)

/-- A finite run, as the accepted events with the states they were accepted in, and its last state. -/
inductive Runs : List (σ × ε) → σ → Prop where
  | init : Runs [] m.init
  | step {trace : List (σ × ε)} {s s' : σ} {e : ε} :
      Runs trace s → m.step s e = some s' → Runs (trace ++ [(s, e)]) s'

/-- Run a list of events from a state. -/
def runFrom (m : Machine σ ε) (s : σ) : List ε → Option (List (σ × ε) × σ)
  | [] => some ([], s)
  | e :: rest =>
    match m.step s e with
    | none => none
    | some s' => (runFrom m s' rest).map fun (trace, last) => ((s, e) :: trace, last)

variable {m}

/-- What holds at the start and is kept by every step holds along every run. -/
theorem Runs.invariant {P : List (σ × ε) → σ → Prop} (start : P [] m.init)
    (kept : ∀ trace s e s', m.Runs trace s → P trace s → m.step s e = some s' →
      P (trace ++ [(s, e)]) s')
    {trace : List (σ × ε)} {s : σ} (run : m.Runs trace s) : P trace s := by
  induction run with
  | init => exact start
  | step earlier accepted ih => exact kept _ _ _ _ earlier ih accepted

/-- What holds of the initial state and is kept by every step holds in every reachable state. -/
theorem Runs.stateInvariant {P : σ → Prop} (start : P m.init)
    (kept : ∀ s e s', P s → m.step s e = some s' → P s') {trace : List (σ × ε)} {s : σ}
    (run : m.Runs trace s) : P s :=
  Runs.invariant (P := fun _ s => P s) start (fun _ s e s' _ => kept s e s') run

/-- Each step of a run was accepted after the part of the run before it. -/
theorem Runs.accepted {before after : List (σ × ε)} {s last : σ} {e : ε}
    (run : m.Runs (before ++ (s, e) :: after) last) :
    m.Runs before s ∧ ∃ s', m.step s e = some s' ∧ m.Runs (before ++ [(s, e)]) s' := by
  generalize whole : before ++ (s, e) :: after = trace at run
  -- Induction on the run, which ends in the step or goes on behind it.
  induction run generalizing after with
  | init => simp at whole
  | step earlier accepted ih =>
    rcases List.eq_nil_or_concat' after with rfl | ⟨after, final, rfl⟩
    · -- The step in question is the last one.
      obtain ⟨rfl, same⟩ := List.append_inj' whole rfl
      simp only [List.cons.injEq, Prod.mk.injEq, and_true] at same
      obtain ⟨rfl, rfl⟩ := same
      exact ⟨earlier, _, accepted, .step earlier accepted⟩
    · -- The step is in the earlier part.
      rw [← List.cons_append, ← List.append_assoc] at whole
      exact ih (List.append_inj' whole rfl).1

/-- What a step of a run brings about and every step keeps holds at its end. -/
theorem Runs.since {P : σ → Prop}
    (kept : ∀ trace s e s', m.Runs trace s → P s → m.step s e = some s' → P s')
    {before after : List (σ × ε)} {s s' last : σ} {e : ε}
    (run : m.Runs (before ++ (s, e) :: after) last) (accepted : m.step s e = some s') (holds : P s') :
    P last := by
  generalize whole : before ++ (s, e) :: after = trace at run
  -- Induction on the run, as above.
  induction run generalizing after with
  | init => simp at whole
  | step earlier final ih =>
    rcases List.eq_nil_or_concat' after with rfl | ⟨after, _, rfl⟩
    · -- The step is the last one, and brings it about.
      obtain ⟨-, same⟩ := List.append_inj' whole rfl
      simp only [List.cons.injEq, Prod.mk.injEq, and_true] at same
      obtain ⟨rfl, rfl⟩ := same
      cases accepted.symm.trans final
      exact holds
    · -- It held before the last step, which keeps it.
      rw [← List.cons_append, ← List.append_assoc] at whole
      exact kept _ _ _ _ earlier (ih (List.append_inj' whole rfl).1) final

/-- Every state that a run reaches has a property. -/
def Throughout (m : Machine σ ε) (trace : List (σ × ε)) (P : σ → Prop) : Prop :=
  ∀ before after s, trace = before ++ after → m.Runs before s → P s

/-- What holds at the start and is kept by every step but some holds at the end of a run without those. -/
theorem Runs.invariantUnless {P : σ → Prop} {Breaks : σ → ε → Prop} (start : P m.init)
    (kept : ∀ s e s', P s → ¬ Breaks s e → m.step s e = some s' → P s') {trace : List (σ × ε)} {s : σ}
    (run : m.Runs trace s) (fine : ∀ step ∈ trace, ¬ Breaks step.1 step.2) : P s := by
  revert fine
  refine Runs.invariant (P := fun trace s => (∀ step ∈ trace, ¬ Breaks step.1 step.2) → P s) (fun _ => start) ?_ run
  intro trace s e s' _ ih accepted fine
  refine kept s e s' (ih fun step member => fine step (List.mem_append_left _ member)) ?_ accepted
  exact fine (s, e) (by simp)

/-- What such a run keeps holds in every state that it reaches. -/
theorem Runs.throughoutUnless {P Q : σ → Prop} {Breaks : σ → ε → Prop} (start : Q m.init) (good : ∀ s, Q s → P s)
    (kept : ∀ s e s', Q s → ¬ Breaks s e → m.step s e = some s' → Q s') {trace : List (σ × ε)}
    (fine : ∀ step ∈ trace, ¬ Breaks step.1 step.2) : m.Throughout trace P := by
  intro before after s split reached
  refine good s (Runs.invariantUnless start kept reached fun step member => fine step ?_)
  rw [split]
  exact List.mem_append_left _ member

/-- Where some steps break a property at once and all others keep it, it holds throughout exactly the runs without such
steps. -/
theorem Runs.throughout_iff {P Q : σ → Prop} {Breaks : σ → ε → Prop} (start : Q m.init) (good : ∀ s, Q s → P s)
    (kept : ∀ s e s', Q s → ¬ Breaks s e → m.step s e = some s' → Q s')
    (broken : ∀ trace s e s', m.Runs trace s → Breaks s e → m.step s e = some s' → ¬ P s')
    {trace : List (σ × ε)} {last : σ} (run : m.Runs trace last) :
    m.Throughout trace P ↔ ∀ step ∈ trace, ¬ Breaks step.1 step.2 := by
  constructor
  · rintro holds ⟨s, e⟩ member breaks
    obtain ⟨before, after, rfl⟩ := List.append_of_mem member
    obtain ⟨earlier, s', accepted, reached⟩ := run.accepted
    exact broken before s e s' earlier breaks accepted (holds (before ++ [(s, e)]) after s' (by simp) reached)
  · exact Runs.throughoutUnless start good kept

/-- A part of a machine that follows another machine turns its runs into runs of that machine. -/
theorem Runs.project {τ φ : Type} {n : Machine τ φ} (part : σ → τ) (view : σ → ε → Option φ)
    (start : part m.init = n.init)
    (idle : ∀ s e s', m.step s e = some s' → view s e = none → part s' = part s)
    (follows : ∀ s e s' f, m.step s e = some s' → view s e = some f →
      n.step (part s) f = some (part s'))
    {trace : List (σ × ε)} {s : σ} (run : m.Runs trace s) :
    n.Runs (trace.filterMap fun (s, e) => (view s e).map fun f => (part s, f)) (part s) := by
  -- A step of the whole is a step of the part, or leaves the part alone.
  induction run with
  | init =>
    rw [start]
    exact .init
  | step earlier accepted ih =>
    rename_i before s s' e
    rw [List.filterMap_append]
    cases seen : view s e with
    | none => simpa [seen, idle s e s' accepted seen] using ih
    | some f => simpa [seen] using .step ih (follows s e s' f accepted seen)

/-- The events of a run of listed events are those listed. -/
theorem map_snd_runFrom {s last : σ} {events : List ε} {trace : List (σ × ε)}
    (ran : m.runFrom s events = some (trace, last)) : trace.map Prod.snd = events := by
  -- Induction on the events.
  induction events generalizing s trace with
  | nil =>
    cases ran
    rfl
  | cons e rest ih =>
    rw [Machine.runFrom] at ran
    cases accepted : m.step s e with
    | none => simp [accepted] at ran
    | some s' =>
      rw [accepted] at ran
      simp only [Option.map_eq_some_iff, Prod.exists, Prod.mk.injEq] at ran
      obtain ⟨more, last, ran, rfl, rfl⟩ := ran
      rw [List.map_cons, ih ran]

/-- Running listed events extends a run. -/
theorem Runs.runFrom {trace : List (σ × ε)} {s : σ} (run : m.Runs trace s) {events : List ε}
    {more : List (σ × ε)} {last : σ} (ran : m.runFrom s events = some (more, last)) :
    m.Runs (trace ++ more) last := by
  -- Each event is one more step of the run.
  induction events generalizing trace s more with
  | nil =>
    simp only [Machine.runFrom, Option.some.injEq, Prod.mk.injEq] at ran
    obtain ⟨rfl, rfl⟩ := ran
    simpa using run
  | cons e rest ih =>
    rw [Machine.runFrom] at ran
    cases accepted : m.step s e with
    | none => simp [accepted] at ran
    | some s' =>
      rw [accepted] at ran
      simp only [Option.map_eq_some_iff, Prod.exists, Prod.mk.injEq] at ran
      obtain ⟨more, last, ran, rfl, rfl⟩ := ran
      simpa using ih (.step run accepted) ran

/-- Listed events that run from the start make a run, in which the same is seen. -/
theorem exists_runs {β : Type} {look : List (σ × ε) × σ → β} {events : List ε} {seen : β}
    (glance : (m.runFrom m.init events).map look = some seen) :
    ∃ trace s, m.Runs trace s ∧ trace.map Prod.snd = events ∧ look (trace, s) = seen := by
  obtain ⟨⟨trace, s⟩, ran, same⟩ := Option.map_eq_some_iff.mp glance
  exact ⟨trace, s, Runs.runFrom .init ran, map_snd_runFrom ran, same⟩

/-- Some events lead from one state to another. -/
def Leads (m : Machine σ ε) (s s' : σ) : Prop := ∃ events trace, m.runFrom s events = some (trace, s')

/-- No event leads anywhere else. -/
theorem Leads.refl (s : σ) : m.Leads s s := ⟨[], [], rfl⟩

/-- One event more. -/
theorem Leads.cons {s t s' : σ} {e : ε} (accepted : m.step s e = some t) (later : m.Leads t s') :
    m.Leads s s' := by
  obtain ⟨events, trace, ran⟩ := later
  exact ⟨e :: events, (s, e) :: trace, by simp [Machine.runFrom, accepted, ran]⟩

/-- One way after another. -/
theorem Leads.trans {s t s' : σ} (first : m.Leads s t) (second : m.Leads t s') : m.Leads s s' := by
  -- Induction on the events of the first way.
  obtain ⟨events, trace, ran⟩ := first
  induction events generalizing s trace with
  | nil =>
    cases ran
    exact second
  | cons e rest ih =>
    rw [Machine.runFrom] at ran
    cases accepted : m.step s e with
    | none => simp [accepted] at ran
    | some next =>
      rw [accepted] at ran
      simp only [Option.map_eq_some_iff, Prod.exists, Prod.mk.injEq] at ran
      obtain ⟨more, last, ran, -, rfl⟩ := ran
      exact .cons accepted (ih more ran)

/-- Listed events that are all accepted make a run. -/
theorem Runs.ofEvents (m : Machine σ ε) (events : List ε) (accepted : (m.runFrom m.init events).isSome) :
    m.Runs ((m.runFrom m.init events).get accepted).1 ((m.runFrom m.init events).get accepted).2 := by
  have ran : m.runFrom m.init events = some (((m.runFrom m.init events).get accepted).1,
      ((m.runFrom m.init events).get accepted).2) := (Option.some_get accepted).symm
  exact Runs.runFrom .init ran

end Machine

end Wwan
