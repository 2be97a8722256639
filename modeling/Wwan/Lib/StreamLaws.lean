import Wwan.Lib.Streams

/-! Streams end with their first error, and end without one when their context does. -/

namespace Wwan.Streams

variable {κ ρ σ ι ς α ε : Type} {allowed : κ → ρ → Prop}

/-- Whatever the queries answer, as far as it is allowed, a goroutine returns after an error it sends. -/
def Act.Terminal (allowed : κ → ρ → Prop) : Act κ ρ σ α ε → Prop
  | .ret | .select _ | .pollWait _ _ | .forward _ _ => True
  | .query site next => ∀ answer, allowed site answer → (next answer).Terminal allowed
  | .ifLive next => next.Terminal allowed
  | .send result next => (result.err ≠ none → next = .ret) ∧ next.Terminal allowed
  -- Only the machine of a watcher ranges over polls.
  | .range => False

/-- The same of a goroutine that is about to send. -/
def Stage.Terminal (allowed : κ → ρ → Prop) : Stage κ ρ σ α ε → Prop
  | .absent | .closed => True
  | .run act => act.Terminal allowed
  | .putting result next | .blocked result next => (result.err ≠ none → next = .ret) ∧ next.Terminal allowed

/-- Polling ends with an error. -/
theorem pollLoop_terminal (site : κ) (ask : ρ → Result α ε) :
    (pollLoop site ask : Act κ ρ σ α ε).Terminal allowed := by
  intro answer _
  show _ ∧ _
  split
  · exact ⟨fun _ => rfl, trivial⟩
  · next fine =>
    refine ⟨fun failed => absurd ?_ fine, trivial⟩
    simpa [Option.isSome_iff_ne_none] using failed

/-- The watchers that return after every error. -/
structure Watcher.Lawful (w : Watcher κ ρ σ ι ς α ε) (allowed : κ → ρ → Prop) : Prop where
  start : ∀ subscriptions, (w.start subscriptions).Terminal allowed
  body : ∀ locals i act, w.body locals i = some act → act.Terminal allowed

namespace Goroutine

/-- No error was sent. -/
def Clean (g : Goroutine κ ρ σ α ε) : Prop := ∀ entry ∈ g.sent, entry.1.err = none

/-- No error was sent except perhaps last. -/
def ErrorLast (g : Goroutine κ ρ σ α ε) : Prop :=
  ∀ before entry after, g.sent = before ++ entry :: after → entry.1.err ≠ none → after = []

/-- The goroutine does nothing more than return. -/
def Over (g : Goroutine κ ρ σ α ε) : Prop := g.stage = .run .ret ∨ g.stage = .closed

/-- The goroutine has sent no error and will return after one, or has sent one and returns. -/
def Own (allowed : κ → ρ → Prop) (g : Goroutine κ ρ σ α ε) : Prop :=
  (g.Clean ∧ g.stage.Terminal allowed) ∨ (g.ErrorLast ∧ g.Over)

/-- Without errors, none is before the last. -/
theorem Clean.errorLast {g : Goroutine κ ρ σ α ε} (clean : g.Clean) : g.ErrorLast := by
  intro before entry after split failed
  exact absurd (clean entry (by simp [split])) failed

/-- Both ways, errors are last. -/
theorem Own.errorLast {g : Goroutine κ ρ σ α ε} (own : g.Own allowed) : g.ErrorLast :=
  own.elim (fun clean => clean.1.errorLast) And.left

/-- After results without errors, one more result may be an error. -/
theorem Clean.errorLast_put {g : Goroutine κ ρ σ α ε} (clean : g.Clean) (cancelled : Bool) (result : Result α ε)
    (next : Act κ ρ σ α ε) : (g.put cancelled result next).ErrorLast := by
  intro before entry after split failed
  rcases List.eq_nil_or_concat' after with rfl | ⟨rest, last, rfl⟩
  · rfl
  · -- Anything before the last result was sent earlier.
    rw [put, ← List.cons_append, ← List.append_assoc] at split
    have earlier := (List.append_inj' split rfl).1
    exact absurd (clean entry (by simp [earlier])) failed

/-- A result without an error keeps it so. -/
theorem Clean.put {g : Goroutine κ ρ σ α ε} (clean : g.Clean) {result : Result α ε} (fine : result.err = none)
    (cancelled : Bool) (next : Act κ ρ σ α ε) : (g.put cancelled result next).Clean := by
  intro entry member
  rcases List.mem_append.mp member with earlier | last
  · exact clean entry earlier
  · rw [List.mem_singleton.mp last]
    exact fine

/-- Putting a result after which the goroutine returns if it is an error. -/
theorem Clean.own_put {g : Goroutine κ ρ σ α ε} (clean : g.Clean) (cancelled : Bool) {result : Result α ε}
    {next : Act κ ρ σ α ε} (terminal : (result.err ≠ none → next = .ret) ∧ next.Terminal allowed) :
    (g.put cancelled result next).Own allowed := by
  by_cases fine : result.err = none
  · exact .inl ⟨clean.put fine cancelled next, terminal.2⟩
  · refine .inr ⟨clean.errorLast_put cancelled result next, .inl ?_⟩
    rw [Goroutine.put, terminal.1 fine]

/-- A goroutine keeps to returning after errors, if the answers to its queries are allowed. -/
theorem Own.move {body : σ → ι → Option (Act κ ρ σ α ε)} {cancelled : Bool} {g g' : Goroutine κ ρ σ α ε}
    {m : Move ρ ι} (own : g.Own allowed)
    (lawful : ∀ locals i act, g.stage = .run (.select locals) → body locals i = some act → act.Terminal allowed)
    (answers : ∀ site next answer, g.stage = .run (.query site next) → m = .answer answer → allowed site answer)
    (ran : g.move body cancelled m = some g') : g'.Own allowed := by
  rcases own with ⟨clean, terminal⟩ | ⟨last, past⟩
  · -- Without an error so far, every move goes on with what is terminal.
    cases m with
    | go =>
      simp only [Goroutine.move] at ran
      split at ran
      · -- The goroutine begins.
        next stage =>
        cases ran
        exact .inl ⟨clean, trivial⟩
      · -- It looks at the context, and goes on or returns.
        next next stage =>
        rw [stage] at terminal
        cases ran
        refine .inl ⟨clean, ?_⟩
        show Act.Terminal allowed _
        split
        · trivial
        · exact terminal
      · -- It looks at the context before a send.
        next result next stage =>
        rw [stage] at terminal
        cases ran
        refine .inl ⟨clean, ?_⟩
        show Stage.Terminal allowed (if cancelled then _ else _)
        split
        · trivial
        · exact terminal
      · -- There is room for the result, or the goroutine waits with it.
        next result next stage =>
        rw [stage] at terminal
        split at ran
        · cases ran
          exact clean.own_put cancelled terminal
        · cases ran
          refine .inl ⟨clean, ?_⟩
          show Stage.Terminal allowed (if cancelled then _ else _)
          split
          · trivial
          · exact terminal
      · cases ran
    | done =>
      -- It notices the end of the context, and returns.
      simp only [Goroutine.move] at ran
      split at ran <;> try split at ran
      all_goals cases ran
      all_goals exact .inl ⟨clean, trivial⟩
    | answer answer =>
      -- An answer that is allowed has a terminal continuation.
      simp only [Goroutine.move] at ran
      split at ran
      · next site next stage =>
        rw [stage] at terminal
        cases ran
        exact .inl ⟨clean, terminal answer (answers site next answer stage rfl)⟩
      · cases ran
    | case i =>
      -- A branch of the select is lawful.
      simp only [Goroutine.move] at ran
      split at ran
      · next locals stage =>
        obtain ⟨act, taken, rfl⟩ := Option.map_eq_some_iff.mp ran
        exact .inl ⟨clean, lawful locals i act stage taken⟩
      · cases ran
    | tick =>
      -- The next poll is made.
      simp only [Goroutine.move] at ran
      split at ran
      · next site ask stage =>
        cases ran
        exact .inl ⟨clean, pollLoop_terminal site ask⟩
      · cases ran
  · -- A goroutine that returns can only close its channel.
    rcases past with stage | stage <;> cases m <;> simp [Goroutine.move, stage] at ran
    subst ran
    exact .inr ⟨last, .inr rfl⟩

/-- The end of the context keeps it. -/
theorem Own.wake {g : Goroutine κ ρ σ α ε} (own : g.Own allowed) : g.wake.Own allowed := by
  rw [Goroutine.wake]
  split
  · next result next stage =>
    rcases own with ⟨clean, -⟩ | ⟨-, past⟩
    · exact .inl ⟨clean, trivial⟩
    · rcases past with past | past <;> simp [stage] at past
  · exact own

/-- Receiving keeps it. -/
theorem Own.drain {g g' : Goroutine κ ρ σ α ε} {cancelled : Bool} {result : Result α ε} (own : g.Own allowed)
    (ran : g.drain cancelled = some (result, g')) : g'.Own allowed := by
  rw [Goroutine.drain] at ran
  split at ran
  · cases ran
  · -- Receiving makes room for the result that waits.
    split at ran
    · next held next stage =>
      cases ran
      rcases own with ⟨clean, terminal⟩ | ⟨-, past⟩
      · rw [stage] at terminal
        exact Clean.own_put clean cancelled terminal
      · -- A goroutine that returns waits with nothing.
        rcases past with past | past <;> simp [stage] at past
    · cases ran
      exact own

end Goroutine

/-! The end of the context. -/

/-- No error was sent, nor will be, once the context had ended. -/
structure Goroutine.Timely (g : Goroutine κ ρ σ α ε) (cancelled : Bool) : Prop where
  sent : ∀ entry ∈ g.sent, entry.2 = true → entry.1.err = none
  putting : ∀ result next, g.stage = .putting result next → result.err ≠ none → cancelled = false

/-- No goroutine is blocked once the context has ended. -/
def Goroutine.Awake (g : Goroutine κ ρ σ α ε) (cancelled : Bool) : Prop :=
  ∀ result next, g.stage = .blocked result next → cancelled = false

namespace Goroutine

/-- Every goroutine whose stage is no wait is awake. -/
theorem awake_of_ne {g : Goroutine κ ρ σ α ε} (free : ∀ result next, g.stage ≠ .blocked result next)
    (cancelled : Bool) : g.Awake cancelled := fun result next stage => absurd stage (free result next)

/-- A move blocks only while the context is live. -/
theorem Awake.move {body : σ → ι → Option (Act κ ρ σ α ε)} {cancelled : Bool} {g g' : Goroutine κ ρ σ α ε}
    {m : Move ρ ι} (ran : g.move body cancelled m = some g') : g'.Awake cancelled := by
  -- Only a send that finds no room makes a goroutine wait, and not after the end of the context.
  intro result next stage
  cases m with
  | go =>
    simp only [Goroutine.move] at ran
    split at ran
    · cases ran
      cases stage
    · cases ran
      cases stage
    · cases ran
      cases cancelled <;> simp at stage
    · -- The context is looked at before waiting.
      split at ran
      · cases ran
        cases stage
      · cases ran
        cases cancelled <;> simp_all
    · cases ran
  | done =>
    simp only [Goroutine.move] at ran
    split at ran <;> try split at ran
    all_goals cases ran
    all_goals cases stage
  | answer | tick =>
    simp only [Goroutine.move] at ran
    split at ran <;> cases ran
    cases stage
  | case i =>
    simp only [Goroutine.move] at ran
    split at ran
    · obtain ⟨act, -, rfl⟩ := Option.map_eq_some_iff.mp ran
      cases stage
    · cases ran

/-- The end of the context leaves nothing blocked. -/
theorem awake_wake (g : Goroutine κ ρ σ α ε) (cancelled : Bool) : g.wake.Awake cancelled := by
  intro result next stage
  rw [Goroutine.wake] at stage
  split at stage
  · cases stage
  · next free => exact absurd stage (free result next)

/-- Receiving blocks nothing. -/
theorem awake_drain {g g' : Goroutine κ ρ σ α ε} {cancelled : Bool} {result : Result α ε}
    (ran : g.drain cancelled = some (result, g')) (now : Bool) : g'.Awake now := by
  rw [Goroutine.drain] at ran
  split at ran
  · cases ran
  · split at ran
    · cases ran
      exact awake_of_ne (by simp [Goroutine.put]) now
    · next free =>
      cases ran
      exact awake_of_ne free now

/-- A goroutine that sends nothing at the moment. -/
theorem Timely.run {g : Goroutine κ ρ σ α ε} {cancelled : Bool} {stage : Stage κ ρ σ α ε}
    (timely : g.Timely cancelled) (idle : ∀ result next, stage ≠ .putting result next) (now : Bool) :
    { g with stage }.Timely now :=
  ⟨timely.sent, fun result next same => absurd same (idle result next)⟩

/-- A result is put after the end of the context only if it is no error. -/
theorem Timely.put {g : Goroutine κ ρ σ α ε} {cancelled : Bool} {result : Result α ε} (timely : g.Timely cancelled)
    (early : result.err ≠ none → cancelled = false) (next : Act κ ρ σ α ε) (now : Bool) :
    (g.put cancelled result next).Timely now := by
  refine ⟨?_, by simp [Goroutine.put]⟩
  intro entry member late
  rcases List.mem_append.mp member with earlier | last
  · exact timely.sent entry earlier late
  · rw [List.mem_singleton.mp last] at late ⊢
    by_contra failed
    exact absurd (early failed) (by simpa using late)

/-- A move sends no error after the end of the context. -/
theorem Timely.move {body : σ → ι → Option (Act κ ρ σ α ε)} {cancelled : Bool} {g g' : Goroutine κ ρ σ α ε}
    {m : Move ρ ι} (timely : g.Timely cancelled) (ran : g.move body cancelled m = some g') : g'.Timely cancelled := by
  -- Only the moves that send something matter.
  cases m with
  | go =>
    simp only [Goroutine.move] at ran
    split at ran
    · cases ran
      exact timely.run (by simp) _
    · cases ran
      exact timely.run (by simp) _
    · -- The result is about to be put.
      next result next stage =>
      cases ran
      -- The context is looked at just before the select.
      refine ⟨timely.sent, ?_⟩
      intro held after same
      cases cancelled <;> simp_all
    · -- It is put, or the goroutine waits with it.
      next result next stage =>
      split at ran
      · cases ran
        exact timely.put (timely.putting result next stage) next cancelled
      · cases ran
        refine ⟨timely.sent, ?_⟩
        intro held after same
        cases cancelled <;> simp_all
    · cases ran
  -- The other moves send nothing.
  | done =>
    simp only [Goroutine.move] at ran
    split at ran <;> try split at ran
    all_goals cases ran
    all_goals exact timely.run (by simp) _
  | answer answer =>
    simp only [Goroutine.move] at ran
    split at ran <;> cases ran
    exact timely.run (by simp) _
  | case i =>
    simp only [Goroutine.move] at ran
    split at ran
    · obtain ⟨act, -, rfl⟩ := Option.map_eq_some_iff.mp ran
      exact timely.run (by simp) _
    · cases ran
  | tick =>
    simp only [Goroutine.move] at ran
    split at ran <;> cases ran
    exact timely.run (by simp) _

/-- Receiving lets a goroutine send only before the end of the context. -/
theorem Timely.drain {g g' : Goroutine κ ρ σ α ε} {result : Result α ε} {cancelled : Bool}
    (timely : g.Timely cancelled) (awake : g.Awake cancelled) (ran : g.drain cancelled = some (result, g')) :
    g'.Timely cancelled := by
  rw [Goroutine.drain] at ran
  split at ran
  · cases ran
  · -- A result that waits is put, and the context has not ended as long as it waits.
    next first rest _ =>
    split at ran
    · next held next stage =>
      cases ran
      have kept : { g with buffer := rest }.Timely cancelled := ⟨timely.sent, timely.putting⟩
      exact kept.put (fun _ => awake held next stage) next cancelled
    · cases ran
      exact ⟨timely.sent, timely.putting⟩

/-- The end of the context finds no error about to be sent. -/
theorem Timely.wake {g : Goroutine κ ρ σ α ε} {cancelled : Bool} (timely : g.Timely cancelled)
    (idle : ∀ result next, g.stage = .putting result next → result.err = none) : g.wake.Timely true := by
  rw [Goroutine.wake]
  split
  · exact timely.run (by simp) true
  · exact ⟨timely.sent, fun result next stage failed => absurd (idle result next stage) failed⟩

end Goroutine

/-! Forwarding. -/

/-- The goroutine ranges over the polls, and holds one of their results or none. -/
inductive Forwards : Stage κ ρ σ α ε → Option (Result α ε) → Prop where
  | range : Forwards (.run .range) none
  | send (result : Result α ε) : Forwards (.run (.send result .range)) (some result)
  | putting (result : Result α ε) : Forwards (.putting result .range) (some result)
  | blocked (result : Result α ε) : Forwards (.blocked result .range) (some result)

/-- The stream of polls has nothing more to give. -/
def Goroutine.Exhausted (g : Goroutine κ ρ σ α ε) : Prop := g.Over ∧ g.buffer = []

/-- A goroutine that only polls. -/
def Act.Alone : Act κ ρ σ α ε → Prop
  | .ret | .pollWait _ _ => True
  | .query _ next => ∀ answer, (next answer).Alone
  | .ifLive next | .send _ next => next.Alone
  | .select _ | .forward _ _ | .range => False

/-- The same of a goroutine that is about to send. -/
def Stage.Alone : Stage κ ρ σ α ε → Prop
  | .absent => False
  | .closed => True
  | .run act => act.Alone
  | .putting _ next | .blocked _ next => next.Alone

/-- A round of polling only polls. -/
theorem pollLoop_alone (site : κ) (ask : ρ → Result α ε) : (pollLoop site ask : Act κ ρ σ α ε).Alone := by
  intro answer
  show Act.Alone (if _ then _ else _)
  split <;> trivial

/-- The stream of polls ends with an error, and its channel has what was not received. -/
structure Goroutine.Polls (g : Goroutine κ ρ σ α ε) : Prop where
  own : g.Own fun _ _ => True
  alone : g.stage.Alone
  pending : ∃ taken, g.sent.map Prod.fst = taken ++ g.buffer

namespace Goroutine

/-- A result is put behind those that were not received. -/
theorem Polls.pending_put {g : Goroutine κ ρ σ α ε} (pending : ∃ taken, g.sent.map Prod.fst = taken ++ g.buffer)
    (cancelled : Bool) (result : Result α ε) (next : Act κ ρ σ α ε) :
    ∃ taken, (g.put cancelled result next).sent.map Prod.fst = taken ++ (g.put cancelled result next).buffer := by
  obtain ⟨taken, same⟩ := pending
  exact ⟨taken, by simp [put, same]⟩

/-- A goroutine that only polls goes on polling. -/
theorem alone_move {body : σ → ι → Option (Act κ ρ σ α ε)} {cancelled : Bool} {g g' : Goroutine κ ρ σ α ε}
    {m : Move ρ ι} (alone : g.stage.Alone) (ran : g.move body cancelled m = some g') : g'.stage.Alone := by
  -- What a goroutine does alone never leads to a select.
  cases m with
  | go =>
    simp only [Goroutine.move] at ran
    split at ran
    · cases ran
      trivial
    · -- It looks at the context.
      next next stage =>
      rw [stage] at alone
      cases ran
      show Act.Alone (if cancelled then _ else _)
      split
      · trivial
      · exact alone
    · -- It looks at the context before a send.
      next result next stage =>
      rw [stage] at alone
      cases ran
      show Stage.Alone (if cancelled then _ else _)
      split
      · trivial
      · exact alone
    · -- It puts the result, or waits with it.
      next result next stage =>
      rw [stage] at alone
      split at ran
      · cases ran
        exact alone
      · cases ran
        show Stage.Alone (if cancelled then _ else _)
        split
        · trivial
        · exact alone
    · cases ran
  | done =>
    simp only [Goroutine.move] at ran
    split at ran <;> try split at ran
    all_goals cases ran
    all_goals trivial
  -- Every answer has a continuation that stays alone.
  | answer answer =>
    simp only [Goroutine.move] at ran
    split at ran
    · next site next stage =>
      rw [stage] at alone
      cases ran
      exact alone answer
    · cases ran
  | case i =>
    simp only [Goroutine.move] at ran
    split at ran
    · next locals stage =>
      rw [stage] at alone
      exact alone.elim
    · cases ran
  | tick =>
    simp only [Goroutine.move] at ran
    split at ran
    · cases ran
      exact pollLoop_alone _ _
    · cases ran

/-- Polling goes on as it should. -/
theorem Polls.move {body : σ → ι → Option (Act κ ρ σ α ε)} {cancelled : Bool} {g g' : Goroutine κ ρ σ α ε}
    {m : Move ρ ι} (polls : g.Polls) (ran : g.move body cancelled m = some g') : g'.Polls := by
  have alone := polls.alone
  -- Such a goroutine takes no branch of a select, so that the laws of moves apply.
  refine ⟨polls.own.move ?_ (fun _ _ _ _ _ => trivial) ran, alone_move alone ran, ?_⟩
  · intro locals i act stage
    rw [stage] at alone
    exact alone.elim
  · -- What is in the channel is the end of what was sent.
    have pending := polls.pending
    cases m <;> simp only [Goroutine.move] at ran <;> split at ran <;> try split at ran
    all_goals
      first
        | (cases ran; exact pending)
        | (cases ran; exact pending_put pending _ _ _)
        | (obtain ⟨act, -, rfl⟩ := Option.map_eq_some_iff.mp ran; exact pending)
        | cases ran

/-- The end of the context keeps it. -/
theorem Polls.wake {g : Goroutine κ ρ σ α ε} (polls : g.Polls) : g.wake.Polls := by
  refine ⟨polls.own.wake, ?_, ?_⟩ <;> rw [Goroutine.wake] <;> split
  · trivial
  · exact polls.alone
  · exact polls.pending
  · exact polls.pending

/-- Receiving takes the results one by one, and an error is the last of them. -/
theorem Polls.drain {g g' : Goroutine κ ρ σ α ε} {cancelled : Bool} {result : Result α ε} (polls : g.Polls)
    (ran : g.drain cancelled = some (result, g')) : g'.Polls ∧ (result.err ≠ none → g'.Exhausted) := by
  obtain ⟨taken, same⟩ := polls.pending
  have own := polls.own.drain ran
  rw [Goroutine.drain] at ran
  split at ran
  · cases ran
  · next first rest buffer =>
    rw [buffer] at same
    -- The first result in the channel was sent, so an error among the first leaves nothing behind it.
    have ended (failed : first.err ≠ none) : g.Over ∧ rest = [] := by
      obtain ⟨before, more, split, -, tail⟩ := List.map_eq_append_iff.mp same
      obtain ⟨entry, after, rfl, rfl, rfl⟩ := List.map_eq_cons_iff.mp tail
      rcases polls.own with ⟨clean, -⟩ | ⟨last, past⟩
      · exact absurd (clean entry (by simp [split])) failed
      · exact ⟨past, by rw [last before entry after split failed, List.map_nil]⟩
    have remaining : ∃ taken, g.sent.map Prod.fst = taken ++ rest := ⟨taken ++ [first], by simp [same]⟩
    -- The result that waits takes the place of the one that was received.
    split at ran
    · next held next stage =>
      cases ran
      have alone := polls.alone
      rw [stage] at alone
      refine ⟨⟨own, alone, pending_put remaining _ _ _⟩, fun failed => ?_⟩
      rcases (ended failed).1 with past | past <;> simp [stage] at past
    · cases ran
      exact ⟨⟨own, polls.alone, remaining⟩, fun failed => ended failed⟩

/-- A stream that has nothing more to give stays so. -/
theorem Exhausted.move {body : σ → ι → Option (Act κ ρ σ α ε)} {cancelled : Bool} {g g' : Goroutine κ ρ σ α ε}
    {m : Move ρ ι} (exhausted : g.Exhausted) (ran : g.move body cancelled m = some g') : g'.Exhausted := by
  obtain ⟨past, empty⟩ := exhausted
  rcases past with stage | stage <;> cases m <;> simp [Goroutine.move, stage] at ran
  subst ran
  exact ⟨.inr rfl, empty⟩

/-- The end of the context has no effect on it. -/
theorem Exhausted.wake {g : Goroutine κ ρ σ α ε} (exhausted : g.Exhausted) : g.wake.Exhausted := by
  obtain ⟨past, empty⟩ := exhausted
  rcases past with stage | stage
  · exact ⟨.inl (by simp [Goroutine.wake, stage]), by simp [Goroutine.wake, stage, empty]⟩
  · exact ⟨.inr (by simp [Goroutine.wake, stage]), by simp [Goroutine.wake, stage, empty]⟩

end Goroutine

/-! Watchers. -/

namespace Watch

/-- A watcher forwards polls: it has sent no error and holds one only if it was the last, or it has sent the last. -/
structure Forwarding (s : Watch κ ρ σ α ε) (held : Option (Result α ε)) : Prop where
  stage : Forwards s.main.stage held
  polls : s.inner.Polls
  errors : (s.main.Clean ∧ ∀ result, held = some result → result.err ≠ none → s.inner.Exhausted) ∨
    (held = none ∧ s.main.ErrorLast ∧ s.inner.Exhausted)

/-- Errors are last. -/
def Sound (allowed : κ → ρ → Prop) (s : Watch κ ρ σ α ε) : Prop :=
  s.main.Own allowed ∨ ∃ held, s.Forwarding held

/-- Sound watchers send errors last. -/
theorem Sound.errorLast {s : Watch κ ρ σ α ε} (sound : s.Sound allowed) : s.main.ErrorLast := by
  rcases sound with own | ⟨held, forwarding⟩
  · exact own.errorLast
  · rcases forwarding.errors with ⟨clean, -⟩ | ⟨-, last, -⟩
    · exact clean.errorLast
    · exact last

/-- A watcher that neither forwards nor returns has sent no error. -/
theorem Sound.clean {s : Watch κ ρ σ α ε} (sound : s.Sound allowed) (idle : ∀ held, ¬ Forwards s.main.stage held)
    (busy : ¬ s.main.Over) : s.main.Clean := by
  rcases sound with own | ⟨held, forwarding⟩
  · rcases own with ⟨clean, -⟩ | ⟨-, past⟩
    · exact clean
    · exact absurd past busy
  · exact absurd forwarding.stage (idle held)

/-- A watcher that ranges over polls forwards them. -/
theorem Sound.forwarding {s : Watch κ ρ σ α ε} (sound : s.Sound allowed) (stage : s.main.stage = .run .range) :
    s.Forwarding none := by
  rcases sound with own | ⟨held, forwarding⟩
  · rcases own with ⟨-, terminal⟩ | ⟨-, past⟩
    · rw [stage] at terminal
      exact terminal.elim
    · rcases past with past | past <;> simp [stage] at past
  · have forwards := forwarding.stage
    rw [stage] at forwards
    cases forwards
    exact forwarding

end Watch

namespace Watcher

variable {w : Watcher κ ρ σ ι ς α ε}

/-- A step whose answer is allowed, and that does not end the context between the look at it and the select of an
error. -/
structure Meets (allowed : κ → ρ → Prop) (s : Watch κ ρ σ α ε) (e : Event ρ ι ς) : Prop where
  answer : ∀ site next answer, s.main.stage = .run (.query site next) → e = .main (.answer answer) →
    allowed site answer
  cancel : ∀ result next, s.main.stage = .putting result next → e = .cancel → result.err = none

/-- A watcher that forwards goes on to forward, or returns. -/
theorem sound_main {s : Watch κ ρ σ α ε} {held : Option (Result α ε)} {m : Move ρ ι} {main : Goroutine κ ρ σ α ε}
    (forwarding : s.Forwarding held) (ran : s.main.move w.body s.cancelled m = some main) :
    Watch.Sound allowed { s with main } := by
  obtain ⟨stage, polls, errors⟩ := forwarding
  generalize current : s.main.stage = now at stage
  -- Only a goroutine that holds a result has a move of its own.
  cases stage with
  | range => cases m <;> simp [Goroutine.move, current] at ran
  -- The result is dropped with the context, or is about to be put.
  | send result =>
    obtain ⟨clean, exhausted⟩ : s.main.Clean ∧ _ := errors.resolve_right (by simp)
    cases m <;> simp [Goroutine.move, current] at ran
    subst ran
    cases s.cancelled with
    | true => exact .inl (.inl ⟨clean, trivial⟩)
    | false => exact .inr ⟨some result, .putting result, polls, .inl ⟨clean, exhausted⟩⟩
  -- There is room, and an error that is sent ends the forwarding.
  | putting result =>
    obtain ⟨clean, exhausted⟩ : s.main.Clean ∧ _ := errors.resolve_right (by simp)
    cases m <;> simp [Goroutine.move, current] at ran
    · split at ran
      · cases ran
        refine .inr ⟨none, .range, polls, ?_⟩
        by_cases fine : result.err = none
        · exact .inl ⟨clean.put fine _ _, by simp⟩
        · exact .inr ⟨rfl, clean.errorLast_put _ _ _, exhausted result rfl fine⟩
      · -- There is none, and the goroutine waits unless the context has ended.
        cases ran
        cases s.cancelled with
        | true => exact .inl (.inl ⟨clean, trivial⟩)
        | false => exact .inr ⟨some result, .blocked result, polls, .inl ⟨clean, exhausted⟩⟩
    · -- The context has ended.
      obtain ⟨-, rfl⟩ := ran
      exact .inl (.inl ⟨clean, trivial⟩)
  | blocked result => cases m <;> simp [Goroutine.move, current] at ran

/-- Each step of a lawful watcher keeps errors last, if the answers are allowed. -/
theorem sound_step (lawful : w.Lawful allowed) {s s' : Watch κ ρ σ α ε} {e : Event ρ ι ς} (sound : s.Sound allowed)
    (meets : Meets allowed s e) (ran : w.step s e = some s') : s'.Sound allowed := by
  -- Each event is one of the two goroutines, of the consumer, or between the goroutines.
  cases e with
  | start subscriptions =>
    -- A watch starts with what its body begins with.
    simp only [step] at ran
    split at ran
    · next stage =>
      cases ran
      have clean := sound.clean (by rw [stage]; rintro _ ⟨⟩) (by simp [Goroutine.Over, stage])
      exact .inl (.inl ⟨clean, lawful.start subscriptions⟩)
    · cases ran
  | cancel =>
    -- The end of the context wakes whoever waits.
    simp only [step] at ran
    split at ran
    · cases ran
    · cases ran
      rcases sound with own | ⟨held, stage, polls, errors⟩
      · exact .inl own.wake
      · generalize current : s.main.stage = now at stage
        cases stage with
        -- The forwarding goroutine drops its result and returns.
        | blocked result =>
          obtain ⟨clean, -⟩ : s.main.Clean ∧ _ := errors.resolve_right (by simp)
          refine .inl (.inl ?_)
          simp only [Goroutine.wake, current]
          exact ⟨clean, trivial⟩
        -- It does not wait, and the polls are woken.
        | range | send | putting =>
          have same : s.main.wake = s.main := by simp [Goroutine.wake, current]
          refine .inr ⟨_, by rw [same, current]; constructor, polls.wake, ?_⟩
          show (Goroutine.Clean s.main.wake ∧ _) ∨ _ ∧ Goroutine.ErrorLast s.main.wake ∧ _
          rw [same]
          exact errors.imp (fun ⟨clean, exhausted⟩ => ⟨clean, fun r h f => (exhausted r h f).wake⟩)
            fun ⟨free, last, exhausted⟩ => ⟨free, last, exhausted.wake⟩
  | receive =>
    -- The consumer makes room.
    simp only [step, Option.map_eq_some_iff, Prod.exists] at ran
    obtain ⟨first, main, drained, rfl⟩ := ran
    rcases sound with own | ⟨held, stage, polls, errors⟩
    · exact .inl (own.drain drained)
    · rw [Goroutine.drain] at drained
      split at drained
      · cases drained
      · split at drained
        · next result next current =>
          rw [current] at stage
          cases stage
          obtain ⟨clean, exhausted⟩ : s.main.Clean ∧ _ := errors.resolve_right (by simp)
          cases drained
          -- The result that was held goes into the channel.
          refine .inr ⟨none, .range, polls, ?_⟩
          by_cases fine : result.err = none
          · exact .inl ⟨Goroutine.Clean.put clean fine s.cancelled .range, by simp⟩
          · exact .inr ⟨rfl, Goroutine.Clean.errorLast_put clean s.cancelled result .range, exhausted result rfl fine⟩
        · cases drained
          exact .inr ⟨held, stage, polls, errors⟩
  | main m =>
    -- The loop moves by itself, or forwards.
    simp only [step, Option.map_eq_some_iff] at ran
    obtain ⟨main, moved, rfl⟩ := ran
    rcases sound with own | ⟨held, forwarding⟩
    · refine .inl (own.move (fun locals i act _ => lawful.body locals i act) ?_ moved)
      intro site next answer stage same
      exact meets.answer site next answer stage (by rw [same])
    · exact sound_main forwarding moved
  | inner m =>
    -- The polls move by themselves.
    simp only [step, Option.map_eq_some_iff] at ran
    obtain ⟨inner, moved, rfl⟩ := ran
    rcases sound with own | ⟨held, stage, polls, errors⟩
    · exact .inl own
    · exact .inr ⟨held, stage, polls.move moved,
        errors.imp (fun ⟨clean, exhausted⟩ => ⟨clean, fun r h f => (exhausted r h f).move moved⟩)
          fun ⟨free, last, exhausted⟩ => ⟨free, last, exhausted.move moved⟩⟩
  | forward =>
    -- The forwarding begins with polls that have sent nothing.
    simp only [step] at ran
    split at ran
    · next site ask stage =>
      cases ran
      have clean := sound.clean (by rw [stage]; rintro _ ⟨⟩) (by simp [Goroutine.Over, stage])
      refine .inr ⟨none, .range, ⟨.inl ⟨by simp [Goroutine.Clean], ?_⟩, pollLoop_alone site ask, [], rfl⟩,
        .inl ⟨clean, by simp⟩⟩
      show (pollLoop site ask : Act κ ρ σ α ε).Terminal fun _ _ => True
      exact pollLoop_terminal site ask
    · cases ran
  | take =>
    -- A result is taken from the polls, and an error among them is the last.
    simp only [step] at ran
    split at ran
    · next stage =>
      simp only [Option.map_eq_some_iff, Prod.exists] at ran
      obtain ⟨result, inner, drained, rfl⟩ := ran
      have forwarding := sound.forwarding stage
      obtain ⟨kept, ended⟩ := forwarding.polls.drain drained
      rcases forwarding.errors with ⟨clean, -⟩ | ⟨-, -, exhausted⟩
      · refine .inr ⟨some result, .send result, kept, .inl ⟨clean, ?_⟩⟩
        intro held same failed
        cases same
        exact ended failed
      · -- Nothing is left to receive behind an error.
        simp [Goroutine.drain, exhausted.2] at drained
    · cases ran
  | drained =>
    -- The polls are closed, and so is the stream next.
    simp only [step] at ran
    split at ran
    · next stage _ _ =>
      cases ran
      exact .inl (.inr ⟨sound.errorLast, .inl rfl⟩)
    · cases ran

/-- No goroutine is blocked once the context has ended. -/
theorem awake_run {trace : List (Watch κ ρ σ α ε × Event ρ ι ς)} {s : Watch κ ρ σ α ε} (run : w.machine.Runs trace s) :
    s.main.Awake s.cancelled ∧ s.inner.Awake s.cancelled := by
  refine Machine.Runs.stateInvariant (P := fun s => s.main.Awake s.cancelled ∧ s.inner.Awake s.cancelled) ?_ ?_ run
  · -- At the start nobody waits.
    exact ⟨Goroutine.awake_of_ne (by simp [machine]) _, Goroutine.awake_of_ne (by simp [machine]) _⟩
  · intro s e s' ⟨main, inner⟩ ran
    change w.step s e = some s' at ran
    cases e with
    -- Whoever waits is woken by the end of the context.
    | cancel =>
      simp only [step] at ran
      split at ran <;> cases ran
      exact ⟨Goroutine.awake_wake _ _, Goroutine.awake_wake _ _⟩
    -- Receiving and moving leave nobody to wait after it.
    | receive =>
      simp only [step, Option.map_eq_some_iff, Prod.exists] at ran
      obtain ⟨first, next, drained, rfl⟩ := ran
      exact ⟨Goroutine.awake_drain drained _, inner⟩
    | main m =>
      simp only [step, Option.map_eq_some_iff] at ran
      obtain ⟨next, moved, rfl⟩ := ran
      exact ⟨Goroutine.Awake.move moved, inner⟩
    | inner m =>
      simp only [step, Option.map_eq_some_iff] at ran
      obtain ⟨next, moved, rfl⟩ := ran
      exact ⟨main, Goroutine.Awake.move moved⟩
    | take =>
      simp only [step] at ran
      split at ran
      · simp only [Option.map_eq_some_iff, Prod.exists] at ran
        obtain ⟨result, next, drained, rfl⟩ := ran
        exact ⟨Goroutine.awake_of_ne (by simp) _, Goroutine.awake_drain drained _⟩
      · cases ran
    | forward =>
      simp only [step] at ran
      split at ran <;> cases ran
      exact ⟨Goroutine.awake_of_ne (by simp) _, Goroutine.awake_of_ne (by simp) _⟩
    | start | drained =>
      simp only [step] at ran
      split at ran <;> cases ran
      exact ⟨Goroutine.awake_of_ne (by simp) _, inner⟩

/-- Each step sends errors only before the end of the context, if that does not come just before one is sent. -/
theorem timely_step {s s' : Watch κ ρ σ α ε} {e : Event ρ ι ς} (timely : s.main.Timely s.cancelled)
    (awake : s.main.Awake s.cancelled) (meets : Meets allowed s e) (ran : w.step s e = some s') : s'.main.Timely s'.cancelled := by
  -- Only events that send, wake or end something matter.
  cases e with
  | start subscriptions =>
    simp only [step] at ran
    split at ran <;> cases ran
    exact timely.run (by simp) _
  -- The result that waits at the end of the context was given up in time.
  | cancel =>
    simp only [step] at ran
    split at ran <;> cases ran
    exact timely.wake fun result next stage => meets.cancel result next stage rfl
  | receive =>
    simp only [step, Option.map_eq_some_iff, Prod.exists] at ran
    obtain ⟨first, main, drained, rfl⟩ := ran
    exact timely.drain awake drained
  | main m =>
    simp only [step, Option.map_eq_some_iff] at ran
    obtain ⟨main, moved, rfl⟩ := ran
    exact timely.move moved
  -- The polls send to another channel.
  | inner m =>
    simp only [step, Option.map_eq_some_iff] at ran
    obtain ⟨inner, moved, rfl⟩ := ran
    exact timely
  | forward =>
    simp only [step] at ran
    split at ran <;> cases ran
    exact timely.run (by simp) _
  | take =>
    simp only [step] at ran
    split at ran
    · simp only [Option.map_eq_some_iff, Prod.exists] at ran
      obtain ⟨result, inner, drained, rfl⟩ := ran
      exact timely.run (by simp) _
    · cases ran
  | drained =>
    simp only [step] at ran
    split at ran <;> cases ran
    exact timely.run (by simp) _

/-- A run whose steps meet what is asked of them. -/
def Meeting (allowed : κ → ρ → Prop) (trace : List (Watch κ ρ σ α ε × Event ρ ι ς)) : Prop :=
  ∀ step ∈ trace, Meets allowed step.1 step.2

/-- In such a run, errors are last, and none is sent after the end of the context. -/
theorem sound_run (lawful : w.Lawful allowed) {trace : List (Watch κ ρ σ α ε × Event ρ ι ς)} {s : Watch κ ρ σ α ε}
    (run : w.machine.Runs trace s) (meeting : Meeting allowed trace) :
    s.Sound allowed ∧ s.main.Timely s.cancelled := by
  revert meeting
  refine Machine.Runs.invariant (P := fun trace s => Meeting allowed trace → s.Sound allowed ∧
    s.main.Timely s.cancelled) ?_ ?_ run
  · intro _
    exact ⟨.inl (.inl ⟨by simp [Goroutine.Clean, machine], trivial⟩), by simp [machine], by simp [machine]⟩
  · intro trace s e s' earlier ih accepted meeting
    obtain ⟨sound, timely⟩ := ih fun step member => meeting step (List.mem_append_left _ member)
    have meets := meeting (s, e) (by simp)
    exact ⟨sound_step lawful sound meets accepted, timely_step timely (awake_run earlier).1 meets accepted⟩

/-! Closing. -/

/-- The stream of polls can be closed once the context has ended, with nothing more sent. -/
theorem closes_inner [Inhabited ρ] (act : Act κ ρ σ α ε) {s : Watch κ ρ σ α ε} (ended : s.cancelled = true)
    (stage : s.inner.stage = .run act) (alone : act.Alone) :
    w.machine.Leads s { s with inner := { s.inner with stage := .closed } } := by
  -- The induction follows what the goroutine would still do, which the end of the context cuts short.
  have returns {s : Watch κ ρ σ α ε} (stage : s.inner.stage = .run .ret) :
      w.machine.Leads s { s with inner := { s.inner with stage := .closed } } :=
    .cons (e := .inner .go) (by simp [machine, step, Goroutine.move, stage]) (.refl _)
  have cut {s : Watch κ ρ σ α ε}
      (first : w.machine.Leads s { s with inner := { s.inner with stage := .run .ret } }) :
      w.machine.Leads s { s with inner := { s.inner with stage := .closed } } := first.trans (returns rfl)
  induction act generalizing s with
  | ret => exact returns stage
  -- A query is answered, whatever it is, and the goroutine goes on.
  | query site next ih =>
    refine .cons (e := .inner (.answer default)) (t := { s with inner := { s.inner with stage := .run (next default) } })
      (by simp [machine, step, Goroutine.move, stage]) ?_
    exact ih default ended rfl (alone default)
  -- The end of the context is noticed at each of these points.
  | ifLive next ih =>
    exact cut (.cons (e := .inner .go) (by simp [machine, step, Goroutine.move, stage, ended]) (.refl _))
  | send result next ih =>
    exact cut (.cons (e := .inner .go) (by simp [machine, step, Goroutine.move, stage, ended]) (.refl _))
  | pollWait site ask =>
    exact cut (.cons (e := .inner .done) (by simp [machine, step, Goroutine.move, stage, ended]) (.refl _))
  -- A goroutine that polls has no select, and forwards nothing.
  | select locals => exact alone.elim
  | forward site ask => exact alone.elim
  | range => exact alone.elim

/-- The channel of a watcher can be closed, with nothing more sent. -/
def Closable (w : Watcher κ ρ σ ι ς α ε) (s : Watch κ ρ σ α ε) : Prop :=
  ∃ s', w.machine.Leads s s' ∧ s'.main.stage = .closed ∧ s'.main.sent = s.main.sent

/-- A goroutine that returns closes its channel. -/
theorem closable_of_ret {s : Watch κ ρ σ α ε} (stage : s.main.stage = .run .ret) : w.Closable s :=
  ⟨{ s with main := { s.main with stage := .closed } },
    .cons (e := .main .go) (by simp [machine, step, Goroutine.move, stage]) (.refl _), rfl, rfl⟩

/-- A step that sends nothing comes no farther from closing. -/
theorem Closable.cons {s t : Watch κ ρ σ α ε} {e : Event ρ ι ς} (accepted : w.step s e = some t)
    (same : t.main.sent = s.main.sent) (later : w.Closable t) : w.Closable s := by
  obtain ⟨s', leads, closed, sent⟩ := later
  exact ⟨s', leads.cons accepted, closed, sent.trans same⟩

/-- A watcher that ranges over polls can close its channel. -/
theorem closable_of_range [Inhabited ρ] {s : Watch κ ρ σ α ε} (ended : s.cancelled = true)
    (stage : s.main.stage = .run .range) (alone : s.inner.stage.Alone) (awake : s.inner.Awake s.cancelled) :
    w.Closable s := by
  cases buffer : s.inner.buffer with
  | cons result rest =>
    -- A result that is received after the end of the context is not forwarded.
    have taken : ∃ inner, s.inner.drain s.cancelled = some (result, inner) := by
      rw [Goroutine.drain, buffer]
      simp only
      split
      · next held next blocked => exact absurd (awake held next blocked) (by simp [ended])
      · exact ⟨_, rfl⟩
    obtain ⟨inner, drained⟩ := taken
    refine .cons (e := .take) (t := { s with main := { s.main with stage := .run (.send result .range) }, inner })
      (by simp [step, stage, drained]) rfl ?_
    refine .cons (e := .main .go) (t := { s with main := { s.main with stage := .run .ret }, inner })
      (by simp [step, Goroutine.move, ended]) rfl ?_
    exact closable_of_ret rfl
  | nil =>
    -- The stream of polls ends with its context, and there is nothing left to receive.
    have polls : w.machine.Leads s { s with inner := { s.inner with stage := .closed } } := by
      cases at_ : s.inner.stage with
      | absent =>
        rw [at_] at alone
        exact alone.elim
      -- The goroutine polls, and returns at its next look at the context.
      | run act =>
        rw [at_] at alone
        exact closes_inner act ended at_ alone
      -- It is about to send, and returns instead.
      | putting held next =>
        refine .cons (e := .inner .done) (t := { s with inner := { s.inner with stage := .run .ret } })
          (by simp [machine, step, Goroutine.move, at_, ended]) ?_
        exact closes_inner .ret ended rfl trivial
      | blocked held next => exact absurd (awake held next at_) (by simp [ended])
      | closed =>
        have same : ({ s with inner := { s.inner with stage := .closed } } : Watch κ ρ σ α ε) = s := by
          rw [← at_]
        rw [same]
        exact .refl s
    -- The empty and closed stream of polls ends the forwarding.
    obtain ⟨s', leads, closed, sent⟩ : w.Closable { s with inner := { s.inner with stage := .closed } } := by
      refine .cons (e := .drained)
        (t := { s with main := { s.main with stage := .run .ret }, inner := { s.inner with stage := .closed } })
        (by simp [step, stage, buffer]) rfl ?_
      exact closable_of_ret rfl
    exact ⟨s', polls.trans leads, closed, sent⟩

/-- Whatever a watcher would still do, it can close its channel. -/
theorem closable_of_run [Inhabited ρ] (possible : ∀ site, ∃ answer, allowed site answer) (act : Act κ ρ σ α ε)
    {s : Watch κ ρ σ α ε} (ended : s.cancelled = true) (stage : s.main.stage = .run act)
    (terminal : act.Terminal allowed) : w.Closable s := by
  -- The induction is on what the goroutine would still do, of which the end of the context leaves little.
  induction act generalizing s with
  | ret => exact closable_of_ret stage
  | select locals =>
    exact .cons (e := .main .done) (t := { s with main := { s.main with stage := .run .ret } })
      (by simp [step, Goroutine.move, stage, ended]) rfl (closable_of_ret rfl)
  -- A query is answered as it may be.
  | query site next ih =>
    obtain ⟨answer, fine⟩ := possible site
    refine .cons (e := .main (.answer answer)) (t := { s with main := { s.main with stage := .run (next answer) } })
      (by simp [step, Goroutine.move, stage]) rfl ?_
    exact ih answer ended rfl (terminal answer fine)
  -- The end of the context is noticed at each of these points.
  | ifLive next ih =>
    exact .cons (e := .main .go) (t := { s with main := { s.main with stage := .run .ret } })
      (by simp [step, Goroutine.move, stage, ended]) rfl (closable_of_ret rfl)
  | send result next ih =>
    exact .cons (e := .main .go) (t := { s with main := { s.main with stage := .run .ret } })
      (by simp [step, Goroutine.move, stage, ended]) rfl (closable_of_ret rfl)
  | pollWait site ask =>
    exact .cons (e := .main .done) (t := { s with main := { s.main with stage := .run .ret } })
      (by simp [step, Goroutine.move, stage, ended]) rfl (closable_of_ret rfl)
  -- The forwarding begins, and is cut short at once.
  | forward site ask =>
    refine .cons (e := .forward)
      (t := { s with main := { s.main with stage := .run .range }, inner := { stage := .run (pollLoop site ask) } })
      (by simp [step, stage]) rfl ?_
    exact closable_of_range ended rfl (pollLoop_alone site ask) (Goroutine.awake_of_ne (by simp) _)
  | range => exact terminal.elim

/-- Once the context has ended, a watcher that was started can close its channel with nothing more sent. -/
theorem closable_run [Inhabited ρ] (possible : ∀ site, ∃ answer, allowed site answer) (lawful : w.Lawful allowed)
    {trace : List (Watch κ ρ σ α ε × Event ρ ι ς)} {s : Watch κ ρ σ α ε} (run : w.machine.Runs trace s)
    (meeting : Meeting allowed trace) (ended : s.cancelled = true) (started : s.main.stage ≠ .absent) :
    w.Closable s := by
  -- A goroutine that can return can close its channel.
  have returns (e : Event ρ ι ς)
      (accepted : w.step s e = some { s with main := { s.main with stage := .run .ret } }) : w.Closable s :=
    .cons accepted rfl (closable_of_ret rfl)
  obtain ⟨awake, wakeful⟩ := awake_run run
  rcases (sound_run lawful run meeting).1 with own | ⟨held, stage, polls, -⟩
  · -- The loop does what it does by itself.
    rcases own with ⟨-, terminal⟩ | ⟨-, past⟩
    · cases stage : s.main.stage with
      | absent => exact absurd stage started
      | run act =>
        rw [stage] at terminal
        exact closable_of_run possible act ended stage terminal
      | putting result next => exact returns (.main .done) (by simp [step, Goroutine.move, stage, ended])
      | blocked result next => exact absurd (awake result next stage) (by simp [ended])
      | closed => exact ⟨s, .refl s, stage, rfl⟩
    · -- It has returned already.
      rcases past with stage | stage
      · exact closable_of_ret stage
      · exact ⟨s, .refl s, stage, rfl⟩
  · -- It forwards, and notices the end of the context before its next send.
    generalize current : s.main.stage = now at stage
    cases stage with
    | range => exact closable_of_range ended current polls.alone wakeful
    | send result => exact returns (.main .go) (by simp [step, Goroutine.move, current, ended])
    | putting result => exact returns (.main .done) (by simp [step, Goroutine.move, current, ended])
    | blocked result => exact absurd (awake _ _ current) (by simp [ended])

/-- After an error, a watcher can close its channel with nothing more sent. -/
theorem closable_of_failed {s : Watch κ ρ σ α ε} (sound : s.Sound allowed) (failed : ¬ s.main.Clean) :
    w.Closable s := by
  rcases sound with own | ⟨held, stage, -, errors⟩
  · -- The error was the loop's own, which returns behind it.
    rcases own.resolve_left (fun clean => failed clean.1) with ⟨-, stage | stage⟩
    · exact closable_of_ret stage
    · exact ⟨s, .refl s, stage, rfl⟩
  · -- The error was forwarded, and the polls behind it are exhausted.
    obtain ⟨rfl, -, past, empty⟩ := errors.resolve_left fun clean => failed clean.1
    have range : s.main.stage = .run .range := by
      generalize current : s.main.stage = now at stage
      cases stage
      rfl
    -- The stream of polls has closed its channel, or is about to.
    have closed (inner : s.inner.stage = .closed) : w.Closable s :=
      .cons (e := .drained) (t := { s with main := { s.main with stage := .run .ret } })
        (by simp [step, range, inner, empty]) rfl (closable_of_ret rfl)
    -- The goroutine of the polls is about to close its channel.
    rcases past with stage | stage
    · refine .cons (e := .inner .go) (t := { s with inner := { s.inner with stage := .closed } })
        (by simp [step, Goroutine.move, stage]) rfl ?_
      exact .cons (e := .drained)
        (t := { s with main := { s.main with stage := .run .ret }, inner := { s.inner with stage := .closed } })
        (by simp [step, range, empty]) rfl (closable_of_ret rfl)
    · exact closed stage

/-- Events among which the context does not end, with answers that are allowed everywhere, meet what is asked. -/
theorem meeting_of_events {events : List (Event ρ ι ς)} {trace : List (Watch κ ρ σ α ε × Event ρ ι ς)}
    (listed : trace.map Prod.snd = events) (calm : ∀ e ∈ events, e ≠ .cancel)
    (answers : ∀ answer, Event.main (.answer answer) ∈ events → ∀ site, allowed site answer) :
    Meeting allowed trace := by
  intro (s, e) member
  have among : e ∈ events := by
    rw [← listed]
    exact List.mem_map_of_mem (f := Prod.snd) member
  refine ⟨fun site next answer _ same => ?_, fun result next _ same => absurd same (calm e among)⟩
  subst same
  exact answers answer among site

end Watcher

end Wwan.Streams
