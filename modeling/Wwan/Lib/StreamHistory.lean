import Wwan.Lib.StreamLaws

/-! The history of a watcher: which queries were asked and answered, and which results were emitted, in their order. -/

namespace Wwan.Streams

variable {κ ρ υ σ ι ς α ε : Type}

/-- The goroutines of a watcher. -/
inductive Party where
  | watcher
  | polls
  deriving DecidableEq

/-- What a history tells. -/
inductive Happening (κ υ α ε : Type) where
  /-- A query was started. -/
  | asked (party : Party) (site : κ)
  /-- The last query of the goroutine was answered. -/
  | answered (party : Party) (site : κ) (answer : υ)
  /-- A result was put into the channel of the consumer. -/
  | emitted (result : Result α ε)
  deriving DecidableEq

/-- The goroutine whose query it is about. -/
def Happening.party : Happening κ υ α ε → Option Party
  | .asked party _ | .answered party _ _ => some party
  | .emitted _ => none

/-- The result that it emits. -/
def Happening.result : Happening κ υ α ε → Option (Result α ε)
  | .emitted result => some result
  | _ => none

/-- The answer that the stream of polls gets. -/
def Happening.poll : Happening κ υ α ε → Option υ
  | .answered .polls _ answer => some answer
  | _ => none

/-- The query that a goroutine waits for. -/
def Stage.asks : Stage κ ρ σ α ε → Option κ
  | .run (.query site _) => some site
  | _ => none

/-- A move with its answer seen another way. -/
def Move.map (view : υ → ρ) : Move υ ι → Move ρ ι
  | .go => .go
  | .done => .done
  | .answer reply => .answer (view reply)
  | .case i => .case i
  | .tick => .tick

/-- An event with its answer seen another way. -/
def Event.map (view : υ → ρ) : Event υ ι ς → Event ρ ι ς
  | .start subscriptions => .start subscriptions
  | .cancel => .cancel
  | .receive => .receive
  | .main m => .main (m.map view)
  | .inner m => .inner (m.map view)
  | .forward => .forward
  | .take => .take
  | .drained => .drained

/-- The answer of an event. -/
def Event.reply : Event υ ι ς → Option (Party × υ)
  | .main (.answer answer) => some (.watcher, answer)
  | .inner (.answer answer) => some (.polls, answer)
  | _ => none

/-- A goroutine of a watcher. -/
def Watch.goroutine (s : Watch κ ρ σ α ε) : Party → Goroutine κ ρ σ α ε
  | .watcher => s.main
  | .polls => s.inner

/-- The answer that a step gives. -/
def replies (s : Watch κ ρ σ α ε) (e : Event υ ι ς) : List (Happening κ υ α ε) :=
  match e.reply with
  | some (party, answer) => (s.goroutine party).stage.asks.toList.map fun site => .answered party site answer
  | none => []

/-- The results that a step puts into the channel of the consumer. -/
def emissions (s s' : Watch κ ρ σ α ε) : List (Happening κ υ α ε) :=
  (s'.main.sent.drop s.main.sent.length).map fun entry => .emitted entry.1

/-- The query that a goroutine starts with a step, unless it already waited for it. -/
def questions (party : Party) (s : Watch κ ρ σ α ε) (e : Event υ ι ς) (s' : Watch κ ρ σ α ε) :
    List (Happening κ υ α ε) :=
  if (e.reply.map Prod.fst = some party) ∨ (s.goroutine party).stage.asks = none then
    (s'.goroutine party).stage.asks.toList.map (.asked party)
  else []

/-- Everything that happens with a step. -/
def happenings (s : Watch κ ρ σ α ε) (e : Event υ ι ς) (s' : Watch κ ρ σ α ε) : List (Happening κ υ α ε) :=
  replies s e ++ emissions s s' ++ questions .watcher s e s' ++ questions .polls s e s'

/-- A watcher that runs, with its history. -/
structure History (κ υ ρ σ α ε : Type) where
  watch : Watch κ ρ σ α ε := {}
  log : List (Happening κ υ α ε) := []

/-- The machine of a watcher that keeps its history, whose answers are seen by the watcher in its own way. -/
def Watcher.history (w : Watcher κ ρ σ ι ς α ε) (view : υ → ρ) : Machine (History κ υ ρ σ α ε) (Event υ ι ς) where
  init := {}
  step h e := (w.step h.watch (e.map view)).map fun watch => { watch, log := h.log ++ happenings h.watch e watch }

/-! What a goroutine can do. -/

/-- A goroutine that waits for a query is at it. -/
theorem Stage.asks_eq_some {stage : Stage κ ρ σ α ε} {site : κ} (asks : stage.asks = some site) :
    ∃ next, stage = .run (.query site next) := by
  unfold Stage.asks at asks
  split at asks
  · cases asks
    exact ⟨_, rfl⟩
  · cases asks

/-- Only an answer is seen as an answer. -/
theorem Move.map_eq_answer {view : υ → ρ} {m : Move υ ι} {answer : ρ} (same : m.map view = .answer answer) :
    ∃ reply, m = .answer reply ∧ answer = view reply := by
  cases m with
  | answer reply => exact ⟨reply, rfl, (Move.answer.inj same).symm⟩
  | go | done | case | tick => cases same

/-- What a move of a goroutine does. -/
inductive Moves (body : σ → ι → Option (Act κ ρ σ α ε)) (cancelled : Bool) (g : Goroutine κ ρ σ α ε) :
    Move ρ ι → Goroutine κ ρ σ α ε → Prop where
  | close (stage : g.stage = .run .ret) : Moves body cancelled g .go { g with stage := .closed }
  | live {next : Act κ ρ σ α ε} (stage : g.stage = .run (.ifLive next)) :
      Moves body cancelled g .go { g with stage := .run next }
  | send {result : Result α ε} {next : Act κ ρ σ α ε} (stage : g.stage = .run (.send result next)) :
      Moves body cancelled g .go { g with stage := .putting result next }
  | put {result : Result α ε} {next : Act κ ρ σ α ε} (stage : g.stage = .putting result next) :
      Moves body cancelled g .go (g.put cancelled result next)
  | block {result : Result α ε} {next : Act κ ρ σ α ε} (stage : g.stage = .putting result next) :
      Moves body cancelled g .go { g with stage := .blocked result next }
  /-- The end of the context was seen. -/
  | stop {m : Move ρ ι} (idle : m = .go ∨ m = .done) (free : g.stage.asks = none) :
      Moves body cancelled g m { g with stage := .run .ret }
  | answer {site : κ} {next : ρ → Act κ ρ σ α ε} {answer : ρ} (stage : g.stage = .run (.query site next)) :
      Moves body cancelled g (.answer answer) { g with stage := .run (next answer) }
  | case {locals : σ} {i : ι} {act : Act κ ρ σ α ε} (stage : g.stage = .run (.select locals))
      (taken : body locals i = some act) : Moves body cancelled g (.case i) { g with stage := .run act }
  | tick {site : κ} {ask : ρ → Result α ε} (stage : g.stage = .run (.pollWait site ask)) :
      Moves body cancelled g .tick { g with stage := .run (pollLoop site ask) }

/-- Only an answer moves a goroutine that waits for a query. -/
theorem Moves.free {body : σ → ι → Option (Act κ ρ σ α ε)} {cancelled : Bool}
    {g g' : Goroutine κ ρ σ α ε} {m : Move ρ ι} (moved : Moves body cancelled g m g')
    (other : ∀ answer, m ≠ .answer answer) : g.stage.asks = none := by
  cases moved with
  | close stage | live stage | send stage | put stage | block stage | case stage _ | tick stage => rw [stage]; rfl
  | stop idle free => exact free
  | answer stage => exact absurd rfl (other _)

namespace Goroutine

/-- Every move is one of these. -/
theorem moves {body : σ → ι → Option (Act κ ρ σ α ε)} {cancelled : Bool} {g g' : Goroutine κ ρ σ α ε}
    {m : Move ρ ι} (ran : g.move body cancelled m = some g') : Moves body cancelled g m g' := by
  cases m with
  | go =>
    -- What the goroutine does next is told by its stage.
    simp only [move] at ran
    split at ran
    · next stage =>
      cases ran
      exact .close stage
    · -- A context that has ended stops the goroutine at the next look at it.
      next next stage =>
      cases ran
      cases cancelled with
      | true => exact .stop (.inl rfl) (by rw [stage]; rfl)
      | false => exact .live stage
    · next result next stage =>
      cases ran
      cases cancelled with
      | true => exact .stop (.inl rfl) (by rw [stage]; rfl)
      | false => exact .send stage
    · -- A send goes on where there is room, and blocks otherwise.
      next result next stage =>
      split at ran
      · cases ran
        exact .put stage
      · cases ran
        cases cancelled with
        | true => exact .stop (.inl rfl) (by rw [stage]; rfl)
        | false => exact .block stage
    · cases ran
  | done =>
    -- The context may end any wait.
    simp only [move] at ran
    split at ran <;> try split at ran
    all_goals cases ran
    all_goals next stage _ => exact .stop (.inr rfl) (by rw [stage]; rfl)
  | answer answer =>
    -- A query is answered where one is waited for.
    simp only [move] at ran
    split at ran
    · next site next stage =>
      cases ran
      exact .answer stage
    · cases ran
  | case i =>
    -- A case of the `select` is taken while the loop waits.
    simp only [move] at ran
    split at ran
    · next locals stage =>
      obtain ⟨act, taken, rfl⟩ := Option.map_eq_some_iff.mp ran
      exact .case stage taken
    · cases ran
  | tick =>
    simp only [move] at ran
    split at ran
    · next site ask stage =>
      cases ran
      exact .tick stage
    · cases ran

/-- Receiving either lets a blocked goroutine go on or leaves it where it is. -/
theorem drain_cases {cancelled : Bool} {g g' : Goroutine κ ρ σ α ε} {first : Result α ε}
    (ran : g.drain cancelled = some (first, g')) :
    ∃ rest, g.buffer = first :: rest ∧
      ((∃ result next, g.stage = .blocked result next ∧ g' = { g with buffer := rest }.put cancelled result next) ∨
        ((∀ result next, g.stage ≠ .blocked result next) ∧ g' = { g with buffer := rest })) := by
  rw [drain] at ran
  split at ran
  · cases ran
  · next held rest buffer =>
    split at ran
    · next result next stage =>
      cases ran
      exact ⟨rest, buffer, .inl ⟨result, next, stage, rfl⟩⟩
    · next free =>
      cases ran
      exact ⟨rest, buffer, .inr ⟨free, rfl⟩⟩

/-- The end of the context either wakes a blocked goroutine or leaves it where it is. -/
theorem wake_cases (g : Goroutine κ ρ σ α ε) :
    g.wake = g ∨ ∃ result next, g.stage = .blocked result next ∧ g.wake = { g with stage := .run .ret } := by
  rw [wake]
  split
  · next result next stage => exact .inr ⟨result, next, stage, rfl⟩
  · exact .inl rfl

/-- The end of the context leaves the channel as it is. -/
theorem buffer_wake (g : Goroutine κ ρ σ α ε) : g.wake.buffer = g.buffer := by
  rcases g.wake_cases with same | ⟨result, next, -, woken⟩
  · rw [same]
  · rw [woken]

/-- Receiving does not move a goroutine that waits for a query. -/
theorem stage_drain {cancelled : Bool} {g g' : Goroutine κ ρ σ α ε} {first : Result α ε}
    (ran : g.drain cancelled = some (first, g')) (waited : g.stage.asks ≠ none) : g'.stage = g.stage := by
  obtain ⟨rest, -, ⟨result, next, stage, rfl⟩ | ⟨-, rfl⟩⟩ := drain_cases ran
  · rw [stage] at waited
    exact absurd rfl waited
  · rfl

/-- The end of the context does not move a goroutine that waits for a query. -/
theorem stage_wake {g : Goroutine κ ρ σ α ε} (waited : g.stage.asks ≠ none) : g.wake.stage = g.stage := by
  rcases g.wake_cases with same | ⟨result, next, stage, -⟩
  · rw [same]
  · rw [stage] at waited
    exact absurd rfl waited

end Goroutine

/-! What a history says about its queries. -/

/-- What is in a list, but not in its last part, is in its first part. -/
theorem split_of_notMem {β : Type} {log more before after : List β} {x : β} (whole : log ++ more = before ++ x :: after)
    (absent : x ∉ more) : ∃ rest, log = before ++ x :: rest ∧ after = rest ++ more := by
  rcases List.append_eq_append_iff.mp whole with ⟨rest, -, inside⟩ | ⟨rest, split, inside⟩
  · exact (absent (by simp [inside])).elim
  · cases rest with
    | nil =>
      rw [List.nil_append] at inside
      exact (absent (by simp [← inside])).elim
    | cons first rest =>
      obtain ⟨rfl, same⟩ := List.cons.inj inside
      exact ⟨rest, split, same⟩

/-- The goroutine has started a query, and nothing happened to its queries since. -/
def Since (log : List (Happening κ υ α ε)) (party : Party) (site : κ) : Prop :=
  ∃ before after, log = before ++ .asked party site :: after ∧ ∀ x ∈ after, x.party ≠ some party

/-- Every answer is to the last query of its goroutine. -/
def Paired (log : List (Happening κ υ α ε)) : Prop :=
  ∀ before party site answer after, log = before ++ .answered party site answer :: after → Since before party site

/-- What happens to others leaves a query as it is. -/
theorem Since.append {log more : List (Happening κ υ α ε)} {party : Party} {site : κ} (since : Since log party site)
    (others : ∀ x ∈ more, x.party ≠ some party) : Since (log ++ more) party site := by
  obtain ⟨before, after, rfl, rest⟩ := since
  refine ⟨before, after ++ more, by simp, fun x member => ?_⟩
  rcases List.mem_append.mp member with earlier | later
  · exact rest x earlier
  · exact others x later

/-- What is not about the polls answers none of them. -/
theorem Happening.poll_eq_none {x : Happening κ υ α ε} (other : x.party ≠ some .polls) : x.poll = none := by
  rw [Happening.poll.eq_def]
  split
  · exact absurd rfl other
  · rfl

/-- The answers to the polls. -/
theorem Happening.poll_eq_some {x : Happening κ υ α ε} {answer : υ} (polled : x.poll = some answer) :
    ∃ site, x = .answered .polls site answer := by
  rw [Happening.poll.eq_def] at polled
  split at polled
  · cases polled
    exact ⟨_, rfl⟩
  · cases polled

/-- Without another answer, all of them are to queries. -/
theorem Paired.append {log more : List (Happening κ υ α ε)} (paired : Paired log)
    (none : ∀ party site answer, Happening.answered party site answer ∉ more) : Paired (log ++ more) := by
  intro before party site answer after whole
  obtain ⟨rest, split, -⟩ := split_of_notMem whole (none party site answer)
  exact paired before party site answer rest split

/-- An answer to the last query of its goroutine. -/
theorem Paired.answered {log : List (Happening κ υ α ε)} {party : Party} {site : κ} (paired : Paired log)
    (since : Since log party site) (answer : υ) : Paired (log ++ [.answered party site answer]) := by
  intro before party' site' answer' after whole
  rcases List.eq_nil_or_concat' after with rfl | ⟨rest, last, rfl⟩
  · obtain ⟨rfl, same⟩ := List.append_inj' whole rfl
    simp only [List.cons.injEq, Happening.answered.injEq, and_true] at same
    obtain ⟨rfl, rfl, -⟩ := same
    exact since
  · rw [← List.cons_append, ← List.append_assoc] at whole
    exact paired before party' site' answer' rest (List.append_inj' whole rfl).1

/-! What happens with a step, by what the step does. -/

section Happenings

variable {s s' : Watch κ ρ σ α ε} {e : Event υ ι ς} {party : Party}

/-- A goroutine whose query is neither answered nor started. -/
theorem questions_kept (other : e.reply.map Prod.fst ≠ some party)
    (same : (s'.goroutine party).stage.asks = (s.goroutine party).stage.asks) : questions party s e s' = [] := by
  rw [questions]
  split
  · next starts => rw [same, starts.resolve_left other, Option.toList_none, List.map_nil]
  · rfl

/-- A goroutine that did not wait for a query, or had it answered. -/
theorem questions_started (starts : e.reply.map Prod.fst = some party ∨ (s.goroutine party).stage.asks = none) :
    questions party s e s' = (s'.goroutine party).stage.asks.toList.map (.asked party) := by
  rw [questions, if_pos starts]

/-- A step that puts nothing into the channel. -/
theorem emissions_same (same : s'.main.sent = s.main.sent) : (emissions s s' : List (Happening κ υ α ε)) = [] := by
  simp [emissions, same]

/-- A step that puts a result into the channel. -/
theorem emissions_put {result : Result α ε} {cancelled : Bool}
    (put : s'.main.sent = s.main.sent ++ [(result, cancelled)]) :
    (emissions s s' : List (Happening κ υ α ε)) = [.emitted result] := by
  simp [emissions, put]

/-- A step that answers nothing. -/
theorem replies_none (silent : e.reply = none) : replies s e = [] := by
  rw [replies, silent]

/-- A step in which the watcher may start a query, and the polls do not. -/
theorem happenings_watcher (starts : e.reply.map Prod.fst = some .watcher ∨ s.main.stage.asks = none)
    (other : e.reply.map Prod.fst ≠ some .polls) (same : s'.inner.stage.asks = s.inner.stage.asks) :
    happenings s e s' = replies s e ++ emissions s s' ++ s'.main.stage.asks.toList.map (.asked .watcher) := by
  have watcher : questions .watcher s e s' = _ := questions_started starts
  have polls : questions .polls s e s' = [] := questions_kept other same
  rw [happenings, watcher, polls, List.append_nil]
  rfl

/-- A step in which the polls may start a query, and the watcher does not. -/
theorem happenings_polls (starts : e.reply.map Prod.fst = some .polls ∨ s.inner.stage.asks = none)
    (other : e.reply.map Prod.fst ≠ some .watcher) (same : s'.main.stage.asks = s.main.stage.asks) :
    happenings s e s' = replies s e ++ emissions s s' ++ s'.inner.stage.asks.toList.map (.asked .polls) := by
  have watcher : questions .watcher s e s' = [] := questions_kept other same
  have polls : questions .polls s e s' = _ := questions_started starts
  rw [happenings, watcher, polls, List.append_nil]
  rfl

/-- A step in which no query is answered or started. -/
theorem happenings_idle (silent : e.reply = none) (main : s'.main.stage.asks = s.main.stage.asks)
    (inner : s'.inner.stage.asks = s.inner.stage.asks) : happenings s e s' = emissions s s' := by
  have watcher : questions .watcher s e s' = [] := questions_kept (by simp [silent]) main
  have polls : questions .polls s e s' = [] := questions_kept (by simp [silent]) inner
  rw [happenings, watcher, polls, replies_none silent, List.append_nil, List.append_nil, List.nil_append]

/-- A step in which nothing happens. -/
theorem happenings_none (silent : e.reply = none) (main : s'.main.stage.asks = s.main.stage.asks)
    (inner : s'.inner.stage.asks = s.inner.stage.asks) (sent : s'.main.sent = s.main.sent) :
    happenings s e s' = [] := by
  rw [happenings_idle silent main inner, emissions_same sent]

/-- The results that a step emits. -/
theorem filterMap_result_happenings :
    (happenings s e s').filterMap Happening.result = (s'.main.sent.drop s.main.sent.length).map Prod.fst := by
  have none (party : Party) : (questions party s e s').filterMap Happening.result = [] := by
    rw [questions]
    split
    · simp [List.filterMap_map, Happening.result, Function.comp_def]
    · rfl
  have silent : (replies s e).filterMap Happening.result = [] := by
    rw [replies]
    split
    · simp [List.filterMap_map, Happening.result, Function.comp_def]
    · rfl
  simp only [happenings, List.filterMap_append, none, silent, emissions, List.filterMap_map, List.nil_append,
    List.append_nil]
  exact congrFun List.filterMap_eq_map' _

end Happenings

/-- Every query that a goroutine waits for is the last one it asked. -/
structure History.Asked (h : History κ υ ρ σ α ε) : Prop where
  paired : Paired h.log
  waits : ∀ party site, (h.watch.goroutine party).stage.asks = some site → Since h.log party site

namespace Watcher

variable {w : Watcher κ ρ σ ι ς α ε}

/-- A watcher that returns emits nothing more. -/
theorem over_step {s s' : Watch κ ρ σ α ε} {e : Event ρ ι ς} (ended : s.main.Over) (ran : w.step s e = some s') :
    s'.main.Over ∧ s'.main.sent = s.main.sent := by
  -- A watcher that returns neither blocks nor forwards nor waits for polls.
  have settled : s.main.stage ≠ .absent ∧ (∀ result next, s.main.stage ≠ .blocked result next) ∧
      (∀ site ask, s.main.stage ≠ .run (.forward site ask)) ∧ s.main.stage ≠ .run .range := by
    rcases ended with stage | stage <;> simp [stage]
  cases e with
  | start subscriptions =>
    -- It has been started before.
    simp only [step] at ran
    split at ran
    · next stage => exact absurd stage settled.1
    · cases ran
  | cancel =>
    -- Nobody waits to be woken.
    simp only [step] at ran
    split at ran
    · cases ran
    · cases ran
      rcases s.main.wake_cases with same | ⟨result, next, stage, -⟩
      · show s.main.wake.Over ∧ s.main.wake.sent = _
        rw [same]
        exact ⟨ended, rfl⟩
      · exact absurd stage (settled.2.1 result next)
  | receive =>
    -- Receiving takes from the channel only.
    simp only [step, Option.map_eq_some_iff, Prod.exists] at ran
    obtain ⟨first, main, drained, rfl⟩ := ran
    obtain ⟨rest, -, ⟨result, next, stage, -⟩ | ⟨-, rfl⟩⟩ := Goroutine.drain_cases drained
    · exact absurd stage (settled.2.1 result next)
    · exact ⟨ended, rfl⟩
  | main m =>
    -- All that is left to it is closing its channel.
    simp only [step, Option.map_eq_some_iff] at ran
    obtain ⟨main, moved, rfl⟩ := ran
    rcases ended with stage | stage <;> cases m <;> simp [Goroutine.move, stage] at moved
    subst moved
    exact ⟨.inr rfl, rfl⟩
  | inner m =>
    -- The polls are another goroutine.
    simp only [step, Option.map_eq_some_iff] at ran
    obtain ⟨inner, moved, rfl⟩ := ran
    exact ⟨ended, rfl⟩
  | forward =>
    simp only [step] at ran
    split at ran
    · next site ask stage => exact absurd stage (settled.2.2.1 site ask)
    · cases ran
  | take =>
    simp only [step] at ran
    split at ran
    · next stage => exact absurd stage settled.2.2.2
    · cases ran
  | drained =>
    simp only [step] at ran
    split at ran
    · next stage _ _ => exact absurd stage settled.2.2.2
    · cases ran

/-- The goroutine that an event answers does not depend on how the answer is seen. -/
theorem reply_map (view : υ → ρ) (e : Event υ ι ς) :
    (e.map view).reply.map Prod.fst = e.reply.map Prod.fst := by
  cases e with
  | main m | inner m => cases m <;> rfl
  | start | cancel | receive | forward | take | drained => rfl

/-- A goroutine that waits for a query before and after a step that does not answer it has not moved. -/
theorem waits_kept {s s' : Watch κ ρ σ α ε} {e : Event ρ ι ς} {party : Party} (ran : w.step s e = some s')
    (other : e.reply.map Prod.fst ≠ some party) (waited : (s.goroutine party).stage.asks ≠ none)
    (waits : (s'.goroutine party).stage.asks ≠ none) :
    (s'.goroutine party).stage = (s.goroutine party).stage := by
  cases e with
  | start subscriptions =>
    simp only [step] at ran
    split at ran
    · next stage =>
      -- The watcher was not there before.
      cases ran
      cases party with
      | watcher => exact absurd (by simp [Watch.goroutine, stage, Stage.asks]) waited
      | polls => rfl
    · cases ran
  | cancel =>
    -- The context wakes a blocked send, not a query.
    simp only [step] at ran
    split at ran
    · cases ran
    · cases ran
      cases party with
      | watcher => exact Goroutine.stage_wake waited
      | polls => exact Goroutine.stage_wake waited
  | receive =>
    -- Receiving wakes a blocked send, not a query.
    simp only [step, Option.map_eq_some_iff, Prod.exists] at ran
    obtain ⟨first, main, drained, rfl⟩ := ran
    cases party with
    | watcher => exact Goroutine.stage_drain drained waited
    | polls => rfl
  | main m =>
    -- A move of the watcher itself would answer its query.
    simp only [step, Option.map_eq_some_iff] at ran
    obtain ⟨main, moved, rfl⟩ := ran
    cases party with
    | watcher => exact absurd ((Goroutine.moves moved).free fun answer same => other (by rw [same]; rfl)) waited
    | polls => rfl
  | inner m =>
    -- A move of the polls would answer theirs.
    simp only [step, Option.map_eq_some_iff] at ran
    obtain ⟨inner, moved, rfl⟩ := ran
    cases party with
    | watcher => rfl
    | polls => exact absurd ((Goroutine.moves moved).free fun answer same => other (by rw [same]; rfl)) waited
  | forward =>
    simp only [step] at ran
    split at ran
    · next site ask stage =>
      cases ran
      cases party with
      | watcher => exact absurd (by simp [Watch.goroutine, stage, Stage.asks]) waited
      -- The new stream of polls looks at the context before it asks.
      | polls => exact absurd rfl waits
    · cases ran
  | take =>
    -- The watcher takes a poll while it waits for no query.
    simp only [step] at ran
    split at ran
    · next stage =>
      simp only [Option.map_eq_some_iff, Prod.exists] at ran
      obtain ⟨first, inner, drained, rfl⟩ := ran
      cases party with
      | watcher => exact absurd rfl waits
      | polls => exact Goroutine.stage_drain drained waited
    · cases ran
  | drained =>
    simp only [step] at ran
    split at ran
    · cases ran
      cases party with
      | watcher => exact absurd rfl waits
      | polls => rfl
    · cases ran

/-- An answer is one of the goroutine that the event answers. -/
theorem party_replies {s : Watch κ ρ σ α ε} {e : Event υ ι ς} {x : Happening κ υ α ε} (member : x ∈ replies s e) :
    x.party = e.reply.map Prod.fst := by
  simp only [replies] at member
  split at member
  · next replied =>
    obtain ⟨_, -, rfl⟩ := List.mem_map.mp member
    rw [replied]
    rfl
  · simp at member

/-- A result is of no query. -/
theorem party_emissions {s s' : Watch κ ρ σ α ε} {x : Happening κ υ α ε} (member : x ∈ emissions s s') :
    x.party = none := by
  obtain ⟨_, -, rfl⟩ := List.mem_map.mp member
  rfl

/-- A query is one of the goroutine that starts it. -/
theorem party_questions {party : Party} {s s' : Watch κ ρ σ α ε} {e : Event υ ι ς} {x : Happening κ υ α ε}
    (member : x ∈ questions party s e s') : x.party = some party := by
  rw [questions] at member
  split at member
  · obtain ⟨_, -, rfl⟩ := List.mem_map.mp member
    rfl
  · simp at member

/-- With a step, the answers stay answers to the last queries. -/
theorem paired_step {h : History κ υ ρ σ α ε} (asked : h.Asked) (e : Event υ ι ς) (watch : Watch κ ρ σ α ε) :
    Paired (h.log ++ happenings h.watch e watch) := by
  have paired : Paired (h.log ++ replies h.watch e) := by
    simp only [replies]
    split
    · next party answer _ =>
      cases waited : (h.watch.goroutine party).stage.asks with
      | none => simpa using asked.paired
      | some site => simpa using asked.paired.answered (asked.waits party site waited) answer
    · simpa using asked.paired
  rw [happenings, List.append_assoc, List.append_assoc, ← List.append_assoc]
  refine paired.append fun party site answer => ?_
  simp only [emissions, questions, List.mem_append, List.mem_map, not_or]
  refine ⟨by simp, ?_, ?_⟩ <;> split <;> simp

/-- With a step, a goroutine that waits for a query has started it or waited for it before. -/
theorem asked_step {view : υ → ρ} {h h' : History κ υ ρ σ α ε} {e : Event υ ι ς} (asked : h.Asked)
    (ran : (w.history view).step h e = some h') : h'.Asked := by
  obtain ⟨watch, stepped, rfl⟩ := Option.map_eq_some_iff.mp ran
  refine ⟨paired_step asked e watch, fun party site waits => ?_⟩
  show Since (h.log ++ happenings h.watch e watch) party site
  -- The query has just been started, or it was waited for before.
  by_cases starts : (e.reply.map Prod.fst = some party) ∨ (h.watch.goroutine party).stage.asks = none
  · -- The question is the last of its party in the log.
    have started : questions party h.watch e watch = [.asked party site] := by
      rw [questions, if_pos starts, waits]
      rfl
    cases party with
    | watcher =>
      refine ⟨h.log ++ (replies h.watch e ++ emissions h.watch watch), questions .polls h.watch e watch, ?_, ?_⟩
      · simp [happenings, started]
      · intro x member
        rw [party_questions member]
        simp
    | polls =>
      refine ⟨h.log ++ (replies h.watch e ++ emissions h.watch watch ++ questions .watcher h.watch e watch), [], ?_,
        by simp⟩
      simp [happenings, started]
  · -- Nothing in the log since is of this party.
    have kept : (watch.goroutine party).stage = (h.watch.goroutine party).stage := by
      refine waits_kept stepped ?_ (fun free => starts (.inr free)) (by simp [waits])
      rw [reply_map]
      exact fun replied => starts (.inl replied)
    rw [kept] at waits
    refine (asked.waits party site waits).append fun x member own => ?_
    simp only [happenings, List.mem_append] at member
    rcases member with ((member | member) | member) | member
    · exact starts (.inl ((party_replies member).symm.trans own))
    · simp [party_emissions member] at own
    · rw [party_questions member, Option.some.injEq] at own
      rw [own, questions, if_neg starts] at member
      simp at member
    · rw [party_questions member, Option.some.injEq] at own
      rw [own, questions, if_neg starts] at member
      simp at member

/-- In every history, the answers are to the last queries of their goroutines. -/
theorem Runs.asked {view : υ → ρ} {trace : List (History κ υ ρ σ α ε × Event υ ι ς)} {h : History κ υ ρ σ α ε}
    (run : (w.history view).Runs trace h) : h.Asked := by
  refine Machine.Runs.stateInvariant ?_ (fun _ _ _ asked ran => asked_step asked ran) run
  constructor
  · intro before party site answer after whole
    simp [history] at whole
  · intro party site waits
    cases party <;> simp [history, Watch.goroutine, Stage.asks] at waits

end Watcher

end Wwan.Streams
