import Wwan.Sim.StkDelivery

/-! When the proactive commands of a card are delivered once and in order. -/

namespace Wwan.Sim

/-- The commands that a goroutine of `Commands` has left to send. -/
def ConsumerStage.items : ConsumerStage → List ProactiveRef
  | .flushing rest => rest
  | _ => []

/-- The command that a `fetchSTK` has at hand. -/
def FetchStage.items : FetchStage → List ProactiveRef
  | .idle => []
  | .fetched command | .sending command _ => [command]

namespace StkReader

/-- The steps that run into one another: a channel is closed while a fetch is about to send on it, two fetches overlap, a
fetch reads the channel while a flush is under way, a flush or a fetch takes a command for a consumer whose context has
already ended, or a fetch gives a command up whose consumer is still there. -/
def Races (s : StkReader) : StkEvent → Prop
  | .close out => ∃ f command, s.fetches f = .sending command out
  | .fetch _ => ∃ f, s.fetches f ≠ .idle
  | .flush out => s.stkPending ≠ [] ∧ s.ended out = true
  | .take _ => ∃ out, s.consumers out = .starting ∨ (∃ rest, s.consumers out = .flushing rest) ∨
      s.stkOut = some out ∧ s.ended out = true
  | .giveUp f => ∃ command out, s.fetches f = .sending command out ∧ s.ended out = false
  | _ => False

/-- A step with which the delivery of a command to a consumer begins. -/
def Takes (s : StkReader) (command : ProactiveRef) (out : ChanID) : StkEvent → Prop
  | .flush target => target = out ∧ command ∈ s.stkPending
  | .take f => s.fetches f = .fetched command ∧ s.stkOut = some out
  | _ => False

/-- A step that drops a command on the way to its consumer. -/
def Drops (s : StkReader) (command : ProactiveRef) (out : ChanID) : StkEvent → Prop
  | .flushed target => target = out ∧ command ∈ (s.consumers out).items
  | .giveUp f => s.fetches f = .sending command out
  | _ => False

/-- The delivery of a command to a consumer began in the trace, before the consumer's context ended. -/
def Begun (trace : List (StkReader × StkEvent)) (command : ProactiveRef) (out : ChanID) : Prop :=
  ∃ t e, (t, e) ∈ trace ∧ t.ended out = false ∧ t.Takes command out e

/-- A command was dropped in the trace, after its consumer's context ended. -/
def Dropped (trace : List (StkReader × StkEvent)) (command : ProactiveRef) (out : ChanID) : Prop :=
  ∃ t e, (t, e) ∈ trace ∧ t.ended out = true ∧ t.Drops command out e

/-- The commands in flight, where one goroutine at most flushes and one at most fetches. -/
structure Flow (s : StkReader) (out : ChanID) (f : Fetcher) : Prop where
  quiet : s.panicked = false
  flushers : ∀ other, other ≠ out → (s.consumers other).items = []
  fetchers : ∀ other, other ≠ f → s.fetches other = .idle
  /-- What is settled, what is flushed, what is pending and what is fetched are all commands in order. -/
  order : s.settled.map Prod.fst ++ ((s.consumers out).items ++ (s.stkPending ++ (s.fetches f).items)) =
    List.range s.fetched
  busy : (s.consumers out).items ≠ [] → s.stkPending = []
  sending : ∀ command target, s.fetches f = .sending command target →
    s.stkPending = [] ∧ (s.consumers out).items = [] ∧ s.consumers target ≠ .closed
  flushed : ∀ target, s.stkOut = some target → s.consumers target ≠ .starting → s.stkPending = []
  current : ∀ target, s.stkOut = some target → s.consumers target ≠ .closing ∧ s.consumers target ≠ .closed
  fresh : ∀ other, s.channels ≤ other → s.consumers other = .absent
  lost : ∀ command target, (command, Fate.lost target) ∈ s.settled → s.ended target = true

attribute [grind =] setConsumer_consumers setConsumer_stkOut setConsumer_stkPending setConsumer_channels
  setConsumer_ended setConsumer_fetches setConsumer_fetched setConsumer_settled setConsumer_panicked
  setFetch_consumers setFetch_stkOut setFetch_stkPending setFetch_channels setFetch_ended setFetch_fetches
  setFetch_fetched setFetch_settled setFetch_panicked

attribute [grind] ConsumerStage.items FetchStage.items

/-- A goroutine that moves on without commands leaves those in flight alone. -/
theorem Flow.setConsumer {s : StkReader} {out : ChanID} {f : Fetcher} (flow : s.Flow out f) (spot : ChanID)
    {stage : ConsumerStage} (same : stage.items = (s.consumers spot).items) (known : spot < s.channels)
    (begun : s.consumers spot ≠ .starting) (live : s.stkOut = some spot → stage ≠ .closing ∧ stage ≠ .closed)
    (unsent : stage = .closed → ∀ command, s.fetches f ≠ .sending command spot) :
    (s.setConsumer spot stage).Flow out f := by
  obtain ⟨quiet, flushers, fetchers, order, busy, sending, flushed, current, fresh, lost⟩ := flow
  constructor
  all_goals grind

/-- Some goroutine flushes and some fetcher fetches, or none does. -/
def Flows (s : StkReader) : Prop := ∃ out f, s.Flow out f

/-- Delivering a command keeps everything but what is settled. -/
theorem deliver_eq_some {s s' : StkReader} {command : ProactiveRef} {out : ChanID}
    (sent : s.deliver command out = some s') :
    ∃ buffered, s' = { s with settled := s.settled ++ [(command, .delivered out)], buffered } := by
  simp only [deliver, Option.ite_none_right_eq_some, Option.some.injEq] at sent
  exact ⟨_, sent.2.symm⟩

/-- The step of `flushPendingSTK` that takes what is pending. -/
theorem Flow.flush {s : StkReader} {out spot : ChanID} {f : Fetcher} (flow : s.Flow out f)
    (starting : s.consumers spot = .starting) :
    ({ s with stkPending := [] }.setConsumer spot (.flushing s.stkPending)).Flows := by
  obtain ⟨quiet, flushers, fetchers, order, busy, sending, flushed, current, fresh, lost⟩ := flow
  by_cases idle : (s.consumers out).items = []
  · -- The goroutine becomes the one that flushes.
    refine ⟨spot, f, quiet, ?_, fetchers, ?_, by simp, ?_, ?_, ?_, ?_, lost⟩
    · grind
    · grind
    · grind
    · grind
    · grind
    · grind
  · -- Another goroutine flushes, and nothing is pending.
    have none := busy idle
    have apart : out ≠ spot := by
      rintro rfl
      simp [starting, ConsumerStage.items] at idle
    refine ⟨out, f, quiet, ?_, fetchers, ?_, by simp, ?_, ?_, ?_, ?_, lost⟩
    · grind
    · grind
    · grind
    · grind
    · grind
    · grind

/-- The step of `flushPendingSTK` that sends a command. -/
theorem Flow.flushSend {s s' : StkReader} {out spot : ChanID} {f : Fetcher} {command : ProactiveRef}
    {rest : List ProactiveRef} (flow : s.Flow out f) (flushing : s.consumers spot = .flushing (command :: rest))
    (sent : s.deliver command spot = some s') : (s'.setConsumer spot (.flushing rest)).Flows := by
  obtain ⟨quiet, flushers, fetchers, order, busy, sending, flushed, current, fresh, lost⟩ := flow
  obtain ⟨buffered, rfl⟩ := deliver_eq_some sent
  -- Only one goroutine has commands to flush, so this is the one.
  obtain rfl : spot = out := by
    by_contra other
    simpa [flushing, ConsumerStage.items] using flushers spot other
  -- While it flushes nothing is pending behind its back.
  have none := busy (by simp [flushing, ConsumerStage.items])
  refine ⟨spot, f, quiet, ?_, fetchers, ?_, by simp [none], ?_, ?_, ?_, ?_, ?_⟩
  · grind
  · -- The first command it holds moves to the front of what was sent.
    rw [flushing] at order
    simpa [ConsumerStage.items] using order
  · grind
  · grind
  · grind
  · grind
  · grind

/-- The step in which `flushPendingSTK` returns. -/
theorem Flow.flushEnds {s : StkReader} {out spot : ChanID} {f : Fetcher} {rest : List ProactiveRef} (flow : s.Flow out f)
    (flushing : s.consumers spot = .flushing rest) (past : rest = [] ∨ s.ended spot = true) :
    ({ s with settled := s.settled ++ rest.map fun command => (command, Fate.lost spot) }.setConsumer spot
      .polling).Flows := by
  by_cases empty : rest = []
  · -- It has sent all it took.
    subst empty
    simp only [List.map_nil, List.append_nil]
    refine ⟨out, f, flow.setConsumer spot (by simp [flushing, ConsumerStage.items]) ?_ (by simp [flushing]) (by simp)
      (by simp)⟩
    by_contra large
    simp [flow.fresh spot (Nat.le_of_not_lt large)] at flushing
  · -- What the goroutine did not send is lost, and its context has ended.
    obtain ⟨quiet, flushers, fetchers, order, busy, sending, flushed, current, fresh, lost⟩ := flow
    obtain rfl : spot = out := by
      by_contra other
      exact empty (by simpa [flushing, ConsumerStage.items] using flushers spot other)
    have none := busy (by simpa [flushing, ConsumerStage.items] using empty)
    have ended := past.resolve_left empty
    refine ⟨spot, f, quiet, ?_, fetchers, ?_, by simp [none], ?_, ?_, ?_, ?_, ?_⟩
    · grind
    · rw [flushing] at order
      simpa [ConsumerStage.items, Function.comp_def] using order
    · grind
    · grind
    · grind
    · grind
    · -- The lost ones are the old ones and those of this goroutine.
      intro command target member
      simp only [setConsumer_settled, List.mem_append, List.mem_map, Prod.mk.injEq, Fate.lost.injEq] at member
      rcases member with old | ⟨_, _, -, rfl⟩
      · exact lost command target old
      · exact ended

/-- A step of a goroutine of `Commands` that runs into no other keeps the commands in order. -/
theorem Flows.stepConsumer {s s' : StkReader} {spot : ChanID} {e : StkEvent} (flows : s.Flows) (fair : ¬ s.Races e)
    (about : e = .flush spot ∨ e = .flushSend spot ∨ e = .flushed spot ∨ e = .leave spot ∨ e = .unset spot ∨
      e = .close spot) (accepted : s.stepConsumer spot e = some s') : s'.Flows := by
  obtain ⟨out, f, flow⟩ := flows
  -- A goroutine that is at work has its channel.
  have known {stage : ConsumerStage} (there : s.consumers spot = stage) (real : stage ≠ .absent) :
      spot < s.channels := by
    by_contra large
    exact real (there.symm.trans (flow.fresh spot (Nat.le_of_not_lt large)))
  rcases about with rfl | rfl | rfl | rfl | rfl | rfl
  · -- `flush`: the pending commands are taken.
    simp only [StkReader.stepConsumer] at accepted
    split at accepted
    · rename_i starting
      cases accepted
      exact flow.flush starting
    · cases accepted
  · -- `flushSend`: the next of them is sent.
    simp only [StkReader.stepConsumer] at accepted
    split at accepted
    · rename_i command rest flushing
      obtain ⟨_, sent, rfl⟩ := Option.map_eq_some_iff.mp accepted
      exact flow.flushSend flushing sent
    · cases accepted
  · -- `flushed`: the flush is over, or its context has ended.
    simp only [StkReader.stepConsumer] at accepted
    split at accepted
    · rename_i rest flushing
      simp only [Option.ite_none_right_eq_some, Option.some.injEq, Bool.or_eq_true, decide_eq_true_eq] at accepted
      obtain ⟨past, rfl⟩ := accepted
      exact flow.flushEnds flushing past
    · cases accepted
  · -- `leave`: the context has ended while nothing is flushed.
    simp only [StkReader.stepConsumer, Option.ite_none_right_eq_some, Option.some.injEq, Bool.and_eq_true,
      decide_eq_true_eq] at accepted
    obtain ⟨⟨⟨polling, -⟩, -⟩, rfl⟩ := accepted
    exact ⟨out, f, flow.setConsumer spot (by simp [polling, ConsumerStage.items]) (known polling (by simp))
      (by simp [polling]) (by simp) (by simp)⟩
  · -- `unset`: the channel is no longer the one the fetches send on.
    simp only [StkReader.stepConsumer, Option.ite_none_right_eq_some, Option.some.injEq] at accepted
    obtain ⟨leaving, rfl⟩ := accepted
    have unset : ({ s with stkOut := if s.stkOut = some spot then none else s.stkOut }).Flow out f := by
      obtain ⟨quiet, flushers, fetchers, order, busy, sending, flushed, current, fresh, lost⟩ := flow
      refine ⟨quiet, flushers, fetchers, order, busy, sending, ?_, ?_, fresh, lost⟩
      · intro target set
        simp only at set
        split at set
        · cases set
        · exact flushed target set
      · intro target set
        simp only at set
        split at set
        · cases set
        · exact current target set
    refine ⟨out, f, unset.setConsumer spot (by simp [leaving, ConsumerStage.items]) (known leaving (by simp))
      (by simp [leaving]) ?_ (by simp)⟩
    simp only
    split <;> simp_all
  · -- `close`: the channel is closed.
    simp only [StkReader.stepConsumer, Option.ite_none_right_eq_some, Option.some.injEq] at accepted
    obtain ⟨closing, rfl⟩ := accepted
    refine ⟨out, f, flow.setConsumer spot (by simp [closing, ConsumerStage.items]) (known closing (by simp))
      (by simp [closing]) ?_ ?_⟩
    · intro set
      exact absurd closing (flow.current spot set).1
    · -- No fetch has the channel at hand.
      intro _ command sending
      exact fair ⟨f, command, sending⟩

/-- A command that is fetched while none is at hand comes after all the others. -/
theorem Flow.fetch {s : StkReader} {out : ChanID} {f spot : Fetcher} (flow : s.Flow out f)
    (idle : ∀ other, s.fetches other = .idle) :
    ({ s with fetched := s.fetched + 1 }.setFetch spot (.fetched s.fetched)).Flows := by
  obtain ⟨quiet, flushers, fetchers, order, busy, sending, flushed, current, fresh, lost⟩ := flow
  refine ⟨out, spot, quiet, flushers, ?_, ?_, busy, by simp, flushed, current, fresh, lost⟩
  · intro other different
    simp [different, idle]
  · rw [idle f] at order
    simp only [FetchStage.items, List.append_nil] at order
    simp [FetchStage.items, List.range_succ, ← order]

/-- A fetch that looks at the channel while nothing is flushed. -/
theorem Flow.take {s s' : StkReader} {out : ChanID} {f : Fetcher} {command : ProactiveRef} (flow : s.Flow out f)
    (fetched : s.fetches f = .fetched command)
    (calm : ∀ other, s.consumers other ≠ .starting ∧ ∀ rest, s.consumers other ≠ .flushing rest)
    (accepted : s.stepFetch f (.take f) = some s') : s'.Flow out f := by
  obtain ⟨quiet, flushers, fetchers, order, busy, sending, flushed, current, fresh, lost⟩ := flow
  -- Nobody flushes, so nothing is held by a consumer.
  have none : (s.consumers out).items = [] := by
    cases stage : s.consumers out with
    | flushing rest => exact absurd stage ((calm out).2 rest)
    | _ => rfl
  simp only [stepFetch, fetched] at accepted
  split at accepted
  · -- Nobody asks for commands, and it waits.
    rename_i unset
    cases accepted
    refine ⟨quiet, flushers, ?_, ?_, ?_, by simp, ?_, current, fresh, lost⟩
    · -- The other fetches are as before.
      intro other different
      simpa [different] using fetchers other different
    · simpa [FetchStage.items, fetched] using order
    · exact fun some => absurd none some
    · simp [unset]
  · -- It is going to send to the consumer that is set, whose flush is over.
    rename_i target set
    cases accepted
    have empty := flushed target set (calm target).1
    refine ⟨quiet, flushers, ?_, ?_, busy, ?_, flushed, current, fresh, lost⟩
    · intro other different
      simpa [different] using fetchers other different
    · simpa [FetchStage.items, fetched] using order
    · intro command target' sends
      simp only [setFetch_fetches, if_pos, FetchStage.sending.injEq] at sends
      obtain ⟨-, rfl⟩ := sends
      exact ⟨empty, none, (current target set).2⟩

/-- A fetch that is done with its command, which is the only one in flight. -/
theorem Flow.settle {s : StkReader} {out target : ChanID} {f : Fetcher} {command : ProactiveRef} {fate : Fate}
    {buffered : ChanID → Nat} (flow : s.Flow out f) (sends : s.fetches f = .sending command target)
    (gone : ∀ target', fate = .lost target' → s.ended target' = true) :
    ({ s with settled := s.settled ++ [(command, fate)], buffered }.setFetch f .idle).Flow out f := by
  obtain ⟨quiet, flushers, fetchers, order, busy, sending, flushed, current, fresh, lost⟩ := flow
  obtain ⟨empty, none, -⟩ := sending command target sends
  refine ⟨quiet, flushers, ?_, ?_, busy, by simp, flushed, current, fresh, ?_⟩
  · intro other different
    simpa [different] using fetchers other different
  · rw [sends, empty, none] at order
    simpa [FetchStage.items, empty, none] using order
  · intro other target' member
    simp only [setFetch_settled, List.mem_append, List.mem_singleton, Prod.mk.injEq] at member
    rcases member with old | ⟨-, new⟩
    · exact lost other target' old
    · exact gone target' new.symm

/-- A step of a fetch that runs into no other keeps the commands in order. -/
theorem Flows.stepFetch {s s' : StkReader} {spot : Fetcher} {e : StkEvent} (flows : s.Flows) (fair : ¬ s.Races e)
    (about : e = .fetch spot ∨ e = .take spot ∨ e = .send spot ∨ e = .giveUp spot)
    (accepted : s.stepFetch spot e = some s') : s'.Flows := by
  obtain ⟨out, f, flow⟩ := flows
  -- Only one fetch has a command at hand.
  have mine (busy : s.fetches spot ≠ .idle) : spot = f := by
    by_contra other
    exact busy (flow.fetchers spot other)
  rcases about with rfl | rfl | rfl | rfl
  · -- `fetch`: a new command comes behind all others.
    simp only [StkReader.stepFetch, Option.ite_none_right_eq_some, Option.some.injEq] at accepted
    obtain ⟨-, rfl⟩ := accepted
    refine flow.fetch fun other => ?_
    by_contra busy
    exact fair ⟨other, busy⟩
  · -- `take`: the fetch decides where its command goes.
    cases fetched : s.fetches spot with
    | fetched command =>
      obtain rfl := mine (by simp [fetched])
      refine ⟨out, spot, flow.take fetched ?_ accepted⟩
      exact fun other => ⟨fun starting => fair ⟨other, .inl starting⟩,
        fun rest flushing => fair ⟨other, .inr (.inl ⟨rest, flushing⟩)⟩⟩
    | _ => simp [StkReader.stepFetch, fetched] at accepted
  · -- `send`: the channel takes the command.
    simp only [StkReader.stepFetch] at accepted
    split at accepted
    · rename_i command target sends
      obtain rfl := mine (by simp [sends])
      rw [if_neg (flow.sending command target sends).2.2] at accepted
      obtain ⟨_, sent, rfl⟩ := Option.map_eq_some_iff.mp accepted
      obtain ⟨buffered, rfl⟩ := deliver_eq_some sent
      exact ⟨out, spot, flow.settle sends (by simp)⟩
    · cases accepted
  · -- `giveUp`: the context of the consumer has ended, and the command is lost.
    simp only [StkReader.stepFetch] at accepted
    split at accepted
    · rename_i command target sends
      obtain rfl := mine (by simp [sends])
      simp only [Option.ite_none_right_eq_some, Option.some.injEq] at accepted
      obtain ⟨-, rfl⟩ := accepted
      refine ⟨out, spot, flow.settle sends ?_⟩
      intro target' same
      cases same
      by_contra live
      exact fair ⟨command, target, sends, by simpa using live⟩
    · cases accepted

/-- A step that runs into no other keeps the commands in order. -/
theorem Flows.step {s s' : StkReader} {e : StkEvent} (flows : s.Flows) (fair : ¬ s.Races e)
    (accepted : s.step e = some s') : s'.Flows := by
  simp only [StkReader.step, Option.ite_none_left_eq_some] at accepted
  replace accepted := accepted.2
  cases e with
  | commands =>
    -- The new channel is empty, and its goroutine is still to flush.
    cases accepted
    obtain ⟨out, f, quiet, flushers, fetchers, order, busy, sending, flushed, current, fresh, lost⟩ := flows
    have absent := fresh s.channels (Nat.le_refl _)
    refine ⟨out, f, quiet, ?_, fetchers, ?_, ?_, ?_, ?_, ?_, ?_, lost⟩
    · grind
    · grind
    · grind
    · grind
    · grind
    · grind
    · intro other large
      have large : s.channels + 1 ≤ other := large
      simp only [setConsumer_consumers]
      rw [if_neg (Nat.ne_of_gt large)]
      exact fresh other (by omega)
  | cancel out =>
    -- A context that ends makes no command move.
    cases accepted
    obtain ⟨home, f, quiet, flushers, fetchers, order, busy, sending, flushed, current, fresh, lost⟩ := flows
    refine ⟨home, f, quiet, flushers, fetchers, order, busy, sending, flushed, current, fresh, ?_⟩
    intro command target member
    simp only
    split
    · rfl
    · exact lost command target member
  | receive out =>
    -- Receiving takes from the channel what was already counted as delivered.
    simp only [Option.ite_none_left_eq_some, Option.some.injEq] at accepted
    obtain ⟨-, rfl⟩ := accepted
    obtain ⟨home, f, quiet, flushers, fetchers, order, busy, sending, flushed, current, fresh, lost⟩ := flows
    exact ⟨home, f, quiet, flushers, fetchers, order, busy, sending, flushed, current, fresh, lost⟩
  | flush out | flushSend out | flushed out | leave out | unset out | close out =>
    exact flows.stepConsumer fair (by simp) accepted
  | fetch f | take f | send f | giveUp f => exact flows.stepFetch fair (by simp) accepted

/-- What the trace says of the commands that are on their way to a consumer or lost. -/
structure Told (trace : List (StkReader × StkEvent)) (s : StkReader) : Prop where
  flushing : ∀ command out, command ∈ (s.consumers out).items → Begun trace command out
  sending : ∀ f command out, s.fetches f = .sending command out → Begun trace command out
  lost : ∀ command out, (command, Fate.lost out) ∈ s.settled → Begun trace command out ∧ Dropped trace command out

/-- What began stays begun. -/
theorem Begun.more {trace : List (StkReader × StkEvent)} {command : ProactiveRef} {out : ChanID}
    (begun : Begun trace command out) (step : StkReader × StkEvent) : Begun (trace ++ [step]) command out := by
  obtain ⟨t, e, listed, alive, takes⟩ := begun
  exact ⟨t, e, List.mem_append_left _ listed, alive, takes⟩

/-- What is told stays told. -/
theorem Told.more {trace : List (StkReader × StkEvent)} {s : StkReader} (told : Told trace s)
    (step : StkReader × StkEvent) : Told (trace ++ [step]) s where
  flushing := fun command out listed => (told.flushing command out listed).more step
  sending := fun f command out sends => (told.sending f command out sends).more step
  lost := by
    intro command out listed
    obtain ⟨begun, t, e, member, ended, drops⟩ := told.lost command out listed
    exact ⟨begun.more step, t, e, List.mem_append_left _ member, ended, drops⟩

/-- A goroutine of `Commands` that moves on has the commands it had, or commands it takes here. -/
theorem Told.setConsumer {trace : List (StkReader × StkEvent)} {s : StkReader} (told : Told trace s) {spot : ChanID}
    {stage : ConsumerStage} (taken : ∀ command ∈ stage.items, Begun trace command spot) :
    Told trace (s.setConsumer spot stage) where
  flushing := by
    intro command out listed
    simp only [setConsumer_consumers] at listed
    split at listed
    · rename_i same
      subst same
      exact taken command listed
    · exact told.flushing command out listed
  sending := told.sending
  lost := told.lost

/-- A fetch that moves on has no command on its way, or one that it takes here. -/
theorem Told.setFetch {trace : List (StkReader × StkEvent)} {s : StkReader} (told : Told trace s) {spot : Fetcher}
    {stage : FetchStage} (taken : ∀ command out, stage = .sending command out → Begun trace command out) :
    Told trace (s.setFetch spot stage) where
  flushing := told.flushing
  sending := by
    intro f command out sends
    simp only [setFetch_fetches] at sends
    split at sends
    · exact taken command out sends
    · exact told.sending f command out sends
  lost := told.lost

/-- More commands are settled, of which those that are lost are told of. -/
theorem Told.settle {trace : List (StkReader × StkEvent)} {s : StkReader} (told : Told trace s)
    {fates : List (ProactiveRef × Fate)} {buffered : ChanID → Nat}
    (gone : ∀ command out, (command, Fate.lost out) ∈ fates → Begun trace command out ∧ Dropped trace command out) :
    Told trace { s with settled := s.settled ++ fates, buffered } where
  flushing := told.flushing
  sending := told.sending
  lost := by
    intro command out listed
    rcases List.mem_append.mp listed with old | new
    · exact told.lost command out old
    · exact gone command out new

/-- A step of a goroutine of `Commands` is told of in the trace. -/
theorem Told.stepConsumer {trace : List (StkReader × StkEvent)} {s s' : StkReader} {spot : ChanID} {e : StkEvent}
    (told : Told trace s) (fair : ¬ s.Races e)
    (about : e = .flush spot ∨ e = .flushSend spot ∨ e = .flushed spot ∨ e = .leave spot ∨ e = .unset spot ∨
      e = .close spot) (accepted : s.stepConsumer spot e = some s') : Told (trace ++ [(s, e)]) s' := by
  have later := told.more (s, e)
  rcases about with rfl | rfl | rfl | rfl | rfl | rfl
  · simp only [StkReader.stepConsumer] at accepted
    split at accepted
    · -- What is pending is taken here, and the context of its consumer has not ended.
      cases accepted
      have emptied : Told (trace ++ [(s, .flush spot)]) { s with stkPending := [] } :=
        ⟨later.flushing, later.sending, later.lost⟩
      refine emptied.setConsumer fun command listed => ⟨s, .flush spot, by simp, ?_, rfl, listed⟩
      by_contra ended
      exact fair ⟨List.ne_nil_of_mem listed, by simpa using ended⟩
    · cases accepted
  · -- What is still to be sent was taken at the same flush.
    simp only [StkReader.stepConsumer] at accepted
    split at accepted
    · rename_i first rest flushing
      obtain ⟨_, sent, rfl⟩ := Option.map_eq_some_iff.mp accepted
      obtain ⟨buffered, rfl⟩ := deliver_eq_some sent
      refine (later.settle (by simp)).setConsumer fun command listed => later.flushing command spot ?_
      rw [flushing]
      exact List.mem_cons_of_mem _ listed
    · cases accepted
  · simp only [StkReader.stepConsumer] at accepted
    split at accepted
    · -- What the goroutine has left is dropped here, and only with its context ended.
      rename_i rest flushing
      simp only [Option.ite_none_right_eq_some, Option.some.injEq, Bool.or_eq_true, decide_eq_true_eq] at accepted
      obtain ⟨past, rfl⟩ := accepted
      have left (command : ProactiveRef) (listed : command ∈ rest) : command ∈ (s.consumers spot).items := by
        rw [flushing]
        exact listed
      refine Told.setConsumer (later.settle ?_) (by simp [ConsumerStage.items])
      intro command out listed
      simp only [List.mem_map, Prod.mk.injEq, Fate.lost.injEq] at listed
      obtain ⟨command, member, rfl, rfl⟩ := listed
      refine ⟨later.flushing command spot (left command member), s, .flushed spot, by simp, ?_, rfl, left command member⟩
      exact past.resolve_left (List.ne_nil_of_mem member)
    · cases accepted
  · -- `leave`, `unset` and `close` hold no command.
    simp only [StkReader.stepConsumer, Option.ite_none_right_eq_some, Option.some.injEq] at accepted
    obtain ⟨-, rfl⟩ := accepted
    exact later.setConsumer (by simp [ConsumerStage.items])
  · simp only [StkReader.stepConsumer, Option.ite_none_right_eq_some, Option.some.injEq] at accepted
    obtain ⟨-, rfl⟩ := accepted
    have unset : Told (trace ++ [(s, .unset spot)]) { s with stkOut := if s.stkOut = some spot then none else s.stkOut } :=
      ⟨later.flushing, later.sending, later.lost⟩
    exact unset.setConsumer (by simp [ConsumerStage.items])
  · simp only [StkReader.stepConsumer, Option.ite_none_right_eq_some, Option.some.injEq] at accepted
    obtain ⟨-, rfl⟩ := accepted
    exact later.setConsumer (by simp [ConsumerStage.items])

/-- A step of a fetch is told of in the trace. -/
theorem Told.stepFetch {trace : List (StkReader × StkEvent)} {s s' : StkReader} {spot : Fetcher} {e : StkEvent}
    (told : Told trace s) (fair : ¬ s.Races e)
    (about : e = .fetch spot ∨ e = .take spot ∨ e = .send spot ∨ e = .giveUp spot)
    (accepted : s.stepFetch spot e = some s') : Told (trace ++ [(s, e)]) s' := by
  have later := told.more (s, e)
  rcases about with rfl | rfl | rfl | rfl
  · -- A command just fetched has no consumer yet.
    simp only [StkReader.stepFetch, Option.ite_none_right_eq_some, Option.some.injEq] at accepted
    obtain ⟨-, rfl⟩ := accepted
    have counted : Told (trace ++ [(s, .fetch spot)]) { s with fetched := s.fetched + 1 } :=
      ⟨later.flushing, later.sending, later.lost⟩
    exact counted.setFetch (by simp)
  · simp only [StkReader.stepFetch] at accepted
    split at accepted
    · rename_i command fetched
      split at accepted
      · -- Nobody is set, and the command becomes pending.
        cases accepted
        have pending : Told (trace ++ [(s, .take spot)]) { s with stkPending := s.stkPending ++ [command] } :=
          ⟨later.flushing, later.sending, later.lost⟩
        exact pending.setFetch (by simp)
      · -- The command is taken here, and the context of its consumer has not ended.
        rename_i out set
        cases accepted
        refine later.setFetch fun command' out' sends => ?_
        simp only [FetchStage.sending.injEq] at sends
        obtain ⟨rfl, rfl⟩ := sends
        refine ⟨s, .take spot, by simp, ?_, fetched, set⟩
        by_contra ended
        exact fair ⟨out, .inr (.inr ⟨set, by simpa using ended⟩)⟩
    · cases accepted
  · -- A sent command is settled as delivered.
    simp only [StkReader.stepFetch] at accepted
    split at accepted
    · split at accepted
      · cases accepted
        exact ⟨later.flushing, later.sending, later.lost⟩
      · obtain ⟨_, sent, rfl⟩ := Option.map_eq_some_iff.mp accepted
        obtain ⟨buffered, rfl⟩ := deliver_eq_some sent
        exact (later.settle (by simp)).setFetch (by simp)
    · cases accepted
  · simp only [StkReader.stepFetch] at accepted
    split at accepted
    · -- The command is dropped here, and only with the context of its consumer ended.
      rename_i command out sends
      simp only [Option.ite_none_right_eq_some, Option.some.injEq] at accepted
      obtain ⟨-, rfl⟩ := accepted
      refine Told.setFetch (later.settle ?_) (by simp)
      intro command' out' listed
      simp only [List.mem_singleton, Prod.mk.injEq, Fate.lost.injEq] at listed
      obtain ⟨rfl, rfl⟩ := listed
      refine ⟨later.sending spot _ _ sends, s, .giveUp spot, by simp, ?_, sends⟩
      by_contra live
      exact fair ⟨_, _, sends, by simpa using live⟩
    · cases accepted

/-- A step that runs into no other is told of in the trace. -/
theorem Told.step {trace : List (StkReader × StkEvent)} {s s' : StkReader} {e : StkEvent} (told : Told trace s)
    (fair : ¬ s.Races e) (accepted : s.step e = some s') : Told (trace ++ [(s, e)]) s' := by
  have later := told.more (s, e)
  simp only [StkReader.step, Option.ite_none_left_eq_some] at accepted
  replace accepted := accepted.2
  cases e with
  | commands =>
    cases accepted
    have opened : Told (trace ++ [(s, .commands)]) { s with stkOut := some s.channels, channels := s.channels + 1 } :=
      ⟨later.flushing, later.sending, later.lost⟩
    exact opened.setConsumer (by simp [ConsumerStage.items])
  | cancel out =>
    cases accepted
    exact ⟨later.flushing, later.sending, later.lost⟩
  | receive out =>
    simp only [Option.ite_none_left_eq_some, Option.some.injEq] at accepted
    obtain ⟨-, rfl⟩ := accepted
    exact ⟨later.flushing, later.sending, later.lost⟩
  | flush out | flushSend out | flushed out | leave out | unset out | close out =>
    exact told.stepConsumer fair (by simp) accepted
  | fetch f | take f | send f | giveUp f => exact told.stepFetch fair (by simp) accepted

/-- In every run without such a race no send panics, and the commands that were fetched are those that became of
something, in the order they were fetched, and then those that are flushed, pending or at hand; and a command was lost
only with the context of its consumer ended after the delivery to it began. -/
theorem commands_inOrder {trace : List (StkReader × StkEvent)} {s : StkReader} (run : stkReader.Runs trace s)
    (fair : ∀ step ∈ trace, ¬ step.1.Races step.2) :
    s.panicked = false ∧
    (∃ out f, s.settled.map Prod.fst ++ ((s.consumers out).items ++ (s.stkPending ++ (s.fetches f).items)) =
        List.range s.fetched ∧
      (∀ other, other ≠ out → (s.consumers other).items = []) ∧ ∀ other, other ≠ f → s.fetches other = .idle) ∧
    ∀ command out, (command, Fate.lost out) ∈ s.settled →
      s.ended out = true ∧ Begun trace command out ∧ Dropped trace command out := by
  have both : (∀ step ∈ trace, ¬ step.1.Races step.2) → s.Flows ∧ Told trace s := by
    refine run.invariant (P := fun trace s => (∀ step ∈ trace, ¬ step.1.Races step.2) → s.Flows ∧ Told trace s) ?_ ?_
    · intro _
      refine ⟨⟨0, .call 0, rfl, fun _ _ => rfl, fun _ _ => rfl, rfl, by simp [stkReader, ConsumerStage.items],
        by simp [stkReader], by simp [stkReader], by simp [stkReader], by simp [stkReader], by simp [stkReader]⟩, ?_⟩
      exact ⟨by simp [stkReader, ConsumerStage.items], by simp [stkReader], by simp [stkReader]⟩
    · intro trace s e s' _ ih accepted fair
      obtain ⟨flows, told⟩ := ih fun step member => fair step (List.mem_append_left _ member)
      have fine := fair (s, e) (by simp)
      exact ⟨flows.step fine accepted, told.step fine accepted⟩
  obtain ⟨⟨out, f, flow⟩, told⟩ := both fair
  refine ⟨flow.quiet, ⟨out, f, flow.order, flow.flushers, flow.fetchers⟩, fun command out lost => ?_⟩
  exact ⟨flow.lost command out lost, told.lost command out lost⟩

/-- Of two commands that wait until somebody asks for them, the second is lost with the context of its consumer. -/
theorem pendingCommand_inOrder :
    ∃ trace s, stkReader.Runs trace s ∧ (∀ step ∈ trace, ¬ step.1.Races step.2) ∧
      s.settled = [(0, .delivered 0), (1, .lost 0)] ∧ s.panicked = false ∧ Begun trace 1 0 ∧ Dropped trace 1 0 := by
  have fetched := (((Machine.Runs.init (m := stkReader)).step (e := .fetch (.call 0)) rfl).step (e := .take (.call 0))
    rfl).step (e := .fetch (.call 0)) rfl |>.step (e := .take (.call 0)) rfl
  have run := ((fetched.step (e := .commands) rfl).step (e := .flush 0) rfl).step (e := .flushSend 0) rfl |>.step
    (e := .cancel 0) rfl |>.step (e := .flushed 0) rfl
  obtain ⟨quiet, -, lost⟩ := commands_inOrder run (by simp [stkReader, Races])
  exact ⟨_, _, run, by simp [stkReader, Races], rfl, quiet, (lost 1 0 (by simp [stkReader])).2⟩

/-- A fetch for an envelope that has read the channel sends on it after it was closed. -/
theorem closedChannel_panics :
    (stkReader.runFrom stkReader.init [.commands, .flush 0, .flushed 0, .fetch (.call 0), .take (.call 0), .cancel 0,
        .leave 0, .unset 0, .close 0, .send (.call 0)]).map (fun ran => ran.2.panicked) = some true := by
  decide +kernel

end StkReader

end Wwan.Sim
