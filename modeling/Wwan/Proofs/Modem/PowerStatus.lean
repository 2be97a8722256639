import Mathlib.Data.List.Induction
import Wwan.Modem.PowerStatus

/-! A status without power is quiet, and one with power that follows it was queried since. -/

namespace Wwan.Modem.Qmi.PowerStatus

open Streams (Act Stage Goroutine Watch Result Event Happening Moves Since Paired pollLoop emissions questions happenings
  Forwards)

/-- What a goroutine of the watch does next. -/
abbrev StatusAct := Act Site QueryAnswers StatusLocals Status GoString

/-- How far a goroutine of the watch is. -/
abbrev StatusStage := Stage Site QueryAnswers StatusLocals Status GoString

/-! Every status that is queried is quiet. -/

/-- Normalising a status makes it quiet. -/
theorem normalizeRadioStatus_quiet (status : Status) : Quiet (normalizeRadioStatus status) := by
  rw [normalizeRadioStatus]
  split
  · next power => exact fun other => absurd power other
  · exact fun _ => ⟨rfl, rfl, rfl, rfl, rfl, rfl⟩

/-- Normalising keeps the power. -/
theorem power_normalizeRadioStatus (status : Status) : (normalizeRadioStatus status).power = status.power := by
  rw [normalizeRadioStatus]
  split <;> rfl

/-- The radio does not change the power. -/
theorem power_radioStatus {reads : Reads} {status : Status} (fine : (radioStatus reads status).err = none) :
    (radioStatus reads status).value.power = status.power := by
  rw [radioStatus] at fine ⊢
  split at fine
  · cases fine
  · split at fine
    · cases fine
    · rfl

/-- A status that was read without an error is quiet. -/
theorem status_quiet {reads : Reads} (fine : (status reads).err = none) : Quiet (status reads).value := by
  rw [status] at fine ⊢
  split at fine
  · cases fine
  · cases fine
  · simp only at fine ⊢
    split
    · exact normalizeRadioStatus_quiet _
    · next power =>
      rw [if_neg power] at fine
      intro other
      rw [power_radioStatus fine] at other
      exact absurd (not_not.mp power) other

/-- The same of a status that the watch sees. -/
theorem answers_quiet {reads : Reads} (fine : (answers reads).status.err = none) :
    Quiet (answers reads).status.value :=
  status_quiet (Option.map_eq_none_iff.mp fine)

/-! What the loop of the watch does. -/

/-- Whatever its queries answer, a goroutine keeps the last status it emitted, emits quiet ones, and one with power only
after another one with power or straight from a query. -/
def Honest : StatusAct → Option Status → (Result Status GoString → Prop) → Prop
  | .ret, _, _ => True
  | .select locals, last, _ => last = some locals.current ∧ Quiet locals.current
  | .query site next, last, _ =>
    ∀ reads, Honest (next (answers reads)) last fun result => site ≠ .power ∧ result = (answers reads).status
  | .ifLive next, last, fresh => Honest next last fresh
  | .send result next, last, fresh =>
    (result.err = none → Quiet result.value ∧
      (result.value.power = powerStateOn → (∃ status, last = some status ∧ status.power = powerStateOn) ∨ fresh result)) ∧
    Honest next (if result.err = none then some result.value else last) fun _ => False
  | .pollWait site ask, _, _ | .forward site ask, _, _ => site = .poll ∧ ask = QueryAnswers.status
  -- Only the machine of a watcher ranges over polls.
  | .range, _, _ => False

/-- What is fresh may be more. -/
theorem Honest.mono {act : StatusAct} {last : Option Status} {fresh more : Result Status GoString → Prop}
    (honest : Honest act last fresh) (weaker : ∀ result, fresh result → more result) : Honest act last more := by
  induction act generalizing last fresh more with
  | ret | select _ | query _ _ _ | pollWait _ _ | forward _ _ | range => exact honest
  | ifLive next ih => exact ih honest weaker
  | send result next ih =>
    refine ⟨fun fine => ⟨(honest.1 fine).1, fun power => ?_⟩, honest.2⟩
    exact ((honest.1 fine).2 power).imp_right (weaker result)

/-- After a select, the last status is that of the variables. -/
theorem after_honest {l : StatusLocals} {last : Status} (same : l.current = last) (quiet : Quiet last)
    (fresh : Result Status GoString → Prop) : Honest l.after (some last) fresh := by
  rw [StatusLocals.after]
  split
  · exact ⟨rfl, rfl⟩
  · rw [← same] at quiet ⊢
    exact ⟨rfl, quiet⟩

/-- A query of the status is honest, if what follows its result is. -/
theorem queryAndSend_honest {site : Site} (full : site ≠ .power) {next : Status → StatusAct}
    (honest : ∀ value, Quiet value → Honest (next value) (some value) fun _ => False) (last : Option Status)
    (fresh : Result Status GoString → Prop) : Honest (queryAndSend site QueryAnswers.status next) last fresh := by
  intro reads
  refine ⟨fun fine => ⟨answers_quiet fine, fun _ => .inr ⟨full, rfl⟩⟩, ?_⟩
  by_cases fine : (answers reads).status.err = none
  · rw [if_pos fine, fine]
    exact honest _ (answers_quiet fine)
  · rw [if_neg fine, if_pos (Option.isSome_iff_ne_none.mpr fine)]
    trivial

/-- A round of polling is honest. -/
theorem pollLoop_honest (last : Option Status) (fresh : Result Status GoString → Prop) :
    Honest (pollLoop .poll QueryAnswers.status) last fresh := by
  intro reads
  refine ⟨fun fine => ⟨answers_quiet fine, fun _ => .inr ⟨by decide, rfl⟩⟩, ?_⟩
  split
  · trivial
  · exact ⟨rfl, rfl⟩

/-- Sending a status without an error, which becomes that of the variables. -/
theorem send_honest {l : StatusLocals} {last : Status} {fresh : Result Status GoString → Prop} (quiet : Quiet l.current)
    (power : l.current.power = powerStateOn → last.power = powerStateOn) :
    Honest (.send { value := l.current } l.after) (some last) fresh :=
  ⟨fun _ => ⟨quiet, fun on => .inl ⟨last, rfl, power on⟩⟩, after_honest rfl quiet _⟩

/-- A power state is sent with a status that is quiet, and queried if the power came on. -/
theorem sendPowerState_honest (l : StatusLocals) (state : UInt8) (fresh : Result Status GoString → Prop) :
    Honest (l.sendPowerState state) (some l.current) fresh := by
  rw [StatusLocals.sendPowerState]
  split
  · next kept =>
    refine send_honest (l := { l with current := applyPowerState l.current state }) (normalizeRadioStatus_quiet _) ?_
    intro power
    rw [applyPowerState, power_normalizeRadioStatus] at power
    by_contra other
    simp only [powerTransitionNeedsStatusRefresh, ne_eq, other, not_false_eq_true, true_and, Bool.not_eq_eq_eq_not,
      Bool.not_true, decide_eq_false_iff_not] at kept
    exact kept power
  · exact queryAndSend_honest (by decide) (fun value quiet => after_honest rfl quiet _) _ _

/-- The watch starts honestly. -/
theorem start_honest (indications : StatusIndications) (last : Option Status) (fresh : Result Status GoString → Prop) :
    Honest (watchStatus.start indications) last fresh := by
  show Honest (if _ then _ else _) _ _
  split
  · exact pollLoop_honest _ _
  · refine queryAndSend_honest (by decide) ?_ _ _
    exact fun value quiet => ⟨rfl, quiet⟩

/-- A query of the power state is followed by what the loop does with it. -/
theorem queryPower_honest {l : StatusLocals} (fresh : Result Status GoString → Prop) :
    Honest (.query .power fun answers => .ifLive <|
      if answers.powerState.err.isSome then .send { value := l.current, err := answers.powerState.err } .ret
      else l.sendPowerState answers.powerState.value) (some l.current) fresh := by
  intro reads
  show Honest (if _ then _ else _) _ _
  split
  · next failed =>
    refine ⟨fun fine => ?_, trivial⟩
    rw [Option.isSome_iff_ne_none] at failed
    exact absurd fine failed
  · exact sendPowerState_honest l _ _

/-- Every case of the loop is honest. -/
theorem body_honest {l : StatusLocals} (quiet : Quiet l.current) {i : StatusCase} {act : StatusAct}
    (taken : watchStatus.body l i = some act) (fresh : Result Status GoString → Prop) :
    Honest act (some l.current) fresh := by
  -- Each branch of the select sends a status that is quiet, or asks for one.
  cases i with
  | powerClosed | powerPollsClosed | cardClosed | networkClosed | systemClosed | signalClosed =>
    -- A closed channel only changes what the loop waits for.
    simp only [watchStatus] at taken
    split at taken
    · cases taken
      refine after_honest ?_ quiet fresh
      rfl
    · cases taken
  | power event =>
    -- An indication of the power state either is sent, changes nothing, or has the state queried.
    simp only [watchStatus] at taken
    split at taken
    · split at taken
      · cases taken
        exact sendPowerState_honest l _ _
      · split at taken
        · cases taken
          exact ⟨rfl, quiet⟩
        · cases taken
          exact queryPower_honest fresh
    · cases taken
  | powerPoll result =>
    -- A poll of the power state that failed is sent as an error, and any other as an indication.
    simp only [watchStatus] at taken
    split at taken
    · split at taken
      · next failed =>
        cases taken
        refine ⟨fun fine => ?_, trivial⟩
        rw [Option.isSome_iff_ne_none] at failed
        exact absurd fine failed
      · split at taken
        · cases taken
          exact ⟨rfl, quiet⟩
        · cases taken
          exact sendPowerState_honest l _ _
    · cases taken
  | card sim =>
    -- A card changes neither the power nor what follows from it.
    simp only [watchStatus] at taken
    split at taken
    · cases taken
      exact send_honest (l := { l with current := { l.current with sim } }) quiet id
    · cases taken
  | network network =>
    -- The radio status is normalized with the power that it had.
    simp only [watchStatus] at taken
    split at taken
    · cases taken
      refine send_honest (l := { l with current := normalizeRadioStatus (applyNetworkStatus l.current network) })
        (normalizeRadioStatus_quiet _) fun power => ?_
      exact (power_normalizeRadioStatus (applyNetworkStatus l.current network)).symm.trans power
    · cases taken
  | signal quality =>
    -- So is it with a new signal quality.
    simp only [watchStatus] at taken
    split at taken
    · cases taken
      refine send_honest (l := { l with current := normalizeRadioStatus { l.current with signalQuality := quality } })
        (normalizeRadioStatus_quiet _) fun power => ?_
      exact (power_normalizeRadioStatus { l.current with signalQuality := quality }).symm.trans power
    · cases taken
  | system =>
    -- The whole status is read again, and the old one kept if that fails.
    simp only [watchStatus] at taken
    split at taken
    · cases taken
      intro reads
      show Honest (.send { value := if _ then _ else _, err := _ } _) _ _
      by_cases fine : (answers reads).status.err = none
      · -- Without an error, the status is the one that was read.
        simp only [fine, Option.isNone_none, if_true]
        refine ⟨fun _ => ⟨answers_quiet fine, fun _ => .inr ⟨by decide, ?_⟩⟩, after_honest rfl (answers_quiet fine) _⟩
        rw [← fine]
      · -- With an error, nothing is promised of the status.
        refine ⟨fun none => absurd none fine, ?_⟩
        simp only [fine, Option.isNone_iff_eq_none, if_false]
        exact after_honest rfl quiet _
    · cases taken
  | resync =>
    -- A resynchronization queries, so that whatever it sends is fresh.
    cases taken
    exact queryAndSend_honest (by decide) (fun value quiet => after_honest rfl quiet _) _ _

/-! What a log tells about the statuses in it. -/

/-- The last status without an error. -/
def lastStatus (log : Log) : Option Status :=
  (((log.filterMap Happening.result).filter (·.err.isNone)).getLast?).map (·.value)

/-- Queries do not change the last status. -/
theorem lastStatus_append {log more : Log} (silent : more.filterMap Happening.result = []) :
    lastStatus (log ++ more) = lastStatus log := by
  simp [lastStatus, List.filterMap_append, silent]

/-- A result without an error becomes the last status. -/
theorem lastStatus_emitted (log : Log) (result : Result Status GoString) :
    lastStatus (log ++ [.emitted result]) = if result.err = none then some result.value else lastStatus log := by
  by_cases fine : result.err = none
  · simp [lastStatus, Happening.result, fine]
  · simp [lastStatus, Happening.result, fine]

/-- After a status without an error, the last one is that or one of those that follow it. -/
theorem lastStatus_after (before between : Log) {earlier : Result Status GoString} (fine : earlier.err = none) :
    ∃ result, lastStatus (before ++ .emitted earlier :: between) = some result.value ∧ result.err = none ∧
      (result = earlier ∨ .emitted result ∈ between) := by
  -- The induction is on what happened since, from its end.
  induction between using List.reverseRecOn with
  | nil => exact ⟨earlier, by rw [lastStatus_emitted, if_pos fine], fine, .inl rfl⟩
  | append_singleton between x ih =>
    obtain ⟨result, last, good, place⟩ := ih
    have kept : result = earlier ∨ .emitted result ∈ between ++ [x] :=
      place.imp_right fun inside => List.mem_append_left _ inside
    rw [← List.cons_append, ← List.append_assoc]
    -- Only an emitted status can take the place of the last one.
    cases x with
    | asked party site =>
      rw [lastStatus_append rfl]
      exact ⟨result, last, good, kept⟩
    | answered party site reads =>
      rw [lastStatus_append rfl]
      exact ⟨result, last, good, kept⟩
    | emitted later =>
      rw [lastStatus_emitted]
      split
      · -- A later status without an error takes over.
        next none => exact ⟨later, rfl, none, .inr (by simp)⟩
      · exact ⟨result, last, good, kept⟩

/-- The result comes straight from a query of the watch. -/
def Fresh (log : Log) (result : Result Status GoString) : Prop := ∃ start, Queried log .watcher result start [] []

/-- The result is that of a poll, and what was emitted since was polled before. -/
def Polled (log : Log) (result : Result Status GoString) : Prop :=
  ∃ start middle rest, Queried log .polls result start middle rest ∧ Backlog start (middle ++ rest)

/-- A result without an error may be emitted after the log. -/
def Allowed (log : Log) (result : Result Status GoString) : Prop :=
  Quiet result.value ∧ (result.value.power = powerStateOn →
    (∃ status, lastStatus log = some status ∧ status.power = powerStateOn) ∨ Fresh log result ∨ Polled log result)

/-- Every result without an error was allowed when it was emitted. -/
def Explained (log : Log) : Prop :=
  ∀ before result after, log = before ++ .emitted result :: after → result.err = none → Allowed before result

/-- Without another result, all are explained. -/
theorem Explained.append {log more : Log} (explained : Explained log) (silent : more.filterMap Happening.result = []) :
    Explained (log ++ more) := by
  intro before result after whole fine
  have absent : Happening.emitted result ∉ more := by
    intro member
    have listed : result ∈ more.filterMap Happening.result := List.mem_filterMap.mpr ⟨_, member, rfl⟩
    rw [silent] at listed
    simp at listed
  obtain ⟨rest, split, -⟩ := Streams.split_of_notMem whole absent
  exact explained before result rest split fine

/-- One more result that is allowed. -/
theorem Explained.emitted {log : Log} {result : Result Status GoString} (explained : Explained log)
    (allowed : result.err = none → Allowed log result) : Explained (log ++ [.emitted result]) := by
  intro before result' after whole fine
  rcases List.eq_nil_or_concat' after with rfl | ⟨rest, last, rfl⟩
  · obtain ⟨rfl, same⟩ := List.append_inj' whole rfl
    simp only [List.cons.injEq, Happening.emitted.injEq, and_true] at same
    subst same
    exact allowed fine
  · rw [← List.cons_append, ← List.append_assoc] at whole
    exact explained before result' rest (List.append_inj' whole rfl).1 fine

/-! The loop of the watch, before it forwards polls. -/

/-- What a goroutine does next is honest after the log. -/
def HonestStage (log : Log) : StatusStage → Prop
  | .absent | .closed => True
  | .run act => Honest act (lastStatus log) (Fresh log)
  | .putting result next | .blocked result next => Honest (.send result next) (lastStatus log) (Fresh log)

/-- The watch has not begun to forward polls. -/
structure Looping (h : WatchHistory) : Prop where
  inner : h.watch.inner.stage = .absent
  alone : ∀ x ∈ h.log, x.party ≠ some .polls
  stage : HonestStage h.log h.watch.main.stage
  /-- A query that the watch waits for is the last that happened. -/
  asks : ∀ site, h.watch.main.stage.asks = some site → ∃ before, h.log = before ++ [.asked .watcher site]

/-- Starting a query leaves what follows it honest. -/
theorem HonestStage.asks {log : Log} {stage : StatusStage} (honest : HonestStage log stage) :
    HonestStage (log ++ stage.asks.toList.map (.asked .watcher)) stage := by
  cases asks : stage.asks with
  | none => simpa using honest
  | some site =>
    obtain ⟨next, rfl⟩ := Stage.asks_eq_some asks
    -- A query answers afresh, so what was fresh before it does not matter.
    show Honest _ (lastStatus _) _
    rw [lastStatus_append rfl]
    exact honest

/-- The watch goes on looping after it did something, with the query that it then starts. -/
theorem Looping.of {log : Log} {watch : Watch Site QueryAnswers StatusLocals Status GoString}
    (inner : watch.inner.stage = .absent) (alone : ∀ x ∈ log, x.party ≠ some .polls)
    (honest : HonestStage log watch.main.stage) :
    Looping ⟨watch, log ++ watch.main.stage.asks.toList.map (.asked .watcher)⟩ := by
  refine ⟨inner, fun x member => ?_, honest.asks, fun site asks => ⟨log, ?_⟩⟩
  · rcases List.mem_append.mp member with earlier | started
    · exact alone x earlier
    · obtain ⟨_, -, rfl⟩ := List.mem_map.mp started
      simp [Happening.party]
  · simp only at asks
    simp [asks]

/-- An honest result may be emitted. -/
theorem Honest.allowed {log : Log} {result : Result Status GoString} {next : StatusAct}
    (honest : Honest (.send result next) (lastStatus log) (Fresh log)) (fine : result.err = none) : Allowed log result :=
  ⟨(honest.1 fine).1, fun power => ((honest.1 fine).2 power).imp_right .inl⟩

/-- After an honest result is emitted, what follows it is honest. -/
theorem Honest.next {log : Log} {result : Result Status GoString} {next : StatusAct}
    (honest : Honest (.send result next) (lastStatus log) (Fresh log)) :
    HonestStage (log ++ [.emitted result]) (.run next) := by
  show Honest next (lastStatus _) _
  rw [lastStatus_emitted]
  exact honest.2.mono fun _ none => none.elim

/-! Forwarding polls. -/

/-- What a poll is followed by. -/
def pollNext (result : Result Status GoString) : StatusAct :=
  if result.err.isSome then .ret else .pollWait .poll QueryAnswers.status

/-- What follows the answer to a poll. -/
def pollSend (answers : QueryAnswers) : StatusAct := .ifLive (.send answers.status (pollNext answers.status))

/-- The stream of polls is at a point, with the results that are not in its channel yet, or are lost to the end of the
context. -/
inductive Polling : StatusStage → List (Result Status GoString) → Prop where
  | round : Polling (.run (.ifLive (.query .poll pollSend))) []
  | query : Polling (.run (.query .poll pollSend)) []
  | answered (result : Result Status GoString) : Polling (.run (.ifLive (.send result (pollNext result)))) [result]
  | send (result : Result Status GoString) : Polling (.run (.send result (pollNext result))) [result]
  | putting (result : Result Status GoString) : Polling (.putting result (pollNext result)) [result]
  | blocked (result : Result Status GoString) : Polling (.blocked result (pollNext result)) [result]
  | wait : Polling (.run (.pollWait .poll QueryAnswers.status)) []
  | ret (lost : List (Result Status GoString)) : Polling (.run .ret) lost
  | closed (lost : List (Result Status GoString)) : Polling .closed lost

/-- After a result is in the channel, the stream waits or returns. -/
theorem Polling.next (result : Result Status GoString) : Polling (.run (pollNext result)) [] := by
  rw [pollNext]
  split
  · exact .ret []
  · exact .wait

/-- It waits for no query then. -/
theorem asks_pollNext (result : Result Status GoString) : (Stage.run (pollNext result) : StatusStage).asks = none := by
  rw [pollNext]
  split <;> rfl

/-- The watch forwards polls: what it emitted since, what it holds and what is still in the stream are the answers, in
their order. -/
structure Forwarding (h : WatchHistory) (before after : Log) (held : Option (Result Status GoString))
    (pending : List (Result Status GoString)) : Prop where
  split : h.log = before ++ after
  alone : ∀ x ∈ before, x.party ≠ some .polls
  stage : Forwards h.watch.main.stage held
  polls : Polling h.watch.inner.stage pending
  queue : after.filterMap Happening.result ++ (held.toList ++ h.watch.inner.buffer ++ pending) =
    (after.filterMap Happening.poll).map fun reads => (answers reads).status
  sites : ∀ site reads, .answered .polls site reads ∈ after → site ≠ .power

/-- The watch loops, forwards polls, or returns. -/
def Phase (h : WatchHistory) : Prop :=
  Looping h ∨ (∃ before after held pending, Forwarding h before after held pending) ∨ h.watch.main.Over

/-- A watch whose steps are explained so far. -/
structure Sane (h : WatchHistory) : Prop where
  explained : Explained h.log
  phase : Phase h

/-- The loop goes on without a result. -/
theorem Looping.silent {h : WatchHistory} {e : WatchEvent}
    {watch : Watch Site QueryAnswers StatusLocals Status GoString} (looping : Looping h) (explained : Explained h.log)
    (silent : e.reply = none) (free : h.watch.main.stage.asks = none) (sent : watch.main.sent = h.watch.main.sent)
    (inner : watch.inner.stage = .absent) (honest : HonestStage h.log watch.main.stage) :
    Sane ⟨watch, h.log ++ happenings h.watch e watch⟩ := by
  have happened : happenings h.watch e watch = watch.main.stage.asks.toList.map (.asked .watcher) := by
    rw [Streams.happenings_watcher (.inr free) (by simp [silent]) (by rw [looping.inner, inner]),
      Streams.replies_none silent, Streams.emissions_same sent]
    rfl
  rw [happened]
  refine ⟨explained.append ?_, .inl (.of inner looping.alone honest)⟩
  cases watch.main.stage.asks <;> rfl

/-- The loop goes on with a result. -/
theorem Looping.emits {h : WatchHistory} {e : WatchEvent}
    {watch : Watch Site QueryAnswers StatusLocals Status GoString} {result : Result Status GoString} {next : StatusAct}
    {cancelled : Bool} (looping : Looping h) (explained : Explained h.log) (silent : e.reply = none)
    (free : h.watch.main.stage.asks = none) (sent : watch.main.sent = h.watch.main.sent ++ [(result, cancelled)])
    (inner : watch.inner.stage = .absent) (honest : Honest (.send result next) (lastStatus h.log) (Fresh h.log))
    (stage : watch.main.stage = .run next) : Sane ⟨watch, h.log ++ happenings h.watch e watch⟩ := by
  -- What happens is the emission, and then the question that the goroutine asks next.
  have happened : happenings h.watch e watch =
      .emitted result :: watch.main.stage.asks.toList.map (.asked .watcher) := by
    rw [Streams.happenings_watcher (.inr free) (by simp [silent]) (by rw [looping.inner, inner]),
      Streams.replies_none silent, Streams.emissions_put sent]
    rfl
  rw [happened, List.append_cons]
  refine ⟨(explained.emitted honest.allowed).append ?_, .inl (.of inner (fun x member => ?_) ?_)⟩
  · -- A question needs no explanation.
    cases watch.main.stage.asks <;> rfl
  · -- Nobody but the loop has taken part.
    rcases List.mem_append.mp member with earlier | last
    · exact looping.alone x earlier
    · rw [List.mem_singleton.mp last]
      simp [Happening.party]
  · rw [stage]
    exact honest.next

/-- The loop goes on with an answer to its query. -/
theorem Looping.answers {h : WatchHistory} {reads : Reads} {site : Site} {next : QueryAnswers → StatusAct}
    {watch : Watch Site QueryAnswers StatusLocals Status GoString} (looping : Looping h) (explained : Explained h.log)
    (query : h.watch.main.stage = .run (.query site next)) (sent : watch.main.sent = h.watch.main.sent)
    (inner : watch.inner.stage = .absent) (stage : watch.main.stage = .run (next (PowerStatus.answers reads))) :
    Sane ⟨watch, h.log ++ happenings h.watch (.main (.answer reads) : WatchEvent) watch⟩ := by
  -- What happens is the answer, and then the question that the goroutine asks next.
  have happened : happenings h.watch (.main (.answer reads) : WatchEvent) watch =
      .answered .watcher site reads :: watch.main.stage.asks.toList.map (.asked .watcher) := by
    rw [Streams.happenings_watcher (.inl rfl) (by simp [Event.reply]) (by rw [looping.inner, inner]),
      Streams.emissions_same sent]
    simp [Streams.replies, Event.reply, Watch.goroutine, query, Stage.asks]
  -- The question was asked before, since the goroutine waits for the answer.
  obtain ⟨before, last⟩ := looping.asks site (by rw [query]; rfl)
  have honest := looping.stage
  rw [query] at honest
  rw [happened, List.append_cons]
  refine ⟨(explained.append rfl).append ?_, .inl (.of inner (fun x member => ?_) ?_)⟩
  · -- A further question needs no explanation.
    cases watch.main.stage.asks <;> rfl
  · -- Nobody but the loop has taken part.
    rcases List.mem_append.mp member with earlier | last
    · exact looping.alone x earlier
    · rw [List.mem_singleton.mp last]
      simp [Happening.party]
  · rw [stage]
    show Honest _ (lastStatus _) _
    rw [lastStatus_append rfl]
    -- What the query answers is fresh now.
    refine (honest reads).mono fun result fresh => ⟨before, ⟨site, reads, ?_, fresh⟩, by simp⟩
    simp [last]

/-- The loop stays where it is. -/
theorem Looping.idle {h : WatchHistory} {e : WatchEvent}
    {watch : Watch Site QueryAnswers StatusLocals Status GoString} (looping : Looping h) (explained : Explained h.log)
    (silent : e.reply = none) (sent : watch.main.sent = h.watch.main.sent) (inner : watch.inner.stage = .absent)
    (stage : watch.main.stage = h.watch.main.stage) : Sane ⟨watch, h.log ++ happenings h.watch e watch⟩ := by
  rw [Streams.happenings_none silent (by rw [stage]) (by rw [looping.inner, inner]) sent, List.append_nil]
  refine ⟨explained, .inl ⟨inner, looping.alone, ?_, ?_⟩⟩
  · rw [stage]
    exact looping.stage
  · rw [stage]
    exact looping.asks

/-- A move of the loop. -/
theorem Looping.move {h : WatchHistory} {m : Streams.Move Reads StatusCase}
    {main : Goroutine Site QueryAnswers StatusLocals Status GoString} (looping : Looping h) (explained : Explained h.log)
    (ran : h.watch.main.move watchStatus.body h.watch.cancelled (m.map PowerStatus.answers) = some main) :
    Sane ⟨{ h.watch with main }, h.log ++ happenings h.watch (.main m : WatchEvent) { h.watch with main }⟩ := by
  have honest := looping.stage
  have moved := Goroutine.moves ran
  generalize same : m.map PowerStatus.answers = seen at moved
  -- Only an answer is a reply.
  have silent (other : ∀ reply, seen ≠ .answer reply) : (Event.main m : WatchEvent).reply = none := by
    cases m with
    | answer reply => exact absurd same.symm (other _)
    | go | done | case | tick => rfl
  cases moved with
  -- A closing goroutine sends nothing any more.
  | close stage => exact looping.silent explained (silent (by simp)) (by rw [stage]; rfl) rfl looping.inner trivial
  -- Between two steps of its own, the goroutine goes on with what it was honest about.
  | live stage =>
    rw [stage] at honest
    exact looping.silent explained (silent (by simp)) (by rw [stage]; rfl) rfl looping.inner honest
  | send stage =>
    rw [stage] at honest
    exact looping.silent explained (silent (by simp)) (by rw [stage]; rfl) rfl looping.inner honest
  -- There is room, and the result is sent.
  | put stage =>
    rw [stage] at honest
    exact looping.emits explained (silent (by simp)) (by rw [stage]; rfl) rfl looping.inner honest rfl
  | block stage =>
    rw [stage] at honest
    exact looping.silent explained (silent (by simp)) (by rw [stage]; rfl) rfl looping.inner honest
  -- The context has ended.
  | stop idle free =>
    refine looping.silent explained (silent ?_) free rfl looping.inner trivial
    rcases idle with rfl | rfl <;> simp
  -- The answer makes the result fresh, whichever query was asked.
  | answer stage =>
    obtain ⟨reads, rfl, rfl⟩ := Streams.Move.map_eq_answer same
    exact looping.answers explained stage rfl looping.inner rfl
  -- A branch of the select was taken, from a loop whose status is the last one that was sent.
  | case stage taken =>
    rw [stage] at honest
    refine looping.silent explained (silent (by simp)) (by rw [stage]; rfl) rfl looping.inner ?_
    show Honest _ (lastStatus h.log) _
    rw [honest.1]
    exact body_honest honest.2 taken _
  -- A tick of the poll loop queries.
  | tick stage =>
    rw [stage] at honest
    refine looping.silent explained (silent (by simp)) (by rw [stage]; rfl) rfl looping.inner ?_
    obtain ⟨rfl, rfl⟩ := honest
    exact pollLoop_honest (lastStatus h.log) (Fresh h.log)

/-- A step of a watch that loops. -/
theorem Looping.step {h h' : WatchHistory} {e : WatchEvent} (looping : Looping h) (explained : Explained h.log)
    (ran : watchStatusHistory.step h e = some h') : Sane h' := by
  obtain ⟨watch, stepped, rfl⟩ := Option.map_eq_some_iff.mp ran
  have honest := looping.stage
  cases e with
  -- The subscriptions decide how the loop starts.
  | start subscriptions =>
    simp only [Event.map, Streams.Watcher.step] at stepped
    split at stepped
    · next stage =>
      cases stepped
      exact looping.silent explained rfl (by rw [stage]; rfl) rfl looping.inner (start_honest subscriptions _ _)
    · cases stepped
  | cancel =>
    -- The end of the context wakes a goroutine that waits to send.
    simp only [Event.map, Streams.Watcher.step] at stepped
    split at stepped
    · cases stepped
    · cases stepped
      have inner : h.watch.inner.wake.stage = .absent := by simp [Goroutine.wake, looping.inner]
      rcases h.watch.main.wake_cases with same | ⟨result, next, stage, woken⟩
      · -- It does not wait.
        exact looping.idle explained rfl (by rw [same]) inner (by rw [same])
      · -- It waits, and gives its result up.
        refine looping.silent explained rfl (by rw [stage]; rfl) (by rw [woken]) inner ?_
        rw [woken]
        trivial
  | receive =>
    -- The consumer makes room for the result that waits, or for the next one.
    simp only [Event.map, Streams.Watcher.step, Option.map_eq_some_iff, Prod.exists] at stepped
    obtain ⟨first, main, drained, rfl⟩ := stepped
    obtain ⟨rest, -, ⟨result, next, stage, rfl⟩ | ⟨-, rfl⟩⟩ := Goroutine.drain_cases drained
    · rw [stage] at honest
      exact looping.emits explained rfl (by rw [stage]; rfl) rfl looping.inner honest rfl
    · exact looping.idle explained rfl rfl looping.inner rfl
  | main m =>
    -- A move of the goroutine is the lemma above.
    simp only [Event.map, Streams.Watcher.step, Option.map_eq_some_iff] at stepped
    obtain ⟨main, moved, rfl⟩ := stepped
    exact looping.move explained moved
  | inner m =>
    -- There is no stream of polls yet.
    simp only [Event.map, Streams.Watcher.step, Option.map_eq_some_iff] at stepped
    obtain ⟨inner, moved, -⟩ := stepped
    cases m <;> simp [Streams.Move.map, Goroutine.move, looping.inner] at moved
  | forward =>
    -- The polls start, and with them the forwarding, which nothing precedes.
    simp only [Event.map, Streams.Watcher.step] at stepped
    split at stepped
    · next site ask stage =>
      cases stepped
      rw [stage] at honest
      obtain ⟨rfl, rfl⟩ := honest
      rw [Streams.happenings_none (by rfl) (by rw [stage]; rfl) (by rw [looping.inner]; rfl) (by rfl), List.append_nil]
      exact ⟨explained, .inr (.inl ⟨h.log, [], none, [], by simp, looping.alone, .range, .round, rfl, by simp⟩)⟩
    · cases stepped
  | take =>
    -- Without a stream of polls nothing is taken from it.
    simp only [Event.map, Streams.Watcher.step] at stepped
    split at stepped
    · next stage =>
      rw [stage] at honest
      exact honest.elim
    · cases stepped
  | drained =>
    -- Nor is it found closed.
    simp only [Event.map, Streams.Watcher.step] at stepped
    split at stepped
    · next stage _ _ =>
      rw [stage] at honest
      exact honest.elim
    · cases stepped

/-- What the watch holds to forward was polled, and everything it forwarded before was polled before. -/
theorem Forwarding.polled {h : WatchHistory} {before after : Log} {result : Result Status GoString}
    {pending : List (Result Status GoString)} (forwarding : Forwarding h before after (some result) pending)
    (paired : Paired h.log) : Polled h.log result := by
  -- The first answer that was not forwarded is the one to this result.
  obtain ⟨forwarded, others, answers, emitted, unsent⟩ := List.append_eq_map_iff.mp forwarding.queue
  obtain ⟨reads, others, rfl, same, -⟩ := List.map_eq_cons_iff.mp unsent
  obtain ⟨first, rest, parts, polls, later⟩ := List.filterMap_eq_append_iff.mp answers
  obtain ⟨between, x, last, rfl, silent, answered, -⟩ := List.filterMap_eq_cons_iff.mp later
  obtain ⟨site, rfl⟩ := Happening.poll_eq_some answered
  have whole : h.log = before ++ (first ++ between) ++ .answered .polls site reads :: last := by
    rw [forwarding.split, parts]
    simp
  obtain ⟨start, since, asked, free⟩ := paired _ _ _ _ _ whole
  -- It was asked after the forwarding began.
  obtain ⟨rest, rfl, inside⟩ : ∃ rest, start = before ++ rest ∧ first ++ between = rest ++ .asked .polls site :: since := by
    rcases List.append_eq_append_iff.mp asked with ⟨rest, split, inside⟩ | ⟨rest, split, inside⟩
    · exact ⟨rest, split, inside⟩
    · cases rest with
      | nil => exact ⟨[], by simpa using split.symm, by simpa using inside.symm⟩
      | cons y rest =>
        obtain ⟨rfl, -⟩ := List.cons.inj inside
        exact absurd rfl (forwarding.alone (.asked .polls site) (by simp [split]))
  have full : site ≠ .power := forwarding.sites site reads (by simp [parts])
  refine ⟨before ++ rest, since, last, ⟨⟨site, reads, ?_, full, same.symm⟩, free⟩, ?_⟩
  · rw [whole, inside]
    simp
  · -- Since that query was asked, no other one was answered.
    have quiet : (.asked .polls site :: since : Log).filterMap Happening.poll = [] := by
      rw [List.filterMap_cons_none rfl]
      exact List.filterMap_eq_nil_iff.mpr fun x member => Happening.poll_eq_none (free x member)
    -- Before the forwarding there were no polls, and since then the forwarded ones.
    have early : before.filterMap Happening.poll = [] :=
      List.filterMap_eq_nil_iff.mpr fun x member => Happening.poll_eq_none (forwarding.alone x member)
    have polled : rest.filterMap Happening.poll = forwarded := by
      have both := congrArg (List.filterMap Happening.poll) inside
      rw [List.filterMap_append, List.filterMap_append, polls, List.filterMap_eq_nil_iff.mpr silent, quiet,
        List.append_nil, List.append_nil] at both
      exact both.symm
    have before' : (before ++ rest).filterMap Happening.poll = forwarded := by
      rw [List.filterMap_append, early, List.nil_append, polled]
    rw [Backlog, before', emitted, parts, ← List.append_assoc, inside]
    exact ⟨rest.filterMap Happening.result, by simp [List.filterMap_cons, Happening.result]⟩

/-- What the watch holds to forward may be emitted. -/
theorem Forwarding.allowed {h : WatchHistory} {before after : Log} {result : Result Status GoString}
    {pending : List (Result Status GoString)} (forwarding : Forwarding h before after (some result) pending)
    (paired : Paired h.log) (fine : result.err = none) : Allowed h.log result := by
  have polled := forwarding.polled paired
  obtain ⟨_, _, _, ⟨⟨_, reads, -, -, rfl⟩, -⟩, -⟩ := id polled
  exact ⟨answers_quiet fine, fun _ => .inr (.inr polled)⟩

/-- A watch that forwards waits for no query. -/
theorem asks_forwards {stage : StatusStage} {held : Option (Result Status GoString)} (forwards : Forwards stage held) :
    stage.asks = none := by
  cases forwards <;> rfl

/-- The watch goes on forwarding, with queries of the polls. -/
theorem Forwarding.silent {h : WatchHistory} {before after more : Log} {held held' : Option (Result Status GoString)}
    {pending pending' : List (Result Status GoString)} {watch : Watch Site QueryAnswers StatusLocals Status GoString}
    (forwarding : Forwarding h before after held pending) (explained : Explained h.log)
    (stage : Forwards watch.main.stage held') (polls : Polling watch.inner.stage pending')
    (silent : more.filterMap Happening.result = []) (full : ∀ site reads, .answered .polls site reads ∈ more → site ≠ .power)
    (queue : held'.toList ++ watch.inner.buffer ++ pending' = held.toList ++ h.watch.inner.buffer ++ pending ++
      (more.filterMap Happening.poll).map fun reads => (answers reads).status) :
    Sane ⟨watch, h.log ++ more⟩ := by
  refine ⟨explained.append silent, .inr (.inl ⟨before, after ++ more, held', pending', ?_, forwarding.alone, stage, polls,
    ?_, fun site reads member => ?_⟩)⟩
  · -- What is new stands behind what was there.
    rw [forwarding.split, List.append_assoc]
  · -- The answers that are not forwarded are those from before and the new ones.
    rw [List.filterMap_append, silent, List.append_nil, queue, ← List.append_assoc, forwarding.queue,
      List.filterMap_append, List.map_append]
  · rcases List.mem_append.mp member with earlier | later
    · exact forwarding.sites site reads earlier
    · exact full site reads later

/-- The watch forwards a result. -/
theorem Forwarding.emits {h : WatchHistory} {e : WatchEvent} {before after : Log} {result : Result Status GoString}
    {pending : List (Result Status GoString)} {watch : Watch Site QueryAnswers StatusLocals Status GoString}
    {cancelled : Bool} (forwarding : Forwarding h before after (some result) pending) (explained : Explained h.log)
    (paired : Paired h.log) (silent : e.reply = none) (stage : watch.main.stage = .run .range)
    (inner : watch.inner = h.watch.inner) (sent : watch.main.sent = h.watch.main.sent ++ [(result, cancelled)]) :
    Sane ⟨watch, h.log ++ happenings h.watch e watch⟩ := by
  -- Neither goroutine asks anything when the result is put.
  have happened : happenings h.watch e watch = [.emitted result] := by
    rw [Streams.happenings_idle silent ?_ (by rw [inner]), Streams.emissions_put sent]
    rw [stage, asks_forwards forwarding.stage]
    rfl
  rw [happened]
  refine ⟨explained.emitted (forwarding.allowed paired), .inr (.inl ⟨before, after ++ [.emitted result], none, pending,
    ?_, forwarding.alone, ?_, ?_, ?_, fun site reads member => ?_⟩)⟩
  · rw [forwarding.split, List.append_assoc]
  · rw [stage]
    exact .range
  · rw [inner]
    exact forwarding.polls
  · -- The result is no longer held, but it is emitted now.
    have queue := forwarding.queue
    have none : ([.emitted result] : Log).filterMap Happening.poll = [] := rfl
    rw [inner, List.filterMap_append, List.filterMap_append, none, List.append_nil, ← queue]
    simp [Happening.result]
  · exact forwarding.sites site reads (by simpa using member)

/-- The watch stops forwarding. -/
theorem Forwarding.stops {h : WatchHistory} {e : WatchEvent} {before after : Log}
    {held : Option (Result Status GoString)} {pending : List (Result Status GoString)}
    {watch : Watch Site QueryAnswers StatusLocals Status GoString}
    (forwarding : Forwarding h before after held pending) (explained : Explained h.log) (silent : e.reply = none)
    (stage : watch.main.stage = .run .ret) (inner : watch.inner.stage.asks = h.watch.inner.stage.asks)
    (sent : watch.main.sent = h.watch.main.sent) : Sane ⟨watch, h.log ++ happenings h.watch e watch⟩ := by
  have none : happenings h.watch e watch = [] := by
    refine Streams.happenings_none silent ?_ inner sent
    rw [stage, asks_forwards forwarding.stage]
    rfl
  rw [none, List.append_nil]
  exact ⟨explained, .inr (.inr (.inl stage))⟩

/-- A move of the watch that forwards. -/
theorem Forwarding.main {h : WatchHistory} {before after : Log} {held : Option (Result Status GoString)}
    {pending : List (Result Status GoString)} {m : Streams.Move Reads StatusCase}
    {main : Goroutine Site QueryAnswers StatusLocals Status GoString}
    (forwarding : Forwarding h before after held pending) (explained : Explained h.log) (paired : Paired h.log)
    (ran : h.watch.main.move watchStatus.body h.watch.cancelled (m.map PowerStatus.answers) = some main) :
    Sane ⟨{ h.watch with main }, h.log ++ happenings h.watch (.main m : WatchEvent) { h.watch with main }⟩ := by
  -- The goroutine of the watch only forwards, so it never asks.
  have forwards := forwarding.stage
  have moved := Goroutine.moves ran
  generalize same : m.map PowerStatus.answers = seen at moved
  have silent (other : ∀ reply, seen ≠ .answer reply) : (Event.main m : WatchEvent).reply = none := by
    cases m with
    | answer reply => exact absurd same.symm (other _)
    | go | done | case | tick => rfl
  have still (free : main.stage.asks = none) (sent : main.sent = h.watch.main.sent)
      (other : ∀ reply, seen ≠ .answer reply) :
      happenings h.watch (.main m : WatchEvent) { h.watch with main } = [] := by
    exact Streams.happenings_none (silent other) (free.trans (asks_forwards forwards).symm) rfl sent
  cases moved with
  -- None of these stages forwards.
  | close stage | live stage | answer stage | case stage _ | tick stage =>
    rw [stage] at forwards
    cases forwards
  -- A result that was taken is about to be put.
  | send stage =>
    rw [stage] at forwards
    cases forwards
    rw [still rfl rfl (by simp)]
    exact forwarding.silent explained (.putting _) forwarding.polls rfl (by simp) (by simp)
  -- There is room, and the result is sent.
  | put stage =>
    rw [stage] at forwards
    cases forwards
    exact forwarding.emits explained paired (silent (by simp)) rfl rfl rfl
  -- There is none, and the goroutine waits with it.
  | block stage =>
    rw [stage] at forwards
    cases forwards
    rw [still rfl rfl (by simp)]
    exact forwarding.silent explained (.blocked _) forwarding.polls rfl (by simp) (by simp)
  -- The context has ended, and with it the forwarding.
  | stop idle free =>
    refine forwarding.stops explained (silent ?_) rfl rfl rfl
    rcases idle with rfl | rfl <;> simp

/-- A move of the stream of polls. -/
theorem Forwarding.inner {h : WatchHistory} {before after : Log} {held : Option (Result Status GoString)}
    {pending : List (Result Status GoString)} {m : Streams.Move Reads StatusCase}
    {inner : Goroutine Site QueryAnswers StatusLocals Status GoString}
    (forwarding : Forwarding h before after held pending) (explained : Explained h.log)
    (ran : h.watch.inner.move watchStatus.body h.watch.cancelled (m.map PowerStatus.answers) = some inner) :
    Sane ⟨{ h.watch with inner }, h.log ++ happenings h.watch (.inner m : WatchEvent) { h.watch with inner }⟩ := by
  -- The goroutine of the polls asks, answers and fills its channel, which is all that can happen.
  have polls := forwarding.polls
  have moved := Goroutine.moves ran
  generalize same : m.map PowerStatus.answers = seen at moved
  have started (free : h.watch.inner.stage.asks = none) (other : ∀ reply, seen ≠ .answer reply) :
      happenings h.watch (.inner m : WatchEvent) { h.watch with inner } = inner.stage.asks.toList.map (.asked .polls) := by
    have silent : (Event.inner m : WatchEvent).reply = none := by
      cases m with
      | answer reply => exact absurd same.symm (other _)
      | go | done | case | tick => rfl
    rw [Streams.happenings_polls (.inr free) (by simp [silent]) (by rfl), Streams.replies_none silent,
      Streams.emissions_same (by rfl)]
    rfl
  -- Unless it asks, nothing happens that the log shows.
  have still (free : h.watch.inner.stage.asks = none) (other : ∀ reply, seen ≠ .answer reply)
      (none : inner.stage.asks = none) : happenings h.watch (.inner m : WatchEvent) { h.watch with inner } = [] := by
    rw [started free other, none]
    rfl
  cases moved with
  -- It has returned, and its channel is closed.
  | close stage =>
    rw [stage] at polls
    cases polls
    rw [still (by rw [stage]; rfl) (by simp) rfl]
    exact forwarding.silent explained forwarding.stage (.closed pending) rfl (by simp) (by simp)
  -- A round starts with a question, and a result is sent if the context goes on.
  | live stage =>
    rw [stage] at polls
    cases polls with
    | round =>
      rw [started (by rw [stage]; rfl) (by simp)]
      refine forwarding.silent explained forwarding.stage .query rfl (by simp [Stage.asks]) ?_
      simp [Stage.asks, Happening.poll]
    | answered result =>
      rw [still (by rw [stage]; rfl) (by simp) rfl]
      exact forwarding.silent explained forwarding.stage (.send result) rfl (by simp) (by simp)
  -- A result is about to be put.
  | send stage =>
    rw [stage] at polls
    cases polls
    rw [still (by rw [stage]; rfl) (by simp) rfl]
    exact forwarding.silent explained forwarding.stage (.putting _) rfl (by simp) (by simp)
  -- There is room for the result, which becomes the last one that is pending.
  | put stage =>
    rw [stage] at polls
    cases polls
    rw [still (by rw [stage]; rfl) (by simp) (asks_pollNext _)]
    exact forwarding.silent explained forwarding.stage (.next _) rfl (by simp) (by simp [Goroutine.put])
  -- There is none, and the goroutine waits with it.
  | block stage =>
    rw [stage] at polls
    cases polls
    rw [still (by rw [stage]; rfl) (by simp) rfl]
    exact forwarding.silent explained forwarding.stage (.blocked _) rfl (by simp) (by simp)
  -- The context has ended.
  | stop idle free =>
    have other : ∀ reply, seen ≠ .answer reply := by rcases idle with rfl | rfl <;> simp
    rw [still free other rfl]
    exact forwarding.silent explained forwarding.stage (.ret pending) rfl (by simp) (by simp)
  -- The answer is a result that is not forwarded yet.
  | answer stage =>
    obtain ⟨reads, rfl, rfl⟩ := Streams.Move.map_eq_answer same
    rw [stage] at polls
    cases polls
    -- Behind the answer the goroutine asks nothing.
    have happened : happenings h.watch (.inner (.answer reads) : WatchEvent)
        { h.watch with inner := { h.watch.inner with stage := .run (pollSend (PowerStatus.answers reads)) } } =
        [.answered .polls .poll reads] := by
      rw [Streams.happenings_polls (.inl rfl) (by simp [Event.reply]) (by rfl), Streams.emissions_same (by rfl)]
      simp [Streams.replies, Event.reply, Watch.goroutine, stage, Stage.asks, pollSend]
    rw [happened]
    refine forwarding.silent explained forwarding.stage (.answered _) rfl (by simp) ?_
    simp [Happening.poll]
  -- The polls have no select.
  | case stage taken =>
    rw [stage] at polls
    cases polls
  -- A tick starts a round.
  | tick stage =>
    rw [stage] at polls
    cases polls
    rw [still (by rw [stage]; rfl) (by simp) rfl]
    exact forwarding.silent explained forwarding.stage .round rfl (by simp) (by simp)

/-- The stream of polls after the end of the context. -/
theorem Polling.wake {g : Goroutine Site QueryAnswers StatusLocals Status GoString}
    {pending : List (Result Status GoString)} (polls : Polling g.stage pending) : Polling g.wake.stage pending := by
  rcases g.wake_cases with same | ⟨result, next, -, woken⟩
  · rw [same]
    exact polls
  · rw [woken]
    exact .ret pending

/-- A step of a watch that forwards polls. -/
theorem Forwarding.step {h h' : WatchHistory} {before after : Log} {held : Option (Result Status GoString)}
    {pending : List (Result Status GoString)} {e : WatchEvent} (forwarding : Forwarding h before after held pending)
    (explained : Explained h.log) (paired : Paired h.log) (ran : watchStatusHistory.step h e = some h') : Sane h' := by
  obtain ⟨watch, stepped, rfl⟩ := Option.map_eq_some_iff.mp ran
  have forwards := forwarding.stage
  have polls := forwarding.polls
  cases e with
  | start subscriptions =>
    -- The watch was started before it forwards.
    simp only [Event.map, Streams.Watcher.step] at stepped
    split at stepped
    · next stage =>
      rw [stage] at forwards
      cases forwards
    · cases stepped
  | cancel =>
    -- The end of the context wakes both goroutines.
    simp only [Event.map, Streams.Watcher.step] at stepped
    split at stepped
    · cases stepped
    · cases stepped
      -- A goroutine that is woken asks nothing new.
      have asks : h.watch.inner.wake.stage.asks = h.watch.inner.stage.asks := by
        rcases h.watch.inner.wake_cases with same | ⟨result, next, stage, woken⟩
        · rw [same]
        · rw [woken, stage]
          rfl
      rcases h.watch.main.wake_cases with same | ⟨result, next, stage, woken⟩
      · -- The forwarding goroutine does not wait to send, and goes on.
        have none : happenings h.watch (.cancel : WatchEvent)
            { cancelled := true, main := h.watch.main.wake, inner := h.watch.inner.wake } = [] :=
          Streams.happenings_none rfl (by rw [same]) asks (by rw [same])
        rw [none]
        refine forwarding.silent explained (by rw [same]; exact forwards) polls.wake rfl (by simp) ?_
        rw [show h.watch.inner.wake.buffer = h.watch.inner.buffer from Goroutine.buffer_wake _]
        simp
      · -- It waits, and stops.
        exact forwarding.stops explained rfl (by rw [woken]) asks (by rw [woken])
  | receive =>
    -- The consumer makes room for the result that is forwarded, or for the next one.
    simp only [Event.map, Streams.Watcher.step, Option.map_eq_some_iff, Prod.exists] at stepped
    obtain ⟨first, main, drained, rfl⟩ := stepped
    obtain ⟨rest, -, ⟨result, next, stage, rfl⟩ | ⟨-, rfl⟩⟩ := Goroutine.drain_cases drained
    · rw [stage] at forwards
      cases forwards
      exact forwarding.emits explained paired rfl rfl rfl rfl
    · rw [Streams.happenings_none (by rfl) (by rfl) (by rfl) (by rfl)]
      exact forwarding.silent explained forwards polls rfl (by simp) (by simp)
  | main m =>
    -- A move of either goroutine is one of the lemmas above.
    simp only [Event.map, Streams.Watcher.step, Option.map_eq_some_iff] at stepped
    obtain ⟨main, moved, rfl⟩ := stepped
    exact forwarding.main explained paired moved
  | inner m =>
    simp only [Event.map, Streams.Watcher.step, Option.map_eq_some_iff] at stepped
    obtain ⟨inner, moved, rfl⟩ := stepped
    exact forwarding.inner explained moved
  | forward =>
    -- The forwarding has begun already.
    simp only [Event.map, Streams.Watcher.step] at stepped
    split at stepped
    · next stage =>
      rw [stage] at forwards
      cases forwards
    · cases stepped
  | take =>
    -- The first pending result is taken, and leaves room for the one that the polls wait with.
    simp only [Event.map, Streams.Watcher.step] at stepped
    split at stepped
    · next stage =>
      rw [stage] at forwards
      cases forwards
      simp only [Option.map_eq_some_iff, Prod.exists] at stepped
      obtain ⟨first, inner, drained, rfl⟩ := stepped
      obtain ⟨rest, buffer, ⟨result, next, waits, rfl⟩ | ⟨-, rfl⟩⟩ := Goroutine.drain_cases drained
      · -- The polls wait, and put their result.
        rw [waits] at polls
        cases polls
        rw [Streams.happenings_none (by rfl) (by rw [stage]; rfl) (by rw [waits]; exact asks_pollNext result) (by rfl)]
        exact forwarding.silent explained (.send first) (.next result) rfl (by simp) (by simp [Goroutine.put, buffer])
      · -- They do not.
        rw [Streams.happenings_none (by rfl) (by rw [stage]; rfl) (by rfl) (by rfl)]
        exact forwarding.silent explained (.send first) polls rfl (by simp) (by simp [buffer])
    · cases stepped
  | drained =>
    -- Without a pending result a closed channel ends the forwarding.
    simp only [Event.map, Streams.Watcher.step] at stepped
    split at stepped
    · cases stepped
      exact forwarding.stops explained rfl rfl rfl rfl
    · cases stepped

/-- A step of a watch that returns. -/
theorem over_sane {h h' : WatchHistory} {e : WatchEvent} (ended : h.watch.main.Over) (explained : Explained h.log)
    (ran : watchStatusHistory.step h e = some h') : Sane h' := by
  obtain ⟨watch, stepped, rfl⟩ := Option.map_eq_some_iff.mp ran
  obtain ⟨still, sent⟩ := Streams.Watcher.over_step ended stepped
  refine ⟨explained.append ?_, .inr (.inr still)⟩
  rw [Streams.filterMap_result_happenings, sent, List.drop_length]
  rfl

/-- Every watch is sane all along. -/
theorem runs_sane {trace : List (WatchHistory × WatchEvent)} {h : WatchHistory}
    (run : watchStatusHistory.Runs trace h) : Sane h := by
  refine Machine.Runs.invariant (P := fun _ h => Sane h) ?_ ?_ run
  · refine ⟨fun before result after whole => ?_, .inl ⟨rfl, ?_, trivial, ?_⟩⟩
    · simp [watchStatusHistory, Streams.Watcher.history] at whole
    · simp [watchStatusHistory, Streams.Watcher.history]
    · simp [watchStatusHistory, Streams.Watcher.history, Stage.asks]
  · intro trace h e h' earlier sane ran
    have paired := (Streams.Watcher.Runs.asked earlier).paired
    rcases sane.phase with looping | ⟨before, after, held, pending, forwarding⟩ | ended
    · exact looping.step sane.explained ran
    · exact forwarding.step sane.explained paired ran
    · exact over_sane ended sane.explained ran

/-- A query of the watch that just ended was asked after everything that was emitted. -/
theorem Queried.later {before between start : Log} {earlier result : Result Status GoString}
    (fresh : Queried (before ++ .emitted earlier :: between) .watcher result start [] []) :
    before.length < start.length := by
  obtain ⟨site, reads, whole, -, -⟩ := fresh.query
  by_contra beyond
  have length := congrArg List.length whole
  have place : (before ++ .emitted earlier :: between : Log)[before.length]? = some (.emitted earlier) := by simp
  simp only [List.length_append, List.length_cons, List.length_nil] at length
  rw [whole] at place
  -- From there on, there is only the query.
  have two : before.length = start.length ∨ before.length = start.length + 1 := by omega
  rcases two with same | same <;> rw [same] at place <;> simp at place

/-- Every status without power is quiet, and the first one with power after it is what a query of the status gave that
was started after that status was emitted or, where polls are forwarded, after it was polled. -/
theorem status_follows_power {trace : List (WatchHistory × WatchEvent)} {h : WatchHistory}
    (run : watchStatusHistory.Runs trace h) :
    (∀ reads, (status reads).err = none → Quiet (status reads).value) ∧
    (∀ result, .emitted result ∈ h.log → result.err = none → Quiet result.value) ∧
    ∀ before earlier between later after,
      h.log = before ++ .emitted earlier :: between ++ .emitted later :: after →
      earlier.err = none → earlier.value.power ≠ powerStateOn →
      later.err = none → later.value.power = powerStateOn →
      (∀ result, .emitted result ∈ between → result.err = none → result.value.power ≠ powerStateOn) →
      ∃ party start middle rest,
        Queried (before ++ .emitted earlier :: between) party later start middle rest ∧
        (before.length < start.length ∨ party = .polls ∧ Backlog start (middle ++ rest)) := by
  have explained := (runs_sane run).explained
  refine ⟨fun reads => status_quiet, fun result member fine => ?_, ?_⟩
  · -- Every status that was sent is explained, and so quiet.
    obtain ⟨before, after, whole⟩ := List.append_of_mem member
    exact (explained before result after whole fine).1
  · -- Power comes back with the last status before, with a query of the watch, or with a poll.
    intro before earlier between later after whole good off fine power none
    rcases (explained _ later after whole fine).2 power with ⟨last, same, on⟩ | ⟨start, fresh⟩ | polled
    · -- The last status before it was without power.
      obtain ⟨result, last', ok, place⟩ := lastStatus_after before between good
      rw [last', Option.some.injEq] at same
      rw [← same] at on
      rcases place with rfl | inside
      · exact absurd on off
      · exact absurd on (none result inside ok)
    · -- A query of the watch was asked after the last status without power.
      exact ⟨.watcher, start, [], [], fresh, .inl fresh.later⟩
    · -- A poll is as old as the results that are forwarded before it.
      obtain ⟨start, middle, rest, queried, backlog⟩ := polled
      exact ⟨.polls, start, middle, rest, queried, .inr ⟨rfl, backlog⟩⟩

/-- The requests of a modem that is on and registered. -/
def onReads : Reads where
  cardStatus := { value := 2 }
  servingSystem := { value := { registration := 2, packetService := 2, technology := 8 } }
  signalInfo := { value := { quality := 70 } }

/-- The requests of a modem in low power. -/
def lowReads : Reads where
  operatingModeInfo := { value := { mode := 1 } }
  cardStatus := { value := 2 }

/-- The moves of a poll from its answer until it is in its channel. -/
def pollMoves (reads : Reads) : List WatchEvent := [.inner (.answer reads), .inner .go, .inner .go, .inner .go]

/-- A watch of the card alone forwards polls to a slow consumer, and the modem comes on between two of them. -/
def slowConsumer : List WatchEvent :=
  [.start { power := false, card := true, network := false, system := false, signal := false }, .main (.answer onReads),
    .main .go, .main .go, .main .go, .main (.case .cardClosed), .forward, .inner .go] ++ pollMoves lowReads ++
  [.take, .main .go, .main .go, .inner .tick, .inner .go, .receive] ++ pollMoves onReads ++
  [.take, .main .go, .main .go, .receive]

/-- What happens in it: the second poll is asked before the result of the first one is emitted. -/
def slowConsumerLog : Log :=
  [.asked .watcher .initial, .answered .watcher .initial onReads, .emitted (answers onReads).status,
    .asked .polls .poll, .answered .polls .poll lowReads, .asked .polls .poll] ++
  .emitted (answers lowReads).status :: [.answered .polls .poll onReads] ++ [.emitted (answers onReads).status]

/-- The status without power is quiet there, and the one with power after it was polled. -/
theorem slowConsumer_follows_power : ∃ trace h, watchStatusHistory.Runs trace h ∧ h.log = slowConsumerLog ∧
    (∀ result, .emitted result ∈ h.log → result.err = none → Quiet result.value) ∧
    ∃ party start middle rest,
      Queried (slowConsumerLog.take 8) party (answers onReads).status start middle rest ∧
      (6 < start.length ∨ party = .polls ∧ Backlog start (middle ++ rest)) := by
  have holds := status_follows_power (Machine.Runs.ofEvents watchStatusHistory slowConsumer (by decide))
  refine ⟨_, _, Machine.Runs.ofEvents watchStatusHistory slowConsumer (by decide), by decide, holds.2.1, ?_⟩
  exact holds.2.2 (slowConsumerLog.take 6) (answers lowReads).status [.answered .polls .poll onReads]
    (answers onReads).status [] (by decide) (by decide) (by decide) (by decide) (by decide) (by simp)

/-- It was not queried after the status without power was emitted. -/
theorem slowConsumer_stale : ∃ trace h before earlier between later,
    watchStatusHistory.Runs trace h ∧ h.log = before ++ .emitted earlier :: between ++ [.emitted later] ∧
      earlier.err = none ∧ earlier.value.power ≠ powerStateOn ∧ later.err = none ∧ later.value.power = powerStateOn ∧
      (∀ result, .emitted result ∈ between → result.err = none → result.value.power ≠ powerStateOn) ∧
      ¬∃ party start middle rest, Queried (before ++ .emitted earlier :: between) party later start middle rest ∧
        before.length < start.length := by
  refine ⟨_, _, slowConsumerLog.take 6, (answers lowReads).status, [.answered .polls .poll onReads],
    (answers onReads).status, Machine.Runs.ofEvents watchStatusHistory slowConsumer (by decide), by decide, by decide,
    by decide, by decide, by decide, by simp, ?_⟩
  -- The status is the answer to a query that was asked before the last status without power.
  rintro ⟨party, start, middle, rest, queried, later⟩
  obtain ⟨site, reads, whole, -, -⟩ := queried.query
  -- Only the answer to the poll happened since, but not the query.
  have length := congrArg List.length whole
  simp only [List.length_append, List.length_cons, List.length_nil] at length
  omega

end Wwan.Modem.Qmi.PowerStatus
