import Mathlib.Data.List.TakeWhile
import Wwan.Modem.UeventQueue

/-! No kernel event is lost between its reader and the watcher of devices. -/

namespace Wwan.Modem

/-- The pushes that come before the first stop. -/
def pushesBeforeStop (events : List UeventWatchEvent) : List KernelUevent :=
  (events.takeWhile fun | .stop _ => false | _ => true).filterMap fun | .push event => some event | _ => none

/-- The error of the first stop. -/
def firstStop (events : List UeventWatchEvent) : Option (Option GoString) :=
  events.findSome? fun | .stop err => some err | _ => none

/-- What a run has pushed and taken. -/
structure UeventHistory where
  /-- The pushes since the last batch. -/
  untaken : List KernelUevent := []
  /-- Each batch, with the pushes between it and the batch before it. -/
  taken : List (List KernelUevent × DeviceUeventBatch) := []

/-- The history with one more step. -/
def UeventHistory.add (h : UeventHistory) : UeventWatch × UeventWatchEvent → UeventHistory
  | (s, .push event) => if s.queue.stopped then h else { h with untaken := h.untaken ++ [event] }
  | (s, .take) => { untaken := [], taken := h.taken ++ [(h.untaken, s.queue.take.1)] }
  | _ => h

/-- The history of a run. -/
def ueventHistory (trace : List (UeventWatch × UeventWatchEvent)) : UeventHistory :=
  trace.foldl UeventHistory.add {}

/-- A batch says all there is to say about some pushes. -/
structure Batched (pushes removals : List KernelUevent) (rescan : Bool) : Prop where
  rescan_iff : rescan = true ↔ pushes ≠ []
  /-- Its removals are removals among the pushes, in their order. -/
  pushed : removals.Sublist (pushes.filter fun event => event.removesControlNode && event.named)
  /-- No name occurs twice. -/
  once : (removals.map KernelUevent.controlNodeName).Nodup
  /-- Every named removal among the pushes is there. -/
  covers : ∀ event ∈ pushes, event.removesControlNode = true → event.named = true →
    event.controlNodeName ∈ removals.map KernelUevent.controlNodeName

/-- Nothing pushed makes an empty batch. -/
theorem Batched.empty : Batched [] [] false := ⟨by simp, by simp, by simp, by simp⟩

/-- What the queue holds in some state of a run. -/
structure UeventsHeld (trace : List (UeventWatch × UeventWatchEvent)) (s : UeventWatch) : Prop where
  batched : Batched (ueventHistory trace).untaken s.queue.removals s.queue.rescan
  names : ∀ name, s.queue.removalNames.get name = some () ↔
    name ∈ s.queue.removals.map KernelUevent.controlNodeName
  stopped : s.queue.stopped = (firstStop (trace.map Prod.snd)).isSome
  err : s.queue.err = (firstStop (trace.map Prod.snd)).join
  partitioned : (ueventHistory trace).taken.flatMap Prod.fst ++ (ueventHistory trace).untaken =
    pushesBeforeStop (trace.map Prod.snd)
  each : ∀ entry ∈ (ueventHistory trace).taken, Batched entry.1 entry.2.removals entry.2.rescan
  /-- A parked watcher with work at hand has a wake-up coming. -/
  woken : s.watcher = .parked → s.queue.ready = true → s.notify = true ∨ 0 < s.signals
  /-- The batch that reports the stop leaves nothing behind. -/
  last : ∀ batch, s.watcher = .handling batch → batch.stopped = true →
    s.queue.stopped = true ∧ (ueventHistory trace).untaken = []
  lastStop : ∀ batch, s.watcher = .handling batch → batch.err.isSome = true → batch.stopped = true
  errStops : s.queue.err.isSome = true → s.queue.stopped = true

/-- A step that is not a stop leaves the first stop alone. -/
theorem firstStop_append {events : List UeventWatchEvent} {e : UeventWatchEvent}
    (other : ∀ err, e ≠ .stop err) : firstStop (events ++ [e]) = firstStop events := by
  simp only [firstStop, List.findSome?_append]
  cases e <;> simp_all

/-- A stop is the first one where there is none before it. -/
theorem firstStop_append_stop (events : List UeventWatchEvent) (err : Option GoString) :
    firstStop (events ++ [.stop err]) = (firstStop events).or (some err) := by
  simp [firstStop, List.findSome?_append]

/-- No stop is there where none is first. -/
theorem firstStop_eq_none {events : List UeventWatchEvent} (none : firstStop events = none) :
    ∀ e ∈ events, (match e with | .stop _ => false | _ => true) = true := by
  intro e member
  have here := List.findSome?_eq_none_iff.mp none e member
  cases e <;> simp_all

/-- Once there is a stop, no later step adds a push that counts. -/
theorem pushesBeforeStop_append_stopped {events : List UeventWatchEvent} (e : UeventWatchEvent)
    (stopped : (firstStop events).isSome = true) : pushesBeforeStop (events ++ [e]) = pushesBeforeStop events := by
  obtain ⟨err, found⟩ := Option.isSome_iff_exists.mp stopped
  obtain ⟨stop, member, shape⟩ := List.exists_of_findSome?_eq_some found
  unfold pushesBeforeStop
  rw [List.takeWhile_append, if_neg]
  -- A list whose prefix of other events is the whole of it has no stop.
  intro whole
  have all := List.takeWhile_eq_self_iff.mp
    ((List.takeWhile_prefix _).eq_of_length whole) stop member
  cases stop <;> simp_all

/-- Before a stop every push counts. -/
theorem pushesBeforeStop_append {events : List UeventWatchEvent} (e : UeventWatchEvent)
    (running : (firstStop events).isSome = false) :
    pushesBeforeStop (events ++ [e]) =
      pushesBeforeStop events ++ (match e with | .push event => [event] | _ => []) := by
  have all := firstStop_eq_none (Option.isSome_eq_false_iff.mp running |> Option.isNone_iff_eq_none.mp)
  unfold pushesBeforeStop
  rw [List.takeWhile_append_of_pos all, List.filterMap_append, List.takeWhile_eq_self_iff.mpr all]
  cases e <;> simp

/-- The history grows step by step. -/
theorem ueventHistory_append (trace : List (UeventWatch × UeventWatchEvent)) (last : UeventWatch × UeventWatchEvent) :
    ueventHistory (trace ++ [last]) = (ueventHistory trace).add last := by
  simp [ueventHistory]

/-- A push to a running queue is held with those before it. -/
theorem Batched.push {pushes : List KernelUevent} {q : DeviceUeventQueue} (event : KernelUevent)
    (held : Batched pushes q.removals q.rescan) (running : q.stopped = false)
    (names : ∀ name, q.removalNames.get name = some () ↔ name ∈ q.removals.map KernelUevent.controlNodeName) :
    Batched (pushes ++ [event]) (q.push event).removals (q.push event).rescan ∧
    ∀ name, (q.push event).removalNames.get name = some () ↔
      name ∈ (q.push event).removals.map KernelUevent.controlNodeName := by
  unfold DeviceUeventQueue.push
  rw [if_neg (by simp [running])]
  by_cases fresh : (event.removesControlNode && event.named &&
      (q.removalNames.get event.controlNodeName).isNone) = true
  · -- The first removal of its name is appended.
    simp only [fresh, if_true]
    simp only [Bool.and_eq_true, Option.isNone_iff_eq_none] at fresh
    obtain ⟨⟨removes, named⟩, absent⟩ := fresh
    have unnamed : event.controlNodeName ∉ q.removals.map KernelUevent.controlNodeName := by
      rw [← names, absent]
      simp
    -- It is held once, and it covers itself.
    refine ⟨⟨by simp, ?_, ?_, ?_⟩, ?_⟩
    · rw [List.filter_append]
      refine held.pushed.append ?_
      simp [removes, named]
    · rw [List.map_append, List.nodup_append]
      refine ⟨held.once, by simp, ?_⟩
      rintro name there _ here rfl
      rw [List.map_singleton, List.mem_singleton] at here
      exact unnamed (here ▸ there)
    · intro other member removes named
      rw [List.map_append, List.mem_append]
      rcases List.mem_append.mp member with old | new
      · exact .inl (held.covers other old removes named)
      · rw [List.mem_singleton.mp new]
        exact .inr (by simp)
    · -- The names are those of the removals.
      intro name
      rw [GoMap.get_set, List.map_append, List.mem_append, ← names]
      split
      · rename_i same
        simp [same]
      · rename_i different
        simp [different]
  · -- Other events and repeated removals only ask for a rescan.
    simp only [fresh, if_false, Bool.false_eq_true]
    refine ⟨⟨by simp, ?_, held.once, ?_⟩, names⟩
    · rw [List.filter_append]
      exact held.pushed.trans (List.sublist_append_left _ _)
    · -- A repeated removal is covered by the first of its name.
      intro other member removes named
      rcases List.mem_append.mp member with old | new
      · exact held.covers other old removes named
      · obtain rfl := List.mem_singleton.mp new
        rw [← names]
        cases known : q.removalNames.get other.controlNodeName with
        | none => simp [removes, named, known] at fresh
        | some _ => rfl

/-- Pushing leaves the stop alone. -/
@[simp] theorem DeviceUeventQueue.push_stopped (q : DeviceUeventQueue) (event : KernelUevent) :
    (q.push event).stopped = q.stopped ∧ (q.push event).err = q.err := by
  unfold push
  dsimp only
  split_ifs <;> exact ⟨rfl, rfl⟩

/-- A stopped queue drops what is pushed. -/
theorem DeviceUeventQueue.push_of_stopped {q : DeviceUeventQueue} (event : KernelUevent) (stopped : q.stopped = true) :
    q.push event = q := by
  simp [push, stopped]

/-- A step that leaves the queue, the pushes and the takes alone keeps what the queue holds. -/
theorem UeventsHeld.quiet {trace : List (UeventWatch × UeventWatchEvent)} {s s' : UeventWatch} {e : UeventWatchEvent}
    (held : UeventsHeld trace s) (same : s'.queue = s.queue)
    (noPush : ∀ event, e ≠ .push event) (noStop : ∀ err, e ≠ .stop err) (noTake : e ≠ .take)
    (woken : s'.watcher = .parked → s'.queue.ready = true → s'.notify = true ∨ 0 < s'.signals)
    (still : ∀ batch, s'.watcher = .handling batch → s.watcher = .handling batch) :
    UeventsHeld (trace ++ [(s, e)]) s' := by
  -- Neither the history nor the stop nor the pushes before it see the step.
  have history : ueventHistory (trace ++ [(s, e)]) = ueventHistory trace := by
    rw [ueventHistory_append]
    cases e <;> simp_all [UeventHistory.add]
  have pushes : pushesBeforeStop ((trace ++ [(s, e)]).map Prod.snd) = pushesBeforeStop (trace.map Prod.snd) := by
    rw [List.map_append, List.map_singleton]
    cases known : (firstStop (trace.map Prod.snd)).isSome with
    | true => exact pushesBeforeStop_append_stopped _ known
    | false =>
      rw [pushesBeforeStop_append _ known]
      cases e <;> simp_all
  have stops : firstStop ((trace ++ [(s, e)]).map Prod.snd) = firstStop (trace.map Prod.snd) := by
    rw [List.map_append, List.map_singleton]
    exact firstStop_append noStop
  refine ⟨?_, ?_, ?_, ?_, ?_, ?_, woken, ?_, ?_, ?_⟩
  · rw [history, same]
    exact held.batched
  · rw [same]
    exact held.names
  · rw [stops, same]
    exact held.stopped
  · rw [stops, same]
    exact held.err
  · rw [history, pushes]
    exact held.partitioned
  · rw [history]
    exact held.each
  · intro batch handling
    rw [history, same]
    exact held.last batch (still batch handling)
  · intro batch handling
    exact held.lastStop batch (still batch handling)
  · rw [same]
    exact held.errStops

/-- A push keeps what the queue holds. -/
theorem UeventsHeld.push {trace : List (UeventWatch × UeventWatchEvent)} {s s' : UeventWatch} {event : KernelUevent}
    (held : UeventsHeld trace s) (accepted : s.step (.push event) = some s') :
    UeventsHeld (trace ++ [(s, UeventWatchEvent.push event)]) s' := by
  cases accepted
  -- A push is not a stop.
  have stops : firstStop ((trace ++ [(s, UeventWatchEvent.push event)]).map Prod.snd) = firstStop (trace.map Prod.snd) := by
    rw [List.map_append, List.map_singleton]
    exact firstStop_append (by simp)
  cases running : s.queue.stopped with
  | true =>
    -- A stopped queue drops the event, and the history does not count it.
    have history : ueventHistory (trace ++ [(s, UeventWatchEvent.push event)]) = ueventHistory trace := by
      rw [ueventHistory_append]
      simp [UeventHistory.add, running]
    have pushes : pushesBeforeStop ((trace ++ [(s, UeventWatchEvent.push event)]).map Prod.snd) =
        pushesBeforeStop (trace.map Prod.snd) := by
      rw [List.map_append]
      exact pushesBeforeStop_append_stopped _ (held.stopped ▸ running)
    simp only [DeviceUeventQueue.push_of_stopped event running, if_true]
    refine ⟨?_, held.names, ?_, ?_, ?_, ?_, held.woken, ?_, held.lastStop, held.errStops⟩
    · rw [history]
      exact held.batched
    · rw [stops]
      exact held.stopped
    · rw [stops]
      exact held.err
    · rw [history, pushes]
      exact held.partitioned
    · rw [history]
      exact held.each
    · rw [history]
      exact held.last
  | false =>
    -- A running queue holds the event until the next take.
    have history : ueventHistory (trace ++ [(s, UeventWatchEvent.push event)]) =
        { ueventHistory trace with untaken := (ueventHistory trace).untaken ++ [event] } := by
      rw [ueventHistory_append]
      simp [UeventHistory.add, running]
    have pushes : pushesBeforeStop ((trace ++ [(s, UeventWatchEvent.push event)]).map Prod.snd) =
        pushesBeforeStop (trace.map Prod.snd) ++ [event] := by
      rw [List.map_append]
      exact pushesBeforeStop_append _ (held.stopped ▸ running)
    obtain ⟨batched, names⟩ := held.batched.push event running held.names
    refine ⟨?_, names, ?_, ?_, ?_, ?_, ?_, ?_, held.lastStop, ?_⟩
    · rw [history]
      exact batched
    · rw [stops]
      exact (s.queue.push_stopped event).1.trans held.stopped
    · rw [stops]
      exact (s.queue.push_stopped event).2.trans held.err
    · -- The event is the last one pushed, and not yet taken.
      rw [history, pushes, ← held.partitioned, List.append_assoc]
    · rw [history]
      exact held.each
    · -- The push is about to signal.
      intro _ _
      simp
    · -- The watcher does not handle a last batch while the queue runs.
      intro batch handling stopped
      exact absurd (held.last batch handling stopped).1 (by simp [running])
    · simpa [(s.queue.push_stopped event).1, (s.queue.push_stopped event).2] using held.errStops

/-- A stop keeps what the queue holds. -/
theorem UeventsHeld.stop {trace : List (UeventWatch × UeventWatchEvent)} {s s' : UeventWatch} {err : Option GoString}
    (held : UeventsHeld trace s) (accepted : s.step (.stop err) = some s') :
    UeventsHeld (trace ++ [(s, UeventWatchEvent.stop err)]) s' := by
  cases accepted
  -- A stop takes nothing and pushes nothing.
  have history : ueventHistory (trace ++ [(s, UeventWatchEvent.stop err)]) = ueventHistory trace := by
    rw [ueventHistory_append]
    rfl
  have stops : firstStop ((trace ++ [(s, UeventWatchEvent.stop err)]).map Prod.snd) =
      (firstStop (trace.map Prod.snd)).or (some err) := by
    rw [List.map_append]
    exact firstStop_append_stop _ err
  have pushes : pushesBeforeStop ((trace ++ [(s, UeventWatchEvent.stop err)]).map Prod.snd) =
      pushesBeforeStop (trace.map Prod.snd) := by
    rw [List.map_append]
    cases known : (firstStop (trace.map Prod.snd)).isSome with
    | true => exact pushesBeforeStop_append_stopped _ known
    | false => simpa using pushesBeforeStop_append (.stop err) known
  -- It leaves what the queue holds.
  have kept : (s.queue.stop err).removals = s.queue.removals ∧ (s.queue.stop err).rescan = s.queue.rescan ∧
      (s.queue.stop err).removalNames = s.queue.removalNames := by
    unfold DeviceUeventQueue.stop
    split_ifs <;> exact ⟨rfl, rfl, rfl⟩
  have stopped : (s.queue.stop err).stopped = true := by
    unfold DeviceUeventQueue.stop
    split_ifs with already
    · exact already
    · rfl
  refine ⟨?_, ?_, ?_, ?_, ?_, ?_, ?_, ?_, held.lastStop, fun _ => stopped⟩
  · rw [history, kept.1, kept.2.1]
    exact held.batched
  · rw [kept.1, kept.2.2]
    exact held.names
  · rw [stops, stopped]
    simp
  · -- Only the first stop sets the error.
    rw [stops]
    have before := held.err
    have known := held.stopped
    unfold DeviceUeventQueue.stop
    cases found : firstStop (trace.map Prod.snd) with
    | none => simp_all
    | some first => simp_all
  · rw [history, pushes]
    exact held.partitioned
  · rw [history]
    exact held.each
  · intro _ _
    simp
  · intro batch handling last
    rw [history]
    exact ⟨stopped, (held.last batch handling last).2⟩

/-- A batch keeps what the queue holds. -/
theorem UeventsHeld.take {trace : List (UeventWatch × UeventWatchEvent)} {s s' : UeventWatch}
    (held : UeventsHeld trace s) (accepted : s.step .take = some s') :
    UeventsHeld (trace ++ [(s, UeventWatchEvent.take)]) s' := by
  simp only [UeventWatch.step, Option.ite_none_right_eq_some, Option.some.injEq] at accepted
  obtain ⟨-, rfl⟩ := accepted
  -- What was not taken goes into the batch.
  have history : ueventHistory (trace ++ [(s, UeventWatchEvent.take)]) =
      ⟨[], (ueventHistory trace).taken ++ [((ueventHistory trace).untaken, s.queue.take.1)]⟩ := by
    rw [ueventHistory_append]
    rfl
  -- Taking neither stops nor pushes.
  have stops : firstStop ((trace ++ [(s, UeventWatchEvent.take)]).map Prod.snd) = firstStop (trace.map Prod.snd) := by
    rw [List.map_append]
    exact firstStop_append (by simp)
  have pushes : pushesBeforeStop ((trace ++ [(s, UeventWatchEvent.take)]).map Prod.snd) =
      pushesBeforeStop (trace.map Prod.snd) := by
    rw [List.map_append]
    cases known : (firstStop (trace.map Prod.snd)).isSome with
    | true => exact pushesBeforeStop_append_stopped _ known
    | false => simpa using pushesBeforeStop_append .take known
  refine ⟨?_, ?_, ?_, ?_, ?_, ?_, ?_, ?_, ?_, held.errStops⟩
  · -- The queue is empty afterwards.
    rw [history]
    exact .empty
  · simp [DeviceUeventQueue.take]
  · rw [stops]
    exact held.stopped
  · rw [stops]
    exact held.err
  · -- Every push is in one batch or not taken yet.
    rw [history, pushes, ← held.partitioned]
    simp
  · -- The new batch covers what was not taken before.
    intro entry member
    rw [history] at member
    rcases List.mem_append.mp member with old | new
    · exact held.each entry old
    · rw [List.mem_singleton.mp new]
      exact held.batched
  · intro parked
    cases parked
  · -- The watcher now handles this batch.
    intro batch handling stopped
    cases handling
    rw [history]
    exact ⟨stopped, rfl⟩
  · intro batch handling failed
    cases handling
    exact held.errStops failed

/-- Every step keeps what the queue holds. -/
theorem UeventsHeld.step {trace : List (UeventWatch × UeventWatchEvent)} {s s' : UeventWatch} {e : UeventWatchEvent}
    (held : UeventsHeld trace s) (accepted : s.step e = some s') : UeventsHeld (trace ++ [(s, e)]) s' := by
  -- The other steps leave the queue and its history alone.
  cases e with
  | push event => exact held.push accepted
  | stop err => exact held.stop accepted
  | take => exact held.take accepted
  | signal =>
    simp only [UeventWatch.step, Option.ite_none_left_eq_some, Option.some.injEq] at accepted
    obtain ⟨-, rfl⟩ := accepted
    exact held.quiet rfl (by simp) (by simp) (by simp) (fun _ _ => .inl rfl) (by simp)
  | check =>
    simp only [UeventWatch.step, Option.ite_none_right_eq_some, Option.some.injEq] at accepted
    obtain ⟨-, rfl⟩ := accepted
    refine held.quiet rfl (by simp) (by simp) (by simp) ?_ ?_
    · -- The watcher parks on an empty queue only.
      intro parked ready
      simp only at ready
      simp [ready] at parked
    · intro batch handling
      simp only at handling
      split at handling <;> cases handling
  | wake =>
    simp only [UeventWatch.step, Option.ite_none_right_eq_some, Option.some.injEq] at accepted
    obtain ⟨-, rfl⟩ := accepted
    exact held.quiet rfl (by simp) (by simp) (by simp) (by simp) (by simp)
  | resume =>
    simp only [UeventWatch.step] at accepted
    split at accepted
    · simp only [Option.ite_none_left_eq_some, Option.some.injEq] at accepted
      obtain ⟨-, rfl⟩ := accepted
      exact held.quiet rfl (by simp) (by simp) (by simp) (by simp) (by simp)
    · cases accepted
  | leave =>
    simp only [UeventWatch.step, Option.ite_none_left_eq_some, Option.some.injEq] at accepted
    obtain ⟨-, rfl⟩ := accepted
    exact held.quiet rfl (by simp) (by simp) (by simp) (by simp) (by simp)

/-- What the queue holds in every run. -/
theorem ueventsHeld {trace : List (UeventWatch × UeventWatchEvent)} {s : UeventWatch}
    (run : ueventWatch.Runs trace s) : UeventsHeld trace s := by
  refine run.invariant (P := UeventsHeld) ?_ (fun _ _ _ _ _ held accepted => held.step accepted)
  exact ⟨.empty, by simp [ueventWatch], rfl, rfl, rfl, by simp [ueventHistory], by simp [ueventWatch],
    by simp [ueventWatch], by simp [ueventWatch], by simp [ueventWatch]⟩

/-- The steps that bring a watcher to its next batch, none of which adds to the queue. -/
def UeventWatchEvent.Approaches : UeventWatchEvent → Prop
  | .signal | .check | .wake | .resume => True
  | _ => False

/-- Some such steps lead to a batch of exactly what is queued. -/
def WillTake (s : UeventWatch) : Prop :=
  ∃ events trace t, (∀ e ∈ events, e.Approaches) ∧ ueventWatch.runFrom s events = some (trace, t) ∧
    t.watcher = .ready ∧ t.queue = s.queue

/-- A watcher at the head of its loop takes what is there. -/
theorem willTake_of_waiting {s : UeventWatch} (waiting : s.watcher = .waiting) (ready : s.queue.ready = true) :
    WillTake s := by
  refine ⟨[.check], [(s, .check)], { s with watcher := .ready }, by simp [UeventWatchEvent.Approaches], ?_, rfl, rfl⟩
  simp [Machine.runFrom, ueventWatch, UeventWatch.step, waiting, ready]

/-- One such step more leads to the same batch. -/
theorem WillTake.after {s t : UeventWatch} {e : UeventWatchEvent} (will : WillTake t) (approaches : e.Approaches)
    (accepted : s.step e = some t) (same : t.queue = s.queue) : WillTake s := by
  obtain ⟨events, trace, last, all, ran, ready, queue⟩ := will
  refine ⟨e :: events, (s, e) :: trace, last, ?_, ?_, ready, queue.trans same⟩
  · simpa [approaches] using all
  · rw [Machine.runFrom, show ueventWatch.step s e = some t from accepted]
    simp [ran]

/-- A watcher that has not returned takes what is queued, unless it has taken the stop. -/
theorem UeventsHeld.willTake {trace : List (UeventWatch × UeventWatchEvent)} {s : UeventWatch}
    (held : UeventsHeld trace s) (ready : s.queue.ready = true) (present : s.watcher ≠ .returned)
    (unstopped : ∀ batch, s.watcher = .handling batch → batch.stopped = false) : WillTake s := by
  -- A token wakes a parked watcher, which then finds the queue ready.
  have wakes (t : UeventWatch) (parked : t.watcher = .parked) (token : t.notify = true)
      (ready : t.queue.ready = true) : WillTake t := by
    refine (willTake_of_waiting (s := { t with notify := false, watcher := .waiting }) rfl ready).after
      (e := .wake) trivial ?_ rfl
    simp [UeventWatch.step, parked, token]
  cases stage : s.watcher with
  | waiting => exact willTake_of_waiting stage ready
  | parked =>
    rcases held.woken stage ready with token | signals
    · exact wakes s stage token ready
    · refine (wakes { s with notify := true, signals := s.signals - 1 } stage rfl ready).after
        (e := .signal) trivial ?_ rfl
      simp [UeventWatch.step, Nat.ne_of_gt signals]
  | ready => exact ⟨[], [], s, by simp, rfl, stage, rfl⟩
  -- The watcher handles a batch that does not stop it, and then waits again.
  | handling batch =>
    have running := unstopped batch stage
    have fine : batch.err.isSome = false := by
      rw [← Bool.not_eq_true]
      intro failed
      simp [held.lastStop batch stage failed] at running
    refine (willTake_of_waiting (s := { s with watcher := .waiting }) rfl ready).after (e := .resume) trivial ?_ rfl
    simp [UeventWatch.step, stage, running, fine]
  | returned => exact absurd stage present

/-- No event is lost between the reader and the watcher, in whatever order their steps come: every push before the stop
belongs to one batch or is still held; a batch has each named removal of its pushes once and asks for a rescan where
there are any; what is held gets into a batch unless the watcher returns; a parked watcher with something to take has a
token or a signal coming; and a batch reports the first stop exactly where it comes after it. -/
theorem uevents_kept {trace : List (UeventWatch × UeventWatchEvent)} {s : UeventWatch}
    (run : ueventWatch.Runs trace s) :
    (ueventHistory trace).taken.flatMap Prod.fst ++ (ueventHistory trace).untaken =
      pushesBeforeStop (trace.map Prod.snd) ∧
    (∀ entry ∈ (ueventHistory trace).taken, Batched entry.1 entry.2.removals entry.2.rescan) ∧
    ((ueventHistory trace).untaken ≠ [] → s.watcher ≠ .returned → WillTake s) ∧
    (s.queue.stopped = true → s.watcher ≠ .returned →
      (∀ batch, s.watcher = .handling batch → batch.stopped = false) → WillTake s) ∧
    (s.watcher = .parked → s.queue.ready = true → s.notify = true ∨ 0 < s.signals) ∧
    ∀ before t after, trace = before ++ (t, .take) :: after →
      t.queue.take.1.stopped = (firstStop (before.map Prod.snd)).isSome ∧
      t.queue.take.1.err = (firstStop (before.map Prod.snd)).join := by
  have held := ueventsHeld run
  refine ⟨held.partitioned, held.each, ?_, ?_, held.woken, ?_⟩
  · intro some present
    have rescan := held.batched.rescan_iff.mpr some
    refine held.willTake (by simp [DeviceUeventQueue.ready, rescan]) present fun batch handling => ?_
    rw [← Bool.not_eq_true]
    exact fun stopped => some (held.last batch handling stopped).2
  · intro stopped present unstopped
    exact held.willTake (by simp [DeviceUeventQueue.ready, stopped]) present unstopped
  · rintro before t after rfl
    have earlier := ueventsHeld run.accepted.1
    exact ⟨earlier.stopped, earlier.err⟩

/-- The removal of a control node. -/
def removedNode : KernelUevent :=
  { action := GoString.ascii "remove", subsystem := GoString.ascii "wwan", devName := GoString.ascii "wwan0qmi0" }

/-- The removal of a control node without a name. -/
def namelessNode : KernelUevent := { action := GoString.ascii "remove", subsystem := GoString.ascii "wwan" }

/-- A removal that comes twice, and then a stop with an error. -/
def removedTwice : List UeventWatchEvent :=
  [.check, .push removedNode, .push removedNode, .signal, .wake, .check, .stop (some [1]), .take]

/-- The two removals are in one batch. -/
theorem removedTwice_kept :
    ∃ trace s batch, ueventWatch.Runs trace s ∧ trace.map Prod.snd = removedTwice ∧
      (ueventHistory trace).taken = [([removedNode, removedNode], batch)] ∧
      Batched [removedNode, removedNode] batch.removals batch.rescan := by
  have glance : (ueventWatch.runFrom ueventWatch.init removedTwice).map
      (fun ran => (ueventHistory ran.1).taken.map Prod.fst) = some [[removedNode, removedNode]] := by decide +kernel
  obtain ⟨trace, s, run, events, taken⟩ := Machine.exists_runs glance
  obtain ⟨entry, only, first⟩ := List.map_eq_singleton_iff.mp taken
  have each := (uevents_kept run).2.1 entry (by simp [only])
  refine ⟨trace, s, entry.2, run, events, ?_, first ▸ each⟩
  rw [only, ← first]

/-- A removal without a name is in no batch, and between a push and its signal a watcher is parked with work recorded
and no token. -/
theorem namelessNode_not_kept :
    (namelessNode.removesControlNode = true ∧
      (ueventWatch.runFrom ueventWatch.init [.push namelessNode, .signal, .check, .take]).map
        (fun ran => (ueventHistory ran.1).taken) = some [([namelessNode], ⟨[], true, false, none⟩)]) ∧
    (ueventWatch.runFrom ueventWatch.init [.check, .push removedNode]).map
      (fun ran => (ran.2.watcher, ran.2.queue.ready, ran.2.notify)) = some (.parked, true, false) := by
  decide +kernel

end Wwan.Modem
