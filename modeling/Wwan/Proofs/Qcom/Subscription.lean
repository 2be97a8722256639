import Wwan.Qcom.Subscription

/-! A subscriber receives what was enqueued for it, in order, and only an ended context discards any of it. -/

namespace Wwan.Qcom

variable {α : Type}

/-- The indication that `run` has taken out of the queue and not handed on. -/
def RunStage.inHand : RunStage α → List α
  | .sending ind | .flushingOne ind => [ind]
  | .returned left => left.toList
  | .looping | .parked | .flushing => []

/-- `run` has found its context done. -/
def RunStage.left : RunStage α → Bool
  | .flushing | .flushingOne _ | .returned _ => true
  | .looping | .sending _ | .parked => false

/-- A step that the subscription and its subscriber take by themselves. -/
def SubscriptionEvent.inner : SubscriptionEvent α → Bool
  | .signal | .next | .send | .wake | .leave | .flush | .receive => true
  | .enqueue _ | .stop | .cancel | .subscriberEnd => false

namespace Subscription

/-- How much `run` has to do before it waits for someone else. -/
def stageWork : RunStage α → Nat
  | .sending _ => 5
  | .looping | .flushingOne _ => 3
  | .parked => 2
  | .flushing => 1
  | .returned _ => 0

/-- How much the subscription and its subscriber have to do before they wait for someone else. -/
def work (s : Subscription α) : Nat :=
  3 * s.enqueues + 2 * s.notify.toNat + 3 * s.queue.length + stageWork s.run + s.ch.buffer.length

/-- What a subscription owes its subscriber after the steps of a trace. -/
structure Delivers (trace : List (Subscription α × SubscriptionEvent α)) (s : Subscription α) : Prop where
  ordered : s.received <+: s.enqueued
  once : s.enqueued.Nodup → s.received.Nodup
  /-- Whatever is not received yet follows in the buffer, in the hand of `run` and in the queue. -/
  kept : s.enqueued = s.received ++ s.ch.buffer ++ s.run.inHand ++ s.queue
  /-- What `run` leaves behind was discarded because the subscriber's context had ended when it returned, or because
  `stop` had come and the channel was full at that step. -/
  discarded : ∀ left, s.run = .returned left → left.toList ++ s.queue ≠ [] →
    ∃ last e, (last, e) ∈ trace ∧ (∀ other, last.run ≠ .returned other) ∧ last.step e = some (last.returns left) ∧
      (last.subscriberDone = true ∨ last.cancelled = true ∧ left ≠ none ∧ 16 ≤ last.ch.buffer.length)
  /-- A parked `run` with something queued has a wake-up coming. -/
  woken : s.run = .parked → s.queue ≠ [] → s.notify = true ∨ 0 < s.enqueues
  /-- What the subscription and its subscriber do by themselves comes to an end. -/
  ends : ∀ e s', e.inner = true → s.step e = some s' → s'.work < s.work
  /-- At that end everything is received, unless the context ended. -/
  settled : (∀ e, e.inner = true → s.step e = none) → s.ctxDone = false → s.received = s.enqueued

/-- What holds between the steps. -/
structure Held (s : Subscription α) : Prop where
  kept : s.enqueued = s.received ++ s.ch.buffer ++ s.run.inHand ++ s.queue
  capacity : s.ch.capacity = 16
  /-- Only a `run` that has returned has closed the channel. -/
  closed : s.ch.closed = true → ∃ left, s.run = .returned left
  stopped : s.cancelled = true → s.stopped = true
  leaves : s.run.left = true → s.ctxDone = true
  woken : s.run = .parked → s.queue ≠ [] → s.notify = true ∨ 0 < s.enqueues

variable {s s' : Subscription α} {e : SubscriptionEvent α}

/-- A `run` that has not returned has not closed the channel. -/
theorem Held.isOpen (held : s.Held) (runs : ∀ left, s.run ≠ .returned left) : s.ch.closed = false := by
  by_contra closed
  obtain ⟨left, returned⟩ := held.closed (by simpa using closed)
  exact runs left returned

/-- A channel that is open and has no room is full. -/
theorem Held.full_of_send? (held : s.Held) {ind : α} (runs : ∀ left, s.run ≠ .returned left)
    (refused : s.ch.send? ind = none) : 16 ≤ s.ch.buffer.length := by
  simp only [Chan.send?, held.isOpen runs, Bool.false_eq_true, if_false, Chan.hasRoom, decide_eq_true_eq,
    held.capacity] at refused
  split at refused
  · cases refused
  · omega

/-! What each step does. -/

/-- `next` takes the oldest queued indication, or `run` parks or returns. -/
theorem step_next (accepted : s.step .next = some s') :
    (∃ ind rest, s.run = .looping ∧ s.queue = ind :: rest ∧ s' = { s with queue := rest, run := .sending ind }) ∨
    (s.run = .looping ∧ s.queue = [] ∧ s' = { s with run := .parked }) ∨
    (∃ ind rest, s.run = .flushing ∧ s.queue = ind :: rest ∧ s' = { s with queue := rest, run := .flushingOne ind }) ∨
    (s.run = .flushing ∧ s.queue = [] ∧ s' = s.returns none) := by
  simp only [step, Subscription.next] at accepted
  cases stage : s.run <;> cases queued : s.queue <;> simp_all [eq_comm]

/-- What the channel takes from `run` is at the end of its buffer. -/
theorem step_send (accepted : s.step .send = some s') :
    ∃ ind, s.run = .sending ind ∧ s.ch.hasRoom = true ∧ s' = { s with ch := s.ch.push ind, run := .looping } := by
  simp only [step] at accepted
  split at accepted
  · rename_i ind stage
    obtain ⟨ch, sent, rfl⟩ := Option.map_eq_some_iff.mp accepted
    obtain ⟨-, room, rfl⟩ := Chan.send?_eq_some.mp sent
    exact ⟨ind, stage, room, rfl⟩
  · cases accepted

/-- A parked `run` goes on with the token. -/
theorem step_wake (accepted : s.step .wake = some s') :
    s.run = .parked ∧ s.notify = true ∧ s' = { s with notify := false, run := .looping } := by
  simp only [step] at accepted
  split at accepted
  · rename_i stage
    simp only [Option.ite_none_right_eq_some, Option.some.injEq] at accepted
    exact ⟨stage, accepted.1, accepted.2.symm⟩
  · cases accepted

/-- An ended context makes `run` flush what it holds. -/
theorem step_leave (accepted : s.step .leave = some s') :
    s.ctxDone = true ∧ ((∃ ind, s.run = .sending ind ∧ s' = { s with run := .flushingOne ind }) ∨
      (s.run = .parked ∧ s' = { s with run := .flushing })) := by
  simp only [step] at accepted
  split at accepted
  · rename_i ind stage
    simp only [Option.ite_none_right_eq_some, Option.some.injEq] at accepted
    exact ⟨accepted.1, .inl ⟨ind, stage, accepted.2.symm⟩⟩
  · rename_i stage
    simp only [Option.ite_none_right_eq_some, Option.some.injEq] at accepted
    exact ⟨accepted.1, .inr ⟨stage, accepted.2.symm⟩⟩
  · cases accepted

/-- An indication that is flushed finds room, or is the last. -/
theorem step_flush (accepted : s.step .flush = some s') :
    ∃ ind, s.run = .flushingOne ind ∧
      (s.ch.hasRoom = true ∧ s' = { s with ch := s.ch.push ind, run := .flushing } ∨
        s.ch.send? ind = none ∧ s' = s.returns (some ind)) := by
  simp only [step] at accepted
  split at accepted
  · rename_i ind stage
    refine ⟨ind, stage, ?_⟩
    cases sent : s.ch.send? ind with
    | some ch =>
      obtain ⟨-, room, rfl⟩ := Chan.send?_eq_some.mp sent
      simp only [sent, Option.some.injEq] at accepted
      exact .inl ⟨room, accepted.symm⟩
    | none =>
      simp only [sent, Option.some.injEq] at accepted
      exact .inr ⟨rfl, accepted.symm⟩
  · cases accepted

/-- The subscriber receives the oldest value of the buffer. -/
theorem step_receive (accepted : s.step .receive = some s') :
    ∃ ind rest, s.ch.buffer = ind :: rest ∧ s' = { s with ch := s.ch.pop, received := s.received ++ [ind] } := by
  simp only [step] at accepted
  split at accepted
  · rename_i ind rest buffered
    cases accepted
    exact ⟨ind, rest, buffered, rfl⟩
  · cases accepted

/-! Nothing is lost between them. -/

/-- What `enqueue` appends comes last. -/
theorem Held.enqueue (held : s.Held) (ind : α) : (s.enqueue ind).Held := by
  unfold Subscription.enqueue
  split
  · exact held
  · rename_i running
    refine { held with kept := ?_, woken := ?_ }
    · simp [held.kept]
    · intro _ _
      exact .inr (Nat.succ_pos _)

/-- `next` moves the oldest queued indication into the hand of `run`. -/
theorem Held.next (held : s.Held) (accepted : s.step .next = some s') : s'.Held := by
  have kept := held.kept
  obtain ⟨ind, rest, stage, queued, rfl⟩ | ⟨stage, queued, rfl⟩ | ⟨ind, rest, stage, queued, rfl⟩ |
    ⟨stage, queued, rfl⟩ := step_next accepted
  · -- The loop takes the oldest one.
    have isOpen := held.isOpen (by simp [stage])
    exact { held with
      kept := by simpa [stage, queued, RunStage.inHand] using kept
      closed := by simp [isOpen]
      leaves := by simp [RunStage.left]
      woken := by simp }
  · -- The queue is empty, and the loop parks.
    have isOpen := held.isOpen (by simp [stage])
    exact { held with
      kept := by simpa [stage, queued, RunStage.inHand] using kept
      closed := by simp [isOpen]
      leaves := by simp [RunStage.left]
      -- The queue was seen empty under its lock.
      woken := by simp [queued] }
  · -- The flush takes the next one.
    have isOpen := held.isOpen (by simp [stage])
    have done := held.leaves (by simp [stage, RunStage.left])
    exact { held with
      kept := by simpa [stage, queued, RunStage.inHand] using kept
      closed := by simp [isOpen]
      leaves := fun _ => done
      woken := by simp }
  · -- The flush has come to its end, and `run` returns.
    have done := held.leaves (by simp [stage, RunStage.left])
    exact { held with
      kept := by simpa [returns, stage, queued, RunStage.inHand] using kept
      closed := by simp [returns]
      leaves := fun _ => done
      woken := by simp [returns] }

/-- What was in the hand of `run` is at the end of the buffer. -/
theorem Held.push (held : s.Held) {ind : α} {stage : RunStage α} (hand : s.run.inHand = [ind])
    (runs : ∀ left, s.run ≠ .returned left) (empty : stage.inHand = [])
    (leaves : stage.left = true → s.ctxDone = true) (goes : stage = .looping ∨ stage = .flushing) :
    { s with ch := s.ch.push ind, run := stage : Subscription α }.Held := by
  have kept := held.kept
  have isOpen := held.isOpen runs
  refine { held with
    kept := by simpa [hand, empty] using kept
    closed := by simp [isOpen]
    leaves := leaves
    woken := ?_ }
  obtain rfl | rfl := goes <;> simp

/-- Every step keeps what holds between the steps. -/
theorem Held.step (held : s.Held) (accepted : s.step e = some s') : s'.Held := by
  cases e with
  | enqueue ind =>
    cases accepted
    exact held.enqueue ind
  | signal =>
    -- The token is put where the loop will find it.
    simp only [Subscription.step] at accepted
    split at accepted
    · cases accepted
    · cases accepted
      exact { held with woken := fun _ _ => .inl rfl }
  | stop =>
    cases accepted
    exact { held with stopped := fun _ => rfl }
  | cancel =>
    -- The context of the subscription ends after the stop.
    simp only [Subscription.step, Option.ite_none_right_eq_some, Option.some.injEq] at accepted
    obtain ⟨stopped, rfl⟩ := accepted
    exact { held with stopped := fun _ => stopped, leaves := fun _ => rfl }
  | subscriberEnd =>
    cases accepted
    exact { held with leaves := fun _ => by simp [ctxDone] }
  | next => exact held.next accepted
  | send =>
    -- The channel takes what the loop had in hand.
    obtain ⟨ind, stage, -, rfl⟩ := step_send accepted
    exact held.push (by simp [stage, RunStage.inHand]) (by simp [stage]) rfl (by simp [RunStage.left]) (.inl rfl)
  | wake =>
    -- The token is used up, and the queue is looked at again.
    obtain ⟨stage, -, rfl⟩ := step_wake accepted
    have kept := held.kept
    have isOpen := held.isOpen (by simp [stage])
    exact { held with
      kept := by simpa [stage, RunStage.inHand] using kept
      closed := by simp [isOpen]
      leaves := by simp [RunStage.left]
      woken := by simp }
  | leave =>
    have kept := held.kept
    -- The loop leaves with what it had in hand.
    obtain ⟨done, ⟨ind, stage, rfl⟩ | ⟨stage, rfl⟩⟩ := step_leave accepted
    all_goals
      have isOpen := held.isOpen (by simp [stage])
      exact { held with
        kept := by simpa [stage, RunStage.inHand] using kept
        closed := by simp [isOpen]
        leaves := fun _ => done
        woken := by simp }
  | flush =>
    obtain ⟨ind, stage, ⟨-, rfl⟩ | ⟨refused, rfl⟩⟩ := step_flush accepted
    · have done := held.leaves (by simp [stage, RunStage.left])
      exact held.push (by simp [stage, RunStage.inHand]) (by simp [stage]) rfl (fun _ => done) (.inr rfl)
    · -- The first that finds no room stays behind, with all that are still queued.
      have kept := held.kept
      have done := held.leaves (by simp [stage, RunStage.left])
      exact { held with
        kept := by simpa [returns, stage, RunStage.inHand] using kept
        closed := by simp [returns]
        leaves := fun _ => done
        woken := by simp [returns] }
  | receive =>
    -- The subscriber takes what was buffered.
    obtain ⟨ind, rest, buffered, rfl⟩ := step_receive accepted
    have kept := held.kept
    exact { held with kept := by simpa [buffered] using kept }

/-- A step after which `run` has returned makes it return, at an empty queue or a full channel, or comes later. -/
theorem Held.returned (held : s.Held) (accepted : s.step e = some s') {left : Option α}
    (returned : s'.run = .returned left) :
    (s.run = .returned left ∧ (s.stopped = true → s'.stopped = true) ∧ (s'.queue = s.queue ∨ s.stopped = false)) ∨
      ((∀ other, s.run ≠ .returned other) ∧ s' = s.returns left ∧ s.ctxDone = true ∧ (left = none → s.queue = []) ∧
        (left ≠ none → 16 ≤ s.ch.buffer.length)) := by
  cases e with
  | enqueue ind =>
    cases accepted
    left
    unfold Subscription.enqueue at returned ⊢
    -- What comes after the return joins the queue, where nothing was stopped.
    split
    · rename_i stopped
      rw [if_pos stopped] at returned
      exact ⟨returned, id, .inl rfl⟩
    · rename_i running
      rw [if_neg running] at returned
      exact ⟨returned, id, .inr (by simpa using running)⟩
  | signal =>
    simp only [Subscription.step, Option.ite_none_left_eq_some, Option.some.injEq] at accepted
    obtain ⟨-, rfl⟩ := accepted
    exact .inl ⟨returned, id, .inl rfl⟩
  | stop =>
    cases accepted
    exact .inl ⟨returned, fun _ => rfl, .inl rfl⟩
  | cancel =>
    simp only [Subscription.step, Option.ite_none_right_eq_some, Option.some.injEq] at accepted
    obtain ⟨-, rfl⟩ := accepted
    exact .inl ⟨returned, id, .inl rfl⟩
  | subscriberEnd =>
    cases accepted
    exact .inl ⟨returned, id, .inl rfl⟩
  | next =>
    obtain ⟨ind, rest, stage, queued, rfl⟩ | ⟨stage, queued, rfl⟩ | ⟨ind, rest, stage, queued, rfl⟩ |
      ⟨stage, queued, rfl⟩ := step_next accepted
    · cases returned
    · cases returned
    · cases returned
    · -- The queue is empty, so nothing is left behind here.
      have done := held.leaves (by simp [stage, RunStage.left])
      simp only [returns, RunStage.returned.injEq] at returned
      subst returned
      exact .inr ⟨by simp [stage], rfl, done, fun _ => queued, by simp⟩
  | send =>
    -- No other step of the loop returns.
    obtain ⟨ind, stage, -, rfl⟩ := step_send accepted
    cases returned
  | wake =>
    obtain ⟨stage, -, rfl⟩ := step_wake accepted
    cases returned
  | leave =>
    obtain ⟨-, ⟨ind, stage, rfl⟩ | ⟨stage, rfl⟩⟩ := step_leave accepted
    all_goals cases returned
  | flush =>
    obtain ⟨ind, stage, ⟨-, rfl⟩ | ⟨refused, rfl⟩⟩ := step_flush accepted
    · cases returned
    · -- The channel is open and has no room.
      have done := held.leaves (by simp [stage, RunStage.left])
      have full := held.full_of_send? (by simp [stage]) refused
      simp only [returns, RunStage.returned.injEq] at returned
      subst returned
      exact .inr ⟨by simp [stage], rfl, done, by simp, fun _ => full⟩
  | receive =>
    obtain ⟨ind, rest, buffered, rfl⟩ := step_receive accepted
    exact .inl ⟨returned, id, .inl rfl⟩

/-- Where nothing more happens by itself and the context lives, everything is received. -/
theorem Held.settled (held : s.Held) (quiet : ∀ e : SubscriptionEvent α, e.inner = true → s.step e = none)
    (live : s.ctxDone = false) : s.received = s.enqueued := by
  have kept := held.kept
  -- The subscriber has taken all there is.
  have buffer : s.ch.buffer = [] := by
    have refused := quiet .receive rfl
    simp only [Subscription.step] at refused
    cases buffered : s.ch.buffer <;> simp_all
  -- All calls that were to signal have signalled.
  have signalled : s.enqueues = 0 := by
    have refused := quiet .signal rfl
    simp only [Subscription.step] at refused
    by_contra some
    simp [some] at refused
  have next := quiet .next rfl
  have send := quiet .send rfl
  have wake := quiet .wake rfl
  cases stage : s.run with
  | looping =>
    -- The loop could take its next step.
    simp only [Subscription.step, Subscription.next, stage] at next
    cases queued : s.queue <;> simp [queued] at next
  | sending ind =>
    -- The channel is empty, so the send could go on.
    have isOpen := held.isOpen (by simp [stage])
    simp [Subscription.step, stage, Chan.send?, isOpen, Chan.hasRoom, buffer, held.capacity] at send
  | parked =>
    -- A token would wake it.
    have idle : s.notify = false := by simpa [Subscription.step, stage] using wake
    have queue : s.queue = [] := by
      by_contra queued
      have := held.woken stage queued
      simp [idle, signalled] at this
    simpa [buffer, stage, queue, RunStage.inHand] using kept.symm
  | flushing | flushingOne _ | returned _ =>
    -- The flush would mean that the context has ended.
    have done := held.leaves (by simp [stage, RunStage.left])
    rw [live] at done
    cases done

/-- Two indications, of which the second arrives while `run` is parked. -/
def calmEvents : List (SubscriptionEvent Nat) :=
  [.enqueue 1, .signal, .next, .send, .next, .wake, .next, .enqueue 2, .signal, .receive, .wake, .next, .send, .receive,
    .next]

end Subscription

end Wwan.Qcom
