import Wwan.Proofs.Mbim.Watch

/-! Every published indication is handed to one caller, queued, or dropped as the oldest of a full queue. -/

namespace Wwan.Mbim

/-- A call that has not returned. -/
def CallStage.going : CallStage → Bool
  | .returned _ => false
  | _ => true

namespace Indications

/-- An indication that has been handed to a call. -/
inductive Handed (n : Indications) (key : IndicationKey) (ch : ChanID) (indication : Indication) : Prop where
  | returned : n.calls ch = some { key, stage := .returned (.ok indication) } → Handed n key ch indication
  /-- The publisher still holds the lock for the send. -/
  | underWay {waiter : IndicationWaiter} : n.calls ch = some { key, stage := .waiting } →
      waiter.ch = ch → toWaiter indication waiter ∈ n.deliveries → Handed n key ch indication
  /-- The indication is in the call's channel, whether the call waits or has been cancelled. -/
  | buffered {stage : CallStage} : n.calls ch = some { key, stage } →
      stage.going = true →
      (n.chans ch).buffer = [.value indication] → (∀ d ∈ n.deliveries, d.ch ≠ ch) →
      Handed n key ch indication

/-- A call that was handed an indication is known. -/
theorem Handed.called {n : Indications} {key : IndicationKey} {ch : ChanID} {indication : Indication}
    (handed : n.Handed key ch indication) : ∃ stage, n.calls ch = some { key, stage } := by
  cases handed with
  | returned called => exact ⟨_, called⟩
  | underWay called named sends => exact ⟨_, called⟩
  | buffered called going value idle => exact ⟨_, called⟩

/-- A call that was handed an indication has been made. -/
theorem Handed.lt {n : Indications} {key : IndicationKey} {ch : ChanID} {indication : Indication}
    (handed : n.Handed key ch indication) (sound : n.Sound) : ch < n.made := by
  obtain ⟨stage, called⟩ := handed.called
  by_contra beyond
  cases (sound.unmade ch (Nat.not_lt.mp beyond)).1.symm.trans called

/-- A call that was handed an indication no longer waits. -/
theorem Handed.not_waits {n : Indications} {key : IndicationKey} {ch : ChanID} {indication : Indication}
    (handed : n.Handed key ch indication) (sound : n.Sound) (other : IndicationKey) : ¬ n.Waits other ch := by
  cases handed with
  | returned called => exact sound.not_waits_of_call called (by simp)
  | underWay called named sends => exact named ▸ sound.unlisted _ sends other
  | buffered called going value idle => exact sound.not_waits_of_ne (chan_ne_make value) other

/-- A call that was handed an indication is not listed. -/
theorem Handed.not_listed {n : Indications} {key : IndicationKey} {ch : ChanID} {indication : Indication}
    (handed : n.Handed key ch indication) (sound : n.Sound) : ¬ n.Listed ch := by
  rintro ⟨other, subscribed | waits⟩
  · -- A subscribed channel belongs to a watch.
    obtain ⟨stage, called⟩ := handed.called
    obtain ⟨⟨watch, watching, -⟩, -⟩ := sound.watching other ch subscribed
    cases (sound.apart ch _ called).symm.trans watching
  · exact handed.not_waits sound other waits

/-- A delivery under the lock keeps the lock. -/
theorem locked_of_mem {n : Indications} {d : Delivery} (member : d ∈ n.deliveries) (holds : d.locked = true) :
    n.locked = true :=
  List.any_eq_true.mpr ⟨d, member, holds⟩

/-- New deliveries are to listed channels. -/
theorem Sound.deliveries_listed {n n' : Indications} {e : IndicationEvent} (moves : n.Step e n')
    {d : Delivery} (member : d ∈ n'.deliveries) :
    n.Listed d.ch ∨ ∃ old ∈ n.deliveries, old.ch = d.ch := by
  -- What is released is delivered to subscribers and calls from the lists.
  have release {gone : Option Lease → Bool} {toSub : ChanID → Delivery}
      {toWait : IndicationWaiter → Delivery} (sub : ToSub toSub) (wait : ToWait toWait)
      (added : d ∈ n.releaseList gone toSub toWait) : n.Listed d.ch := by
    rcases mem_releaseList.mp added with ⟨key, ch, owner, found, -, rfl⟩ | ⟨key, waiter, inside, -, rfl⟩
    · rw [sub.ch]
      exact ⟨key, .inl ⟨owner, found⟩⟩
    · rw [wait.ch]
      exact ⟨key, .inr (List.mem_map_of_mem inside)⟩
  -- New deliveries come from publishing and releasing only.
  cases moves with
  | @publishes indication waiters free someone taken =>
    rcases List.mem_append.mp member with before | added
    · exact .inr ⟨d, before, rfl⟩
    · rcases mem_publications.mp added with ⟨_, subscribed, rfl⟩ | ⟨waiter, rest, waiting, rfl⟩
      · exact .inl ⟨_, .inl subscribed⟩
      · exact .inl ⟨_, .inr (First.waits ⟨waiter, rest, waiting, rfl⟩)⟩
  | stops free =>
    rw [(n.stopReceiver_releases _).deliveries, List.mem_append] at member
    rcases member with before | added
    · exact .inr ⟨d, before, rfl⟩
    · exact .inl (release (stopSubscriber_toSub _) (stopWaiter_toWait _) added)
  | closesLease free =>
    rw [(n.closeLease_releases _).deliveries, List.mem_append] at member
    rcases member with before | added
    · exact .inr ⟨d, before, rfl⟩
    · exact .inl (release closeSubscriber_toSub closeWaiter_toWait added)
  | @performs d₀ chan phase inside advanced =>
    -- A delivery that goes on stays on its channel.
    rcases List.mem_append.mp member with left | next
    · exact .inr ⟨d, List.mem_of_mem_erase left, rfl⟩
    · obtain ⟨following, -, rfl⟩ := Option.map_eq_some_iff.mp (Option.mem_toList.mp next)
      exact .inr ⟨d₀, inside, rfl⟩
  | unsubscribes free watching leaving =>
    -- A subscriber that leaves is delivered nothing.
    simp only [setWatch_deliveries, unsubscribeIndication_frame] at member
    exact .inr ⟨d, member, rfl⟩
  | _ => exact .inr ⟨d, member, rfl⟩

/-- What a step does to one call and its channel. -/
theorem Sound.call_step {n n' : Indications} {e : IndicationEvent} (sound : n.Sound) (moves : n.Step e n')
    {ch : ChanID} {call : NextCall} (called : n.calls ch = some call) :
    (n'.calls ch = some call ∧ ((n'.chans ch) = n.chans ch ∨
      ∃ d ∈ n.deliveries, d.ch = ch ∧ e = .perform d)) ∨
    (call.stage.going = true ∧ ∃ result rest, (n.chans ch).buffer = result :: rest ∧
      n'.calls ch = some { call with stage := .returned (returnOf result) }) ∨
    (n.locked = false ∧ ¬ n.Waits call.key ch ∧ call.stage = .waiting ∧ ∃ cause,
      n'.calls ch = some { call with stage := .polling cause } ∧ n'.chans ch = n.chans ch) ∨
    (call.stage.going = true ∧ ∃ err, n'.calls ch = some { call with stage := .returned (.error err) } ∧
      (n.Waits call.key ch ∨ (n.chans ch).buffer = [] ∧
        ((∃ cause, call.stage = .polling cause) ∨ (n.chans ch).closed = true))) := by
  -- The call was made before, so it does not have the new channel.
  have old : ch ≠ n.made := by
    rintro rfl
    cases (sound.unmade n.made (Nat.le_refl _)).1.symm.trans called
  cases moves with
  -- Making a channel for someone else changes nothing here.
  | queued free queue => exact .inl ⟨by simpa [Function.update_of_ne old] using called, .inl rfl⟩
  | waits free empty =>
    exact .inl ⟨by simpa [Function.update_of_ne old] using called, .inl (by simp [Function.update_of_ne old])⟩
  | subscribes free filled => exact .inl ⟨called, .inl (by simp [Function.update_of_ne old])⟩
  | subscribesStopped free => exact .inl ⟨called, .inl (by simp [Function.update_of_ne old])⟩
  | @performs d chan phase member advanced =>
    -- A delivery changes the channel only if it is on it.
    by_cases same : ch = d.ch
    · exact .inl ⟨called, .inr ⟨d, member, same.symm, rfl⟩⟩
    · exact .inl ⟨called, .inl (by simp [Function.update_of_ne same])⟩
  -- From here on, each step is of one call, which is this one or another.
  | @takes ch' key result rest called' buffered =>
    -- The call returns what it takes.
    by_cases same : ch = ch'
    · subst same
      cases called.symm.trans called'
      exact .inr (.inl ⟨rfl, result, rest, buffered, by simp⟩)
    · exact .inl ⟨by simpa [Function.update_of_ne same] using called, .inl (by simp [Function.update_of_ne same])⟩
  | @takesClosed ch' key called' empty closed =>
    -- The call finds its channel closed.
    by_cases same : ch = ch'
    · subst same
      cases called.symm.trans called'
      exact .inr (.inr (.inr ⟨rfl, errReceiverStopped, by simp, .inr ⟨empty, .inr closed⟩⟩))
    · exact .inl ⟨by simpa [Function.update_of_ne same] using called, .inl rfl⟩
  | @cancelsListed ch' key cause free called' listed =>
    -- The call leaves the list.
    by_cases same : ch = ch'
    · subst same
      cases called.symm.trans called'
      exact .inr (.inr (.inr ⟨rfl, cause, by simp, .inl listed⟩))
    · exact .inl ⟨by simpa [Function.update_of_ne same] using called, .inl rfl⟩
  | @cancelsLate ch' key cause free called' unlisted =>
    -- The call has left the list before, and looks at its channel once more.
    by_cases same : ch = ch'
    · subst same
      cases called.symm.trans called'
      exact .inr (.inr (.inl ⟨free, unlisted, rfl, cause, by simp, rfl⟩))
    · exact .inl ⟨by simpa [Function.update_of_ne same] using called, .inl rfl⟩
  | @polls ch' key cause result rest called' buffered =>
    -- The call returns what it finds.
    by_cases same : ch = ch'
    · subst same
      cases called.symm.trans called'
      exact .inr (.inl ⟨rfl, result, rest, buffered, by simp⟩)
    · exact .inl ⟨by simpa [Function.update_of_ne same] using called, .inl (by simp [Function.update_of_ne same])⟩
  | @pollsEmpty ch' key cause called' empty =>
    -- The call finds nothing.
    by_cases same : ch = ch'
    · subst same
      cases called.symm.trans called'
      exact .inr (.inr (.inr ⟨rfl, cause, by simp, .inr ⟨empty, .inl ⟨cause, rfl⟩⟩⟩))
    · exact .inl ⟨by simpa [Function.update_of_ne same] using called, .inl rfl⟩
  | @forwards ch' watch result rest watching looping buffered =>
    -- A watch has another channel.
    have other : ch ≠ ch' := by
      rintro rfl
      cases (sound.apart ch call called).symm.trans watching
    exact .inl ⟨called, .inl (by simp [Function.update_of_ne other])⟩
  | @unsubscribes ch' watch free watching leaving =>
    unfold unsubscribeIndication
    cases n.subs.get watch.key <;> exact .inl ⟨called, .inl rfl⟩
  | _ => exact .inl ⟨called, .inl rfl⟩

/-- A call keeps what it was handed until it returns it. -/
theorem Handed.step {n n' : Indications} {e : IndicationEvent} {key : IndicationKey} {ch : ChanID}
    {indication : Indication} (handed : n.Handed key ch indication) (sound : n.Sound) (moves : n.Step e n') :
    n'.Handed key ch indication := by
  have unlisted := handed.not_listed sound
  cases handed with
  | returned called =>
    -- A call that has returned does nothing more.
    rcases sound.call_step moves called with ⟨same, -⟩ | ⟨going, -⟩ | ⟨-, -, going, -⟩ | ⟨going, -⟩
    · exact .returned same
    · cases going
    · cases going
    · cases going
  | @underWay waiter called named sends =>
    -- The indication is under way under the lock, to a channel that is still empty.
    have held := locked_of_mem sends rfl
    have fresh : n.chans ch = Chan.make 1 := named ▸ (sound.ready _ sends).unsent rfl
    rcases sound.call_step moves called with ⟨same, -⟩ | ⟨-, result, rest, value, -⟩ | ⟨free, -⟩ |
      ⟨-, err, -, waits | ⟨-, ⟨cause, polling⟩ | closed⟩⟩
    · -- Either the send is performed, or it is still to come.
      cases moves with
      | @performs d chan phase member advanced =>
        by_cases own : d = toWaiter indication waiter
        · subst own
          have advances := advances_of_eq (sound.ready _ member) advanced
          refine .buffered same rfl ?_ ?_
          · cases advances with
            | pushes open' room => simp [← named, show n.chans waiter.ch = Chan.make 1 from named ▸ fresh, toWaiter]
            | full offers => cases offers
            | drains drains => cases drains
            | closes closes => cases closes
          · intro x left
            cases advances with
            | pushes open' room =>
              rcases List.mem_append.mp left with other | next
              · exact named ▸ sound.erase_ne member other
              · simp [Delivery.afterwards, toWaiter] at next
            | full offers => cases offers
            | drains drains => cases drains
            | closes closes => cases closes
        · refine .underWay same named (List.mem_append_left _ ?_)
          exact (List.mem_erase_of_ne (Ne.symm own)).mpr sends
      | takes called' buffered => exact .underWay same named sends
      | takesClosed called' empty closed => exact .underWay same named sends
      | polls called' buffered => exact .underWay same named sends
      | pollsEmpty called' empty => exact .underWay same named sends
      | forwards watching looping buffered => exact .underWay same named sends
      | forwardsClosed watching looping empty closed => exact .underWay same named sends
      | moves kind watching moved => exact .underWay same named sends
      | queued free queue => simp [held] at free
      | waits free empty => simp [held] at free
      | subscribes free filled => simp [held] at free
      | subscribesStopped free => simp [held] at free
      | queues free nobody unsubscribed => simp [held] at free
      | publishes free someone taken => simp [held] at free
      | stops free => simp [held] at free
      | closesLease free => simp [held] at free
      | clears free => simp [held] at free
      | cancelsListed free called' listed => simp [held] at free
      | cancelsLate free called' gone => simp [held] at free
      | unsubscribes free watching leaving => simp [held] at free
    · -- The channel is empty, so nothing is taken from it.
      simp [fresh] at value
    · -- The lock is held, so no call is cancelled.
      simp [held] at free
    · -- The call is not listed any more.
      exact absurd ⟨_, .inr waits⟩ unlisted
    · cases polling
    · simp [fresh] at closed
  | @buffered stage called going value idle =>
    -- Nothing more is delivered to a channel that is not listed.
    have quiet : ∀ d ∈ n'.deliveries, d.ch ≠ ch := by
      intro d member same
      rcases Sound.deliveries_listed moves member with listed | ⟨old, inside, also⟩
      · exact unlisted (same ▸ listed)
      · exact idle old inside (also.trans same)
    rcases sound.call_step moves called with ⟨same, chan | ⟨d, member, own, -⟩⟩ |
      ⟨-, result, rest, taken, returned⟩ | ⟨-, -, -, cause, polling, chan⟩ |
      ⟨-, err, -, waits | ⟨empty, -⟩⟩
    · -- The indication stays in the channel.
      exact .buffered same going (chan ▸ value) quiet
    · exact absurd own (idle d member)
    · -- The call takes it.
      rw [value] at taken
      cases taken
      exact .returned returned
    · -- The call goes on with it in the channel.
      exact .buffered polling rfl (chan ▸ value) quiet
    · exact absurd ⟨_, .inr waits⟩ unlisted
    · simp [empty] at value

/-- The indications of a key that a step hands to a call, with the call, or drops. -/
def departs (key : IndicationKey) : Indications × IndicationEvent → List (Indication × Option ChanID)
  | (n, .publishIndication indication) =>
    if indication.key = key then
      match n.waiters.items key, n.indications.items key with
      | waiter :: _, _ => [(indication, some waiter.ch)]
      | [], oldest :: queued =>
        -- A full queue loses its oldest entry to the new one.
        if (oldest :: queued).length = maxQueuedIndications then [(oldest, none)] else []
      | [], [] => []
    else []
  | (n, .nextIndication key' _) =>
    if key' = key then
      match n.indications.items key with
      | oldest :: _ => [(oldest, some n.made)]
      | [] => []
    else []
  | _ => []

/-- Everything of a key that was handed to a call or dropped, in that order. -/
def departures (key : IndicationKey) (trace : List (Indications × IndicationEvent)) :
    List (Indication × Option ChanID) :=
  trace.flatMap (departs key)

/-- Nobody subscribes to the key, and the queues are not cleared. -/
def Undisturbed (key : IndicationKey) (e : IndicationEvent) : Prop :=
  e ≠ .clear ∧ (∀ owner, e ≠ .subscribeIndication key owner) ∧ ∀ err, e ≠ .subscribeStopped key err

/-- What has become of the indications of a key. -/
structure Accounts (key : IndicationKey) (trace : List (Indications × IndicationEvent)) (n : Indications) :
    Prop where
  unsubscribed : ∀ ch, ¬ n.Subscribed key ch
  /-- Calls only wait while the queue is empty. -/
  exclusive : n.waiters.items key = [] ∨ n.indications.items key = []
  conserved : published key trace = (departures key trace).map Prod.fst ++ n.indications.items key
  handed : ∀ indication ch, (indication, some ch) ∈ departures key trace → n.Handed key ch indication
  once : ((departures key trace).filterMap Prod.snd).Nodup
  streamed : ∀ ch stage indication, n.calls ch = some { key, stage } → .value indication ∈ n.stream ch →
    (indication, some ch) ∈ departures key trace
  returned : ∀ ch indication, n.calls ch = some { key, stage := .returned (.ok indication) } →
    (indication, some ch) ∈ departures key trace

/-- A queue never grows beyond its bound. -/
theorem queueIndicationLocked_length (queue : List Indication) (indication : Indication) :
    (queueIndicationLocked queue indication).length ≤ maxQueuedIndications := by
  simp only [queueIndicationLocked]
  split
  · rw [List.length_drop]
    omega
  · omega

/-- Every queue keeps within its bound. -/
def Bounded (n : Indications) : Prop := ∀ key, (n.indications.items key).length ≤ maxQueuedIndications

/-- Every step keeps the queues within their bound. -/
theorem Bounded.step {n n' : Indications} {e : IndicationEvent} (bounded : n.Bounded) (moves : n.Step e n') :
    n'.Bounded := by
  intro key
  have before := bounded key
  cases moves with
  -- Taking from a queue shortens it.
  | @queued key' owner indication rest free queue =>
    simp only [GoMap.items_store]
    split
    · rename_i same
      rw [same, queue, List.length_cons] at before
      omega
    · exact before
  | subscribes free filled =>
    -- A subscriber empties the queue of its key.
    simp only [GoMap.items_delete]
    split
    · exact Nat.zero_le _
    · exact before
  | subscribesStopped free =>
    simp only [GoMap.items_delete]
    split
    · exact Nat.zero_le _
    · exact before
  -- What is queued beyond the limit drives the oldest out.
  | queues free nobody unsubscribed =>
    simp only [GoMap.items_set]
    split
    · exact queueIndicationLocked_length _ _
    · exact before
  | clears free => exact Nat.zero_le _
  | unsubscribes free watching leaving =>
    -- A subscriber that leaves touches no queue.
    simpa using before
  | _ => exact before

/-- The queues are within their bound in every run. -/
theorem bounded_of_runs {trace : List (Indications × IndicationEvent)} {n : Indications}
    (run : Mbim.indications.Runs trace n) : n.Bounded :=
  run.stateInvariant (P := Bounded) (by simp [Bounded, Mbim.indications]) fun _ _ _ bounded accepted =>
    bounded.step (step_of_eq accepted)

/-- What can be received on a channel was sent on it. -/
def Buffered (n : Indications) : Prop := ∀ ch, ∀ result ∈ (n.chans ch).buffer, result ∈ (n.chans ch).sent

/-- Every step keeps channels to what was sent on them. -/
theorem Buffered.step {n n' : Indications} {e : IndicationEvent} (buffered : n.Buffered) (sound : n.Sound)
    (moves : n.Step e n') : n'.Buffered := by
  intro ch
  have before := buffered ch
  -- Receiving only makes the buffer shorter.
  have popped (received : ChanID) (result : WatchResult)
      (inside : result ∈ (Function.update n.chans received (n.chans received).pop ch).buffer) :
      result ∈ (Function.update n.chans received (n.chans received).pop ch).sent := by
    by_cases same : ch = received
    · subst same
      rw [Function.update_self] at inside ⊢
      exact before result (List.mem_of_mem_tail inside)
    · rw [Function.update_of_ne same] at inside ⊢
      exact before result inside
  -- A channel changes when it is made, when something is put into it, and when something is taken.
  cases moves with
  | waits free empty =>
    by_cases new : ch = n.made
    · subst new
      simp
    · simpa [Function.update_of_ne new] using before
  | subscribes free filled =>
    obtain ⟨shape, -⟩ := Chan.eq_of_sendAll? filled (Nat.zero_le _)
    by_cases new : ch = n.made
    · subst new
      simp [shape]
    · simpa [Function.update_of_ne new] using before
  | subscribesStopped free =>
    by_cases new : ch = n.made
    · subst new
      simp
    · simpa [Function.update_of_ne new] using before
  | @performs d chan phase member advanced =>
    by_cases same : ch = d.ch
    · subst same
      simp only [setChan_chans, Function.update_self]
      -- What is put into it counts as sent.
      cases advances_of_eq (sound.ready _ member) advanced with
      | pushes sends room =>
        intro result inside
        rcases List.mem_append.mp inside with old | new
        · exact List.mem_append_left _ (before result old)
        · exact List.mem_append_right _ new
      | full offers => exact before
      | drains drains => exact fun result inside => before result (List.mem_of_mem_tail inside)
      | closes closes => exact before
    · simpa [Function.update_of_ne same] using before
  -- What is taken was sent.
  | takes called value => exact popped _
  | polls called value => exact popped _
  | forwards watching looping value => exact popped _
  | unsubscribes free watching leaving =>
    simpa using before
  | _ => exact before

/-- Channels hold what was sent on them in every run. -/
theorem buffered_of_runs {trace : List (Indications × IndicationEvent)} {n : Indications}
    (run : Mbim.indications.Runs trace n) : n.Buffered := by
  have both := run.stateInvariant (P := fun n => n.Sound ∧ n.Buffered)
    ⟨sound_init, by simp [Buffered, Mbim.indications]⟩ fun _ _ _ both accepted =>
      ⟨both.1.step (step_of_eq accepted), both.2.step both.1 (step_of_eq accepted)⟩
  exact both.2

/-- A key without subscribers has no entries for them. -/
theorem len_subsOf {n : Indications} {key : IndicationKey} (unsubscribed : ∀ ch, ¬ n.Subscribed key ch) :
    (n.subsOf key).len = 0 := by
  apply List.length_eq_zero_iff.mpr
  apply List.eq_nil_iff_forall_not_mem.mpr
  intro ch member
  exact unsubscribed ch (((n.subsOf key).mem_keys_iff ch).mp member)

/-- A queue with one more indication loses its oldest exactly when it was full. -/
theorem queueIndicationLocked_eq {queue : List Indication} (bounded : queue.length ≤ maxQueuedIndications)
    (indication : Indication) :
    queueIndicationLocked queue indication =
      if queue.length = maxQueuedIndications then queue.tail ++ [indication] else queue ++ [indication] := by
  simp only [queueIndicationLocked, List.length_append, List.length_singleton]
  by_cases full : queue.length = maxQueuedIndications
  · -- One entry is too many, so one is dropped.
    rw [if_pos (by omega), if_pos full, full, Nat.add_sub_cancel_left, List.drop_one, List.tail_append_of_ne_nil]
    intro empty
    rw [empty] at full
    cases full
  · rw [if_neg (by omega), if_neg full]

/-- An event of one watch hands out nothing and publishes nothing. -/
theorem quiet_of_watch {n : Indications} {e : IndicationEvent} (kind : e.ofWatch = true) (key : IndicationKey) :
    departs key (n, e) = [] ∧ published key [(n, e)] = [] := by
  cases e <;> first | exact ⟨rfl, rfl⟩ | cases kind

/-- What is queued and what is published is handed out, dropped, or still queued, in that order. -/
theorem balance_step {n n' : Indications} {e : IndicationEvent} {key : IndicationKey} (moves : n.Step e n')
    (undisturbed : Undisturbed key e) (bounded : n.Bounded) (unsubscribed : ∀ ch, ¬ n.Subscribed key ch)
    (exclusive : n.waiters.items key = [] ∨ n.indications.items key = []) :
    n.indications.items key ++ published key [(n, e)] =
      (departs key (n, e)).map Prod.fst ++ n'.indications.items key := by
  cases moves with
  -- The oldest indication leaves the queue for the new call.
  | @queued key' owner indication rest free queue =>
    by_cases same : key' = key
    · subst same
      simp [departs, published, queue]
    · simp [departs, published, same, Ne.symm same]
  -- The call waits only where nothing is queued.
  | @waits key' owner free empty =>
    by_cases same : key' = key
    · subst same
      simp [departs, published, empty]
    · simp [departs, published, same]
  -- Subscribing to another key leaves this queue.
  | @subscribes key' owner chan free filled =>
    have other : key ≠ key' := fun same => undisturbed.2.1 owner (by rw [same])
    simp [departs, published, GoMap.items_delete, other]
  | @subscribesStopped key' err free =>
    have other : key ≠ key' := fun same => undisturbed.2.2 err (by rw [same])
    simp [departs, published, GoMap.items_delete, other]
  -- Without room the oldest indication leaves the queue for nobody.
  | @queues indication free nobody none =>
    by_cases same : indication.key = key
    · subst same
      simp only [GoMap.items_set, if_true, published_publish, queueIndicationLocked_eq (bounded _), departs, nobody]
      -- A queue without the oldest one is at its limit only if it was full.
      cases queue : n.indications.items indication.key with
      | nil => simp [maxQueuedIndications]
      | cons oldest queued =>
        by_cases full : queued.length + 1 = maxQueuedIndications <;> simp [full]
    · simp [departs, published, same, GoMap.items_set, Ne.symm same]
  | @publishes indication waiters free someone taken =>
    by_cases same : indication.key = key
    · subst same
      -- Nobody is subscribed, so a call waits, and then the queue is empty.
      have waiting := someone.resolve_right (fun more => more (len_subsOf unsubscribed))
      have empty := exclusive.resolve_left waiting
      obtain ⟨waiter, rest, first⟩ := List.exists_cons_of_ne_nil waiting
      simp [departs, published, empty, first]
    · simp [departs, published, same]
  -- The queues are not cleared.
  | clears free => exact absurd rfl undisturbed.1
  | stops free => simp [departs, published, stopReceiver]
  | closesLease free => simp [departs, published, closeLease]
  -- A subscriber that leaves touches no queue.
  | unsubscribes free watching leaving =>
    simp [departs, published]
  | moves kind watching moved =>
    obtain ⟨nothing, silent⟩ := quiet_of_watch (n := n) kind key
    simp [nothing, silent]
  | _ => simp [departs, published]

/-- Whom a step hands an indication is a new call, or the first that waits. -/
theorem mem_departs {n n' : Indications} {e : IndicationEvent} {key : IndicationKey} (moves : n.Step e n')
    {indication : Indication} {ch : ChanID} (gone : (indication, some ch) ∈ departs key (n, e)) :
    (ch = n.made ∧ n'.calls ch = some { key, stage := .returned (.ok indication) }) ∨
    (e = .publishIndication indication ∧ indication.key = key ∧ n.First key ch) := by
  -- An indication leaves for a call when the call is made, or when it is published.
  cases moves with
  | @queued key' owner oldest rest free queue =>
    by_cases same : key' = key
    · subst same
      simp only [departs, if_true, queue, List.mem_singleton, Prod.mk.injEq, Option.some.injEq] at gone
      obtain ⟨rfl, rfl⟩ := gone
      exact .inl ⟨rfl, by simp⟩
    · simp [departs, same] at gone
  -- A call that waits gets nothing yet.
  | @waits key' owner free empty =>
    by_cases same : key' = key
    · subst same
      simp [departs, empty] at gone
    · simp [departs, same] at gone
  | @queues published free nobody none =>
    by_cases same : published.key = key
    · subst same
      simp only [departs, if_true, nobody] at gone
      cases queue : n.indications.items published.key with
      | nil => simp [queue] at gone
      | cons oldest queued =>
        -- What a full queue loses goes to nobody.
        simp only [queue] at gone
        split at gone <;> simp at gone
    · simp [departs, same] at gone
  | @publishes published waiters free someone taken =>
    by_cases same : published.key = key
    · subst same
      simp only [departs, if_true] at gone
      -- Only a call that waits is handed the indication.
      cases waiting : n.waiters.items published.key with
      | nil =>
        cases queue : n.indications.items published.key with
        | nil => simp [waiting, queue] at gone
        | cons oldest queued =>
          simp only [waiting, queue] at gone
          split at gone <;> simp at gone
      | cons waiter rest =>
        simp only [waiting, List.mem_singleton, Prod.mk.injEq, Option.some.injEq] at gone
        obtain ⟨rfl, rfl⟩ := gone
        exact .inr ⟨rfl, rfl, waiter, rest, waiting, rfl⟩
    · simp [departs, same] at gone
  | moves kind watching moved =>
    rw [(quiet_of_watch kind key).1] at gone
    cases gone
  | _ => simp [departs] at gone

/-- The calls after a step are those before it, with their keys, and at most one new one. -/
theorem calls_step {n n' : Indications} {e : IndicationEvent} (moves : n.Step e n') {ch : ChanID}
    {call : NextCall} (called : n'.calls ch = some call) :
    (∃ before, n.calls ch = some before ∧ before.key = call.key) ∨
      (ch = n.made ∧ ∃ owner, e = .nextIndication call.key owner) := by
  -- A call that is changed by itself keeps its key.
  have changed {other : ChanID} {old new : NextCall} (found : n.calls other = some old)
      (after : Function.update n.calls other (some new) ch = some call) (named : new.key = old.key) :
      ∃ before, n.calls ch = some before ∧ before.key = call.key := by
    by_cases same : ch = other
    · subst same
      rw [Function.update_self] at after
      cases after
      exact ⟨old, found, named.symm⟩
    · rw [Function.update_of_ne same] at after
      exact ⟨call, after, rfl⟩
  -- A new call is the one that was asked for.
  have added {new : NextCall} (after : Function.update n.calls n.made (some new) ch = some call)
      {owner : Option Lease} (asked : e = .nextIndication new.key owner) :
      (∃ before, n.calls ch = some before ∧ before.key = call.key) ∨
        (ch = n.made ∧ ∃ owner, e = .nextIndication call.key owner) := by
    by_cases new : ch = n.made
    · subst new
      rw [Function.update_self] at after
      cases after
      exact .inr ⟨rfl, owner, asked⟩
    · rw [Function.update_of_ne new] at after
      exact .inl ⟨call, after, rfl⟩
  -- Every other step leaves the calls as they are.
  cases moves with
  | queued free queue => exact added called rfl
  | waits free empty => exact added called rfl
  | takes found value => exact .inl (changed found called rfl)
  | takesClosed found empty closed => exact .inl (changed found called rfl)
  | cancelsListed free found listed => exact .inl (changed found called rfl)
  | cancelsLate free found gone => exact .inl (changed found called rfl)
  | polls found value => exact .inl (changed found called rfl)
  | pollsEmpty found empty => exact .inl (changed found called rfl)
  | unsubscribes free watching leaving =>
    simp only [setWatch_calls, unsubscribeIndication_frame] at called
    exact .inl ⟨call, called, rfl⟩
  | _ => exact .inl ⟨call, called, rfl⟩

/-- A step keeps calls from waiting beside a filled queue. -/
theorem exclusive_step {n n' : Indications} {e : IndicationEvent} {key : IndicationKey} (moves : n.Step e n')
    (exclusive : n.waiters.items key = [] ∨ n.indications.items key = []) :
    n'.waiters.items key = [] ∨ n'.indications.items key = [] := by
  -- A step fills the queue only where nobody waits, and lists a call only where nothing is queued.
  cases moves with
  | @queued key' owner indication rest free queue =>
    by_cases same : key = key'
    · -- The queue was filled, so nobody waits.
      subst same
      refine .inl (exclusive.resolve_right ?_)
      simp [queue]
    · simpa [same] using exclusive
  -- The queue is empty when the call starts to wait.
  | @waits key' owner free empty =>
    by_cases same : key = key'
    · subst same
      exact .inr empty
    · simpa [GoMap.items_set, same] using exclusive
  -- Whoever subscribes takes the whole queue.
  | @subscribes key' owner chan free filled =>
    by_cases same : key = key'
    · exact .inr (by simp [GoMap.items_delete, same])
    · simpa [GoMap.items_delete, same] using exclusive
  | @subscribesStopped key' err free =>
    by_cases same : key = key'
    · exact .inr (by simp [GoMap.items_delete, same])
    · simpa [GoMap.items_delete, same] using exclusive
  -- The indication is queued because nobody waits.
  | @queues indication free nobody none =>
    by_cases same : key = indication.key
    · subst same
      exact .inl nobody
    · simpa [GoMap.items_set, same] using exclusive
  -- Publishing to a call shortens its list.
  | @publishes indication waiters free someone taken =>
    refine exclusive.imp_left fun nobody => ?_
    simp [taken, nobody]
  | stops free => exact .inl (GoMap.items_empty key)
  -- The lists lose the calls of the lease.
  | closesLease free =>
    refine exclusive.imp (fun nobody => ?_) fun empty => empty
    rw [(n.closeLease_releases _).waiters, nobody]
    rfl
  | clears free => exact .inr (GoMap.items_empty key)
  -- They lose the call that is cancelled.
  | @cancelsListed ch key' cause free called listed =>
    refine exclusive.imp_left fun nobody => ?_
    by_cases same : key = key'
    · subst same
      simp [nobody]
    · simpa [same] using nobody
  | @unsubscribes ch' watch free watching leaving =>
    unfold unsubscribeIndication
    cases n.subs.get watch.key <;> exact exclusive
  | _ => exact exclusive

/-- Nobody has been handed anything by a new client. -/
theorem accounts_init (key : IndicationKey) : Accounts key [] {} where
  unsubscribed := by simp [Subscribed, subsOf]
  exclusive := by simp
  conserved := by simp [published, departures]
  handed := by simp [departures]
  once := by simp [departures]
  streamed := by simp
  returned := by simp

/-- Every step keeps the accounts. -/
theorem Accounts.step {key : IndicationKey} {trace : List (Indications × IndicationEvent)} {n n' : Indications}
    {e : IndicationEvent} (accounts : Accounts key trace n) (undisturbed : Undisturbed key e)
    (sound : n.Sound) (bounded : n.Bounded) (buffered : n.Buffered) (moves : n.Step e n') :
    Accounts key (trace ++ [(n, e)]) n' := by
  have gone : departures key (trace ++ [(n, e)]) = departures key trace ++ departs key (n, e) := by
    simp [departures]
  -- What a call is given besides, it is handed by this step.
  have streamed (ch : ChanID) (stage : CallStage) (indication : Indication)
      (called : n.calls ch = some { key, stage }) (inside : .value indication ∈ n'.stream ch) :
      (indication, some ch) ∈ departures key trace ++ departs key (n, e) := by
    -- The call was made before, so that its stream is one that the step may extend.
    have old : ch < n.made := by
      by_contra beyond
      cases (sound.unmade ch (Nat.not_lt.mp beyond)).1.symm.trans called
    rcases sound.stream_step moves old with same | ⟨i, rfl, listed, grown⟩ | ⟨err, ends⟩
    · exact List.mem_append_left _ (accounts.streamed ch stage indication called (same ▸ inside))
    · rw [grown, List.mem_append, List.mem_singleton] at inside
      rcases inside with before | now
      · exact List.mem_append_left _ (accounts.streamed ch stage indication called before)
      · -- The indication is new, and the step hands it to this call, which has no watch.
        cases now
        apply List.mem_append_right
        rcases listed with subscribed | first
        · obtain ⟨⟨watch, watching, -⟩, -⟩ := sound.watching _ ch subscribed
          cases (sound.apart ch _ called).symm.trans watching
        · cases (sound.waiting _ ch first.waits).1.symm.trans called
          obtain ⟨waiter, rest, waiting, rfl⟩ := first
          simp [departs, waiting]
    · -- A stream that ends gains no indication.
      rw [(sound.stream_ends moves ends).1, List.mem_append] at inside
      rcases inside with before | now
      · exact List.mem_append_left _ (accounts.streamed ch stage indication called before)
      · simp at now
  refine { unsubscribed := ?_, exclusive := exclusive_step moves accounts.exclusive, conserved := ?_,
           handed := ?_, once := ?_, streamed := ?_, returned := ?_ }
  · -- Nobody subscribes to the key.
    rintro ch ⟨owner, found⟩
    rcases subs_step moves found with before | ⟨rfl, -⟩
    · exact accounts.unsubscribed ch ⟨owner, before⟩
    · exact undisturbed.2.1 owner rfl
  · -- What is published is queued, or leaves the queue.
    rw [published_append, gone, accounts.conserved, List.append_assoc,
      balance_step moves undisturbed bounded accounts.unsubscribed accounts.exclusive, List.map_append,
      List.append_assoc]
  · -- What was handed over stays so, and what leaves now is on its way.
    intro indication ch member
    rw [gone, List.mem_append] at member
    rcases member with before | now
    · exact (accounts.handed indication ch before).step sound moves
    · rcases mem_departs moves now with ⟨-, called⟩ | ⟨rfl, rfl, first⟩
      · exact .returned called
      · -- The publisher has taken the call from the list and is about to send.
        have waiting := sound.waiting _ ch first.waits
        obtain ⟨waiter, rest, listed, rfl⟩ := first
        cases moves with
        | queues free nobody none => simp [nobody] at listed
        | publishes free someone taken =>
          refine .underWay waiting.1 rfl (List.mem_append_right _ ?_)
          exact mem_publications.mpr (.inr ⟨waiter, rest, listed, rfl⟩)
        | moves kind => cases kind
  · rw [gone, List.filterMap_append, List.nodup_append]
    refine ⟨accounts.once, ?_, ?_⟩
    · -- A step hands out one indication at most.
      have one : ((departs key (n, e)).filterMap Prod.snd).length ≤ 1 := by
        apply Nat.le_trans (List.length_filterMap_le _ _)
        unfold departs
        repeat' split
        all_goals simp
      generalize (departs key (n, e)).filterMap Prod.snd = chans at one
      cases chans with
      | nil => exact List.nodup_nil
      | cons ch rest =>
        rw [List.length_eq_zero_iff.mp (Nat.le_zero.mp (Nat.le_of_succ_le_succ one))]
        exact List.nodup_singleton ch
    · -- A call that was handed an indication is neither new nor listed.
      intro ch earlier other later same
      subst same
      obtain ⟨⟨i, _⟩, before, rfl⟩ := List.mem_filterMap.mp earlier
      obtain ⟨⟨j, _⟩, now, rfl⟩ := List.mem_filterMap.mp later
      have handed := accounts.handed i ch before
      rcases mem_departs moves now with ⟨rfl, -⟩ | ⟨-, -, first⟩
      · exact Nat.lt_irrefl _ (handed.lt sound)
      · exact handed.not_waits sound key first.waits
  · -- What a call is given was handed to it.
    intro ch stage indication called inside
    rw [gone]
    rcases calls_step moves called with ⟨⟨key', stage'⟩, before, rfl⟩ | ⟨rfl, owner, rfl⟩
    · exact streamed ch stage' indication before inside
    · -- Nothing has been sent to a new call.
      rcases sound.made_step moves with same | ⟨-, starts⟩
      · rw [(sound.step moves).stream_unmade (Nat.le_of_eq same)] at inside
        cases inside
      · generalize n'.stream n.made = results at starts inside
        cases starts
        cases inside
  · -- What a call returns it had taken from its channel, or from the queue when it was made.
    intro ch indication called
    rw [gone]
    rcases calls_step moves called with ⟨⟨key', stage'⟩, before, rfl⟩ | ⟨rfl, owner, rfl⟩
    · rcases sound.call_step moves before with ⟨same, -⟩ | ⟨-, result, rest, value, returned⟩ |
        ⟨-, -, -, cause, polling, -⟩ | ⟨-, err, failed, -⟩
      · cases called.symm.trans same
        exact List.mem_append_left _ (accounts.returned ch indication before)
      · cases result with
        | value given =>
          cases called.symm.trans returned
          apply List.mem_append_left
          refine accounts.streamed ch stage' indication before (List.mem_append_left _ ?_)
          exact buffered ch _ (by simp [value])
        | failed err => cases called.symm.trans returned
      · cases called.symm.trans polling
      · cases called.symm.trans failed
    · -- The call is new, and returns at once what it takes from the queue.
      apply List.mem_append_right
      cases moves with
      | queued free queue =>
        simp only [setCall_calls, Function.update_self] at called
        cases called
        simp [departs, queue]
      | waits free empty => simp at called
      | moves kind => cases kind

/-- The accounts are kept in every undisturbed run. -/
theorem accounts_of_runs {trace : List (Indications × IndicationEvent)} {n : Indications}
    (run : Mbim.indications.Runs trace n) {key : IndicationKey}
    (undisturbed : ∀ step ∈ trace, Undisturbed key step.2) : Accounts key trace n := by
  -- The part of the run before a step is undisturbed as well.
  refine run.invariant (P := fun trace n => (∀ step ∈ trace, Undisturbed key step.2) → Accounts key trace n)
    ?_ ?_ undisturbed
  · intro _
    exact accounts_init key
  · intro trace n e n' earlier ih accepted undisturbed
    have before := ih fun step member => undisturbed step (List.mem_append_left _ member)
    exact before.step (undisturbed (n, e) (by simp)) (sound_of_runs earlier) (bounded_of_runs earlier)
      (buffered_of_runs earlier) (step_of_eq accepted)

/-- A cancelled call that was handed an indication finds it in its channel. -/
theorem Handed.poll {n : Indications} {key : IndicationKey} {ch : ChanID} {indication : Indication}
    (handed : n.Handed key ch indication) {cause : Error}
    (cancelled : n.calls ch = some { key, stage := .polling cause }) :
    ∃ n', n.step (.poll ch) = some n' ∧
      n'.calls ch = some { key, stage := .returned (.ok indication) } ∧ n'.indications = n.indications := by
  cases handed with
  | returned called => cases called.symm.trans cancelled
  | underWay called named sends => cases called.symm.trans cancelled
  | buffered called going value idle =>
    refine ⟨n.pollResult ch { key, stage := .polling cause } cause, by simp [Indications.step, cancelled], ?_, ?_⟩
    · simp [pollResult, value, returnOf]
    · simp only [pollResult, value, setChan_indications, setCall_indications]

/-- A queue within its bound fits into the channel of a new subscription. -/
theorem Bounded.subscribeIndication_isSome {n : Indications} (bounded : n.Bounded) (key : IndicationKey)
    (owner : Option Lease) : (n.subscribeIndication key owner).isSome := by
  rw [subscribeIndication, Chan.sendAll?_eq_some rfl (by simpa using bounded key)]
  rfl

end Indications

namespace Dispatcher

/-- Nobody subscribes to the key, and the queues are not cleared. -/
def Undisturbed (key : IndicationKey) (trace : List (Dispatcher × DispatcherEvent)) : Prop :=
  ∀ step ∈ trace, step.2 ≠ .indication .clear ∧ ∀ client, step.2 ≠ .subscribeIndication client key

/-- An undisturbed run leaves the indications undisturbed. -/
theorem Undisturbed.indications {key : IndicationKey} {trace : List (Dispatcher × DispatcherEvent)}
    (undisturbed : Undisturbed key trace) : ∀ step ∈ indicationTrace trace, Indications.Undisturbed key step.2 := by
  intro ⟨n, ie⟩ member
  obtain ⟨⟨s, e⟩, inside, seen⟩ := List.mem_filterMap.mp member
  obtain ⟨ie', seen, same⟩ := Option.map_eq_some_iff.mp seen
  cases same
  obtain ⟨kept, unsubscribed⟩ := undisturbed _ inside
  -- The dispatcher drives the lists by the calls of its clients, by its receiver and by its own steps.
  rcases indicationOf_cases seen with ⟨client, key', rfl, called⟩ | ⟨client, key', rfl, made⟩ | ⟨_, rfl, rfl⟩ |
    ⟨_, rfl, rfl, _⟩ | ⟨rfl, free⟩
  · rw [(nextIndication_ok called).2.1]
    exact ⟨nofun, nofun, nofun⟩
  · -- A subscription is to another key.
    have other : key' ≠ key := fun same => unsubscribed client (by rw [same])
    obtain ⟨-, ⟨-, rfl⟩ | ⟨_, -, rfl⟩⟩ := subscribeIndication_ok made
    · exact ⟨nofun, fun _ same => other (by cases same; rfl), nofun⟩
    · exact ⟨nofun, nofun, fun _ same => other (by cases same; rfl)⟩
  · exact ⟨nofun, nofun, nofun⟩
  · exact ⟨nofun, nofun, nofun⟩
  · -- What is left neither clears the queues nor subscribes.
    refine ⟨fun same => kept ?_, fun _ same => ?_, fun _ same => ?_⟩
    · exact congrArg DispatcherEvent.indication same
    · cases same
      cases free
    · cases same
      cases free

/-- While nobody subscribes to a key, its indications go to one call each, or are dropped as the oldest of a
full queue, or wait in the queue, in the order of publication; a call that is cancelled too late returns
what it was handed, and nothing sent under the lock blocks. -/
theorem indications_accounted {trace : List (Dispatcher × DispatcherEvent)} {s : Dispatcher}
    (run : dispatcher.Runs trace s) {key : IndicationKey} (undisturbed : Undisturbed key trace) :
    published key trace = (Indications.departures key (indicationTrace trace)).map Prod.fst ++
      s.indications.indications.items key ∧
    (s.indications.indications.items key).length ≤ maxQueuedIndications ∧
    (∀ indication ch, (indication, some ch) ∈ Indications.departures key (indicationTrace trace) →
      s.indications.Handed key ch indication) ∧
    ((Indications.departures key (indicationTrace trace)).filterMap Prod.snd).Nodup ∧
    (∀ ch indication, s.indications.calls ch = some { key, stage := .returned (.ok indication) } →
      (indication, some ch) ∈ Indications.departures key (indicationTrace trace)) ∧
    (∀ indication ch cause, (indication, some ch) ∈ Indications.departures key (indicationTrace trace) →
      s.indications.calls ch = some { key, stage := .polling cause } →
      ∃ s', s.step (.indication (.poll ch)) = some s' ∧
        s'.indications.calls ch = some { key, stage := .returned (.ok indication) } ∧
        s'.indications.indications = s.indications.indications) ∧
    (∀ d ∈ s.indications.deliveries, (s.step (.indication (.perform d))).isSome) ∧
    (∀ other owner, (s.indications.subscribeIndication other owner).isSome) ∧
    ∀ other err, (s.indications.subscribeStopped other err).isSome := by
  -- The dispatcher's run is one of the lists, along which the books balance.
  have projected := runs_indications run
  have accounts := Indications.accounts_of_runs projected undisturbed.indications
  have bounded := Indications.bounded_of_runs projected
  refine ⟨?_, bounded key, accounts.handed, accounts.once, accounts.returned, ?_, ?_, ?_, ?_⟩
  · -- All that was published is accounted for.
    rw [← published_indicationTrace]
    exact accounts.conserved
  · -- A call that is cancelled too late still returns what it was handed.
    intro indication ch cause member cancelled
    obtain ⟨n', polled, returned, kept⟩ := (accounts.handed indication ch member).poll cancelled
    refine ⟨{ s with indications := n' }, ?_, returned, kept⟩
    simp [step, effects, DispatcherEvent.locks, IndicationEvent.guarded, follow, polled]
  · -- Every delivery under way goes on.
    intro d member
    obtain ⟨n', performed⟩ :=
      Option.isSome_iff_exists.mp ((Indications.sound_of_runs projected).perform_accepted member)
    simp [step, effects, DispatcherEvent.locks, IndicationEvent.guarded, follow, performed]
  · exact bounded.subscribeIndication_isSome
  · intro other err
    rw [Indications.subscribeStopped_eq]
    rfl

/-- A call waits, is handed an indication, and is cancelled before it looks. -/
def lateCancel : List DispatcherEvent :=
  let indication : Indication := { serviceID := [], commandID := 1, informationBuffer := [42] }
  [.nextIndication { lease := none, connected := true } { serviceID := [], commandID := 1 },
    .indication (.publishIndication indication),
    .indication (.perform (Indications.toWaiter indication { ch := 0, owner := none })),
    .indication (.cancel 0 (.format "context canceled" []))]

/-- The cancelled call is left to return its indication. -/
theorem lateCancel_accounted :
    ∃ trace s, dispatcher.Runs trace s ∧ trace.map Prod.snd = lateCancel ∧
      Undisturbed { serviceID := [], commandID := 1 } trace ∧
      ∃ s', s.step (.indication (.poll 0)) = some s' ∧
        s'.indications.calls 0 = some ⟨⟨[], 1⟩, .returned (.ok ⟨[], 1, [42]⟩)⟩ := by
  have accepted : (dispatcher.runFrom dispatcher.init lateCancel).isSome := by decide
  have run := Machine.Runs.ofEvents dispatcher lateCancel accepted
  have calm : Undisturbed { serviceID := [], commandID := 1 }
      ((dispatcher.runFrom dispatcher.init lateCancel).get accepted).1 := by
    intro step member
    have event : step.2 ∈ lateCancel := List.mem_map_of_mem member
    simp only [lateCancel, List.mem_cons, List.not_mem_nil, or_false] at event
    rcases event with same | same | same | same <;> exact ⟨by simp [same], by simp [same]⟩
  obtain ⟨-, -, -, -, -, cancelled, -⟩ := indications_accounted run calm
  obtain ⟨s', polled, returned, -⟩ := cancelled _ 0 _ List.mem_cons_self rfl
  exact ⟨_, _, run, rfl, calm, s', polled, returned⟩

/-- A call that is cancelled after it was handed an indication does not put it back into the queue. -/
theorem lateCancel_not_requeued :
    ∃ trace s, dispatcher.Runs trace s ∧ trace.map Prod.snd = lateCancel ++ [.indication (.poll 0)] ∧
      s.indications.indications.items { serviceID := [], commandID := 1 } = [] ∧
      s.indications.calls 0 = some ⟨⟨[], 1⟩, .returned (.ok ⟨[], 1, [42]⟩)⟩ := by
  have accepted : (dispatcher.runFrom dispatcher.init (lateCancel ++ [.indication (.poll 0)])).isSome := by decide
  exact ⟨_, _, Machine.Runs.ofEvents dispatcher _ accepted, rfl, rfl, rfl⟩

end Dispatcher

end Wwan.Mbim
