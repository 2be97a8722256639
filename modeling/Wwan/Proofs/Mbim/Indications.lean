import Wwan.Proofs.Mbim.Dispatcher

/-! What the steps of the indications do, and what they keep in order. -/

namespace Wwan.Mbim

/-- A move of a watch that concerns nothing but itself. -/
inductive Watch.Moves : Watch → Watch → Prop where
  | emit {watch : Watch} {result : WatchResult} : watch.stage = .holding result →
      watch.out.closed = false →
      Moves watch { watch with out := watch.out.push result, stage := result.nextStage }
  | cancel {watch : Watch} : Moves watch { watch with cancelled := true }
  | leave {watch : Watch} : watch.cancelled = true →
      (watch.stage = .looping ∨ ∃ result, watch.stage = .holding result) →
      Moves watch { watch with stage := .leaving }
  | unsubscribe {watch : Watch} : watch.stage = .leaving → Moves watch { watch with stage := .closing }
  | closeOut {watch : Watch} : watch.stage = .closing →
      Moves watch { watch with out := watch.out.close, stage := .ended }
  | read {watch : Watch} {result : WatchResult} {rest : List WatchResult} :
      watch.out.buffer = result :: rest →
      Moves watch { watch with out := watch.out.pop, reads := watch.reads ++ [result] }

/-- A watch keeps its key. -/
theorem Watch.Moves.key_eq {watch watch' : Watch} (moves : watch.Moves watch') : watch'.key = watch.key := by
  cases moves <;> rfl

/-- An event of one watch and its consumer. -/
def IndicationEvent.ofWatch : IndicationEvent → Bool
  | .emit _ | .cancelWatch _ | .leave _ | .unsubscribe _ | .closeOut _ | .read _ => true
  | _ => false

namespace Indications

/-- The deliveries of a published indication. -/
def publications (n : Indications) (indication : Indication) : List Delivery :=
  (n.subsOf indication.key).keys.map (toSubscriber indication) ++
    ((n.waiters.items indication.key).take 1).map (toWaiter indication)

/-- What a step of the indications can do. -/
inductive Step (n : Indications) : IndicationEvent → Indications → Prop where
  | queued {key : IndicationKey} {owner : Option Lease} {indication : Indication}
      {rest : List Indication} : n.locked = false → n.indications.items key = indication :: rest →
      Step n (.nextIndication key owner)
        { n.setCall n.made { key, stage := .returned (.ok indication) } with
          indications := n.indications.store key rest, made := n.made + 1 }
  | waits {key : IndicationKey} {owner : Option Lease} : n.locked = false →
      n.indications.items key = [] →
      Step n (.nextIndication key owner)
        { (n.setCall n.made { key, stage := .waiting }).setChan n.made (Chan.make 1) with
          waiters := n.waiters.set key (n.waiters.items key ++ [{ ch := n.made, owner }])
          made := n.made + 1 }
  | subscribes {key : IndicationKey} {owner : Option Lease} {chan : Chan WatchResult} :
      n.locked = false →
      (Chan.make maxQueuedIndications).sendAll? ((n.indications.items key).map .value) = some chan →
      Step n (.subscribeIndication key owner)
        { (n.setWatch n.made { key, subscribed := true }).setChan n.made chan with
          subs := n.subs.set key ((n.subsOf key).set n.made owner)
          indications := n.indications.delete key
          made := n.made + 1 }
  | subscribesStopped {key : IndicationKey} {err : Error} : n.locked = false →
      Step n (.subscribeStopped key err)
        { (n.setWatch n.made { key, subscribed := false }).setChan n.made
            { capacity := (n.indications.items key).length + 1
              buffer := (n.indications.items key).map .value ++ [.failed err]
              closed := true
              sent := (n.indications.items key).map .value ++ [.failed err] } with
          indications := n.indications.delete key
          made := n.made + 1 }
  | queues {indication : Indication} : n.locked = false → n.waiters.items indication.key = [] →
      (n.subsOf indication.key).len = 0 →
      Step n (.publishIndication indication)
        { n with indications := n.indications.set indication.key
                  (queueIndicationLocked (n.indications.items indication.key) indication) }
  | publishes {indication : Indication} {waiters : GoMap IndicationKey (List IndicationWaiter)} :
      n.locked = false →
      (n.waiters.items indication.key ≠ [] ∨ (n.subsOf indication.key).len ≠ 0) →
      (∀ key, waiters.items key =
        if key = indication.key then (n.waiters.items key).tail else n.waiters.items key) →
      Step n (.publishIndication indication)
        { n with waiters, deliveries := n.deliveries ++ n.publications indication }
  | stops {err : Error} : n.locked = false → Step n (.stopReceiver err) (n.stopReceiver err)
  | closesLease {lease : Lease} : n.locked = false → Step n (.closeLease lease) (n.closeLease lease)
  | clears : n.locked = false → Step n .clear { n with indications := ∅ }
  | performs {d : Delivery} {chan : Chan WatchResult} {phase : Option Phase} : d ∈ n.deliveries →
      d.advance (n.chans d.ch) = some (chan, phase) →
      Step n (.perform d)
        { n.setChan d.ch chan with
          deliveries := n.deliveries.erase d ++ (phase.map fun phase => { d with phase }).toList }
  | takes {ch : ChanID} {key : IndicationKey} {result : WatchResult} {rest : List WatchResult} :
      n.calls ch = some { key, stage := .waiting } → (n.chans ch).buffer = result :: rest →
      Step n (.take ch)
        ((n.setCall ch { key, stage := .returned (returnOf result) }).setChan ch (n.chans ch).pop)
  | takesClosed {ch : ChanID} {key : IndicationKey} : n.calls ch = some { key, stage := .waiting } →
      (n.chans ch).buffer = [] → (n.chans ch).closed = true →
      Step n (.take ch) (n.setCall ch { key, stage := .returned (.error errReceiverStopped) })
  | cancelsListed {ch : ChanID} {key : IndicationKey} {cause : Error} : n.locked = false →
      n.calls ch = some { key, stage := .waiting } →
      ch ∈ (n.waiters.items key).map IndicationWaiter.ch →
      Step n (.cancel ch cause)
        { n.setCall ch { key, stage := .returned (.error cause) } with
          waiters := n.waiters.store key ((n.waiters.items key).eraseP fun waiter => waiter.ch = ch) }
  | cancelsLate {ch : ChanID} {key : IndicationKey} {cause : Error} : n.locked = false →
      n.calls ch = some { key, stage := .waiting } →
      ch ∉ (n.waiters.items key).map IndicationWaiter.ch →
      Step n (.cancel ch cause) (n.setCall ch { key, stage := .polling cause })
  | polls {ch : ChanID} {key : IndicationKey} {cause : Error} {result : WatchResult}
      {rest : List WatchResult} :
      n.calls ch = some { key, stage := .polling cause } → (n.chans ch).buffer = result :: rest →
      Step n (.poll ch)
        ((n.setCall ch { key, stage := .returned (returnOf result) }).setChan ch (n.chans ch).pop)
  | pollsEmpty {ch : ChanID} {key : IndicationKey} {cause : Error} :
      n.calls ch = some { key, stage := .polling cause } → (n.chans ch).buffer = [] →
      Step n (.poll ch) (n.setCall ch { key, stage := .returned (.error cause) })
  | forwards {ch : ChanID} {watch : Watch} {result : WatchResult} {rest : List WatchResult} :
      n.watches ch = some watch → watch.stage = .looping → (n.chans ch).buffer = result :: rest →
      Step n (.forward ch)
        ((n.setWatch ch { watch with stage := .holding (wrapResult watch.key result) }).setChan ch (n.chans ch).pop)
  | forwardsClosed {ch : ChanID} {watch : Watch} : n.watches ch = some watch →
      watch.stage = .looping → (n.chans ch).buffer = [] → (n.chans ch).closed = true →
      Step n (.forward ch) (n.setWatch ch { watch with stage := .leaving })
  | unsubscribes {ch : ChanID} {watch : Watch} : n.locked = false → n.watches ch = some watch →
      watch.stage = .leaving →
      Step n (.unsubscribe ch)
        ((n.unsubscribeIndication watch.key ch).setWatch ch { watch with stage := .closing })
  | moves {e : IndicationEvent} {ch : ChanID} {watch watch' : Watch} : e.ofWatch = true →
      n.watches ch = some watch → watch.Moves watch' → Step n e (n.setWatch ch watch')

/-- A section under the lock only runs while nobody else holds it. -/
theorem whileUnlocked_eq_some {n n' : Indications} {result : Option Indications} :
    n.whileUnlocked result = some n' ↔ n.locked = false ∧ result = some n' := by
  unfold whileUnlocked
  cases n.locked <;> simp

/-- Who unsubscribes changes the subscribers of its key only. -/
@[simp] theorem unsubscribeIndication_frame (n : Indications) (key : IndicationKey) (ch : ChanID) :
    (n.unsubscribeIndication key ch).waiters = n.waiters ∧
    (n.unsubscribeIndication key ch).indications = n.indications ∧
    (n.unsubscribeIndication key ch).made = n.made ∧ (n.unsubscribeIndication key ch).chans = n.chans ∧
    (n.unsubscribeIndication key ch).deliveries = n.deliveries ∧ (n.unsubscribeIndication key ch).calls = n.calls ∧
    (n.unsubscribeIndication key ch).watches = n.watches := by
  unfold unsubscribeIndication
  cases n.subs.get key <;> exact ⟨rfl, rfl, rfl, rfl, rfl, rfl, rfl⟩

/-- A stopped watch is given the queue and then the error. -/
theorem subscribeStopped_eq (n : Indications) (key : IndicationKey) (err : Error) :
    n.subscribeStopped key err = some
      { (n.setWatch n.made { key, subscribed := false }).setChan n.made
            { capacity := (n.indications.items key).length + 1
              buffer := (n.indications.items key).map .value ++ [.failed err]
              closed := true
              sent := (n.indications.items key).map .value ++ [.failed err] } with
          indications := n.indications.delete key
          made := n.made + 1 } := by
  simp only [subscribeStopped]
  rw [Chan.sendAll?_eq_some rfl (by simp)]
  simp [Chan.close]

/-- Publishing either queues or hands out. -/
theorem step_publishIndication {n : Indications} (indication : Indication) (free : n.locked = false) :
    Step n (.publishIndication indication) (n.publishIndication indication) := by
  unfold publishIndication
  cases waiting : n.waiters.items indication.key with
  -- Without a call that waits, the indication goes to the subscribers, and is queued if there are none.
  | nil =>
    simp only [waiting]
    by_cases nobody : (n.subsOf indication.key).len = 0
    · simp only [nobody, if_true]
      exact .queues free waiting nobody
    · simp only [nobody, if_false]
      have published : Step n (.publishIndication indication)
          { n with waiters := n.waiters, deliveries := n.deliveries ++ n.publications indication } := by
        refine .publishes free (.inr nobody) fun key => ?_
        split
        · rename_i same
          rw [same, waiting]
          rfl
        · rfl
      simpa [publications, waiting] using published
  | cons waiter rest =>
    -- The first call in the list gets the indication, besides the subscribers.
    simp only [waiting]
    have published : Step n (.publishIndication indication)
        { n with waiters := n.waiters.store indication.key rest
                 deliveries := n.deliveries ++ n.publications indication } := by
      refine .publishes free (.inl (by simp [waiting])) fun key => ?_
      rw [GoMap.items_store]
      split
      · rename_i same
        rw [same, waiting]
        rfl
      · rfl
    simpa [publications, waiting] using published

/-- Every accepted event is one of these steps. -/
theorem step_of_eq {n n' : Indications} {e : IndicationEvent} (accepted : n.step e = some n') :
    Step n e n' := by
  -- Every event is taken apart along the tests of its function.
  cases e with
  | nextIndication key owner =>
    -- A queued indication is returned at once.
    obtain ⟨free, made⟩ := whileUnlocked_eq_some.mp accepted
    cases made
    unfold nextIndication
    cases queue : n.indications.items key with
    | nil => exact .waits free queue
    | cons indication rest => exact .queued free queue
  | subscribeIndication key owner =>
    -- What is queued fills the channel of the new subscriber.
    obtain ⟨free, made⟩ := whileUnlocked_eq_some.mp accepted
    obtain ⟨chan, filled, rfl⟩ := Option.map_eq_some_iff.mp made
    exact .subscribes free filled
  | subscribeStopped key err =>
    obtain ⟨free, made⟩ := whileUnlocked_eq_some.mp accepted
    rw [subscribeStopped_eq] at made
    cases made
    exact .subscribesStopped free
  | publishIndication indication =>
    obtain ⟨free, made⟩ := whileUnlocked_eq_some.mp accepted
    cases made
    exact step_publishIndication indication free
  | stopReceiver err =>
    -- What changes the lists needs the lock.
    obtain ⟨free, made⟩ := whileUnlocked_eq_some.mp accepted
    cases made
    exact .stops free
  | closeLease lease =>
    obtain ⟨free, made⟩ := whileUnlocked_eq_some.mp accepted
    cases made
    exact .closesLease free
  | clear =>
    obtain ⟨free, made⟩ := whileUnlocked_eq_some.mp accepted
    cases made
    exact .clears free
  | perform d =>
    -- A delivery needs no lock, but must be under way.
    simp only [step, perform] at accepted
    split at accepted
    · rename_i member
      obtain ⟨⟨chan, phase⟩, advanced, rfl⟩ := Option.map_eq_some_iff.mp accepted
      exact .performs member advanced
    · cases accepted
  | take ch =>
    -- A call takes the result from its channel, or finds it closed.
    simp only [step] at accepted
    split at accepted
    · rename_i key called
      unfold takeResult at accepted
      split at accepted
      · rename_i result rest buffered
        cases accepted
        exact .takes called buffered
      · rename_i empty
        split at accepted
        · rename_i closed
          cases accepted
          exact .takesClosed called empty closed
        · cases accepted
    · cases accepted
  | cancel ch cause =>
    -- A call whose context has ended is still in the list, or has been delivered to.
    simp only [step] at accepted
    split at accepted
    · rename_i key called
      obtain ⟨free, made⟩ := whileUnlocked_eq_some.mp accepted
      cases made
      unfold cancelIndicationWaiter
      by_cases listed : ch ∈ (n.waiters.items key).map IndicationWaiter.ch
      · simp only [listed, if_true]
        exact .cancelsListed free called listed
      · simp only [listed, if_false]
        exact .cancelsLate free called listed
    · cases accepted
  | poll ch =>
    -- A call that left the list too late looks for its result once more.
    simp only [step] at accepted
    split at accepted
    · rename_i key cause called
      cases accepted
      unfold pollResult
      split
      · rename_i result rest buffered
        exact .polls called buffered
      · rename_i empty
        exact .pollsEmpty called empty
    · cases accepted
  | forward ch =>
    -- The goroutine of a watch forwards only between two results.
    simp only [step] at accepted
    split at accepted
    · rename_i watch watching
      split at accepted
      · rename_i looping
        unfold forward at accepted
        split at accepted
        · rename_i result rest buffered
          cases accepted
          exact .forwards watching looping buffered
        · rename_i empty
          split at accepted
          · rename_i closed
            cases accepted
            exact .forwardsClosed watching looping empty closed
          · cases accepted
      · cases accepted
    · cases accepted
  | emit ch =>
    -- It holds a result, for which there is room.
    simp only [step] at accepted
    split at accepted
    · rename_i watch watching
      split at accepted
      · rename_i result holding
        obtain ⟨watch', emitted, rfl⟩ := Option.map_eq_some_iff.mp accepted
        obtain ⟨out, sent, rfl⟩ := Option.map_eq_some_iff.mp emitted
        obtain ⟨isOpen, -, rfl⟩ := Chan.send?_eq_some.mp sent
        exact .moves rfl watching (.emit holding isOpen)
      · cases accepted
    · cases accepted
  | cancelWatch ch =>
    obtain ⟨watch, watching, rfl⟩ := Option.map_eq_some_iff.mp accepted
    exact .moves rfl watching .cancel
  | leave ch =>
    -- It leaves at the end of its context, with a result in hand or without.
    simp only [step] at accepted
    split at accepted
    · rename_i watch watching
      split at accepted
      · rename_i cancelled looping
        cases accepted
        exact .moves rfl watching (.leave cancelled (.inl looping))
      · rename_i result cancelled holding
        cases accepted
        exact .moves rfl watching (.leave cancelled (.inr ⟨result, holding⟩))
      · cases accepted
    · cases accepted
  | unsubscribe ch =>
    -- The subscription is given up under the lock, unless the stream was closed.
    simp only [step] at accepted
    split at accepted
    · rename_i watch watching
      split at accepted
      · rename_i leaving
        split at accepted
        · obtain ⟨free, made⟩ := whileUnlocked_eq_some.mp accepted
          cases made
          exact .unsubscribes free watching leaving
        · cases accepted
          exact .moves rfl watching (.unsubscribe leaving)
      · cases accepted
    · cases accepted
  | closeOut ch =>
    -- At last it closes the stream.
    simp only [step] at accepted
    split at accepted
    · rename_i watch watching
      split at accepted
      · rename_i closing
        cases accepted
        exact .moves rfl watching (.closeOut closing)
      · cases accepted
    · cases accepted
  | read ch =>
    -- The consumer reads what is buffered.
    obtain ⟨watch, watching, reads⟩ := Option.bind_eq_some_iff.mp accepted
    obtain ⟨watch', read, rfl⟩ := Option.map_eq_some_iff.mp reads
    unfold Watch.read at read
    split at read
    · cases read
    · rename_i result rest buffered
      cases read
      exact .moves rfl watching (.read buffered)

/-- Whether a channel is subscribed to a key. -/
def Subscribed (n : Indications) (key : IndicationKey) (ch : ChanID) : Prop :=
  ∃ owner, (n.subsOf key).get ch = some owner

/-- Whether a call waits for an indication of a key. -/
def Waits (n : Indications) (key : IndicationKey) (ch : ChanID) : Prop :=
  ch ∈ (n.waiters.items key).map IndicationWaiter.ch

/-- What the next statement of a delivery relies on. -/
structure Ready (d : Delivery) (c : Chan WatchResult) : Prop where
  isOpen : c.closed = false
  positive : 0 < c.capacity
  unsent : d.phase = .send → c = Chan.make 1
  room : d.phase = .lastOffer → c.hasRoom = true
  closing : d.phase = .close → d.closes = true
  /-- Nothing is closed under the lock. -/
  closes : d.closes = true → d.locked = false

/-- What holds of the indications in every run. -/
structure Sound (n : Indications) : Prop where
  unmade : ∀ ch, n.made ≤ ch → n.calls ch = none ∧ n.watches ch = none ∧ n.chans ch = Chan.make 0
  /-- No identity is both a call and a watch. -/
  apart : ∀ ch call, n.calls ch = some call → n.watches ch = none
  /-- A listed call waits, and nothing has been sent to it. -/
  waiting : ∀ key ch, n.Waits key ch → n.calls ch = some { key, stage := .waiting } ∧
    n.chans ch = Chan.make 1
  waiters : ∀ key, ((n.waiters.items key).map IndicationWaiter.ch).Nodup
  /-- A subscribed channel is open and has a watch. -/
  watching : ∀ key ch, n.Subscribed key ch → (∃ watch, n.watches ch = some watch ∧ watch.key = key) ∧
    (n.chans ch).closed = false ∧ 0 < (n.chans ch).capacity
  /-- A channel has at most one delivery, none while its call is listed, and only one that holds the
  lock while it is subscribed. -/
  single : (n.deliveries.map Delivery.ch).Nodup
  made : ∀ d ∈ n.deliveries, d.ch < n.made
  unlisted : ∀ d ∈ n.deliveries, ∀ key, ¬ n.Waits key d.ch
  unsubscribed : ∀ d ∈ n.deliveries, d.locked = false → ∀ key, ¬ n.Subscribed key d.ch
  ready : ∀ d ∈ n.deliveries, Ready d (n.chans d.ch)
  bounded : ∀ ch, (n.chans ch).buffer.length ≤ (n.chans ch).capacity

/-- The indications of a new client. -/
theorem sound_init : Sound {} where
  unmade := fun _ _ => ⟨rfl, rfl, rfl⟩
  apart := by simp
  waiting := by simp [Waits]
  waiters := by simp
  watching := by simp [Subscribed, subsOf]
  single := List.nodup_nil
  made := by simp
  unlisted := by simp
  unsubscribed := by simp
  ready := by simp
  bounded := by simp

/-- Changing the queues alone keeps the indications sound. -/
theorem Sound.setQueues {n : Indications} (sound : n.Sound)
    (queues : GoMap IndicationKey (List Indication)) : Sound { n with indications := queues } :=
  ⟨sound.unmade, sound.apart, sound.waiting, sound.waiters, sound.watching, sound.single, sound.made,
    sound.unlisted, sound.unsubscribed, sound.ready, sound.bounded⟩

/-- A move of a watch keeps the indications sound. -/
theorem Sound.setWatch {n : Indications} (sound : n.Sound) {ch : ChanID} {watch watch' : Watch}
    (watching : n.watches ch = some watch) (named : watch'.key = watch.key) :
    (n.setWatch ch watch').Sound := by
  -- The watch exists, so that its channel was made.
  have made : ch < n.made := by
    by_contra beyond
    cases (sound.unmade ch (Nat.not_lt.mp beyond)).2.1.symm.trans watching
  refine { unmade := ?_, apart := ?_, waiting := sound.waiting, waiters := sound.waiters
           watching := ?_, single := sound.single, made := sound.made, unlisted := sound.unlisted
           unsubscribed := sound.unsubscribed, ready := sound.ready, bounded := sound.bounded }
  · -- A channel that was not made is another one.
    intro other beyond
    have different : other ≠ ch := by
      rintro rfl
      exact absurd made (Nat.not_lt.mpr beyond)
    simpa [Function.update_of_ne different] using sound.unmade other beyond
  · -- A call's channel is another one too.
    intro other call called
    have none := sound.apart other call called
    have different : other ≠ ch := by
      rintro rfl
      cases none.symm.trans watching
    simpa [Function.update_of_ne different] using none
  · -- The watch of a subscriber keeps its key.
    intro key other subscribed
    obtain ⟨⟨old, found, keyed⟩, rest⟩ := sound.watching key other subscribed
    refine ⟨?_, rest⟩
    by_cases same : other = ch
    · subst same
      cases watching.symm.trans found
      exact ⟨watch', by simp , named.trans keyed⟩
    · exact ⟨old, by simpa [Function.update_of_ne same] using found, keyed⟩

/-- A move of an unlisted call keeps the indications sound. -/
theorem Sound.setCall {n : Indications} (sound : n.Sound) {ch : ChanID} {call : NextCall}
    (called : n.calls ch = some call) (unlisted : ∀ key, ¬ n.Waits key ch) (call' : NextCall) :
    (n.setCall ch call').Sound := by
  -- The call exists, so that its channel was made.
  have made : ch < n.made := by
    by_contra beyond
    cases (sound.unmade ch (Nat.not_lt.mp beyond)).1.symm.trans called
  refine { unmade := ?_, apart := ?_, waiting := ?_, waiters := sound.waiters
           watching := sound.watching, single := sound.single, made := sound.made
           unlisted := sound.unlisted, unsubscribed := sound.unsubscribed, ready := sound.ready
           bounded := sound.bounded }
  · -- A channel that was not made is another one.
    intro other beyond
    have different : other ≠ ch := by
      rintro rfl
      exact absurd made (Nat.not_lt.mpr beyond)
    simpa [Function.update_of_ne different] using sound.unmade other beyond
  · -- The channel is still that of a call, and so of no watch.
    intro other call'' called'
    by_cases same : other = ch
    · subst same
      exact sound.apart other call called
    · simp only [setCall_calls, Function.update_of_ne same] at called'
      exact sound.apart other call'' called'
  · -- A call that waits is another one.
    intro key other waits
    have different : other ≠ ch := by
      rintro rfl
      exact unlisted key waits
    simpa [Function.update_of_ne different] using sound.waiting key other waits

/-- Changing a channel that no call is listed for keeps the indications sound. -/
theorem Sound.setChan {n : Indications} (sound : n.Sound) {ch : ChanID} {chan : Chan WatchResult}
    (made : ch < n.made) (unlisted : ∀ key, ¬ n.Waits key ch)
    (closed : ∀ key, n.Subscribed key ch → chan.closed = false)
    (capacity : chan.capacity = (n.chans ch).capacity)
    (ready : ∀ d ∈ n.deliveries, d.ch = ch → Ready d chan)
    (bounded : chan.buffer.length ≤ chan.capacity) : (n.setChan ch chan).Sound := by
  -- All but the parts about the channels' contents stay.
  refine { unmade := ?_, apart := sound.apart, waiting := ?_, waiters := sound.waiters
           watching := ?_, single := sound.single, made := sound.made, unlisted := sound.unlisted
           unsubscribed := sound.unsubscribed, ready := ?_, bounded := ?_ }
  · -- A channel that was not made is another one.
    intro other beyond
    have different : other ≠ ch := by
      rintro rfl
      exact absurd made (Nat.not_lt.mpr beyond)
    simpa [Function.update_of_ne different] using sound.unmade other beyond
  · -- The channel of a call that waits is another one, which stays empty.
    intro key other waits
    have different : other ≠ ch := by
      rintro rfl
      exact unlisted key waits
    simpa [Function.update_of_ne different] using sound.waiting key other waits
  · -- A subscribed channel stays open, and does not shrink.
    intro key other subscribed
    obtain ⟨watch, isOpen, positive⟩ := sound.watching key other subscribed
    refine ⟨watch, ?_⟩
    by_cases same : other = ch
    · subst same
      simpa [capacity] using ⟨closed key subscribed, positive⟩
    · simpa [Function.update_of_ne same] using ⟨isOpen, positive⟩
  · -- A delivery on this channel is ready for the new contents.
    intro d member
    by_cases same : d.ch = ch
    · simpa [same] using ready d member same
    · simpa [Function.update_of_ne same] using sound.ready d member
  · intro other
    by_cases same : other = ch
    · subst same
      simpa using bounded
    · simpa [Function.update_of_ne same] using sound.bounded other

/-- A received value leaves the next statement of a delivery ready. -/
theorem Ready.pop {d : Delivery} {c : Chan WatchResult} (ready : Ready d c) (waiting : c.buffer ≠ []) :
    Ready d c.pop where
  isOpen := ready.isOpen
  positive := ready.positive
  unsent := by
    intro sends
    rw [ready.unsent sends] at waiting
    exact absurd rfl waiting
  room := by
    intro offers
    have room := ready.room offers
    simp only [Chan.hasRoom, Chan.pop_buffer, List.length_tail, Chan.pop_capacity,
      decide_eq_true_eq] at room ⊢
    omega
  closing := ready.closing
  closes := ready.closes

/-- Receiving from a channel keeps the indications sound. -/
theorem Sound.pop {n : Indications} (sound : n.Sound) {ch : ChanID} (waiting : (n.chans ch).buffer ≠ []) :
    (n.setChan ch (n.chans ch).pop).Sound := by
  -- The channel holds something, which excludes most of what could be wrong.
  refine sound.setChan ?_ ?_ ?_ rfl ?_ ?_
  · -- It was made, since new channels are empty.
    by_contra beyond
    rw [(sound.unmade ch (Nat.not_lt.mp beyond)).2.2] at waiting
    exact waiting rfl
  · -- No call waits on it, since theirs are empty.
    intro key waits
    rw [(sound.waiting key ch waits).2] at waiting
    exact waiting rfl
  · intro key subscribed
    exact (sound.watching key ch subscribed).2.1
  · -- A delivery finds more room than before.
    rintro d member rfl
    exact (sound.ready d member).pop waiting
  · have bounded := sound.bounded ch
    simp only [Chan.pop_buffer, List.length_tail, Chan.pop_capacity]
    omega

/-- What one statement of a ready delivery does. -/
inductive Advances (d : Delivery) (c : Chan WatchResult) : Chan WatchResult → Option Phase → Prop where
  | pushes : d.phase ≠ .close → c.hasRoom = true → Advances d c (c.push d.result) d.afterwards
  | full : d.phase = .offer → Advances d c c (some .drain)
  | drains : d.phase = .drain → Advances d c c.pop (some .lastOffer)
  | closes : d.phase = .close → Advances d c c.close none

/-- A ready delivery always gets its value through. -/
theorem advances_of_eq {d : Delivery} {c chan : Chan WatchResult} {phase : Option Phase}
    (ready : Ready d c) (advanced : d.advance c = some (chan, phase)) : Advances d c chan phase := by
  -- Each phase has its outcomes, where the channel is open and what was drained has left room.
  unfold Delivery.advance at advanced
  split at advanced
  · -- A call's channel has room for the one result it gets.
    rename_i sends
    obtain ⟨c', sent, same⟩ := Option.map_eq_some_iff.mp advanced
    obtain ⟨-, room, rfl⟩ := Chan.send?_eq_some.mp sent
    cases same
    exact .pushes (by simp [sends]) room
  · -- A subscriber's channel may be full.
    rename_i offers
    rw [if_neg (by simp [ready.isOpen])] at advanced
    split at advanced
    · rename_i room
      cases advanced
      exact .pushes (by simp [offers]) room
    · cases advanced
      exact .full offers
  · rename_i drains
    cases advanced
    exact .drains drains
  · -- After the drain there is room.
    rename_i offers
    rw [if_neg (by simp [ready.isOpen]), if_pos (ready.room offers)] at advanced
    cases advanced
    exact .pushes (by simp [offers]) (ready.room offers)
  · rename_i closes
    rw [if_neg (by simp [ready.isOpen])] at advanced
    cases advanced
    exact .closes closes

/-- No statement of a ready delivery blocks or panics. -/
theorem Ready.advance_isSome {d : Delivery} {c : Chan WatchResult} (ready : Ready d c) :
    (d.advance c).isSome := by
  have isOpen := ready.isOpen
  unfold Delivery.advance
  split
  · rename_i sends
    simp [ready.unsent sends, Chan.send?, Chan.hasRoom]
  · split_ifs <;> simp_all
  · rfl
  · split_ifs <;> simp_all
  · simp [isOpen]

/-- The next phase of a delivery is ready for the channel as it is then. -/
theorem Advances.ready {d : Delivery} {c chan : Chan WatchResult} {phase : Phase}
    (advances : Advances d c chan (some phase)) (ready : Ready d c)
    (bounded : c.buffer.length ≤ c.capacity) : Ready { d with phase } chan := by
  generalize next : some phase = after at advances
  -- The next phase depends on what was done in this one.
  cases advances with
  | pushes sends room =>
    -- A result that was put is followed by a close, or by nothing.
    unfold Delivery.afterwards at next
    split at next
    · rename_i closes
      cases next
      exact ⟨ready.isOpen, ready.positive, by simp, by simp, fun _ => closes, ready.closes⟩
    · cases next
  | full offers =>
    cases next
    exact ⟨ready.isOpen, ready.positive, by simp, by simp, by simp, ready.closes⟩
  -- The channel was full, and a value less leaves room.
  | drains drains =>
    cases next
    refine ⟨ready.isOpen, ready.positive, by simp, ?_, by simp, ready.closes⟩
    intro _
    have positive := ready.positive
    simp only [Chan.hasRoom, Chan.pop_buffer, List.length_tail, Chan.pop_capacity, decide_eq_true_eq]
    omega
  | closes closes => cases next

/-- Deliveries leave the capacity of a channel as it is. -/
theorem Advances.capacity {d : Delivery} {c chan : Chan WatchResult} {phase : Option Phase}
    (advances : Advances d c chan phase) : chan.capacity = c.capacity := by
  cases advances <;> rfl

/-- Deliveries do not fill a channel beyond its capacity. -/
theorem Advances.bounded {d : Delivery} {c chan : Chan WatchResult} {phase : Option Phase}
    (advances : Advances d c chan phase) (bounded : c.buffer.length ≤ c.capacity) :
    chan.buffer.length ≤ chan.capacity := by
  cases advances with
  | pushes sends room =>
    simp only [Chan.hasRoom, decide_eq_true_eq] at room
    simp only [Chan.push_buffer, List.length_append, List.length_singleton, Chan.push_capacity]
    omega
  | full offers => exact bounded
  | drains drains =>
    simp only [Chan.pop_buffer, List.length_tail, Chan.pop_capacity]
    omega
  | closes closes => exact bounded

/-- The other deliveries are to other channels. -/
theorem Sound.erase_ne {n : Indications} (sound : n.Sound) {d x : Delivery} (member : d ∈ n.deliveries)
    (left : x ∈ n.deliveries.erase d) : x.ch ≠ d.ch := by
  intro same
  have one := List.inj_on_of_nodup_map sound.single (List.mem_of_mem_erase left) member same
  exact ((sound.single.of_map _).mem_erase_iff.mp left).1 one

/-- A statement of a delivery keeps the indications sound. -/
theorem Sound.perform {n : Indications} (sound : n.Sound) {d : Delivery} {chan : Chan WatchResult}
    {phase : Option Phase} (member : d ∈ n.deliveries) (advances : Advances d (n.chans d.ch) chan phase) :
    Sound { n.setChan d.ch chan with
      deliveries := n.deliveries.erase d ++ (phase.map fun phase => { d with phase }).toList } := by
  have ready := sound.ready d member
  -- The deliveries left are the others and this one in its next phase.
  have cases {x : Delivery}
      (left : x ∈ n.deliveries.erase d ++ (phase.map fun phase => { d with phase }).toList) :
      (x ∈ n.deliveries ∧ x.ch ≠ d.ch) ∨ ∃ next, phase = some next ∧ x = { d with phase := next } := by
    rcases List.mem_append.mp left with other | own
    · exact .inl ⟨List.mem_of_mem_erase other, sound.erase_ne member other⟩
    · obtain ⟨next, same, rfl⟩ := Option.map_eq_some_iff.mp (Option.mem_toList.mp own)
      exact .inr ⟨next, same, rfl⟩
  have unlisted (key : IndicationKey) (other : ChanID) (waits : n.Waits key other) : other ≠ d.ch := by
    rintro rfl
    exact sound.unlisted d member key waits
  refine { unmade := ?_, apart := sound.apart, waiting := ?_, waiters := sound.waiters
           watching := ?_, single := ?_, made := ?_, unlisted := ?_, unsubscribed := ?_, ready := ?_
           bounded := ?_ }
  · -- The channel of the delivery was made.
    intro other beyond
    have different : other ≠ d.ch := by
      rintro rfl
      exact absurd (sound.made d member) (Nat.not_lt.mpr beyond)
    simpa [Function.update_of_ne different] using sound.unmade other beyond
  · -- Calls that wait have other channels.
    intro key other waits
    simpa [Function.update_of_ne (unlisted key other waits)] using
      sound.waiting key other waits
  · intro key other subscribed
    obtain ⟨watch, isOpen, positive⟩ := sound.watching key other subscribed
    refine ⟨watch, ?_⟩
    by_cases same : other = d.ch
    · subst same
      simp only [setChan_chans, Function.update_self]
      refine ⟨?_, advances.capacity ▸ positive⟩
      -- A subscribed channel has no delivery that closes it.
      cases advances with
      | closes closes => exact absurd subscribed (sound.unsubscribed d member (ready.closes (ready.closing closes)) key)
      | _ => exact isOpen
    · simpa [Function.update_of_ne same] using ⟨isOpen, positive⟩
  · -- Each channel still has one delivery at most.
    rw [List.map_append, List.nodup_append]
    refine ⟨sound.single.sublist (List.Sublist.map _ List.erase_sublist), ?_, ?_⟩
    · cases phase <;> simp
    · rintro ch old new fresh rfl
      obtain ⟨x, left, rfl⟩ := List.mem_map.mp old
      obtain ⟨y, own, same⟩ := List.mem_map.mp fresh
      obtain ⟨next, -, rfl⟩ := Option.map_eq_some_iff.mp (Option.mem_toList.mp own)
      exact sound.erase_ne member left same.symm
  · -- Deliveries are on channels that were made, of nobody in the lists.
    intro x left
    obtain ⟨old, -⟩ | ⟨next, -, rfl⟩ := cases left
    · exact sound.made x old
    · exact sound.made d member
  · intro x left
    obtain ⟨old, -⟩ | ⟨next, -, rfl⟩ := cases left
    · exact sound.unlisted x old
    · exact sound.unlisted d member
  · intro x left
    obtain ⟨old, -⟩ | ⟨next, -, rfl⟩ := cases left
    · exact sound.unsubscribed x old
    · exact sound.unsubscribed d member
  · -- The delivery in its next phase is ready for the new contents.
    intro x left
    obtain ⟨old, other⟩ | ⟨next, rfl, rfl⟩ := cases left
    · simpa [Function.update_of_ne other] using sound.ready x old
    · simpa using advances.ready ready (sound.bounded d.ch)
  · intro other
    by_cases same : other = d.ch
    · subst same
      simpa using advances.bounded (sound.bounded d.ch)
    · simpa [Function.update_of_ne same] using sound.bounded other

/-- The deliveries to all subscribers and waiting calls of the owners that go. -/
def releaseList (n : Indications) (gone : Option Lease → Bool) (toSub : ChanID → Delivery)
    (toWait : IndicationWaiter → Delivery) : List Delivery :=
  n.subs.entries.flatMap (fun entry =>
      ((entry.2.entries.filter fun sub => gone sub.2).map Prod.fst).map toSub) ++
    n.waiters.entries.flatMap fun entry => (entry.2.filter fun waiter => gone waiter.owner).map toWait

/-- A subscriber is found under its key. -/
theorem subsOf_get {n : Indications} {key : IndicationKey} {ch : ChanID} {owner : Option Lease} :
    (n.subsOf key).get ch = some owner ↔ ∃ set, n.subs.get key = some set ∧ set.get ch = some owner := by
  unfold subsOf
  cases n.subs.get key <;> simp

/-- A waiting call is found under its key. -/
theorem mem_items {n : Indications} {key : IndicationKey} {waiter : IndicationWaiter} :
    waiter ∈ n.waiters.items key ↔ ∃ list, n.waiters.get key = some list ∧ waiter ∈ list := by
  unfold GoMap.items
  cases n.waiters.get key <;> simp

/-- Who a delivery of the list is to. -/
theorem mem_releaseList {n : Indications} {gone : Option Lease → Bool} {toSub : ChanID → Delivery}
    {toWait : IndicationWaiter → Delivery} {d : Delivery} :
    d ∈ n.releaseList gone toSub toWait ↔
      (∃ key ch owner, (n.subsOf key).get ch = some owner ∧ gone owner = true ∧ d = toSub ch) ∨
      ∃ key waiter, waiter ∈ n.waiters.items key ∧ gone waiter.owner = true ∧ d = toWait waiter := by
  unfold releaseList
  rw [List.mem_append]
  -- The subscribers and the calls are collected alike.
  refine or_congr ?_ ?_
  · -- A subscriber stands in the set of its key.
    constructor
    · intro member
      obtain ⟨⟨key, set⟩, found, inside⟩ := List.mem_flatMap.mp member
      obtain ⟨ch, listed, rfl⟩ := List.mem_map.mp inside
      obtain ⟨⟨_, owner⟩, kept, rfl⟩ := List.mem_map.mp listed
      obtain ⟨owned, goes⟩ := List.mem_filter.mp kept
      exact ⟨key, _, owner, subsOf_get.mpr ⟨set, (n.subs.mem_entries_iff _ _).mp found,
        (set.mem_entries_iff _ _).mp owned⟩, goes, rfl⟩
    · rintro ⟨key, ch, owner, subscribed, goes, rfl⟩
      obtain ⟨set, found, owned⟩ := subsOf_get.mp subscribed
      refine List.mem_flatMap.mpr ⟨(key, set), (n.subs.mem_entries_iff _ _).mpr found, ?_⟩
      refine List.mem_map_of_mem (List.mem_map.mpr ⟨(ch, owner), ?_, rfl⟩)
      exact List.mem_filter.mpr ⟨(set.mem_entries_iff _ _).mpr owned, goes⟩
  · -- A call stands in the list of its key.
    constructor
    · intro member
      obtain ⟨⟨key, list⟩, found, inside⟩ := List.mem_flatMap.mp member
      obtain ⟨waiter, kept, rfl⟩ := List.mem_map.mp inside
      obtain ⟨listed, goes⟩ := List.mem_filter.mp kept
      exact ⟨key, waiter, mem_items.mpr ⟨list, (n.waiters.mem_entries_iff _ _).mp found, listed⟩, goes, rfl⟩
    · rintro ⟨key, waiter, listed, goes, rfl⟩
      obtain ⟨list, found, inside⟩ := mem_items.mp listed
      refine List.mem_flatMap.mpr ⟨(key, list), (n.waiters.mem_entries_iff _ _).mpr found, ?_⟩
      exact List.mem_map_of_mem (List.mem_filter.mpr ⟨inside, goes⟩)

/-- The deliveries of the list are to different channels. -/
theorem Sound.releaseList_nodup {n : Indications} (sound : n.Sound) (gone : Option Lease → Bool)
    {toSub : ChanID → Delivery} {toWait : IndicationWaiter → Delivery} (subCh : ∀ ch, (toSub ch).ch = ch)
    (waitCh : ∀ waiter, (toWait waiter).ch = waiter.ch) :
    ((n.releaseList gone toSub toWait).map Delivery.ch).Nodup := by
  have calls {key : IndicationKey} {waiter : IndicationWaiter} (listed : waiter ∈ n.waiters.items key) :=
    (sound.waiting key waiter.ch (List.mem_map_of_mem listed)).1
  have watches {key : IndicationKey} {ch : ChanID} {owner : Option Lease}
      (subscribed : (n.subsOf key).get ch = some owner) := (sound.watching key ch ⟨owner, subscribed⟩).1
  rw [releaseList, List.map_append, List.map_flatMap, List.map_flatMap, List.nodup_append]
  refine ⟨?_, ?_, ?_⟩
  · -- A watch tells the key of its channel.
    refine n.subs.nodup_flatMap_entries
      (fun set => (((set.entries.filter fun sub => gone sub.2).map Prod.fst).map toSub).map Delivery.ch)
      (fun ch => (n.watches ch).map Watch.key) ?_ ?_
    · intro key set found
      rw [List.map_map, show Delivery.ch ∘ toSub = id from funext subCh, List.map_id]
      have keys := set.keys_nodup
      rw [← set.map_fst_entries] at keys
      exact keys.sublist (List.Sublist.map _ List.filter_sublist)
    · intro key set found ch inside
      rw [List.map_map, show Delivery.ch ∘ toSub = id from funext subCh, List.map_id] at inside
      obtain ⟨⟨_, owner⟩, kept, rfl⟩ := List.mem_map.mp inside
      have owned := (set.mem_entries_iff _ _).mp (List.mem_of_mem_filter kept)
      obtain ⟨watch, watching, rfl⟩ := watches (subsOf_get.mpr ⟨set, found, owned⟩)
      simp [watching]
  · -- A call tells the key of its channel.
    refine n.waiters.nodup_flatMap_entries
      (fun list => ((list.filter fun waiter => gone waiter.owner).map toWait).map Delivery.ch)
      (fun ch => (n.calls ch).map NextCall.key) ?_ ?_
    · intro key list found
      rw [List.map_map, show Delivery.ch ∘ toWait = IndicationWaiter.ch from funext waitCh]
      have nodup := sound.waiters key
      rw [GoMap.items, found] at nodup
      exact nodup.sublist (List.Sublist.map _ List.filter_sublist)
    · intro key list found ch inside
      rw [List.map_map, show Delivery.ch ∘ toWait = IndicationWaiter.ch from funext waitCh] at inside
      obtain ⟨waiter, kept, rfl⟩ := List.mem_map.mp inside
      rw [calls (mem_items.mpr ⟨list, found, List.mem_of_mem_filter kept⟩)]
      rfl
  · -- No channel is both a watch's and a call's.
    rintro ch sub wait waits rfl
    obtain ⟨⟨key, set⟩, found, inside⟩ := List.mem_flatMap.mp sub
    obtain ⟨⟨key', list⟩, found', inside'⟩ := List.mem_flatMap.mp waits
    simp only [List.map_map] at inside
    simp only [List.map_map, show Delivery.ch ∘ toWait = IndicationWaiter.ch from funext waitCh] at inside'
    obtain ⟨⟨_, owner⟩, kept, rfl⟩ := List.mem_map.mp inside
    obtain ⟨waiter, kept', same⟩ := List.mem_map.mp inside'
    have owned := (set.mem_entries_iff _ _).mp (List.mem_of_mem_filter kept)
    obtain ⟨watch, watching, -⟩ :=
      watches (subsOf_get.mpr ⟨set, (n.subs.mem_entries_iff _ _).mp found, owned⟩)
    have called := calls (mem_items.mpr
      ⟨list, (n.waiters.mem_entries_iff _ _).mp found', List.mem_of_mem_filter kept'⟩)
    rw [show waiter.ch = _ from same.trans (subCh _)] at called
    cases (sound.apart _ _ called).symm.trans watching

/-- The owners that go are taken out of the subscriptions and the waiting calls, for one last result. -/
structure Releases (n n' : Indications) (gone : Option Lease → Bool) (toSub : ChanID → Delivery)
    (toWait : IndicationWaiter → Delivery) : Prop where
  unchanged : n' = { n with subs := n'.subs, waiters := n'.waiters, deliveries := n'.deliveries }
  deliveries : n'.deliveries = n.deliveries ++ n.releaseList gone toSub toWait
  subs : ∀ key ch, (n'.subsOf key).get ch = ((n.subsOf key).get ch).filter fun owner => !gone owner
  waiters : ∀ key, n'.waiters.items key = (n.waiters.items key).filter fun waiter => !gone waiter.owner

/-- Stopping releases everyone. -/
theorem stopReceiver_releases (n : Indications) (err : Error) :
    Releases n (n.stopReceiver err) (fun _ => true) (stopSubscriber err) (stopWaiter err) where
  unchanged := rfl
  deliveries := by simp [stopReceiver, releaseList, GoMap.map_fst_entries]
  subs := by
    intro key ch
    cases (n.subsOf key).get ch <;> simp [stopReceiver, subsOf, Option.filter]
  waiters := by simp [stopReceiver]

/-- Closing a lease releases its subscribers and its waiting calls. -/
theorem closeLease_releases (n : Indications) (lease : Lease) :
    Releases n (n.closeLease lease) (fun owner => owner = some lease) closeSubscriber closeWaiter where
  unchanged := rfl
  deliveries := by simp [closeLease, releaseList, ownSubs]
  subs := by
    intro key ch
    simp only [closeLease, subsOf, GoMap.get_filterMap]
    cases n.subs.get key with
    | none => simp
    | some set =>
      -- The subscribers of other leases stay in the set.
      have rest : (otherSubs lease set).get ch =
          (set.get ch).filter fun owner => !decide (owner = some lease) := by
        simp only [otherSubs, GoMap.get_filterMap]
        cases set.get ch with
        | none => rfl
        | some owner => by_cases own : owner = some lease <;> simp [own, Option.filter]
      -- An empty set is removed, in which nobody is found either.
      by_cases empty : (otherSubs lease set).len = 0
      · simpa [empty] using (GoMap.get_of_len_eq_zero empty ch).symm.trans rest
      · simpa [empty] using rest
  waiters := by
    intro key
    -- The lists lose the calls of the lease, and an empty one is removed.
    simp only [closeLease, GoMap.items, GoMap.get_filterMap]
    cases n.waiters.get key with
    | none => simp
    | some list =>
      simp only [Option.bind_some, Option.getD_some]
      cases remaining : list.filter fun waiter => waiter.owner ≠ some lease with
      | nil => simpa using remaining.symm
      | cons first rest => simpa using remaining.symm

/-- Nothing is on its way to a subscriber while the lock is free. -/
theorem Sound.idle {n : Indications} (sound : n.Sound) (free : n.locked = false) {key : IndicationKey}
    {ch : ChanID} (subscribed : n.Subscribed key ch) {d : Delivery} (member : d ∈ n.deliveries) : d.ch ≠ ch := by
  rintro rfl
  have unlocked : d.locked = false := by
    have none := List.any_eq_false.mp free d member
    simpa using none
  exact sound.unsubscribed d member unlocked key subscribed

/-- A subscriber is not a waiting call. -/
theorem Sound.not_waits {n : Indications} (sound : n.Sound) {key key' : IndicationKey} {ch : ChanID}
    (subscribed : n.Subscribed key ch) : ¬ n.Waits key' ch := by
  intro waits
  obtain ⟨⟨watch, watching, -⟩, -⟩ := sound.watching key ch subscribed
  cases (sound.apart ch _ (sound.waiting key' ch waits).1).symm.trans watching

/-- A subscriber has one key. -/
theorem Sound.subscribed_key {n : Indications} (sound : n.Sound) {key key' : IndicationKey} {ch : ChanID}
    (subscribed : n.Subscribed key ch) (also : n.Subscribed key' ch) : key = key' := by
  obtain ⟨⟨watch, watching, rfl⟩, -⟩ := sound.watching key ch subscribed
  obtain ⟨⟨watch', watching', rfl⟩, -⟩ := sound.watching key' ch also
  cases watching.symm.trans watching'
  rfl

/-- A waiting call has one key. -/
theorem Sound.waits_key {n : Indications} (sound : n.Sound) {key key' : IndicationKey} {ch : ChanID}
    (waits : n.Waits key ch) (also : n.Waits key' ch) : key = key' := by
  have called := (sound.waiting key ch waits).1
  rw [(sound.waiting key' ch also).1] at called
  cases called
  rfl

/-- A listed call has been made. -/
theorem Sound.waits_lt {n : Indications} (sound : n.Sound) {key : IndicationKey} {ch : ChanID}
    (waits : n.Waits key ch) : ch < n.made := by
  by_contra beyond
  cases (sound.unmade ch (Nat.not_lt.mp beyond)).1.symm.trans (sound.waiting key ch waits).1

/-- A subscribed channel has been made. -/
theorem Sound.subscribed_lt {n : Indications} (sound : n.Sound) {key : IndicationKey} {ch : ChanID}
    (subscribed : n.Subscribed key ch) : ch < n.made := by
  obtain ⟨⟨watch, watching, -⟩, -⟩ := sound.watching key ch subscribed
  by_contra beyond
  cases (sound.unmade ch (Nat.not_lt.mp beyond)).2.1.symm.trans watching

/-- Adding deliveries to channels that nothing is on its way to keeps the indications sound. -/
theorem Sound.deliver {n n' : Indications} (sound : n.Sound) {more : List Delivery}
    (unchanged : n' = { n with subs := n'.subs, waiters := n'.waiters, deliveries := n'.deliveries })
    (deliveries : n'.deliveries = n.deliveries ++ more)
    (subs : ∀ key ch, n'.Subscribed key ch → n.Subscribed key ch)
    (waiters : ∀ key, List.Sublist (n'.waiters.items key) (n.waiters.items key))
    (single : (more.map Delivery.ch).Nodup)
    (free : ∀ d ∈ more, ∀ x ∈ n.deliveries, x.ch ≠ d.ch) (made : ∀ d ∈ more, d.ch < n.made)
    (unlisted : ∀ d ∈ more, ∀ key, ¬ n'.Waits key d.ch)
    (unsubscribed : ∀ d ∈ more, d.locked = false → ∀ key, ¬ n'.Subscribed key d.ch)
    (ready : ∀ d ∈ more, Ready d (n.chans d.ch)) : n'.Sound := by
  -- A call that waits now has waited before.
  have waits {key : IndicationKey} {ch : ChanID} (listed : n'.Waits key ch) : n.Waits key ch :=
    (List.Sublist.map _ (waiters key)).subset listed
  have calls : n'.calls = n.calls := by rw [unchanged]
  have watches : n'.watches = n.watches := by rw [unchanged]
  have chans : n'.chans = n.chans := by rw [unchanged]
  have count : n'.made = n.made := by rw [unchanged]
  -- The channels, calls and watches are the same, so only the lists and the deliveries count.
  refine { unmade := ?_, apart := ?_, waiting := ?_, waiters := ?_, watching := ?_, single := ?_
           made := ?_, unlisted := ?_, unsubscribed := ?_, ready := ?_, bounded := ?_ }
  · rw [calls, watches, chans, count]
    exact sound.unmade
  · rw [calls, watches]
    exact sound.apart
  · intro key ch listed
    rw [calls, chans]
    exact sound.waiting key ch (waits listed)
  · intro key
    exact (sound.waiters key).sublist (List.Sublist.map _ (waiters key))
  · intro key ch subscribed
    rw [watches, chans]
    exact sound.watching key ch (subs key ch subscribed)
  · -- New deliveries are on channels without one.
    rw [deliveries, List.map_append, List.nodup_append]
    refine ⟨sound.single, single, ?_⟩
    rintro ch old new fresh rfl
    obtain ⟨x, member, rfl⟩ := List.mem_map.mp old
    obtain ⟨d, added, same⟩ := List.mem_map.mp fresh
    exact free d added x member same.symm
  · -- Each delivery is an old one or a new one.
    intro d member
    rw [count]
    rw [deliveries, List.mem_append] at member
    exact member.elim (sound.made d) (made d)
  · intro d member key listed
    rw [deliveries, List.mem_append] at member
    exact member.elim (fun old => sound.unlisted d old key (waits listed))
      (fun new => unlisted d new key listed)
  · intro d member unlocked key subscribed
    rw [deliveries, List.mem_append] at member
    exact member.elim (fun old => sound.unsubscribed d old unlocked key (subs key d.ch subscribed))
      (fun new => unsubscribed d new unlocked key subscribed)
  · intro d member
    rw [chans]
    rw [deliveries, List.mem_append] at member
    exact member.elim (sound.ready d) (ready d)
  · rw [chans]
    exact sound.bounded

/-- A delivery that releases a subscriber. -/
structure ToSub (toSub : ChanID → Delivery) : Prop where
  ch : ∀ ch, (toSub ch).ch = ch
  phase : ∀ ch, (toSub ch).phase = .offer
  locked : ∀ ch, (toSub ch).locked = false

/-- A delivery that releases a waiting call. -/
structure ToWait (toWait : IndicationWaiter → Delivery) : Prop where
  ch : ∀ waiter, (toWait waiter).ch = waiter.ch
  phase : ∀ waiter, (toWait waiter).phase = .send ∨ (toWait waiter).phase = .lastOffer
  locked : ∀ waiter, (toWait waiter).locked = false

/-- Releasing owners keeps the indications sound. -/
theorem Sound.releases {n n' : Indications} (sound : n.Sound) (free : n.locked = false)
    {gone : Option Lease → Bool} {toSub : ChanID → Delivery} {toWait : IndicationWaiter → Delivery}
    (released : Releases n n' gone toSub toWait) (sub : ToSub toSub) (wait : ToWait toWait) :
    n'.Sound := by
  -- Whoever is subscribed or waits afterwards was and did before.
  have subs (key : IndicationKey) (ch : ChanID) (subscribed : n'.Subscribed key ch) :
      n.Subscribed key ch := by
    obtain ⟨owner, found⟩ := subscribed
    rw [released.subs, Option.filter_eq_some_iff] at found
    exact ⟨owner, found.1⟩
  have waiters (key : IndicationKey) : List.Sublist (n'.waiters.items key) (n.waiters.items key) := by
    rw [released.waiters]
    exact List.filter_sublist
  have waits {key : IndicationKey} {ch : ChanID} (listed : n'.Waits key ch) : n.Waits key ch :=
    (List.Sublist.map _ (waiters key)).subset listed
  refine sound.deliver released.unchanged released.deliveries subs waiters
    (sound.releaseList_nodup gone sub.ch wait.ch) ?_ ?_ ?_ ?_ ?_
  -- Each delivery is to a subscriber or to a call that goes.
  all_goals
    intro d member
    obtain ⟨key, ch, owner, found, goes, rfl⟩ | ⟨key, waiter, listed, goes, rfl⟩ := mem_releaseList.mp member
  · -- The lock is free, so nothing is under way to a subscriber.
    intro x old
    rw [sub.ch]
    exact sound.idle free ⟨owner, found⟩ old
  · -- Nor is anything to a call that waits.
    intro x old same
    rw [wait.ch] at same
    exact sound.unlisted x old key (same ▸ List.mem_map_of_mem listed)
  · rw [sub.ch]
    exact sound.subscribed_lt ⟨owner, found⟩
  · rw [wait.ch]
    exact sound.waits_lt (List.mem_map_of_mem listed : n.Waits key waiter.ch)
  · intro key' listed
    rw [sub.ch] at listed
    exact sound.not_waits ⟨owner, found⟩ (waits listed)
  · -- The call was listed once, and that entry is gone.
    intro key' still
    rw [wait.ch] at still
    obtain rfl := sound.waits_key (List.mem_map_of_mem listed : n.Waits key waiter.ch) (waits still)
    obtain ⟨other, kept, same⟩ := List.mem_map.mp still
    rw [released.waiters, List.mem_filter] at kept
    obtain rfl := List.inj_on_of_nodup_map (sound.waiters key) kept.1 listed same
    simp [goes] at kept
  · -- The subscriber has left the set of its key, which is the only one it stood in.
    rintro - key' ⟨owner', still⟩
    rw [sub.ch, released.subs, Option.filter_eq_some_iff] at still
    obtain rfl := sound.subscribed_key ⟨owner, found⟩ ⟨owner', still.1⟩
    cases found.symm.trans still.1
    simp [goes] at still
  · intro _ key' still
    rw [wait.ch] at still
    exact sound.not_waits (subs _ _ still) (List.mem_map_of_mem listed : n.Waits key waiter.ch)
  · -- A subscriber's channel is open, whatever it holds.
    obtain ⟨-, isOpen, positive⟩ := sound.watching key ch ⟨owner, found⟩
    rw [sub.ch]
    exact ⟨isOpen, positive, by simp [sub.phase], by simp [sub.phase], by simp [sub.phase],
      fun _ => sub.locked ch⟩
  · -- A call's channel is still as it was made.
    have fresh := (sound.waiting key waiter.ch (List.mem_map_of_mem listed)).2
    rw [wait.ch, fresh]
    refine ⟨rfl, by simp, fun _ => rfl, fun _ => rfl, ?_, fun _ => wait.locked waiter⟩
    intro closing
    obtain sends | offers := wait.phase waiter
    · cases sends.symm.trans closing
    · cases offers.symm.trans closing

/-- The deliveries that stop a subscriber. -/
theorem stopSubscriber_toSub (err : Error) : ToSub (stopSubscriber err) :=
  ⟨fun _ => rfl, fun _ => rfl, fun _ => rfl⟩

/-- The deliveries that stop a waiting call. -/
theorem stopWaiter_toWait (err : Error) : ToWait (stopWaiter err) :=
  ⟨fun _ => rfl, fun _ => .inr rfl, fun _ => rfl⟩

/-- The deliveries that close a lease's subscriber. -/
theorem closeSubscriber_toSub : ToSub closeSubscriber := ⟨fun _ => rfl, fun _ => rfl, fun _ => rfl⟩

/-- The deliveries that close a lease's waiting call. -/
theorem closeWaiter_toWait : ToWait closeWaiter := ⟨fun _ => rfl, fun _ => .inl rfl, fun _ => rfl⟩

/-- Who the deliveries of a published indication are to. -/
theorem mem_publications {n : Indications} {indication : Indication} {d : Delivery} :
    d ∈ n.publications indication ↔
      (∃ ch, n.Subscribed indication.key ch ∧ d = toSubscriber indication ch) ∨
      ∃ waiter rest, n.waiters.items indication.key = waiter :: rest ∧ d = toWaiter indication waiter := by
  unfold publications
  rw [List.mem_append]
  refine or_congr ?_ ?_
  · simp only [List.mem_map, GoMap.mem_keys_iff, Subscribed, eq_comm]
  · cases n.waiters.items indication.key <;> simp

/-- Handing out an indication keeps the indications sound. -/
theorem Sound.publishes {n : Indications} (sound : n.Sound) (free : n.locked = false)
    (indication : Indication) {waiters : GoMap IndicationKey (List IndicationWaiter)}
    (taken : ∀ key, waiters.items key =
      if key = indication.key then (n.waiters.items key).tail else n.waiters.items key) :
    Sound { n with waiters, deliveries := n.deliveries ++ n.publications indication } := by
  -- The call that gets the indication is the first in its list, which is all that the lists lose.
  have first {waiter : IndicationWaiter} {rest : List IndicationWaiter}
      (waiting : n.waiters.items indication.key = waiter :: rest) : n.Waits indication.key waiter.ch := by
    simp [Waits, waiting]
  have fewer (key : IndicationKey) : List.Sublist (waiters.items key) (n.waiters.items key) := by
    rw [taken]
    split
    · exact List.tail_sublist _
    · exact List.Sublist.refl _
  refine sound.deliver rfl rfl (fun _ _ subscribed => subscribed) fewer
    ?_ ?_ ?_ ?_ ?_ ?_
  · -- A map names each subscriber once, and none of them is the waiting call.
    rw [publications, List.map_append, List.nodup_append]
    refine ⟨?_, ?_, ?_⟩
    · simpa [Function.comp_def, toSubscriber] using (n.subsOf indication.key).keys_nodup
    · cases n.waiters.items indication.key <;> simp
    · rintro ch sub waits waiting rfl
      obtain ⟨d, inside, rfl⟩ := List.mem_map.mp sub
      obtain ⟨ch, subscribed, rfl⟩ := List.mem_map.mp inside
      obtain ⟨d', inside', same⟩ := List.mem_map.mp waiting
      obtain ⟨waiter, listed, rfl⟩ := List.mem_map.mp inside'
      have waits : n.Waits indication.key waiter.ch := List.mem_map_of_mem (List.mem_of_mem_take listed)
      rw [show waiter.ch = ch from same] at waits
      exact sound.not_waits (((n.subsOf indication.key).mem_keys_iff ch).mp subscribed) waits
  -- Each delivery is to a subscriber or to that call.
  all_goals
    intro d member
    obtain ⟨ch, subscribed, rfl⟩ | ⟨waiter, rest, waiting, rfl⟩ := mem_publications.mp member
  · -- The lock is free, so nothing is under way to a subscriber.
    intro x old
    exact sound.idle free subscribed old
  · -- Nor is anything to a call that waits.
    intro x old same
    exact sound.unlisted x old indication.key (same ▸ first waiting)
  · exact sound.subscribed_lt subscribed
  · exact sound.waits_lt (first waiting)
  · intro key listed
    exact sound.not_waits subscribed ((List.Sublist.map _ (fewer key)).subset listed)
  · -- The list names the call once, and that entry is taken.
    intro key listed
    have before := (List.Sublist.map IndicationWaiter.ch (fewer key)).subset listed
    obtain rfl := sound.waits_key (first waiting) before
    have nodup := sound.waiters indication.key
    simp only [Waits, taken, if_true, waiting, List.tail_cons] at listed
    simp only [waiting, List.map_cons, List.nodup_cons] at nodup
    exact nodup.1 listed
  · -- An indication is delivered under the lock, so its subscribers may stay.
    intro unlocked
    cases unlocked
  · intro unlocked
    cases unlocked
  · -- A subscriber's channel is open, whatever it holds.
    obtain ⟨-, isOpen, positive⟩ := sound.watching _ ch subscribed
    exact ⟨isOpen, positive, by simp [toSubscriber], by simp [toSubscriber], by simp [toSubscriber],
      by simp [toSubscriber]⟩
  · -- The call's channel is still as it was made.
    have fresh := (sound.waiting _ _ (first waiting)).2
    rw [show (toWaiter indication waiter).ch = waiter.ch from rfl, fresh]
    exact ⟨rfl, by simp, fun _ => rfl, fun _ => rfl, by simp [toWaiter], by simp [toWaiter]⟩

/-- A new call or watch keeps the indications sound. -/
theorem Sound.grow {n n' : Indications} (sound : n.Sound) (made : n'.made = n.made + 1)
    (subs : n'.subs = n.subs) (waiters : n'.waiters = n.waiters) (deliveries : n'.deliveries = n.deliveries)
    (calls : ∀ ch, ch ≠ n.made → n'.calls ch = n.calls ch)
    (watches : ∀ ch, ch ≠ n.made → n'.watches ch = n.watches ch)
    (chans : ∀ ch, ch ≠ n.made → n'.chans ch = n.chans ch)
    (kind : n'.calls n.made = none ∨ n'.watches n.made = none)
    (bounded : (n'.chans n.made).buffer.length ≤ (n'.chans n.made).capacity) : n'.Sound := by
  -- The lists name none but the old channels.
  have waits {key : IndicationKey} {ch : ChanID} (listed : n'.Waits key ch) : n.Waits key ch := by
    rwa [Waits, waiters] at listed
  have subscribes {key : IndicationKey} {ch : ChanID} (subscribed : n'.Subscribed key ch) :
      n.Subscribed key ch := by
    rwa [Subscribed, subsOf, subs] at subscribed
  refine { unmade := ?_, apart := ?_, waiting := ?_, waiters := ?_, watching := ?_, single := ?_
           made := ?_, unlisted := ?_, unsubscribed := ?_, ready := ?_, bounded := ?_ }
  · -- The channels that are not made yet are one fewer.
    intro ch beyond
    rw [made] at beyond
    have other : ch ≠ n.made := Nat.ne_of_gt beyond
    rw [calls ch other, watches ch other, chans ch other]
    exact sound.unmade ch (Nat.le_of_succ_le beyond)
  · -- The new channel is that of a call or of a watch.
    intro ch call called
    by_cases new : ch = n.made
    · subst new
      exact kind.resolve_left (by simp [called])
    · rw [calls ch new] at called
      rw [watches ch new]
      exact sound.apart ch call called
  · -- A call that waits has an old channel, which is as it was.
    intro key ch listed
    have old := Nat.ne_of_lt (sound.waits_lt (waits listed))
    rw [calls ch old, chans ch old]
    exact sound.waiting key ch (waits listed)
  · rw [waiters]
    exact sound.waiters
  · -- So has a subscriber.
    intro key ch subscribed
    have old := Nat.ne_of_lt (sound.subscribed_lt (subscribes subscribed))
    rw [watches ch old, chans ch old]
    exact sound.watching key ch (subscribes subscribed)
  · rw [deliveries]
    exact sound.single
  · -- Deliveries are on old channels, which were made before.
    intro d member
    rw [deliveries] at member
    rw [made]
    exact Nat.lt_succ_of_lt (sound.made d member)
  · intro d member key listed
    rw [deliveries] at member
    exact sound.unlisted d member key (waits listed)
  · intro d member unlocked key subscribed
    rw [deliveries] at member
    exact sound.unsubscribed d member unlocked key (subscribes subscribed)
  · intro d member
    rw [deliveries] at member
    rw [chans d.ch (Nat.ne_of_lt (sound.made d member))]
    exact sound.ready d member
  · -- The new channel holds what it was filled with.
    intro ch
    by_cases new : ch = n.made
    · subst new
      exact bounded
    · rw [chans ch new]
      exact sound.bounded ch

/-- Listing a call that waits keeps the indications sound. -/
theorem Sound.list {n : Indications} (sound : n.Sound) {key : IndicationKey} {ch : ChanID}
    (called : n.calls ch = some { key, stage := .waiting }) (fresh : n.chans ch = Chan.make 1)
    (idle : ∀ d ∈ n.deliveries, d.ch ≠ ch) (unlisted : ∀ other, ¬ n.Waits other ch)
    (owner : Option Lease) :
    Sound { n with waiters := n.waiters.set key (n.waiters.items key ++ [{ ch, owner }]) } := by
  -- The new list names the old calls and this one.
  have waits {key' : IndicationKey} {other : ChanID}
      (listed : ({ n with waiters := n.waiters.set key (n.waiters.items key ++ [{ ch, owner }]) } :
        Indications).Waits key' other) : n.Waits key' other ∨ (key' = key ∧ other = ch) := by
    simp only [Waits, GoMap.items_set] at listed
    split at listed
    · rename_i same
      subst same
      simpa [Waits] using listed
    · exact .inl listed
  refine { unmade := sound.unmade, apart := sound.apart, waiting := ?_, waiters := ?_
           watching := sound.watching, single := sound.single, made := sound.made, unlisted := ?_
           unsubscribed := sound.unsubscribed, ready := sound.ready, bounded := sound.bounded }
  · -- The new call waits on a channel that is as it was made.
    intro key' other listed
    obtain old | ⟨rfl, rfl⟩ := waits listed
    · exact sound.waiting key' other old
    · exact ⟨called, fresh⟩
  · -- It was in no list before.
    intro key'
    rw [GoMap.items_set]
    split
    · rw [List.map_append, List.nodup_append]
      refine ⟨sound.waiters key, by simp, ?_⟩
      rintro other old new inside rfl
      simp only [List.map_cons, List.map_nil, List.mem_singleton] at inside
      exact unlisted key (inside ▸ old)
    · exact sound.waiters key'
  · -- Nothing is under way on its channel.
    intro d member key' listed
    obtain old | ⟨-, same⟩ := waits listed
    · exact sound.unlisted d member key' old
    · exact idle d member same

/-- The subscribers of a key after one more. -/
theorem subsOf_subscribe (n : Indications) (key key' : IndicationKey) (ch other : ChanID)
    (owner : Option Lease) :
    (({ n with subs := n.subs.set key ((n.subsOf key).set ch owner) } : Indications).subsOf key').get other =
      if key' = key ∧ other = ch then some owner else (n.subsOf key').get other := by
  simp only [subsOf, GoMap.get_set]
  by_cases same : key' = key
  · subst same
    simp [GoMap.get_set]
  · simp [same]

/-- Subscribing a watch's channel keeps the indications sound. -/
theorem Sound.subscribe {n : Indications} (sound : n.Sound) {key : IndicationKey} {ch : ChanID}
    {watch : Watch} (watching : n.watches ch = some watch) (named : watch.key = key)
    (isOpen : (n.chans ch).closed = false) (positive : 0 < (n.chans ch).capacity)
    (idle : ∀ d ∈ n.deliveries, d.ch ≠ ch) (owner : Option Lease) :
    Sound { n with subs := n.subs.set key ((n.subsOf key).set ch owner) } := by
  -- The new sets name the old subscribers and this one.
  have subscribes {key' : IndicationKey} {other : ChanID}
      (subscribed : ({ n with subs := n.subs.set key ((n.subsOf key).set ch owner) } :
        Indications).Subscribed key' other) : n.Subscribed key' other ∨ (key' = key ∧ other = ch) := by
    obtain ⟨owner', found⟩ := subscribed
    rw [subsOf_subscribe] at found
    split at found
    · rename_i new
      exact .inr new
    · exact .inl ⟨owner', found⟩
  refine { unmade := sound.unmade, apart := sound.apart, waiting := sound.waiting
           waiters := sound.waiters, watching := ?_, single := sound.single, made := sound.made
           unlisted := sound.unlisted, unsubscribed := ?_, ready := sound.ready
           bounded := sound.bounded }
  · -- The new subscriber is a watch with an open channel.
    intro key' other subscribed
    obtain old | ⟨rfl, rfl⟩ := subscribes subscribed
    · exact sound.watching key' other old
    · exact ⟨⟨watch, watching, named⟩, isOpen, positive⟩
  · -- Nothing is under way on it.
    intro d member unlocked key' subscribed
    obtain old | ⟨-, same⟩ := subscribes subscribed
    · exact sound.unsubscribed d member unlocked key' old
    · exact idle d member same

/-- The subscribers left when one leaves. -/
theorem subsOf_unsubscribe (n : Indications) (key key' : IndicationKey) (ch other : ChanID) :
    ((n.unsubscribeIndication key ch).subsOf key').get other =
      if key' = key ∧ other = ch then none else (n.subsOf key').get other := by
  -- A key without subscribers has no set.
  cases found : n.subs.get key with
  | none =>
    simp only [unsubscribeIndication, found]
    split
    · rename_i same
      obtain ⟨rfl, rfl⟩ := same
      simp [subsOf, found]
    · rfl
  | some set =>
    -- A set that becomes empty is removed, in which nobody is found either.
    have rest : ((n.unsubscribeIndication key ch).subsOf key).get other = (set.delete ch).get other := by
      simp only [unsubscribeIndication, found]
      by_cases empty : (set.delete ch).len = 0
      · simp [subsOf, empty, GoMap.get_of_len_eq_zero empty]
      · simp [subsOf, empty]
    by_cases same : key' = key
    · subst same
      simp only [rest, GoMap.get_delete]
      simp [subsOf, found]
    · -- The sets of other keys stay.
      simp only [same, false_and, if_false, unsubscribeIndication, found]
      by_cases empty : (set.delete ch).len = 0
      · simp [subsOf, empty, GoMap.get_delete_ne _ same]
      · simp [subsOf, empty, GoMap.get_set_ne _ _ same]

/-- Taking calls and subscribers out keeps the indications sound. -/
theorem Sound.shrink {n n' : Indications} (sound : n.Sound)
    (unchanged : n' = { n with subs := n'.subs, waiters := n'.waiters })
    (subs : ∀ key ch, n'.Subscribed key ch → n.Subscribed key ch)
    (waiters : ∀ key, List.Sublist (n'.waiters.items key) (n.waiters.items key)) : n'.Sound := by
  have deliveries : n'.deliveries = n.deliveries ++ [] := by rw [unchanged, List.append_nil]
  refine sound.deliver ?_ deliveries subs waiters ?_ ?_ ?_ ?_ ?_ ?_
  · rw [deliveries, List.append_nil]
    exact unchanged
  all_goals simp

/-- A call that something was sent to, or whose channel is closed, is not listed. -/
theorem Sound.not_waits_of_ne {n : Indications} (sound : n.Sound) {ch : ChanID}
    (used : n.chans ch ≠ Chan.make 1) (key : IndicationKey) : ¬ n.Waits key ch :=
  fun waits => used (sound.waiting key ch waits).2

/-- A call that no longer waits is not listed. -/
theorem Sound.not_waits_of_call {n : Indications} (sound : n.Sound) {ch : ChanID} {call : NextCall}
    (called : n.calls ch = some call) {key : IndicationKey}
    (different : call ≠ { key, stage := .waiting }) : ¬ n.Waits key ch := by
  intro waits
  have listed := (sound.waiting key ch waits).1
  exact different (Option.some.inj (called.symm.trans listed))

/-- A channel with something to receive is not a fresh one. -/
theorem chan_ne_make {c : Chan WatchResult} {result : WatchResult} {rest : List WatchResult}
    (buffered : c.buffer = result :: rest) : c ≠ Chan.make 1 := by
  rintro rfl
  cases buffered

/-- The calls left when one is cancelled. -/
theorem Sound.not_waits_cancelled {n : Indications} (sound : n.Sound) {ch : ChanID} {key : IndicationKey}
    (called : n.calls ch = some { key, stage := .waiting }) (other : IndicationKey) :
    ch ∉ ((n.waiters.store key ((n.waiters.items key).eraseP fun waiter => waiter.ch = ch)).items other).map
      IndicationWaiter.ch := by
  intro listed
  rw [GoMap.items_store] at listed
  split at listed
  · -- The list named the call once, so that its entry is the one that was removed.
    have nodup := sound.waiters key
    obtain ⟨waiter, kept, same⟩ := List.mem_map.mp listed
    have before : waiter ∈ n.waiters.items key := List.mem_of_mem_eraseP kept
    obtain ⟨gone, front, back, -, own, whole, erased⟩ :=
      List.exists_of_eraseP before (p := fun waiter => waiter.ch = ch) (by simpa using same)
    rw [erased] at kept
    rw [whole, List.map_append, List.map_cons] at nodup
    have unique := List.nodup_middle.mp nodup
    rw [List.nodup_cons, ← List.map_append] at unique
    have named : gone.ch = ch := by simpa using own
    exact unique.1 (List.mem_map.mpr ⟨waiter, kept, same.trans named.symm⟩)
  · -- In the lists of other keys it never stood.
    rename_i different
    exact sound.not_waits_of_call called (by simp [Ne.symm different]) listed

/-- Every step keeps the indications sound. -/
theorem Sound.step {n n' : Indications} {e : IndicationEvent} (sound : n.Sound) (moves : n.Step e n') :
    n'.Sound := by
  have fresh := sound.unmade n.made (Nat.le_refl _)
  have idle (d : Delivery) (member : d ∈ n.deliveries) : d.ch ≠ n.made := Nat.ne_of_lt (sound.made d member)
  cases moves with
  -- The call has its result, and a channel that nobody uses.
  | queued free queue =>
    refine sound.grow rfl rfl rfl rfl ?_ (fun _ _ => rfl) (fun _ _ => rfl) (.inr fresh.2.1) ?_
    · exact fun ch other => Function.update_of_ne other _ _
    · simp [fresh.2.2]
  | @waits key owner free empty =>
    -- The call gets a new channel, and then its place in the list.
    have grown : Sound { (n.setCall n.made { key, stage := .waiting }).setChan n.made (Chan.make 1) with
        made := n.made + 1 } := by
      refine sound.grow rfl rfl rfl rfl ?_ (fun _ _ => rfl) ?_ (.inr fresh.2.1) ?_
      · exact fun ch other => Function.update_of_ne other _ _
      · exact fun ch other => Function.update_of_ne other _ _
      · simp
    refine grown.list ?_ ?_ idle ?_ owner
    · simp
    · simp
    · intro other waits
      exact Nat.lt_irrefl _ (sound.waits_lt waits)
  | @subscribes key owner chan free filled =>
    -- The queue fits the channel, which is made with room for all of it.
    obtain ⟨shape, bounded⟩ := Chan.eq_of_sendAll? filled (Nat.zero_le _)
    have grown : Sound { (n.setWatch n.made { key, subscribed := true }).setChan n.made chan with
        indications := n.indications.delete key, made := n.made + 1 } := by
      refine sound.grow rfl rfl rfl rfl (fun _ _ => rfl) ?_ ?_ (.inl fresh.1) ?_
      · exact fun ch other => Function.update_of_ne other _ _
      · exact fun ch other => Function.update_of_ne other _ _
      · simpa using bounded
    refine grown.subscribe (Function.update_self _ _ _) rfl ?_ ?_ idle owner
    · simp [shape]
    · simp [shape, maxQueuedIndications]
  | @subscribesStopped key err free =>
    refine sound.grow rfl rfl rfl rfl (fun _ _ => rfl) ?_ ?_ (.inl fresh.1) ?_
    · exact fun ch other => Function.update_of_ne other _ _
    · exact fun ch other => Function.update_of_ne other _ _
    · simp
  -- The queues are no part of what is to be kept.
  | queues free nobody unsubscribed => exact sound.setQueues _
  | publishes free someone taken => exact sound.publishes free _ taken
  | stops free =>
    exact sound.releases free (n.stopReceiver_releases _) (stopSubscriber_toSub _) (stopWaiter_toWait _)
  | closesLease free =>
    exact sound.releases free (n.closeLease_releases _) closeSubscriber_toSub closeWaiter_toWait
  | clears free => exact sound.setQueues _
  | performs member advanced =>
    exact sound.perform member (advances_of_eq (sound.ready _ member) advanced)
  | takes called buffered =>
    -- What was in the channel shows that the call does not wait in a list.
    have moved := sound.setCall called (sound.not_waits_of_ne (chan_ne_make buffered))
    exact (moved _).pop (by simp [buffered])
  | takesClosed called empty closed =>
    -- So does its being closed.
    refine sound.setCall called (sound.not_waits_of_ne ?_) _
    intro fresh
    simp [fresh] at closed
  | @cancelsListed ch key cause free called listed =>
    -- The call is taken from its list before it goes on.
    have shrunk : Sound
        { n with
          waiters := n.waiters.store key ((n.waiters.items key).eraseP fun waiter => waiter.ch = ch) } := by
      refine sound.shrink rfl (fun _ _ subscribed => subscribed) fun other => ?_
      rw [GoMap.items_store]
      split
      · rename_i same
        rw [same]
        exact List.eraseP_sublist
      · exact List.Sublist.refl _
    exact shrunk.setCall called (fun other => sound.not_waits_cancelled called other) _
  | cancelsLate free called unlisted =>
    refine sound.setCall called (fun other waits => ?_) _
    -- The call is not in the list, and its key is the only one where it could be.
    have listed := (sound.waiting other _ waits).1
    rw [called] at listed
    cases listed
    exact unlisted waits
  | polls called buffered =>
    have moved := sound.setCall called (sound.not_waits_of_ne (chan_ne_make buffered))
    exact (moved _).pop (by simp [buffered])
  | pollsEmpty called empty =>
    exact sound.setCall called (fun other => sound.not_waits_of_call called (by simp)) _
  | @forwards ch watch result rest watching looping buffered =>
    have moved : (n.setWatch ch { watch with stage := .holding (wrapResult watch.key result) }).Sound :=
      sound.setWatch watching rfl
    exact moved.pop (by simp [buffered])
  | forwardsClosed watching looping empty closed => exact sound.setWatch watching rfl
  | @unsubscribes ch watch free watching leaving =>
    -- The watch leaves the set of its key.
    have shrunk : (n.unsubscribeIndication watch.key ch).Sound := by
      refine sound.shrink ?_ ?_ ?_
      · unfold unsubscribeIndication
        cases n.subs.get watch.key <;> rfl
      · rintro key other ⟨owner, found⟩
        rw [subsOf_unsubscribe] at found
        split at found
        · cases found
        · exact ⟨owner, found⟩
      · simp
    exact shrunk.setWatch (show _ = some watch by simpa using watching) rfl
  | moves kind watching moved => exact sound.setWatch watching moved.key_eq

/-- Every delivery under way gets on, so no send blocks. -/
theorem Sound.perform_accepted {n : Indications} (sound : n.Sound) {d : Delivery} (member : d ∈ n.deliveries) :
    (n.step (.perform d)).isSome := by
  simpa [Indications.step, Indications.perform, member] using (sound.ready d member).advance_isSome

/-- The indications are sound in every run. -/
theorem sound_of_runs {trace : List (Indications × IndicationEvent)} {n : Indications}
    (run : Mbim.indications.Runs trace n) : n.Sound :=
  run.stateInvariant sound_init fun _ _ _ sound accepted => sound.step (step_of_eq accepted)

end Indications

end Wwan.Mbim
