import Wwan.Proofs.Mbim.Indications

/-! What is sent on each channel of the indications, and what ends it. -/

namespace Wwan.Mbim

/-- A value, not an error. -/
def WatchResult.isValue : WatchResult → Bool
  | .value _ => true
  | .failed _ => false

/-- The indications among results. -/
def valuesOf (results : List WatchResult) : List Indication :=
  -- An error carries no indication.
  results.filterMap fun
    | .value indication => some indication
    | .failed _ => none

/-- Results without an error. -/
def Running (results : List WatchResult) : Prop := ∀ result ∈ results, result.isValue = true

/-- Results in which an error can only be the last. -/
def Final (results : List WatchResult) : Prop := Running results.dropLast

/-- The results that deliveries still have to put on a channel. -/
def pendingOn (deliveries : List Delivery) (ch : ChanID) : List WatchResult :=
  -- A delivery that only has to close its channel has delivered.
  (deliveries.filter fun d => d.ch = ch && d.phase ≠ .close).map Delivery.result

/-- Deliveries add up. -/
theorem pendingOn_append (first second : List Delivery) (ch : ChanID) :
    pendingOn (first ++ second) ch = pendingOn first ch ++ pendingOn second ch := by
  simp [pendingOn]

/-- Deliveries to other channels put nothing on this one. -/
theorem pendingOn_eq_nil {deliveries : List Delivery} {ch : ChanID}
    (others : ∀ d ∈ deliveries, d.ch ≠ ch) : pendingOn deliveries ch = [] := by
  -- No delivery passes the test for the channel.
  simp only [pendingOn, List.map_eq_nil_iff, List.filter_eq_nil_iff]
  intro d member
  simp [others d member]

/-- The only delivery to a channel is what it still has to be sent. -/
theorem pendingOn_of_mem {deliveries : List Delivery} (single : (deliveries.map Delivery.ch).Nodup)
    {d : Delivery} (member : d ∈ deliveries) :
    pendingOn deliveries d.ch = if d.phase = .close then [] else [d.result] := by
  -- Around the delivery, every other one is to another channel.
  obtain ⟨before, after, rfl⟩ := List.append_of_mem member
  rw [List.map_append, List.map_cons, List.nodup_middle, List.nodup_cons] at single
  have front : pendingOn before d.ch = [] := by
    apply pendingOn_eq_nil
    intro other inside same
    exact single.1 (List.mem_append_left _ (same ▸ List.mem_map_of_mem inside))
  have back : pendingOn after d.ch = [] := by
    apply pendingOn_eq_nil
    intro other inside same
    exact single.1 (List.mem_append_right _ (same ▸ List.mem_map_of_mem inside))
  have split : before ++ d :: after = before ++ ([d] ++ after) := rfl
  rw [split, pendingOn_append, pendingOn_append, front, back]
  by_cases closing : d.phase = .close <;> simp [pendingOn, closing]

/-- Results that stay without an error after one more. -/
theorem running_append {first second : List WatchResult} :
    Running (first ++ second) ↔ Running first ∧ Running second := by
  simp only [Running, List.mem_append]
  constructor
  · intro all
    exact ⟨fun r inside => all r (.inl inside), fun r inside => all r (.inr inside)⟩
  · rintro ⟨one, two⟩ r (inside | inside)
    · exact one r inside
    · exact two r inside

/-- A run of values may end with anything. -/
theorem Running.final_append {results : List WatchResult} (running : Running results)
    (last : WatchResult) : Final (results ++ [last]) := by
  simpa [Final] using running

/-- Values alone are final as well. -/
theorem Running.final {results : List WatchResult} (running : Running results) : Final results :=
  fun result inside => running result (List.dropLast_subset _ inside)

/-- What precedes another result is without an error. -/
theorem Final.running_of_append {first second : List WatchResult} (final : Final (first ++ second))
    (more : second ≠ []) : Running first := by
  -- Dropping the last result of the whole leaves all of the first part.
  rw [Final, List.dropLast_append_of_ne_nil more, running_append] at final
  exact final.1

/-- Fewer results are final as well. -/
theorem Final.sublist {fewer results : List WatchResult} (final : Final results)
    (sub : List.Sublist fewer results) : Final fewer := by
  -- Dropping the last result is taking the tail of the reversed list.
  have dropped : List.Sublist fewer.dropLast results.dropLast := by
    have tails := sub.reverse.tail
    rw [List.tail_reverse, List.tail_reverse] at tails
    exact List.reverse_sublist.mp tails
  exact fun result inside => final result (dropped.subset inside)

/-- An error among final results is the last of them. -/
theorem Final.getLast_eq {results : List WatchResult} (final : Final results) {err : Error}
    (failed : .failed err ∈ results) : results.getLast? = some (.failed err) := by
  rcases List.eq_nil_or_concat' results with rfl | ⟨front, last, rfl⟩
  · cases failed
  · rw [List.getLast?_concat]
    rcases List.mem_append.mp failed with before | now
    · -- Before the last there are values only.
      rw [Final, List.dropLast_concat] at final
      exact absurd (final _ before) (by simp [WatchResult.isValue])
    · rw [List.mem_singleton.mp now]

/-- A mapped list of indications is without an error. -/
theorem running_values (indications : List Indication) : Running (indications.map .value) := by
  intro result inside
  obtain ⟨_, _, rfl⟩ := List.mem_map.mp inside
  rfl

namespace Indications

/-- Everything sent on a channel, with what a delivery is about to send. -/
def stream (n : Indications) (ch : ChanID) : List WatchResult :=
  (n.chans ch).sent ++ pendingOn n.deliveries ch

/-- A channel that is subscribed to some key, or on which a call waits. -/
def Listed (n : Indications) (ch : ChanID) : Prop := ∃ key, n.Subscribed key ch ∨ n.Waits key ch

/-- One statement of a delivery leaves every stream as it is. -/
theorem Sound.stream_perform {n : Indications} (sound : n.Sound) {d : Delivery}
    {chan : Chan WatchResult} {phase : Option Phase} (member : d ∈ n.deliveries)
    (advances : Advances d (n.chans d.ch) chan phase) (ch : ChanID) :
    stream { n.setChan d.ch chan with
      deliveries := n.deliveries.erase d ++ (phase.map fun phase => { d with phase }).toList } ch =
      n.stream ch := by
  simp only [stream, setChan_chans, pendingOn_append]
  by_cases same : ch = d.ch
  · subst same
    -- The delivery is the only one to its channel, so what is left is its own next phase.
    have others : pendingOn (n.deliveries.erase d) d.ch = [] :=
      pendingOn_eq_nil fun x left => sound.erase_ne member left
    rw [others, pendingOn_of_mem sound.single member, Function.update_self]
    -- What is put into the channel was on its way before.
    cases advances with
    | pushes sends room =>
      rw [if_neg sends]
      unfold Delivery.afterwards
      split <;> simp [pendingOn]
    | full offers => simp [pendingOn, offers]
    | drains drains => simp [pendingOn, drains]
    | closes closes => simp [pendingOn, closes]
  · -- On every other channel neither the values nor the deliveries change.
    have next : pendingOn (phase.map fun phase => { d with phase }).toList ch = [] := by
      apply pendingOn_eq_nil
      intro x inside
      obtain ⟨_, -, rfl⟩ := Option.map_eq_some_iff.mp (Option.mem_toList.mp inside)
      exact Ne.symm same
    have rest : pendingOn (n.deliveries.erase d) ch = pendingOn n.deliveries ch := by
      obtain ⟨before, after, -, whole, erased⟩ := List.exists_erase_eq member
      have split : before ++ d :: after = before ++ ([d] ++ after) := rfl
      have none : pendingOn [d] ch = [] := pendingOn_eq_nil (by simpa using Ne.symm same)
      rw [erased, whole, split, pendingOn_append, pendingOn_append, pendingOn_append, none,
        List.nil_append]
    rw [next, rest, Function.update_of_ne same, List.append_nil]

/-- Received values stay in the stream. -/
theorem stream_pop (n : Indications) (ch other : ChanID) :
    (n.setChan ch (n.chans ch).pop).stream other = n.stream other := by
  simp only [stream, setChan_chans, setChan_deliveries]
  by_cases same : other = ch
  · subst same
    simp
  · rw [Function.update_of_ne same]

/-- A subscriber was one before the step, or is subscribed by it. -/
theorem subs_step {n n' : Indications} {e : IndicationEvent} (moves : n.Step e n') {key : IndicationKey}
    {ch : ChanID} {owner : Option Lease} (found : (n'.subsOf key).get ch = some owner) :
    (n.subsOf key).get ch = some owner ∨ (e = .subscribeIndication key owner ∧ ch = n.made) := by
  -- Only subscribing adds to the subscriptions.
  cases moves with
  | @subscribes key' owner' chan free filled =>
    -- The subscriber is the new one, or was there.
    have shape := n.subsOf_subscribe key' key n.made ch owner'
    have found' : (if key = key' ∧ ch = n.made then some owner' else (n.subsOf key).get ch) = some owner :=
      shape.symm.trans found
    split at found'
    · rename_i new
      cases found'
      exact .inr ⟨by rw [new.1], new.2⟩
    · exact .inl found'
  -- Releasing and unsubscribing only take away.
  | stops free =>
    rw [(n.stopReceiver_releases _).subs, Option.filter_eq_some_iff] at found
    exact .inl found.1
  | closesLease free =>
    rw [(n.closeLease_releases _).subs, Option.filter_eq_some_iff] at found
    exact .inl found.1
  | @unsubscribes ch' watch free watching leaving =>
    have left := n.subsOf_unsubscribe watch.key key ch' ch
    have found' : (if key = watch.key ∧ ch = ch' then none else (n.subsOf key).get ch) = some owner :=
      left.symm.trans found
    split at found'
    · cases found'
    · exact .inl found'
  | _ => exact .inl found

/-- A waiting call waited before the step, or is made by it. -/
theorem waiters_step {n n' : Indications} {e : IndicationEvent} (moves : n.Step e n')
    {key : IndicationKey} {waiter : IndicationWaiter} (listed : waiter ∈ n'.waiters.items key) :
    waiter ∈ n.waiters.items key ∨ (e = .nextIndication key waiter.owner ∧ waiter.ch = n.made) := by
  -- Only a call that finds no indication adds to the waiting calls.
  cases moves with
  | @waits key' owner free empty =>
    -- The call that waits is the new one, or was there.
    simp only [GoMap.items_set] at listed
    split at listed
    · rename_i same
      subst same
      rcases List.mem_append.mp listed with old | new
      · exact .inl old
      · rw [List.mem_singleton] at new
        subst new
        exact .inr ⟨rfl, rfl⟩
    · exact .inl listed
  -- Publishing, releasing and cancelling only take away.
  | publishes free someone taken =>
    simp only [taken] at listed
    split at listed
    · exact .inl (List.mem_of_mem_tail listed)
    · exact .inl listed
  | stops free =>
    rw [(n.stopReceiver_releases _).waiters] at listed
    exact .inl (List.mem_of_mem_filter listed)
  | closesLease free =>
    rw [(n.closeLease_releases _).waiters] at listed
    exact .inl (List.mem_of_mem_filter listed)
  | cancelsListed free called waits =>
    simp only [GoMap.items_store] at listed
    split at listed
    · rename_i same
      subst same
      exact .inl (List.mem_of_mem_eraseP listed)
    · exact .inl listed
  | unsubscribes free watching leaving =>
    simp only [setWatch_waiters, unsubscribeIndication_frame] at listed
    exact .inl listed
  | _ => exact .inl listed

/-- A channel that is not listed never is again. -/
theorem listed_step {n n' : Indications} {e : IndicationEvent} (moves : n.Step e n') {ch : ChanID}
    (old : ch < n.made) (listed : n'.Listed ch) : n.Listed ch := by
  -- What the step adds has a new identity.
  obtain ⟨key, ⟨owner, found⟩ | waits⟩ := listed
  · rcases subs_step moves found with before | ⟨-, new⟩
    · exact ⟨key, .inl ⟨owner, before⟩⟩
    · exact absurd old (new ▸ Nat.lt_irrefl _)
  · obtain ⟨waiter, inside, rfl⟩ := List.mem_map.mp waits
    rcases waiters_step moves inside with before | ⟨-, new⟩
    · exact ⟨key, .inr (List.mem_map_of_mem before)⟩
    · exact absurd old (new ▸ Nat.lt_irrefl _)

/-- A channel of one of the owners that go. -/
def Goes (n : Indications) (gone : Option Lease → Bool) (ch : ChanID) : Prop :=
  (∃ key owner, (n.subsOf key).get ch = some owner ∧ gone owner = true) ∨
    ∃ key waiter, waiter ∈ n.waiters.items key ∧ waiter.ch = ch ∧ gone waiter.owner = true

/-- Who goes was listed. -/
theorem Goes.listed {n : Indications} {gone : Option Lease → Bool} {ch : ChanID} (goes : n.Goes gone ch) :
    n.Listed ch := by
  obtain ⟨key, owner, found, -⟩ | ⟨key, waiter, inside, rfl, -⟩ := goes
  · exact ⟨key, .inl ⟨owner, found⟩⟩
  · exact ⟨key, .inr (List.mem_map_of_mem inside)⟩

/-- Who goes is given the last result and is no longer listed; nobody else is given anything. -/
theorem Sound.stream_releases {n n' : Indications} (sound : n.Sound) {gone : Option Lease → Bool}
    {toSub : ChanID → Delivery} {toWait : IndicationWaiter → Delivery} {result : WatchResult}
    (released : Releases n n' gone toSub toWait) (sub : ToSub toSub) (wait : ToWait toWait)
    (subResult : ∀ ch, (toSub ch).result = result) (waitResult : ∀ waiter, (toWait waiter).result = result)
    (ch : ChanID) :
    (n.Goes gone ch → n'.stream ch = n.stream ch ++ [result] ∧ ¬ n'.Listed ch) ∧
      (¬ n.Goes gone ch → n'.stream ch = n.stream ch) := by
  have chans : n'.chans = n.chans := by rw [released.unchanged]
  have single := sound.releaseList_nodup gone sub.ch wait.ch
  -- What is delivered to the channel comes behind what was there.
  have grows : n'.stream ch = n.stream ch ++ pendingOn (n.releaseList gone toSub toWait) ch := by
    rw [stream, stream, chans, released.deliveries, pendingOn_append, List.append_assoc]
  constructor
  · intro goes
    -- One delivery of the list is to the channel, and it has not been made.
    have delivery : ∃ d ∈ n.releaseList gone toSub toWait, d.ch = ch ∧ d.phase ≠ .close ∧ d.result = result := by
      obtain ⟨key, owner, found, leaves⟩ | ⟨key, waiter, inside, rfl, leaves⟩ := goes
      · refine ⟨toSub ch, mem_releaseList.mpr (.inl ⟨key, ch, owner, found, leaves, rfl⟩), sub.ch ch, ?_, subResult ch⟩
        simp [sub.phase]
      · refine ⟨toWait waiter, mem_releaseList.mpr (.inr ⟨key, waiter, inside, leaves, rfl⟩), wait.ch waiter, ?_,
          waitResult waiter⟩
        rcases wait.phase waiter with sends | offers
        · simp [sends]
        · simp [offers]
    obtain ⟨d, member, rfl, sends, rfl⟩ := delivery
    refine ⟨by rw [grows, pendingOn_of_mem single member, if_neg sends], ?_⟩
    -- The entry that went was the only one of the channel.
    rintro ⟨key', ⟨owner', still⟩ | still⟩
    · -- It would still be subscribed.
      rw [released.subs, Option.filter_eq_some_iff] at still
      obtain ⟨key, owner, found, leaves⟩ | ⟨key, waiter, inside, same, leaves⟩ := goes
      · obtain rfl := sound.subscribed_key ⟨owner, found⟩ ⟨owner', still.1⟩
        cases found.symm.trans still.1
        simp [leaves] at still
      · have waits : n.Waits key d.ch := same ▸ List.mem_map_of_mem inside
        exact sound.not_waits ⟨owner', still.1⟩ waits
    · -- It would still wait.
      obtain ⟨other, kept, same⟩ := List.mem_map.mp still
      rw [released.waiters, List.mem_filter] at kept
      have waits : n.Waits key' d.ch := same ▸ List.mem_map_of_mem kept.1
      obtain ⟨key, owner, found, leaves⟩ | ⟨key, waiter, inside, named, leaves⟩ := goes
      · exact sound.not_waits ⟨owner, found⟩ waits
      · have waits' : n.Waits key d.ch := named ▸ List.mem_map_of_mem inside
        obtain rfl := sound.waits_key waits' waits
        obtain rfl := List.inj_on_of_nodup_map (sound.waiters key) kept.1 inside (same.trans named.symm)
        simp [leaves] at kept
  · intro stays
    -- No delivery of the list is to the channel.
    have none : pendingOn (n.releaseList gone toSub toWait) ch = [] := by
      apply pendingOn_eq_nil
      intro d member same
      rcases mem_releaseList.mp member with ⟨key, ch', owner, found, leaves, rfl⟩ | ⟨key, waiter, inside, leaves, rfl⟩
      · rw [sub.ch] at same
        subst same
        exact stays (.inl ⟨key, owner, found, leaves⟩)
      · rw [wait.ch] at same
        exact stays (.inr ⟨key, waiter, inside, same, leaves⟩)
    rw [grows, none, List.append_nil]

/-- Publishing gives the indication to the subscribers of its key and to its first waiting call. -/
theorem Sound.stream_publishes {n : Indications} (sound : n.Sound) (free : n.locked = false)
    (indication : Indication) {waiters : GoMap IndicationKey (List IndicationWaiter)}
    (taken : ∀ key, waiters.items key =
      if key = indication.key then (n.waiters.items key).tail else n.waiters.items key) (ch : ChanID) :
    (∀ d ∈ n.publications indication, d.ch = ch →
      stream { n with waiters, deliveries := n.deliveries ++ n.publications indication } ch =
        n.stream ch ++ [.value indication]) ∧
    ((∀ d ∈ n.publications indication, d.ch ≠ ch) →
      stream { n with waiters, deliveries := n.deliveries ++ n.publications indication } ch =
        n.stream ch) := by
  have grows : stream { n with waiters, deliveries := n.deliveries ++ n.publications indication } ch =
      n.stream ch ++ pendingOn (n.publications indication) ch := by
    rw [stream, stream, pendingOn_append, List.append_assoc]
  rw [grows]
  constructor
  · rintro d member rfl
    -- The deliveries of one publication are to different channels.
    have whole := (sound.publishes free indication taken).single
    rw [List.map_append, List.nodup_append] at whole
    rw [pendingOn_of_mem whole.2.1 member]
    rcases mem_publications.mp member with ⟨_, -, rfl⟩ | ⟨_, _, -, rfl⟩ <;> rfl
  · intro others
    rw [pendingOn_eq_nil others, List.append_nil]

/-- What ends the stream of a channel, and with which error. -/
def Ends (n : Indications) (e : IndicationEvent) (ch : ChanID) (err : Error) : Prop :=
  (e = .stopReceiver err ∧ n.Listed ch) ∨
    ∃ lease, e = .closeLease lease ∧ err = errClientLeaseClosed ∧
      n.Goes (fun owner => owner = some lease) ch

/-- When everyone goes, everyone listed does. -/
theorem goes_all {n : Indications} {ch : ChanID} (listed : n.Listed ch) : n.Goes (fun _ => true) ch := by
  obtain ⟨key, ⟨owner, found⟩ | waits⟩ := listed
  · exact .inl ⟨key, owner, found, rfl⟩
  · obtain ⟨waiter, inside, same⟩ := List.mem_map.mp waits
    exact .inr ⟨key, waiter, inside, same, rfl⟩

/-- A stream that ends is given its error, and its channel is no longer listed. -/
theorem Sound.stream_ends {n n' : Indications} {e : IndicationEvent} (sound : n.Sound)
    (moves : n.Step e n') {ch : ChanID} {err : Error} (ends : n.Ends e ch err) :
    n'.stream ch = n.stream ch ++ [.failed err] ∧ ¬ n'.Listed ch := by
  obtain ⟨rfl, listed⟩ | ⟨lease, rfl, rfl, goes⟩ := ends
  · cases moves with
    | stops free =>
      exact (sound.stream_releases (n.stopReceiver_releases _) (stopSubscriber_toSub _) (stopWaiter_toWait _)
        (fun _ => rfl) (fun _ => rfl) ch).1 (goes_all listed)
    | moves kind => cases kind
  · cases moves with
    | closesLease free =>
      exact (sound.stream_releases (n.closeLease_releases _) closeSubscriber_toSub closeWaiter_toWait
        (fun _ => rfl) (fun _ => rfl) ch).1 goes
    | moves kind => cases kind

/-- The first call that waits for an indication of a key. -/
def First (n : Indications) (key : IndicationKey) (ch : ChanID) : Prop :=
  ∃ waiter rest, n.waiters.items key = waiter :: rest ∧ waiter.ch = ch

/-- The first call waits. -/
theorem First.waits {n : Indications} {key : IndicationKey} {ch : ChanID} (first : n.First key ch) :
    n.Waits key ch := by
  obtain ⟨waiter, rest, waiting, rfl⟩ := first
  rw [Waits, waiting]
  exact List.mem_cons_self

/-- The stream of a channel only grows by a publication or by what ends it. -/
theorem Sound.stream_step {n n' : Indications} {e : IndicationEvent} (sound : n.Sound)
    (moves : n.Step e n') {ch : ChanID} (old : ch < n.made) :
    n'.stream ch = n.stream ch ∨
      (∃ indication, e = .publishIndication indication ∧
        (n.Subscribed indication.key ch ∨ n.First indication.key ch) ∧
        n'.stream ch = n.stream ch ++ [.value indication]) ∨
      ∃ err, n.Ends e ch err := by
  have other : ch ≠ n.made := Nat.ne_of_lt old
  -- A channel that is not new changes only by deliveries.
  cases moves with
  | waits free empty => exact .inl (by simp [stream, Function.update_of_ne other])
  | subscribes free filled => exact .inl (by simp [stream, Function.update_of_ne other])
  | subscribesStopped free => exact .inl (by simp [stream, Function.update_of_ne other])
  | @publishes indication waiters free someone taken =>
    -- A publication reaches the subscribers and the first waiter of its key, and no other channel.
    by_cases given : ∃ d ∈ n.publications indication, d.ch = ch
    · obtain ⟨d, member, same⟩ := given
      refine .inr (.inl ⟨indication, rfl, ?_, (sound.stream_publishes free indication taken ch).1 d member same⟩)
      rcases mem_publications.mp member with ⟨_, subscribed, rfl⟩ | ⟨waiter, rest, waiting, rfl⟩
      · exact .inl (same ▸ subscribed)
      · exact .inr ⟨waiter, rest, waiting, same⟩
    · refine .inl ((sound.stream_publishes free indication taken ch).2 fun d member same => ?_)
      exact given ⟨d, member, same⟩
  | @stops err free =>
    -- Stopping ends the streams of all listed channels.
    by_cases listed : n.Listed ch
    · exact .inr (.inr ⟨err, .inl ⟨rfl, listed⟩⟩)
    · exact .inl ((sound.stream_releases (n.stopReceiver_releases _) (stopSubscriber_toSub _)
        (stopWaiter_toWait _) (fun _ => rfl) (fun _ => rfl) ch).2 fun goes => listed goes.listed)
  | @closesLease lease free =>
    -- Closing a lease ends the streams of its own channels.
    by_cases goes : n.Goes (fun owner => owner = some lease) ch
    · exact .inr (.inr ⟨errClientLeaseClosed, .inr ⟨lease, rfl, rfl, goes⟩⟩)
    · exact .inl ((sound.stream_releases (n.closeLease_releases _) closeSubscriber_toSub
        closeWaiter_toWait (fun _ => rfl) (fun _ => rfl) ch).2 goes)
  | performs member advanced =>
    -- A delivery and a receive move results along, which the stream as a whole does not see.
    exact .inl (sound.stream_perform member (advances_of_eq (sound.ready _ member) advanced) ch)
  | takes called buffered => exact .inl (stream_pop (n.setCall _ _) _ ch)
  | polls called buffered => exact .inl (stream_pop (n.setCall _ _) _ ch)
  | forwards watching looping buffered => exact .inl (stream_pop (n.setWatch _ _) _ ch)
  | @unsubscribes ch' watch free watching leaving =>
    refine .inl ?_
    unfold unsubscribeIndication
    cases n.subs.get watch.key <;> rfl
  | _ => exact .inl rfl

/-- Nothing is sent on a channel before it is made. -/
theorem Sound.stream_unmade {n : Indications} (sound : n.Sound) {ch : ChanID} (beyond : n.made ≤ ch) :
    n.stream ch = [] := by
  rw [stream, (sound.unmade ch beyond).2.2]
  apply pendingOn_eq_nil
  intro d member same
  exact absurd (sound.made d member) (same ▸ Nat.not_lt.mpr beyond)

/-- A new channel starts with the queue, or with nothing. -/
inductive Starts (n : Indications) : IndicationEvent → List WatchResult → Prop where
  | called {key : IndicationKey} {owner : Option Lease} : Starts n (.nextIndication key owner) []
  | subscribed {key : IndicationKey} {owner : Option Lease} :
      Starts n (.subscribeIndication key owner) ((n.indications.items key).map .value)
  | stopped {key : IndicationKey} {err : Error} :
      Starts n (.subscribeStopped key err) ((n.indications.items key).map .value ++ [.failed err])

/-- A step makes at most one channel, and that one starts with the queue or with nothing. -/
theorem Sound.made_step {n n' : Indications} {e : IndicationEvent} (sound : n.Sound)
    (moves : n.Step e n') :
    n'.made = n.made ∨ (n'.made = n.made + 1 ∧ n.Starts e (n'.stream n.made)) := by
  -- Nothing has been sent on the channel to be made, and nothing is on its way to it.
  have fresh := (sound.unmade n.made (Nat.le_refl _)).2.2
  have none : pendingOn n.deliveries n.made = [] :=
    pendingOn_eq_nil fun d member => Nat.ne_of_lt (sound.made d member)
  cases moves with
  | queued free queue =>
    refine .inr ⟨rfl, ?_⟩
    simpa [stream, none, fresh] using Starts.called
  | waits free empty =>
    refine .inr ⟨rfl, ?_⟩
    simpa [stream, none] using Starts.called
  | subscribes free filled =>
    obtain ⟨shape, -⟩ := Chan.eq_of_sendAll? filled (Nat.zero_le _)
    refine .inr ⟨rfl, ?_⟩
    simpa [stream, none, shape] using Starts.subscribed
  | subscribesStopped free =>
    refine .inr ⟨rfl, ?_⟩
    simpa [stream, none] using Starts.stopped
  | @unsubscribes ch' watch free watching leaving =>
    -- Leaving makes no channel.
    refine .inl ?_
    unfold unsubscribeIndication
    cases n.subs.get watch.key <;> rfl
  | _ => exact .inl rfl

/-- Errors only end streams. -/
structure Ordered (n : Indications) : Prop where
  final : ∀ ch, Final (n.stream ch)
  running : ∀ ch, n.Listed ch → Running (n.stream ch)
  /-- Whoever has left the lock delivers an error. -/
  unlocked : ∀ d ∈ n.deliveries, d.locked = false → d.result.isValue = false
  closing : ∀ d ∈ n.deliveries, d.phase = .close → ¬ Running (n.chans d.ch).sent
  closed : ∀ ch, (n.chans ch).closed = true → ¬ Running (n.chans ch).sent

/-- The streams of a new client. -/
theorem ordered_init : Ordered {} where
  final := fun _ => by simp [stream, pendingOn, Final, Running]
  running := fun _ _ => by simp [stream, pendingOn, Running]
  unlocked := by simp
  closing := by simp
  closed := by simp

/-- Nothing is ever taken back from what was sent on a channel. -/
theorem Sound.sent_step {n n' : Indications} {e : IndicationEvent} (sound : n.Sound)
    (moves : n.Step e n') {ch : ChanID} (old : ch < n.made) :
    ∃ more, (n'.chans ch).sent = (n.chans ch).sent ++ more := by
  have other : ch ≠ n.made := Nat.ne_of_lt old
  -- Receiving leaves the history alone, and a delivery at most adds to it.
  have popped (received : ChanID) :
      (Function.update n.chans received (n.chans received).pop ch).sent = (n.chans ch).sent := by
    by_cases same : ch = received
    · subst same
      simp
    · rw [Function.update_of_ne same]
  cases moves with
  -- The other channels do not see a new one.
  | waits free empty => exact ⟨[], by simp [Function.update_of_ne other]⟩
  | subscribes free filled => exact ⟨[], by simp [Function.update_of_ne other]⟩
  | subscribesStopped free => exact ⟨[], by simp [Function.update_of_ne other]⟩
  | @performs d chan phase member advanced =>
    -- Only a push adds to the history, and only to that of its own channel.
    by_cases same : ch = d.ch
    · subst same
      simp only [setChan_chans, Function.update_self]
      cases advances_of_eq (sound.ready _ member) advanced with
      | pushes sends room => exact ⟨[d.result], rfl⟩
      | full offers => exact ⟨[], by simp⟩
      | drains drains => exact ⟨[], by simp⟩
      | closes closes => exact ⟨[], by simp⟩
    · exact ⟨[], by simp [Function.update_of_ne same]⟩
  | takes called buffered => exact ⟨[], (popped _).trans (List.append_nil _).symm⟩
  | polls called buffered => exact ⟨[], (popped _).trans (List.append_nil _).symm⟩
  | forwards watching looping buffered => exact ⟨[], (popped _).trans (List.append_nil _).symm⟩
  | @unsubscribes ch' watch free watching leaving =>
    refine ⟨[], ?_⟩
    rw [List.append_nil]
    unfold unsubscribeIndication
    cases n.subs.get watch.key <;> rfl
  | _ => exact ⟨[], (List.append_nil _).symm⟩

/-- An error on a channel stays on it. -/
theorem Sound.failed_step {n n' : Indications} {e : IndicationEvent} (sound : n.Sound)
    (moves : n.Step e n') {ch : ChanID} (old : ch < n.made) (failed : ¬ Running (n.chans ch).sent) :
    ¬ Running (n'.chans ch).sent := by
  obtain ⟨more, grown⟩ := sound.sent_step moves old
  rw [grown, running_append]
  exact fun running => failed running.1

/-- Where a delivery comes from. -/
theorem Sound.deliveries_step {n n' : Indications} {e : IndicationEvent} (sound : n.Sound)
    (moves : n.Step e n') {d : Delivery} (member : d ∈ n'.deliveries) :
    d ∈ n.deliveries ∨
      (∃ d₀ ∈ n.deliveries, ∃ phase, d = { d₀ with phase } ∧
        Advances d₀ (n.chans d₀.ch) (n'.chans d₀.ch) (some phase)) ∨
      (d.phase ≠ .close ∧ (d.locked = true ∨ d.result.isValue = false)) := by
  -- A list of releases holds errors that are still to be delivered.
  have release {gone : Option Lease → Bool} {toSub : ChanID → Delivery}
      {toWait : IndicationWaiter → Delivery} (sub : ToSub toSub) (wait : ToWait toWait)
      (subFails : ∀ ch, (toSub ch).result.isValue = false)
      (waitFails : ∀ waiter, (toWait waiter).result.isValue = false)
      (added : d ∈ n.releaseList gone toSub toWait) :
      d.phase ≠ .close ∧ (d.locked = true ∨ d.result.isValue = false) := by
    rcases mem_releaseList.mp added with ⟨_, ch, _, -, -, rfl⟩ | ⟨_, waiter, -, -, rfl⟩
    · exact ⟨by simp [sub.phase], .inr (subFails ch)⟩
    · refine ⟨?_, .inr (waitFails waiter)⟩
      rcases wait.phase waiter with sends | offers
      · simp [sends]
      · simp [offers]
  cases moves with
  -- A publication is delivered under the lock.
  | publishes free someone taken =>
    rcases List.mem_append.mp member with before | added
    · exact .inl before
    · refine .inr (.inr ?_)
      rcases mem_publications.mp added with ⟨_, -, rfl⟩ | ⟨_, _, -, rfl⟩
      · exact ⟨by simp [toSubscriber], .inl rfl⟩
      · exact ⟨by simp [toWaiter], .inl rfl⟩
  | stops free =>
    rw [(n.stopReceiver_releases _).deliveries, List.mem_append] at member
    rcases member with before | added
    · exact .inl before
    · exact .inr (.inr (release (stopSubscriber_toSub _) (stopWaiter_toWait _) (fun _ => rfl) (fun _ => rfl) added))
  | closesLease free =>
    rw [(n.closeLease_releases _).deliveries, List.mem_append] at member
    rcases member with before | added
    · exact .inl before
    · exact .inr (.inr (release closeSubscriber_toSub closeWaiter_toWait (fun _ => rfl) (fun _ => rfl) added))
  | @performs d₀ chan phase inside advanced =>
    -- A delivery left over is the old one in its next phase.
    rcases List.mem_append.mp member with left | next
    · exact .inl (List.mem_of_mem_erase left)
    · obtain ⟨following, rfl, rfl⟩ := Option.map_eq_some_iff.mp (Option.mem_toList.mp next)
      refine .inr (.inl ⟨d₀, inside, following, rfl, ?_⟩)
      simpa using advances_of_eq (sound.ready _ inside) advanced
  | unsubscribes free watching leaving =>
    simp only [setWatch_deliveries, unsubscribeIndication_frame] at member
    exact .inl member
  | _ => exact .inl member

/-- A closed channel was closed before the step, by it, or was made closed. -/
theorem Sound.closed_step {n n' : Indications} {e : IndicationEvent} (sound : n.Sound)
    (moves : n.Step e n') {ch : ChanID} (closed : (n'.chans ch).closed = true) :
    (n.chans ch).closed = true ∨ (∃ d ∈ n.deliveries, d.phase = .close ∧ d.ch = ch) ∨
      (ch = n.made ∧ ∃ err, .failed err ∈ (n'.chans ch).sent) := by
  -- Receiving closes nothing.
  have popped (received : ChanID) :
      (Function.update n.chans received (n.chans received).pop ch).closed = (n.chans ch).closed := by
    by_cases same : ch = received
    · subst same
      simp
    · rw [Function.update_of_ne same]
  cases moves with
  -- A new channel is open unless the receiver has stopped before the subscription.
  | waits free empty =>
    by_cases new : ch = n.made
    · subst new
      simp at closed
    · exact .inl (by simpa [Function.update_of_ne new] using closed)
  | subscribes free filled =>
    obtain ⟨shape, -⟩ := Chan.eq_of_sendAll? filled (Nat.zero_le _)
    by_cases new : ch = n.made
    · subst new
      simp [shape] at closed
    · exact .inl (by simpa [Function.update_of_ne new] using closed)
  | @subscribesStopped key err free =>
    by_cases new : ch = n.made
    · subst new
      exact .inr (.inr ⟨rfl, err, by simp⟩)
    · exact .inl (by simpa [Function.update_of_ne new] using closed)
  | @performs d chan phase member advanced =>
    -- Apart from that, only the last phase of a delivery closes.
    by_cases same : ch = d.ch
    · subst same
      simp only [setChan_chans, Function.update_self] at closed
      cases advances_of_eq (sound.ready _ member) advanced with
      | closes closes => exact .inr (.inl ⟨d, member, closes, rfl⟩)
      | _ => exact .inl closed
    · exact .inl (by simpa [Function.update_of_ne same] using closed)
  | takes called buffered => exact .inl ((popped _).symm.trans closed)
  | polls called buffered => exact .inl ((popped _).symm.trans closed)
  | forwards watching looping buffered => exact .inl ((popped _).symm.trans closed)
  | unsubscribes free watching leaving =>
    simp only [setWatch_chans, unsubscribeIndication_frame] at closed
    exact .inl closed
  | _ => exact .inl closed

/-- A step that makes a channel after the receiver has stopped does not list it. -/
theorem Sound.not_listed_stopped {n n' : Indications} (sound : n.Sound) {key : IndicationKey} {err : Error}
    (moves : n.Step (.subscribeStopped key err) n') : ¬ n'.Listed n.made := by
  rintro ⟨key', ⟨owner, found⟩ | waits⟩
  · rcases subs_step moves found with before | ⟨same, -⟩
    · exact Nat.lt_irrefl _ (sound.subscribed_lt ⟨owner, before⟩)
    · cases same
  · obtain ⟨waiter, inside, named⟩ := List.mem_map.mp waits
    rcases waiters_step moves inside with before | ⟨same, -⟩
    · have waits : n.Waits key' n.made := named ▸ List.mem_map_of_mem before
      exact Nat.lt_irrefl _ (sound.waits_lt waits)
    · cases same

/-- What ends a stream finds its channel listed. -/
theorem Ends.listed {n : Indications} {e : IndicationEvent} {ch : ChanID} {err : Error}
    (ends : n.Ends e ch err) : n.Listed ch := by
  obtain ⟨-, listed⟩ | ⟨_, -, -, goes⟩ := ends
  · exact listed
  · exact goes.listed

/-- Every step keeps errors at the end of streams. -/
theorem Ordered.step {n n' : Indications} {e : IndicationEvent} (ordered : n.Ordered) (sound : n.Sound)
    (moves : n.Step e n') : n'.Ordered := by
  have sound' := sound.step moves
  -- A channel is old, new, or not made yet.
  have place (ch : ChanID) : ch < n.made ∨ n'.made ≤ ch ∨ (ch = n.made ∧ n.Starts e (n'.stream n.made)) := by
    rcases Nat.lt_or_ge ch n.made with old | beyond
    · exact .inl old
    · rcases sound.made_step moves with same | ⟨grown, starts⟩
      · exact .inr (.inl (same ▸ beyond))
      · rcases Nat.eq_or_lt_of_le beyond with new | later
        · exact .inr (.inr ⟨new.symm, starts⟩)
        · exact .inr (.inl (grown ▸ later))
  refine { final := ?_, running := ?_, unlocked := ?_, closing := ?_, closed := ?_ }
  · -- An error is always the last result of its stream.
    intro ch
    rcases place ch with old | unmade | ⟨rfl, starts⟩
    · rcases sound.stream_step moves old with same | ⟨i, -, listed, grown⟩ | ⟨err, ends⟩
      · rw [same]
        exact ordered.final ch
      · rw [grown]
        exact (ordered.running ch ⟨i.key, listed.imp_right First.waits⟩).final_append _
      · rw [(sound.stream_ends moves ends).1]
        exact (ordered.running ch ends.listed).final_append _
    · rw [sound'.stream_unmade unmade]
      simp [Final, Running]
    · generalize n'.stream n.made = results at starts
      cases starts with
      | called => simp [Final, Running]
      | subscribed => exact (running_values _).final
      | stopped => exact (running_values _).final_append _
  · -- Listed channels have no error on their streams.
    intro ch listed
    rcases place ch with old | unmade | ⟨rfl, starts⟩
    · rcases sound.stream_step moves old with same | ⟨i, -, -, grown⟩ | ⟨err, ends⟩
      · rw [same]
        exact ordered.running ch (listed_step moves old listed)
      · rw [grown, running_append]
        exact ⟨ordered.running ch (listed_step moves old listed), by simp [Running, WatchResult.isValue]⟩
      · exact absurd listed (sound.stream_ends moves ends).2
    · rw [sound'.stream_unmade unmade]
      simp [Running]
    · generalize whole : n'.stream n.made = results at starts
      cases starts with
      | called => simp [Running]
      | subscribed => exact running_values _
      | stopped => exact absurd listed (sound.not_listed_stopped moves)
  · -- Deliveries outside the lock are errors.
    intro d member unlocked
    rcases sound.deliveries_step moves member with old | ⟨d₀, old, phase, rfl, -⟩ | ⟨-, locked | fails⟩
    · exact ordered.unlocked d old unlocked
    · exact ordered.unlocked d₀ old unlocked
    · simp [locked] at unlocked
    · exact fails
  · -- A delivery closes its channel after its error was put there.
    intro d member closing
    rcases sound.deliveries_step moves member with old | ⟨d₀, old, phase, rfl, advances⟩ | ⟨sends, -⟩
    · exact sound.failed_step moves (sound.made d old) (ordered.closing d old closing)
    · -- The delivery has just put its error on the channel.
      have shut : phase = .close := closing
      subst shut
      generalize after : some Phase.close = next at advances
      generalize n'.chans d₀.ch = chan at advances
      cases advances with
      | pushes sends room =>
        unfold Delivery.afterwards at after
        split at after
        · rename_i closes
          have fails := ordered.unlocked d₀ old ((sound.ready d₀ old).closes closes)
          intro running
          have value := running d₀.result (by simp)
          simp [fails] at value
        · cases after
      | full offers => cases after
      | drains drains => cases after
      | closes closes => cases after
    · exact absurd closing sends
  · -- A closed channel has its error.
    intro ch closed
    rcases sound.closed_step moves closed with before | ⟨d, member, closing, rfl⟩ | ⟨-, err, sent⟩
    · have old : ch < n.made := by
        by_contra beyond
        simp [(sound.unmade ch (Nat.not_lt.mp beyond)).2.2] at before
      exact sound.failed_step moves old (ordered.closed ch before)
    · exact sound.failed_step moves (sound.made d member) (ordered.closing d member closing)
    · intro running
      have value := running _ sent
      simp [WatchResult.isValue] at value

/-- Errors only end streams in every run. -/
theorem ordered_of_runs {trace : List (Indications × IndicationEvent)} {n : Indications}
    (run : Mbim.indications.Runs trace n) : n.Ordered := by
  -- Soundness is carried along, since the order of a stream rests on it.
  have both := run.stateInvariant (P := fun n => n.Sound ∧ n.Ordered) ⟨sound_init, ordered_init⟩
    fun n e n' both accepted =>
      ⟨both.1.step (step_of_eq accepted), both.2.step both.1 (step_of_eq accepted)⟩
  exact both.2

/-- The stream of a channel that is no longer listed has ended for good. -/
theorem stream_ended {before after : List (Indications × IndicationEvent)} {n n₀ n₁ : Indications}
    {e : IndicationEvent} (run : Mbim.indications.Runs (before ++ (n₀, e) :: after) n)
    (accepted : n₀.step e = some n₁) {ch : ChanID} (made : ch < n₁.made) (unlisted : ¬ n₁.Listed ch) :
    n.stream ch = n₁.stream ch := by
  -- A step adds to the stream of a listed channel only, and lists new channels only.
  have ended := run.since
    (P := fun n => ch < n.made ∧ ¬ n.Listed ch ∧ n.stream ch = n₁.stream ch) ?_ accepted
    ⟨made, unlisted, rfl⟩
  · exact ended.2.2
  · rintro trace n e n' earlier ⟨old, gone, same⟩ accepted
    have sound := sound_of_runs earlier
    have moves := step_of_eq accepted
    refine ⟨?_, fun listed => gone (listed_step moves old listed), ?_⟩
    · -- The channel stays made.
      rcases sound.made_step moves with kept | ⟨grown, -⟩
      · exact kept ▸ old
      · exact grown ▸ Nat.lt_succ_of_lt old
    · -- Nothing adds to its stream, for it is not listed.
      rcases sound.stream_step moves old with kept | ⟨i, -, listed, -⟩ | ⟨err, ends⟩
      · exact kept.trans same
      · exact absurd ⟨i.key, listed.imp_right First.waits⟩ gone
      · exact absurd ends.listed gone

end Indications

end Wwan.Mbim
