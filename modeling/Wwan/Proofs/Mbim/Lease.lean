import Wwan.Proofs.Mbim.Routing
import Wwan.Proofs.Mbim.Streams

/-! Closing a lease ends what it owns, for good, and touches nothing else. -/

namespace Wwan.Mbim.Dispatcher

/-- A closed lease stays closed. -/
theorem closedLeases_step {s s' : Dispatcher} {e : DispatcherEvent} (accepted : s.step e = some s')
    {lease : Lease} (closed : lease ∈ s.control.closedLeases) : lease ∈ s'.control.closedLeases := by
  rw [(step_control accepted).closedLeases]
  cases e with
  | closeLease other =>
    -- Setting the flag of a lease keeps the flags that are set.
    simp only [controlAfter, Control.closeLease]
    split
    · exact closed
    · exact List.mem_append_left _ closed
  | _ => exact closed

/-- Only closed leases have entries still to be removed. -/
theorem sweeping_closed {trace : List (Dispatcher × DispatcherEvent)} {s : Dispatcher}
    (run : dispatcher.Runs trace s) : ∀ lease ∈ s.control.sweeping, lease ∈ s.control.closedLeases := by
  -- A lease enters both lists together and only leaves the first.
  refine run.stateInvariant (P := fun s => ∀ lease ∈ s.control.sweeping, lease ∈ s.control.closedLeases)
    (by simp [dispatcher]) ?_
  intro s e s' inside accepted lease listed
  have control := step_control accepted
  rw [control.sweeping] at listed
  rw [control.closedLeases]
  cases e with
  | closeLease other =>
    simp only [controlAfter, Control.closeLease] at listed ⊢
    split
    · -- The lease was closed before.
      rename_i closed
      rw [if_pos closed] at listed
      exact inside lease listed
    · -- The lease is closed now, and enters both lists.
      rename_i isOpen
      rw [if_neg isOpen, List.mem_append] at listed
      rw [List.mem_append]
      exact listed.imp_left (inside lease)
  | sweepLease other => exact inside lease (List.mem_of_mem_erase listed)
  | _ => exact inside lease listed

/-- A lease owns nothing. -/
structure OwnsNothing (s : Dispatcher) (lease : Lease) : Prop where
  pending : ∀ transactionID waiter, s.responses.pending.get transactionID = some waiter →
    waiter.owner ≠ some lease
  subs : ∀ key ch owner, (s.indications.subsOf key).get ch = some owner → owner ≠ some lease
  waiters : ∀ key, ∀ waiter ∈ s.indications.waiters.items key, waiter.owner ≠ some lease

/-- An entry is only added for an open lease. -/
theorem lease_open {s : Dispatcher} {client : Client} {lease : Lease}
    (isOpen : s.control.leaseClosed client = false) (closed : lease ∈ s.control.closedLeases) :
    client.lease ≠ some lease := by
  intro same
  simp [Control.leaseClosed, same, closed] at isOpen

/-- A closed lease that owns nothing never owns anything again. -/
theorem ownsNothing_step {s s' : Dispatcher} {e : DispatcherEvent} (accepted : s.step e = some s')
    {lease : Lease} (closed : lease ∈ s.control.closedLeases) (nothing : s.OwnsNothing lease) :
    s'.OwnsNothing lease := by
  refine { pending := ?_, subs := ?_, waiters := ?_ }
  · -- A pending request is an old one, or one that its client has just registered.
    intro transactionID waiter pending
    rcases step_responses accepted with ⟨-, same⟩ | ⟨re, seen, follows⟩
    · rw [same] at pending
      exact nothing.pending transactionID waiter pending
    · rcases Responses.pending_step follows pending with before | rfl
      · exact nothing.pending transactionID waiter before
      · -- A new waiter belongs to the client that registers it.
        rcases responseOf_cases seen with ⟨client, request, allow, rfl, registered⟩ | ⟨_, _, stops⟩ |
          ⟨_, _, closes, _⟩ | ⟨_, free⟩
        · obtain ⟨isOpen, -, _, -, made⟩ := registerResponse_ok registered
          simp only [ResponseEvent.register.injEq] at made
          rw [made.2.2.2]
          exact lease_open isOpen closed
        · cases stops
        · cases closes
        · cases free
  · -- A subscription is an old one, or a new one of its client.
    intro key ch owner found
    rcases step_indications accepted with ⟨-, same⟩ | ⟨ie, seen, follows⟩
    · rw [same] at found
      exact nothing.subs key ch owner found
    · rcases Indications.subs_step (Indications.step_of_eq follows) found with before | ⟨rfl, -⟩
      · exact nothing.subs key ch owner before
      · -- A new subscription belongs to the client that subscribes.
        rcases indicationOf_cases seen with ⟨client, key', rfl, called⟩ | ⟨client, key', rfl, subscribed⟩ |
          ⟨_, _, stops⟩ | ⟨_, _, closes, _⟩ | ⟨_, free⟩
        · cases (nextIndication_ok called).2.1
        · obtain ⟨isOpen, ⟨-, made⟩ | ⟨_, -, made⟩⟩ := subscribeIndication_ok subscribed
          · cases made
            exact lease_open isOpen closed
          · cases made
        · cases stops
        · cases closes
        · cases free
  · -- A waiting call is an old one, or a new one of its client.
    intro key waiter listed
    rcases step_indications accepted with ⟨-, same⟩ | ⟨ie, seen, follows⟩
    · rw [same] at listed
      exact nothing.waiters key waiter listed
    · rcases Indications.waiters_step (Indications.step_of_eq follows) listed with before | ⟨rfl, -⟩
      · exact nothing.waiters key waiter before
      · -- A new waiting call belongs to the client that calls.
        rcases indicationOf_cases seen with ⟨client, key', rfl, called⟩ | ⟨client, key', rfl, subscribed⟩ |
          ⟨_, _, stops⟩ | ⟨_, _, closes, _⟩ | ⟨_, free⟩
        · obtain ⟨isOpen, made, -⟩ := nextIndication_ok called
          simp only [IndicationEvent.nextIndication.injEq] at made
          rw [made.2]
          exact lease_open isOpen closed
        · obtain ⟨-, ⟨-, made⟩ | ⟨_, -, made⟩⟩ := subscribeIndication_ok subscribed <;> cases made
        · cases stops
        · cases closes
        · cases free

/-- The removal of a lease's entries, on each part of the dispatcher. -/
theorem sweepLease_parts {s s' : Dispatcher} {lease : Lease} (accepted : s.step (.sweepLease lease) = some s') :
    lease ∈ s.control.sweeping ∧ s'.responses = s.responses.closeLease lease ∧
      s'.indications = s.indications.closeLease lease ∧ s.indications.locked = false := by
  obtain ⟨effects, happens, -, -, first, -, second⟩ := step_parts accepted
  simp only [Dispatcher.effects] at happens
  split at happens
  · rename_i listed
    cases happens
    have responses := first _ rfl
    have indications := second _ rfl
    simp only [Responses.step, Option.some.injEq] at responses
    obtain ⟨free, made⟩ := Indications.whileUnlocked_eq_some.mp indications
    exact ⟨by simpa using listed, responses.symm, (Option.some.inj made).symm, free⟩
  · cases happens

/-- The state right after the entries of a lease are removed. -/
theorem sweepLease_frame {s s' : Dispatcher} {lease : Lease} (accepted : s.step (.sweepLease lease) = some s') :
    (∀ transactionID, s'.responses.pending.get transactionID =
      (s.responses.pending.get transactionID).filter fun waiter => waiter.owner ≠ some lease) ∧
    (∀ key ch, (s'.indications.subsOf key).get ch =
      ((s.indications.subsOf key).get ch).filter fun owner => owner ≠ some lease) ∧
    (∀ key, s'.indications.waiters.items key =
      (s.indications.waiters.items key).filter fun waiter => waiter.owner ≠ some lease) := by
  obtain ⟨-, responses, indications, -⟩ := sweepLease_parts accepted
  have released := s.indications.closeLease_releases lease
  refine ⟨?_, ?_, ?_⟩
  · intro transactionID
    rw [responses]
    exact s.responses.get_closeLease lease transactionID
  · intro key ch
    rw [indications, released.subs]
    congr 1
    funext owner
    simp
  · intro key
    rw [indications, released.waiters]
    congr 1
    funext waiter
    simp

/-- After the removal a lease owns nothing. -/
theorem sweepLease_ownsNothing {s s' : Dispatcher} {lease : Lease}
    (accepted : s.step (.sweepLease lease) = some s') : s'.OwnsNothing lease := by
  obtain ⟨pending, subs, waiters⟩ := sweepLease_frame accepted
  refine { pending := ?_, subs := ?_, waiters := ?_ }
  · intro transactionID waiter found
    rw [pending, Option.filter_eq_some_iff] at found
    simpa using found.2
  · intro key ch owner found
    rw [subs, Option.filter_eq_some_iff] at found
    simpa using found.2
  · intro key waiter listed
    rw [waiters, List.mem_filter] at listed
    simpa using listed.2

/-- A closed lease is refused by every operation that adds an entry. -/
theorem refused_of_closed {s : Dispatcher} {client : Client} {lease : Lease}
    (closed : lease ∈ s.control.closedLeases) (own : client.lease = some lease) :
    (∀ request allowClosing, ∃ err, (s.registerResponse client request allowClosing).2 = .error err) ∧
    (∀ key, (s.nextIndication client key).2 = .error errClientLeaseClosed) ∧
    ∀ key, (s.subscribeIndication client key).2 = .error errClientLeaseClosed := by
  have refused : s.control.leaseClosed client = true := by simp [Control.leaseClosed, own, closed]
  refine ⟨?_, ?_, ?_⟩
  · intro request allowClosing
    cases registered : (s.registerResponse client request allowClosing).2 with
    | error err => exact ⟨err, rfl⟩
    | ok re =>
      -- A waiter would only have been registered for an open lease.
      have isOpen := (registerResponse_ok registered).1
      simp [refused] at isOpen
  · intro key
    simp [nextIndication, refused]
  · intro key
    simp [subscribeIndication, refused]

/-- Once the entries of a lease are removed it owns nothing and can add nothing; each of its entries was
given the lease's end exactly once, and the entries of everyone else are as they were. -/
theorem lease_isolated {before after : List (Dispatcher × DispatcherEvent)} {s s₀ : Dispatcher} {lease : Lease}
    (run : dispatcher.Runs (before ++ (s₀, .sweepLease lease) :: after) s) :
    s.OwnsNothing lease ∧
    (∀ client, client.lease = some lease →
      (∀ request allowClosing, ∃ err, (s.registerResponse client request allowClosing).2 = .error err) ∧
      (∀ key, (s.nextIndication client key).2 = .error errClientLeaseClosed) ∧
      ∀ key, (s.subscribeIndication client key).2 = .error errClientLeaseClosed) ∧
    (∀ transactionID waiter, s₀.responses.pending.get transactionID = some waiter →
      waiter.owner = some lease →
      ({ ch := waiter.ch, result := .err errClientLeaseClosed } ∈ s.responses.sends ∧
          (s.responses.chans waiter.ch).sent = []) ∨
        ((s.responses.chans waiter.ch).sent = [.err errClientLeaseClosed] ∧
          ∀ x ∈ s.responses.sends, x.ch ≠ waiter.ch)) ∧
    (∀ ch, s₀.indications.Goes (fun owner => owner = some lease) ch →
      Running (s₀.indications.stream ch) ∧
        s.indications.stream ch = s₀.indications.stream ch ++ [.failed errClientLeaseClosed]) ∧
    (∀ x ∈ s.responses.sends, (s.step (.response (.send x))).isSome) ∧
    (∀ d ∈ s.indications.deliveries, (s.step (.indication (.perform d))).isSome) ∧
    ∃ s₁, s₀.step (.sweepLease lease) = some s₁ ∧
      (∀ transactionID, s₁.responses.pending.get transactionID =
        (s₀.responses.pending.get transactionID).filter fun waiter => waiter.owner ≠ some lease) ∧
      (∀ key ch, (s₁.indications.subsOf key).get ch =
        ((s₀.indications.subsOf key).get ch).filter fun owner => owner ≠ some lease) ∧
      (∀ key, s₁.indications.waiters.items key =
        (s₀.indications.waiters.items key).filter fun waiter => waiter.owner ≠ some lease) ∧
      s₁.indications.indications = s₀.indications.indications ∧
      s₁.indications.chans = s₀.indications.chans ∧ s₁.responses.chans = s₀.responses.chans := by
  obtain ⟨earlier, s₁, accepted, -⟩ := run.accepted
  obtain ⟨listed, responses, indications, free⟩ := sweepLease_parts accepted
  have closed₀ : lease ∈ s₀.control.closedLeases := sweeping_closed earlier lease listed
  -- From the removal on, the lease is closed and owns nothing.
  have owned := run.since (P := fun s => lease ∈ s.control.closedLeases ∧ s.OwnsNothing lease)
    (fun _ _ _ _ _ holds accepted =>
      ⟨closedLeases_step accepted holds.1, ownsNothing_step accepted holds.1 holds.2⟩)
    accepted ⟨closedLeases_step accepted closed₀, sweepLease_ownsNothing accepted⟩
  have routed := runs_responses run
  have streamed := runs_indications run
  have seen : s₀.responseOf (.sweepLease lease) = some (.closeLease lease) := by
    simp [responseOf, effects, listed]
  have watched : s₀.indicationOf (.sweepLease lease) = some (.closeLease lease) := by
    simp [indicationOf, effects, listed]
  rw [responseTrace_append seen] at routed
  rw [indicationTrace_append watched] at streamed
  refine ⟨owned.2, ?_, ?_, ?_, ?_, ?_, s₁, accepted, ?_⟩
  · -- A client of the lease is refused.
    intro client own
    exact refused_of_closed owned.1 own
  · intro transactionID waiter pending own
    -- The waiter is taken for the error, and keeps what it is given.
    have taken : (s₀.responses.closeLease lease).Given
        { ch := waiter.ch, result := .err errClientLeaseClosed } := by
      refine .inl (List.mem_append_right _ (List.mem_map.mpr ⟨(transactionID, waiter), ?_, rfl⟩))
      exact List.mem_filter.mpr ⟨(s₀.responses.pending.mem_entries_iff _ _).mpr pending, by simpa using own⟩
    exact (Responses.sound_of_runs routed).given_once (Responses.given_of_runs routed rfl taken)
  · -- The stream of every channel of the lease ends with the error.
    intro ch goes
    have sound := Indications.sound_of_runs (runs_indications earlier)
    have ordered := Indications.ordered_of_runs (runs_indications earlier)
    have step : s₀.indications.step (.closeLease lease) = some (s₀.indications.closeLease lease) :=
      Indications.whileUnlocked_eq_some.mpr ⟨free, rfl⟩
    have ends : s₀.indications.Ends (.closeLease lease) ch errClientLeaseClosed :=
      .inr ⟨lease, rfl, rfl, goes⟩
    obtain ⟨given, unlisted⟩ := sound.stream_ends (Indications.step_of_eq step) ends
    refine ⟨ordered.running ch goes.listed, ?_⟩
    rw [← given]
    -- The channel is no longer listed, so nothing follows.
    refine Indications.stream_ended streamed step ?_ unlisted
    show ch < s₀.indications.made
    rcases goes with ⟨key, owner, found, -⟩ | ⟨key, waiter, inside, rfl, -⟩
    · exact sound.subscribed_lt ⟨owner, found⟩
    · exact sound.waits_lt (List.mem_map_of_mem inside : s₀.indications.Waits key waiter.ch)
  · -- What is to be sent can be sent.
    intro x member
    obtain ⟨r, sends⟩ := Option.isSome_iff_exists.mp ((Responses.sound_of_runs routed).send_accepted member)
    simp [step, DispatcherEvent.locks, effects, ResponseEvent.guarded, follow, sends]
  · -- So can what is to be delivered.
    intro d member
    obtain ⟨n, performs⟩ := Option.isSome_iff_exists.mp
      ((Indications.sound_of_runs streamed).perform_accepted member)
    simp [step, DispatcherEvent.locks, effects, IndicationEvent.guarded, follow, performs]
  · -- The entries of the others are as they were.
    obtain ⟨pending, subs, waiters⟩ := sweepLease_frame accepted
    exact ⟨pending, subs, waiters, by rw [indications]; rfl, by rw [indications]; rfl, by rw [responses]; rfl⟩

/-- Two leases wait for responses, the first also for an indication, and the first is closed. -/
def closedLease : List DispatcherEvent :=
  -- Both requests open the device, under transactions of their own.
  [.registerResponse { lease := some 7, connected := true }
      { messageType := MessageType.open, transactionID := 1, command := none } false,
    .registerResponse { lease := some 8, connected := true }
      { messageType := MessageType.open, transactionID := 2, command := none } false,
    .nextIndication { lease := some 7, connected := true } { serviceID := [], commandID := 1 },
    .closeLease 7]

/-- The first lease loses its waiter and its call, which are given its end, and the second keeps its waiter. -/
theorem closedLease_isolated :
    ∃ before s₀ s, dispatcher.Runs (before ++ [(s₀, .sweepLease 7)]) s ∧
      before.map Prod.snd = closedLease ∧ (s₀.responses.pending.get 1).isSome ∧
      s.OwnsNothing 7 ∧ (s.responses.pending.get 2).isSome ∧
      s.indications.stream 0 = [.failed errClientLeaseClosed] := by
  have accepted : (dispatcher.runFrom dispatcher.init closedLease).isSome := by decide
  have run := Machine.Runs.ofEvents dispatcher closedLease accepted
  have swept := run.step (e := .sweepLease 7) rfl
  obtain ⟨nothing, -, -, given, -⟩ := lease_isolated swept
  refine ⟨_, _, _, swept, rfl, rfl, nothing, rfl, ?_⟩
  exact (given 0 (.inr ⟨{ serviceID := [], commandID := 1 }, { ch := 0, owner := some 7 },
    List.mem_singleton_self _, rfl, rfl⟩)).2

end Wwan.Mbim.Dispatcher
