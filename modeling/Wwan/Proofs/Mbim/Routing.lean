import Wwan.Proofs.Mbim.Dispatcher
import Wwan.Proofs.Mbim.Responses

/-! Responses reach the requests they answer, and no request waits for a stopped receiver. -/

namespace Wwan.Mbim

namespace Responses

/-- The responses are sound in every run. -/
theorem sound_of_runs {trace : List (Responses × ResponseEvent)} {r : Responses}
    (run : responses.Runs trace r) : r.Sound :=
  run.stateInvariant sound_init fun _ _ _ sound accepted => sound.step accepted

/-- A pending waiter was pending before the step, or is registered by it. -/
theorem pending_step {r r' : Responses} {e : ResponseEvent} (accepted : r.step e = some r')
    {transactionID : UInt32} {waiter : ResponseWaiter}
    (pending : r'.pending.get transactionID = some waiter) :
    r.pending.get transactionID = some waiter ∨
      e = .register transactionID waiter.messageType waiter.command waiter.owner := by
  obtain ⟨t, _, _, _, rfl, -, rfl⟩ | ⟨_, -, -, -, rfl⟩ | ⟨_, -, rfl⟩ | ⟨_, _, released⟩ :=
    step_cases accepted
  · simp only [register, GoMap.get_set] at pending
    split at pending
    · rename_i same
      cases pending
      exact .inr (by rw [same])
    · exact .inl pending
  · exact .inl pending
  · exact .inl pending
  · exact .inl (released.kept _ _ pending)

/-- The state of a registered waiter: pending, given its result, or left by its own caller. -/
def Accounted (trace : List (Responses × ResponseEvent)) (r : Responses) (ch : ChanID)
    (transactionID : UInt32) (waiter : ResponseWaiter) : Prop :=
  r.pending.get transactionID = some waiter ∨ (∃ result, r.Given { ch, result }) ∨
    ∃ before, (before, .unregisterResponse transactionID ch) ∈ trace ∧
      before.pending.get transactionID = some waiter

/-- Every waiter ever registered is accounted for. -/
theorem accounted_of_runs {trace : List (Responses × ResponseEvent)} {r : Responses}
    (run : responses.Runs trace r) {ch : ChanID} {transactionID : UInt32} {waiter : ResponseWaiter}
    (registered : r.registered[ch]? = some (transactionID, waiter)) :
    Accounted trace r ch transactionID waiter := by
  induction run generalizing ch transactionID waiter with
  | init => simp [responses] at registered
  | @step trace r r' e earlier accepted ih =>
    have sound := sound_of_runs earlier
    -- What was settled before the step stays settled.
    have later (before : r.registered[ch]? = some (transactionID, waiter))
        (kept : r.pending.get transactionID = some waiter →
          Accounted (trace ++ [(r, e)]) r' ch transactionID waiter) :
        Accounted (trace ++ [(r, e)]) r' ch transactionID waiter := by
      obtain pending | ⟨result, given⟩ | ⟨state, left, pending⟩ := ih before
      · exact kept pending
      · exact .inr (.inl ⟨result, sound.given_step accepted given⟩)
      · exact .inr (.inr ⟨state, List.mem_append_left _ left, pending⟩)
    obtain ⟨t, messageType, command, owner, -, free, rfl⟩ | ⟨_, -, -, -, rfl⟩ | ⟨_, -, rfl⟩ |
      ⟨taken, result, released⟩ := step_cases accepted
    · -- A waiter that was there before has another transaction.
      by_cases old : ch < r.registered.length
      · rw [register, List.getElem?_append_left old] at registered
        refine later registered fun pending => .inl ?_
        have other : transactionID ≠ t := by
          rintro rfl
          cases free.symm.trans pending
        simpa [register, GoMap.get_set, other] using pending
      · -- The new waiter is pending.
        have place : ch = r.registered.length := by
          have bound := (List.getElem?_eq_some_iff.mp registered).1
          simp only [register, List.length_append, List.length_singleton] at bound
          exact Nat.le_antisymm (Nat.lt_succ_iff.mp bound) (Nat.not_lt.mp old)
        subst place
        simp only [register, List.getElem?_concat_length, Option.some.injEq, Prod.mk.injEq] at registered
        obtain ⟨rfl, rfl⟩ := registered
        exact .inl (by simp [register])
    · -- Sends and receives take no waiter out.
      exact later registered .inl
    · exact later registered .inl
    · -- The waiter is taken for a result, stays, or its caller has left.
      rw [released.registered] at registered
      refine later registered fun pending => ?_
      have own := sound.named _ _ _ registered
      obtain gone | kept | left := released.complete _ _ pending
      · refine .inr (.inl ⟨result, .inl ?_⟩)
        rw [released.sends]
        exact List.mem_append_right _ (List.mem_map.mpr ⟨_, gone, by rw [own]⟩)
      · exact .inl kept
      · exact .inr (.inr ⟨r, by simp [left, own], pending⟩)

/-- What a waiter is given at one step of a run it keeps. -/
theorem given_of_runs {before after : List (Responses × ResponseEvent)} {r r₀ r₁ : Responses}
    {e : ResponseEvent} (run : responses.Runs (before ++ (r₀, e) :: after) r)
    (accepted : r₀.step e = some r₁) {s : ResponseSend} (given : r₁.Given s) : r.Given s :=
  run.since (fun _ _ _ _ earlier given accepted => (sound_of_runs earlier).given_step accepted given)
    accepted given

/-- What makes a step give a waiter its result. -/
inductive Causes (r : Responses) : ResponseEvent → UInt32 → ResponseWaiter → ResponseResult → Prop where
  | answers {data : Bytes} {waiter : ResponseWaiter} :
      r.pending.get (transactionIDOf data) = some waiter →
      waiter.matches (messageTypeOf data) data = true →
      Causes r (.deliverResponse data) (transactionIDOf data) waiter (.data data)
  | fails {transactionID : UInt32} {err : Error} {waiter : ResponseWaiter} :
      r.pending.get transactionID = some waiter →
      Causes r (.failResponse transactionID err) transactionID waiter (.err err)
  | stops {transactionID : UInt32} {err : Error} {waiter : ResponseWaiter} :
      r.pending.get transactionID = some waiter →
      Causes r (.stopReceiver err) transactionID waiter (.err err)
  | closesLease {transactionID : UInt32} {lease : Lease} {waiter : ResponseWaiter} :
      r.pending.get transactionID = some waiter → waiter.owner = some lease →
      Causes r (.closeLease lease) transactionID waiter (.err errClientLeaseClosed)

/-- Whose result a step brings about was pending. -/
theorem Causes.pending {r : Responses} {e : ResponseEvent} {transactionID : UInt32} {waiter : ResponseWaiter}
    {result : ResponseResult} (causes : r.Causes e transactionID waiter result) :
    r.pending.get transactionID = some waiter := by
  cases causes with
  | answers pending answered => exact pending
  | fails pending => exact pending
  | stops pending => exact pending
  | closesLease pending own => exact pending

/-- The sends a step adds are to the waiters whose result it brings about. -/
theorem sends_step {r r' : Responses} {e : ResponseEvent} (accepted : r.step e = some r') {s : ResponseSend}
    (member : s ∈ r'.sends) :
    s ∈ r.sends ∨ ∃ transactionID waiter, r.Causes e transactionID waiter s.result ∧ waiter.ch = s.ch := by
  cases e with
  | register transactionID messageType command owner =>
    -- Registering and leaving send nothing.
    simp only [step] at accepted
    split at accepted
    · cases accepted
    · cases accepted
      exact .inl member
  | unregisterResponse transactionID ch =>
    cases accepted
    rw [(r.unregisterResponse_releases transactionID ch).sends] at member
    exact .inl (by simpa using member)
  | deliverResponse data =>
    cases accepted
    -- A response is sent to the waiter that takes it.
    unfold deliverResponse at member
    split at member
    · exact .inl member
    · rename_i waiter pending
      split at member
      · rename_i answered
        rcases List.mem_append.mp member with old | new
        · exact .inl old
        · rw [List.mem_singleton.mp new]
          exact .inr ⟨_, waiter, .answers pending answered, rfl⟩
      · exact .inl member
  | failResponse transactionID err =>
    cases accepted
    -- A failure is sent to the waiter of the transaction.
    unfold failResponse at member
    split at member
    · exact .inl member
    · rename_i waiter pending
      rcases List.mem_append.mp member with old | new
      · exact .inl old
      · rw [List.mem_singleton.mp new]
        exact .inr ⟨_, waiter, .fails pending, rfl⟩
  | stopReceiver err =>
    cases accepted
    -- The end of the receiver is sent to all waiters.
    rcases List.mem_append.mp member with old | new
    · exact .inl old
    · obtain ⟨⟨transactionID, waiter⟩, inside, rfl⟩ := List.mem_map.mp new
      exact .inr ⟨transactionID, waiter, .stops ((r.pending.mem_entries_iff _ _).mp inside), rfl⟩
  | closeLease lease =>
    cases accepted
    -- The end of a lease is sent to its waiters.
    rcases List.mem_append.mp member with old | new
    · exact .inl old
    · obtain ⟨⟨transactionID, waiter⟩, inside, rfl⟩ := List.mem_map.mp new
      obtain ⟨inside, own⟩ := List.mem_filter.mp inside
      have pending := (r.pending.mem_entries_iff _ _).mp inside
      exact .inr ⟨transactionID, waiter, .closesLease pending (by simpa using own), rfl⟩
  | send s =>
    -- A send that is performed was in flight.
    simp only [step, send] at accepted
    split at accepted
    · obtain ⟨chan, -, rfl⟩ := Option.map_eq_some_iff.mp accepted
      exact .inl (List.mem_of_mem_erase member)
    · cases accepted
  | receive ch =>
    simp only [step, receive] at accepted
    split at accepted
    · cases accepted
    · cases accepted
      exact .inl member

/-- What a waiter is given it was given before the step, or the step brings it about. -/
theorem Sound.given_before {r r' : Responses} {e : ResponseEvent} (sound : r.Sound)
    (accepted : r.step e = some r') {s : ResponseSend} (given : r'.Given s) :
    r.Given s ∨ ∃ transactionID waiter, r.Causes e transactionID waiter s.result ∧ waiter.ch = s.ch := by
  rcases given with inFlight | sent
  · -- What is in flight was so before, or is sent by this step.
    exact (sends_step accepted inFlight).imp_left .inl
  · refine .inl ?_
    -- What was received has been in flight or received before.
    obtain ⟨_, _, _, _, -, -, rfl⟩ | ⟨x, -, member, -, rfl⟩ | ⟨ch, -, rfl⟩ | ⟨_, _, released⟩ :=
      step_cases accepted
    · -- Registering sends nothing.
      exact .inr sent
    · by_cases same : s.ch = x.ch
      · -- The channel was empty, so what it holds now is what is sent.
        have fresh := sound.unsent x.ch (.inr (.inr ⟨x, member, rfl⟩))
        simp only [same, Function.update_self, Chan.push_sent, fresh, Chan.make_sent, List.nil_append,
          List.cons.injEq, and_true] at sent
        have equal : s = x := by
          cases s
          cases x
          simp_all
        exact .inl (equal ▸ member)
      · exact .inr (by simpa [Function.update_of_ne same] using sent)
    · -- Receiving leaves the history alone.
      by_cases same : s.ch = ch
      · exact .inr (by simpa [same] using sent)
      · exact .inr (by simpa [Function.update_of_ne same] using sent)
    · exact .inr (released.chans ▸ sent)

/-- Every result a waiter has been given was brought about by a step of the run. -/
theorem caused_of_runs {trace : List (Responses × ResponseEvent)} {r : Responses}
    (run : responses.Runs trace r) {s : ResponseSend} (given : r.Given s) :
    ∃ r₀ e transactionID waiter, (r₀, e) ∈ trace ∧ r₀.Causes e transactionID waiter s.result ∧ waiter.ch = s.ch := by
  induction run with
  | init => simp [responses, Given] at given
  | step earlier accepted ih =>
    rcases (sound_of_runs earlier).given_before accepted given with before | ⟨transactionID, waiter, causes, own⟩
    · obtain ⟨r₀, e, transactionID, waiter, member, causes, own⟩ := ih before
      exact ⟨r₀, e, transactionID, waiter, List.mem_append_left _ member, causes, own⟩
    · exact ⟨_, _, transactionID, waiter, by simp, causes, own⟩

/-- Registered waiters stay registered. -/
theorem registered_step {r r' : Responses} {e : ResponseEvent} (accepted : r.step e = some r') {ch : ChanID}
    {entry : UInt32 × ResponseWaiter} (registered : r.registered[ch]? = some entry) :
    r'.registered[ch]? = some entry := by
  obtain ⟨_, _, _, _, -, -, rfl⟩ | ⟨x, -, -, -, rfl⟩ | ⟨ch, -, rfl⟩ | ⟨_, _, released⟩ := step_cases accepted
  · rw [register, List.getElem?_append_left (List.getElem?_eq_some_iff.mp registered).1]
    exact registered
  · exact registered
  · exact registered
  · rw [released.registered]
    exact registered

/-- Who is pending at one step of a run is registered at its end. -/
theorem registered_of_pending {trace : List (Responses × ResponseEvent)} {r r₀ : Responses} {e : ResponseEvent}
    (run : responses.Runs trace r) (member : (r₀, e) ∈ trace) {transactionID : UInt32} {waiter : ResponseWaiter}
    (pending : r₀.pending.get transactionID = some waiter) :
    r.registered[waiter.ch]? = some (transactionID, waiter) := by
  obtain ⟨before, after, rfl⟩ := List.append_of_mem member
  obtain ⟨earlier, r₁, accepted, -⟩ := run.accepted
  have listed := (sound_of_runs earlier).listed _ _ pending
  exact run.since (P := fun r => r.registered[waiter.ch]? = some (transactionID, waiter))
    (fun _ _ _ _ _ registered accepted => registered_step accepted registered) accepted
    (registered_step accepted listed)

/-- What a message that is sent to a waiter has in common with it. -/
structure Answers (waiter : ResponseWaiter) (data : Bytes) : Prop where
  messageType : messageTypeOf data = waiter.messageType ∨ messageTypeOf data = MessageType.functionError
  command : messageTypeOf data = MessageType.commandDone → ∀ command, waiter.command = some command →
    ∀ header, CommandDoneHeader.unmarshalBinary data = .ok header →
      header.serviceID = command.serviceID ∧ header.commandID = command.commandID

/-- The match test accepts what answers the waiter's request only. -/
theorem answers_of_matches {waiter : ResponseWaiter} {data : Bytes}
    (answered : waiter.matches (messageTypeOf data) data = true) : Answers waiter data := by
  unfold ResponseWaiter.matches at answered
  split at answered
  · cases answered
  · rename_i typed
    refine ⟨by tauto, ?_⟩
    intro commandDone command expected header parsed
    simpa [commandDone, expected, parsed] using answered

end Responses

namespace Dispatcher

/-- Nothing is pending once the receiver has stopped. -/
theorem pending_of_stopped {trace : List (Dispatcher × DispatcherEvent)} {s : Dispatcher}
    (run : dispatcher.Runs trace s) (stopped : s.control.receiverErr.isSome) (transactionID : UInt32) :
    s.responses.pending.get transactionID = none := by
  induction run with
  | init => simp [dispatcher]
  | @step trace s s' e earlier accepted ih =>
    obtain before | ⟨err, rfl⟩ := receiverErr_before accepted stopped
    · -- A stopped receiver registers nobody.
      obtain ⟨-, same⟩ | ⟨re, seen, follows⟩ := step_responses accepted
      · rw [same]
        exact ih before
      · refine Option.eq_none_iff_forall_ne_some.mpr fun waiter pending => ?_
        obtain old | rfl := Responses.pending_step follows pending
        · simp [ih before] at old
        · obtain ⟨client, request, allowClosing, rfl, registered⟩ | ⟨_, _, stops⟩ | ⟨_, _, closes, _⟩ |
            ⟨_, free⟩ := responseOf_cases seen
          · obtain ⟨-, running, -⟩ := registerResponse_ok registered
            simp [running] at before
          · cases stops
          · cases closes
          · cases free
    · -- Stopping empties the pending responses.
      obtain ⟨unseen, -⟩ | ⟨re, seen, follows⟩ := step_responses accepted
      · cases unseen
      · cases seen
        rw [← Option.some.inj follows]
        simp [Responses.stopReceiver]

/-- Every response is routed to the waiter it answers, at most one to each, and without blocking;
once the receiver has stopped, every waiter has its result and none is registered. -/
theorem responses_routed {trace : List (Dispatcher × DispatcherEvent)} {s : Dispatcher}
    (run : dispatcher.Runs trace s) :
    (∀ ch, (s.responses.chans ch).sent.length ≤ 1) ∧
    (∀ x ∈ s.responses.sends, (s.step (.response (.send x))).isSome) ∧
    (∀ ch data, .data data ∈ (s.responses.chans ch).sent →
      ∃ waiter, s.responses.registered[ch]? = some (transactionIDOf data, waiter) ∧
        Responses.Answers waiter data) ∧
    ∀ s₀ err, (s₀, .stopReceiver err) ∈ trace →
      (∀ ch transactionID waiter, s.responses.registered[ch]? = some (transactionID, waiter) →
        (s.responses.chans ch).sent.length = 1 ∨ (∃ x ∈ s.responses.sends, x.ch = ch) ∨
          ∃ before, (before, .response (.unregisterResponse transactionID ch)) ∈ trace ∧
            before.responses.pending.get transactionID = some waiter) ∧
      (∀ transactionID waiter, s₀.responses.pending.get transactionID = some waiter →
        { ch := waiter.ch, result := .err err } ∈ s.responses.sends ∨
          (s.responses.chans waiter.ch).sent = [.err err]) ∧
      (∀ transactionID, s.responses.pending.get transactionID = none) ∧
      ∀ client request allowClosing, ∃ failure,
        (s.registerResponse client request allowClosing).2 = .error failure := by
  have sound := Responses.sound_of_runs (runs_responses run)
  refine ⟨sound.once, ?_, ?_, ?_⟩
  · -- A result in flight finds room on its channel.
    intro x member
    obtain ⟨r, sends⟩ := Option.isSome_iff_exists.mp (sound.send_accepted member)
    simp [step, DispatcherEvent.locks, effects, ResponseEvent.guarded, follow, sends]
  · -- A response is the answer that its waiter was registered for.
    intro ch data sent
    obtain ⟨waiter, registered, answered⟩ := sound.sent ch _ sent data rfl
    exact ⟨waiter, registered, Responses.answers_of_matches answered⟩
  · -- After the stop nobody is left without a result.
    intro s₀ err stops
    have stopped := stopped_of_mem run stops
    refine ⟨?_, ?_, pending_of_stopped run stopped, ?_⟩
    · intro ch transactionID waiter registered
      obtain pending | ⟨result, inFlight | sent⟩ | ⟨before, left, pending⟩ :=
        Responses.accounted_of_runs (runs_responses run) registered
      · cases (pending_of_stopped run stopped transactionID).symm.trans pending
      · exact .inr (.inl ⟨_, inFlight, rfl⟩)
      · exact .inl (by rw [sent]; rfl)
      · -- Leaving is a step of the caller itself.
        refine .inr (.inr ?_)
        obtain ⟨⟨state, e⟩, member, seen⟩ := List.mem_filterMap.mp left
        obtain ⟨re, seen, same⟩ := Option.map_eq_some_iff.mp seen
        cases same
        obtain ⟨_, _, _, _, registers⟩ | ⟨_, _, stops⟩ | ⟨_, _, closes, _⟩ | ⟨rfl, -⟩ := responseOf_cases seen
        · obtain ⟨-, -, _, -, made⟩ := registerResponse_ok registers
          cases made
        · cases stops
        · cases closes
        · exact ⟨state, member, pending⟩
    · intro transactionID waiter pending
      -- At the stop the waiter is taken, and what it is given it keeps.
      obtain ⟨before, after, rfl⟩ := List.append_of_mem stops
      have projected := runs_responses run
      have seen : s₀.responseOf (.stopReceiver err) = some (.stopReceiver err) := rfl
      rw [responseTrace_append seen] at projected
      have taken : (s₀.responses.stopReceiver err).Given { ch := waiter.ch, result := .err err } := by
        refine .inl (List.mem_append_right _ (List.mem_map.mpr ⟨(transactionID, waiter), ?_, rfl⟩))
        exact (s₀.responses.pending.mem_entries_iff _ _).mpr pending
      exact Responses.given_of_runs projected rfl taken
    · -- A stopped receiver refuses new requests.
      intro client request allowClosing
      cases registered : (s.registerResponse client request allowClosing).2 with
      | error failure => exact ⟨failure, rfl⟩
      | ok re =>
        obtain ⟨-, running, -⟩ := registerResponse_ok registered
        simp [running] at stopped

/-- A request is pending when the receiver stops. -/
def stoppedRequest : List DispatcherEvent :=
  [.registerResponse { lease := none, connected := true }
      { messageType := MessageType.open, transactionID := 1, command := none } false,
    .stopReceiver errReceiverStopped,
    .response (.send { ch := 0, result := .err errReceiverStopped })]

/-- The pending request is given the receiver's error, and no request is registered after it. -/
theorem stoppedRequest_routed :
    ∃ trace s, dispatcher.Runs trace s ∧ trace.map Prod.snd = stoppedRequest ∧
      (s.responses.chans 0).sent = [.err errReceiverStopped] ∧
      (s.responses.chans 0).sent.length ≤ 1 ∧ s.responses.pending.get 1 = none ∧
      ∀ client request, ∃ failure, (s.registerResponse client request false).2 = .error failure := by
  have accepted : (dispatcher.runFrom dispatcher.init stoppedRequest).isSome := by decide
  have run := Machine.Runs.ofEvents dispatcher stoppedRequest accepted
  obtain ⟨once, -, -, stopped⟩ := responses_routed run
  obtain ⟨-, -, empty, refused⟩ := stopped _ errReceiverStopped
    (List.mem_cons_of_mem _ (List.mem_cons_self))
  exact ⟨_, _, run, rfl, rfl, once 0, empty 1, fun client request => refused client request false⟩

end Dispatcher

end Wwan.Mbim
