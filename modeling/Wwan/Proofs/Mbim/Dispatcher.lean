import Wwan.Mbim.Dispatcher

/-! The parts of the dispatcher along its runs. -/

namespace Wwan.Mbim

/-- The responses of a new client on their own. -/
def responses : Machine Responses ResponseEvent := { init := {}, step := Responses.step }

/-- The indications of a new client on their own. -/
def indications : Machine Indications IndicationEvent := { init := {}, step := Indications.step }

/-- The receiver is only started for an open lease of a client whose receiver has not stopped. -/
theorem Control.ensureReceiverLocked_ok {c c' : Control} {client : Client} {allowClosing : Bool}
    (started : c.ensureReceiverLocked client allowClosing = .ok c') :
    c.leaseClosed client = false ∧ c.receiverErr = none ∧ c' = { c with receiverStarted := true } := by
  unfold ensureReceiverLocked at started
  cases stopped : c.receiverErr with
  | some err =>
    -- A stopped receiver is not started again.
    simp only [stopped] at started
    split_ifs at started
  | none =>
    simp only [stopped] at started
    split_ifs at started with leaseClosed closed closing running missing
    · -- It runs already.
      cases started
      exact ⟨by simpa using leaseClosed, rfl, by rw [← running, ← stopped]⟩
    · -- It starts now.
      cases started
      exact ⟨by simpa using leaseClosed, rfl, rfl⟩

namespace Dispatcher

/-- What a step of the dispatcher does to its parts. -/
theorem step_parts {s s' : Dispatcher} {e : DispatcherEvent} (accepted : s.step e = some s') :
    ∃ effects, s.effects e = some effects ∧ s'.control = effects.control ∧
      (effects.response = none → s'.responses = s.responses) ∧
      (∀ re, effects.response = some re → s.responses.step re = some s'.responses) ∧
      (effects.indication = none → s'.indications = s.indications) ∧
      (∀ ie, effects.indication = some ie → s.indications.step ie = some s'.indications) := by
  unfold step at accepted
  split at accepted
  · -- The lock is held by a delivery.
    cases accepted
  · simp only [Option.bind_eq_bind, Option.bind_eq_some_iff] at accepted
    obtain ⟨effects, happens, responses, first, indications, second, made⟩ := accepted
    cases made
    -- Each part takes its own step, or none.
    refine ⟨effects, happens, rfl, ?_, ?_, ?_, ?_⟩
    · intro idle
      simpa [idle, follow] using first.symm
    · intro re moves
      simpa [moves, follow] using first
    · intro idle
      simpa [idle, follow] using second.symm
    · intro ie moves
      simpa [moves, follow] using second

/-- The step of the responses that an event brings about. -/
def responseOf (s : Dispatcher) (e : DispatcherEvent) : Option ResponseEvent :=
  (s.effects e).bind Effects.response

/-- The step of the indications that an event brings about. -/
def indicationOf (s : Dispatcher) (e : DispatcherEvent) : Option IndicationEvent :=
  (s.effects e).bind Effects.indication

/-- The steps of the responses in a run of the dispatcher. -/
def responseTrace (trace : List (Dispatcher × DispatcherEvent)) : List (Responses × ResponseEvent) :=
  trace.filterMap fun (s, e) => (s.responseOf e).map fun re => (s.responses, re)

/-- The steps of the indications in a run of the dispatcher. -/
def indicationTrace (trace : List (Dispatcher × DispatcherEvent)) :
    List (Indications × IndicationEvent) :=
  trace.filterMap fun (s, e) => (s.indicationOf e).map fun ie => (s.indications, ie)

/-- The steps of the responses around one of them. -/
theorem responseTrace_append {before after : List (Dispatcher × DispatcherEvent)} {s : Dispatcher}
    {e : DispatcherEvent} {re : ResponseEvent} (seen : s.responseOf e = some re) :
    responseTrace (before ++ (s, e) :: after) =
      responseTrace before ++ (s.responses, re) :: responseTrace after := by
  simp [responseTrace, seen]

/-- The steps of the indications around one of them. -/
theorem indicationTrace_append {before after : List (Dispatcher × DispatcherEvent)} {s : Dispatcher}
    {e : DispatcherEvent} {ie : IndicationEvent} (seen : s.indicationOf e = some ie) :
    indicationTrace (before ++ (s, e) :: after) =
      indicationTrace before ++ (s.indications, ie) :: indicationTrace after := by
  simp [indicationTrace, seen]

/-- A waiter is only registered for an open lease, while the receiver has not stopped. -/
theorem registerResponse_ok {s : Dispatcher} {client : Client} {request : Request} {allowClosing : Bool}
    {e : ResponseEvent} (registered : (s.registerResponse client request allowClosing).2 = .ok e) :
    s.control.leaseClosed client = false ∧ s.control.receiverErr = none ∧
      ∃ messageType, responseMessageType request.messageType = some messageType ∧
        e = .register request.transactionID messageType request.expectedCommand client.lease := by
  unfold registerResponse at registered
  cases awaited : responseMessageType request.messageType with
  | none => simp [awaited] at registered
  | some messageType =>
    cases started : s.control.ensureReceiverLocked client allowClosing with
    | error err => simp [awaited, started] at registered
    | ok control =>
      -- The transaction must not be pending already.
      simp only [awaited, started] at registered
      split at registered
      · cases registered
      · cases registered
        obtain ⟨openLease, running, -⟩ := Control.ensureReceiverLocked_ok started
        exact ⟨openLease, running, messageType, rfl, rfl⟩

/-- A call for an indication only waits for an open lease, while the receiver has not stopped. -/
theorem nextIndication_ok {s : Dispatcher} {client : Client} {key : IndicationKey} {e : IndicationEvent}
    (called : (s.nextIndication client key).2 = .ok e) :
    s.control.leaseClosed client = false ∧ e = .nextIndication key client.lease ∧
      (s.indications.indications.items key = [] → s.control.receiverErr = none) := by
  unfold nextIndication at called
  split_ifs at called with leaseClosed closed queued
  · -- There is an indication in the queue, and nothing to wait for.
    cases called
    exact ⟨by simpa using leaseClosed, rfl, fun empty => absurd empty queued⟩
  · -- The call has to wait, and the receiver must run for it.
    cases stopped : s.control.receiverErr with
    | some err => simp [stopped] at called
    | none =>
      cases started : s.control.ensureReceiverLocked client false with
      | error err => simp [stopped, started] at called
      | ok control =>
        simp only [stopped, started] at called
        cases called
        exact ⟨by simpa using leaseClosed, rfl, fun _ => rfl⟩

/-- A subscription is only added for an open lease, while the receiver has not stopped. -/
theorem subscribeIndication_ok {s : Dispatcher} {client : Client} {key : IndicationKey}
    {e : IndicationEvent} (subscribed : (s.subscribeIndication client key).2 = .ok e) :
    s.control.leaseClosed client = false ∧
      ((s.control.receiverErr = none ∧ e = .subscribeIndication key client.lease) ∨
        ∃ err, s.control.receiverErr = some err ∧ e = .subscribeStopped key err) := by
  unfold subscribeIndication at subscribed
  -- A lease that is closed, and a dispatcher that is, refuse the subscription.
  by_cases leaseClosed : s.control.leaseClosed client = true
  · simp [leaseClosed] at subscribed
  by_cases closed : (s.control.closed || s.control.closing) = true
  · simp [leaseClosed, closed] at subscribed
  simp only [leaseClosed, closed] at subscribed
  refine ⟨by simpa using leaseClosed, ?_⟩
  cases stopped : s.control.receiverErr with
  | some err =>
    -- After the stop only what is queued is still delivered.
    simp only [stopped] at subscribed
    by_cases empty : s.indications.indications.items key = []
    · simp [empty] at subscribed
    · simp only [empty, if_false] at subscribed
      cases subscribed
      exact .inr ⟨err, rfl, rfl⟩
  | none =>
    -- Otherwise the receiver is started where it does not run.
    cases started : s.control.ensureReceiverLocked client false with
    | error err => simp [stopped, started] at subscribed
    | ok control =>
      simp only [stopped, started] at subscribed
      cases subscribed
      exact .inl ⟨rfl, rfl⟩

/-- An event reaches the responses through its operation's checks, or is one of their own. -/
theorem responseOf_cases {s : Dispatcher} {e : DispatcherEvent} {re : ResponseEvent}
    (seen : s.responseOf e = some re) :
    (∃ client request allowClosing, e = .registerResponse client request allowClosing ∧
      (s.registerResponse client request allowClosing).2 = .ok re) ∨
    (∃ err, e = .stopReceiver err ∧ re = .stopReceiver err) ∨
    (∃ lease, e = .sweepLease lease ∧ re = .closeLease lease ∧ lease ∈ s.control.sweeping) ∨
    (e = .response re ∧ re.guarded = false) := by
  cases e with
  -- Starting the receiver alone reaches no response.
  | startReceiver client =>
    simp only [responseOf, Dispatcher.effects] at seen
    cases started : s.control.ensureReceiverLocked client false <;> simp [started] at seen
  | registerResponse client request allowClosing =>
    -- A request that passes its checks is registered.
    simp only [responseOf, Dispatcher.effects, Option.bind_some] at seen
    cases made : (s.registerResponse client request allowClosing).2 with
    | error err => simp [made, Except.toOption] at seen
    | ok re' =>
      simp only [made, Except.toOption, Option.some.injEq] at seen
      subst seen
      exact .inl ⟨_, _, _, rfl, made⟩
  | stopReceiver err =>
    cases seen
    exact .inr (.inl ⟨err, rfl, rfl⟩)
  | sweepLease lease =>
    -- Closing a lease reaches the responses when its entries are removed.
    simp only [responseOf, Dispatcher.effects] at seen
    split at seen
    · rename_i listed
      cases seen
      exact .inr (.inr (.inl ⟨lease, rfl, rfl, by simpa using listed⟩))
    · cases seen
  | response re' =>
    -- The others are the steps of the responses themselves.
    simp only [responseOf, Dispatcher.effects] at seen
    split at seen
    · cases seen
    · rename_i free
      cases seen
      exact .inr (.inr (.inr ⟨rfl, by simpa using free⟩))
  | indication ie =>
    simp only [responseOf, Dispatcher.effects] at seen
    split at seen <;> cases seen
  | _ => cases seen

/-- An event reaches the indications through its operation's checks, or is one of their own. -/
theorem indicationOf_cases {s : Dispatcher} {e : DispatcherEvent} {ie : IndicationEvent}
    (seen : s.indicationOf e = some ie) :
    (∃ client key, e = .nextIndication client key ∧ (s.nextIndication client key).2 = .ok ie) ∨
    (∃ client key, e = .subscribeIndication client key ∧
      (s.subscribeIndication client key).2 = .ok ie) ∨
    (∃ err, e = .stopReceiver err ∧ ie = .stopReceiver err) ∨
    (∃ lease, e = .sweepLease lease ∧ ie = .closeLease lease ∧ lease ∈ s.control.sweeping) ∨
    (e = .indication ie ∧ ie.guarded = false) := by
  cases e with
  | startReceiver client =>
    -- Starting the receiver alone reaches no indication.
    simp only [indicationOf, Dispatcher.effects] at seen
    cases started : s.control.ensureReceiverLocked client false <;> simp [started] at seen
  | nextIndication client key =>
    -- A call that passes its checks is registered.
    simp only [indicationOf, Dispatcher.effects, Option.bind_some] at seen
    cases made : (s.nextIndication client key).2 with
    | error err => simp [made, Except.toOption] at seen
    | ok ie' =>
      simp only [made, Except.toOption, Option.some.injEq] at seen
      subst seen
      exact .inl ⟨_, _, rfl, made⟩
  | subscribeIndication client key =>
    -- So is a subscription.
    simp only [indicationOf, Dispatcher.effects, Option.bind_some] at seen
    cases made : (s.subscribeIndication client key).2 with
    | error err => simp [made, Except.toOption] at seen
    | ok ie' =>
      simp only [made, Except.toOption, Option.some.injEq] at seen
      subst seen
      exact .inr (.inl ⟨_, _, rfl, made⟩)
  | stopReceiver err =>
    cases seen
    exact .inr (.inr (.inl ⟨err, rfl, rfl⟩))
  | sweepLease lease =>
    -- Closing a lease reaches the indications when its entries are removed.
    simp only [indicationOf, Dispatcher.effects] at seen
    split at seen
    · rename_i listed
      cases seen
      exact .inr (.inr (.inr (.inl ⟨lease, rfl, rfl, by simpa using listed⟩)))
    · cases seen
  | response re =>
    simp only [indicationOf, Dispatcher.effects] at seen
    split at seen <;> cases seen
  | indication ie' =>
    -- The others are the steps of the indications themselves.
    simp only [indicationOf, Dispatcher.effects] at seen
    split at seen
    · cases seen
    · rename_i free
      cases seen
      exact .inr (.inr (.inr (.inr ⟨rfl, by simpa using free⟩)))
  | _ => cases seen

/-- A step of the dispatcher is a step of its responses, or leaves them alone. -/
theorem step_responses {s s' : Dispatcher} {e : DispatcherEvent} (accepted : s.step e = some s') :
    (s.responseOf e = none ∧ s'.responses = s.responses) ∨
      ∃ re, s.responseOf e = some re ∧ s.responses.step re = some s'.responses := by
  obtain ⟨effects, happens, -, idle, follows, -⟩ := step_parts accepted
  cases made : effects.response with
  | none => exact .inl ⟨by simp [responseOf, happens, made], idle made⟩
  | some re => exact .inr ⟨re, by simp [responseOf, happens, made], follows re made⟩

/-- A step of the dispatcher is a step of its indications, or leaves them alone. -/
theorem step_indications {s s' : Dispatcher} {e : DispatcherEvent} (accepted : s.step e = some s') :
    (s.indicationOf e = none ∧ s'.indications = s.indications) ∨
      ∃ ie, s.indicationOf e = some ie ∧ s.indications.step ie = some s'.indications := by
  obtain ⟨effects, happens, -, -, -, idle, follows⟩ := step_parts accepted
  cases made : effects.indication with
  | none => exact .inl ⟨by simp [indicationOf, happens, made], idle made⟩
  | some ie => exact .inr ⟨ie, by simp [indicationOf, happens, made], follows ie made⟩

/-- The responses of a dispatcher run as responses do. -/
theorem runs_responses {trace : List (Dispatcher × DispatcherEvent)} {s : Dispatcher}
    (run : dispatcher.Runs trace s) : Mbim.responses.Runs (responseTrace trace) s.responses := by
  refine run.project Dispatcher.responses responseOf rfl ?_ ?_
  · -- A step that the responses do not see leaves them as they were.
    intro s e s' accepted unseen
    obtain ⟨-, same⟩ | ⟨re, seen, -⟩ := step_responses accepted
    · exact same
    · cases unseen.symm.trans seen
  · -- A step that they see is one of theirs.
    intro s e s' re accepted seen
    obtain ⟨unseen, -⟩ | ⟨re', seen', follows⟩ := step_responses accepted
    · cases unseen.symm.trans seen
    · cases seen'.symm.trans seen
      exact follows

/-- The indications of a dispatcher run as indications do. -/
theorem runs_indications {trace : List (Dispatcher × DispatcherEvent)} {s : Dispatcher}
    (run : dispatcher.Runs trace s) :
    Mbim.indications.Runs (indicationTrace trace) s.indications := by
  refine run.project Dispatcher.indications indicationOf rfl ?_ ?_
  · -- A step that the indications do not see leaves them as they were.
    intro s e s' accepted unseen
    obtain ⟨-, same⟩ | ⟨ie, seen, -⟩ := step_indications accepted
    · exact same
    · cases unseen.symm.trans seen
  · -- A step that they see is one of theirs.
    intro s e s' ie accepted seen
    obtain ⟨unseen, -⟩ | ⟨ie', seen', follows⟩ := step_indications accepted
    · cases unseen.symm.trans seen
    · cases seen'.symm.trans seen
      exact follows

/-- Checking a request at most starts the receiver. -/
theorem registerResponse_control (s : Dispatcher) (client : Client) (request : Request)
    (allowClosing : Bool) :
    (s.registerResponse client request allowClosing).1 = s.control ∨
      (s.registerResponse client request allowClosing).1 = { s.control with receiverStarted := true } := by
  unfold registerResponse
  cases responseMessageType request.messageType with
  | none => exact .inl rfl
  | some messageType =>
    cases started : s.control.ensureReceiverLocked client allowClosing with
    | error err => exact .inl rfl
    | ok control =>
      obtain ⟨-, -, rfl⟩ := Control.ensureReceiverLocked_ok started
      by_cases taken : (s.responses.pending.get request.transactionID).isSome <;>
        exact .inr (by simp [taken])

/-- Checking a call for an indication at most starts the receiver. -/
theorem nextIndication_control (s : Dispatcher) (client : Client) (key : IndicationKey) :
    (s.nextIndication client key).1 = s.control ∨
      (s.nextIndication client key).1 = { s.control with receiverStarted := true } := by
  unfold nextIndication
  cases started : s.control.ensureReceiverLocked client false with
  | error err => cases s.control.receiverErr <;> exact .inl (by split_ifs <;> rfl)
  | ok control =>
    obtain ⟨-, -, rfl⟩ := Control.ensureReceiverLocked_ok started
    cases stopped : s.control.receiverErr with
    | some err => exact .inl (by split_ifs <;> rfl)
    | none => split_ifs <;> first | exact .inl rfl | exact .inr (by simp [stopped])

/-- Checking a subscription at most starts the receiver. -/
theorem subscribeIndication_control (s : Dispatcher) (client : Client) (key : IndicationKey) :
    (s.subscribeIndication client key).1 = s.control ∨
      (s.subscribeIndication client key).1 = { s.control with receiverStarted := true } := by
  unfold subscribeIndication
  cases started : s.control.ensureReceiverLocked client false with
  | error err => cases s.control.receiverErr <;> exact .inl (by split_ifs <;> rfl)
  | ok control =>
    obtain ⟨-, -, rfl⟩ := Control.ensureReceiverLocked_ok started
    cases stopped : s.control.receiverErr with
    | some err => exact .inl (by split_ifs <;> rfl)
    | none => split_ifs <;> first | exact .inl rfl | exact .inr (by simp [stopped])

/-- The part of the control that an event changes on purpose. -/
def controlAfter (c : Control) : DispatcherEvent → Control
  | .stopReceiver err => c.stopReceiver err
  | .closeLease lease => c.closeLease lease
  | .sweepLease lease => { c with sweeping := c.sweeping.erase lease }
  | _ => c

/-- What an event does to the receiver's error and to the leases. -/
structure ControlStep (c c' : Control) (e : DispatcherEvent) : Prop where
  receiverErr : c'.receiverErr = (controlAfter c e).receiverErr
  closedLeases : c'.closedLeases = (controlAfter c e).closedLeases
  sweeping : c'.sweeping = (controlAfter c e).sweeping

/-- An event that at most starts the receiver. -/
theorem controlStep_of_started {c c' : Control} {e : DispatcherEvent} (nothing : controlAfter c e = c)
    (same : c' = c ∨ c' = { c with receiverStarted := true }) : ControlStep c c' e := by
  obtain rfl | rfl := same <;> exact ⟨by rw [nothing], by rw [nothing], by rw [nothing]⟩

/-- Stopping changes the receiver's error, and closing leases the leases; nothing else does. -/
theorem effects_control {s : Dispatcher} {e : DispatcherEvent} {effects : Effects}
    (happens : s.effects e = some effects) : ControlStep s.control effects.control e := by
  cases e with
  | startReceiver client =>
    -- Starting the receiver sets that it runs, and nothing else.
    simp only [Dispatcher.effects] at happens
    refine controlStep_of_started rfl ?_
    cases started : s.control.ensureReceiverLocked client false with
    | error err =>
      simp only [started, Option.some.injEq] at happens
      exact .inl (by rw [← happens])
    | ok control =>
      simp only [started, Option.some.injEq] at happens
      obtain ⟨-, -, rfl⟩ := Control.ensureReceiverLocked_ok started
      exact .inr (by rw [← happens])
  | beginClose =>
    cases happens
    -- Closing begins once.
    unfold Control.beginClose
    split <;> exact ⟨rfl, rfl, rfl⟩
  | finishClose =>
    cases happens
    exact ⟨rfl, rfl, rfl⟩
  | registerResponse client request allowClosing =>
    -- The calls start the receiver at most.
    simp only [Dispatcher.effects, Option.some.injEq] at happens
    subst happens
    exact controlStep_of_started rfl (s.registerResponse_control client request allowClosing)
  | nextIndication client key =>
    simp only [Dispatcher.effects, Option.some.injEq] at happens
    subst happens
    exact controlStep_of_started rfl (s.nextIndication_control client key)
  | subscribeIndication client key =>
    simp only [Dispatcher.effects, Option.some.injEq] at happens
    subst happens
    exact controlStep_of_started rfl (s.subscribeIndication_control client key)
  | stopReceiver err =>
    cases happens
    exact ⟨rfl, rfl, rfl⟩
  | closeLease lease =>
    cases happens
    exact ⟨rfl, rfl, rfl⟩
  | sweepLease lease =>
    simp only [Dispatcher.effects] at happens
    split at happens <;> cases happens
    exact ⟨rfl, rfl, rfl⟩
  | response re =>
    simp only [Dispatcher.effects] at happens
    split at happens <;> cases happens
    exact ⟨rfl, rfl, rfl⟩
  | indication ie =>
    simp only [Dispatcher.effects] at happens
    split at happens <;> cases happens
    exact ⟨rfl, rfl, rfl⟩

/-- What a step does to the receiver's error and to the leases. -/
theorem step_control {s s' : Dispatcher} {e : DispatcherEvent} (accepted : s.step e = some s') :
    ControlStep s.control s'.control e := by
  obtain ⟨effects, happens, same, -⟩ := step_parts accepted
  rw [same]
  exact effects_control happens

/-- A stopped receiver stays stopped. -/
theorem receiverErr_step {s s' : Dispatcher} {e : DispatcherEvent} (accepted : s.step e = some s')
    (stopped : s.control.receiverErr.isSome) : s'.control.receiverErr.isSome := by
  rw [(step_control accepted).receiverErr]
  cases e with
  | stopReceiver err => rfl
  | closeLease lease =>
    simp only [controlAfter, Control.closeLease]
    split <;> exact stopped
  | _ => exact stopped

/-- A stopped receiver was stopped before the step, or is stopped by it. -/
theorem receiverErr_before {s s' : Dispatcher} {e : DispatcherEvent} (accepted : s.step e = some s')
    (stopped : s'.control.receiverErr.isSome) :
    s.control.receiverErr.isSome ∨ ∃ err, e = .stopReceiver err := by
  rw [(step_control accepted).receiverErr] at stopped
  cases e with
  | stopReceiver err => exact .inr ⟨err, rfl⟩
  | closeLease lease =>
    simp only [controlAfter, Control.closeLease] at stopped
    split at stopped <;> exact .inl stopped
  | _ => exact .inl stopped

/-- Once the receiver has been stopped it stays stopped. -/
theorem stopped_of_mem {trace : List (Dispatcher × DispatcherEvent)} {s s₀ : Dispatcher} {err : Error}
    (run : dispatcher.Runs trace s) (stops : (s₀, .stopReceiver err) ∈ trace) :
    s.control.receiverErr.isSome := by
  induction run with
  | init => cases stops
  | step earlier accepted ih =>
    rcases List.mem_append.mp stops with before | now
    · -- It had been stopped before, and stays so.
      exact receiverErr_step accepted (ih before)
    · -- It is stopped by this step.
      simp only [List.mem_singleton, Prod.mk.injEq] at now
      obtain ⟨rfl, rfl⟩ := now
      rw [(step_control accepted).receiverErr]
      rfl

end Dispatcher

end Wwan.Mbim
