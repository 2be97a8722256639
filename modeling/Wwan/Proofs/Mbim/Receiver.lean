import Wwan.Mbim.Receiver
import Wwan.Proofs.Mbim.Routing

/-! Faults of fragments fail the requests they belong to, as long as no other request has their transaction. -/

namespace Wwan.Mbim

/-- The reports still to be made. -/
def ReceiverStage.reports : ReceiverStage → List Report
  | .failing report rest | .notifying report rest => report :: rest
  | _ => []

/-- Going on to the next report leaves the others. -/
theorem ReceiverStage.reports_next (reports : List Report) : (ReceiverStage.next reports).reports = reports := by
  cases reports <;> rfl

namespace Receiver

/-- What a step of the receiver does to its parts. -/
theorem step_parts {s s' : Receiver} {e : ReceiverEvent} (accepted : s.step e = some s') :
    ∃ fx, s.effects e = some fx ∧ s'.collectors = fx.collectors ∧ s'.stage = fx.stage ∧
      follow Dispatcher.step s.dispatcher fx.dispatcher = some s'.dispatcher := by
  unfold step at accepted
  simp only [Option.bind_eq_bind, Option.bind_eq_some_iff] at accepted
  obtain ⟨fx, happens, dispatcher, follows, made⟩ := accepted
  cases made
  exact ⟨fx, happens, rfl, rfl, follows⟩

/-- The step of the dispatcher that an event brings about. -/
def dispatcherOf (s : Receiver) (e : ReceiverEvent) : Option DispatcherEvent :=
  (s.effects e).bind ReceiverEffects.dispatcher

/-- The steps of the dispatcher in a run of the receiver. -/
def dispatcherTrace (trace : List (Receiver × ReceiverEvent)) : List (Dispatcher × DispatcherEvent) :=
  trace.filterMap fun (s, e) => (s.dispatcherOf e).map fun de => (s.dispatcher, de)

/-- The dispatcher beside a receiver runs as dispatchers do. -/
theorem runs_dispatcher {trace : List (Receiver × ReceiverEvent)} {s : Receiver}
    (run : receiver.Runs trace s) : Mbim.dispatcher.Runs (dispatcherTrace trace) s.dispatcher := by
  refine run.project Receiver.dispatcher dispatcherOf rfl ?_ ?_
  · intro s e s' accepted unseen
    obtain ⟨fx, happens, -, -, follows⟩ := step_parts accepted
    rw [dispatcherOf, happens, Option.bind_some] at unseen
    rw [unseen] at follows
    exact (Option.some.inj follows).symm
  · intro s e s' de accepted seen
    obtain ⟨fx, happens, -, -, follows⟩ := step_parts accepted
    rw [dispatcherOf, happens, Option.bind_some] at seen
    rw [seen] at follows
    exact follows

/-- What the receiver itself does to the dispatcher. -/
inductive Acts (s : Receiver) : DispatcherEvent → Prop where
  | delivers {data : Bytes} : s.stage = .handling data → isResponseMessage (messageTypeOf data) = true →
      Acts s (.response (.deliverResponse data))
  | publishes {data : Bytes} {indication : Indication} : s.stage = .handling data →
      Indication.unmarshalBinary data = .ok indication → Acts s (.indication (.publishIndication indication))
  | fails {report : Report} {rest : List Report} : s.stage = .failing report rest →
      Acts s (.response (.failResponse report.transactionID (.protocol report.status)))
  | stops {err : Error} : s.stage = .stopping err → Acts s (.stopReceiver err)

/-- The dispatcher takes a step when the receiver goes on, or when another goroutine takes one. -/
theorem dispatcherOf_cases {s : Receiver} {e : ReceiverEvent} {de : DispatcherEvent}
    (seen : s.dispatcherOf e = some de) :
    (e = .advance ∧ s.Acts de) ∨ (e = .other de ∧ de.ofReceiver = false) := by
  cases e with
  | frame frame now =>
    -- Reading a frame only concerns the receiver itself.
    simp only [dispatcherOf, effects] at seen
    split at seen
    · unfold receiveFrame at seen
      repeat' split at seen
      all_goals cases seen
    · cases seen
  | readError err =>
    -- Neither a read error nor an expiry gets as far as the dispatcher.
    simp only [dispatcherOf, effects] at seen
    split at seen <;> cases seen
  | expire now =>
    simp only [dispatcherOf, effects] at seen
    split at seen <;> cases seen
  | advance =>
    refine .inl ⟨rfl, ?_⟩
    -- Going on is delivering, publishing, failing or stopping, as the stage says.
    simp only [dispatcherOf, effects, advance] at seen
    split at seen
    · rename_i data handling
      unfold handle at seen
      split at seen
      · rename_i response
        cases seen
        exact .delivers handling response
      · split at seen
        · split at seen
          · rename_i indication parsed
            cases seen
            exact .publishes handling parsed
          · cases seen
          · cases seen
        · cases seen
    · rename_i report rest failing
      cases seen
      exact .fails failing
    · rename_i err stopping
      cases seen
      exact .stops stopping
    · cases seen
  | sendHostError failure =>
    simp only [dispatcherOf, effects] at seen
    split at seen <;> cases seen
  | other de' =>
    -- The others get in while the receiver is between its steps.
    simp only [dispatcherOf, effects] at seen
    split at seen
    · cases seen
    · rename_i free
      cases seen
      exact .inr ⟨rfl, by simpa using free⟩

/-- A message that was at fault: a frame of it was refused, or its collection expired. -/
def Faulted (trace : List (Receiver × ReceiverEvent)) (key : FragmentKey) : Prop :=
  (∃ s frame now fault, (s, .frame frame now) ∈ trace ∧ frameKey frame.data = key ∧
    (collectReceivedFrame s.collectors frame.data now).2 = .fault fault) ∨
  ∃ s now, (s, .expire now) ∈ trace ∧ key ∈ expiredKeys s.collectors now

/-- A longer run has the faults of a shorter one. -/
theorem Faulted.append {trace : List (Receiver × ReceiverEvent)} {key : FragmentKey}
    (faulted : Faulted trace key) (more : List (Receiver × ReceiverEvent)) : Faulted (trace ++ more) key := by
  rcases faulted with ⟨s, frame, now, fault, member, same, refused⟩ | ⟨s, now, member, expired⟩
  · exact .inl ⟨s, frame, now, fault, List.mem_append_left _ member, same, refused⟩
  · exact .inr ⟨s, now, List.mem_append_left _ member, expired⟩

/-- A report names messages that were at fault, all of its own transaction. -/
def Reported (trace : List (Receiver × ReceiverEvent)) (report : Report) : Prop :=
  ∀ key ∈ report.keys, key.transactionID = report.transactionID ∧ Faulted trace key

/-- A refused frame names its own transaction. -/
theorem fault_transactionID {collectors : Collectors} {buf : Bytes} {now : Time} {fault : FragmentFault}
    (refused : (collectReceivedFrame collectors buf now).2 = .fault fault) :
    fault.transactionID = transactionIDOf buf := by
  -- Every fault is made from the frame.
  have own {fault' : FragmentFault} (same : Received.fault fault' = .fault fault)
      (made : fault' = outOfSequence buf) : fault.transactionID = transactionIDOf buf := by
    cases same
    rw [made]
    rfl
  unfold collectReceivedFrame at refused
  simp only at refused
  repeat' split at refused
  all_goals first | exact own refused rfl | cases refused

/-- The reports after a step were there before it, or are of a fault that it finds. -/
theorem reports_step {s s' : Receiver} {e : ReceiverEvent} (accepted : s.step e = some s') {report : Report}
    (member : report ∈ s'.stage.reports) :
    report ∈ s.stage.reports ∨ Reported [(s, e)] report := by
  obtain ⟨fx, happens, -, stage, -⟩ := step_parts accepted
  rw [stage] at member
  cases e with
  | frame frame now =>
    refine .inr ?_
    simp only [effects] at happens
    split at happens
    · -- A frame that is refused is reported with the fault of its own message.
      unfold receiveFrame at happens
      split at happens
      · split at happens
        · cases happens
          cases member
        · cases happens
          cases member
        · rename_i collectors fault collected
          cases happens
          simp only [ReceiverStage.reports, List.mem_singleton] at member
          subst member
          have refused : (collectReceivedFrame s.collectors frame.data now).2 = .fault fault := by rw [collected]
          intro key inside
          rw [List.mem_singleton.mp inside]
          exact ⟨(fault_transactionID refused).symm, .inl ⟨s, frame, now, fault, by simp, rfl, refused⟩⟩
        · cases happens
      · cases happens
        cases member
    · cases happens
  | readError err =>
    simp only [effects] at happens
    split at happens <;> cases happens
    cases member
  | expire now =>
    refine .inr ?_
    simp only [effects] at happens
    split at happens
    · cases happens
      -- The expired collections are reported, each with its own transaction.
      rw [ReceiverStage.reports_next, expiryReports, List.mem_map] at member
      obtain ⟨transactionID, -, rfl⟩ := member
      intro key inside
      obtain ⟨expired, same⟩ := List.mem_filter.mp inside
      exact ⟨by simpa using same, .inr ⟨s, now, by simp, expired⟩⟩
    · cases happens
  | advance =>
    refine .inl ?_
    -- Going on drops a report once its waiter has failed.
    simp only [effects, advance] at happens
    split at happens
    · -- A whole message leaves nothing to report.
      unfold handle at happens
      repeat' split at happens
      all_goals cases happens
      all_goals cases member
    · rename_i report' rest failing
      cases happens
      rw [failing]
      exact member
    · cases happens
      cases member
    · cases happens
  | sendHostError failure =>
    refine .inl ?_
    -- The report has been sent to the modem.
    simp only [effects] at happens
    split at happens
    · rename_i report' rest notifying
      cases happens
      rw [ReceiverStage.reports_next] at member
      rw [notifying]
      exact List.mem_cons_of_mem _ member
    · cases happens
      cases member
    · cases happens
  | other de =>
    -- The others report nothing.
    simp only [effects] at happens
    split at happens <;> cases happens
    exact .inl member

/-- Every report of a run is of faults of that run. -/
theorem reported_of_runs {trace : List (Receiver × ReceiverEvent)} {s : Receiver} (run : receiver.Runs trace s)
    {report : Report} (member : report ∈ s.stage.reports) : Reported trace report := by
  induction run with
  | init => cases member
  | step earlier accepted ih =>
    rcases reports_step accepted member with before | now
    · intro key inside
      exact ⟨(ih before key inside).1, (ih before key inside).2.append _⟩
    · intro key inside
      refine ⟨(now key inside).1, ?_⟩
      rcases (now key inside).2 with ⟨s, frame, now, fault, listed, same, refused⟩ | ⟨s, now, listed, expired⟩
      · exact .inl ⟨s, frame, now, fault, List.mem_append_right _ listed, same, refused⟩
      · exact .inr ⟨s, now, List.mem_append_right _ listed, expired⟩

/-- What a waiter may be given its result for. -/
inductive Cause (trace : List (Receiver × ReceiverEvent)) (transactionID : UInt32) (waiter : ResponseWaiter) :
    ResponseResult → Prop where
  /-- A message of its transaction, of the awaited type or a function error. -/
  | answer {data : Bytes} : transactionIDOf data = transactionID →
      (messageTypeOf data = waiter.messageType ∨ messageTypeOf data = MessageType.functionError) →
      Cause trace transactionID waiter (.data data)
  /-- A fault on a message of its transaction and of the awaited type. -/
  | fault {status : ProtocolError} : Faulted trace { messageType := waiter.messageType, transactionID } →
      Cause trace transactionID waiter (.err (.protocol status))
  /-- The receiver's stop while it was pending. -/
  | stop {s : Receiver} {err : Error} : (s, .advance) ∈ trace → s.stage = .stopping err →
      s.dispatcher.responses.pending.get transactionID = some waiter →
      Cause trace transactionID waiter (.err err)
  /-- The end of its lease. -/
  | lease {s : Receiver} {lease : Lease} : (s, .other (.sweepLease lease)) ∈ trace → waiter.owner = some lease →
      Cause trace transactionID waiter (.err errClientLeaseClosed)

/-- A fault is only reported while the request of its transaction awaits a message at fault. -/
def OwnFault (s : Receiver) : Prop :=
  ∀ report rest waiter, s.stage = .failing report rest →
    s.dispatcher.responses.pending.get report.transactionID = some waiter →
    { messageType := waiter.messageType, transactionID := report.transactionID } ∈ report.keys

/-- As long as no fault is reported to a request that awaits another message, every result a request is given is
for an answer, for a fault of its own message, for the end of its lease or for the receiver's stop; and the
faults of all other messages leave the requests alone. -/
theorem faults_isolated {trace : List (Receiver × ReceiverEvent)} {s : Receiver} (run : receiver.Runs trace s)
    (own : ∀ s₀, (s₀, .advance) ∈ trace → OwnFault s₀) :
    (∀ x, s.dispatcher.responses.Given x → ∃ transactionID waiter,
      s.dispatcher.responses.registered[x.ch]? = some (transactionID, waiter) ∧
      Cause trace transactionID waiter x.result) ∧
    ∀ s₀ s₁ report rest, (s₀, .advance) ∈ trace → s₀.step .advance = some s₁ →
      s₀.stage = .failing report rest →
      (∀ key ∈ report.keys, Faulted trace key) ∧
      ((∀ waiter, s₀.dispatcher.responses.pending.get report.transactionID = some waiter →
        { messageType := waiter.messageType, transactionID := report.transactionID } ∉ report.keys) →
      s₁.dispatcher.responses = s₀.dispatcher.responses) := by
  have dispatches := runs_dispatcher run
  have responds := Dispatcher.runs_responses dispatches
  -- The reports of a step are of faults of the whole run.
  have faulted {s₀ : Receiver} {report : Report} {rest : List Report} (member : (s₀, .advance) ∈ trace)
      (failing : s₀.stage = .failing report rest) : Reported trace report := by
    obtain ⟨before, after, rfl⟩ := List.append_of_mem member
    intro key inside
    have listed : report ∈ s₀.stage.reports := by simp [failing, ReceiverStage.reports]
    obtain ⟨same, faulted⟩ := reported_of_runs run.accepted.1 listed key inside
    exact ⟨same, faulted.append _⟩
  constructor
  · -- Every result has one of the causes.
    intro x given
    obtain ⟨r₀, re, transactionID, waiter, member, causes, named⟩ := Responses.caused_of_runs responds given
    refine ⟨transactionID, waiter, named ▸ Responses.registered_of_pending responds member causes.pending, ?_⟩
    obtain ⟨⟨d₀, de⟩, inside, seen⟩ := List.mem_filterMap.mp member
    obtain ⟨re', seen, same⟩ := Option.map_eq_some_iff.mp seen
    cases same
    obtain ⟨⟨s₀, e⟩, listed, happens⟩ := List.mem_filterMap.mp inside
    obtain ⟨de', happens, same⟩ := Option.map_eq_some_iff.mp happens
    cases same
    generalize x.result = result at causes
    cases causes with
    -- The result is the answer.
    | answers pending answered =>
      exact .answer rfl (Responses.answers_of_matches answered).messageType
    -- The result is a failure, and only the receiver fails requests.
    | fails pending =>
      rcases Dispatcher.responseOf_cases seen with ⟨_, _, _, _, registers⟩ | ⟨_, _, stops⟩ | ⟨_, _, closes, _⟩ |
        ⟨rfl, -⟩
      · obtain ⟨-, -, _, -, made⟩ := Dispatcher.registerResponse_ok registers
        cases made
      · cases stops
      · cases closes
      · rcases dispatcherOf_cases happens with ⟨rfl, acts⟩ | ⟨-, free⟩
        · cases acts with
          | fails failing => exact .fault (faulted listed failing _ (own s₀ listed _ _ _ failing pending)).2
        · cases free
    -- The result is the end of the receiver.
    | stops pending =>
      rcases Dispatcher.responseOf_cases seen with ⟨_, _, _, _, registers⟩ | ⟨_, rfl, same⟩ | ⟨_, _, closes, _⟩ |
        ⟨_, free⟩
      · obtain ⟨-, -, _, -, made⟩ := Dispatcher.registerResponse_ok registers
        cases made
      · cases same
        rcases dispatcherOf_cases happens with ⟨rfl, acts⟩ | ⟨-, free⟩
        · cases acts with
          | stops stopping => exact .stop listed stopping pending
        · cases free
      · cases closes
      · cases free
    -- The result is the end of the request's lease.
    | closesLease pending owned =>
      rcases Dispatcher.responseOf_cases seen with ⟨_, _, _, _, registers⟩ | ⟨_, _, stops⟩ | ⟨_, rfl, same, _⟩ |
        ⟨_, free⟩
      · obtain ⟨-, -, _, -, made⟩ := Dispatcher.registerResponse_ok registers
        cases made
      · cases stops
      · cases same
        rcases dispatcherOf_cases happens with ⟨-, acts⟩ | ⟨rfl, -⟩
        · cases acts
        · exact .lease listed owned
      · cases free
  · -- A report of a foreign message leaves the requests alone.
    intro s₀ s₁ report rest member accepted failing
    refine ⟨fun key inside => (faulted member failing key inside).2, ?_⟩
    intro foreign
    -- The request would be at fault, so there is none.
    have nobody : s₀.dispatcher.responses.pending.get report.transactionID = none := by
      refine Option.eq_none_iff_forall_ne_some.mpr fun waiter pending => ?_
      exact foreign waiter pending (own s₀ member report rest waiter failing pending)
    obtain ⟨fx, happens, -, -, follows⟩ := step_parts accepted
    simp only [effects, advance, failing, Option.some.injEq] at happens
    subst happens
    rcases Dispatcher.step_responses follows with ⟨-, same⟩ | ⟨re, seen, moves⟩
    · exact same
    · cases seen
      simpa [Responses.step, Responses.failResponse, nobody] using moves.symm

/-- The second of two fragments, of a message whose first has not been seen. -/
def lostFirst (messageType : MessageType) : Bytes := fragmentFrame messageType 1 2 1 []

/-- The frame of an answered command. -/
def lostAnswer : Frame where
  data := lostFirst MessageType.commandDone
  complete := by decide
  bounded := by decide
  measured := by decide

/-- The frame of an indication. -/
def lostIndication : Frame where
  data := lostFirst MessageType.indicateStatus
  complete := by decide
  bounded := by decide
  measured := by decide

/-- A command is pending when a frame of its transaction is refused. -/
def refusedFrame (frame : Frame) : List ReceiverEvent :=
  [.other (.registerResponse { lease := none, connected := true }
      { messageType := MessageType.command, transactionID := 1, command := none } false),
    .frame frame 0, .advance]

/-- What a run of the example leaves, and what it passes through. -/
def glance (ran : List (Receiver × ReceiverEvent) × Receiver) :
    List (ReceiverStage × Option ResponseWaiter) × List ResponseSend × List (UInt32 × ResponseWaiter) :=
  (ran.1.map fun step => (step.1.stage, step.1.dispatcher.responses.pending.get 1),
    ran.2.dispatcher.responses.sends, ran.2.dispatcher.responses.registered)

/-- The waiter of the pending command. -/
def commandWaiter : ResponseWaiter :=
  { messageType := MessageType.commandDone, command := none, ch := 0, owner := none }

/-- The report of a refused frame. -/
def refusedReport (messageType : MessageType) : Report :=
  { transactionID := 1, status := ProtocolError.fragmentOutOfSequence
    keys := [{ messageType, transactionID := 1 }] }

/-- A refused frame of either type fails the command. -/
theorem refusedFrame_glance {frame : Frame} {messageType : MessageType}
    (either : frame = lostAnswer ∧ messageType = MessageType.commandDone ∨
      frame = lostIndication ∧ messageType = MessageType.indicateStatus) :
    (receiver.runFrom receiver.init (refusedFrame frame)).map glance =
      some ([(.waiting, none), (.waiting, some commandWaiter),
          (.failing (refusedReport messageType) [], some commandWaiter)],
        [{ ch := 0, result := .err (.protocol ProtocolError.fragmentOutOfSequence) }], [(1, commandWaiter)]) := by
  rcases either with ⟨rfl, rfl⟩ | ⟨rfl, rfl⟩
  · decide +kernel
  · decide +kernel

/-- A fault of its own answer fails the pending command. -/
theorem lostAnswer_isolated :
    ∃ trace s, receiver.Runs trace s ∧ trace.map Prod.snd = refusedFrame lostAnswer ∧
      ∃ transactionID waiter, s.dispatcher.responses.registered[0]? = some (transactionID, waiter) ∧
        Cause trace transactionID waiter (.err (.protocol ProtocolError.fragmentOutOfSequence)) := by
  obtain ⟨⟨trace, s⟩, ran, seen⟩ := Option.map_eq_some_iff.mp (refusedFrame_glance (.inl ⟨rfl, rfl⟩))
  simp only [glance, Prod.mk.injEq] at seen
  obtain ⟨states, sends, -⟩ := seen
  have run : receiver.Runs trace s := Machine.Runs.runFrom .init ran
  -- The one report is of the frame, which is of the command.
  have own : ∀ s₀, (s₀, .advance) ∈ trace → OwnFault s₀ := by
    intro s₀ member report rest waiter failing pending
    have state := List.mem_map_of_mem (f := fun step : Receiver × ReceiverEvent =>
      (step.1.stage, step.1.dispatcher.responses.pending.get 1)) member
    rw [states, failing] at state
    simp only [List.mem_cons, Prod.mk.injEq, reduceCtorEq, false_and, false_or, List.not_mem_nil, or_false,
      ReceiverStage.failing.injEq] at state
    obtain ⟨⟨rfl, -⟩, awaited⟩ := state
    cases awaited.symm.trans pending
    exact List.mem_singleton.mpr rfl
  obtain ⟨given, -⟩ := faults_isolated run own
  exact ⟨trace, s, run, Machine.map_snd_runFrom ran, given { ch := 0, result := _ } (.inl (by simp [sends]))⟩

/-- A fault of an indication fails a pending command that has its transaction. -/
theorem lostIndication_not_isolated :
    ∃ trace s waiter, receiver.Runs trace s ∧ trace.map Prod.snd = refusedFrame lostIndication ∧
      s.dispatcher.responses.registered[0]? = some (1, waiter) ∧
      s.dispatcher.responses.Given { ch := 0, result := .err (.protocol ProtocolError.fragmentOutOfSequence) } ∧
      ¬ Cause trace 1 waiter (.err (.protocol ProtocolError.fragmentOutOfSequence)) := by
  obtain ⟨⟨trace, s⟩, ran, seen⟩ := Option.map_eq_some_iff.mp (refusedFrame_glance (.inr ⟨rfl, rfl⟩))
  simp only [glance, Prod.mk.injEq] at seen
  obtain ⟨states, sends, registered⟩ := seen
  have events := Machine.map_snd_runFrom ran
  refine ⟨trace, s, commandWaiter, Machine.Runs.runFrom .init ran, events, by simp [registered],
    .inl (by simp [sends]), ?_⟩
  have known {s₀ : Receiver} {e : ReceiverEvent} (member : (s₀, e) ∈ trace) : e ∈ refusedFrame lostIndication :=
    events ▸ List.mem_map_of_mem member
  -- The frame is of another message, nothing expires, nothing stops and no lease ends.
  intro cause
  generalize result : ResponseResult.err (.protocol ProtocolError.fragmentOutOfSequence) = given at cause
  cases cause with
  | answer same typed => cases result
  | fault faulted =>
    rcases faulted with ⟨_, frame, _, _, member, same, _⟩ | ⟨_, _, member, _⟩
    · have listed := known member
      simp only [refusedFrame, List.mem_cons, reduceCtorEq, ReceiverEvent.frame.injEq, false_or, or_false,
        List.not_mem_nil] at listed
      rw [listed.1] at same
      exact absurd same (by decide)
    · simpa [refusedFrame] using known member
  | @stop s₀ err member stopping pending =>
    have state := List.mem_map_of_mem (f := fun step : Receiver × ReceiverEvent =>
      (step.1.stage, step.1.dispatcher.responses.pending.get 1)) member
    rw [states, stopping] at state
    simp at state
  | lease member owned => simpa [refusedFrame] using known member

end Receiver

end Wwan.Mbim
