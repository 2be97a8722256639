import Mathlib.Data.List.Induction
import Wwan.Mbim.ReadConn
import Wwan.Proofs.Mbim.Reassembly
import Wwan.Proofs.Mbim.Routing

/-! A request read from its connection and one sent through the dispatcher come to the same end. -/

namespace Wwan.Mbim

/-- Both calls wait, both return an error, or both return the same message. -/
def Agree : CallResult → CallResult → Prop
  | none, none => True
  | some (.ok one), some (.ok other) => one = other
  | some (.error _), some (.error _) => True
  | _, _ => False

/-- A result agrees with itself. -/
theorem agree_refl (result : CallResult) : Agree result result := by
  match result with
  | none => trivial
  | some (.ok _) => rfl
  | some (.error _) => trivial

/-- What a frame results in depends on the collection of its own key alone. -/
theorem collectReceivedFrame_congr {one other : Collectors} {buf : Bytes} (now : Time)
    (same : one.get (frameKey buf) = other.get (frameKey buf)) :
    (collectReceivedFrame one buf now).2 = (collectReceivedFrame other buf now).2 ∧
      (collectReceivedFrame one buf now).1.get (frameKey buf) =
        (collectReceivedFrame other buf now).1.get (frameKey buf) := by
  unfold collectReceivedFrame
  dsimp only
  rw [same]
  repeat' split
  all_goals simp [same]

/-- Parsing an indication never panics. -/
theorem Indication.unmarshalBinary_ne_outOfRange (data : Bytes) :
    Indication.unmarshalBinary data ≠ .error .outOfRange := by
  unfold Indication.unmarshalBinary
  repeat' split
  all_goals simp [Go.fail]

/-- An answer without a readable header is an error to its request. -/
theorem parseAnswer_of_header {data : Bytes} {fault : Fault Error} (request : Request)
    (response : Option ResponseDecoder) (typed : messageTypeOf data = MessageType.commandDone)
    (unreadable : CommandDoneHeader.unmarshalBinary data = .error fault) :
    ∃ failure, request.parseAnswer response data = .error failure := by
  -- The header is unreadable where the answer is too short or its length is wrong.
  have short : ∃ failure, CommandResponse.unmarshalBinary data = .error failure := by
    unfold CommandDoneHeader.unmarshalBinary at unreadable
    unfold CommandResponse.unmarshalBinary
    have opens : MessageType.commandDone ≠ MessageType.openDone := by decide
    have closes : MessageType.commandDone ≠ MessageType.closeDone := by decide
    split at unreadable
    · -- The answer has no room for the header, and both decoders notice.
      rename_i short
      simp only [typed, opens, closes, or_self, if_false, if_true, unmarshalCommandDone, short]
      split_ifs <;> exact ⟨_, rfl⟩
    · split at unreadable
      · contradiction
      · split at unreadable
        · -- The length of the information buffer is wrong, which the answer's decoder checks too.
          rename_i length
          rw [if_pos length]
          split <;> exact ⟨_, rfl⟩
        · cases unreadable
  obtain ⟨failure, parsed⟩ := short
  refine ⟨failure, ?_⟩
  unfold Request.parseAnswer Request.unmarshalResponse
  rw [parsed]
  rfl

/-- What one round of the receiver does to its collectors and to the responses. -/
structure Reaction where
  collectors : Collectors
  responses : Responses → Responses
  /-- The receiver returns. -/
  returns : Bool

/-- The reaction to a whole message. -/
def handleReaction (collectors : Collectors) (data : Bytes) : Reaction :=
  if isResponseMessage (messageTypeOf data) then ⟨collectors, fun r => r.deliverResponse data, false⟩
  else if messageTypeOf data = MessageType.indicateStatus then
    match Indication.unmarshalBinary data with
    | .error (.err err) => ⟨collectors, fun r => r.stopReceiver err, true⟩
    | _ => ⟨collectors, id, false⟩
  else ⟨collectors, id, false⟩

/-- The reaction to a refused frame. -/
def faultReaction (collectors : Collectors) (fault : FragmentFault) : Option Error → Reaction
  | none => ⟨collectors, fun r => r.failResponse fault.transactionID (.protocol fault.status), false⟩
  | some err =>
    let failed := .wrap "sending MBIM host error for transaction %d" [fault.transactionID.toNat] err
    ⟨collectors, fun r => (r.failResponse fault.transactionID (.protocol fault.status)).stopReceiver failed, true⟩

/-- The reaction to the reports that follow each other. -/
def reportsReaction (collectors : Collectors) (failure : UInt32 → Option Error) : List Report → Reaction
  | [] => ⟨collectors, id, false⟩
  | report :: rest =>
    match failure report.transactionID with
    | none =>
      let after := reportsReaction collectors failure rest
      ⟨collectors, fun r => after.responses (r.failResponse report.transactionID (.protocol report.status)),
        after.returns⟩
    | some err =>
      let failed := .wrap "sending MBIM host error for transaction %d" [report.transactionID.toNat] err
      ⟨collectors, fun r => (r.failResponse report.transactionID (.protocol report.status)).stopReceiver failed, true⟩

/-- The reaction to a frame. -/
def frameReaction (collectors : Collectors) (incoming : Incoming) : Reaction :=
  if isFragmentMessage (messageTypeOf incoming.frame.data) then
    match collectReceivedFrame collectors incoming.frame.data incoming.now with
    | (collectors, .complete data) => handleReaction collectors data
    | (collectors, .fault fault) => faultReaction collectors fault incoming.failure
    | (collectors, _) => ⟨collectors, id, false⟩
  else handleReaction collectors incoming.frame.data

/-- The reaction to what the receiver takes. -/
def reaction (collectors : Collectors) : Arrival → Reaction
  | .frame incoming => frameReaction collectors incoming
  | .timer now failure =>
    reportsReaction (expireFragmentCollectors collectors now).1 failure (expiryReports collectors now)

/-- A message leaves the collectors alone. -/
theorem handleReaction_collectors {collectors : Collectors} {data : Bytes} {after : Reaction}
    (reacts : handleReaction collectors data = after) : after.collectors = collectors := by
  unfold handleReaction at reacts
  repeat' split at reacts
  all_goals
    subst reacts
    rfl

/-- Reports leave the collectors alone. -/
theorem reportsReaction_collectors (collectors : Collectors) (failure : UInt32 → Option Error) (reports : List Report) :
    (reportsReaction collectors failure reports).collectors = collectors := by
  cases reports with
  | nil => rfl
  | cons report rest =>
    unfold reportsReaction
    split <;> rfl

/-- The collectors after a frame. -/
def frameCollectors (collectors : Collectors) (incoming : Incoming) : Collectors :=
  if isFragmentMessage (messageTypeOf incoming.frame.data) then
    (collectReceivedFrame collectors incoming.frame.data incoming.now).1
  else collectors

/-- The collectors after what the receiver takes. -/
def nextCollectors (collectors : Collectors) : Arrival → Collectors
  | .frame incoming => frameCollectors collectors incoming
  | .timer now _ => (expireFragmentCollectors collectors now).1

/-- A frame changes the collectors as collecting it does. -/
theorem frameReaction_collectors {collectors : Collectors} {incoming : Incoming} {after : Reaction}
    (reacts : frameReaction collectors incoming = after) : after.collectors = frameCollectors collectors incoming := by
  unfold frameReaction at reacts
  unfold frameCollectors
  -- The collections change only with a fragment, and only by its being collected.
  split at reacts
  · rename_i fragment
    rw [if_pos fragment]
    split at reacts
    · rename_i collected
      rw [collected]
      exact handleReaction_collectors reacts
    · rename_i collected
      rw [collected]
      -- A fault drops a collection, whether or not its host error is written.
      unfold faultReaction at reacts
      split at reacts
      all_goals
        subst reacts
        rfl
    · rename_i collected
      rw [collected]
      subst reacts
      rfl
  · -- A frame that is no fragment is handled as it is.
    rename_i single
    rw [if_neg single]
    exact handleReaction_collectors reacts

/-- A round changes the collectors as collecting a frame or dropping the expired collections does. -/
theorem reaction_collectors {collectors : Collectors} {arrival : Arrival} {after : Reaction}
    (reacts : reaction collectors arrival = after) : after.collectors = nextCollectors collectors arrival := by
  cases arrival with
  | frame incoming => exact frameReaction_collectors reacts
  | timer now failure =>
    subst reacts
    exact reportsReaction_collectors _ failure _

/-- A frame whose message is not too long for its length field. -/
def ReadableFrame (collectors : Collectors) (incoming : Incoming) : Prop :=
  isFragmentMessage (messageTypeOf incoming.frame.data) = true →
    (collectReceivedFrame collectors incoming.frame.data incoming.now).2 ≠ .panicked

/-- What arrives does not complete a message too long for its length field. -/
def Readable (collectors : Collectors) : Arrival → Prop
  | .frame incoming => ReadableFrame collectors incoming
  | .timer _ _ => True

/-- Nobody subscribes to indications or waits for one. -/
structure Indications.Quiet (n : Indications) : Prop where
  subs : n.subs = ∅
  waiters : n.waiters = ∅
  deliveries : n.deliveries = []

/-- Publishing to nobody fills the queue. -/
theorem Indications.Quiet.publish {n : Indications} (quiet : n.Quiet) (indication : Indication) :
    (n.publishIndication indication).Quiet ∧ n.step (.publishIndication indication) =
      some (n.publishIndication indication) := by
  have nobody : n.waiters.items indication.key = [] := by simp [quiet.waiters]
  have unsubscribed : (n.subsOf indication.key).len = 0 := by
    rw [Indications.subsOf, quiet.subs]
    rfl
  constructor
  · unfold publishIndication
    simp only [nobody, unsubscribed, if_true]
    exact ⟨quiet.subs, quiet.waiters, quiet.deliveries⟩
  · simp [step, whileUnlocked, locked, quiet.deliveries]

/-- Stopping finds nobody to tell. -/
theorem Indications.Quiet.stop {n : Indications} (quiet : n.Quiet) (err : Error) :
    (n.stopReceiver err).Quiet ∧ n.step (.stopReceiver err) = some (n.stopReceiver err) := by
  constructor
  · refine ⟨rfl, rfl, ?_⟩
    simp only [stopReceiver, quiet.subs, quiet.waiters, quiet.deliveries]
    rfl
  · simp [step, whileUnlocked, locked, quiet.deliveries]

namespace Receiver

/-- The receiver waits for a frame, and nobody is interested in indications. -/
structure Idle (s : Receiver) : Prop where
  stage : s.stage = .waiting
  started : s.dispatcher.control.receiverStarted = true
  quiet : s.dispatcher.indications.Quiet

/-- The lock is free while nothing is delivered. -/
theorem locked_eq_false {n : Indications} (quiet : n.Quiet) : n.locked = false := by
  simp [Indications.locked, quiet.deliveries]

/-- Where a round leaves the receiver. -/
structure Settled (s : Receiver) (after : Reaction) (r : Responses) : Prop where
  collectors : s.collectors = after.collectors
  responses : s.dispatcher.responses = after.responses r
  stage : s.stage = if after.returns then .returned else .waiting
  started : after.returns = false → s.dispatcher.control.receiverStarted = true
  quiet : s.dispatcher.indications.Quiet

/-- Stopping ends the loop. -/
theorem settle_stopping {s : Receiver} (quiet : s.dispatcher.indications.Quiet) {err : Error}
    (stopping : s.stage = .stopping err) (failure : UInt32 → Option Error) (fuel : Nat) :
    ∃ s', settle failure (fuel + 1) s = some s' ∧
      s'.Settled ⟨s.collectors, fun r => r.stopReceiver err, true⟩ s.dispatcher.responses := by
  refine ⟨⟨⟨s.dispatcher.control.stopReceiver err, s.dispatcher.responses.stopReceiver err,
    s.dispatcher.indications.stopReceiver err⟩, s.collectors, .returned⟩, ?_, ?_⟩
  · have stops := (quiet.stop err).2
    cases fuel <;>
      simp [settle, stopping, step, effects, advance, follow, Dispatcher.step, Dispatcher.effects,
        DispatcherEvent.locks, locked_eq_false quiet, Responses.step, stops]
  · exact ⟨rfl, rfl, rfl, by simp, (quiet.stop err).1⟩

/-- A receiver that waits is settled. -/
theorem settle_waiting {s : Receiver} (waiting : s.stage = .waiting) (failure : UInt32 → Option Error)
    (fuel : Nat) : settle failure fuel s = some s := by
  cases fuel <;> simp [settle, waiting]

/-- A whole message is dealt with. -/
theorem settle_handling {s : Receiver} (quiet : s.dispatcher.indications.Quiet)
    (started : s.dispatcher.control.receiverStarted = true) {data : Bytes} (handling : s.stage = .handling data)
    (failure : UInt32 → Option Error) (fuel : Nat) :
    ∃ s', settle failure (fuel + 2) s = some s' ∧
      s'.Settled (handleReaction s.collectors data) s.dispatcher.responses := by
  have free := locked_eq_false quiet
  have moves (fx : ReceiverEffects) (d : Dispatcher) (does : s.handle data = some fx)
      (follows : follow Dispatcher.step s.dispatcher fx.dispatcher = some d) :
      settle failure (fuel + 2) s = settle failure (fuel + 1) ⟨d, fx.collectors, fx.stage⟩ := by
    simp [settle, handling, step, effects, advance, does, follows]
  have rests (d : Dispatcher) := settle_waiting (s := ⟨d, s.collectors, .waiting⟩) rfl failure (fuel + 1)
  unfold handleReaction
  by_cases response : isResponseMessage (messageTypeOf data) = true
  · -- The message is handed to the request it answers.
    refine ⟨⟨{ s.dispatcher with responses := s.dispatcher.responses.deliverResponse data }, s.collectors, .waiting⟩,
      ?_, ?_⟩
    · rw [moves _ _ (by simp [handle, response]; rfl) (by
        simp [follow, Dispatcher.step, Dispatcher.effects, DispatcherEvent.locks, free, ResponseEvent.guarded,
          Responses.step]
        rfl)]
      exact rests _
    · simp only [response, if_true]
      exact ⟨rfl, rfl, rfl, fun _ => started, quiet⟩
  by_cases indicates : messageTypeOf data = MessageType.indicateStatus
  · -- An indication is published, or stops the receiver where it cannot be decoded.
    have typed : isResponseMessage MessageType.indicateStatus = false := by decide
    cases parsed : Indication.unmarshalBinary data with
    | ok indication =>
      refine ⟨⟨{ s.dispatcher with indications := s.dispatcher.indications.publishIndication indication },
        s.collectors, .waiting⟩, ?_, ?_⟩
      · rw [moves _ _ (by simp [handle, typed, indicates, parsed]; rfl) (by
          simp [follow, Dispatcher.step, Dispatcher.effects, DispatcherEvent.locks, IndicationEvent.guarded,
            (quiet.publish indication).2]
          rfl)]
        exact rests _
      · simp only [typed, indicates, if_true]
        exact ⟨rfl, rfl, rfl, fun _ => started, (quiet.publish indication).1⟩
    | error fault =>
      cases fault with
      | err err =>
        simp only [typed, indicates, if_true]
        rw [moves ⟨none, s.collectors, .stopping err⟩ s.dispatcher (by simp [handle, typed, indicates, parsed]) rfl]
        exact settle_stopping (s := ⟨s.dispatcher, s.collectors, .stopping err⟩) quiet rfl failure fuel
      | outOfRange => exact absurd parsed (Indication.unmarshalBinary_ne_outOfRange data)
  · -- Any other message is dropped.
    refine ⟨⟨s.dispatcher, s.collectors, .waiting⟩, ?_, ?_⟩
    · rw [moves _ _ (by simp [handle, response, indicates]; rfl) rfl]
      exact rests _
    · simp only [response, indicates, if_false]
      exact ⟨rfl, rfl, rfl, fun _ => started, quiet⟩

/-- A step from a report to the write of its host error. -/
theorem step_failing {s : Receiver} (quiet : s.dispatcher.indications.Quiet) {report : Report} {rest : List Report}
    (failing : s.stage = .failing report rest) :
    s.step .advance = some
      ⟨{ s.dispatcher with
          responses := s.dispatcher.responses.failResponse report.transactionID (.protocol report.status) },
        s.collectors, .notifying report rest⟩ := by
  simp [step, effects, advance, failing, follow, Dispatcher.step, Dispatcher.effects, DispatcherEvent.locks,
    locked_eq_false quiet, ResponseEvent.guarded, Responses.step]

/-- Each report is made and notified, up to one whose host error cannot be written. -/
theorem settle_reports (failure : UInt32 → Option Error) (reports : List Report) :
    ∀ {s : Receiver}, s.dispatcher.indications.Quiet → s.dispatcher.control.receiverStarted = true →
      s.stage = .next reports →
      ∃ s', settle failure (2 * reports.length + 1) s = some s' ∧
        s'.Settled (reportsReaction s.collectors failure reports) s.dispatcher.responses := by
  -- The induction is on the reports, each of which takes two steps.
  induction reports with
  | nil =>
    -- After the last report the receiver waits again.
    intro s quiet started next
    exact ⟨s, settle_waiting next failure _, rfl, rfl, next, fun _ => started, quiet⟩
  | cons report rest ih =>
    intro s quiet started next
    have stage : s.stage = .failing report rest := next
    have made := step_failing quiet stage
    let d : Dispatcher :=
      { s.dispatcher with
        responses := s.dispatcher.responses.failResponse report.transactionID (.protocol report.status) }
    -- Two rounds of fuel: one for the report, one for its host error.
    have fuel : 2 * (report :: rest).length + 1 = 2 * rest.length + 1 + 1 + 1 := by
      simp only [List.length_cons]
      omega
    have moves (s' : Receiver)
        (sends : Receiver.step ⟨d, s.collectors, .notifying report rest⟩
          (.sendHostError (failure report.transactionID)) = some s') :
        settle failure (2 * (report :: rest).length + 1) s = settle failure (2 * rest.length + 1) s' := by
      rw [fuel, settle, stage]
      simp only [made, Option.bind_some, settle]
      rw [sends]
      rfl
    cases writes : failure report.transactionID with
    | none =>
      -- The loop goes on with the next report.
      obtain ⟨s', ran, settled⟩ := ih (s := ⟨d, s.collectors, .next rest⟩) quiet started rfl
      refine ⟨s', ?_, ?_⟩
      · rw [moves ⟨d, s.collectors, .next rest⟩ (by simp [step, effects, writes, follow])]
        exact ran
      · have collectors := settled.collectors
        rw [reportsReaction_collectors] at collectors
        simp only [reportsReaction, writes]
        exact ⟨collectors, settled.responses, settled.stage, settled.started, settled.quiet⟩
    | some err =>
      -- The receiver stops, and makes no further report.
      have settled := settle_stopping (s := ⟨d, s.collectors, .stopping
        (.wrap "sending MBIM host error for transaction %d" [report.transactionID.toNat] err)⟩) quiet rfl failure
        (2 * rest.length)
      obtain ⟨s', ran, settled⟩ := settled
      refine ⟨s', ?_, ?_⟩
      · rw [moves ⟨d, s.collectors, .stopping _⟩ (by simp [step, effects, writes, follow]; rfl)]
        exact ran
      · simp only [reportsReaction, writes]
        exact ⟨settled.collectors, settled.responses, settled.stage, by simp, settled.quiet⟩

/-- A refused frame is reported. -/
theorem settle_failing {s : Receiver} (quiet : s.dispatcher.indications.Quiet)
    (started : s.dispatcher.control.receiverStarted = true) {report : Report} (failing : s.stage = .failing report [])
    (failure : Option Error) :
    ∃ s', settle (fun _ => failure) 3 s = some s' ∧
      s'.Settled (faultReaction s.collectors { transactionID := report.transactionID, status := report.status } failure)
        s.dispatcher.responses := by
  obtain ⟨s', ran, settled⟩ := settle_reports (fun _ => failure) [report] quiet started failing
  refine ⟨s', ran, ?_⟩
  cases failure with
  | none => exact settled
  | some err => exact settled

/-- What a round of an idle receiver does with a frame. -/
theorem round_frame {s : Receiver} (idle : s.Idle) {incoming : Incoming}
    (readable : ReadableFrame s.collectors incoming) :
    ∃ s', s.round (.frame incoming) = some s' ∧
      s'.Settled (frameReaction s.collectors incoming) s.dispatcher.responses := by
  have going : s.stage ≠ .returned := by simp [idle.stage]
  have ready : s.selects = true := by simp [selects, idle.started, idle.stage]
  have moves (fx : ReceiverEffects) (reads : s.receiveFrame incoming.frame incoming.now = some fx)
      (nothing : fx.dispatcher = none) :
      s.round (.frame incoming) = settle (fun _ => incoming.failure) 3 ⟨s.dispatcher, fx.collectors, fx.stage⟩ := by
    simp [round, going, step, effects, ready, reads, nothing, follow]
  unfold frameReaction
  by_cases fragment : isFragmentMessage (messageTypeOf incoming.frame.data) = true
  · -- A fragment is collected first, and what that gives decides the next stage.
    simp only [fragment, if_true]
    cases collected : collectReceivedFrame s.collectors incoming.frame.data incoming.now with
    | mk collectors received =>
      cases received with
      | incomplete =>
        -- More fragments are awaited.
        rw [moves ⟨none, collectors, .waiting⟩ (by simp [receiveFrame, fragment, collected]) rfl]
        refine ⟨_, settle_waiting rfl _ _, ?_⟩
        exact ⟨rfl, rfl, rfl, fun _ => idle.started, idle.quiet⟩
      | complete data =>
        -- The message is complete, and is handled like one in a single frame.
        rw [moves ⟨none, collectors, .handling data⟩ (by simp [receiveFrame, fragment, collected]) rfl]
        exact settle_handling (s := ⟨s.dispatcher, collectors, .handling data⟩) idle.quiet idle.started rfl _ 1
      | fault fault =>
        -- The fragment does not fit, and its transaction fails.
        rw [moves ⟨none, collectors, .failing ⟨fault.transactionID, fault.status, [frameKey incoming.frame.data]⟩ []⟩
          (by simp [receiveFrame, fragment, collected]) rfl]
        exact settle_failing (s := ⟨s.dispatcher, collectors, .failing _ []⟩) idle.quiet idle.started rfl _
      | panicked => exact absurd (by rw [collected]) (readable fragment)
  · -- A frame that is no fragment is handled at once.
    rw [if_neg fragment, moves ⟨none, s.collectors, .handling incoming.frame.data⟩ (by simp [receiveFrame, fragment]) rfl]
    exact settle_handling (s := ⟨s.dispatcher, s.collectors, .handling _⟩) idle.quiet idle.started rfl _ 1

/-- What a round of an idle receiver does where its timer fires. -/
theorem round_timer {s : Receiver} (idle : s.Idle) (now : Time) (failure : UInt32 → Option Error) :
    ∃ s', s.round (.timer now failure) = some s' ∧
      s'.Settled (reaction s.collectors (.timer now failure)) s.dispatcher.responses := by
  have going : s.stage ≠ .returned := by simp [idle.stage]
  have ready : s.selects = true := by simp [selects, idle.started, idle.stage]
  obtain ⟨s', ran, settled⟩ := settle_reports failure (expiryReports s.collectors now)
    (s := ⟨s.dispatcher, (expireFragmentCollectors s.collectors now).1, .next (expiryReports s.collectors now)⟩)
    idle.quiet idle.started rfl
  refine ⟨s', ?_, settled⟩
  rw [round, if_neg going]
  simpa [step, effects, ready, follow] using ran

/-- What a round of an idle receiver does. -/
theorem round_settled {s : Receiver} (idle : s.Idle) {arrival : Arrival} (readable : Readable s.collectors arrival) :
    ∃ s', s.round arrival = some s' ∧ s'.Settled (reaction s.collectors arrival) s.dispatcher.responses := by
  cases arrival with
  | frame incoming => exact round_frame idle readable
  | timer now failure => exact round_timer idle now failure

end Receiver

namespace Responses

/-- A request's result has been decided, and nobody else waits. -/
structure Decided (r : Responses) (result : ResponseResult) : Prop where
  pending : ∀ transactionID, r.pending.get transactionID = none
  given : r.resultOf 0 = some result

/-- Without anybody waiting, a message reaches nobody. -/
theorem Decided.deliver {r : Responses} {result : ResponseResult} (decided : r.Decided result) (data : Bytes) :
    r.deliverResponse data = r := by
  simp [deliverResponse, decided.pending]

/-- Without anybody waiting, a fault reaches nobody. -/
theorem Decided.fail {r : Responses} {result : ResponseResult} (decided : r.Decided result)
    (transactionID : UInt32) (err : Error) : r.failResponse transactionID err = r := by
  simp [failResponse, decided.pending]

/-- Without anybody waiting, the receiver's stop reaches nobody. -/
theorem Decided.stop {r : Responses} {result : ResponseResult} (decided : r.Decided result) (err : Error) :
    (r.stopReceiver err).Decided result := by
  have nobody : r.pending.entries = [] := by
    apply List.eq_nil_iff_forall_not_mem.mpr
    intro ⟨transactionID, waiter⟩ member
    cases (decided.pending transactionID).symm.trans ((r.pending.mem_entries_iff _ _).mp member)
  refine ⟨by simp [stopReceiver], ?_⟩
  rw [← decided.given]
  simp [resultOf, stopReceiver, nobody]

end Responses

/-- What is decided stays decided whatever message follows. -/
theorem Responses.Decided.handle {r : Responses} {result : ResponseResult} (decided : r.Decided result)
    {collectors : Collectors} {data : Bytes} {after : Reaction} (reacts : handleReaction collectors data = after) :
    (after.responses r).Decided result := by
  unfold handleReaction at reacts
  -- A request that has its result gets no other.
  split at reacts
  · -- An answer finds nobody who waits.
    subst reacts
    show (r.deliverResponse data).Decided result
    rw [decided.deliver]
    exact decided
  · split at reacts
    · -- An indication that cannot be decoded stops the receiver, which ends no request twice.
      split at reacts
      · subst reacts
        exact decided.stop _
      · subst reacts
        exact decided
    · subst reacts
      exact decided

/-- What is decided stays decided whatever fault follows. -/
theorem Responses.Decided.fault {r : Responses} {result : ResponseResult} (decided : r.Decided result)
    (collectors : Collectors) (fault : FragmentFault) (failure : Option Error) :
    ((faultReaction collectors fault failure).responses r).Decided result := by
  cases failure with
  | none =>
    show (r.failResponse _ _).Decided result
    rw [decided.fail]
    exact decided
  | some err =>
    show ((r.failResponse _ _).stopReceiver _).Decided result
    rw [decided.fail]
    exact decided.stop _

/-- What is decided stays decided whatever reports follow. -/
theorem Responses.Decided.reports {result : ResponseResult} (collectors : Collectors)
    (failure : UInt32 → Option Error) (reports : List Report) :
    ∀ {r : Responses}, r.Decided result → ((reportsReaction collectors failure reports).responses r).Decided result := by
  -- The induction is on the reports, none of which finds the request waiting.
  induction reports with
  | nil => exact fun decided => decided
  | cons report rest ih =>
    intro r decided
    unfold reportsReaction
    cases failure report.transactionID with
    | none => exact ih (by rw [decided.fail]; exact decided)
    | some err =>
      show ((r.failResponse _ _).stopReceiver _).Decided result
      rw [decided.fail]
      exact decided.stop _

/-- What is decided stays decided whatever frame follows. -/
theorem Responses.Decided.frame {r : Responses} {result : ResponseResult} (decided : r.Decided result)
    {collectors : Collectors} {incoming : Incoming} {after : Reaction}
    (reacts : frameReaction collectors incoming = after) : (after.responses r).Decided result := by
  unfold frameReaction at reacts
  split at reacts
  · split at reacts
    · exact decided.handle reacts
    · subst reacts
      exact decided.fault _ _ _
    · subst reacts
      exact decided
  · exact decided.handle reacts

/-- What is decided stays decided in every round. -/
theorem Responses.Decided.reaction {r : Responses} {result : ResponseResult} (decided : r.Decided result)
    {collectors : Collectors} {arrival : Arrival} {after : Reaction} (reacts : reaction collectors arrival = after) :
    (after.responses r).Decided result := by
  cases arrival with
  | frame incoming => exact decided.frame reacts
  | timer now failure =>
    subst reacts
    exact Responses.Decided.reports _ failure _ decided

section Request

variable (request : Request) (response : Option ResponseDecoder) (expected : MessageType) (owner : Option Lease)

/-- The responses with the request as the only one. -/
def requested : Responses :=
  ({} : Responses).register request.transactionID expected request.expectedCommand owner

/-- The waiter of the request. -/
def requestWaiter : ResponseWaiter :=
  { messageType := expected, command := request.expectedCommand, ch := 0, owner }

/-- Nobody waits for another transaction. -/
theorem requested_pending (transactionID : UInt32) :
    (requested request expected owner).pending.get transactionID =
      if transactionID = request.transactionID then some (requestWaiter request expected owner) else none := by
  simp [requested, requestWaiter, Responses.register, GoMap.get_set]

/-- Handing the request its result decides it. -/
theorem decided_of_hand (result : ResponseResult) :
    ((requested request expected owner).hand request.transactionID (requestWaiter request expected owner)
      result).Decided result where
  pending := by
    intro transactionID
    simp only [Responses.hand, GoMap.get_delete, requested_pending]
    split <;> rfl
  given := rfl

/-- A fault of the request's transaction decides it. -/
theorem decided_of_fail (err : Error) :
    ((requested request expected owner).failResponse request.transactionID err).Decided (.err err) := by
  simp only [Responses.failResponse, requested_pending, if_true]
  exact decided_of_hand request expected owner _

/-- A message of the request's transaction that matches decides it, and any other message does not reach it. -/
theorem deliver_requested (data : Bytes) :
    (transactionIDOf data = request.transactionID ∧
      (requestWaiter request expected owner).matches (messageTypeOf data) data = true →
      ((requested request expected owner).deliverResponse data).Decided (.data data)) ∧
    (¬ (transactionIDOf data = request.transactionID ∧
      (requestWaiter request expected owner).matches (messageTypeOf data) data = true) →
      (requested request expected owner).deliverResponse data = requested request expected owner) := by
  -- The request is the only one that is pending.
  simp only [Responses.deliverResponse, requested_pending]
  by_cases same : transactionIDOf data = request.transactionID
  · simp only [same, if_true, true_and]
    -- Its own answer ends it.
    refine ⟨fun answered => ?_, fun foreign => ?_⟩
    · rw [if_pos answered]
      exact decided_of_hand request expected owner _
    · -- Anything else under its transaction leaves it.
      rw [if_neg foreign]
  · simp [same]

/-- Whether a message is read from the connection as the match test has it. -/
theorem readMessage_matches {data : Bytes}
    (typed : messageTypeOf data = expected ∨ messageTypeOf data = MessageType.functionError) :
    ((requestWaiter request expected owner).matches (messageTypeOf data) data = true →
      ∃ result, request.readMessage response (messageTypeOf data) data = some result ∧
        Agree (some result) (some (request.parseAnswer response data))) ∧
    ((requestWaiter request expected owner).matches (messageTypeOf data) data = false →
      request.readMessage response (messageTypeOf data) data = none) := by
  -- The type is one that the request takes.
  have reaches : ¬ (messageTypeOf data ≠ expected ∧ messageTypeOf data ≠ MessageType.functionError) := by tauto
  unfold ResponseWaiter.matches Request.readMessage requestWaiter
  rw [if_neg reaches]
  by_cases answers : messageTypeOf data = MessageType.commandDone
  · -- A command's answer is also told by its service and command.
    simp only [answers, ne_eq, not_true_eq_false, if_false]
    cases request.expectedCommand with
    | none => exact ⟨fun _ => ⟨_, rfl, agree_refl _⟩, by simp⟩
    | some command =>
      cases header : CommandDoneHeader.unmarshalBinary data with
      | error fault =>
        -- The dispatcher delivers it, and its request fails on it.
        refine ⟨fun _ => ⟨_, rfl, ?_⟩, by simp⟩
        obtain ⟨failure, parsed⟩ := parseAnswer_of_header request response answers header
        rw [parsed]
        trivial
      | ok answer =>
        -- The header names the command of the request, or another one.
        by_cases named : answer.serviceID = command.serviceID ∧ answer.commandID = command.commandID
        · refine ⟨fun _ => ⟨request.parseAnswer response data, ?_, agree_refl _⟩, by simp [named]⟩
          simp [named]
        · refine ⟨by simpa using fun one two => absurd ⟨one, two⟩ named, fun _ => ?_⟩
          simp only
          rw [if_pos]
          tauto
  · -- The other types need no further test.
    simp only [ne_eq, answers, not_false_eq_true, if_true]
    exact ⟨fun _ => ⟨_, rfl, agree_refl _⟩, by simp⟩

/-- Nothing the frame brings stops the receiver: no undecodable indication, and no host error that cannot be
written for another request's fault; a fault of the request's own transaction is of its own answer. -/
structure OrdinaryFrame (collectors : Collectors) (incoming : Incoming) : Prop where
  decodes : ∀ data, (collectReceivedFrame collectors incoming.frame.data incoming.now).2 = .complete data →
    messageTypeOf data = MessageType.indicateStatus → ∃ indication, Indication.unmarshalBinary data = .ok indication
  faults : isFragmentMessage (messageTypeOf incoming.frame.data) = true →
    ∀ fault, (collectReceivedFrame collectors incoming.frame.data incoming.now).2 = .fault fault →
      frameKey incoming.frame.data = { messageType := expected, transactionID := request.transactionID } ∨
        transactionIDOf incoming.frame.data ≠ request.transactionID ∧ incoming.failure = none

/-- The collections that expire are of other transactions, and the host errors for them are written, unless the
request's own answer is among them. -/
def OrdinaryTimer (collectors : Collectors) (now : Time) (failure : UInt32 → Option Error) : Prop :=
  { messageType := expected, transactionID := request.transactionID } ∉ expiredKeys collectors now →
    ∀ key ∈ expiredKeys collectors now, key.transactionID ≠ request.transactionID ∧ failure key.transactionID = none

/-- What arrives neither stops the receiver nor is a fault of another message of the request's transaction. -/
def Ordinary (collectors : Collectors) : Arrival → Prop
  | .frame incoming => OrdinaryFrame request expected collectors incoming
  | .timer now failure => OrdinaryTimer request expected collectors now failure

/-- A round that leaves the request waiting, or one that ends it as the connection's reader ends. -/
inductive Follows (after : Reaction) : CallResult → Prop where
  | waits : after.returns = false →
      after.responses (requested request expected owner) = requested request expected owner →
      Follows after none
  | decides {result : Go Error Bytes} {given : ResponseResult} :
      (after.responses (requested request expected owner)).Decided given →
      Agree (some result) (some (request.transmitResult response given)) → Follows after (some result)

/-- A message the connection's reader skips does not reach the request. -/
theorem follows_skipped {collectors : Collectors} {data : Bytes} {after : Reaction}
    (reacts : handleReaction collectors data = after)
    (decodes : messageTypeOf data = MessageType.indicateStatus →
      ∃ indication, Indication.unmarshalBinary data = .ok indication)
    (foreign : ¬ (transactionIDOf data = request.transactionID ∧
      (requestWaiter request expected owner).matches (messageTypeOf data) data = true)) :
    Follows request response expected owner after none := by
  unfold handleReaction at reacts
  -- A message reaches the request only as its answer, which it is not.
  split at reacts
  · subst reacts
    exact .waits rfl ((deliver_requested request expected owner data).2 foreign)
  · -- An indication changes nothing for it, since it is decoded.
    split at reacts
    · rename_i indicates
      obtain ⟨indication, parsed⟩ := decodes indicates
      rw [parsed] at reacts
      subst reacts
      exact .waits rfl rfl
    · subst reacts
      exact .waits rfl rfl

/-- A message of the request's transaction and of a type it can have ends both calls, or neither. -/
theorem follows_read {collectors : Collectors} {data : Bytes} {after : Reaction}
    (reacts : handleReaction collectors data = after) (same : transactionIDOf data = request.transactionID)
    (typed : messageTypeOf data = expected ∨ messageTypeOf data = MessageType.functionError)
    (kind : isResponseMessage (messageTypeOf data) = true) :
    Follows request response expected owner after (request.readMessage response (messageTypeOf data) data) := by
  unfold handleReaction at reacts
  rw [if_pos kind] at reacts
  -- What the dispatcher's waiter matches is what the reader takes.
  obtain ⟨read, skipped⟩ := readMessage_matches request response expected owner typed
  cases answered : (requestWaiter request expected owner).matches (messageTypeOf data) data with
  -- It is the answer, and ends both calls.
  | true =>
    obtain ⟨result, reads, agree⟩ := read answered
    rw [reads]
    subst reacts
    exact .decides ((deliver_requested request expected owner data).1 ⟨same, answered⟩) agree
  -- It answers another command, and both go on.
  | false =>
    rw [skipped answered]
    subst reacts
    exact .waits rfl ((deliver_requested request expected owner data).2 (by simp [answered]))

/-- A refused frame of the request's answer ends both calls. -/
theorem follows_fault {collectors : Collectors} {fault : FragmentFault} {failure : Option Error} {err : Fault Error}
    (same : fault.transactionID = request.transactionID) :
    Follows request response expected owner (faultReaction collectors fault failure) (some (.error err)) := by
  have failed := decided_of_fail request expected owner (.protocol fault.status)
  have decided : ((faultReaction collectors fault failure).responses (requested request expected owner)).Decided
      (.err (.protocol fault.status)) := by
    cases failure with
    | none => simpa [faultReaction, same] using failed
    | some err => simpa [faultReaction, same] using failed.stop _
  exact .decides decided trivial

/-- The types a request awaits. -/
theorem expected_cases {request : Request} {expected : MessageType}
    (known : responseMessageType request.messageType = some expected) :
    expected = MessageType.openDone ∨ expected = MessageType.closeDone ∨ expected = MessageType.commandDone := by
  unfold responseMessageType at known
  repeat' split at known
  all_goals simp_all

/-- A frame that the reader skips is not for the request in the receiver either. -/
theorem skipped_follows {all : Collectors} {incoming : Incoming} {after : Reaction} (keyed : Keyed all)
    (ordinary : OrdinaryFrame request expected all incoming) (readable : ReadableFrame all incoming)
    (foreign : ¬ (transactionIDOf incoming.frame.data = request.transactionID ∧
      (messageTypeOf incoming.frame.data = expected ∨
        messageTypeOf incoming.frame.data = MessageType.functionError)))
    (reacts : frameReaction all incoming = after) : Follows request response expected owner after none := by
  -- A message with the key of the frame is not for the request.
  have other {data : Bytes} (own : frameKey data = frameKey incoming.frame.data) :
      ¬ (transactionIDOf data = request.transactionID ∧
        (requestWaiter request expected owner).matches (messageTypeOf data) data = true) := by
    rintro ⟨same, answered⟩
    have typed := (Responses.answers_of_matches answered).messageType
    simp only [frameKey, FragmentKey.mk.injEq] at own
    rw [own.2] at same
    rw [own.1] at typed
    exact foreign ⟨same, typed⟩
  unfold frameReaction at reacts
  split at reacts
  · -- A fragment completes a message, or fails, or neither.
    rename_i fragment
    cases collected : collectReceivedFrame all incoming.frame.data incoming.now with
    | mk collectors received =>
      rw [collected] at reacts
      cases received with
      | incomplete =>
        subst reacts
        exact .waits rfl rfl
      | complete data =>
        -- The message that is complete has the key of its fragments.
        have whole : (collectReceivedFrame all incoming.frame.data incoming.now).2 = .complete data := by rw [collected]
        refine follows_skipped request response expected owner reacts (ordinary.decodes data whole) (other ?_)
        exact (collectReceivedFrame_keyed keyed incoming.frame.data incoming.now).2 data whole
      | fault fault =>
        have refused : (collectReceivedFrame all incoming.frame.data incoming.now).2 = .fault fault := by rw [collected]
        obtain ⟨-, rfl⟩ := collectReceivedFrame_fault refused
        rcases ordinary.faults fragment _ refused with own | ⟨elsewhere, written⟩
        · simp only [frameKey, FragmentKey.mk.injEq] at own
          exact absurd ⟨own.2, .inl own.1⟩ foreign
        · -- The fault is of another transaction, and the host error for it is written.
          simp only [written] at reacts
          subst reacts
          refine .waits rfl ?_
          simp [faultReaction, Responses.failResponse, requested_pending, outOfSequence, elsewhere]
      | panicked => exact absurd (by rw [collected]) (readable fragment)
  · -- A frame that is no fragment is handled as it is.
    rename_i single
    refine follows_skipped request response expected owner reacts (fun indicates => ?_) (other rfl)
    rw [indicates] at single
    exact absurd rfl single

/-- Whatever frame arrives, the connection's reader and the receiver come to the same end. -/
theorem readFrame_follows (known : responseMessageType request.messageType = some expected)
    {own all : Collectors} {incoming : Incoming} {after : Reaction}
    (same : own.get { messageType := expected, transactionID := request.transactionID } =
      all.get { messageType := expected, transactionID := request.transactionID })
    (keyed : Keyed all) (ordinary : OrdinaryFrame request expected all incoming)
    (readable : ReadableFrame all incoming) (reacts : frameReaction all incoming = after) :
    (request.readFrame response expected own incoming).1.get
        { messageType := expected, transactionID := request.transactionID } =
      after.collectors.get { messageType := expected, transactionID := request.transactionID } ∧
    Follows request response expected owner after (request.readFrame response expected own incoming).2 := by
  have collectors := frameReaction_collectors reacts
  unfold frameCollectors at collectors
  by_cases addressed : transactionIDOf incoming.frame.data = request.transactionID ∧
      (messageTypeOf incoming.frame.data = expected ∨ messageTypeOf incoming.frame.data = MessageType.functionError)
  · -- The frame is addressed to the request, as far as its header says.
    obtain ⟨mine, typed⟩ := addressed
    have reaches : ¬ (messageTypeOf incoming.frame.data ≠ expected ∧
        messageTypeOf incoming.frame.data ≠ MessageType.functionError) := by tauto
    -- The dispatcher takes such a frame for a response.
    have kind : isResponseMessage (messageTypeOf incoming.frame.data) = true := by
      rcases typed with typed | typed
      · rw [typed]
        rcases expected_cases known with rfl | rfl | rfl <;> rfl
      · rw [typed]
        rfl
    by_cases fragment : isFragmentMessage (messageTypeOf incoming.frame.data) = true
    · -- Only an answered command comes in fragments, and both sides collect it alike.
      have key : frameKey incoming.frame.data = { messageType := expected, transactionID := request.transactionID } := by
        rcases typed with typed | typed
        · rw [frameKey, typed, mine]
        · rw [typed] at fragment
          cases fragment
      rw [← key] at same ⊢
      obtain ⟨received, gets⟩ := collectReceivedFrame_congr incoming.now same
      rw [if_pos fragment] at collectors
      unfold frameReaction at reacts
      rw [if_pos fragment] at reacts
      unfold Request.readFrame
      simp only [mine, ne_eq, not_true_eq_false, if_false, fragment, if_true]
      rw [if_neg reaches]
      cases mineCollected : collectReceivedFrame own incoming.frame.data incoming.now with
      | mk ownAfter ownReceived =>
        cases allCollected : collectReceivedFrame all incoming.frame.data incoming.now with
        | mk allAfter allReceived =>
          rw [mineCollected, allCollected] at received gets
          rw [allCollected] at reacts collectors
          simp only at received gets collectors
          subst received
          rw [collectors]
          -- What both have collected alike, they go on with alike.
          cases ownReceived with
          | incomplete =>
            -- More fragments are awaited.
            subst reacts
            exact ⟨gets, .waits rfl rfl⟩
          | complete data =>
            -- The message is complete, with the header of its fragments.
            have whole : (collectReceivedFrame all incoming.frame.data incoming.now).2 = .complete data := by
              rw [allCollected]
            have named := (collectReceivedFrame_keyed keyed incoming.frame.data incoming.now).2 data whole
            simp only [frameKey, FragmentKey.mk.injEq] at named
            refine ⟨gets, ?_⟩
            rw [← named.1] at typed kind ⊢
            exact follows_read request response expected owner reacts (named.2.trans mine) typed kind
          | fault fault =>
            -- The fragment does not fit, and both calls fail, whether or not the host error is written.
            have refused : (collectReceivedFrame all incoming.frame.data incoming.now).2 = .fault fault := by
              rw [allCollected]
            have addressed : fault.transactionID = request.transactionID := by
              rw [(collectReceivedFrame_fault refused).2]
              exact mine
            subst reacts
            cases incoming.failure with
            | none => exact ⟨gets, follows_fault request response expected owner addressed⟩
            | some err => exact ⟨gets, follows_fault request response expected owner addressed⟩
          | panicked => exact absurd (by rw [allCollected]) (readable fragment)
    · -- A frame in one piece is read at once.
      rw [if_neg fragment] at collectors
      unfold frameReaction at reacts
      rw [if_neg fragment] at reacts
      unfold Request.readFrame
      simp only [mine, ne_eq, not_true_eq_false, if_false, fragment]
      rw [if_neg reaches]
      refine ⟨by rw [collectors]; exact same, ?_⟩
      exact follows_read request response expected owner reacts mine typed kind
  · -- The reader skips the frame, and it belongs to another collection.
    have skips : request.readFrame response expected own incoming = (own, none) := by
      unfold Request.readFrame
      simp only
      split
      · rfl
      · rename_i mine
        rw [if_pos]
        exact ⟨fun typed => addressed ⟨not_not.mp mine, .inl typed⟩,
          fun typed => addressed ⟨not_not.mp mine, .inr typed⟩⟩
    have different : { messageType := expected, transactionID := request.transactionID } ≠
        frameKey incoming.frame.data := by
      intro key
      simp only [frameKey, FragmentKey.mk.injEq] at key
      exact addressed ⟨key.2.symm, .inl key.1.symm⟩
    rw [skips]
    refine ⟨?_, skipped_follows request response expected owner keyed ordinary readable addressed reacts⟩
    rw [collectors]
    split
    · rw [collectReceivedFrame_other all incoming.frame.data incoming.now different]
      exact same
    · exact same

/-- The connection's reader collects nothing but the request's answer. -/
def Lone (own : Collectors) : Prop :=
  ∀ key, key ≠ { messageType := expected, transactionID := request.transactionID } → own.get key = none

/-- The connection's reader collects a fragment of the request's answer, and nothing else. -/
theorem readFrame_collectors (own : Collectors) (incoming : Incoming) :
    (request.readFrame response expected own incoming).1 = own ∨
      frameKey incoming.frame.data = { messageType := expected, transactionID := request.transactionID } ∧
        (request.readFrame response expected own incoming).1 =
          (collectReceivedFrame own incoming.frame.data incoming.now).1 := by
  -- The reader collects only fragments of its own answer.
  by_cases mine : transactionIDOf incoming.frame.data = request.transactionID
  · by_cases skipped : messageTypeOf incoming.frame.data ≠ expected ∧
        messageTypeOf incoming.frame.data ≠ MessageType.functionError
    · -- The type is another.
      left
      simp only [Request.readFrame, mine, ne_eq, not_true_eq_false, if_false]
      rw [if_pos skipped]
    · by_cases fragment : isFragmentMessage (messageTypeOf incoming.frame.data) = true
      · right
        -- Function errors come in one piece, so the frame is of the type the request awaits.
        have answer : messageTypeOf incoming.frame.data = expected := by
          by_contra other
          have failed := not_not.mp (fun foreign => skipped ⟨other, foreign⟩)
          rw [failed] at fragment
          cases fragment
        refine ⟨by rw [frameKey, answer, mine], ?_⟩
        simp only [Request.readFrame, mine, ne_eq, not_true_eq_false, if_false, fragment, if_true]
        rw [if_neg skipped]
        cases collectReceivedFrame own incoming.frame.data incoming.now with
        | mk collectors received =>
          cases received with
          | fault fault => cases incoming.failure <;> rfl
          | _ => rfl
      · -- The frame is in one piece.
        left
        simp only [Request.readFrame, mine, ne_eq, not_true_eq_false, if_false, fragment, Bool.false_eq_true]
        rw [if_neg skipped]
  · -- The transaction is another.
    left
    simp only [Request.readFrame, ne_eq, mine, not_false_eq_true, if_true]

/-- A frame leaves the connection's reader with nothing but the request's answer. -/
theorem Lone.readFrame {own : Collectors} (lone : Lone request expected own) (incoming : Incoming) :
    Lone request expected (request.readFrame response expected own incoming).1 := by
  intro key different
  rcases readFrame_collectors request response expected own incoming with same | ⟨answer, collected⟩
  · rw [same]
    exact lone key different
  · rw [collected, collectReceivedFrame_other own incoming.frame.data incoming.now (answer ▸ different)]
    exact lone key different

/-- The receiver's stop decides a request that waits. -/
theorem decided_of_stop (err : Error) : ((requested request expected owner).stopReceiver err).Decided (.err err) where
  pending := by
    intro transactionID
    simp [Responses.stopReceiver]
  given := rfl

/-- A report of the request's transaction decides it, whatever reports are made with it. -/
theorem reports_decide (collectors : Collectors) (failure : UInt32 → Option Error) (reports : List Report)
    (named : ∃ report ∈ reports, report.transactionID = request.transactionID) :
    ∃ err, ((reportsReaction collectors failure reports).responses (requested request expected owner)).Decided
      (.err err) := by
  -- The induction is on the reports up to the one that names the request.
  induction reports with
  | nil => simp at named
  | cons report rest ih =>
    unfold reportsReaction
    by_cases mine : report.transactionID = request.transactionID
    · -- The request fails here, and what follows does not change that.
      have failed := decided_of_fail request expected owner (.protocol report.status)
      rw [← mine] at failed
      refine ⟨.protocol report.status, ?_⟩
      cases failure report.transactionID with
      | none => exact Responses.Decided.reports collectors failure rest failed
      | some err => exact failed.stop _
    · -- A report for another transaction leaves the request.
      have unchanged : (requested request expected owner).failResponse report.transactionID
          (.protocol report.status) = requested request expected owner := by
        simp [Responses.failResponse, requested_pending, mine]
      -- If its host error is written the loop goes on, and else the receiver stops with the request.
      cases failure report.transactionID with
      | none =>
        simp only [unchanged]
        exact ih (by simpa [mine] using named)
      | some err =>
        simp only [unchanged]
        exact ⟨_, decided_of_stop request expected owner _⟩

/-- Reports of other transactions whose host errors are written leave the request waiting. -/
theorem reports_wait (collectors : Collectors) (failure : UInt32 → Option Error) (reports : List Report)
    (foreign : ∀ report ∈ reports, report.transactionID ≠ request.transactionID ∧ failure report.transactionID = none) :
    (reportsReaction collectors failure reports).returns = false ∧
      (reportsReaction collectors failure reports).responses (requested request expected owner) =
        requested request expected owner := by
  -- The induction is on the reports, each of which is for another transaction.
  induction reports with
  | nil => exact ⟨rfl, rfl⟩
  | cons report rest ih =>
    obtain ⟨elsewhere, written⟩ := foreign report (by simp)
    have unchanged : (requested request expected owner).failResponse report.transactionID
        (.protocol report.status) = requested request expected owner := by
      simp [Responses.failResponse, requested_pending, elsewhere]
    simp only [reportsReaction, written, unchanged]
    exact ih (fun other member => foreign other (List.mem_cons_of_mem _ member))

/-- The transactions that are reported are those of the expired collections. -/
theorem mem_expiryReports {collectors : Collectors} {now : Time} {transactionID : UInt32} :
    (∃ report ∈ expiryReports collectors now, report.transactionID = transactionID) ↔
      ∃ key ∈ expiredKeys collectors now, key.transactionID = transactionID := by
  simp [expiryReports, expireFragmentCollectors, List.mem_eraseDups]

/-- The reader's timer has an effect exactly where the request's answer has expired. -/
theorem readTimer_eq {own : Collectors} (lone : Lone request expected own) (now : Time)
    (failure : UInt32 → Option Error) :
    ({ messageType := expected, transactionID := request.transactionID } ∈ expiredKeys own now →
      ∃ fault, (Request.readTimer own now failure).2 = some (.error fault)) ∧
    ({ messageType := expected, transactionID := request.transactionID } ∉ expiredKeys own now →
      Request.readTimer own now failure = (own, none)) := by
  constructor
  · -- The collection of the answer is one that has expired, so the timer reports a transaction.
    intro expired
    have listed : request.transactionID ∈ (expireFragmentCollectors own now).2 := by
      simp only [expireFragmentCollectors, List.mem_eraseDups, List.mem_map]
      exact ⟨_, expired, rfl⟩
    unfold Request.readTimer
    split
    · rename_i nothing
      rw [nothing] at listed
      cases listed
    · exact ⟨_, rfl⟩
  · intro running
    -- Nothing else is collected, so nothing has expired.
    have nothing : expiredKeys own now = [] := by
      apply List.eq_nil_iff_forall_not_mem.mpr
      intro key expired
      obtain ⟨collection, found, -⟩ := mem_expiredKeys.mp expired
      by_cases answer : key = { messageType := expected, transactionID := request.transactionID }
      · exact running (answer ▸ expired)
      · rw [lone key answer] at found
        cases found
    simp [Request.readTimer, expireFragmentCollectors, nothing]

/-- Where the timers fire, the connection's reader and the receiver come to the same end. -/
theorem readTimer_follows {own all : Collectors} {now : Time} {failure : UInt32 → Option Error}
    (same : own.get { messageType := expected, transactionID := request.transactionID } =
      all.get { messageType := expected, transactionID := request.transactionID })
    (lone : Lone request expected own) (ordinary : OrdinaryTimer request expected all now failure) :
    (Request.readTimer own now failure).1.get { messageType := expected, transactionID := request.transactionID } =
      (reaction all (.timer now failure)).collectors.get
        { messageType := expected, transactionID := request.transactionID } ∧
    Follows request response expected owner (reaction all (.timer now failure))
      (Request.readTimer own now failure).2 := by
  obtain ⟨fires, rests⟩ := readTimer_eq request expected lone now failure
  -- The answer's collection is the same in both, and so expires in both or in neither.
  have both : { messageType := expected, transactionID := request.transactionID } ∈ expiredKeys own now ↔
      { messageType := expected, transactionID := request.transactionID } ∈ expiredKeys all now := by
    rw [mem_expiredKeys, mem_expiredKeys, same]
  have collectors : (reaction all (.timer now failure)).collectors = (expireFragmentCollectors all now).1 :=
    reportsReaction_collectors _ failure _
  rw [collectors, expireFragmentCollectors, get_foldl_delete]
  by_cases expired : { messageType := expected, transactionID := request.transactionID } ∈ expiredKeys all now
  · -- The answer has expired in both, and both calls fail.
    obtain ⟨fault, failed⟩ := fires (both.mpr expired)
    obtain ⟨err, decided⟩ := reports_decide request expected owner (expireFragmentCollectors all now).1 failure
      (expiryReports all now) (mem_expiryReports.mpr ⟨_, expired, rfl⟩)
    refine ⟨?_, ?_⟩
    · -- Both drop the collection.
      rw [if_pos expired]
      unfold Request.readTimer
      split
      all_goals
        rename_i dropped
        have emptied := congrArg (fun state => state.1.get
          { messageType := expected, transactionID := request.transactionID }) dropped
        simp only [expireFragmentCollectors, get_foldl_delete, if_pos (both.mpr expired)] at emptied
        exact emptied.symm
    · rw [failed]
      exact .decides decided trivial
  · -- Only other transactions have expired, and the receiver goes on.
    rw [rests (fun mine => expired (both.mp mine)), if_neg expired]
    refine ⟨same, ?_⟩
    have foreign : ∀ report ∈ expiryReports all now,
        report.transactionID ≠ request.transactionID ∧ failure report.transactionID = none := by
      intro report member
      obtain ⟨key, listed, named⟩ := mem_expiryReports.mp ⟨report, member, rfl⟩
      rw [← named]
      exact ordinary expired key listed
    obtain ⟨going, unchanged⟩ := reports_wait request expected owner (expireFragmentCollectors all now).1 failure
      (expiryReports all now) foreign
    exact .waits going unchanged

/-- What `readConn` has after it has taken what arrives. -/
def readArrival (own : Collectors) (arrival : Arrival) : Collectors × CallResult :=
  request.readRound response expected (own, none) arrival

/-- Whatever arrives, the connection's reader and the receiver come to the same end. -/
theorem readArrival_follows (known : responseMessageType request.messageType = some expected)
    {own all : Collectors} {arrival : Arrival} {after : Reaction}
    (same : own.get { messageType := expected, transactionID := request.transactionID } =
      all.get { messageType := expected, transactionID := request.transactionID })
    (lone : Lone request expected own) (keyed : Keyed all) (ordinary : Ordinary request expected all arrival)
    (readable : Readable all arrival) (reacts : reaction all arrival = after) :
    (readArrival request response expected own arrival).1.get
        { messageType := expected, transactionID := request.transactionID } =
      after.collectors.get { messageType := expected, transactionID := request.transactionID } ∧
    Follows request response expected owner after (readArrival request response expected own arrival).2 := by
  cases arrival with
  | frame incoming => exact readFrame_follows request response expected owner known same keyed ordinary readable reacts
  | timer now failure =>
    subst reacts
    exact readTimer_follows request response expected owner same lone ordinary

/-- Whatever arrives, the reader collects nothing but the request's answer. -/
theorem Lone.readArrival {own : Collectors} (lone : Lone request expected own) {arrival : Arrival}
    (waits : (readArrival request response expected own arrival).2 = none) :
    Lone request expected (Mbim.readArrival request response expected own arrival).1 := by
  cases arrival with
  | frame incoming => exact lone.readFrame request response expected incoming
  | timer now failure =>
    obtain ⟨fires, rests⟩ := readTimer_eq request expected lone now failure
    by_cases expired : { messageType := expected, transactionID := request.transactionID } ∈ expiredKeys own now
    · obtain ⟨fault, failed⟩ := fires expired
      cases waits.symm.trans failed
    · show Lone request expected (Request.readTimer own now failure).1
      rw [rests expired]
      exact lone

/-- The receiver's collectors after what has arrived. -/
def receiverCollectors (arrivals : List Arrival) : Collectors := arrivals.foldl nextCollectors ∅

/-- One more arrival changes the receiver's collectors. -/
theorem receiverCollectors_append (before : List Arrival) (next : Arrival) :
    receiverCollectors (before ++ [next]) = nextCollectors (receiverCollectors before) next :=
  List.foldl_concat nextCollectors ∅ next before

/-- The receiver's collections stay filed under their keys. -/
-- The collections are built up by fragments and cut down by the timer.
theorem receiverCollectors_keyed (arrivals : List Arrival) : Keyed (receiverCollectors arrivals) := by
  induction arrivals using List.reverseRecOn with
  | nil =>
    intro key collection found
    cases found
  | append_singleton before next ih =>
    rw [receiverCollectors_append]
    cases next with
    | frame incoming =>
      simp only [nextCollectors, frameCollectors]
      split
      · exact (collectReceivedFrame_keyed ih _ _).1
      · exact ih
    | timer now failure => exact expireFragmentCollectors_keyed ih now

/-- What the receiver has come to where the connection's reader has come to the given result. -/
inductive Reached (arrivals : List Arrival) (own : Collectors) (s : Receiver) : CallResult → Prop where
  | waits : s.Idle → s.collectors = receiverCollectors arrivals →
      s.dispatcher.responses = requested request expected owner →
      own.get { messageType := expected, transactionID := request.transactionID } =
        s.collectors.get { messageType := expected, transactionID := request.transactionID } →
      Lone request expected own → Reached arrivals own s none
  | decided {result : Go Error Bytes} {given : ResponseResult} :
      (s.Idle ∧ s.collectors = receiverCollectors arrivals ∨ s.stage = .returned) →
      s.dispatcher.responses.Decided given →
      Agree (some result) (some (request.transmitResult response given)) → Reached arrivals own s (some result)

/-- One more arrival is taken by both. -/
theorem Reached.next (known : responseMessageType request.messageType = some expected) {before : List Arrival}
    {own : Collectors} {s : Receiver} {arrival : Arrival} {result : CallResult}
    (reached : Reached request response expected owner before own s result)
    (readable : Readable (receiverCollectors before) arrival)
    (ordinary : result = none → Ordinary request expected (receiverCollectors before) arrival) :
    ∃ s', s.round arrival = some s' ∧
      ((result = none → Reached request response expected owner (before ++ [arrival])
        (readArrival request response expected own arrival).1 s'
        (readArrival request response expected own arrival).2) ∧
      (result ≠ none → Reached request response expected owner (before ++ [arrival]) own s' result)) := by
  -- The collections after the arrival are those that the reaction leaves.
  have grown {after : Reaction} (reacts : reaction (receiverCollectors before) arrival = after) :
      receiverCollectors (before ++ [arrival]) = after.collectors := by
    rw [receiverCollectors_append, reaction_collectors reacts]
  -- A receiver that has not returned is idle again.
  have idle {s' : Receiver} {after : Reaction} (settled : s'.Settled after s.dispatcher.responses)
      (going : after.returns = false) : s'.Idle :=
    ⟨by simp [settled.stage, going], settled.started going, settled.quiet⟩
  cases reached with
  | waits waiting filled asked same lone =>
    -- Both wait for the answer, and take the arrival each in its own way.
    obtain ⟨s', ran, settled⟩ := Receiver.round_settled waiting (filled ▸ readable)
    refine ⟨s', ran, fun _ => ?_, fun decided => absurd rfl decided⟩
    generalize reacts : reaction s.collectors arrival = after at settled
    obtain ⟨gets, follows⟩ := readArrival_follows request response expected owner known same lone
      (filled ▸ receiverCollectors_keyed before) (filled ▸ ordinary rfl) (filled ▸ readable) reacts
    have still (waits : (readArrival request response expected own arrival).2 = none) :=
      lone.readArrival request response expected waits
    have responses := settled.responses
    rw [asked] at responses
    rw [filled] at reacts
    generalize (readArrival request response expected own arrival).2 = outcome at follows still
    cases follows with
    | waits going unchanged =>
      -- Neither has been given its answer, and both wait on.
      exact .waits (idle settled going) (by rw [settled.collectors, grown reacts]) (by rw [responses, unchanged])
        (by rw [settled.collectors]; exact gets) (still rfl)
    | decides decided agree =>
      -- Both calls end here, and the receiver may go on for others.
      refine .decided ?_ (by rw [responses]; exact decided) agree
      cases going : after.returns with
      | true => exact .inr (by simp [settled.stage, going])
      | false => exact .inl ⟨idle settled going, by rw [settled.collectors, grown reacts]⟩
  | @decided result given phase decided agree =>
    rcases phase with ⟨waiting, filled⟩ | returned
    · -- What arrives after the answer reaches nobody.
      obtain ⟨s', ran, settled⟩ := Receiver.round_settled waiting (filled ▸ readable)
      refine ⟨s', ran, nofun, fun _ => ?_⟩
      generalize reacts : reaction s.collectors arrival = after at settled
      refine .decided ?_ (by rw [settled.responses]; exact decided.reaction reacts) agree
      rw [filled] at reacts
      cases going : after.returns with
      | true => exact .inr (by simp [settled.stage, going])
      | false => exact .inl ⟨idle settled going, by rw [settled.collectors, grown reacts]⟩
    · -- A receiver that has returned reads nothing.
      refine ⟨s, by simp [Receiver.round, returned], nofun, fun _ => .decided (.inr returned) decided agree⟩

/-- The receiver of a request that has just been sent. -/
def requestReceiver : Receiver :=
  { dispatcher := { control := { receiverStarted := true }, responses := requested request expected owner } }

/-- The receiver reads the same frames as the connection's reader, to the same end. -/
theorem reached_of_frames (known : responseMessageType request.messageType = some expected)
    (arrivals : List Arrival)
    (readable : ∀ before next after, arrivals = before ++ next :: after → Readable (receiverCollectors before) next)
    (ordinary : ∀ before next after, arrivals = before ++ next :: after →
      (request.readFrames response expected before).2 = none →
      Ordinary request expected (receiverCollectors before) next) :
    ∃ s, arrivals.foldlM Receiver.round (requestReceiver request expected owner) = some s ∧
      Reached request response expected owner arrivals (request.readFrames response expected arrivals).1 s
        (request.readFrames response expected arrivals).2 := by
  -- From the end of the sequence, so that the state before each arrival is at hand.
  induction arrivals using List.reverseRecOn with
  -- At the start both wait, and nothing is collected.
  | nil =>
    refine ⟨_, rfl, .waits ⟨rfl, rfl, rfl, rfl, rfl⟩ rfl rfl rfl ?_⟩
    intro key different
    rfl
  | append_singleton before next ih =>
    -- Up to the last arrival the induction hypothesis says where both are.
    obtain ⟨s, ran, reached⟩ := ih
      (fun front x rest whole => readable front x (rest ++ [next]) (by simp [whole]))
      (fun front x rest whole => ordinary front x (rest ++ [next]) (by simp [whole]))
    obtain ⟨s', round, waiting, ended⟩ := reached.next request response expected owner known
      (readable before next [] rfl) (ordinary before next [] rfl)
    refine ⟨s', ?_, ?_⟩
    · rw [List.foldlM_append, ran, Option.bind_eq_bind, Option.bind_some, List.foldlM_cons, round]
      rfl
    · -- The reader takes the last arrival only if it has no result yet.
      have grown := List.foldl_concat (request.readRound response expected) (∅, none) next before
      have frames : request.readFrames response expected (before ++ [next]) =
          request.readRound response expected (request.readFrames response expected before) next := grown
      rw [frames]
      cases outcome : (request.readFrames response expected before).2 with
      | none =>
        have taken : request.readRound response expected (request.readFrames response expected before) next =
            readArrival request response expected (request.readFrames response expected before).1 next := by
          rw [readArrival, ← outcome]
        rw [taken]
        exact waiting outcome
      | some result =>
        have ignored : request.readRound response expected (request.readFrames response expected before) next =
            ((request.readFrames response expected before).1, some result) := by
          simp only [Request.readRound, outcome]
        have still := ended (by simp [outcome])
        rw [outcome] at still
        rw [ignored]
        exact still

end Request

/-- As long as nothing that arrives stops the receiver or is a fault of another message of the request's transaction,
a request read from its connection and one sent through the dispatcher both wait, both fail, or both return the same
message, whatever frames arrive and whenever the timers of their collections fire. -/
theorem receivers_agree (request : Request) (response : Option ResponseDecoder) {client : Client}
    (connected : client.connected = true) (arrivals : List Arrival)
    (readable : ∀ before next after, arrivals = before ++ next :: after → Readable (receiverCollectors before) next)
    (ordinary : ∀ expected, responseMessageType request.messageType = some expected →
      ∀ before next after, arrivals = before ++ next :: after → request.readConn response before = none →
      Ordinary request expected (receiverCollectors before) next) :
    ∃ result, request.transmit client response arrivals = some result ∧
      Agree (request.readConn response arrivals) result := by
  cases known : responseMessageType request.messageType with
  | none =>
    -- Neither path sends a request that has no response.
    refine ⟨some (Go.fail (.format "registering MBIM response: unsupported request message type %#x"
      [request.messageType.toNat])), by simp [Request.transmit, Dispatcher.registerResponse, known], ?_⟩
    simp [Request.readConn, known, Agree, Go.fail]
  | some expected =>
    have reads (taken : List Arrival) :
        request.readConn response taken = (request.readFrames response expected taken).2 := by
      simp [Request.readConn, known]
    -- The request is registered with a receiver that is started for it.
    have leased : ({} : Control).leaseClosed client = false := by
      unfold Control.leaseClosed
      cases client.lease <;> rfl
    have starts : ({} : Control).ensureReceiverLocked client false = .ok { receiverStarted := true } := by
      simp [Control.ensureReceiverLocked, leased, connected]
    have registers : ({} : Dispatcher).registerResponse client request false =
        ({ receiverStarted := true },
          .ok (.register request.transactionID expected request.expectedCommand client.lease)) := by
      simp [Dispatcher.registerResponse, known, starts]
    have sent : ({} : Receiver).step (.other (.registerResponse client request false)) =
        some (requestReceiver request expected client.lease) := by
      simp [Receiver.step, Receiver.effects, DispatcherEvent.ofReceiver, follow, Dispatcher.step, Dispatcher.effects,
        registers, Except.toOption, Responses.step, Indications.locked, requestReceiver, requested]
    -- From there the two are compared arrival by arrival.
    obtain ⟨s, ran, reached⟩ := reached_of_frames request response expected client.lease known arrivals readable
      (fun before next after whole waits => ordinary expected known before next after whole ((reads before).trans waits))
    have received : Receiver.receive client request arrivals = some s := by
      simp only [Receiver.receive, sent, Option.bind_eq_bind, Option.bind_some]
      exact ran
    refine ⟨(s.dispatcher.responses.resultOf 0).map (request.transmitResult response), ?_, ?_⟩
    · simp [Request.transmit, registers, received]
    · -- What the request's waiter was given is what it returns.
      rw [reads]
      generalize (request.readFrames response expected arrivals).2 = outcome at reached
      cases reached with
      -- Neither has a result.
      | waits idle filled asked same lone =>
        rw [asked]
        trivial
      -- Both have one, and they agree.
      | decided phase decided agree =>
        rw [decided.given]
        exact agree

/-- A property of every place in a sequence is one of its head and of every place in the rest. -/
theorem forall_place_cons {α : Type} {holds : List α → α → Prop} {head : α} {rest : List α} (first : holds [] head)
    (later : ∀ before next after, rest = before ++ next :: after → holds (head :: before) next) :
    ∀ before next after, head :: rest = before ++ next :: after → holds before next := by
  intro before next after whole
  cases before with
  | nil =>
    obtain ⟨rfl, -⟩ := List.cons.inj whole
    exact first
  | cons other before =>
    obtain ⟨rfl, rest⟩ := List.cons.inj whole
    exact later before next after rest

/-- A request to open the device. -/
def openRequest : Request := { messageType := MessageType.open, transactionID := 1, command := none }

/-- A command of a service. -/
def commandRequest : Request :=
  { messageType := MessageType.command
    transactionID := 1
    command := some { serviceID := List.replicate 16 7, commandID := 2 } }

/-- The beginning of an indication that is never finished, half a second before the answer's. -/
def unfinishedIndication : Incoming where
  frame :=
    { data := fragmentFrame MessageType.indicateStatus 0 2 0 (List.replicate 16 7)
      complete := by decide
      bounded := by decide
      measured := by decide }
  now := 0
  failure := none

/-- An indication in one piece. -/
def wholeIndication : Incoming where
  frame :=
    { data := fragmentFrame MessageType.indicateStatus 0 1 0
        (List.replicate 16 7 ++ LittleEndian.putUint32 5 ++ LittleEndian.putUint32 0)
      complete := by decide
      bounded := by decide
      measured := by decide }
  now := 600000000
  failure := none

/-- The two fragments of the command's answer. -/
def answerFragments : Incoming × Incoming :=
  ({ frame :=
      { data := fragmentFrame MessageType.commandDone 1 2 0 (List.replicate 16 7)
        complete := by decide
        bounded := by decide
        measured := by decide }
     now := 500000000
     failure := none },
   { frame :=
      { data := fragmentFrame MessageType.commandDone 1 2 1
          (LittleEndian.putUint32 2 ++ LittleEndian.putUint32 0 ++ LittleEndian.putUint32 1 ++ [9])
        complete := by decide
        bounded := by decide
        measured := by decide }
     now := 1200000000
     failure := none })

/-- An answer in two fragments, with an indication that expires and one that is whole between them. -/
def mixedArrivals : List Arrival :=
  [.frame unfinishedIndication, .frame answerFragments.1, .frame wholeIndication, .timer 1000000000 (fun _ => none),
    .frame answerFragments.2]

/-- A fragment of the answer is ordinary whatever it results in. -/
theorem answer_ordinary {incoming : Incoming} (before : List Arrival)
    (answer : frameKey incoming.frame.data = { messageType := MessageType.commandDone, transactionID := 1 }) :
    Ordinary commandRequest MessageType.commandDone (receiverCollectors before) (.frame incoming) where
  decodes := by
    intro data complete indicates
    have named := (collectReceivedFrame_keyed (receiverCollectors_keyed before) _ _).2 data complete
    rw [answer] at named
    simp only [frameKey, FragmentKey.mk.injEq] at named
    rw [named.1] at indicates
    exact absurd indicates (by decide)
  faults := fun _ _ _ => .inl answer

/-- The answer ends both calls with the same message. -/
theorem mixedArrivals_agree :
    (∃ result, commandRequest.transmit { lease := none, connected := true } none mixedArrivals = some result ∧
      Agree (commandRequest.readConn none mixedArrivals) result) ∧
    (commandRequest.readConn none mixedArrivals).map Except.isOk = some true := by
  refine ⟨receivers_agree commandRequest none rfl mixedArrivals ?_ ?_, by decide +kernel⟩
  · -- No message is too long.
    refine forall_place_cons ?_ (forall_place_cons ?_ (forall_place_cons ?_ (forall_place_cons trivial
      (forall_place_cons ?_ (by simp)))))
    all_goals
      intro fragment
      decide +kernel
  · intro expected known before next after whole waits
    obtain rfl : MessageType.commandDone = expected := Option.some.inj known
    clear waits known
    revert before next after whole
    -- The indications are of another transaction, and the one that is whole can be decoded.
    refine forall_place_cons ?_ (forall_place_cons (answer_ordinary [_] (by decide)) (forall_place_cons ?_
      (forall_place_cons ?_ (forall_place_cons (answer_ordinary [_, _, _, _] (by decide)) (by simp)))))
    · have begun : (collectReceivedFrame (receiverCollectors []) unfinishedIndication.frame.data
          unfinishedIndication.now).2 = .incomplete := by decide +kernel
      refine ⟨fun data complete => ?_, fun _ _ _ => .inr ⟨by decide, rfl⟩⟩
      cases begun.symm.trans complete
    · have whole : (collectReceivedFrame (receiverCollectors [.frame unfinishedIndication, .frame answerFragments.1])
          wholeIndication.frame.data wholeIndication.now).2 = .complete wholeIndication.frame.data := by decide +kernel
      refine ⟨fun data complete _ => ?_, fun _ _ _ => .inr ⟨by decide, rfl⟩⟩
      obtain rfl := Received.complete.inj (whole.symm.trans complete)
      exact ⟨_, rfl⟩
    · -- The answer began half a second later, so the unfinished indication expires alone.
      have expired : expiredKeys (receiverCollectors [.frame unfinishedIndication, .frame answerFragments.1,
          .frame wholeIndication]) 1000000000 =
          [{ messageType := MessageType.indicateStatus, transactionID := 0 }] := by decide +kernel
      intro running key listed
      rw [expired, List.mem_singleton] at listed
      subst listed
      exact ⟨by decide, rfl⟩

/-- A complete indication that is too short to be one. -/
def shortIndication : Incoming where
  frame :=
    { data := fragmentFrame MessageType.indicateStatus 0 1 0 []
      complete := by decide
      bounded := by decide
      measured := by decide }
  now := 0
  failure := none

/-- A complete indication that cannot be parsed fails a request that was sent through the dispatcher, and the
connection's reader goes on waiting. -/
theorem shortIndication_not_agrees :
    ∃ result, openRequest.transmit { lease := none, connected := true } none [.frame shortIndication] = some result ∧
      result.isSome = true ∧ openRequest.readConn none [.frame shortIndication] = none ∧
      ¬ Agree (openRequest.readConn none [.frame shortIndication]) result := by
  -- The dispatcher stops at an indication that is too short, which the reader skips.
  have fails : (openRequest.transmit { lease := none, connected := true } none [.frame shortIndication]).map Option.isSome =
      some true := by decide +kernel
  have waits : (openRequest.readConn none [.frame shortIndication]).isNone = true := by decide +kernel
  obtain ⟨result, sent, some⟩ := Option.map_eq_some_iff.mp fails
  rw [Option.isNone_iff_eq_none] at waits
  refine ⟨result, sent, some, waits, ?_⟩
  rw [waits]
  cases result with
  | none => cases some
  | some result => exact fun agree => agree

end Wwan.Mbim
