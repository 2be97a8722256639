import Wwan.Modem.Incoming
import Wwan.Proofs.Sms.Safety

/-! Every point-to-point message that asks for it is acknowledged once, before the next message is handled. -/

namespace Wwan.Modem.Qmi

open Sms

variable {ε : Type}

/-- The acknowledgements among some actions. -/
def acknowledgements (acts : List (WatchAct ε)) : List WMSACKRequest :=
  acts.filterMap fun
    | .acknowledge ack => some ack
    | .send _ => none

/-- The PDU of a message decodes. -/
def WMSIncomingMessage.decodes (raw : WMSIncomingMessage ε) : Bool := (Part.unmarshalBinary raw.pdu).isOk

/-- The loop handles a message that it can read and that has the format it decodes. -/
def WMSIncomingMessage.handled (raw : WMSIncomingMessage ε) : Bool :=
  raw.readError.isNone && raw.format == .gwPointToPoint

/-- The acknowledgement that a message asks for. -/
def WMSIncomingMessage.owed (raw : WMSIncomingMessage ε) : List WMSACKRequest :=
  if raw.handled && raw.needsACK then [{ raw.ack with success := raw.decodes }] else []

/-- The stream may end with a message: it was cancelled, could not read the message, or failed to acknowledge it. -/
def WMSIncomingMessage.MayEnd (raw : WMSIncomingMessage ε) (answers : LoopAnswers ε) : Prop :=
  answers.cancelled = true ∨ raw.readError.isSome ∨
    (raw.handled = true ∧ raw.needsACK = true ∧ raw.decodes = true ∧ answers.ack.isSome)

/-- What the loop owes for one message. -/
structure Handles (raw : WMSIncomingMessage ε) (answers : LoopAnswers ε) (acts : List (WatchAct ε)) (next : WatchNext) :
    Prop where
  /-- Exactly the owed acknowledgement is made. -/
  acks : acknowledgements acts = raw.owed
  /-- A message that does not decode is reported with its error. -/
  reports : raw.handled = true → ∀ err, Part.unmarshalBinary raw.pdu = Go.fail err →
    .send (.decodeError (raw.decodeError err)) ∈ acts
  /-- The loop goes on unless one of the three happened. -/
  goesOn : ¬ raw.MayEnd answers → next = .goOn

/-- Sending an item makes no acknowledgement. -/
theorem acknowledgements_send (acts : List (WatchAct ε)) (item : StreamItem ε) :
    acknowledgements (acts ++ [.send item]) = acknowledgements acts := by
  simp [acknowledgements, List.filterMap_append]

/-- Assembling a part makes no acknowledgement, and ends the loop only when it is cancelled. -/
theorem assemblePart_spec (a : Assembler) (answers : LoopAnswers ε) (acts : List (WatchAct ε)) (part : Part) :
    acknowledgements (assemblePart a answers acts part).2.1 = acknowledgements acts ∧
      (answers.cancelled = false → (assemblePart a answers acts part).2.2 = .goOn) := by
  unfold assemblePart
  rcases added : a.add part with ⟨a, _ | message⟩
  · exact ⟨rfl, fun _ => rfl⟩
  · refine ⟨acknowledgements_send _ _, fun live => ?_⟩
    simp [sendStreamResult, live]

/-- A stream that has no reason to end is not cancelled. -/
theorem not_cancelled_of_not_mayEnd {raw : WMSIncomingMessage ε} {answers : LoopAnswers ε}
    (live : ¬ raw.MayEnd answers) : answers.cancelled = false := by
  cases cancelled : answers.cancelled with
  | true => exact absurd (.inl cancelled) live
  | false => rfl

/-- The loop does for every message what it owes. -/
theorem watchMessage_handles (a : Assembler) (raw : WMSIncomingMessage ε) (answers : LoopAnswers ε) :
    Handles raw answers (watchMessage a raw answers).2.1 (watchMessage a raw answers).2.2 := by
  have safe := (Part.unmarshalBinary_ensures raw.pdu).1
  unfold watchMessage
  cases read : raw.readError with
  | some err =>
    have unread : raw.handled = false := by simp [WMSIncomingMessage.handled, read]
    refine ⟨by simp [acknowledgements, WMSIncomingMessage.owed, unread], by simp [unread], fun live => ?_⟩
    exact absurd (.inr (.inl (by simp [read]))) live
  | none =>
    by_cases format : raw.format = .gwPointToPoint
    · have handled : raw.handled = true := by simp [WMSIncomingMessage.handled, read, format]
      simp only [format, ne_eq, not_true_eq_false, if_false]
      cases decoded : Part.unmarshalBinary raw.pdu with
      | error fault =>
        have undecoded : raw.decodes = false := by simp [WMSIncomingMessage.decodes, decoded, Except.isOk, Except.toBool]
        cases fault with
        | outOfRange => exact absurd decoded safe
        | err err =>
          refine ⟨?_, ?_, ?_⟩
          · refine (acknowledgements_send _ _).trans ?_
            cases needs : raw.needsACK with
            | true => simp [acknowledgements, WMSIncomingMessage.owed, handled, needs, undecoded, WMSIncomingMessage.ack]
            | false => simp [acknowledgements, WMSIncomingMessage.owed, needs]
          · intro _ other same
            have equal : err = other := by simpa [Go.fail, decoded] using same
            simp [sendStreamResult, equal]
          · intro live
            simp [sendStreamResult, not_cancelled_of_not_mayEnd live]
      | ok part =>
        have decodes : raw.decodes = true := by simp [WMSIncomingMessage.decodes, decoded, Except.isOk, Except.toBool]
        cases needs : raw.needsACK with
        | true =>
          simp only [if_true]
          cases acked : answers.ack with
          | some err =>
            refine ⟨?_, by simp [decoded, Go.fail], fun live => ?_⟩
            · simp [acknowledgements, WMSIncomingMessage.owed, handled, needs, decodes]
            · exact absurd (.inr (.inr ⟨handled, needs, decodes, by simp [acked]⟩)) live
          | none =>
            obtain ⟨acks, going⟩ := assemblePart_spec a answers [.acknowledge { raw.ack with success := true }] (raw.stamp part)
            refine ⟨acks.trans ?_, by simp [decoded, Go.fail], fun live => going (not_cancelled_of_not_mayEnd live)⟩
            simp [acknowledgements, WMSIncomingMessage.owed, handled, needs, decodes]
        | false =>
          obtain ⟨acks, going⟩ := assemblePart_spec a answers [] (raw.stamp part)
          simp only [Bool.false_eq_true, if_false]
          refine ⟨acks.trans ?_, by simp [decoded, Go.fail], fun live => going (not_cancelled_of_not_mayEnd live)⟩
          simp [acknowledgements, WMSIncomingMessage.owed, needs]
    · have skipped : raw.handled = false := by simp [WMSIncomingMessage.handled, format]
      simp only [format, ne_eq, not_false_eq_true, if_true]
      exact ⟨by simp [acknowledgements, WMSIncomingMessage.owed, skipped], by simp [skipped], fun _ => rfl⟩

/-! Whole streams. -/

/-- The loop does something for the first of any messages. -/
theorem watchLoop_length_pos (answers : Nat → LoopAnswers ε) (a : Assembler) (start : Nat)
    {delivered : List (WMSIncomingMessage ε)} (some_ : 0 < delivered.length) :
    0 < (watchLoop answers a start delivered).length := by
  cases delivered with
  | nil => simp at some_
  | cons first rest =>
    rw [watchLoop]
    split <;> simp

/-- What a stream owes for the message at a position. -/
structure HandlesAt (answers : LoopAnswers ε) (rounds : List (List (WatchAct ε))) (delivered : List (WMSIncomingMessage ε))
    (i : Nat) (raw : WMSIncomingMessage ε) : Prop where
  /-- Once it comes to the message, the stream does what it owes, and goes on with the next one. -/
  handled : ∀ acts, rounds[i]? = some acts → ∃ next, Handles raw answers acts next ∧
    (next = .goOn → i + 1 < delivered.length → i + 1 < rounds.length)

/-- The loop handles every message that it comes to, and comes to all messages before it may end. -/
theorem watchLoop_handles (answers : Nat → LoopAnswers ε) (a : Assembler) (start : Nat)
    (delivered : List (WMSIncomingMessage ε)) (i : Nat) (raw : WMSIncomingMessage ε) (at_ : delivered[i]? = some raw) :
    HandlesAt (answers (start + i)) (watchLoop answers a start delivered) delivered i raw ∧
    ((watchLoop answers a start delivered)[i]? = none → ∃ j earlier, j < i ∧ delivered[j]? = some earlier ∧
      earlier.MayEnd (answers (start + j))) := by
  induction delivered generalizing a start i with
  | nil => simp at at_
  | cons first rest ih =>
    have handles := watchMessage_handles a first (answers start)
    rcases watched : watchMessage a first (answers start) with ⟨after, acts, next⟩
    rw [watched] at handles
    -- Either the loop goes on with the rest, or this was its last message.
    by_cases going : next = .goOn
    · subst going
      have unfolded : watchLoop answers a start (first :: rest) = acts :: watchLoop answers after (start + 1) rest := by
        rw [watchLoop, watched]
      rw [unfolded]
      -- The message is the first, or one of the rest.
      cases i with
      -- The first message is this one.
      | zero =>
        rw [List.getElem?_cons_zero, Option.some.injEq] at at_
        subst at_
        refine ⟨⟨fun same member => ?_⟩, by simp⟩
        rw [List.getElem?_cons_zero, Option.some.injEq] at member
        subst member
        -- The loop takes another message, where there is one.
        refine ⟨.goOn, handles, fun _ more => ?_⟩
        have := watchLoop_length_pos answers after (start + 1) (by simpa using more)
        simpa using this
      | succ i =>
        -- The message is one of the rest.
        rw [List.getElem?_cons_succ] at at_
        obtain ⟨handled, reached⟩ := ih after (start + 1) i at_
        have shift (k : Nat) : start + 1 + k = start + (k + 1) := by omega
        rw [shift] at handled
        refine ⟨⟨fun same member => ?_⟩, fun missing => ?_⟩
        · rw [List.getElem?_cons_succ] at member
          obtain ⟨next, owes, more⟩ := handled.handled same member
          refine ⟨next, owes, fun on inside => ?_⟩
          have := more on (by simpa using inside)
          simpa using this
        · rw [List.getElem?_cons_succ] at missing
          obtain ⟨j, earlier, before, found, ends⟩ := reached missing
          refine ⟨j + 1, earlier, by omega, by simpa using found, ?_⟩
          rwa [← shift]
    · -- The loop returns, and handles no other message.
      have unfolded : watchLoop answers a start (first :: rest) = [acts] := by
        rw [watchLoop, watched]
        cases next with
        | goOn => exact absurd rfl going
        | ret => rfl
        | panic => rfl
      have ends : first.MayEnd (answers start) := by
        by_contra live
        exact going (handles.goesOn live)
      rw [unfolded]
      cases i with
      | zero =>
        rw [List.getElem?_cons_zero, Option.some.injEq] at at_
        subst at_
        refine ⟨⟨fun same member => ?_⟩, by simp⟩
        rw [List.getElem?_cons_zero, Option.some.injEq] at member
        subst member
        exact ⟨next, handles, fun on => absurd on going⟩
      | succ i =>
        refine ⟨⟨fun same member => by simp at member⟩, fun _ => ?_⟩
        exact ⟨0, first, by omega, rfl, ends⟩

/--
For every stream of delivered messages, each point-to-point message that asks for it is acknowledged exactly once.

The acknowledgement has the transaction of the message, succeeds exactly if the message decodes, and is made while the
message is handled. The stream ends only by cancellation, a read error, or a failed positive acknowledgement, and a
message that does not decode is reported without ending it. Messages of other formats are not acknowledged.
-/
theorem watchMessages_acknowledges (indications : List (List TLV × Except ε WMSRawMessage)) (count : Nat)
    (answers : Nat → LoopAnswers ε) (i : Nat) (raw : WMSIncomingMessage ε)
    (delivered : ((wmsWatchIncoming indications).take count)[i]? = some raw) :
    (∀ acts, (watchMessages answers ((wmsWatchIncoming indications).take count))[i]? = some acts →
      acknowledgements acts = raw.owed ∧
      (raw.handled = true → ∀ err, Part.unmarshalBinary raw.pdu = Go.fail err →
        .send (.decodeError (raw.decodeError err)) ∈ acts ∧
        ((answers i).cancelled = false → i + 1 < ((wmsWatchIncoming indications).take count).length →
          i + 1 < (watchMessages answers ((wmsWatchIncoming indications).take count)).length))) ∧
    ((watchMessages answers ((wmsWatchIncoming indications).take count))[i]? = none →
      ∃ j earlier, j < i ∧ ((wmsWatchIncoming indications).take count)[j]? = some earlier ∧
        earlier.MayEnd (answers j)) := by
  obtain ⟨handled, reached⟩ := watchLoop_handles answers {} 0 _ i raw delivered
  simp only [Nat.zero_add] at handled reached
  refine ⟨fun acts member => ?_, reached⟩
  obtain ⟨next, owes, more⟩ := handled.handled acts member
  refine ⟨owes.acks, fun own err failed => ⟨owes.reports own err failed, fun live inside => more ?_ inside⟩⟩
  -- A message that was read and does not decode leaves cancellation as the only end.
  refine owes.goesOn fun ends => ?_
  have undecoded : raw.decodes = false := by
    simp [WMSIncomingMessage.decodes, failed, Go.fail, Except.isOk, Except.toBool]
  rcases ends with cancelled | unread | ⟨-, -, decodes, -⟩
  · simp [live] at cancelled
  · simp only [WMSIncomingMessage.handled, Bool.and_eq_true, Option.isNone_iff_eq_none] at own
    simp [own.1] at unread
  · simp [undecoded] at decodes

/-- An indication of a message on the transfer route that has to be acknowledged. -/
def transferIndication (transaction format : UInt8) (tpdu : Bytes) : List TLV × Except Unit WMSRawMessage :=
  ([{ type := 0x11, value := [0, transaction, 0, 0, 0, format, UInt8.ofNat tpdu.length, 0] ++ tpdu }], .error ())

/-- A message with one octet. -/
def deliverTPDU : Bytes := [0x04, 0x00, 0x91, 0x00, 0x04, 0x62, 0x10, 0x10, 0x00, 0x00, 0x00, 0x00, 1, 0x61]

/-- A truncated message and a whole one. -/
def pointToPointIndications : List (List TLV × Except Unit WMSRawMessage) :=
  [transferIndication 7 0x06 [0x04], transferIndication 8 0x06 deliverTPDU]

/-- Nothing goes wrong in the loop. -/
def undisturbed : Nat → LoopAnswers Unit := fun _ => { ack := none, cancelled := false }

/-- The first message is acknowledged negatively and the second one positively. -/
theorem pointToPoint_acknowledged : ∃ raw acts,
    ((wmsWatchIncoming pointToPointIndications).take 2)[0]? = some raw ∧
    (watchMessages undisturbed ((wmsWatchIncoming pointToPointIndications).take 2))[0]? = some acts ∧
    acknowledgements acts = [{ transactionID := 7, protocol := .wcdma, success := false }] ∧
    (watchMessages undisturbed ((wmsWatchIncoming pointToPointIndications).take 2)).map acknowledgements =
      [[{ transactionID := 7, protocol := .wcdma, success := false }],
        [{ transactionID := 8, protocol := .wcdma, success := true }]] := by
  have messages : (((wmsWatchIncoming pointToPointIndications).take 2)[0]?).map WMSIncomingMessage.owed =
      some [{ transactionID := 7, protocol := .wcdma, success := false }] := by decide +kernel
  have rounds : (watchMessages undisturbed ((wmsWatchIncoming pointToPointIndications).take 2))[0]?.isSome := by
    decide +kernel
  obtain ⟨raw, delivered, owed⟩ := Option.map_eq_some_iff.mp messages
  obtain ⟨acts, handled⟩ := Option.isSome_iff_exists.mp rounds
  refine ⟨raw, acts, delivered, handled, ?_, by decide +kernel⟩
  rw [((watchMessages_acknowledges pointToPointIndications 2 undisturbed 0 raw delivered).1 acts handled).1, owed]

/-- A broadcast message on the transfer route that has to be acknowledged. -/
def broadcastIndications : List (List TLV × Except Unit WMSRawMessage) := [transferIndication 9 0x07 deliverTPDU]

/-- The loop takes the broadcast message and goes on, without an acknowledgement. -/
theorem broadcast_not_acknowledged : ∃ raw acts, wmsWatchIncoming broadcastIndications = [raw] ∧
    raw.stored = false ∧ raw.needsACK = true ∧ raw.readError = none ∧
    watchMessages undisturbed (wmsWatchIncoming broadcastIndications) = [acts] ∧ acknowledgements acts = [] := by
  have delivered : (wmsWatchIncoming broadcastIndications).map
      (fun raw => (raw.stored, raw.needsACK, raw.readError)) = [(false, true, none)] := by decide +kernel
  have handled : watchMessages undisturbed (wmsWatchIncoming broadcastIndications) = [[]] := by decide +kernel
  obtain ⟨raw, one, seen⟩ := List.map_eq_singleton_iff.mp delivered
  simp only [Prod.mk.injEq] at seen
  exact ⟨raw, [], one, seen.1, seen.2.1, seen.2.2, handled, rfl⟩

end Wwan.Modem.Qmi
