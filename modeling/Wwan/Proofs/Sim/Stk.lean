import Wwan.Proofs.Sim.StkCommand
import Wwan.Sim.Stk

/-! Every proactive command that is accepted gets one terminal response, which fits it. -/

namespace Wwan.Sim.Stk

open Tlv (Item)

/-- The item of command details takes five bytes. -/
theorem marshalBinary_details (details : CommandDetails) :
    (Item.newComprehension Tag.commandDetails [details.number, details.type, details.qualifier]).marshalBinary =
      .ok [0x81, 0x03, details.number, details.type, details.qualifier] := by
  have tag : Tag.commandDetails &&& 0x7f ||| 0x80 = 0x81 := by decide
  simp [Item.marshalBinary, Item.newComprehension, Item.new, tag, Tlv.marshalLength]

/-- A response starts with the details of its command. -/
theorem TerminalResponse.marshalFor_details {response : TerminalResponse} {command : Command} {bytes : Bytes}
    (marshalled : response.marshalFor command = .ok bytes) :
    ∃ rest, bytes = 0x81 :: 0x03 :: command.frame.details.number :: command.frame.details.type ::
      command.frame.details.qualifier :: rest := by
  rw [marshalFor] at marshalled
  obtain ⟨text, -, marshalled⟩ := Go.bind_eq_ok.mp marshalled
  split at marshalled
  · next data encoded =>
    cases marshalled
    simp only [List.cons_append, Tlv.marshalBinary, marshalBinary_details, Go.ok_bind] at encoded
    obtain ⟨others, -, encoded⟩ := Go.bind_eq_ok.mp encoded
    cases encoded
    exact ⟨others, rfl⟩
  · simp at marshalled
  · cases marshalled

section Handle

variable {ε : Type} (callbacks : STKCallbacks ε) (now : Time)
  (respond : STKSession → TerminalResponse → Option ε)

/-- The sessions in which the modem is only told that what it does has been shown. -/
def ConfirmsModem (session : STKSession) (command : Command) : Prop :=
  session.responseKind = .eventConfirmation ∧ isModemOwnedBIPCommand command = true

/-- A confirmation is sent without a look at the callbacks. -/
theorem handle_of_confirms {session : STKSession} {command : Command} (held : session.command = some command)
    (confirms : ConfirmsModem session command) :
    (handle callbacks now respond session).responses = [(session, .ok)] ∧
      (handle callbacks now respond session).called = [] := by
  have condition : session.responseKind = .eventConfirmation ∧ isModemOwnedBIPCommand command = true := confirms
  simp only [handle, held, if_pos condition, and_self]

/-- Any other command is answered by what its dispatch returns. -/
theorem handle_of_dispatch {session : STKSession} {command : Command} (held : session.command = some command)
    (owned : ¬ ConfirmsModem session command) :
    (handle callbacks now respond session).called = (dispatch callbacks now command).called ∧
      (handle callbacks now respond session).responses =
        [(session, match (dispatch callbacks now command).outcome with
          | .ok response => responseForCommand command response
          | .error _ => .ofResult ResultCode.terminalUnableToProcess)] := by
  have condition : ¬ (session.responseKind = .eventConfirmation ∧ isModemOwnedBIPCommand command = true) := owned
  simp only [handle, held, if_neg condition]
  cases (dispatch callbacks now command).outcome <;> exact ⟨rfl, rfl⟩

/-- A malformed command is answered with its result, and no callback is called. -/
theorem handle_of_malformed {session : STKSession} {cmd : MalformedCommand}
    (held : session.command = some (.malformed cmd)) (error : ErrorResult cmd.responseCode) :
    (handle callbacks now respond session).called = [] ∧
      (handle callbacks now respond session).responses = [(session, .ofResult cmd.responseCode)] := by
  have owned : ¬ ConfirmsModem session (.malformed cmd) := by
    intro confirms
    exact absurd confirms.2 (by simp [isModemOwnedBIPCommand])
  -- No error result is the result that stands for none.
  have code : cmd.resultCode = cmd.responseCode := by
    rcases error with code | code <;> simp only [MalformedCommand.resultCode, code] <;> rfl
  have kept : responseForCommand (.malformed cmd) (.ofResult cmd.responseCode) = .ofResult cmd.responseCode := by
    rw [responseForCommand, if_neg]
    intro performed
    rcases error with code | code <;> exact absurd performed.2 (by rw [TerminalResponse.ofResult, code]; decide)
  obtain ⟨called, responses⟩ := handle_of_dispatch callbacks now respond held owned
  refine ⟨called, responses.trans ?_⟩
  simp only [dispatch, Dispatched.answer, code, kept]

/-- Every command that is accepted from its bytes is answered exactly once. The response repeats the
details that were received. A command that misses a mandatory item, or has an unexpected one whose
comprehension is required, is answered with an error result and shown to no callback. A performed
response to a command with unexpected items turns into partial comprehension, except where the modem
is only given the confirmation it asks for. -/
theorem handle_answers (session : STKSession) {data : Bytes} {command : Command}
    (accepted : ProactiveCommand.unmarshalBinary data = .ok command) (held : session.command = some command) :
    (∃ response, (handle callbacks now respond session).responses = [(session, response)]) ∧
    (∃ details, ReceivedDetails data details ∧
      ∀ response bytes, TerminalResponse.marshalFor response command = .ok bytes →
        ∃ rest, bytes = 0x81 :: 0x03 :: details.number :: details.type :: details.qualifier :: rest) ∧
    ((MissesMandatory (receivedTLVs data) command.frame.details.type ∨
        ∃ item ∈ receivedTLVs data, Unexpected command.frame.details.type item ∧ item.comprehensionRequired) →
      (handle callbacks now respond session).called = [] ∧
        ∃ response, (handle callbacks now respond session).responses = [(session, response)] ∧
          ErrorResult response.result) ∧
    ((∃ item ∈ receivedTLVs data, Unexpected command.frame.details.type item) →
      (∀ item ∈ receivedTLVs data, Unexpected command.frame.details.type item →
        item.comprehensionRequired = false) →
      (ConfirmsModem session command →
        (handle callbacks now respond session).responses = [(session, .ok)]) ∧
      (¬ ConfirmsModem session command →
        ∀ response, (dispatch callbacks now command).outcome = .ok response →
          response.result = ResultCode.commandPerformed →
          (handle callbacks now respond session).responses =
            [(session, { response with result := ResultCode.partialComprehension })])) := by
  obtain ⟨details, items, outcome⟩ := unmarshalBinary_spec accepted
  refine ⟨?_, ⟨_, details, fun response bytes => TerminalResponse.marshalFor_details⟩, ?_, ?_⟩
  · -- One response is sent in either case.
    by_cases owned : ConfirmsModem session command
    · exact ⟨_, (handle_of_confirms callbacks now respond held owned).1⟩
    · exact ⟨_, (handle_of_dispatch callbacks now respond held owned).2⟩
  · -- The command misses an item, or holds an unknown one that it requires.
    intro misfit
    rcases outcome with ⟨cmd, rfl, error⟩ | valid
    · -- The frame is malformed, and no callback runs.
      obtain ⟨called, responses⟩ := handle_of_malformed callbacks now respond held error
      exact ⟨called, _, responses, error⟩
    · -- A valid frame has every mandatory item, and comprehends those it must.
      exfalso
      rw [← items] at misfit
      rcases misfit with misses | ⟨item, member, unexpected, required⟩
      · exact CommandFrame.validate_of_misses misses valid
      · have optional := (CommandFrame.validate_unexpected valid member unexpected).1
        simp [optional] at required
  · -- The unknown items need not be understood.
    intro unexpected _
    refine ⟨fun owned => (handle_of_confirms callbacks now respond held owned).1, ?_⟩
    intro owned response dispatched performed
    obtain ⟨-, responses⟩ := handle_of_dispatch callbacks now respond held owned
    rw [dispatched] at responses
    rcases outcome with ⟨cmd, rfl, error⟩ | valid
    · -- No malformed command is performed.
      exfalso
      simp only [dispatch, Dispatched.answer, Except.ok.injEq] at dispatched
      subst dispatched
      simp only [TerminalResponse.ofResult, MalformedCommand.resultCode] at performed
      rcases error with code | code <;> rw [code] at performed <;> exact absurd performed (by decide)
    · obtain ⟨item, member, unexpected⟩ := unexpected
      have isPartial := (CommandFrame.validate_unexpected valid (items ▸ member) unexpected).2
      rw [responses]
      simp only [responseForCommand, if_pos (And.intro isPartial performed)]

end Handle

/-- An open-channel command with an item identifier, which it need not have. -/
def channelWithItemID : Bytes :=
  [0xD0, 0x10, 0x81, 0x03, 0x01, 0x40, 0x00, 0x82, 0x02, 0x81, 0x82, 0xB9, 0x02, 0x05, 0x78, 0x10, 0x01, 0x01]

/-- The command of these bytes. -/
def channelCommand : Command :=
  .openChannel
    { details := { number := 1, type := CommandType.openChannel, qualifier := 0 }
      devices := { source := DeviceID.uicc, destination := DeviceID.terminal }
      isPartial := true
      tlvs := [⟨0x81, [1, 0x40, 0]⟩, ⟨0x82, [0x81, 0x82]⟩, ⟨0xB9, [0x05, 0x78]⟩, ⟨0x10, [0x01]⟩]
      raw := channelWithItemID
      bufferSize := 0x578
      immediate := false
      automaticReconnection := false
      background := false
      dnsServerRequest := false
      launchParameters := false }

/-- The first minute of a year. -/
def newYear : Time := { year := 2026, month := 1, day := 1, hour := 0, minute := 0, second := 0, offset := 0 }

/-- The command is accepted. -/
theorem channelWithItemID_accepted : ProactiveCommand.unmarshalBinary channelWithItemID = .ok channelCommand := by
  decide +kernel

/-- Only the item identifier is not expected, and it need not be comprehended. -/
theorem channelWithItemID_unexpected :
    (∃ item ∈ receivedTLVs channelWithItemID, Unexpected channelCommand.frame.details.type item) ∧
      ∀ item ∈ receivedTLVs channelWithItemID, Unexpected channelCommand.frame.details.type item →
        item.comprehensionRequired = false := by
  have items : receivedTLVs channelWithItemID = channelCommand.frame.tlvs := by decide +kernel
  rw [items]
  simp only [Unexpected]
  decide +kernel

/-- With a callback that performs everything, the command is answered as partial comprehension. -/
theorem performedChannel_partial :
    (handle (ε := Unit) { generic := some fun _ => .ok .ok } newYear (fun _ _ => none)
      { ref := 1, command := some channelCommand }).responses =
        [({ ref := 1, command := some channelCommand },
          { TerminalResponse.ok with result := ResultCode.partialComprehension })] := by
  have answered := handle_answers (ε := Unit) { generic := some fun _ => .ok .ok } newYear (fun _ _ => none)
    { ref := 1, command := some channelCommand } channelWithItemID_accepted rfl
  have terminal : ¬ ConfirmsModem { ref := 1, command := some channelCommand } channelCommand := by
    intro confirms
    exact absurd confirms.1 (by decide)
  exact (answered.2.2.2 channelWithItemID_unexpected.1 channelWithItemID_unexpected.2).2 terminal _ rfl rfl

/-- In a session that waits for a confirmation, the command is answered as performed. -/
theorem confirmedChannel_performed :
    ¬ ∀ (data : Bytes) (command : Command) (session : STKSession),
      ProactiveCommand.unmarshalBinary data = .ok command → session.command = some command →
      (∃ item ∈ receivedTLVs data, Unexpected command.frame.details.type item) →
      (∀ item ∈ receivedTLVs data, Unexpected command.frame.details.type item →
        item.comprehensionRequired = false) →
      ∀ sent ∈ (handle (ε := Unit) {} newYear (fun _ _ => none) session).responses,
        sent.2.result ≠ ResultCode.commandPerformed := by
  intro always
  exact always channelWithItemID channelCommand
    { ref := 1, command := some channelCommand, responseKind := .eventConfirmation }
    channelWithItemID_accepted rfl channelWithItemID_unexpected.1 channelWithItemID_unexpected.2
    _ (List.mem_singleton_self _) rfl

end Wwan.Sim.Stk
