import Wwan.Sim.StkCommand

/-! What an accepted proactive command keeps of its bytes, and which commands are malformed. -/

namespace Wwan.Sim.Stk

open Tlv (Item)

/-- The items in the bytes of a command, up to the first that is malformed. -/
def receivedTLVs (data : Bytes) : List Item :=
  match Tlv.unwrapBER data with
  | .ok (_, body) => (commandTLVs body).1
  | .error _ => []

/-- The first command-details item in the bytes of a command starts with these details. -/
def ReceivedDetails (data : Bytes) (details : CommandDetails) : Prop :=
  ∃ item rest, Tlv.find (receivedTLVs data) Tag.commandDetails = some item ∧
    item.value = details.number :: details.type :: details.qualifier :: rest

/-- The tags that the commands of a type must have besides the command details. -/
def mandatoryTLVs (type : CommandType) : List UInt8 :=
  Tag.deviceIDs ::
    if type = CommandType.displayText ∨ type = CommandType.getInkey then [Tag.textString]
    else if type = CommandType.getInput then [Tag.textString, Tag.responseLength]
    else if type = CommandType.selectItem then [Tag.item]
    else if type = CommandType.setupEventList then [Tag.eventList]
    else if type = CommandType.openChannel then [Tag.bufferSize]
    else if type = CommandType.receiveData then [Tag.channelDataLen]
    else if type = CommandType.sendData then [Tag.channelData]
    else []

/-- No item has one of the mandatory tags. -/
def MissesMandatory (items : List Item) (type : CommandType) : Prop :=
  ∃ tag ∈ mandatoryTLVs type, ∀ item ∈ items, item.comprehensionTag ≠ tag

/-- An item is not one that the commands of a type have. -/
def Unexpected (type : CommandType) (item : Item) : Prop :=
  expectedCommandTLV type item.comprehensionTag = false

/-! The frame. -/

/-- More rounds than bytes change nothing, as every item takes a byte at least. -/
theorem commandTLVsFrom_of_length {fuel : Nat} {data : Bytes} (enough : data.length ≤ fuel) :
    commandTLVsFrom fuel data = commandTLVsFrom data.length data := by
  -- The induction is on the bytes left, of which every item takes at least one.
  induction fuel using Nat.strongRecOn generalizing data with
  | _ fuel ih =>
    match fuel, data, enough with
    | 0, [], _ => rfl
    | fuel + 1, [], _ => rfl
    | fuel + 1, b :: rest, enough =>
      simp only [List.length_cons, commandTLVsFrom]
      cases ran : Tlv.consume (b :: rest) with
      | error err => rfl
      | ok consumed =>
        have positive := Tlv.consume_pos ran
        have shorter : ((b :: rest).drop consumed.2).length ≤ rest.length := by
          rw [List.length_drop, List.length_cons]
          omega
        have fits : rest.length ≤ fuel := by
          simpa using enough
        have left := ih fuel (by omega) (Nat.le_trans shorter fits)
        -- With fuel to spare the rest is read the same.
        rcases Nat.lt_or_ge rest.length fuel with less | most
        · simp only [left, ← ih rest.length (by omega) shorter]
        · rw [show rest.length = fuel by omega]

/-- A frame has the items of the bytes, and the details of the first item that has details. -/
theorem unmarshalCommandFrame_spec {data : Bytes} {frame : CommandFrame} {tlvErr : Option Tlv.Error}
    (ran : unmarshalCommandFrame data = .ok (frame, tlvErr)) :
    frame.tlvs = receivedTLVs data ∧ ReceivedDetails data frame.details := by
  rw [unmarshalCommandFrame] at ran
  cases ber : Tlv.unwrapBER data with
  | error err => simp [ber] at ran
  | ok unwrapped =>
    obtain ⟨tag, body⟩ := unwrapped
    have items : receivedTLVs data = (commandTLVs body).1 := by rw [receivedTLVs, ber]
    simp only [ber, Go.pure_eq, Go.ok_bind] at ran
    split at ran
    · simp at ran
    · split at ran
      · split at ran <;> simp at ran
      · next item found =>
        split at ran
        · next number type qualifier rest value =>
          simp only [Except.ok.injEq, Prod.mk.injEq] at ran
          obtain ⟨rfl, rfl⟩ := ran
          exact ⟨items.symm, item, rest, by rw [items]; exact found, value⟩
        · simp at ran

/-! Validation. -/

/-- An item is found unless none has the tag. -/
theorem find_eq_none_iff {items : List Item} {tag : UInt8} (low : tag &&& 0x7f = tag) :
    Tlv.find items tag = none ↔ ∀ item ∈ items, item.comprehensionTag ≠ tag := by
  simp [Tlv.find, low]

/-- Without an item that is required, the requirement fails. -/
theorem requireTLV_of_missing {items : List Item} {spec : CommandTLVSpec} (low : spec.tag &&& 0x7f = spec.tag)
    (missing : ∀ item ∈ items, item.comprehensionTag ≠ spec.tag) :
    ∃ invalid, requireTLV items spec = .error invalid := by
  rw [requireTLV, (find_eq_none_iff low).mpr missing]
  exact ⟨_, rfl⟩

/-- The results that malformed commands are answered with. -/
def ErrorResult (result : ResultCode) : Prop :=
  result = ResultCode.commandDataNotUnderstood ∨ result = ResultCode.requiredValuesMissing

/-- A failed requirement has an error result. -/
theorem requireTLV_result {items : List Item} {spec : CommandTLVSpec} {invalid : ValidationError}
    (failed : requireTLV items spec = .error invalid) : ErrorResult invalid.result := by
  rw [requireTLV] at failed
  split at failed
  · cases failed
    exact .inr rfl
  · split at failed
    · cases failed
      exact .inl rfl
    · cases failed

/-- An entry without an identifier has an error result. -/
theorem validateItems_result {items : List Item} {invalid : ValidationError}
    (failed : validateItems items = .error invalid) : ErrorResult invalid.result := by
  rw [validateItems] at failed
  split at failed
  · cases failed
    exact .inl rfl
  · cases failed

namespace CommandFrame

/-- Missing items have an error result. -/
theorem validateRequiredTLVs_result {c : CommandFrame} {invalid : ValidationError}
    (failed : c.validateRequiredTLVs = .error invalid) : ErrorResult invalid.result := by
  -- The items of each type are checked by one of a few rules.
  simp only [validateRequiredTLVs] at failed
  repeat' split at failed
  · exact requireTLV_result failed
  · -- Two items are required one after the other.
    cases first : requireTLV c.tlvs textStringTLV with
    | error earlier =>
      rw [first] at failed
      cases failed
      exact requireTLV_result first
    | ok _ =>
      rw [first] at failed
      exact requireTLV_result failed
  · cases failed
    exact .inr rfl
  · exact validateItems_result failed
  · exact validateItems_result failed
  · exact requireTLV_result failed
  · exact requireTLV_result failed
  · exact requireTLV_result failed
  · exact requireTLV_result failed
  · cases failed

/-- Whether items are comprehended depends on those that are not expected. -/
theorem comprehend_eq_ok {type : CommandType} {before after : Bool} {items : List Item}
    (ran : comprehend type before items = .ok after) :
    (∀ item ∈ items, Unexpected type item → item.comprehensionRequired = false) ∧
      (after = true ↔ before = true ∨ ∃ item ∈ items, Unexpected type item) := by
  induction items generalizing before with
  | nil =>
    cases ran
    simp
  | cons item items ih =>
    simp only [comprehend] at ran
    split at ran
    · next expected =>
      obtain ⟨optional, exact⟩ := ih ran
      simp only [List.mem_cons, forall_eq_or_imp, exists_eq_or_imp, Unexpected, expected] at optional exact ⊢
      simp_all
    · next unexpected =>
      split at ran
      · cases ran
      · next needless =>
        obtain ⟨optional, exact⟩ := ih ran
        simp only [List.mem_cons, forall_eq_or_imp, exists_eq_or_imp, Unexpected] at optional exact ⊢
        simp_all

/-- Items that are not comprehended have an error result. -/
theorem comprehend_result {type : CommandType} {before : Bool} {items : List Item} {invalid : ValidationError}
    (failed : comprehend type before items = .error invalid) : ErrorResult invalid.result := by
  induction items generalizing before with
  | nil => cases failed
  | cons item items ih =>
    simp only [comprehend] at failed
    split at failed
    · exact ih failed
    · split at failed
      · cases failed
        exact .inl rfl
      · exact ih failed

/-- Validation checks the devices, and the rest if the type is known. -/
theorem validate_eq_ok {c : CommandFrame} {isPartial : Bool} :
    c.validate = .ok isPartial ↔ requireTLV c.tlvs deviceIdentitiesTLV = .ok () ∧
      if knownCommandType c.details.type then
        c.validateRequiredTLVs = .ok () ∧ c.validateComprehension = .ok isPartial
      else isPartial = false := by
  rw [validate]
  cases devices : requireTLV c.tlvs deviceIdentitiesTLV with
  | error invalid => simp [bind, Except.bind]
  | ok _ =>
    cases known : knownCommandType c.details.type with
    | false => simp [bind, Except.bind, pure, Except.pure, eq_comm]
    | true =>
      cases required : c.validateRequiredTLVs with
      | error invalid => simp [bind, Except.bind]
      | ok _ => simp [bind, Except.bind]

/-- A failed validation has an error result. -/
theorem validate_result {c : CommandFrame} {invalid : ValidationError} (failed : c.validate = .error invalid) :
    ErrorResult invalid.result := by
  rw [validate] at failed
  -- The devices are checked first, then the items of the type, and then what is to be understood.
  cases devices : requireTLV c.tlvs deviceIdentitiesTLV with
  | error earlier =>
    rw [devices] at failed
    cases failed
    exact requireTLV_result devices
  | ok _ =>
    rw [devices] at failed
    cases known : knownCommandType c.details.type with
    | false => simp [known, bind, Except.bind, pure, Except.pure] at failed
    | true =>
      simp only [known, Bool.not_true, Bool.false_eq_true, if_false, bind, Except.bind] at failed
      cases required : c.validateRequiredTLVs with
      | error earlier =>
        rw [required] at failed
        cases failed
        exact validateRequiredTLVs_result required
      | ok _ =>
        rw [required] at failed
        exact comprehend_result failed

/-- Without a mandatory item, the validation fails. -/
theorem validate_of_misses {c : CommandFrame} {isPartial : Bool} (misses : MissesMandatory c.tlvs c.details.type) :
    c.validate ≠ .ok isPartial := by
  intro valid
  obtain ⟨devices, rest⟩ := validate_eq_ok.mp valid
  obtain ⟨tag, mandatory, missing⟩ := misses
  -- A requirement that holds has found its item.
  have absent {spec : CommandTLVSpec} (low : spec.tag &&& 0x7f = spec.tag) (same : tag = spec.tag)
      (held : requireTLV c.tlvs spec = .ok ()) : False := by
    obtain ⟨invalid, failed⟩ := requireTLV_of_missing low (same ▸ missing)
    simp [held] at failed
  -- A type that is known has had its own requirements checked.
  have held {type : CommandType} (same : c.details.type = type) (known : knownCommandType type = true) :
      c.validateRequiredTLVs = .ok () := by
    rw [same, if_pos known] at rest
    exact rest.1
  rcases List.mem_cons.mp mandatory with first | further
  · -- The devices are required of every command.
    exact absent (by decide) first devices
  · split at further
    · -- A text is required of these types.
      next same =>
      have text : requireTLV c.tlvs textStringTLV = .ok () := by
        rcases same with same | same
        · have required := held same (by decide)
          simp only [validateRequiredTLVs, same] at required
          exact required
        · have required := held same (by decide)
          simp only [validateRequiredTLVs, same] at required
          exact required
      exact absent (by decide) (List.mem_singleton.mp further) text
    split at further
    · next same =>
      -- The two requirements are checked one after the other.
      have required : (requireTLV c.tlvs textStringTLV >>= fun _ => requireTLV c.tlvs responseLengthTLV) = .ok () := by
        have required := held same (by decide)
        simp only [validateRequiredTLVs, same] at required
        exact required
      have text : requireTLV c.tlvs textStringTLV = .ok () := by
        cases checked : requireTLV c.tlvs textStringTLV with
        | ok _ => rfl
        | error invalid =>
          rw [checked] at required
          cases required
      rw [text] at required
      rcases List.mem_cons.mp further with first | second
      · exact absent (by decide) first text
      · exact absent (by decide) (List.mem_singleton.mp second) required
    split at further
    · -- A list needs an item at least.
      next same =>
      have required := held same (by decide)
      have empty : Tlv.all c.tlvs Tag.item = [] := by
        have tagged := List.mem_singleton.mp further
        subst tagged
        rw [Tlv.all, List.filter_eq_nil_iff]
        intro item member tagged
        exact missing item member (of_decide_eq_true tagged)
      simp only [validateRequiredTLVs, same, empty] at required
      cases required
    split at further
    · -- The other types have one requirement each.
      next same =>
      have required := held same (by decide)
      simp only [validateRequiredTLVs, same] at required
      exact absent (by decide) (List.mem_singleton.mp further) required
    split at further
    · next same =>
      have required := held same (by decide)
      simp only [validateRequiredTLVs, same] at required
      exact absent (by decide) (List.mem_singleton.mp further) required
    split at further
    · next same =>
      have required := held same (by decide)
      simp only [validateRequiredTLVs, same] at required
      exact absent (by decide) (List.mem_singleton.mp further) required
    split at further
    · next same =>
      have required := held same (by decide)
      simp only [validateRequiredTLVs, same] at required
      exact absent (by decide) (List.mem_singleton.mp further) required
    · simp at further

/-- Commands of an unknown type have no item that is not expected. -/
theorem known_of_unexpected {type : CommandType} {item : Item} (unexpected : Unexpected type item) :
    knownCommandType type = true := by
  by_contra unknown
  rw [Unexpected, expectedCommandTLV] at unexpected
  simp [unknown] at unexpected

/-- A valid command can do without each item that is not expected, and is partial if there is one. -/
theorem validate_unexpected {c : CommandFrame} {isPartial : Bool} {item : Item} (valid : c.validate = .ok isPartial)
    (member : item ∈ c.tlvs) (unexpected : Unexpected c.details.type item) :
    item.comprehensionRequired = false ∧ isPartial = true := by
  obtain ⟨-, rest⟩ := validate_eq_ok.mp valid
  rw [if_pos (known_of_unexpected unexpected)] at rest
  obtain ⟨optional, exact⟩ := comprehend_eq_ok rest.2
  exact ⟨optional item member unexpected, exact.mpr (.inr ⟨item, member, unexpected⟩)⟩

/-! Decoding. -/

/-- Every decoded command keeps its frame. -/
theorem decode_frame {c : CommandFrame} {command : Command} (ran : c.decode = .ok command) :
    command.frame = c := by
  simp only [decode] at ran
  repeat' split at ran
  all_goals
    -- Whatever the type is, the frame is the first part of what is decoded.
    obtain ⟨cmd, decoded, ran⟩ := Go.bind_eq_ok.mp ran
    cases ran
    simp only [DisplayTextCommand.unmarshalFrame, GetInkeyCommand.unmarshalFrame, GetInputCommand.unmarshalFrame,
      MenuCommand.unmarshalFrame, SetupEventListCommand.unmarshalFrame, OpenChannelCommand.unmarshalFrame,
      CloseChannelCommand.unmarshalFrame, ReceiveDataCommand.unmarshalFrame, SendDataCommand.unmarshalFrame,
      GetChannelStatusCommand.unmarshalFrame, SimpleCommand.unmarshalFrame, Go.bind_eq_ok, Go.pure_eq,
      Except.ok.injEq] at decoded
    grind [Command.frame]

/-- A command is malformed by the validation, or has the frame that was validated. -/
theorem command_cases {c : CommandFrame} {command : Command} (ran : c.command = .ok command) :
    (∃ cmd invalid, c.validate = .error invalid ∧ command = .malformed cmd ∧ cmd.toCommandFrame = c ∧
      cmd.responseCode = invalid.result) ∨
    ∃ isPartial, c.validate = .ok isPartial ∧ command.frame = { c with isPartial } := by
  rw [CommandFrame.command] at ran
  cases validated : c.validate with
  | error invalid =>
    simp only [validated, Go.pure_eq, Except.ok.injEq] at ran
    exact .inl ⟨_, invalid, rfl, ran.symm, rfl, rfl⟩
  | ok isPartial =>
    refine .inr ⟨isPartial, rfl, ?_⟩
    simp only [validated] at ran
    split at ran
    · cases ran
      rfl
    · split at ran
      · cases ran
        rfl
      · exact decode_frame ran

end CommandFrame

/-- An accepted command has the details and the items of its bytes, and is malformed if its frame is not valid. -/
theorem unmarshalBinary_spec {data : Bytes} {command : Command}
    (accepted : ProactiveCommand.unmarshalBinary data = .ok command) :
    ReceivedDetails data command.frame.details ∧ command.frame.tlvs = receivedTLVs data ∧
      ((∃ cmd, command = .malformed cmd ∧ ErrorResult cmd.responseCode) ∨
        command.frame.validate = .ok command.frame.isPartial) := by
  rw [ProactiveCommand.unmarshalBinary] at accepted
  obtain ⟨⟨frame, tlvErr⟩, parsed, accepted⟩ := Go.bind_eq_ok.mp accepted
  obtain ⟨items, details⟩ := unmarshalCommandFrame_spec parsed
  cases tlvErr with
  | some cause =>
    cases accepted
    exact ⟨details, items, .inl ⟨_, rfl, .inl rfl⟩⟩
  | none =>
    rcases CommandFrame.command_cases accepted with ⟨cmd, invalid, failed, rfl, rfl, code⟩ | ⟨isPartial, valid, same⟩
    · refine ⟨details, items, .inl ⟨cmd, rfl, ?_⟩⟩
      rw [code]
      exact CommandFrame.validate_result failed
    · rw [same]
      exact ⟨details, items, .inr valid⟩

end Wwan.Sim.Stk
