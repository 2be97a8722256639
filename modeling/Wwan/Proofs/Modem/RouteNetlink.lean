import Mathlib.Data.List.Basic
import Wwan.Modem.RouteNetlink

/-! When a search for an acknowledgment reports a match, and how the request that adds a link is laid out. -/

namespace Wwan.Modem.Qmi.RouteNetlink

open Utf16 (ByteOrder)

section

variable (order : ByteOrder)

/-! What a buffer of messages is. -/

/-- A message that is as long as its header says. -/
def WellFormed (message : Bytes) : Prop :=
  netlinkHeaderLength ≤ message.length ∧ (order.uint32At message 0).toNat = message.length

/-- A message answers the request with a sequence. -/
def Answers (sequence : UInt32) (message : Bytes) : Prop :=
  order.uint32At message 8 = sequence ∧ order.uint16At message 4 ∈ [nlmsgError, nlmsgDone, nlmsgOverrun]

/-- The answer is an error code of zero, or the end of the answers. -/
def Positive (message : Bytes) : Prop :=
  (order.uint16At message 4 = nlmsgError ∧ netlinkHeaderLength + 4 ≤ message.length ∧ order.uint32At message 16 = 0)
    ∨ order.uint16At message 4 = nlmsgDone

/-- A run of well-formed messages, padded to their alignment, none of which answers the request. -/
inductive Skips (sequence : UInt32) : Bytes → Bytes → Prop where
  | refl (data : Bytes) : Skips sequence data data
  | message {message padding rest last : Bytes} (wellFormed : WellFormed order message)
      (other : ¬Answers order sequence message)
      (aligned : message.length + padding.length = alignRouteMessage message.length) (more : Skips sequence rest last) :
      Skips sequence (message ++ (padding ++ rest)) last

/-- The bytes are not the end of a buffer, and there is no well-formed message with its padding in front of them. -/
def Broken (sequence : UInt32) (data : Bytes) : Prop :=
  (data ≠ [] ∧ data.length < netlinkHeaderLength)
    ∨ (netlinkHeaderLength ≤ data.length
      ∧ ((order.uint32At data 0).toNat < netlinkHeaderLength ∨ data.length < (order.uint32At data 0).toNat))
    ∨ (∃ message rest, data = message ++ rest ∧ WellFormed order message ∧ rest ≠ []
      ∧ message.length + rest.length < alignRouteMessage message.length)
    ∨ ∃ message rest, data = message ++ rest ∧ WellFormed order message ∧ Answers order sequence message
      ∧ order.uint16At message 4 = nlmsgError ∧ message.length < netlinkHeaderLength + 4

/-- Behind a run of messages the buffer is broken. -/
def Malformed (sequence : UInt32) (data : Bytes) : Prop :=
  ∃ rest, Skips order sequence data rest ∧ Broken order sequence rest

/-- Behind a run of messages there is an answer to the request. -/
def Answered (sequence : UInt32) (data : Bytes) (P : Bytes → Prop) : Prop :=
  ∃ message rest, Skips order sequence data (message ++ rest) ∧ WellFormed order message
    ∧ Answers order sequence message ∧ P message

/-! One round. -/

variable {order} {sequence : UInt32}

/-- The alignment adds at most three bytes. -/
theorem le_alignRouteMessage (length : Nat) :
    length ≤ alignRouteMessage length ∧ alignRouteMessage length ≤ length + 3 ∧ alignRouteMessage length % 4 = 0 := by
  unfold alignRouteMessage
  omega

/-- A part of a header is an error. -/
theorem loop_short (order : ByteOrder) (sequence : UInt32) (rounds : Nat) {data : Bytes} (left : data ≠ [])
    (short : data.length < netlinkHeaderLength) :
    ∃ err, routeNetlinkLoop order sequence (rounds + 1) data = .ok (true, some err) := by
  rw [routeNetlinkLoop, if_neg (by omega), if_pos (by simpa using left)]
  exact ⟨_, rfl⟩

/-- A length that is too small or too large is an error. -/
theorem loop_length (sequence : UInt32) (rounds : Nat) {data : Bytes} (long : netlinkHeaderLength ≤ data.length)
    (bad : (order.uint32At data 0).toNat < netlinkHeaderLength ∨ data.length < (order.uint32At data 0).toNat) :
    ∃ err, routeNetlinkLoop order sequence (rounds + 1) data = .ok (true, some err) := by
  have header : 16 ≤ data.length := long
  rw [routeNetlinkLoop, if_pos long, order.slice_getUint32_bind (show 0 + 4 ≤ data.length by omega), if_pos bad]
  exact ⟨_, rfl⟩

/-- The answer that a round takes from the message in front. -/
def answer (order : ByteOrder) (sequence : UInt32) (message rest : Bytes) :
    Go Unfinished (Option (Bool × Option RouteError)) :=
  acknowledgment order sequence (message ++ rest) message.length (order.uint16At message 4) (order.uint32At message 8)

/-- A message that does not answer has no answer. -/
theorem answer_none {message : Bytes} (other : ¬Answers order sequence message) (rest : Bytes) :
    answer order sequence message rest = .ok none := by
  unfold answer acknowledgment
  by_cases own : order.uint32At message 8 = sequence
  · -- The message is for this request, but ends nothing.
    have kind : order.uint16At message 4 ∉ [nlmsgError, nlmsgDone, nlmsgOverrun] := fun kind => other ⟨own, kind⟩
    simp only [List.mem_cons, List.not_mem_nil, or_false, not_or] at kind
    rw [if_neg (not_not.mpr own), if_neg kind.1, if_neg kind.2.1, if_neg kind.2.2]
    rfl
  · -- The message is for another request.
    rw [if_pos own]
    rfl

/-- What a message answers is read off it, also with others behind it. -/
theorem answer_some {message : Bytes} (answers : Answers order sequence message) (rest : Bytes) :
    ∃ err, answer order sequence message rest = .ok (some (true, err)) ∧ (err = none ↔ Positive order message) := by
  obtain ⟨own, kind⟩ := answers
  unfold answer acknowledgment Positive
  rw [if_neg (not_not.mpr own)]
  generalize order.uint16At message 4 = messageType at kind
  -- The kinds that answer are an error, the end of a dump and an overrun.
  rcases List.mem_cons.mp kind with rfl | kind
  · rw [if_pos rfl]
    -- An error message without a code is cut off.
    by_cases short : message.length < netlinkHeaderLength + 4
    · rw [if_pos short]
      refine ⟨_, rfl, ?_⟩
      simp only [reduceCtorEq, false_iff, not_or, not_and]
      exact ⟨fun _ enough => absurd enough (by omega), by decide⟩
    · have enough : netlinkHeaderLength + 4 ≤ message.length := by omega
      rw [if_neg short, order.slice_getUint32_bind (by rw [List.length_append]; omega),
        order.uint32At_append_left enough]
      -- The code zero is the positive answer.
      by_cases zero : order.uint32At message netlinkHeaderLength = 0
      · rw [if_pos zero]
        exact ⟨none, rfl, iff_of_true rfl (.inl ⟨rfl, enough, zero⟩)⟩
      · rw [if_neg zero]
        refine ⟨_, rfl, ?_⟩
        simp only [reduceCtorEq, false_iff, not_or, not_and]
        exact ⟨fun _ _ code => zero code, by decide⟩
  · rcases List.mem_cons.mp kind with rfl | kind
    · exact ⟨none, rfl, iff_of_true rfl (.inr rfl)⟩
    · cases List.mem_singleton.mp kind
      exact ⟨_, rfl, by simp [nlmsgOverrun, nlmsgError, nlmsgDone]⟩

/-- A round looks at the message in front, and goes on behind it if there is room for its padding. -/
theorem loop_succ (rounds : Nat) {message rest : Bytes} (wellFormed : WellFormed order message) :
    routeNetlinkLoop order sequence (rounds + 1) (message ++ rest) = (do
      match ← answer order sequence message rest with
      | some verdict => return verdict
      | none =>
        if alignRouteMessage message.length > (message ++ rest).length then
          if message.length = (message ++ rest).length then return (false, none)
          return (true, some (.format "parsing route netlink response: aligned length %d exceeds buffer %d"
            [alignRouteMessage message.length, (message ++ rest).length]))
        routeNetlinkLoop order sequence rounds
          (← Go.slice (message ++ rest) (alignRouteMessage message.length) (message ++ rest).length)) := by
  have header : 16 ≤ message.length := wellFormed.1
  have size : (message ++ rest).length = message.length + rest.length := List.length_append
  -- The header is read from the front of the buffer.
  rw [routeNetlinkLoop, if_pos (by rw [size]; exact Nat.le_add_right_of_le header),
    order.slice_getUint32_bind (show 0 + 4 ≤ (message ++ rest).length by omega), order.uint32At_append_left (by omega),
    wellFormed.2, if_neg (by simp only [netlinkHeaderLength]; omega),
    order.slice_getUint16_bind (show 4 + 2 ≤ (message ++ rest).length by omega), order.uint16At_append_left (by omega),
    order.slice_getUint32_bind (show 8 + 4 ≤ (message ++ rest).length by omega), order.uint32At_append_left (by omega)]
  rfl

/-- A round ends with the answer of the message in front. -/
theorem loop_of_answer (rounds : Nat) {message rest : Bytes} (wellFormed : WellFormed order message)
    {verdict : Bool × Option RouteError} (answered : answer order sequence message rest = .ok (some verdict)) :
    routeNetlinkLoop order sequence (rounds + 1) (message ++ rest) = .ok verdict := by
  rw [loop_succ rounds wellFormed, answered]
  rfl

/-- A round goes on behind a message in front that does not answer, if there is room for its padding. -/
theorem loop_of_other (rounds : Nat) {message rest : Bytes} (wellFormed : WellFormed order message)
    (other : answer order sequence message rest = .ok none) :
    routeNetlinkLoop order sequence (rounds + 1) (message ++ rest) =
      if alignRouteMessage message.length > (message ++ rest).length then
        if message.length = (message ++ rest).length then .ok (false, none)
        else .ok (true, some (.format "parsing route netlink response: aligned length %d exceeds buffer %d"
          [alignRouteMessage message.length, (message ++ rest).length]))
      else routeNetlinkLoop order sequence rounds ((message ++ rest).drop (alignRouteMessage message.length)) := by
  rw [loop_succ rounds wellFormed, other, Go.ok_bind]
  by_cases past : alignRouteMessage message.length > (message ++ rest).length
  · -- The padding ends behind the buffer.
    rw [if_pos past, if_pos past]
    by_cases whole : message.length = (message ++ rest).length
    · -- The last message may lack its padding.
      rw [if_pos whole, if_pos whole]
      rfl
    · rw [if_neg whole, if_neg whole]
      rfl
  · -- The padding is skipped with the message.
    rw [if_neg past, if_neg past]
    rw [Go.slice_from (by omega), Go.ok_bind]

/-- An answer in front is reported. -/
theorem loop_answer (rounds : Nat) {message : Bytes} (wellFormed : WellFormed order message)
    (answers : Answers order sequence message) (rest : Bytes) :
    ∃ err, routeNetlinkLoop order sequence (rounds + 1) (message ++ rest) = .ok (true, err)
      ∧ (err = none ↔ Positive order message) := by
  obtain ⟨err, said, positive⟩ := answer_some answers rest
  exact ⟨err, loop_of_answer rounds wellFormed said, positive⟩

/-- A message that does not answer is skipped with its padding. -/
theorem loop_skip (rounds : Nat) {message padding : Bytes} (wellFormed : WellFormed order message)
    (other : ¬Answers order sequence message)
    (aligned : message.length + padding.length = alignRouteMessage message.length) (rest : Bytes) :
    routeNetlinkLoop order sequence (rounds + 1) (message ++ (padding ++ rest))
      = routeNetlinkLoop order sequence rounds rest := by
  have room : ¬alignRouteMessage message.length > (message ++ (padding ++ rest)).length := by
    simp only [List.length_append]
    omega
  rw [loop_of_other rounds wellFormed (answer_none other _), if_neg room, ← List.append_assoc,
    List.drop_left' (by rw [List.length_append, aligned])]

/-! The run. -/

/-- A run of skipped messages takes one round each. -/
theorem Skips.loop {data last : Bytes} (skips : Skips order sequence data last) {rounds : Nat}
    (enough : data.length < rounds) :
    ∃ left, last.length < left ∧ routeNetlinkLoop order sequence rounds data = routeNetlinkLoop order sequence left last := by
  induction skips generalizing rounds with
  | refl data => exact ⟨rounds, enough, rfl⟩
  | @message message padding rest last wellFormed other aligned more ih =>
    -- One round takes the message and its padding.
    have header : 16 ≤ message.length := wellFormed.1
    simp only [List.length_append] at enough
    obtain ⟨rounds, rfl⟩ := Nat.exists_eq_add_one_of_ne_zero (show rounds ≠ 0 by omega)
    obtain ⟨left, few, same⟩ := @ih rounds (by omega)
    exact ⟨left, few, by rw [loop_skip rounds wellFormed other aligned, same]⟩

/-- What a search comes to. -/
inductive Outcome (order : ByteOrder) (sequence : UInt32) (data : Bytes) : Bool × Option RouteError → Prop where
  /-- The buffer ends with the messages that are skipped, the last of them with or without its padding. -/
  | unmatched : Outcome order sequence data (false, none)
  | malformed {err : RouteError} (broken : Malformed order sequence data) : Outcome order sequence data (true, some err)
  | answered {err : Option RouteError}
      (found : Answered order sequence data fun message => err = none ↔ Positive order message) :
      Outcome order sequence data (true, err)

/-- What is found behind a message that is skipped is found behind the run. -/
theorem Outcome.skip {message padding rest : Bytes} {result : Bool × Option RouteError}
    (wellFormed : WellFormed order message) (other : ¬Answers order sequence message)
    (aligned : message.length + padding.length = alignRouteMessage message.length)
    (outcome : Outcome order sequence rest result) : Outcome order sequence (message ++ (padding ++ rest)) result := by
  cases outcome with
  -- Each finding is carried over one more message.
  | unmatched => exact .unmatched
  | malformed broken =>
    obtain ⟨last, skips, broken⟩ := broken
    exact .malformed ⟨last, .message wellFormed other aligned skips, broken⟩
  | answered found =>
    obtain ⟨answer, last, skips, found⟩ := found
    exact .answered ⟨answer, last, .message wellFormed other aligned skips, found⟩

/-- A length within the buffer makes its front a message. -/
theorem wellFormed_take {data : Bytes} (long : netlinkHeaderLength ≤ (order.uint32At data 0).toNat)
    (inside : (order.uint32At data 0).toNat ≤ data.length) :
    WellFormed order (data.take (order.uint32At data 0).toNat) := by
  have size : (data.take (order.uint32At data 0).toNat).length = (order.uint32At data 0).toNat :=
    List.length_take_of_le inside
  have header : 16 ≤ (order.uint32At data 0).toNat := long
  refine ⟨by rw [size]; exact long, ?_⟩
  rw [size, ← order.uint32At_append_left (by omega) (data.drop (order.uint32At data 0).toNat), List.take_append_drop]

/-- A search behind a well-formed message ends, if that on shorter buffers does. -/
theorem message_outcome {rounds : Nat} {message rest : Bytes} (wellFormed : WellFormed order message)
    (ih : ∀ {later : Bytes}, later.length < rounds →
      ∃ result, routeNetlinkLoop order sequence rounds later = .ok result ∧ Outcome order sequence later result)
    (enough : (message ++ rest).length < rounds + 1) :
    ∃ result, routeNetlinkLoop order sequence (rounds + 1) (message ++ rest) = .ok result
      ∧ Outcome order sequence (message ++ rest) result := by
  obtain ⟨grows, -, -⟩ := le_alignRouteMessage message.length
  have header : 16 ≤ message.length := wellFormed.1
  have size : (message ++ rest).length = message.length + rest.length := List.length_append
  -- A message that answers ends the search.
  by_cases answers : Answers order sequence message
  · obtain ⟨err, ran, positive⟩ := loop_answer rounds wellFormed answers rest
    exact ⟨_, ran, .answered ⟨message, rest, .refl _, wellFormed, answers, positive⟩⟩
  by_cases past : alignRouteMessage message.length > (message ++ rest).length
  · -- There is no room for the padding, which only the last message may leave out.
    have ran := loop_of_other rounds wellFormed (answer_none answers rest)
    rw [if_pos past] at ran
    by_cases last : rest = []
    · rw [if_pos (by rw [last, List.append_nil])] at ran
      exact ⟨_, ran, .unmatched⟩
    · have more : 0 < rest.length := List.length_pos_iff.mpr last
      rw [if_neg (by omega)] at ran
      exact ⟨_, ran, .malformed ⟨_, .refl _, .inr (.inr (.inl ⟨message, rest, rfl, wellFormed, last, by omega⟩))⟩⟩
  · -- Any other message is skipped with its padding.
    have padded : message.length + (rest.take (alignRouteMessage message.length - message.length)).length
        = alignRouteMessage message.length := by
      rw [List.length_take]
      omega
    have split : rest = rest.take (alignRouteMessage message.length - message.length)
        ++ rest.drop (alignRouteMessage message.length - message.length) := (List.take_append_drop _ _).symm
    obtain ⟨result, ran, outcome⟩ := @ih (rest.drop (alignRouteMessage message.length - message.length))
      (by rw [List.length_drop]; omega)
    rw [split]
    exact ⟨result, (loop_skip rounds wellFormed answers padded _).trans ran, .skip wellFormed answers padded outcome⟩

/-- A search ends, since every round takes a header at least. -/
theorem loop_outcome {rounds : Nat} {data : Bytes} (enough : data.length < rounds) :
    ∃ result, routeNetlinkLoop order sequence rounds data = .ok result ∧ Outcome order sequence data result := by
  induction rounds generalizing data with
  -- No round is left, which the bound excludes.
  | zero => omega
  | succ rounds ih =>
    by_cases empty : data = []
    · -- Nothing is left in the buffer.
      subst empty
      exact ⟨_, rfl, .unmatched⟩
    by_cases short : data.length < netlinkHeaderLength
    · -- The rest is shorter than a header.
      obtain ⟨err, ran⟩ := loop_short order sequence rounds empty short
      exact ⟨_, ran, .malformed ⟨data, .refl data, .inl ⟨empty, short⟩⟩⟩
    by_cases bad : (order.uint32At data 0).toNat < netlinkHeaderLength ∨ data.length < (order.uint32At data 0).toNat
    · -- The length in the header is not that of a message.
      obtain ⟨err, ran⟩ := loop_length sequence rounds (by omega) bad
      exact ⟨_, ran, .malformed ⟨data, .refl data, .inr (.inl ⟨by omega, bad⟩)⟩⟩
    -- The front of the buffer is a message.
    have found := message_outcome (wellFormed_take (by omega) (by omega)) ih
      (show (data.take (order.uint32At data 0).toNat ++ data.drop _).length < rounds + 1 by
        rw [List.take_append_drop]
        exact enough)
    rwa [List.take_append_drop] at found

/-- An answer behind a run of messages is reported. -/
theorem Answered.routeNetlinkACK {data : Bytes} (found : Answered order sequence data (Positive order)) :
    routeNetlinkACK order data sequence = .ok (true, none) := by
  obtain ⟨message, rest, skips, wellFormed, answers, positive⟩ := found
  obtain ⟨left, more, same⟩ := skips.loop (Nat.lt_succ_self data.length)
  obtain ⟨rounds, rfl⟩ := Nat.exists_eq_add_one_of_ne_zero (show left ≠ 0 by omega)
  obtain ⟨err, ran, nil⟩ := loop_answer rounds wellFormed answers rest
  rw [RouteNetlink.routeNetlinkACK, same, ran, nil.mpr positive]

/-- The search for an acknowledgment ends with a match only for a buffer that is malformed or has an answer, and without
an error exactly for an answer that is positive. -/
theorem routeNetlinkACK_spec (order : ByteOrder) (data : Bytes) (sequence : UInt32) :
    ∃ matched err, routeNetlinkACK order data sequence = .ok (matched, err)
      ∧ (matched = true → Malformed order sequence data ∨ Answered order sequence data fun _ => True)
      ∧ (matched = true → (err = none ↔ Answered order sequence data (Positive order)))
      ∧ (matched = false → err = none) := by
  obtain ⟨⟨matched, err⟩, ran, outcome⟩ : ∃ result, routeNetlinkACK order data sequence = .ok result
      ∧ Outcome order sequence data result := loop_outcome (Nat.lt_succ_self data.length)
  refine ⟨matched, err, ran, ?_, ?_, ?_⟩
  · -- What is reported is an answer or malformed.
    intro reported
    cases outcome with
    | unmatched => cases reported
    | malformed broken => exact .inl broken
    | answered found =>
      obtain ⟨message, rest, skips, wellFormed, answers, -⟩ := found
      exact .inr ⟨message, rest, skips, wellFormed, answers, trivial⟩
  · -- No error is reported for a positive answer, and only for one.
    intro reported
    refine ⟨fun nil => ?_, fun found => ?_⟩
    · cases outcome with
      | unmatched => cases reported
      | malformed broken => cases nil
      | answered found =>
        obtain ⟨message, rest, skips, wellFormed, answers, positive⟩ := found
        exact ⟨message, rest, skips, wellFormed, answers, positive.mp nil⟩
    · have same := found.routeNetlinkACK.symm.trans ran
      cases same
      rfl
  · -- Without a match there is no error.
    rintro rfl
    cases outcome
    rfl

/-- A message of another request is skipped with its padding, and the error of the own request is reported. -/
example : routeNetlinkACK .littleEndian ([17, 0, 0, 0, 2, 0, 0, 0, 8, 0, 0, 0, 0, 0, 0, 0, 0, 0, 0, 0]
    ++ [20, 0, 0, 0, 2, 0, 0, 0, 7, 0, 0, 0, 0, 0, 0, 0, 0xef, 0xff, 0xff, 0xff]) 7 = .ok (true, some (.errno 17)) := by
  decide +kernel

end

/-! The request. -/

/-- The attributes of a level, each with a value or with a level of its own. -/
inductive Attributes where
  | none
  | value (attrType : UInt16) (value : Bytes) (others : Attributes)
  | nested (attrType : UInt16) (level others : Attributes)
  deriving DecidableEq

/-- An attribute at an aligned offset: its true length, its type, its value and the padding up to the next one. -/
def Attribute (order : ByteOrder) (offset : Nat) (attrType : UInt16) (value bytes : Bytes) : Prop :=
  offset % 4 = 0 ∧ bytes.length % 4 = 0 ∧ ∃ length padding,
    bytes = order.putUint16 length ++ order.putUint16 attrType ++ value ++ padding
      ∧ length.toNat = routeAttrHeaderSize + value.length ∧ padding.length < 4

/-- The bytes from an offset on are the attributes of a level, one right behind the other up to the end. -/
inductive Tiled (order : ByteOrder) : Nat → Bytes → Attributes → Prop where
  | none {offset : Nat} : Tiled order offset [] .none
  | value {offset : Nat} {attrType : UInt16} {value bytes rest : Bytes} {others : Attributes}
      (placed : Attribute order offset attrType value bytes) (more : Tiled order (offset + bytes.length) rest others) :
      Tiled order offset (bytes ++ rest) (.value attrType value others)
  | nested {offset : Nat} {attrType : UInt16} {value bytes rest : Bytes} {level others : Attributes}
      (placed : Attribute order offset attrType value bytes)
      (inside : Tiled order (offset + routeAttrHeaderSize) value level)
      (more : Tiled order (offset + bytes.length) rest others) :
      Tiled order offset (bytes ++ rest) (.nested attrType level others)

/-- What follows an attribute is aligned. -/
theorem Attribute.behind {order : ByteOrder} {offset : Nat} {attrType : UInt16} {value bytes : Bytes}
    (placed : Attribute order offset attrType value bytes) : (offset + bytes.length) % 4 = 0 := by
  obtain ⟨aligned, whole, -⟩ := placed
  omega

/-- The bytes that an attribute adds. -/
def routeAttribute (order : ByteOrder) (attrType : UInt16) (value : Bytes) : Bytes :=
  appendRouteAttribute order [] attrType value

/-- An attribute is appended behind what is there. -/
theorem appendRouteAttribute_eq (order : ByteOrder) (dst : Bytes) (attrType : UInt16) (value : Bytes) :
    appendRouteAttribute order dst attrType value = dst ++ routeAttribute order attrType value := by
  simp [routeAttribute, appendRouteAttribute]

/-- It takes its aligned length. -/
theorem length_routeAttribute (order : ByteOrder) (attrType : UInt16) (value : Bytes) :
    (routeAttribute order attrType value).length = alignRouteMessage (routeAttrHeaderSize + value.length) := by
  obtain ⟨grows, -, -⟩ := le_alignRouteMessage (routeAttrHeaderSize + value.length)
  simp only [routeAttribute, appendRouteAttribute, List.nil_append, List.length_append, ByteOrder.putUint16_length,
    List.length_replicate]
  simp only [routeAttrHeaderSize] at grows ⊢
  omega

/-- An attribute whose length fits its field is one. -/
theorem attribute_routeAttribute (order : ByteOrder) {offset : Nat} (aligned : offset % 4 = 0) (attrType : UInt16)
    {value : Bytes} (fits : routeAttrHeaderSize + value.length < 2 ^ 16) :
    Attribute order offset attrType value (routeAttribute order attrType value) := by
  obtain ⟨grows, near, whole⟩ := le_alignRouteMessage (routeAttrHeaderSize + value.length)
  refine ⟨aligned, by rw [length_routeAttribute, whole], UInt16.ofNat (routeAttrHeaderSize + value.length), _, rfl,
    UInt16.toNat_ofNat_of_lt' fits, ?_⟩
  rw [List.length_replicate]
  omega

/-- The attributes of the link's data are a level. -/
theorem tiled_rmnetDataInfo (order : ByteOrder) {offset : Nat} (aligned : offset % 4 = 0) (muxID : UInt8)
    (flags : UInt32) :
    Tiled order offset (rmnetDataInfo order muxID flags)
      (.value iflaRmnetMuxID (order.putUint16 muxID.toUInt16)
        (.value iflaRmnetFlags (order.putUint32 flags ++ order.putUint32 rmnetFlagMask) .none)) := by
  -- The two attributes follow each other.
  have layout : rmnetDataInfo order muxID flags =
      routeAttribute order iflaRmnetMuxID (order.putUint16 muxID.toUInt16)
        ++ (routeAttribute order iflaRmnetFlags (order.putUint32 flags ++ order.putUint32 rmnetFlagMask) ++ []) := by
    rw [rmnetDataInfo, appendRouteAttribute_eq, List.append_nil]
    rfl
  rw [layout]
  have first := attribute_routeAttribute order aligned iflaRmnetMuxID
    (show routeAttrHeaderSize + (order.putUint16 muxID.toUInt16).length < 2 ^ 16 by simp [routeAttrHeaderSize])
  refine .value first (.value (attribute_routeAttribute order first.behind iflaRmnetFlags ?_) .none)
  simp [routeAttrHeaderSize]

/-- They take as many bytes as the attributes of a short and a pair of words. -/
theorem length_rmnetDataInfo (order : ByteOrder) (muxID : UInt8) (flags : UInt32) :
    (rmnetDataInfo order muxID flags).length = 20 := by
  rw [rmnetDataInfo, appendRouteAttribute_eq, List.length_append, length_routeAttribute]
  change (routeAttribute order _ _).length + _ = _
  rw [length_routeAttribute]
  simp [routeAttrHeaderSize, alignRouteMessage]

/-- The attributes of the link's kind and data are a level. -/
theorem tiled_rmnetLinkInfo (order : ByteOrder) {offset : Nat} (aligned : offset % 4 = 0) (muxID : UInt8)
    (flags : UInt32) :
    Tiled order offset (rmnetLinkInfo order muxID flags)
      (.value iflaInfoKind rmnetKind
        (.nested iflaInfoData
          (.value iflaRmnetMuxID (order.putUint16 muxID.toUInt16)
            (.value iflaRmnetFlags (order.putUint32 flags ++ order.putUint32 rmnetFlagMask) .none)) .none)) := by
  -- The kind comes first, and the data are nested in the second attribute.
  have layout : rmnetLinkInfo order muxID flags = routeAttribute order iflaInfoKind rmnetKind
      ++ (routeAttribute order iflaInfoData (rmnetDataInfo order muxID flags) ++ []) := by
    rw [rmnetLinkInfo, appendRouteAttribute_eq, List.append_nil]
    rfl
  rw [layout]
  have first := attribute_routeAttribute order aligned iflaInfoKind
    (show routeAttrHeaderSize + rmnetKind.length < 2 ^ 16 by decide)
  have behind := first.behind
  refine .value first (.nested (attribute_routeAttribute order behind iflaInfoData ?_) ?_ .none)
  · rw [length_rmnetDataInfo]
    decide
  · exact tiled_rmnetDataInfo order (by simp only [routeAttrHeaderSize]; omega) muxID flags

/-- They take as many bytes as the attribute of the kind and that of the data. -/
theorem length_rmnetLinkInfo (order : ByteOrder) (muxID : UInt8) (flags : UInt32) :
    (rmnetLinkInfo order muxID flags).length = 36 := by
  rw [rmnetLinkInfo, appendRouteAttribute_eq, List.length_append, length_routeAttribute, length_rmnetDataInfo]
  change (routeAttribute order _ _).length + _ = _
  rw [length_routeAttribute]
  simp [routeAttrHeaderSize, alignRouteMessage, rmnetKind]

/-- The attributes of a request that adds a link. -/
def rmnetAttributes (order : ByteOrder) (baseIndex : Int) (name : GoString) (muxID : UInt8) (flags : UInt32) : Attributes :=
  .value iflaLink (order.putUint32 (UInt32.ofInt baseIndex))
    (.value iflaIfName name
      (.nested iflaLinkInfo
        (.value iflaInfoKind rmnetKind
          (.nested iflaInfoData
            (.value iflaRmnetMuxID (order.putUint16 muxID.toUInt16)
              (.value iflaRmnetFlags (order.putUint32 flags ++ order.putUint32 rmnetFlagMask) .none)) .none)) .none))

/-- The length in the header of a link message is its own. -/
theorem newRouteLinkMessage_length (order : ByteOrder) (messageType messageFlags linkType : UInt16)
    (index flags change : UInt32) {attrs : Bytes} (fits : 32 + attrs.length < 2 ^ 32) :
    ∃ header, newRouteLinkMessage order messageType messageFlags linkType index flags change attrs = header ++ attrs
      ∧ header.length = 32
      ∧ (order.uint32At (header ++ attrs) 0).toNat = (header ++ attrs).length := by
  refine ⟨_, rfl, by simp [netlinkHeaderLength, ifInfoMessageLength], ?_⟩
  have read := order.uint32At_putUint32 [] (UInt32.ofNat (netlinkHeaderLength + ifInfoMessageLength + attrs.length))
  simp only [List.nil_append, List.length_nil] at read
  simp only [List.append_assoc]
  rw [read, UInt32.toNat_ofNat_of_lt' (by simpa [netlinkHeaderLength, ifInfoMessageLength, UInt32.size] using fits)]
  simp [netlinkHeaderLength, ifInfoMessageLength]
  omega

/-- A request that adds a link under a short name has its own length, and its attributes are tiled. -/
theorem newRMNetLinkMessage_layout (order : ByteOrder) (baseIndex : Int) {name : GoString} (short : name.length ≤ 1000)
    (muxID : UInt8) (flags : UInt32) :
    ∃ header attrs, newRMNetLinkMessage order baseIndex name muxID flags = header ++ attrs ∧ header.length = 32
      ∧ (order.uint32At (header ++ attrs) 0).toNat = (header ++ attrs).length
      ∧ Tiled order 32 attrs (rmnetAttributes order baseIndex name muxID flags) := by
  let link := routeAttribute order iflaLink (order.putUint32 (UInt32.ofInt baseIndex))
  let named := routeAttribute order iflaIfName name
  let info := routeAttribute order iflaLinkInfo (rmnetLinkInfo order muxID flags)
  -- The attributes of a short name fit into their length fields.
  have size : (link ++ (named ++ (info ++ []))).length ≤ 2000 := by
    obtain ⟨-, near, -⟩ := le_alignRouteMessage (routeAttrHeaderSize + name.length)
    simp only [List.length_append, List.length_nil, link, named, info, length_routeAttribute, length_rmnetLinkInfo,
      ByteOrder.putUint32_length, alignRouteMessage, routeAttrHeaderSize] at near ⊢
    omega
  obtain ⟨header, layout, headerLength, own⟩ := newRouteLinkMessage_length order rtmNewLink newLinkFlags arphrdRawIP 0 0
    0xFFFFFFFF (show 32 + (link ++ (named ++ (info ++ []))).length < 2 ^ 32 by omega)
  refine ⟨header, _, ?_, headerLength, own, ?_⟩
  · rw [← layout, newRMNetLinkMessage, appendRouteAttribute_eq, appendRouteAttribute_eq]
    simp only [List.append_nil, List.append_assoc]
    rfl
  · -- The attributes follow one another at aligned places.
    have first := attribute_routeAttribute order (show 32 % 4 = 0 by decide) iflaLink
      (show routeAttrHeaderSize + (order.putUint32 (UInt32.ofInt baseIndex)).length < 2 ^ 16 by simp [routeAttrHeaderSize])
    have second := attribute_routeAttribute order first.behind iflaIfName
      (show routeAttrHeaderSize + name.length < 2 ^ 16 by simp only [routeAttrHeaderSize]; omega)
    have behind : (32 + link.length + named.length) % 4 = 0 := second.behind
    refine .value first (.value second (.nested (attribute_routeAttribute order behind iflaLinkInfo ?_) ?_ .none))
    · rw [length_rmnetLinkInfo]
      decide
    · exact tiled_rmnetLinkInfo order (by simp only [routeAttrHeaderSize]; omega) muxID flags

/--
The route netlink messages, in either byte order.

The search for an acknowledgment ends without an access out of range. It reports a match only for a buffer that is
malformed or has an answer behind the messages it skips, and no error exactly for a positive one. A request that adds a
link has its own length in its header, and its attributes tile every level.
-/
theorem route_netlink_messages (order : ByteOrder) :
    (∀ data sequence, ∃ matched err, routeNetlinkACK order data sequence = .ok (matched, err)
      ∧ (matched = true → Malformed order sequence data ∨ Answered order sequence data fun _ => True)
      ∧ (matched = true → (err = none ↔ Answered order sequence data (Positive order)))
      ∧ (matched = false → err = none))
    ∧ ∀ baseIndex muxID flags, ∀ name : GoString, name.length ≤ 1000 →
      ∃ header attrs, newRMNetLinkMessage order baseIndex name muxID flags = header ++ attrs ∧ header.length = 32
        ∧ (order.uint32At (header ++ attrs) 0).toNat = (header ++ attrs).length
        ∧ Tiled order 32 attrs (rmnetAttributes order baseIndex name muxID flags) :=
  ⟨routeNetlinkACK_spec order, fun baseIndex muxID flags _ short =>
    newRMNetLinkMessage_layout order baseIndex short muxID flags⟩

/-- The request for the first link on the interface with index three. -/
theorem first_link_message : ([0x71, 0x6d, 0x61, 0x70, 0x33, 0x2e, 0x30] : GoString).length ≤ 1000
    ∧ ∃ header attrs, newRMNetLinkMessage .littleEndian 3 [0x71, 0x6d, 0x61, 0x70, 0x33, 0x2e, 0x30] 1 1 = header ++ attrs
      ∧ header.length = 32
      ∧ (ByteOrder.littleEndian.uint32At (header ++ attrs) 0).toNat = (header ++ attrs).length
      ∧ Tiled .littleEndian 32 attrs
        (rmnetAttributes .littleEndian 3 [0x71, 0x6d, 0x61, 0x70, 0x33, 0x2e, 0x30] 1 1) :=
  ⟨by decide, (route_netlink_messages .littleEndian).2 3 1 1 _ (by decide)⟩

end Wwan.Modem.Qmi.RouteNetlink
