import Wwan.At.Reader
import Wwan.Proofs.At.Csim

/-! Answers are taken by the calls they belong to as long as no call leaves its answer unread. -/

namespace Wwan.At

open GoString (ascii trimSpace)

/-! What counts as an answer. -/

/-- A line that answers a command: its bytes or an error. -/
def IsReply (raw : GoString) : Prop := rawKind raw = .csim ∨ rawKind raw = .error

instance (raw : GoString) : Decidable (IsReply raw) := inferInstanceAs (Decidable (_ ∨ _))

/-- A line that starts with a letter A in ASCII stays so in upper case. -/
theorem toUpper_cons_a (rest : GoString) : toUpper (0x41 :: rest) = 0x41 :: toUpper rest := by
  have split : (0x41 :: rest : GoString) = Utf8.encodeRune 'A' ++ rest := rfl
  rw [toUpper, split, Utf8.runes_encodeRune_append, List.map_cons, Utf8.encodeRunes_cons]
  rfl

/-- The echo of a command is no answer. -/
theorem lineKind_marshalCommand (request : Bytes) : lineKind (marshalCommand request) = .other := by
  have upper : toUpper (marshalCommand request) = 0x41 :: toUpper ((marshalCommand request).drop 1) := toUpper_cons_a _
  have ok : (0x41 :: toUpper ((marshalCommand request).drop 1)) ≠ ascii "OK" := by
    intro same
    exact absurd (congrArg List.head? same) (by simp [ascii])
  have error : (0x41 :: toUpper ((marshalCommand request).drop 1)) ≠ ascii "ERROR" := by
    intro same
    exact absurd (congrArg List.head? same) (by simp [ascii])
  simp only [lineKind, upper, ok, error, if_false, false_or]
  rfl

/-- A blank line is no answer. -/
theorem lineKind_nil : lineKind [] = .other := by
  have upper : toUpper [] = [] := by simp [toUpper, Utf8.runes]
  simp only [lineKind, upper]
  rfl

namespace Port

/-- The answers that have arrived and were not read. -/
def replies (s : Port) : List GoString := s.unread.filter fun raw => IsReply raw

/-- A call may be given up only when the answer to its command has been taken from the port, whole or in part, and when
what it leaves of a line it read in part is no answer. -/
def Meets (s : Port) : PortEvent → Prop
  | .timeOut part =>
    match s.current, s.unread with
    | some call, raw :: _ =>
      if part = 0 then call.response.isSome = true
      else (call.response.isSome = true ∨ IsReply raw) ∧ ¬ IsReply (raw.drop part)
    | some call, [] => call.response.isSome = true
    | none, _ => True
  | .cancelled =>
    match s.current, s.unread with
    | some call, raw :: _ => call.response.isSome = true ∨ IsReply raw
    | _, _ => True
  | _ => True

/-! What holds while every call meets the condition. -/

/-- A call and the answers that are on their way to it. -/
inductive Awaits (s : Port) : Call → Prop where
  /-- The modem has not answered. -/
  | asked {call : Call} : call.response = none → s.pending = [call.id] → s.replies = [] → Awaits s call
  /-- The answer has not been read. -/
  | answered {call : Call} {raw : GoString} : call.response = none → s.pending = [] → s.replies = [raw] →
      (rawKind raw = .csim → (call.id, raw) ∈ s.answers) → Awaits s call
  /-- The bytes have been read. -/
  | taken {call : Call} {raw : GoString} : call.response = some (trimSpace raw) → s.pending = [] → s.replies = [] →
      (call.id, raw) ∈ s.answers → Awaits s call

/-- Nothing is on its way to anybody but the call that holds the lock. -/
structure InStep (s : Port) : Prop where
  idle : s.current = none → s.pending = [] ∧ s.replies = []
  busy : ∀ call, s.current = some call → s.Awaits call ∧ ∃ request, call.command = marshalCommand request
  /-- What was returned was the answer. -/
  own : ∀ id bytes, (id, bytes) ∈ s.returned →
    ∃ raw, (id, raw) ∈ s.answers ∧ decodeResponse (trimSpace raw) = some bytes

/-- No command is answered twice. -/
structure Once (s : Port) : Prop where
  nodup : (s.answers.map Prod.fst ++ s.pending).Nodup
  below : ∀ id ∈ s.answers.map Prod.fst ++ s.pending, id < s.calls

/-- A line that has arrived is the last. -/
theorem replies_append (s : Port) (raw : GoString) :
    (s.unread ++ [raw]).filter (fun raw => IsReply raw) = s.replies ++ if IsReply raw then [raw] else [] := by
  rw [List.filter_append, replies]
  congr 1
  by_cases reply : IsReply raw
  · simp [reply]
  · simp [reply]

/-- A line that is read was the first. -/
theorem replies_of_cons {s : Port} {raw : GoString} {rest : List GoString} (unread : s.unread = raw :: rest) :
    s.replies = (if IsReply raw then [raw] else []) ++ rest.filter fun raw => IsReply raw := by
  rw [replies, unread]
  by_cases reply : IsReply raw
  · simp [reply]
  · simp [reply]

/-- What a call does with a line. -/
theorem handle_cases (s : Port) {call : Call} (raw : GoString)
    (command : ∃ request, call.command = marshalCommand request) :
    (¬ IsReply raw ∧ s.handle call raw = s) ∨
    (¬ IsReply raw ∧ ∃ response, call.response = some response ∧
      ((decodeResponse response = none ∧ s.handle call raw = s.finish) ∨
      (∃ bytes, decodeResponse response = some bytes ∧
        s.handle call raw = { s.finish with returned := s.returned ++ [(call.id, bytes)] }))) ∨
    (rawKind raw = .error ∧ s.handle call raw = s.finish) ∨
    (rawKind raw = .csim ∧
      s.handle call raw = { s with current := some { call with response := some (trimSpace raw) } }) := by
  obtain ⟨request, command⟩ := command
  rw [handle]
  by_cases skipped : trimSpace raw = [] ∨ trimSpace raw = call.command
  · -- Neither a blank line nor an echo is an answer.
    have kind : rawKind raw = .other := by
      rcases skipped with blank | echo
      · rw [rawKind, blank, lineKind_nil]
      · rw [rawKind, echo, command, lineKind_marshalCommand]
    exact .inl ⟨by simp [IsReply, kind], if_pos skipped⟩
  · rw [if_neg skipped]
    cases kind : lineKind (trimSpace raw) with
    | ok =>
      -- An `OK` returns the response that was taken, where there is one.
      have plain : ¬ IsReply raw := by simp [IsReply, rawKind, kind]
      cases taken : call.response with
      | none => exact .inl ⟨plain, rfl⟩
      | some response =>
        refine .inr (.inl ⟨plain, response, rfl, ?_⟩)
        cases decoded : decodeResponse response with
        | none => exact .inl ⟨rfl, by simp [decoded]⟩
        | some bytes => exact .inr ⟨bytes, rfl, by simp [decoded]⟩
    | error => exact .inr (.inr (.inl ⟨kind, rfl⟩))
    | csim => exact .inr (.inr (.inr ⟨kind, rfl⟩))
    | other => exact .inl ⟨by simp [IsReply, rawKind, kind], rfl⟩

/-! The steps keep it. -/

/-- Nothing has happened at the start. -/
theorem inStep_init : InStep {} where
  idle _ := ⟨rfl, rfl⟩
  busy _ held := nomatch held
  own _ _ member := nomatch member

/-- Only the answers among the lines count. -/
theorem InStep.of_replies {s : Port} (inStep : s.InStep) (unread : List GoString) (answering : Option CallID)
    (same : Port.replies { s with unread, answering } = s.replies) : InStep { s with unread, answering } := by
  refine ⟨fun free => ?_, fun call held => ?_, inStep.own⟩
  · rw [same]
    exact inStep.idle free
  · obtain ⟨awaits, command⟩ := inStep.busy call held
    refine ⟨?_, command⟩
    cases awaits with
    | asked response pending none => exact .asked response pending (same.trans none)
    | answered response pending one own => exact .answered response pending (same.trans one) own
    | taken response pending none own => exact .taken response pending (same.trans none) own

/-- A line that is no answer changes nothing. -/
theorem InStep.more {s : Port} (inStep : s.InStep) {raw : GoString} (plain : ¬ IsReply raw) {answering : Option CallID} :
    InStep { s with unread := s.unread ++ [raw], answering := answering } := by
  refine inStep.of_replies _ _ ?_
  rw [replies, replies_append, if_neg plain, List.append_nil]

/-- Who waits for an answer is the call that holds the lock. -/
theorem InStep.asked {s : Port} (inStep : s.InStep) {id : CallID} {rest : List CallID} (pending : s.pending = id :: rest) :
    rest = [] ∧ s.replies = [] ∧ ∃ call, s.current = some call ∧ call.response = none ∧ call.id = id ∧
      ∃ request, call.command = marshalCommand request := by
  cases held : s.current with
  | none => simp [(inStep.idle held).1] at pending
  | some call =>
    obtain ⟨awaits, command⟩ := inStep.busy call held
    cases awaits with
    | asked response only none =>
      rw [only] at pending
      obtain ⟨same, rfl⟩ := List.cons.inj pending
      exact ⟨rfl, none, call, rfl, response, same, command⟩
    | answered _ empty => simp [empty] at pending
    | taken _ empty => simp [empty] at pending

/-- An answer that arrives is for the call that holds the lock. -/
theorem InStep.reply {s : Port} (inStep : s.InStep) {id : CallID} {rest : List CallID} (pending : s.pending = id :: rest)
    {raw : GoString} (reply : IsReply raw) (answering : Option CallID) {more : List (CallID × GoString)}
    (logged : rawKind raw = .csim → (id, raw) ∈ more) :
    InStep { s with unread := s.unread ++ [raw], pending := rest, answering := answering, answers := s.answers ++ more } := by
  obtain ⟨rfl, none, call, held, response, rfl, command⟩ := inStep.asked pending
  have one : Port.replies { s with unread := s.unread ++ [raw], pending := [], answering := answering, answers := s.answers ++ more } =
      [raw] := by
    rw [replies, replies_append, none, if_pos reply, List.nil_append]
  refine ⟨fun free => ?_, fun other same => ?_, fun id bytes member => ?_⟩
  · exact absurd free (by simp [held])
  · cases held.symm.trans same
    exact ⟨.answered response rfl one fun csim => List.mem_append_right _ (logged csim), command⟩
  · obtain ⟨raw, answer, decoded⟩ := inStep.own id bytes member
    exact ⟨raw, List.mem_append_left _ answer, decoded⟩

/-- A call that is over leaves nothing behind when it was answered. -/
theorem InStep.finish {s : Port} (inStep : s.InStep) {unread : List GoString} (pending : s.pending = [])
    (none : unread.filter (fun raw => IsReply raw) = []) : InStep { s.finish with unread := unread } where
  idle _ := ⟨pending, none⟩
  busy _ held := nomatch held
  own := inStep.own

/-- A call that has its answer leaves none behind. -/
theorem InStep.taken {s : Port} (inStep : s.InStep) {call : Call} (held : s.current = some call)
    (taken : call.response.isSome = true) : s.pending = [] ∧ s.replies = [] := by
  cases (inStep.busy call held).1 with
  | asked response pending none => simp [response] at taken
  | answered response pending one own => simp [response] at taken
  | taken response pending none own => exact ⟨pending, none⟩

/-- A call whose answer was taken, or that takes it now, leaves no answer behind. -/
theorem InStep.emptied {s : Port} (inStep : s.InStep) {call : Call} (held : s.current = some call) {raw : GoString}
    {rest : List GoString} (unread : s.unread = raw :: rest) (answered : call.response.isSome = true ∨ IsReply raw) :
    s.pending = [] ∧ rest.filter (fun raw => IsReply raw) = [] := by
  have replies := replies_of_cons unread
  rcases answered with taken | reply
  · obtain ⟨pending, none⟩ := inStep.taken held taken
    rw [none] at replies
    exact ⟨pending, (List.append_eq_nil_iff.mp replies.symm).2⟩
  · rw [if_pos reply, List.singleton_append] at replies
    cases (inStep.busy call held).1 with
    | asked response pending none => simp [none] at replies
    | answered response pending one own => exact ⟨pending, (List.cons.inj (one.symm.trans replies)).2.symm⟩
    | taken response pending none own => simp [none] at replies

/-- A line that is no answer may be taken from the port. -/
theorem InStep.skip {s : Port} (inStep : s.InStep) {raw : GoString} {rest : List GoString} (unread : s.unread = raw :: rest)
    (plain : ¬ IsReply raw) : InStep { s with unread := rest } := by
  refine inStep.of_replies rest s.answering ?_
  rw [replies_of_cons unread, if_neg plain, List.nil_append, replies]

/-- A call that reads a line stays in step. -/
theorem InStep.read {s : Port} (inStep : s.InStep) {call : Call} (held : s.current = some call) {raw : GoString}
    {rest : List GoString} (unread : s.unread = raw :: rest) : InStep (handle { s with unread := rest } call raw) := by
  obtain ⟨awaits, command⟩ := inStep.busy call held
  rcases handle_cases { s with unread := rest } raw command with
    ⟨plain, same⟩ | ⟨plain, response, taken, outcome⟩ | ⟨error, same⟩ | ⟨csim, same⟩
  · -- The line is not for the call, and is skipped.
    rw [same]
    exact inStep.skip unread plain
  · -- The call returns, and what it had read was its answer.
    obtain ⟨pending, none⟩ := inStep.emptied held unread (.inl (by simp [taken]))
    rcases outcome with ⟨-, same⟩ | ⟨bytes, decoded, same⟩
    · -- The response cannot be decoded, and the call fails.
      rw [same]
      exact inStep.finish pending none
    · -- The call returns what it has taken.
      rw [same]
      refine ⟨fun _ => ⟨pending, none⟩, fun _ held => (nomatch held), fun id found member => ?_⟩
      rcases List.mem_append.mp member with earlier | now
      · exact inStep.own id found earlier
      · obtain ⟨rfl, rfl⟩ := Prod.mk.inj (List.mem_singleton.mp now)
        cases awaits with
        | asked unanswered => simp [unanswered] at taken
        | answered unanswered => simp [unanswered] at taken
        | taken line pending none own =>
          cases line.symm.trans taken
          exact ⟨_, own, decoded⟩
  · -- The modem has refused the command, and the call fails.
    obtain ⟨pending, none⟩ := inStep.emptied held unread (.inr (.inr error))
    rw [same]
    exact inStep.finish pending none
  · -- The line is taken as the response.
    have reply : IsReply raw := .inl csim
    obtain ⟨pending, none⟩ := inStep.emptied held unread (.inr reply)
    have first := replies_of_cons unread
    rw [if_pos reply, none, List.append_nil] at first
    rw [same]
    refine ⟨fun free => (nomatch free), fun other again => ?_, inStep.own⟩
    cases again
    refine ⟨?_, command⟩
    -- The line was the answer on its way to this call.
    cases awaits with
    | asked response pending none => simp [none] at first
    | answered response pending one own =>
      cases one.symm.trans first
      exact .taken rfl pending none (own csim)
    | taken response pending none own => simp [none] at first

/-- A call that is given up only when it has been answered stays in step. -/
theorem InStep.step {s s' : Port} {e : PortEvent} (inStep : s.InStep) (meets : s.Meets e) (accepted : s.step e = some s') :
    s'.InStep := by
  cases e with
  | transmit request =>
    simp only [Port.step] at accepted
    split at accepted
    · cases accepted
    · next free =>
      cases accepted
      -- The port is free, so nothing is on its way from an earlier call.
      obtain ⟨pending, none⟩ := inStep.idle free
      refine ⟨fun free => (nomatch free), fun call held => ?_, inStep.own⟩
      cases held
      exact ⟨.asked rfl (by simp [pending]) none, request, rfl⟩
  | unsolicited line =>
    -- What the modem says by itself is no reply.
    simp only [Port.step] at accepted
    split at accepted
    · next kind =>
      cases accepted
      exact inStep.more (by simp [IsReply, kind])
    · cases accepted
  | csim line =>
    -- The modem replies to the command that it was given first.
    simp only [Port.step] at accepted
    split at accepted
    · next id rest _ pending =>
      split at accepted
      · next kind =>
        cases accepted
        exact inStep.reply pending (.inl kind) _ fun _ => List.mem_singleton.mpr rfl
      · cases accepted
    · cases accepted
  | ok line =>
    -- The final `OK` is no reply.
    simp only [Port.step] at accepted
    split at accepted
    · split at accepted
      · next kind =>
        cases accepted
        exact inStep.more (by simp [IsReply, kind])
      · cases accepted
    · cases accepted
  | error line =>
    simp only [Port.step] at accepted
    split at accepted
    · next id rest _ pending =>
      split at accepted
      · next kind =>
        cases accepted
        -- A refusal is a reply without a line of its own.
        have unlogged : rawKind line = .csim → (id, line) ∈ ([] : List (CallID × GoString)) := by
          intro csim
          simp [kind] at csim
        simpa using inStep.reply pending (.inr kind) s.answering unlogged
      · cases accepted
    · cases accepted
  | read =>
    simp only [Port.step] at accepted
    split at accepted
    · next call raw rest held unread =>
      cases accepted
      exact inStep.read held unread
    · cases accepted
  | timeOut part =>
    simp only [Port.step] at accepted
    cases held : s.current with
    | none => simp [held] at accepted
    | some call =>
      -- The call has run out of time, having taken its answer.
      simp only [held] at accepted
      cases unread : s.unread with
      | nil =>
        simp only [Meets, held, unread] at accepted meets
        split at accepted
        · cases accepted
          obtain ⟨pending, none⟩ := inStep.taken held meets
          exact inStep.finish pending none
        · cases accepted
      | cons raw rest =>
        simp only [Meets, held, unread] at accepted meets
        -- What is left of a line that was cut is no reply.
        split at accepted
        · cases accepted
          split at meets
          · next zero =>
            obtain ⟨pending, none⟩ := inStep.taken held meets
            rw [zero, List.drop_zero, ← unread]
            exact inStep.finish pending none
          · obtain ⟨pending, none⟩ := inStep.emptied held unread meets.1
            apply inStep.finish pending
            rw [List.filter_cons_of_neg (by simpa using meets.2), none]
        · cases accepted
  | cancelled =>
    simp only [Port.step] at accepted
    split at accepted
    · next call raw rest held unread =>
      cases accepted
      -- The call was given up in the middle of a read, having taken its answer.
      simp only [Meets, held, unread] at meets
      obtain ⟨pending, none⟩ := inStep.emptied held unread meets
      exact inStep.finish pending none
    · cases accepted

/-! No command has two answers. -/

/-- Reading a line changes no command. -/
theorem handle_commands (s : Port) (call : Call) (raw : GoString) :
    (s.handle call raw).calls = s.calls ∧ (s.handle call raw).answers = s.answers ∧
      (s.handle call raw).pending = s.pending := by
  simp only [handle, finish]
  repeat' split
  all_goals exact ⟨rfl, rfl, rfl⟩

/-- The modem answers every command once. -/
theorem Once.step {s s' : Port} {e : PortEvent} (once : s.Once) (accepted : s.step e = some s') : s'.Once := by
  cases e with
  | transmit request =>
    simp only [Port.step] at accepted
    split at accepted
    · cases accepted
    · cases accepted
      constructor
      · -- The new command is numbered above all others.
        show (s.answers.map Prod.fst ++ (s.pending ++ [s.calls])).Nodup
        rw [← List.append_assoc]
        refine once.nodup.append (by simp) ?_
        intro id member fresh
        have below := once.below id member
        rw [List.mem_singleton.mp fresh] at below
        exact absurd below (Nat.lt_irrefl _)
      · intro id member
        show id < s.calls + 1
        have member : id ∈ s.answers.map Prod.fst ++ s.pending ∨ id = s.calls := by
          rwa [← List.append_assoc, List.mem_append, List.mem_singleton] at member
        rcases member with earlier | rfl
        · exact Nat.lt_succ_of_lt (once.below id earlier)
        · exact Nat.lt_succ_self _
  | unsolicited line =>
    -- The lines that are no replies answer nothing.
    simp only [Port.step] at accepted
    split at accepted
    · cases accepted
      exact ⟨once.nodup, once.below⟩
    · cases accepted
  | csim line =>
    simp only [Port.step] at accepted
    split at accepted
    · next id rest _ pending =>
      split at accepted
      · cases accepted
        -- The command that is answered was the first pending one.
        have same : (s.answers ++ [(id, line)]).map Prod.fst ++ rest = s.answers.map Prod.fst ++ s.pending := by
          simp [pending]
        exact ⟨by simpa only [same] using once.nodup, by simpa only [same] using once.below⟩
      · cases accepted
    · cases accepted
  | ok line =>
    simp only [Port.step] at accepted
    split at accepted
    · split at accepted
      · cases accepted
        exact ⟨once.nodup, once.below⟩
      · cases accepted
    · cases accepted
  | error line =>
    simp only [Port.step] at accepted
    split at accepted
    · next id rest _ pending =>
      split at accepted
      · cases accepted
        -- A refused command is pending no longer.
        have fewer : List.Sublist (s.answers.map Prod.fst ++ rest) (s.answers.map Prod.fst ++ s.pending) := by
          rw [pending]
          exact (List.sublist_cons_self id rest).append_left _
        exact ⟨once.nodup.sublist fewer, fun id member => once.below id (fewer.subset member)⟩
      · cases accepted
    · cases accepted
  | read =>
    simp only [Port.step] at accepted
    split at accepted
    · next call raw rest held unread =>
      cases accepted
      -- Reading answers no command.
      obtain ⟨calls, answers, pending⟩ := handle_commands { s with unread := rest } call raw
      constructor
      · rw [answers, pending]
        exact once.nodup
      · rw [answers, pending, calls]
        exact once.below
    · cases accepted
  | timeOut part =>
    simp only [Port.step] at accepted
    repeat' split at accepted
    all_goals cases accepted
    all_goals exact ⟨once.nodup, once.below⟩
  | cancelled =>
    simp only [Port.step] at accepted
    split at accepted
    · cases accepted
      exact ⟨once.nodup, once.below⟩
    · cases accepted

/-- The bytes of the answer are those it was written for. -/
theorem decodeResponse_csimLine {data bytes : Bytes} (fits : (upperHex data).length < 2 ^ 63)
    (decoded : decodeResponse (csimLine data) = some bytes) : bytes = data := by
  rw [decodeResponse, unmarshalResponse_csimLine fits] at decoded
  simp only at decoded
  split at decoded
  · cases decoded
  · exact (Option.some.inj decoded).symm

/-- The bytes that were returned are those of the one answer to the command. -/
structure Answer (s : Port) (id : CallID) (bytes : Bytes) (line : GoString) : Prop where
  sent : (id, line) ∈ s.answers
  single : ∀ other, (id, other) ∈ s.answers → other = line
  decoded : decodeResponse (trimSpace line) = some bytes
  exact : ∀ data, (upperHex data).length < 2 ^ 63 → trimSpace line = csimLine data → bytes = data

/-- Every call that returned has returned the answer to its own command. -/
def AllOwn (s : Port) : Prop := ∀ id bytes, (id, bytes) ∈ s.returned → ∃ line, s.Answer id bytes line

/-- As long as every call that is given up has taken its answer, every call that returns without an error returns the
bytes of the answer to its own command. -/
theorem transmit_returns_own {trace : List (Port × PortEvent)} {s : Port} (run : portMachine.Runs trace s)
    (meets : ∀ step ∈ trace, step.1.Meets step.2) : s.AllOwn := by
  -- The run is taken step by step, each of which meets the condition.
  have inStep : s.InStep := by
    refine Machine.Runs.invariant (P := fun trace s => (∀ step ∈ trace, step.1.Meets step.2) → s.InStep)
      (fun _ => inStep_init) ?_ run meets
    intro trace s e s' _ ih accepted meets
    have before := ih fun step member => meets step (List.mem_append_left _ member)
    exact before.step (meets (s, e) (by simp)) accepted
  have once : s.Once := Machine.Runs.stateInvariant (P := Once) ⟨by simp [portMachine], by simp [portMachine]⟩
    (fun _ _ _ once accepted => once.step accepted) run
  intro id bytes member
  obtain ⟨line, sent, decoded⟩ := inStep.own id bytes member
  refine ⟨line, sent, fun other again => ?_, decoded, fun data fits written => ?_⟩
  · -- The commands of the answers are distinct.
    have distinct : (s.answers.map Prod.fst).Nodup := (List.nodup_append.mp once.nodup).1
    exact congrArg Prod.snd (List.inj_on_of_nodup_map distinct again sent rfl)
  · -- A line as the modem writes it decodes to the bytes that it was written for.
    rw [written] at decoded
    exact decodeResponse_csimLine fits decoded

/-- Two exchanges, the second of which is given up between the answer and its end. -/
def exchanges : List PortEvent :=
  [.transmit [0x00, 0xA4], .unsolicited (marshalCommand [0x00, 0xA4]), .csim (csimLine [0x61, 0x10]), .ok (ascii "OK"),
    .read, .read, .read, .transmit [0x00, 0xB0], .csim (csimLine [0x07, 0x90, 0x00]), .read, .timeOut 0, .ok (ascii "OK"),
    .transmit [0x00, 0xC0], .csim (csimLine [0x08, 0x90, 0x00]), .ok (ascii "OK"), .read, .read, .read]

/-- Every call of these exchanges that returns has returned its own answer. -/
theorem exchanges_own : ∃ trace s, portMachine.Runs trace s ∧ trace.map Prod.snd = exchanges ∧
    s.returned = [(0, [0x61, 0x10]), (2, [0x08, 0x90, 0x00])] ∧ s.AllOwn := by
  have glance : (portMachine.runFrom portMachine.init exchanges).map (fun result => (result.2.returned,
      result.1.all fun step => match step.2 with
        | .timeOut part => part = 0 ∧ step.1.unread = [] ∧ (step.1.current.bind Call.response).isSome
        | .cancelled => false
        | _ => true)) = some ([(0, [0x61, 0x10]), (2, [0x08, 0x90, 0x00])], true) := by decide +kernel
  obtain ⟨trace, s, run, events, seen⟩ := Machine.exists_runs glance
  obtain ⟨returned, fine⟩ := Prod.mk.inj seen
  refine ⟨trace, s, run, events, returned, transmit_returns_own run ?_⟩
  rintro ⟨before, e⟩ member
  have fact := List.all_eq_true.mp fine (before, e) member
  cases e with
  | timeOut part =>
    obtain ⟨-, unread, taken⟩ := of_decide_eq_true fact
    have unread : before.unread = [] := unread
    cases held : before.current with
    | none => simp [Meets, held]
    | some call => simpa [Meets, held, unread] using taken
  | cancelled => cases fact
  | _ => trivial

/-- A call that is given up before its answer arrives leaves it to the next call. -/
theorem abandoned_answer_taken : ∃ trace s, portMachine.Runs trace s ∧
    trace.map Prod.snd = [.transmit [0x00, 0xA4], .timeOut 0, .csim (csimLine [0x90, 0x00]), .ok (ascii "OK"),
      .transmit [0x00, 0xB0], .read, .read] ∧ ¬ s.AllOwn := by
  have glance : (portMachine.runFrom portMachine.init [.transmit [0x00, 0xA4], .timeOut 0, .csim (csimLine [0x90, 0x00]),
      .ok (ascii "OK"), .transmit [0x00, 0xB0], .read, .read]).map
      (fun result => (result.2.returned, result.2.answers.map Prod.fst)) = some ([(1, [0x90, 0x00])], [0]) := by
    decide +kernel
  obtain ⟨trace, s, run, events, seen⟩ := Machine.exists_runs glance
  obtain ⟨returned, answers⟩ := Prod.mk.inj seen
  have returned : s.returned = [(1, [0x90, 0x00])] := returned
  have answers : s.answers.map Prod.fst = [0] := answers
  refine ⟨trace, s, run, events, fun own => ?_⟩
  obtain ⟨line, answer⟩ := own 1 [0x90, 0x00] (by simp [returned])
  -- The only answer there is belongs to the first command.
  have named : 1 ∈ s.answers.map Prod.fst := List.mem_map_of_mem answer.sent
  rw [answers] at named
  exact absurd named (by decide)

end Port

end Wwan.At
