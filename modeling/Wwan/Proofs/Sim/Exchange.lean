import Mathlib.Data.List.Chain
import Wwan.Sim.Exchange

/-! An exchange with the card is atomic, unless one that does not hold the mutex is under way beside another. -/

namespace Wwan.Sim.Exchange

/-! What is owed, and what can go wrong. -/

/-- An APDU that may be sent next: the GET RESPONSE of the same goroutine where more data were announced, and else a
command. -/
def Follows (first next : Sent) : Prop :=
  (first.more = true → next.caller = first.caller ∧ next.isGetResponse = true) ∧
    (next.isGetResponse = true → next.caller = first.caller ∧ first.more = true)

/-- No APDU came between a command and its GET RESPONSEs, and all data that were returned answer their own command. -/
structure State.Atomic (s : State) : Prop where
  sent : s.sent.IsChain Follows
  own : ∀ collected ∈ s.returned, ∀ byte ∈ collected.data, byte.1 = collected.own

/-- The goroutine waits for the rest of an answer. -/
def Stage.waits : Stage → Bool
  | .following _ _ _ _ => true
  | _ => false

/-- The goroutine is in an operation that does not take the mutex. -/
def Stage.unlocked : Stage → Bool
  | .idle => false
  | .running op | .holding op | .following op _ _ _ => !op.locks

/-- A command is sent while another goroutine waits for the rest of an answer, and not both of them take the mutex. -/
def Breaks (s : State) : Event → Prop
  | .transmit caller _ _ => ∃ earlier ∈ s.sent, earlier.caller ≠ caller ∧ (s.callers earlier.caller).waits = true ∧
      ((s.callers earlier.caller).unlocked || (s.callers caller).unlocked) = true
  | _ => False

instance (s : State) : (e : Event) → Decidable (Breaks s e)
  | .transmit _ _ _ => inferInstanceAs (Decidable (∃ _ ∈ _, _ ∧ _ ∧ _))
  | .begin_ _ _ | .lock _ | .follow _ _ | .end_ _ => inferInstanceAs (Decidable False)

/-! What a step can do. -/

/-- Moving one goroutine leaves its own new stage and the old stages of the others. -/
theorem State.callers_enter (s : State) (caller other : CallerID) (stage : Stage) :
    (s.enter caller stage).callers other = if other = caller then stage else s.callers other := by
  simp [State.enter, Function.update_apply]

/-- What becomes of an exchange when the response to an APDU has arrived. -/
inductive Received (s : State) (caller : CallerID) (op : Operation) (own : CommandID) (collected : List Sourced)
    (source : CommandID) (answer : Option Bytes) : State → Prop where
  | failed : answer.any hasMore = false → Received s caller op own collected source answer (s.leave caller op)
  | more (response : Bytes) : answer = some response → hasMore response = true →
      Received s caller op own collected source answer
        (s.enter caller (.following op own response (collected ++ (data response).map fun byte => (source, byte))))
  | done (response : Bytes) : answer = some response → hasMore response = false →
      Received s caller op own collected source answer
        { s.leave caller op with
          returned := s.returned ++
            [{ caller, own, data := collected ++ (data response).map fun byte => (source, byte) }] }

/-- A response is one of these. -/
theorem State.receive_received (s : State) (caller : CallerID) (op : Operation) (own : CommandID)
    (collected : List Sourced) (source : CommandID) (answer : Option Bytes) :
    Received s caller op own collected source answer (s.receive caller op own collected source answer) := by
  cases answer with
  | none => exact .failed rfl
  | some response =>
    rw [State.receive]
    by_cases short : response.length < 2
    · rw [if_pos short]
      -- A response without a status announces nothing.
      exact .failed (by simp [hasMore, sw1, short])
    · rw [if_neg short]
      cases more : hasMore response with
      | true => exact .more response rfl more
      | false => exact .done response rfl more

/-- What one step can do. -/
inductive Moves (s : State) : Event → State → Prop where
  | begin_ {caller : CallerID} {op : Operation} : s.callers caller = .idle →
      Moves s (.begin_ caller op) (s.enter caller (.running op))
  | lock {caller : CallerID} {op : Operation} : s.callers caller = .running op → op.locks = true → s.stkMu = none →
      Moves s (.lock caller) { s.enter caller (.holding op) with stkMu := some caller }
  | transmit {caller : CallerID} {op : Operation} {request : Bytes} {answer : Option Bytes} {s' : State} :
      (s.callers caller = .running op ∧ op.locks = false ∨ s.callers caller = .holding op) →
      Received { s with sent := s.sent ++ [{ caller, apdu := .command request, answer }], last := some s.sent.length }
        caller op s.sent.length [] s.sent.length answer s' →
      Moves s (.transmit caller request answer) s'
  | follow {caller : CallerID} {op : Operation} {own : CommandID} {response : Bytes} {collected : List Sourced}
      {answer : Option Bytes} {s' : State} : s.callers caller = .following op own response collected →
      Received { s with sent := s.sent ++ [{ caller, apdu := .getResponse (sw2 response), answer }] }
        caller op own collected (s.last.getD 0) answer s' →
      Moves s (.follow caller answer) s'
  | end_ {caller : CallerID} {op : Operation} : s.callers caller = .running op →
      Moves s (.end_ caller) (s.enter caller .idle)

/-- Every step is one of these. -/
theorem State.moves {s s' : State} {e : Event} (stepped : s.step e = some s') : Moves s e s' := by
  cases e with
  | begin_ caller op =>
    rw [State.step] at stepped
    split at stepped
    · rename_i at_
      rw [← Option.some.inj stepped]
      exact .begin_ at_
    · simp at stepped
  | lock caller =>
    -- An operation takes the mutex only if it is one that does.
    rw [State.step] at stepped
    split at stepped
    · rename_i op at_ free
      split at stepped
      · rename_i locks
        rw [← Option.some.inj stepped]
        exact .lock at_ locks free
      · simp at stepped
    · simp at stepped
  | transmit caller request answer =>
    -- A command is sent without the mutex, or under it.
    rw [State.step] at stepped
    split at stepped
    · rename_i op at_
      split at stepped
      · simp at stepped
      · rename_i unlocked
        rw [← Option.some.inj stepped]
        exact .transmit (.inl ⟨at_, by simpa using unlocked⟩) (State.receive_received ..)
    · rename_i op at_
      rw [← Option.some.inj stepped]
      exact .transmit (.inr at_) (State.receive_received ..)
    · simp at stepped
  | follow caller answer =>
    -- The announced data are fetched.
    rw [State.step] at stepped
    split at stepped
    · rename_i op own response collected at_
      rw [← Option.some.inj stepped]
      exact .follow at_ (State.receive_received ..)
    · simp at stepped
  | end_ caller =>
    rw [State.step] at stepped
    split at stepped
    · rename_i op at_
      rw [← Option.some.inj stepped]
      exact .end_ at_
    · simp at stepped

/-! What holds between the steps. -/

/-- A goroutine that waits sent an APDU to which more data were announced, and has sent none since. -/
def State.Trailed (s : State) : Prop :=
  ∀ caller, (s.callers caller).waits = true → ∃ before sent after, s.sent = before ++ sent :: after ∧
    sent.caller = caller ∧ sent.more = true ∧ ∀ later ∈ after, later.caller ≠ caller

/-- What holds between the steps as long as none breaks an exchange. -/
structure State.Sound (s : State) : Prop where
  atomic : s.Atomic
  /-- Who waits sent the last APDU, and the card has the rest of its answer. -/
  waiting : ∀ caller op own response collected, s.callers caller = .following op own response collected →
    s.last = some own ∧ (∀ byte ∈ collected, byte.1 = own) ∧
      ∃ sent, s.sent.getLast? = some sent ∧ sent.caller = caller ∧ sent.more = true
  /-- Who is to be given more data waits for them. -/
  announced : ∀ sent, s.sent.getLast? = some sent → sent.more = true → (s.callers sent.caller).waits = true
  /-- Who holds the mutex during an exchange is the one that took it. -/
  mutex : ∀ caller op, (s.callers caller = .holding op ∨
    op.locks = true ∧ ∃ own response collected, s.callers caller = .following op own response collected) →
      op.locks = true ∧ s.stkMu = some caller

variable {s s' : State}

/-- The last APDU of a list with one more is that one. -/
theorem getLast?_sent (sent : List Sent) (next : Sent) : (sent ++ [next]).getLast? = some next := by simp

/-- A list of APDUs may be followed by one that follows its last. -/
theorem isChain_sent {sent : List Sent} {next : Sent} :
    (sent ++ [next]).IsChain Follows ↔ sent.IsChain Follows ∧ ∀ last, sent.getLast? = some last → Follows last next := by
  rw [List.isChain_append]
  simp

/-- A stage in which a goroutine does not wait. -/
theorem Stage.ne_following {stage : Stage} (still : stage.waits = false) (op : Operation) (own : CommandID)
    (response : Bytes) (collected : List Sourced) : stage ≠ .following op own response collected := by
  rintro rfl
  simp [Stage.waits] at still

/-- A goroutine that waits follows an answer. -/
theorem Stage.following_of_waits {stage : Stage} (waits : stage.waits = true) :
    ∃ op own response collected, stage = .following op own response collected := by
  cases stage with
  | following op own response collected => exact ⟨op, own, response, collected, rfl⟩
  | idle | running | holding => simp [Stage.waits] at waits

/-- A goroutine may move from a stage without an exchange to another. -/
theorem State.Sound.enter (sound : s.Sound) {caller : CallerID} {stage : Stage} (free : (s.callers caller).waits = false)
    (still : stage.waits = false) (unheld : ∀ op, stage ≠ .holding op) : (s.enter caller stage).Sound := by
  refine ⟨⟨sound.atomic.sent, sound.atomic.own⟩, ?_, ?_, ?_⟩
  · -- No new exchange begins.
    intro other op own response collected at_
    rw [State.callers_enter] at at_
    split at at_
    · exact absurd at_ (Stage.ne_following still _ _ _ _)
    · exact sound.waiting other op own response collected at_
  · -- Who has announced data is waited for still.
    intro sent last more
    have waits := sound.announced sent last more
    rw [State.callers_enter, if_neg]
    · exact waits
    · rintro rfl
      simp [free] at waits
  · -- The mutex is as it was.
    intro other op at_
    simp only [State.callers_enter] at at_
    split at at_
    · rcases at_ with holds | ⟨-, own, response, collected, follows⟩
      · exact absurd holds (unheld op)
      · exact absurd follows (Stage.ne_following still _ _ _ _)
    · exact sound.mutex other op at_

/-- A goroutine may take the mutex. -/
theorem State.Sound.lock (sound : s.Sound) {caller : CallerID} {op : Operation} (at_ : s.callers caller = .running op)
    (locks : op.locks = true) (free : s.stkMu = none) :
    State.Sound { s.enter caller (.holding op) with stkMu := some caller } := by
  refine ⟨⟨sound.atomic.sent, sound.atomic.own⟩, ?_, ?_, ?_⟩
  · -- Taking the mutex begins no exchange.
    intro other op' own response collected follows
    rw [State.callers_enter] at follows
    split at follows
    · simp at follows
    · exact sound.waiting other op' own response collected follows
  · -- The last sender is another goroutine, for this one waited for the mutex.
    intro sent last more
    have waits := sound.announced sent last more
    show ((s.enter caller (.holding op)).callers sent.caller).waits = true
    rw [State.callers_enter, if_neg]
    · exact waits
    · rintro rfl
      simp [at_, Stage.waits] at waits
  · intro other op' busy
    simp only [State.callers_enter] at busy
    split at busy
    · rename_i same
      subst same
      simp only [Stage.holding.injEq, reduceCtorEq, exists_const, and_false, or_false] at busy
      exact ⟨busy ▸ locks, rfl⟩
    · -- Nobody else is in an exchange under the mutex, for the mutex was free.
      have held := (sound.mutex other op' busy).2
      simp [free] at held

/-- What holds while the response to an APDU of a goroutine is on its way, and no other goroutine waits. -/
structure Pending (s : State) (caller : CallerID) (op : Operation) (own : CommandID) (collected : List Sourced)
    (answer : Option Bytes) : Prop where
  atomic : s.Atomic
  alone : ∀ other, other ≠ caller → (s.callers other).waits = false
  last : s.last = some own
  collected : ∀ byte ∈ collected, byte.1 = own
  sent : ∃ sent, s.sent.getLast? = some sent ∧ sent.caller = caller ∧ sent.answer = answer
  mutex : ∀ other op', other ≠ caller → s.callers other = .holding op' → op'.locks = true ∧ s.stkMu = some other
  held : op.locks = true → s.stkMu = some caller

/-- The end of an exchange leaves no goroutine waiting. -/
theorem Pending.leave {caller : CallerID} {op : Operation} {own : CommandID} {collected : List Sourced}
    {answer : Option Bytes} (pending : Pending s caller op own collected answer)
    (silent : answer.any hasMore = false) {returned : List Collected}
    (owned : ∀ collected ∈ returned, ∀ byte ∈ collected.data, byte.1 = collected.own) :
    State.Sound { s.leave caller op with returned } := by
  obtain ⟨sent, last, -, answered⟩ := pending.sent
  -- Nobody waits after the exchange.
  have still (other : CallerID) : ((s.leave caller op).callers other).waits = false := by
    show ((s.enter caller (.running op)).callers other).waits = false
    rw [State.callers_enter]
    split
    · rfl
    · rename_i another
      exact pending.alone other another
  refine ⟨⟨pending.atomic.sent, owned⟩, ?_, ?_, ?_⟩
  · intro other op' own' response' collected' follows
    exact absurd follows (Stage.ne_following (still other) _ _ _ _)
  · -- The last answer announced nothing.
    intro sent' last' more
    cases last.symm.trans last'
    simp [Sent.more, answered, silent] at more
  · -- Only an operation that holds the mutex is left.
    intro other op' busy
    rcases busy with holds | ⟨-, own', response', collected', follows⟩
    · have before : other ≠ caller ∧ s.callers other = .holding op' := by
        have holds : (s.enter caller (.running op)).callers other = .holding op' := holds
        rw [State.callers_enter] at holds
        split at holds
        · simp at holds
        · rename_i another
          exact ⟨another, holds⟩
      obtain ⟨locks, held⟩ := pending.mutex other op' before.1 before.2
      refine ⟨locks, ?_⟩
      show (if op.locks then none else s.stkMu) = some other
      split
      · -- The mutex cannot have been held by both.
        rename_i both
        rw [pending.held both] at held
        exact absurd (Option.some.inj held).symm before.1
      · exact held
    · exact absurd follows (Stage.ne_following (still other) _ _ _ _)

/-- An answer that announces more data leaves the goroutine waiting for them, and no other. -/
theorem Pending.more {caller : CallerID} {op : Operation} {own : CommandID} {collected : List Sourced}
    {answer : Option Bytes} (pending : Pending s caller op own collected answer) {response : Bytes}
    (announces : answer.any hasMore = true) {more : List Sourced} (owned : ∀ byte ∈ more, byte.1 = own) :
    (s.enter caller (.following op own response more)).Sound := by
  obtain ⟨sent, last, from_, answered⟩ := pending.sent
  refine ⟨⟨pending.atomic.sent, pending.atomic.own⟩, ?_, ?_, ?_⟩
  · -- This goroutine waits for the data of its own command.
    intro other op' own' response' collected' follows
    rw [State.callers_enter] at follows
    split at follows
    · rename_i same
      subst same
      simp only [Stage.following.injEq] at follows
      obtain ⟨rfl, rfl, rfl, rfl⟩ := follows
      exact ⟨pending.last, owned, sent, last, from_, by simpa [Sent.more, answered] using announces⟩
    · rename_i another
      exact absurd follows (Stage.ne_following (pending.alone other another) _ _ _ _)
  · -- The last APDU is its own.
    intro sent' last' _
    cases last.symm.trans last'
    rw [State.callers_enter, if_pos from_]
    rfl
  · -- It holds the mutex, where its operation takes it.
    intro other op' busy
    simp only [State.callers_enter] at busy
    split at busy
    · rename_i same
      subst same
      simp only [reduceCtorEq, Stage.following.injEq, false_or] at busy
      obtain ⟨locks, -, -, -, rfl, -⟩ := busy
      exact ⟨locks, pending.held locks⟩
    · rename_i another
      rcases busy with holds | ⟨-, own', response', collected', follows⟩
      · exact pending.mutex other op' another holds
      · exact absurd follows (Stage.ne_following (pending.alone other another) _ _ _ _)

/-- Whatever the response, all is well afterwards. -/
theorem Pending.received {caller : CallerID} {op : Operation} {own : CommandID} {collected : List Sourced}
    {source : CommandID} {answer : Option Bytes} (pending : Pending s caller op own collected answer)
    (same : source = own) (received : Received s caller op own collected source answer s') : s'.Sound := by
  subst same
  -- What arrives answers the own command, as what arrived before does.
  have owned (response : Bytes) :
      ∀ byte ∈ collected ++ (data response).map (fun byte => (source, byte)), byte.1 = source := by
    intro byte member
    rcases List.mem_append.mp member with earlier | now
    · exact pending.collected byte earlier
    · obtain ⟨_, -, rfl⟩ := List.mem_map.mp now
      rfl
  cases received with
  | failed silent => exact pending.leave silent pending.atomic.own
  | more response answered announces => exact pending.more (by simp [answered, announces]) (owned response)
  | done response answered silent =>
    -- What is returned was collected from the answers to the own command.
    refine pending.leave (by simp [answered, silent]) fun result member => ?_
    rcases List.mem_append.mp member with earlier | now
    · exact pending.atomic.own result earlier
    · rw [List.mem_singleton] at now
      subst now
      exact owned response

/-- A command of a goroutine may be sent when no other waits. -/
theorem State.Sound.transmit (sound : s.Sound) {caller : CallerID} {op : Operation} {request : Bytes}
    {answer : Option Bytes}
    (at_ : s.callers caller = .running op ∧ op.locks = false ∨ s.callers caller = .holding op)
    (alone : ∀ other, (s.callers other).waits = false) :
    Pending { s with sent := s.sent ++ [{ caller, apdu := .command request, answer }], last := some s.sent.length }
      caller op s.sent.length [] answer := by
  refine ⟨⟨isChain_sent.mpr ⟨sound.atomic.sent, fun last found => ?_⟩, sound.atomic.own⟩, fun other _ => alone other, rfl,
    by simp, ⟨_, getLast?_sent _ _, rfl, rfl⟩, fun other op' _ holds => sound.mutex other op' (.inl holds), ?_⟩
  · -- The APDU before it announced nothing, or somebody would wait.
    refine ⟨fun more => ?_, nofun⟩
    have waits := sound.announced last found more
    simp [alone] at waits
  · intro locks
    rcases at_ with ⟨-, unlocked⟩ | holds
    · simp [locks] at unlocked
    · exact (sound.mutex caller op (.inl holds)).2

/-- The goroutine that waits may send a GET RESPONSE. -/
theorem State.Sound.follow (sound : s.Sound) {caller : CallerID} {op : Operation} {own : CommandID} {response : Bytes}
    {collected : List Sourced} {answer : Option Bytes} (at_ : s.callers caller = .following op own response collected) :
    s.last = some own ∧
      Pending { s with sent := s.sent ++ [{ caller, apdu := .getResponse (sw2 response), answer }] }
        caller op own collected answer := by
  obtain ⟨last, owned, sent, found, from_, more⟩ := sound.waiting caller op own response collected at_
  refine ⟨last, ⟨isChain_sent.mpr ⟨sound.atomic.sent, fun last' found' => ?_⟩, sound.atomic.own⟩, ?_, last, owned,
    ⟨_, getLast?_sent _ _, rfl, rfl⟩, fun other op' _ holds => sound.mutex other op' (.inl holds),
    fun locks => (sound.mutex caller op (.inr ⟨locks, own, response, collected, at_⟩)).2⟩
  · cases found.symm.trans found'
    exact ⟨fun _ => ⟨from_.symm, rfl⟩, fun _ => ⟨from_.symm, more⟩⟩
  · -- Only the sender of the last APDU waits.
    intro other another
    cases stage : s.callers other with
    | idle | running | holding => rfl
    | following op' own' response' collected' =>
      obtain ⟨-, -, sent', found', from', -⟩ := sound.waiting other op' own' response' collected' stage
      cases found.symm.trans found'
      exact absurd (from'.symm.trans from_) another

/-- Where a command breaks no exchange, nobody waits. -/
theorem State.Sound.alone (sound : s.Sound) {caller : CallerID} {op : Operation} {request : Bytes}
    {answer : Option Bytes}
    (at_ : s.callers caller = .running op ∧ op.locks = false ∨ s.callers caller = .holding op)
    (calm : ¬ Breaks s (.transmit caller request answer)) (other : CallerID) : (s.callers other).waits = false := by
  by_contra waits
  rw [Bool.not_eq_false] at waits
  obtain ⟨op', own, response, collected, stage⟩ := Stage.following_of_waits waits
  obtain ⟨-, -, sent, found, rfl, -⟩ := sound.waiting other op' own response collected stage
  -- The one that waits is another goroutine.
  have another : sent.caller ≠ caller := by
    rintro rfl
    rcases at_ with ⟨running, -⟩ | holds
    · simp [running] at stage
    · simp [holds] at stage
  -- Both take the mutex, which only one of them can hold.
  have both : ((s.callers sent.caller).unlocked || (s.callers caller).unlocked) = false := by
    by_contra either
    rw [Bool.not_eq_false] at either
    exact calm ⟨sent, List.mem_of_getLast? found, another, waits, either⟩
  rw [Bool.or_eq_false_iff] at both
  have held := (sound.mutex sent.caller op' (.inr ⟨by simpa [stage, Stage.unlocked] using both.1, own, response,
    collected, stage⟩)).2
  rcases at_ with ⟨running, unlocked⟩ | holds
  · simp [running, Stage.unlocked, unlocked] at both
  · rw [(sound.mutex caller op (.inl holds)).2] at held
    exact another (Option.some.inj held).symm

/-- Every step that breaks no exchange keeps all well. -/
theorem State.Sound.step (sound : s.Sound) {e : Event} (calm : ¬ Breaks s e) (stepped : s.step e = some s') :
    s'.Sound := by
  cases State.moves stepped with
  | begin_ at_ => exact sound.enter (by simp [at_, Stage.waits]) rfl (by simp)
  | lock at_ locks free => exact sound.lock at_ locks free
  | transmit at_ received => exact (sound.transmit at_ (sound.alone at_ calm)).received rfl received
  | follow at_ received =>
    obtain ⟨last, pending⟩ := sound.follow at_
    exact pending.received (by rw [last]; rfl) received
  | end_ at_ => exact sound.enter (by simp [at_, Stage.waits]) rfl (by simp)

/-! Broken exchanges. -/

/-- Goroutines may move without sending an APDU. -/
theorem State.Trailed.enter (trailed : s.Trailed) {caller : CallerID} {stage : Stage} (still : stage.waits = false) :
    (s.enter caller stage).Trailed := by
  intro other waits
  rw [State.callers_enter] at waits
  split at waits
  · simp [still] at waits
  · exact trailed other waits

/-- An APDU is the last one of its sender. -/
theorem State.Trailed.received (trailed : s.Trailed) {t : State} {caller : CallerID} {op : Operation} {own : CommandID}
    {collected : List Sourced} {source : CommandID} {answer : Option Bytes} {new : Sent}
    (received : Received t caller op own collected source answer s') (callers : t.callers = s.callers)
    (sent : t.sent = s.sent ++ [new]) (sender : new.caller = caller) (answer_ : new.answer = answer) : s'.Trailed := by
  -- The other goroutines have sent nothing since.
  have others (other : CallerID) (another : other ≠ caller) (waits : (s.callers other).waits = true) :
      ∃ before earlier after, s.sent ++ [new] = before ++ earlier :: after ∧
        earlier.caller = other ∧ earlier.more = true ∧ ∀ later ∈ after, later.caller ≠ other := by
    obtain ⟨before, earlier, after, split, from_, more, since⟩ := trailed other waits
    refine ⟨before, earlier, after ++ [new], by simp [split], from_, more, ?_⟩
    intro later member
    rcases List.mem_append.mp member with before | now
    · exact since later before
    · rw [List.mem_singleton] at now
      rw [now, sender]
      exact Ne.symm another
  -- Leaving the exchange leaves the others as they are.
  have left {returned : List Collected} : State.Trailed { t.leave caller op with returned } := by
    intro other waits
    have waits : ((t.enter caller (.running op)).callers other).waits = true := waits
    show ∃ before earlier after, t.sent = _ ∧ _
    rw [State.callers_enter, callers] at waits
    rw [sent]
    split at waits
    · simp [Stage.waits] at waits
    · rename_i another
      exact others other another waits
  cases received with
  -- Only data that were announced keep the goroutine waiting.
  | failed silent => exact left
  | done response answered silent => exact left
  | more response answered announces =>
    intro other waits
    show ∃ before earlier after, t.sent = _ ∧ _
    rw [State.callers_enter, callers] at waits
    rw [sent]
    split at waits
    · -- Its last APDU is the new one.
      rename_i same
      exact ⟨s.sent, new, [], rfl, sender.trans same.symm, by simp [Sent.more, answer_, answered, announces], by simp⟩
    · rename_i another
      exact others other another waits

/-- Every step keeps the trail of those who wait. -/
theorem State.Trailed.step (trailed : s.Trailed) {e : Event} (stepped : s.step e = some s') : s'.Trailed := by
  cases State.moves stepped with
  | begin_ at_ => exact trailed.enter rfl
  | lock at_ locks free => exact trailed.enter rfl
  | transmit at_ received => exact trailed.received received rfl rfl rfl rfl
  | follow at_ received => exact trailed.received received rfl rfl rfl rfl
  | end_ at_ => exact trailed.enter rfl

/-- The response to an APDU changes nothing about what was sent. -/
theorem Received.sent {t : State} {caller : CallerID} {op : Operation} {own : CommandID} {collected : List Sourced}
    {source : CommandID} {answer : Option Bytes} (received : Received t caller op own collected source answer s') :
    s'.sent = t.sent := by
  cases received with
  | failed | more | done => rfl

/-- A command between an announcement and its GET RESPONSE is no longer atomic. -/
theorem State.Trailed.not_atomic (trailed : s.Trailed) {e : Event} (breaks : Breaks s e) (stepped : s.step e = some s') :
    ¬ s'.Atomic := by
  intro atomic
  cases State.moves stepped with
  | begin_ | lock | follow | end_ => exact breaks
  | @transmit caller op request answer _ at_ received =>
    obtain ⟨seen, -, another, waits, -⟩ := breaks
    obtain ⟨before, earlier, after, split, from_, more, since⟩ := trailed seen.caller waits
    have chain := atomic.sent
    rw [received.sent, split] at chain
    -- The APDU after the announcement is that of another goroutine.
    cases after with
    | nil =>
      simp only [List.append_assoc, List.cons_append, List.nil_append, List.isChain_append_cons_cons] at chain
      exact another (from_.symm.trans (chain.2.1.1 more).1.symm)
    | cons later after =>
      simp only [List.append_assoc, List.cons_append, List.isChain_append_cons_cons] at chain
      exact since later (by simp) ((chain.2.1.1 more).1.trans from_)

/-! All runs. -/

/-- In every state, who waits has sent nothing since the announcement. -/
theorem exchanges_trailed {trace : List (State × Event)} (run : exchanges.Runs trace s) : s.Trailed :=
  Machine.Runs.stateInvariant (fun _ waits => by simp [exchanges, Stage.waits] at waits)
    (fun _ _ _ trailed stepped => trailed.step stepped) run

/--
The exchanges of a run are atomic in each of its states exactly if no step of it breaks one.

Operations that take the mutex need no care: their exchanges never overlap.
-/
theorem exchanges_atomic_iff {trace : List (State × Event)} (run : exchanges.Runs trace s) :
    exchanges.Throughout trace State.Atomic ↔ ∀ step ∈ trace, ¬ Breaks step.1 step.2 := by
  refine Machine.Runs.throughout_iff (Q := State.Sound) ?_ (fun _ sound => sound.atomic)
    (fun _ _ _ sound calm stepped => sound.step calm stepped)
    (fun _ _ _ _ earlier breaks stepped => (exchanges_trailed earlier).not_atomic breaks stepped) run
  exact ⟨⟨List.isChain_nil, by simp [exchanges]⟩, by simp [exchanges], by simp [exchanges], by simp [exchanges]⟩

/-- An envelope and a poll take turns, and a record is read between them. -/
def calmEvents : List Event :=
  [.begin_ 0 .envelope, .begin_ 1 .pollSTK, .lock 0, .transmit 0 [0x80, 0xC2] (some [0x61, 0x02]),
    .follow 0 (some [0xAA, 0xBB, 0x90, 0x00]), .begin_ 2 .readRecord, .transmit 2 [0x00, 0xB2] (some [0x61, 0x01]),
    .follow 2 (some [0x2A, 0x90, 0x00]), .lock 1, .transmit 1 [0x80, 0xF2] (some [0x90, 0x00])]

/-- Each of them collects the data of its own command. -/
theorem calmEvents_atomic : ∃ trace s, exchanges.Runs trace s ∧
    s.returned = [{ caller := 0, own := 0, data := [(0, 0xAA), (0, 0xBB)] },
      { caller := 2, own := 2, data := [(2, 0x2A)] }, { caller := 1, own := 4, data := [] }] ∧
    exchanges.Throughout trace State.Atomic := by
  have glance : (exchanges.runFrom exchanges.init calmEvents).map
      (fun run => (run.2.returned, decide (∀ step ∈ run.1, ¬ Breaks step.1 step.2))) =
      some ([{ caller := 0, own := 0, data := [(0, 0xAA), (0, 0xBB)] },
        { caller := 2, own := 2, data := [(2, 0x2A)] }, { caller := 1, own := 4, data := [] }], true) := by decide +kernel
  obtain ⟨trace, s, run, -, seen⟩ := Machine.exists_runs glance
  simp only [Prod.mk.injEq, decide_eq_true_eq] at seen
  exact ⟨trace, s, run, seen.1, (exchanges_atomic_iff run).mpr seen.2⟩

/-- A poll starts while a record that was announced has not been fetched. -/
def brokenEvents : List Event :=
  [.begin_ 0 .readRecord, .begin_ 1 .pollSTK, .transmit 0 [0x00, 0xB2] (some [0x61, 0x01]), .lock 1,
    .transmit 1 [0x80, 0xF2] (some [0x61, 0x01]), .follow 0 (some [0x55, 0x90, 0x00])]

/-- The read of the record returns data of the poll. -/
theorem brokenEvents_not_atomic : ¬ ∀ trace s, exchanges.Runs trace s → exchanges.Throughout trace State.Atomic := by
  intro all
  have glance : (exchanges.runFrom exchanges.init brokenEvents).map (fun run => run.2.returned) =
      some [{ caller := 0, own := 0, data := [(1, 0x55)] }] := by decide +kernel
  obtain ⟨trace, s, run, -, seen⟩ := Machine.exists_runs glance
  have atomic := all trace s run trace [] s (by simp) run
  have returned : ⟨0, 0, [(1, 0x55)]⟩ ∈ s.returned := by
    have seen : s.returned = _ := seen
    simp [seen]
  have own := atomic.own _ returned (1, 0x55) (by simp)
  simp at own

end Wwan.Sim.Exchange
