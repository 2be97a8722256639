import Wwan.Modem.SessionSlots

/-! Session IDs follow the contexts of the modem, as long as the modem does what it is asked. -/

namespace Wwan.Modem.Mbim.Slots

/-! What is owed, and what can go wrong. -/

/-- The ID that a connect or a session has reserved. -/
def Attempt.holds : Attempt → Option SessionID
  | .none | .failed => Option.none
  | .reserved id | .activated id | .rollback id => some id
  | .bearer b => if b.sessionClosed then Option.none else some b.id

/-- What the session IDs owe in every state. -/
structure State.Meets (s : State) (maximum : UInt32) : Prop where
  /-- Connects and sessions have reserved their IDs, and no ID is reserved by two of them. -/
  reserved : ∀ n id, (s.attempts n).holds = some id → s.slots.get id ≠ none
  distinct : ∀ n m id, (s.attempts n).holds = some id → (s.attempts m).holds = some id → n = m
  below : ∀ id, s.slots.get id ≠ none → id < maximum
  /-- No ID was handed out whose context was activating or activated. -/
  handed : ∀ id context, (id, context) ∈ s.handed → context.live = false
  /-- The ID of a closed bearer, or of one whose context is known not to be activated, is reserved by another or free. -/
  freed : ∀ n b, s.attempts n = .bearer b → b.closed = true ∨ b.told = true →
    s.slots.get b.id = none ∨ ∃ m, m ≠ n ∧ (s.attempts m).holds = some b.id

/--
A step that breaks the connection between an ID and its context.

An activation is not answered with success but leaves a live context, or the deactivation after it does; the modem says
that the context of a session is not activated; or a bearer is closed although its context was not deactivated.
-/
def breaks (s : State) : Event → Bool
  | .activated _ answered context => context.live && !(answered && context = .activated)
  | .rolledBack _ _ context => context.live
  | .watch n answer activated =>
    match s.attempts n with
    | .bearer b => (answer = .notActivated || (answer = .ok && !activated)) && !b.sessionClosed
    | _ => false
  | .deactivated _ answer _ => answer = .notActivated
  | .settle n =>
    match s.attempts n with
    | .bearer b =>
      match b.deciding with
      | some (.disconnect _, failed) => !(failed && b.connected) && !b.sessionClosed
      | some _ => !b.sessionClosed
      | none => false
    | _ => false
  | .connect _ _ _ _ | .ipConfiguration _ _ | .network _ _ | .disconnect _ _ => false

/-- What holds of a bearer between the steps. -/
structure Bearer.Sound (b : Bearer) : Prop where
  /-- A session that is not closed is connected, as far as it knows, and so is its bearer. -/
  open_ : b.sessionClosed = false → b.closed = false ∧ b.told = false ∧ b.connected = true
  busy : b.deactivating ≠ none → b.sessionClosed = false
  disconnected : ∀ caller, b.deciding = some (caller, false) → b.sessionClosed = true

/-- What holds of the bearer of an attempt, if it is one. -/
def Attempt.Sound (attempt : Attempt) : Prop := ∀ b, attempt = .bearer b → b.Sound

/-- What holds between the steps as long as none breaks the connection. -/
structure State.Sound (s : State) (maximum : UInt32) : Prop where
  reserved : ∀ id, s.slots.get id ≠ none ↔ ∃ n, (s.attempts n).holds = some id
  distinct : ∀ n m id, (s.attempts n).holds = some id → (s.attempts m).holds = some id → n = m
  below : ∀ id, s.slots.get id ≠ none → id < maximum
  handed : ∀ id context, (id, context) ∈ s.handed → context.live = false
  live : ∀ id, (s.contexts id).live = true → ∃ n, (s.attempts n).holds = some id
  bearers : ∀ n, (s.attempts n).Sound

variable {s s' : State} {maximum : UInt32}

/-- What holds between the steps is more than what is owed. -/
theorem State.Sound.meets (sound : s.Sound maximum) : s.Meets maximum := by
  refine ⟨fun n id holds => (sound.reserved id).mpr ⟨n, holds⟩, sound.distinct, sound.below, sound.handed, ?_⟩
  intro n b at_ over_
  -- The session is closed, so whoever has reserved its ID is another.
  have closed : b.sessionClosed = true := by
    by_contra open_
    rw [Bool.not_eq_true] at open_
    obtain ⟨stays, untold, -⟩ := (sound.bearers n b at_).open_ open_
    simp [stays, untold] at over_
  by_cases free : s.slots.get b.id = none
  · exact .inl free
  · obtain ⟨m, holds⟩ := (sound.reserved b.id).mp free
    refine .inr ⟨m, ?_, holds⟩
    rintro rfl
    simp [at_, Attempt.holds, closed] at holds

/-! One step. -/

/-- A watch keeps a bearer sound, unless it learns that the context of an open session is not activated. -/
theorem Bearer.Sound.queryConnect {b : Bearer} (fine : b.Sound) {answer : Answer} {activated : Bool}
    (calm : (answer = .notActivated ∨ answer = .ok ∧ activated = false) → b.sessionClosed = true)
    (free : b.deactivating = none ∨ ¬ answer = .ok) : (b.queryConnect answer activated).Sound := by
  cases answer with
  | failed => exact fine
  | notActivated =>
    -- The session is closed, so it does not matter what the modem says about the context.
    have closed := calm (.inl rfl)
    exact ⟨fun open_ => absurd (closed.symm.trans open_) (by simp), fine.busy, fine.disconnected⟩
  | ok =>
    have idle : b.deactivating = none := by simpa using free
    refine ⟨fun open_ => ?_, by simp [Bearer.queryConnect, idle], fine.disconnected⟩
    have open_ : b.sessionClosed = false := open_
    obtain ⟨stays, untold, -⟩ := fine.open_ open_
    -- The context of an open session is still activated, which the session is told again.
    have still : activated = true := by
      by_contra gone
      simpa [open_] using calm (.inr ⟨rfl, by simpa using gone⟩)
    exact ⟨stays, by simp [Bearer.queryConnect, untold, still], still⟩

/-- Moving one attempt leaves its own new stage and the old stages of the others. -/
theorem State.attempts_enter (s : State) (n m : ConnectID) (attempt : Attempt) :
    (s.enter n attempt).attempts m = if m = n then attempt else s.attempts m := by
  simp [State.enter, Function.update_apply]

/-- The context of an ID after a change of that of another. -/
theorem State.contexts_setContext (s : State) (id other : SessionID) (context : ActivationState) :
    (s.setContext id context).contexts other = if other = id then context else s.contexts other := by
  simp [State.setContext, Function.update_apply]

/-- An attempt may move on with what it holds, where only its own context becomes live. -/
theorem State.Sound.keep (sound : s.Sound maximum) {n : ConnectID} {attempt : Attempt} {id : SessionID}
    {context : ActivationState} (same : attempt.holds = (s.attempts n).holds) (fine : attempt.Sound)
    (live : context.live = true → (s.contexts id).live = true ∨ attempt.holds = some id) :
    ((s.setContext id context).enter n attempt).Sound maximum := by
  -- Who holds which ID is as before.
  have holds (m : ConnectID) :
      (((s.setContext id context).enter n attempt).attempts m).holds = (s.attempts m).holds := by
    rw [State.attempts_enter]
    split
    · rename_i this
      rw [this, same]
    · rfl
  refine ⟨?_, ?_, sound.below, sound.handed, ?_, ?_⟩
  · intro id
    simp only [holds]
    exact sound.reserved id
  · intro m k id
    simp only [holds]
    exact sound.distinct m k id
  · intro other alive
    simp only [holds]
    -- The one context that may have become live is that of an ID held before or by this attempt.
    have alive : ((s.setContext id context).contexts other).live = true := alive
    rw [State.contexts_setContext] at alive
    split at alive
    · rename_i this
      rw [this]
      rcases live alive with before | own
      · exact sound.live id before
      · exact ⟨n, same ▸ own⟩
    · exact sound.live other alive
  · intro m b at_
    simp only [State.attempts_enter] at at_
    split at at_
    · exact fine b at_
    · exact sound.bearers m b at_

/-- An attempt may release what it holds, where its own context is not live any more. -/
theorem State.Sound.free (sound : s.Sound maximum) {n : ConnectID} {attempt : Attempt} {id : SessionID}
    {context : ActivationState} (held : (s.attempts n).holds = some id) (none_ : attempt.holds = none)
    (fine : attempt.Sound) (dead : context.live = false) :
    (((s.setContext id context).enter n attempt).releaseSession id).Sound maximum := by
  -- The others hold what they held, which is not this ID.
  have holds (m : ConnectID) (other : SessionID) :
      (((s.setContext id context).enter n attempt).attempts m).holds = some other ↔
        (s.attempts m).holds = some other ∧ other ≠ id := by
    rw [State.attempts_enter]
    split
    · rename_i this
      rw [this, held, none_]
      simp only [reduceCtorEq, Option.some.injEq, ne_eq, false_iff, not_and, not_not]
      exact Eq.symm
    · rename_i another
      refine ⟨fun own => ⟨own, ?_⟩, And.left⟩
      rintro rfl
      exact another (sound.distinct m n other own held)
  refine ⟨?_, ?_, ?_, sound.handed, ?_, ?_⟩
  · -- The slot is deleted, and nobody holds its ID any more.
    intro other
    show (s.slots.delete id).get other ≠ none ↔
      ∃ m, (((s.setContext id context).enter n attempt).attempts m).holds = some other
    simp only [GoMap.get_delete, holds]
    by_cases same : other = id
    · simp [same]
    · simpa [same] using sound.reserved other
  · -- Two holders of one ID would have been two before.
    intro m k other own another
    exact sound.distinct m k other ((holds m other).mp own).1 ((holds k other).mp another).1
  · intro other
    show (s.slots.delete id).get other ≠ none → other < maximum
    rw [GoMap.get_delete]
    by_cases same : other = id
    · simp [same]
    · simpa [same] using sound.below other
  · -- The context of the freed ID is not live, and every other has its holder still.
    intro other alive
    have alive : ((s.setContext id context).contexts other).live = true := alive
    rw [State.contexts_setContext] at alive
    split at alive
    · simp [dead] at alive
    · rename_i another
      obtain ⟨m, own⟩ := sound.live other alive
      exact ⟨m, (holds m other).mpr ⟨own, another⟩⟩
  · -- The other bearers are as they were.
    intro m b at_
    have at_ : ((s.setContext id context).enter n attempt).attempts m = .bearer b := at_
    rw [State.attempts_enter] at at_
    split at at_
    · exact fine b at_
    · exact sound.bearers m b at_

/-- An attempt that holds nothing may reserve a free ID. -/
theorem State.Sound.take (sound : s.Sound maximum) {n : ConnectID} {id : SessionID}
    (nothing : (s.attempts n).holds = none) (unreserved : s.slots.get id = none) (below : id < maximum) :
    State.Sound { s.enter n (.reserved id) with
      slots := s.slots.set id (), handed := s.handed ++ [(id, s.contexts id)] } maximum := by
  -- A free ID is held by nobody.
  have unheld (m : ConnectID) : (s.attempts m).holds ≠ some id :=
    fun own => (sound.reserved id).mpr ⟨m, own⟩ unreserved
  -- The attempt holds the ID, and the others hold what they held.
  have holds (m : ConnectID) (other : SessionID) :
      ((s.enter n (.reserved id)).attempts m).holds = some other ↔
        (s.attempts m).holds = some other ∨ m = n ∧ other = id := by
    rw [State.attempts_enter]
    split
    · rename_i this
      rw [this, nothing]
      simp only [Attempt.holds, Option.some.injEq, reduceCtorEq, true_and, false_or]
      exact eq_comm
    · rename_i another
      simp [another]
  refine ⟨?_, ?_, ?_, ?_, ?_, ?_⟩
  · -- The slot is set for the ID that is held now.
    intro other
    simp only [GoMap.get_set, holds]
    by_cases same : other = id
    · simp only [same, if_true, ne_eq, reduceCtorEq, not_false_eq_true, true_iff]
      exact ⟨n, .inr ⟨rfl, trivial⟩⟩
    · simpa [same] using sound.reserved other
  · -- Nobody else holds the new ID.
    intro m k other own another
    rcases (holds m other).mp own with before | ⟨own, same⟩
    · rcases (holds k other).mp another with before' | ⟨-, same⟩
      · exact sound.distinct m k other before before'
      · exact absurd (same ▸ before) (unheld m)
    · rcases (holds k other).mp another with before' | ⟨another, -⟩
      · exact absurd (same ▸ before') (unheld k)
      · exact own.trans another.symm
  · intro other
    simp only [GoMap.get_set]
    by_cases same : other = id
    · simp [same, below]
    · simpa [same] using sound.below other
  · intro other context member
    rcases List.mem_append.mp member with before | now
    · exact sound.handed other context before
    · -- A live context would have kept its ID reserved.
      simp only [List.mem_singleton, Prod.mk.injEq] at now
      obtain ⟨rfl, rfl⟩ := now
      by_contra alive
      rw [Bool.not_eq_false] at alive
      obtain ⟨m, own⟩ := sound.live other alive
      exact unheld m own
  · -- The contexts are as before, with their holders.
    intro other alive
    obtain ⟨m, own⟩ := sound.live other alive
    exact ⟨m, (holds m other).mpr (.inl own)⟩
  · intro m b at_
    simp only [State.attempts_enter] at at_
    split at at_
    · simp at at_
    · exact sound.bearers m b at_

/-- Without a change of a context, only that an attempt holds what it held is to be shown. -/
theorem State.Sound.enter (sound : s.Sound maximum) {n : ConnectID} {attempt : Attempt}
    (same : attempt.holds = (s.attempts n).holds) (fine : attempt.Sound) : (s.enter n attempt).Sound maximum := by
  have unchanged : s.setContext 0 (s.contexts 0) = s := by simp [State.setContext]
  rw [← unchanged]
  exact sound.keep same fine .inl

/-- A reservation is one of a free ID below the maximum. -/
theorem reserveSessionID_spec {slots : GoMap SessionID Unit} {requested : Option SessionID} {id : SessionID}
    (reserved : reserveSessionID slots maximum requested = some id) : slots.get id = none ∧ id < maximum := by
  unfold reserveSessionID at reserved
  cases requested with
  -- An ID that was asked for is checked against the maximum and the slots.
  | some wanted =>
    simp only at reserved
    split at reserved
    · simp at reserved
    · split at reserved
      · simp at reserved
      · rename_i inside free
        cases reserved
        exact ⟨by simpa using free, UInt32.not_le.mp inside⟩
  | none =>
    -- Otherwise it is the first free one in the range.
    have free := List.find?_some reserved
    have member := List.mem_of_find?_eq_some reserved
    obtain ⟨i, inside, rfl⟩ := List.mem_map.mp member
    rw [List.mem_range] at inside
    refine ⟨by simpa using free, UInt32.lt_iff_toNat_lt.mpr ?_⟩
    -- The numbers of the range fit into an ID.
    have fits : i < 2 ^ 32 := lt_trans inside maximum.toNat_lt
    rwa [UInt32.toNat_ofNat_of_lt' fits]

/-- A connect reserves a free ID, or returns an error. -/
theorem State.Sound.reserveSession (sound : s.Sound maximum) {n : ConnectID} (new : s.attempts n = .none)
    (requested : Option SessionID) (stale : SessionID → StaleAnswers) :
    (s.reserveSession maximum n requested stale).Sound maximum := by
  unfold State.reserveSession
  split
  · have prepared : State.Sound { s with sessionsPrepared := true } maximum :=
      ⟨sound.reserved, sound.distinct, sound.below, sound.handed, sound.live, sound.bearers⟩
    dsimp only
    split
    · exact prepared.enter (by simp [new, Attempt.holds]) (by simp [Attempt.Sound])
    · rename_i id reserved
      obtain ⟨free, below⟩ := reserveSessionID_spec reserved
      exact prepared.take (by simp [new, Attempt.holds]) free below
  · exact sound.enter (by simp [new, Attempt.holds]) (by simp [Attempt.Sound])

/-- A session that is being disconnected is closed and frees its ID, or stays as it is. -/
theorem State.Sound.answerDisconnect (sound : s.Sound maximum) {n : ConnectID} {b : Bearer} {caller : Caller}
    {answer : Answer} {context : ActivationState} (at_ : s.attempts n = .bearer b)
    (busy : b.deactivating = some caller) (known : answer ≠ .notActivated)
    (modem : ¬ (context.live && (answer ≠ .failed || !(s.contexts b.id).live)) = true) :
    ((s.setContext b.id context).answerDisconnect n b caller answer).Sound maximum := by
  have fine := sound.bearers n b at_
  have open_ : b.sessionClosed = false := fine.busy (by simp [busy])
  -- A session that is open holds its ID.
  have held : (s.attempts n).holds = some b.id := by simp [at_, Attempt.holds, open_]
  cases answer with
  | notActivated => exact absurd rfl known
  | ok =>
    -- The session is closed, and its ID is freed with the context deactivated.
    refine sound.free held (by simp [Attempt.holds]) ?_ (by simpa using modem)
    rintro b' same
    cases same
    exact ⟨by simp, by simp, by simp⟩
  | failed =>
    -- The session stays open and keeps its ID.
    refine sound.keep (by simp [at_, Attempt.holds]) ?_ fun alive => .inl (by simpa [alive] using modem)
    rintro b' same
    cases same
    refine ⟨fun _ => fine.open_ open_, by simp, ?_⟩
    intro other decides
    simp only [ne_eq, reduceCtorEq, not_false_eq_true, decide_true] at decides
    split at decides
    · exact fine.disconnected other decides
    · simp at decides

/-- A call may take the locks that it needs, or return because there is nothing to do. -/
theorem State.Sound.disconnect (sound : s.Sound maximum) {n : ConnectID} {caller : Caller}
    (stepped : s.step maximum (.disconnect n caller) = some s') : s'.Sound maximum := by
  rw [State.step] at stepped
  split at stepped
  · rename_i b at_
    -- The guard of the lock lets the call go on.
    have fine := sound.bearers n b at_
    split at stepped
    · simp at stepped
    · -- Counting a call of `Close` down changes nothing that matters.
      have counted {b' : Bearer} (same : b' = if caller = .closeOwned then { b with closing := b.closing - 1 } else b) :
          b'.Sound ∧ b'.sessionClosed = b.sessionClosed ∧ b'.id = b.id := by
        split at same
        · subst same
          exact ⟨⟨fine.open_, fine.busy, fine.disconnected⟩, rfl, rfl⟩
        · subst same
          exact ⟨fine, rfl, rfl⟩
      generalize current : (if caller = .closeOwned then { b with closing := b.closing - 1 } else b) = b' at stepped
      dsimp only at stepped
      obtain ⟨fine', closed, id⟩ := counted current.symm
      -- A bearer whose session and ID stay holds what it held.
      have held (other : Bearer) (sameClosed : other.sessionClosed = b'.sessionClosed) (sameID : other.id = b'.id) :
          (Attempt.bearer other).holds = (s.attempts n).holds := by
        simp [at_, Attempt.holds, sameClosed, sameID, closed, id]
      split at stepped
      · -- The bearer is closed already.
        rw [← Option.some.inj stepped]
        exact sound.enter (held b' rfl rfl) (by rintro _ ⟨⟩; exact fine')
      · split at stepped
        · -- The session is over, and at most the bearer is left to be closed.
          rename_i over_
          rw [← Option.some.inj stepped]
          split
          · exact sound.enter (held b' rfl rfl) (by rintro _ ⟨⟩; exact fine')
          · refine sound.enter (held _ rfl rfl) ?_
            rintro _ ⟨⟩
            exact ⟨fine'.open_, fine'.busy, fun _ _ => over_⟩
        · -- The session is open, and the call goes on to deactivate.
          rename_i open_
          rw [← Option.some.inj stepped]
          refine sound.enter (held _ rfl rfl) ?_
          rintro _ ⟨⟩
          exact ⟨fine'.open_, fun _ => by simpa using open_, fine'.disconnected⟩
  · simp at stepped

/-- A call may go on with the lock of the bearer, unless it closes the bearer of a session that is not closed. -/
theorem State.Sound.settle (sound : s.Sound maximum) {n : ConnectID} (calm : ¬ breaks s (.settle n) = true)
    (stepped : s.step maximum (.settle n) = some s') : s'.Sound maximum := by
  rw [State.step] at stepped
  split at stepped
  · rename_i b at_
    have fine := sound.bearers n b at_
    split at stepped
    · rename_i close failed decides
      dsimp only at stepped
      -- `disconnect` leaves a bearer alone that is connected still after a failure.
      by_cases stays : (failed && b.connected) = true
      · rw [if_pos stays] at stepped
        rw [← Option.some.inj stepped]
        refine sound.enter (by simp [at_, Attempt.holds]) ?_
        rintro _ ⟨⟩
        exact ⟨fine.open_, fine.busy, by simp⟩
      · rw [if_neg stays] at stepped
        -- Closing the bearer of an open session would break.
        have over_ : b.sessionClosed = true := by
          by_contra open_
          rw [Bool.not_eq_true] at open_
          exact calm (by simp only [breaks, at_, decides, open_, Bool.not_eq_true _ ▸ stays]; rfl)
        rw [← Option.some.inj stepped]
        refine sound.enter (by simp [at_, Attempt.holds]) ?_
        rintro _ ⟨⟩
        exact ⟨by simp [over_], fine.busy, by simp⟩
    · -- The other callers close the bearer whatever has happened.
      rename_i caller failed other decides
      rw [← Option.some.inj stepped]
      have over_ : b.sessionClosed = true := by
        by_contra open_
        rw [Bool.not_eq_true] at open_
        refine calm ?_
        cases caller with
        | disconnect close => exact absurd rfl (other close)
        | closeOwned | session => simp [breaks, at_, decides, open_]
      refine sound.enter (by simp [at_, Attempt.holds]) ?_
      rintro _ ⟨⟩
      exact ⟨by simp [over_], fine.busy, by simp⟩
    · simp at stepped
  · simp at stepped

/-- Every step that breaks nothing keeps all well. -/
theorem State.Sound.step (sound : s.Sound maximum) {e : Event} (calm : ¬ breaks s e = true)
    (stepped : s.step maximum e = some s') : s'.Sound maximum := by
  cases e with
  | connect n requested caps stale =>
    -- With capabilities the attempt goes on to reserve an ID, and without them it ends.
    rw [State.step] at stepped
    split at stepped
    · rename_i new
      cases caps with
      | true =>
        rw [← Option.some.inj stepped]
        exact sound.reserveSession new requested stale
      | false =>
        rw [← Option.some.inj stepped]
        exact sound.enter (by simp [new, Attempt.holds]) (by simp [Attempt.Sound])
    · simp at stepped
  | activated n answered context =>
    rw [State.step] at stepped
    split at stepped
    · rename_i id at_
      rw [← Option.some.inj stepped]
      -- The modem has answered, and the ID stays held; or it has not, and the ID is freed.
      split
      · exact sound.keep (by simp [at_, Attempt.holds]) (by simp [Attempt.Sound]) fun _ => .inr rfl
      · rename_i unanswered
        refine sound.free (by simp [at_, Attempt.holds]) rfl (by simp [Attempt.Sound]) ?_
        simpa [breaks, unanswered] using calm
    · simp at stepped
  | ipConfiguration n answer =>
    rw [State.step] at stepped
    split at stepped
    · rename_i id at_
      rw [← Option.some.inj stepped]
      -- The configuration has come and makes the bearer, or the session is rolled back.
      refine sound.enter ?_ ?_
      · rw [at_]
        split
        · rfl
        · rfl
      · intro b same
        split at same
        · cases same
          exact ⟨by simp, by simp, by simp⟩
        · simp at same
    · simp at stepped
  | rolledBack n answer context =>
    rw [State.step] at stepped
    split at stepped
    · rename_i id at_
      -- Rolling back frees the ID.
      split at stepped
      · simp at stepped
      · rw [← Option.some.inj stepped]
        refine sound.free (by simp [at_, Attempt.holds]) rfl (by simp [Attempt.Sound]) ?_
        simpa [breaks] using calm
    · simp at stepped
  | network id context =>
    rw [State.step] at stepped
    split at stepped
    · rename_i changes
      rw [← Option.some.inj stepped]
      -- The network changes contexts that are live already.
      refine ⟨sound.reserved, sound.distinct, sound.below, sound.handed, ?_, sound.bearers⟩
      intro other alive
      rw [State.contexts_setContext] at alive
      split at alive
      · rename_i same
        rw [same]
        exact sound.live id (by simp at changes; exact changes.1)
      · exact sound.live other alive
    · simp at stepped
  | watch n answer activated =>
    rw [State.step] at stepped
    split at stepped
    · rename_i b at_
      -- What a watch learns may close the bearer's side of the session only.
      have fine := sound.bearers n b at_
      split at stepped
      · rename_i free
        rw [← Option.some.inj stepped]
        refine sound.enter (by rw [at_]; cases answer <;> rfl) ?_
        intro b' same
        cases same
        exact fine.queryConnect (by simpa [breaks, at_] using calm) (by simpa using free)
      · simp at stepped
    · simp at stepped
  | disconnect n caller => exact sound.disconnect stepped
  | deactivated n answer context =>
    rw [State.step] at stepped
    split at stepped
    · rename_i b at_
      split at stepped
      · rename_i caller busy
        -- A context is reported deactivated only where the answer says so.
        split at stepped
        · simp at stepped
        · rename_i modem
          rw [← Option.some.inj stepped]
          exact sound.answerDisconnect at_ busy (by simpa [breaks] using calm) modem
      · simp at stepped
    · simp at stepped
  | settle n => exact sound.settle calm stepped

/-! All runs. -/

/-- In every state that a run without a breaking step reaches, the session IDs do what they owe. -/
theorem sessionSlots_meet (maxSessions : UInt32) {trace : List (State × Event)}
    (run : (sessionSlots maxSessions).Runs trace s) (calm : ∀ step ∈ trace, ¬ breaks step.1 step.2 = true) :
    s.Meets (sessionMaximum maxSessions) := by
  refine (Machine.Runs.invariantUnless (P := fun s => State.Sound s (sessionMaximum maxSessions)) ?_
    (fun _ _ _ sound calm stepped => sound.step calm stepped) run calm).meets
  -- At the start nothing is reserved, and no context is live.
  have nothing (id : SessionID) : ¬ ∃ n : ConnectID, (State.attempts {} n).holds = some id := by
    rintro ⟨n, holds⟩
    simp [Attempt.holds] at holds
  refine ⟨fun id => ?_, fun n m id holds => absurd ⟨n, holds⟩ (nothing id), ?_, ?_, ?_, ?_⟩
  · simpa [sessionSlots] using nothing id
  all_goals simp [sessionSlots, ActivationState.live, Attempt.Sound]

/-- A connect fails, two succeed, one of them is disconnected, and its ID is handed out again. -/
def calmEvents : List Event :=
  [.connect 0 none true fun _ => ⟨.notActivated, .unknown, .ok⟩, .activated 0 false .deactivated,
    .connect 1 none true fun _ => ⟨.failed, .unknown, .failed⟩, .activated 1 true .activated,
    .connect 2 none true fun _ => ⟨.failed, .unknown, .failed⟩, .ipConfiguration 1 .ok, .activated 2 true .activated,
    .ipConfiguration 2 .ok, .disconnect 1 (.disconnect true), .deactivated 1 .failed .activated, .settle 1,
    .disconnect 1 .closeOwned, .deactivated 1 .ok .deactivated, .settle 1,
    .connect 3 (some 0) true fun _ => ⟨.failed, .unknown, .failed⟩]

/-- The IDs are those of the second bearer and of the last connect. -/
theorem calmEvents_meet : ∃ trace s, (sessionSlots 2).Runs trace s ∧ s.slots.keys = [0, 1] ∧
    s.handed.map Prod.fst = [0, 0, 1, 0] ∧ s.Meets (sessionMaximum 2) := by
  have glance : ((sessionSlots 2).runFrom (sessionSlots 2).init calmEvents).map
      (fun run => (run.2.slots.keys, run.2.handed.map Prod.fst, run.1.all fun step => !breaks step.1 step.2)) =
      some ([0, 1], [0, 0, 1, 0], true) := by decide +kernel
  obtain ⟨trace, s, run, -, seen⟩ := Machine.exists_runs glance
  simp only [Prod.mk.injEq, List.all_eq_true, Bool.not_eq_true'] at seen
  exact ⟨trace, s, run, seen.1, seen.2.1,
    sessionSlots_meet 2 run fun step member => Bool.not_eq_true _ ▸ seen.2.2 step member⟩

/-- A request to activate is answered while the context is still being activated, and another connect follows. -/
def hastyEvents : List Event :=
  [.connect 0 none true fun _ => ⟨.notActivated, .unknown, .ok⟩, .activated 0 true .activating,
    .connect 1 none true fun _ => ⟨.notActivated, .unknown, .ok⟩]

/-- The other connect is handed the ID of the context that is being activated. -/
theorem hastyEvents_not_meet : ¬ ∀ trace s, (sessionSlots 1).Runs trace s → s.Meets (sessionMaximum 1) := by
  intro all
  have glance : ((sessionSlots 1).runFrom (sessionSlots 1).init hastyEvents).map (fun run => run.2.handed) =
      some [(0, .deactivated), (0, .activating)] := by decide +kernel
  obtain ⟨trace, s, run, -, seen⟩ := Machine.exists_runs glance
  have meets : s.Meets (sessionMaximum 1) := all trace s run
  have handed : (0, .activating) ∈ s.handed := by
    have seen : s.handed = _ := seen
    simp [seen]
  exact absurd (meets.handed 0 .activating handed) (by decide)

end Wwan.Modem.Mbim.Slots
