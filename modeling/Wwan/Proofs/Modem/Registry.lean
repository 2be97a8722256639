import Wwan.Modem.Registry

/-! What the steps of a modem do to its goroutines, its locks and its bearers. -/

namespace Wwan.Modem

/-- The task has the modem's lock. -/
def Task.locksModem : Task → Bool
  | .registering _ | .clearing => true
  | .working w => w.stage = .removing
  | _ => false

/-- How far the method of a bearer is that the task runs. -/
@[grind] def Task.stage? : Task → Option BearerStage
  | .working w => some w.stage
  | _ => none

/-- The session that a `Connect` has at hand. -/
def Task.session? : Task → Option SessionRef
  | .connected session | .registering session | .rejecting session => some session
  | _ => none

/-- The task is one of `Modem.Close`. -/
def Task.closes : Task → Bool
  | .closing | .clearing | .closingBackend | .closeReturned => true
  | .working w => w.closer
  | _ => false

/-- The task is about to close a bearer on behalf of `Modem.Close`. -/
def Task.owes (id : Nat) : Task → Prop
  | .working w => w.closer = true ∧
      (w.id = id ∧ (w.stage = .entering ∨ w.stage = .entered) ∨ (BearerCall.closeOwned, id) ∈ w.rest)
  | _ => False

namespace Registry

attribute [grind =] setTask_tasks setTask_closed setTask_bearers setTask_nextID setTask_bearersChanged setTask_mu
  setTask_closeOnce setTask_objects setTask_sessions setTask_calls setBearer_objects setBearer_closed
  setBearer_bearers setBearer_nextID setBearer_bearersChanged setBearer_mu setBearer_closeOnce setBearer_tasks
  setBearer_sessions setBearer_calls notifyBearersChangedLocked_closed notifyBearersChangedLocked_bearers
  notifyBearersChangedLocked_nextID notifyBearersChangedLocked_mu notifyBearersChangedLocked_closeOnce
  notifyBearersChangedLocked_sessions notifyBearersChangedLocked_calls notifyBearersChangedLocked_objects
  notifyBearersChangedLocked_tasks notifyBearersChangedLocked_bearersChanged

/-- Everything that a step can do. -/
inductive Moves (s : Registry) : Registry → Prop where
  | start (t : TaskID) (task : Task) (idle : s.tasks t = .idle)
      (first : task = .returned ∨ task = .connecting ∧ s.closed = false ∨ task = .listing) : Moves s (s.setTask t task)
  | call (t : TaskID) (call : BearerCall) (id : Nat) (b : Bearer) (idle : s.tasks t = .idle)
      (there : s.objects id = some b) (method : call ≠ .closeOwned) : Moves s (s.setTask t (.working { call, id }))
  | close (t : TaskID) (idle : s.tasks t = .idle) (once : s.closeOnce = false) :
      Moves s ({ s with closeOnce := true }.setTask t .closing)
  | connected (t : TaskID) (stage : s.tasks t = .connecting) :
      Moves s ({ s with sessions := s.sessions + 1 }.setTask t (.connected s.sessions))
  | refused (t : TaskID) (stage : s.tasks t = .connecting) : Moves s (s.setTask t .returned)
  | listed (t : TaskID) (order : List Nat) (stage : s.tasks t = .listing) (order_perm : order.Perm s.bearers) :
      Moves s (s.setTask t (.ofCalls false (order.map fun id => (.disconnect, id))))
  | cleared (t : TaskID) (order : List Nat) (stage : s.tasks t = .clearing) (order_perm : order.Perm s.bearers) :
      Moves s ({ s with closed := true, bearers := [], mu := none }.setTask t
        (.ofCalls true (order.map fun id => (.closeOwned, id))))
  | kept (t : TaskID) (w : BearerWork) (b : Bearer) (stage : s.tasks t = .working w) (there : s.objects w.id = some b)
      (entered : w.stage = .entered) (live : b.closed = false) (method : w.call ≠ .closeOwned) :
      Moves s ({ s with calls := s.calls ++ [(b.session, SessionCall.disconnect)] }.setTask t
        (.working { w with stage := .leaving, failed := true }))
  | given (t : TaskID) (w : BearerWork) (b : Bearer) (failed : Bool) (call : SessionCall)
      (stage : s.tasks t = .working w) (there : s.objects w.id = some b) (entered : w.stage = .entered)
      (live : b.closed = false) :
      Moves s (({ s with calls := s.calls ++ [(b.session, call)] }.setBearer w.id { b with closed := true }).setTask t
        (.working { w with stage := .closing, failed }))
  | lockConnect (t : TaskID) (session : SessionRef) (stage : s.tasks t = .connected session) (free : s.mu = none) :
      Moves s ({ s with mu := some t }.setTask t (.registering session))
  | registered (t : TaskID) (session : SessionRef) (stage : s.tasks t = .registering session)
      (isOpen : s.closed = false) :
      Moves s ((({ s with mu := none, nextID := s.nextID + 1, bearers := s.bearers ++ [s.nextID + 1] }
        ).notifyBearersChangedLocked.setBearer (s.nextID + 1) { session }).setTask t .returned)
  | turnedAway (t : TaskID) (session : SessionRef) (stage : s.tasks t = .registering session)
      (closed : s.closed = true) : Moves s ({ s with mu := none }.setTask t (.rejecting session))
  | rejected (t : TaskID) (session : SessionRef) (stage : s.tasks t = .rejecting session) :
      Moves s ({ s with calls := s.calls ++ [(session, SessionCall.close)] }.setTask t .returned)
  | lockClose (t : TaskID) (stage : s.tasks t = .closing) (free : s.mu = none) :
      Moves s ({ s with mu := some t }.setTask t .clearing)
  | closeReturned (t : TaskID) (stage : s.tasks t = .closingBackend) : Moves s (s.setTask t .closeReturned)
  | enter (t : TaskID) (w : BearerWork) (b : Bearer) (stage : s.tasks t = .working w) (there : s.objects w.id = some b)
      (entering : w.stage = .entering) (free : b.mu = none) :
      Moves s ((s.setBearer w.id { b with mu := some t }).setTask t
        (.working { w with stage := .entered, failed := false }))
  | alreadyClosed (t : TaskID) (w : BearerWork) (b : Bearer) (stage : s.tasks t = .working w)
      (there : s.objects w.id = some b) (entered : w.stage = .entered) (closed : b.closed = true) :
      Moves s (s.setTask t (.working { w with stage := .leaving }))
  | closeDone (t : TaskID) (w : BearerWork) (b : Bearer) (stage : s.tasks t = .working w)
      (there : s.objects w.id = some b) (closing : w.stage = .closing) :
      Moves s ((s.setBearer w.id b.closeDone).setTask t (.working { w with stage := .marked }))
  | lockRemove (t : TaskID) (w : BearerWork) (stage : s.tasks t = .working w) (marked : w.stage = .marked)
      (free : s.mu = none) : Moves s ({ s with mu := some t }.setTask t (.working { w with stage := .removing }))
  | removed (t : TaskID) (w : BearerWork) (stage : s.tasks t = .working w) (removing : w.stage = .removing)
      (member : w.id ∈ s.bearers) :
      Moves s ({ s with mu := none, bearers := s.bearers.erase w.id }.notifyBearersChangedLocked.setTask t
        (.working { w with stage := .leaving }))
  | notThere (t : TaskID) (w : BearerWork) (stage : s.tasks t = .working w) (removing : w.stage = .removing)
      (absent : w.id ∉ s.bearers) : Moves s ({ s with mu := none }.setTask t (.working { w with stage := .leaving }))
  | leave (t : TaskID) (w : BearerWork) (b : Bearer) (stage : s.tasks t = .working w) (there : s.objects w.id = some b)
      (leaving : w.stage = .leaving) : Moves s ((s.setBearer w.id { b with mu := none }).setTask t w.next)

/-- A called method starts at its first step. -/
theorem moves_of_callMethod {s s' : Registry} {t : TaskID} {method : ModemCall} (idle : s.tasks t = .idle)
    (accepted : s.callMethod t method = some s') : s.Moves s' := by
  -- A method begins in its goroutine, and the methods of a bearer begin with one that exists.
  cases method with
  | connect =>
    cases accepted
    refine .start t _ idle ?_
    cases open? : s.closed <;> simp
  | disconnect id =>
    simp only [callMethod, Option.ite_none_right_eq_some, Option.some.injEq, Option.isSome_iff_exists] at accepted
    obtain ⟨⟨b, there⟩, rfl⟩ := accepted
    exact .call t .disconnect id b idle there (by simp)
  | closeBearer id =>
    simp only [callMethod, Option.ite_none_right_eq_some, Option.some.injEq, Option.isSome_iff_exists] at accepted
    obtain ⟨⟨b, there⟩, rfl⟩ := accepted
    exact .call t .close id b idle there (by simp)
  | disconnectAll =>
    cases accepted
    exact .start t .listing idle (by simp)
  -- Only the first call of `Close` goes past its `sync.Once`.
  | close =>
    simp only [callMethod, Option.ite_none_left_eq_some, Option.some.injEq, Bool.not_eq_true] at accepted
    obtain ⟨once, rfl⟩ := accepted
    exact .close t idle once

/-- The steps of a method of a bearer. -/
theorem moves_of_runWork {s s' : Registry} {t : TaskID} {w : BearerWork} {b : Bearer} (stage : s.tasks t = .working w)
    (there : s.objects w.id = some b) (accepted : s.runWork t w b = some s') : s.Moves s' := by
  -- The split follows the stage of the work.
  unfold runWork at accepted
  split at accepted
  · -- The lock of the bearer is free, and is taken.
    rename_i entering
    simp only [Option.ite_none_right_eq_some, Option.some.injEq, Option.isNone_iff_eq_none] at accepted
    obtain ⟨free, rfl⟩ := accepted
    exact .enter t w b stage there entering free
  · -- The bearer was closed before.
    rename_i entered
    simp only [Option.ite_none_right_eq_some, Option.some.injEq] at accepted
    obtain ⟨closed, rfl⟩ := accepted
    exact .alreadyClosed t w b stage there entered closed
  · rename_i closing
    cases accepted
    exact .closeDone t w b stage there closing
  · -- The lock of the modem is free, and is taken.
    rename_i marked
    simp only [Option.ite_none_right_eq_some, Option.some.injEq, Option.isNone_iff_eq_none] at accepted
    obtain ⟨free, rfl⟩ := accepted
    exact .lockRemove t w stage marked free
  · -- The bearer is removed if it is still registered.
    rename_i removing
    dsimp only at accepted
    split at accepted
    · rename_i member
      cases accepted
      exact .removed t w stage removing member
    · rename_i absent
      cases accepted
      exact .notThere t w stage removing absent
  · rename_i leaving
    cases accepted
    exact .leave t w b stage there leaving

/-- The steps that nothing is open about. -/
theorem moves_of_runTask {s s' : Registry} {t : TaskID} (accepted : s.runTask t = some s') : s.Moves s' := by
  -- The split follows what the goroutine is about to do.
  unfold runTask at accepted
  split at accepted
  · -- A session that is connected takes the lock of the modem.
    rename_i session stage
    simp only [Option.ite_none_right_eq_some, Option.some.injEq, Option.isNone_iff_eq_none] at accepted
    obtain ⟨free, rfl⟩ := accepted
    exact .lockConnect t session stage free
  · -- It is registered unless the modem was closed meanwhile.
    rename_i session stage
    cases accepted
    unfold register
    split
    · rename_i closed
      exact .turnedAway t session stage closed
    · rename_i isOpen
      exact .registered t session stage (by simpa using isOpen)
  · rename_i session stage
    cases accepted
    exact .rejected t session stage
  · -- `Close` takes the lock of the modem.
    rename_i stage
    simp only [Option.ite_none_right_eq_some, Option.some.injEq, Option.isNone_iff_eq_none] at accepted
    obtain ⟨free, rfl⟩ := accepted
    exact .lockClose t stage free
  · rename_i stage
    cases accepted
    exact .closeReturned t stage
  · -- The goroutine works on a bearer.
    rename_i w stage
    split at accepted
    · rename_i b there
      exact moves_of_runWork stage there accepted
    · cases accepted
  · cases accepted

/-- Every accepted event is one of the moves. -/
theorem moves_of_step {s s' : Registry} {e : RegistryEvent} (accepted : s.step e = some s') : s.Moves s' := by
  -- A call, an answer of the modem and a step of a goroutine are each one of the moves.
  cases e with
  | call t method =>
    simp only [step, Option.ite_none_right_eq_some] at accepted
    exact moves_of_callMethod accepted.1 accepted.2
  | connected t =>
    simp only [step, Option.ite_none_right_eq_some, Option.some.injEq] at accepted
    obtain ⟨stage, rfl⟩ := accepted
    exact .connected t stage
  | refused t =>
    simp only [step, Option.ite_none_right_eq_some, Option.some.injEq] at accepted
    obtain ⟨stage, rfl⟩ := accepted
    exact .refused t stage
  | list t order =>
    -- A list of bearers is taken by `DisconnectAll`, or by `Close` with the registry.
    simp only [step, Option.ite_none_right_eq_some] at accepted
    obtain ⟨order_perm, accepted⟩ := accepted
    split at accepted
    · rename_i stage
      simp only [Option.ite_none_right_eq_some, Option.some.injEq] at accepted
      obtain ⟨-, rfl⟩ := accepted
      exact .listed t order stage order_perm
    · rename_i stage
      cases accepted
      exact .cleared t order stage order_perm
    · cases accepted
  | answer t failed connected =>
    -- The answer keeps a bearer that is still connected, and gives up any other.
    simp only [step] at accepted
    split at accepted
    · rename_i w stage
      split at accepted
      · rename_i b there
        simp only [Option.ite_none_right_eq_some, Option.some.injEq, Bool.and_eq_true, decide_eq_true_eq,
          Bool.not_eq_true'] at accepted
        obtain ⟨⟨entered, live⟩, rfl⟩ := accepted
        unfold answered
        dsimp only
        split
        · rename_i refused
          simp only [Bool.and_eq_true, decide_eq_true_eq, ne_eq] at refused
          rw [if_neg refused.1.1, refused.1.2]
          exact .kept t w b stage there entered live refused.1.1
        · exact .given t w b failed _ stage there entered live
      · cases accepted
    · cases accepted
  | run t => exact moves_of_runTask accepted

/-- What the locks say about the goroutines. -/
structure Locked (s : Registry) : Prop where
  holder : ∀ id b t, s.objects id = some b → b.mu = some t →
    ∃ w, s.tasks t = .working w ∧ w.id = id ∧ w.stage ≠ .entering
  holding : ∀ t w, s.tasks t = .working w → w.stage ≠ .entering → ∃ b, s.objects w.id = some b ∧ b.mu = some t
  modem : ∀ t, s.mu = some t ↔ (s.tasks t).locksModem = true
  numbered : ∀ id b, s.objects id = some b → id ≤ s.nextID



/-- A goroutine between methods of bearers has no lock of the modem. -/
@[simp, grind =] theorem locksModem_ofCalls (closer : Bool) (calls : List (BearerCall × Nat)) :
    (Task.ofCalls closer calls).locksModem = false := by
  unfold Task.ofCalls
  split
  · split <;> rfl
  · rfl

/-- A method of a bearer begins before the lock. -/
@[grind →] theorem ofCalls_working {closer : Bool} {calls : List (BearerCall × Nat)} {w : BearerWork}
    (made : Task.ofCalls closer calls = .working w) : w.stage = .entering := by
  unfold Task.ofCalls at made
  split at made
  · split at made <;> cases made
  · cases made
    rfl

/-- So does the next one. -/
@[grind →] theorem next_working {w w' : BearerWork}
    (made : w.next = .working w') : w'.stage = .entering := by
  unfold BearerWork.next at made
  split at made <;> exact ofCalls_working made

/-- A goroutine that leaves a bearer has no lock of the modem. -/
@[simp, grind =] theorem locksModem_next (w : BearerWork) : w.next.locksModem = false := by
  unfold BearerWork.next
  split <;> simp

/-- Closing `done` keeps the lock. -/
@[simp, grind =] theorem closeDone_mu (b : Bearer) : b.closeDone.mu = b.mu := by
  unfold Bearer.closeDone
  split <;> simp

attribute [grind] Task.locksModem

/-- Every step keeps what the locks say. -/
theorem Locked.moves {s s' : Registry} (locked : s.Locked) (moves : s.Moves s') : s'.Locked := by
  obtain ⟨holder, holding, modem, numbered⟩ := locked
  cases moves <;> constructor <;> grind


/-- Only the goroutine that takes a step moves. -/
theorem eq_of_moved {s s' : Registry} {t u : TaskID} {task : Task}
    (after : s'.tasks t = if t = u then task else s.tasks t) (moved : s'.tasks t ≠ s.tasks t) : t = u := by
  by_contra other
  rw [if_neg other] at after
  exact moved after

/-- How far the method is that has the lock of a bearer. -/
def stageOf (s : Registry) (b : Bearer) : Option BearerStage := b.mu.bind fun t => (s.tasks t).stage?

/-- A bearer whose lock another goroutine has, or none, is as far as before. -/
@[grind =] theorem stageOf_setTask (s : Registry) (t : TaskID) (task : Task) (b : Bearer) :
    (s.setTask t task).stageOf b = if b.mu = some t then task.stage? else s.stageOf b := by
  unfold stageOf
  cases held : b.mu with
  | none => simp
  | some u =>
    by_cases same : u = t <;> simp [same]

/-- Bearers do not say how far their methods are. -/
@[grind =] theorem stageOf_setBearer (s : Registry) (id : Nat) (b other : Bearer) :
    (s.setBearer id b).stageOf other = s.stageOf other := rfl

/-- Neither does the channel of changes. -/
@[grind =] theorem stageOf_notify (s : Registry) (b : Bearer) :
    s.notifyBearersChangedLocked.stageOf b = s.stageOf b := rfl

/-- The holder of the lock says how far it is. -/
@[grind →] theorem stageOf_eq {s : Registry} {b : Bearer} {t : TaskID} {w : BearerWork} (held : b.mu = some t)
    (stage : s.tasks t = .working w) : s.stageOf b = some w.stage := by
  simp [stageOf, held, stage, Task.stage?]

/-- Closing `done` keeps `closed`. -/
@[simp] theorem closeDone_closed (b : Bearer) : b.closeDone.closed = b.closed := by
  unfold Bearer.closeDone
  split <;> rfl

/-- Closing `done` keeps the session. -/
@[simp] theorem closeDone_session (b : Bearer) : b.closeDone.session = b.session := by
  unfold Bearer.closeDone
  split <;> rfl

/-- What a step does to one bearer, the method that has its lock, and the calls of its session. -/
inductive BearerMoves (called : SessionCall → Prop) (gone : Prop) (b : Bearer) :
    Option BearerStage → Bearer → Option BearerStage → Prop where
  | same (stage : Option BearerStage) : BearerMoves called gone b stage b stage
  | enter (t : TaskID) (free : b.mu = none) : BearerMoves called gone b none { b with mu := some t } (some .entered)
  | kept (live : b.closed = false) : BearerMoves called gone b (some .entered) b (some .leaving)
  | given (call : SessionCall) (live : b.closed = false) (new : called call) :
      BearerMoves called gone b (some .entered) { b with closed := true } (some .closing)
  | alreadyClosed (closed : b.closed = true) : BearerMoves called gone b (some .entered) b (some .leaving)
  | closeDone : BearerMoves called gone b (some .closing) b.closeDone (some .marked)
  | lockRemove : BearerMoves called gone b (some .marked) b (some .removing)
  | removed (left : gone) : BearerMoves called gone b (some .removing) b (some .leaving)
  | leave : BearerMoves called gone b (some .leaving) { b with mu := none } none

/-- A goroutine has the lock of no bearer but the one it works on. -/
theorem Locked.elsewhere {s : Registry} (locked : s.Locked) {t : TaskID} {id : Nat} {b : Bearer}
    (there : s.objects id = some b)
    (apart : ∀ w, s.tasks t = .working w → w.stage = .entering ∨ w.id ≠ id) : b.mu ≠ some t := by
  intro held
  obtain ⟨w, stage, same, inside⟩ := locked.holder id b t there held
  rcases apart w stage with entering | different
  · exact inside entering
  · exact different same

/-- Every step moves each bearer by one of the steps of a bearer, or makes a new one. -/
theorem Moves.bearer {s s' : Registry} (locked : s.Locked) (nodup : s.bearers.Nodup) (moves : s.Moves s') {id : Nat}
    {b' : Bearer} (there : s'.objects id = some b') :
    (s.objects id = none ∧ id ∈ s'.bearers ∧ ∃ session, b' = { session }) ∨
    ∃ b, s.objects id = some b ∧
      BearerMoves (fun call => (b.session, call) ∈ s'.calls) (id ∉ s'.bearers) b (s.stageOf b) b' (s'.stageOf b') := by
  -- A goroutine that works on no bearer, or on another one, leaves this one alone.
  have frame {t : TaskID} {task : Task} {b : Bearer} (before : s.objects id = some b)
      (apart : ∀ w, s.tasks t = .working w → w.stage = .entering ∨ w.id ≠ id) :
      BearerMoves (fun call => (b.session, call) ∈ s'.calls) (id ∉ s'.bearers) b (s.stageOf b) b ((s.setTask t task).stageOf b) := by
    rw [stageOf_setTask, if_neg (locked.elsewhere before apart)]
    exact .same _
  -- The goroutine that has the lock of this bearer takes it one step further.
  have onward {t : TaskID} {w : BearerWork} {stage : BearerStage} {b : Bearer} (task : Task)
      (begun : s.tasks t = .working w)
      (before : s.objects w.id = some b) (inside : w.stage = stage) (entered : stage ≠ .entering) :
      b.mu = some t ∧ s.stageOf b = some stage ∧ (s.setTask t task).stageOf b = task.stage? := by
    obtain ⟨other, here, held⟩ := locked.holding t w begun (inside ▸ entered)
    cases here.symm.trans before
    exact ⟨held, inside ▸ stageOf_eq held begun, by rw [stageOf_setTask, if_pos held]⟩
  -- Most moves are of goroutines that have entered no bearer.
  cases moves with
  | start t task idle => exact .inr ⟨b', there, frame there (by simp [idle])⟩
  | call t call id' b idle => exact .inr ⟨b', there, frame there (by simp [idle])⟩
  | close t idle => exact .inr ⟨b', there, frame there (by simp [idle])⟩
  | connected t stage => exact .inr ⟨b', there, frame there (by simp [stage])⟩
  | refused t stage => exact .inr ⟨b', there, frame there (by simp [stage])⟩
  | listed t order stage => exact .inr ⟨b', there, frame there (by simp [stage])⟩
  | cleared t order stage => exact .inr ⟨b', there, frame there (by simp [stage])⟩
  | lockConnect t session stage => exact .inr ⟨b', there, frame there (by simp [stage])⟩
  | turnedAway t session stage => exact .inr ⟨b', there, frame there (by simp [stage])⟩
  | rejected t session stage => exact .inr ⟨b', there, frame there (by simp [stage])⟩
  | lockClose t stage => exact .inr ⟨b', there, frame there (by simp [stage])⟩
  | closeReturned t stage => exact .inr ⟨b', there, frame there (by simp [stage])⟩
  | registered t session stage =>
    -- Only registering makes a bearer, under a number that none has had.
    simp only [setTask_objects, setBearer_objects, notifyBearersChangedLocked_objects] at there
    split at there
    · rename_i new
      cases there
      refine .inl ⟨?_, by simp [new], session, rfl⟩
      by_contra old
      obtain ⟨b, old⟩ := Option.ne_none_iff_exists'.mp old
      have := locked.numbered _ _ old
      omega
    · exact .inr ⟨b', there, frame there (by simp [stage])⟩
  | enter t w b stage here entering free =>
    -- From here on, each move is by the goroutine that takes or holds the lock of its bearer.
    simp only [setTask_objects, setBearer_objects] at there
    split at there
    · rename_i same
      cases there
      subst same
      refine .inr ⟨b, here, ?_⟩
      rw [show s.stageOf b = none by simp [stageOf, free], stageOf_setTask, if_pos rfl]
      exact .enter t free
    · exact .inr ⟨b', there, frame there (by simp [stage, entering])⟩
  | kept t w b stage here entered live =>
    -- The session is still connected, and the bearer stays as it is.
    by_cases same : id = w.id
    · subst same
      cases here.symm.trans there
      obtain ⟨-, before, after⟩ := onward (.working { w with stage := .leaving, failed := true }) stage here entered
        (by simp)
      refine .inr ⟨b', here, ?_⟩
      rw [before]
      exact after ▸ .kept live
    · exact .inr ⟨b', there, frame there (by simp [stage, Ne.symm same])⟩
  | given t w b failed call stage here entered live =>
    -- The session is closed, and the bearer with it.
    simp only [setTask_objects, setBearer_objects] at there
    split at there
    · rename_i same
      cases there
      subst same
      obtain ⟨held, before, after⟩ := onward (.working { w with stage := .closing, failed }) stage here entered (by simp)
      refine .inr ⟨b, here, ?_⟩
      rw [before, stageOf_setTask, if_pos (show _ = _ from held)]
      exact .given call live (by simp)
    · rename_i different
      exact .inr ⟨b', there, frame there (by simp [stage, Ne.symm different])⟩
  | alreadyClosed t w b stage here entered closed =>
    by_cases same : id = w.id
    · subst same
      cases here.symm.trans there
      obtain ⟨-, before, after⟩ := onward (.working { w with stage := .leaving }) stage here entered (by simp)
      refine .inr ⟨b', here, ?_⟩
      rw [before]
      exact after ▸ .alreadyClosed closed
    · exact .inr ⟨b', there, frame there (by simp [stage, Ne.symm same])⟩
  | closeDone t w b stage here closing =>
    -- The channel of the bearer is closed.
    simp only [setTask_objects, setBearer_objects] at there
    split at there
    · rename_i same
      cases there
      subst same
      obtain ⟨held, before, after⟩ := onward (.working { w with stage := .marked }) stage here closing (by simp)
      refine .inr ⟨b, here, ?_⟩
      rw [before, stageOf_setTask, if_pos (by simpa using held)]
      exact .closeDone
    · rename_i different
      exact .inr ⟨b', there, frame there (by simp [stage, Ne.symm different])⟩
  | lockRemove t w stage marked free =>
    -- The lock of the modem is taken, which changes no bearer.
    by_cases same : id = w.id
    · subst same
      obtain ⟨-, before, after⟩ := onward (.working { w with stage := .removing }) stage there marked (by simp)
      refine .inr ⟨b', there, ?_⟩
      rw [before]
      exact after ▸ .lockRemove
    · exact .inr ⟨b', there, frame there (by simp [stage, Ne.symm same])⟩
  | removed t w stage removing member =>
    -- The bearer leaves the registry, which has it once.
    by_cases same : id = w.id
    · subst same
      obtain ⟨-, before, after⟩ := onward (.working { w with stage := .leaving }) stage there removing (by simp)
      refine .inr ⟨b', there, ?_⟩
      rw [before]
      exact after ▸ .removed (by simp [nodup.mem_erase_iff])
    · exact .inr ⟨b', there, frame there (by simp [stage, Ne.symm same])⟩
  | notThere t w stage removing absent =>
    -- It had left the registry before.
    by_cases same : id = w.id
    · subst same
      obtain ⟨-, before, after⟩ := onward (.working { w with stage := .leaving }) stage there removing (by simp)
      refine .inr ⟨b', there, ?_⟩
      rw [before]
      exact after ▸ .removed absent
    · exact .inr ⟨b', there, frame there (by simp [stage, Ne.symm same])⟩
  | leave t w b stage here leaving =>
    -- The lock of the bearer is given back.
    simp only [setTask_objects, setBearer_objects] at there
    split at there
    · rename_i same
      cases there
      subst same
      obtain ⟨held, before, after⟩ := onward w.next stage here leaving (by simp)
      refine .inr ⟨b, here, ?_⟩
      rw [before, show Registry.stageOf _ { b with mu := none } = none from rfl]
      exact .leave
    · rename_i different
      exact .inr ⟨b', there, frame there (by simp [stage, Ne.symm different])⟩

/-- A bearer that is not closed was not closed before. -/
theorem BearerMoves.live {called : SessionCall → Prop} {gone : Prop} {b b' : Bearer} {stage stage' : Option BearerStage}
    (moves : BearerMoves called gone b stage b' stage') (live : b'.closed = false) : b.closed = false := by
  cases moves <;> simp_all

/-- Calls are only added. -/
theorem Moves.calls {s s' : Registry} (moves : s.Moves s') {call : SessionRef × SessionCall} (made : call ∈ s.calls) :
    call ∈ s'.calls := by
  cases moves <;> simp [made]

/-- What a step does to the registered bearers. -/
theorem Moves.bearers {s s' : Registry} (moves : s.Moves s') :
    (s'.bearers = s.bearers ∧ s'.closed = s.closed ∧ s'.bearersChanged = s.bearersChanged ∧ s'.nextID = s.nextID) ∨
    (s'.bearers = s.bearers ++ [s.nextID + 1] ∧ s'.closed = s.closed ∧ s'.bearersChanged = s.bearersChanged + 1 ∧
      s'.nextID = s.nextID + 1 ∧ s.closed = false ∧ ∃ session, s'.objects (s.nextID + 1) = some { session }) ∨
    (s'.closed = s.closed ∧ s'.bearersChanged = s.bearersChanged + 1 ∧ s'.nextID = s.nextID ∧
      ∃ t w, s.tasks t = .working w ∧ w.stage = .removing ∧ w.id ∈ s.bearers ∧ s'.bearers = s.bearers.erase w.id) ∨
    (s'.bearers = [] ∧ s'.closed = true ∧ s'.bearersChanged = s.bearersChanged ∧ s'.nextID = s.nextID ∧
      ∃ t, s.tasks t = .clearing) := by
  -- Only three moves touch the registry.
  cases moves with
  | registered t session stage isOpen =>
    exact .inr (.inl ⟨rfl, rfl, rfl, rfl, isOpen, session, by simp⟩)
  | removed t w stage removing member => exact .inr (.inr (.inl ⟨rfl, rfl, rfl, t, w, stage, removing, member, rfl⟩))
  | cleared t order stage => exact .inr (.inr (.inr ⟨rfl, rfl, rfl, rfl, t, stage⟩))
  | _ => exact .inl ⟨rfl, rfl, rfl, rfl⟩

/-- No bearer is lost. -/
theorem Moves.objects {s s' : Registry} (moves : s.Moves s') {id : Nat} {b : Bearer} (there : s.objects id = some b)
    (numbered : id ≤ s.nextID) : ∃ b', s'.objects id = some b' ∧ b'.session = b.session := by
  cases moves <;> simp only [setTask_objects, setBearer_objects, notifyBearersChangedLocked_objects] <;>
    first
    | exact ⟨b, there, rfl⟩
    | (split <;> first | omega | exact ⟨b, there, rfl⟩ | (subst_vars; simp_all))

end Registry

end Wwan.Modem
