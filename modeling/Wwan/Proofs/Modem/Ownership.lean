import Wwan.Proofs.Modem.Registry

/-! Who owns a data session, in every order of the steps of a modem and its bearers. -/

namespace Wwan.Modem.Registry

/-- What `closed` says about a bearer. -/
structure Marked (called : SessionCall → Prop) (b : Bearer) (stage : Option BearerStage) : Prop where
  closing : stage = some .closing → b.closed = true ∧ b.doneOnce = false
  marked : stage = some .marked ∨ stage = some .removing → b.closed = true
  undone : b.closed = true → b.doneOnce = false → stage = some .closing
  done : b.doneOnce = true → b.closed = true
  doneCloses : b.doneCloses = b.doneOnce.toNat
  called : b.closed = true → ∃ call, called call

/-- Every step of a bearer keeps what `closed` says. -/
theorem BearerMoves.marked {called called' : SessionCall → Prop} {gone : Prop} {b b' : Bearer}
    {stage stage' : Option BearerStage} (moves : BearerMoves called' gone b stage b' stage') (marked : Marked called b stage)
    (more : ∀ call, called call → called' call) : Marked called' b' stage' := by
  -- Sessions are never called less, so only the marks are to be followed.
  obtain ⟨closing, inside, undone, done, doneCloses, given⟩ := marked
  have given' : b.closed = true → ∃ call, called' call := by
    intro closed
    obtain ⟨call, made⟩ := given closed
    exact ⟨call, more call made⟩
  cases moves with
  | same => exact ⟨closing, inside, undone, done, doneCloses, given'⟩
  | enter t free => exact ⟨by simp, by simp, fun closed isOpen => by simpa using undone closed isOpen, done, doneCloses, given'⟩
  -- An open bearer is left as it is.
  | kept live =>
    refine ⟨by simp, by simp, ?_, done, doneCloses, given'⟩
    simp [live]
  | given call live new =>
    -- The session is called, and the bearer is closed before its channel is.
    have isOpen : b.doneOnce = false := by
      by_contra already
      simp [done (by simpa using already)] at live
    exact ⟨fun _ => ⟨rfl, isOpen⟩, by simp, fun _ _ => rfl, fun _ => rfl, doneCloses, fun _ => ⟨call, new⟩⟩
  | alreadyClosed closed =>
    refine ⟨by simp, by simp, ?_, done, doneCloses, given'⟩
    intro _ isOpen
    simpa using undone closed isOpen
  | closeDone =>
    -- The channel is closed once, behind the mark.
    obtain ⟨closed, isOpen⟩ := closing rfl
    have after : b.closeDone = { b with doneOnce := true, doneCloses := b.doneCloses + 1 } := by
      simp [Bearer.closeDone, isOpen]
    rw [after]
    refine ⟨by simp, fun _ => closed, by simp, fun _ => closed, ?_, given'⟩
    simp [doneCloses, isOpen]
  | lockRemove =>
    -- Taking the bearer from the registry changes no mark.
    have closed := inside (.inl rfl)
    refine ⟨by simp, fun _ => closed, ?_, done, doneCloses, given'⟩
    intro _ isOpen
    simpa using undone closed isOpen
  | removed =>
    have closed := inside (.inr rfl)
    refine ⟨by simp, by simp, ?_, done, doneCloses, given'⟩
    intro _ isOpen
    simpa using undone closed isOpen
  | leave =>
    refine ⟨by simp, by simp, ?_, done, doneCloses, given'⟩
    intro closed isOpen
    simpa using undone closed isOpen

/-- Where a bearer that is not closed is to be found. -/
structure Registered (s : Registry) : Prop where
  nodup : s.bearers.Nodup
  /-- A registered bearer is closed only on its way out. -/
  registered : ∀ id ∈ s.bearers, ∃ b, s.objects id = some b ∧
    (b.closed = true → s.stageOf b = some .closing ∨ s.stageOf b = some .marked ∨ s.stageOf b = some .removing)
  isOpen : ∀ id b, s.objects id = some b → b.closed = false → s.closed = false → id ∈ s.bearers
  empty : s.closed = true → s.bearers = []

/-- Every step keeps where bearers are to be found. -/
theorem Registered.moves {s s' : Registry} (locked : s.Locked)
    (marked : ∀ id b, s.objects id = some b → Marked (fun call => (b.session, call) ∈ s.calls) b (s.stageOf b))
    (reg : s.Registered) (moves : s.Moves s') : s'.Registered := by
  -- What a step does to a bearer and to the list is known, so only their combinations are left.
  have bearer {id : Nat} {b' : Bearer} (there : s'.objects id = some b') := moves.bearer locked reg.nodup there
  have numbered : ∀ id ∈ s.bearers, id ≤ s.nextID := by
    intro id member
    obtain ⟨b, there, -⟩ := reg.registered id member
    exact locked.numbered id b there
  -- A bearer that stays registered stays on its way out.
  have still : ∀ id ∈ s.bearers, id ∈ s'.bearers → ∃ b', s'.objects id = some b' ∧ (b'.closed = true →
      s'.stageOf b' = some .closing ∨ s'.stageOf b' = some .marked ∨ s'.stageOf b' = some .removing) := by
    intro id member stays
    obtain ⟨b, there, leaving⟩ := reg.registered id member
    obtain ⟨b', there', -⟩ := moves.objects there (numbered id member)
    refine ⟨b', there', fun closed => ?_⟩
    rcases bearer there' with ⟨absent, -⟩ | ⟨old, here, step⟩
    · simp [there] at absent
    · cases there.symm.trans here
      generalize before : s.stageOf b = stage at step leaving
      generalize s'.stageOf b' = stage' at step ⊢
      cases step <;> simp_all
  -- An open bearer stays registered as long as the modem is open.
  have isOpen : ∀ id b', s'.objects id = some b' → b'.closed = false → s'.closed = false → id ∈ s'.bearers := by
    intro id b' there live isOpen
    rcases bearer there with ⟨-, new, -⟩ | ⟨b, here, step⟩
    · exact new
    · have before := step.live live
      rcases moves.bearers with ⟨same, closed, -⟩ | ⟨grown, closed, -⟩ | ⟨closed, -, -, t, w, stage, removing, -, less⟩ |
        ⟨-, closed, -⟩
      · rw [same]
        exact reg.isOpen id b here before (closed ▸ isOpen)
      · rw [grown]
        exact List.mem_append_left _ (reg.isOpen id b here before (closed ▸ isOpen))
      · -- The bearer that is taken out is closed.
        rw [less, reg.nodup.mem_erase_iff]
        refine ⟨?_, reg.isOpen id b here before (closed ▸ isOpen)⟩
        rintro rfl
        obtain ⟨holder, held, holds⟩ := locked.holding t w stage (by simp [removing])
        cases here.symm.trans held
        have closed := (marked _ b here).marked (.inr (by rw [stageOf_eq holds stage, removing]))
        simp [closed] at before
      · simp [closed] at isOpen
  rcases moves.bearers with ⟨same, closed, -⟩ | ⟨grown, closed, -, -, running, session, made⟩ |
    ⟨closed, -, -, t, w, stage, removing, member, less⟩ | ⟨none, closed, -⟩
  · -- The list is as it was.
    refine ⟨same ▸ reg.nodup, ?_, isOpen, ?_⟩
    · intro id member
      exact still id (same ▸ member) member
    · rw [same, closed]
      exact reg.empty
  · -- A bearer was registered, under a number above all others.
    refine ⟨?_, ?_, isOpen, by simp [closed, running]⟩
    · rw [grown, List.nodup_append]
      refine ⟨reg.nodup, by simp, ?_⟩
      rintro id member _ new rfl
      have := numbered id member
      simp at new
      omega
    · intro id member
      rw [grown] at member
      rcases List.mem_append.mp member with old | new
      · exact still id old (by simp [grown, old])
      · rw [List.mem_singleton.mp new]
        exact ⟨_, made, by simp⟩
  · -- A bearer was taken from the list.
    refine ⟨less ▸ reg.nodup.erase _, ?_, isOpen, ?_⟩
    · intro id stays
      exact still id (List.mem_of_mem_erase (less ▸ stays)) stays
    · intro past
      rw [closed] at past
      simp [reg.empty past] at member
  · -- `Modem.Close` has emptied the list.
    exact ⟨by simp [none], by simp [none], isOpen, fun _ => none⟩

/-- What `Modem.Close` has done and has still to do. -/
structure Closing (s : Registry) : Prop where
  once : ∀ t u, (s.tasks t).closes = true → (s.tasks u).closes = true → t = u
  called : ∀ t, (s.tasks t).closes = true → s.closeOnce = true
  first : s.closeOnce = false → s.closed = false
  before : ∀ t, s.tasks t = .closing ∨ s.tasks t = .clearing → s.closed = false
  after : ∀ t, (s.tasks t).closes = true → s.tasks t = .closing ∨ s.tasks t = .clearing ∨ s.closed = true
  owns : ∀ t w, s.tasks t = .working w → w.closer = true →
    w.call = .closeOwned ∧ ∀ call ∈ w.rest, call.1 = .closeOwned

/-- The calls of a goroutine are its first one and the rest. -/
@[grind →] theorem ofCalls_calls {closer : Bool} {calls : List (BearerCall × Nat)} {w : BearerWork}
    (made : Task.ofCalls closer calls = .working w) : w.closer = closer ∧ calls = (w.call, w.id) :: w.rest := by
  unfold Task.ofCalls at made
  split at made
  · split at made <;> cases made
  · cases made
    exact ⟨rfl, rfl⟩

/-- Calls of `Modem.Close` are marked as such. -/
theorem closes_ofCalls {closer : Bool} {calls : List (BearerCall × Nat)} :
    (Task.ofCalls closer calls).closes = closer := by
  unfold Task.ofCalls
  split
  · cases closer <;> rfl
  · rfl

/-- The next call is made by the same method of the modem. -/
theorem closes_next {w : BearerWork} :
    w.next.closes = w.closer := by
  unfold BearerWork.next
  split <;> rw [closes_ofCalls]

/-- A goroutine between methods of bearers is past the lock of the modem. -/
theorem ofCalls_ne {closer : Bool} {calls : List (BearerCall × Nat)} :
    Task.ofCalls closer calls ≠ .closing ∧ Task.ofCalls closer calls ≠ .clearing := by
  unfold Task.ofCalls
  split
  · cases closer <;> simp
  · simp

/-- So is one that leaves a bearer. -/
theorem next_ne {w : BearerWork} :
    w.next ≠ .closing ∧ w.next ≠ .clearing := by
  unfold BearerWork.next
  split <;> exact ofCalls_ne

/-- After `closeOwned` comes the rest. -/
theorem next_of_closeOwned {w : BearerWork} (owned : w.call = .closeOwned) : w.next = .ofCalls w.closer w.rest := by
  simp [BearerWork.next, owned]

/-- `Modem.Close` calls nothing but `closeOwned`. -/
theorem next_calls {w w' : BearerWork} (made : w.next = .working w') (closer : w'.closer = true)
  (owns : w.closer = true → w.call = .closeOwned ∧ ∀ call ∈ w.rest, call.1 = .closeOwned) :
  w'.call = .closeOwned ∧ ∀ call ∈ w'.rest, call.1 = .closeOwned := by
  have := closes_next (w := w)
  rw [made] at this
  have c : w.closer = true := by grind [Task.closes]
  rw [next_of_closeOwned (owns c).1] at made
  have all := (owns c).2
  rw [(ofCalls_calls made).2] at all
  exact ⟨all _ List.mem_cons_self, fun call member => all call (List.mem_cons_of_mem _ member)⟩

/-- The task of `Modem.Close` has not marked the modem as closed. -/
def Task.Early (task : Task) : Prop := task = .closing ∨ task = .clearing

/-- Such a task is one of `Modem.Close`. -/
theorem Task.closes_of_early {task : Task} (early : Task.Early task) : task.closes = true := by
  rcases early with rfl | rfl
  · rfl
  · rfl

/-- What a step of one goroutine means to `Modem.Close`. -/
inductive CloseMoves (s s' : Registry) (t : TaskID) : Prop where
  | quiet (closeOnce : s'.closeOnce = s.closeOnce) (closed : s'.closed = s.closed)
      (closes : (s'.tasks t).closes = (s.tasks t).closes) (early : Task.Early (s'.tasks t) ↔ Task.Early (s.tasks t))
  | called (fresh : s.closeOnce = false) (closeOnce : s'.closeOnce = true) (closed : s'.closed = s.closed)
      (early : Task.Early (s'.tasks t))
  | cleared (stage : s.tasks t = .clearing) (closeOnce : s'.closeOnce = s.closeOnce) (closed : s'.closed = true)
      (late : ¬ Task.Early (s'.tasks t))

/-- Every step is of one goroutine. -/
theorem Moves.closers {s s' : Registry} (moves : s.Moves s') :
    ∃ t, (∀ u, u ≠ t → s'.tasks u = s.tasks u) ∧ CloseMoves s s' t := by
  -- Only a call of `Modem.Close` and its clearing concern the modem's own close.
  cases moves with
  | close t idle once =>
    refine ⟨t, fun u other => by simp [other], .called once rfl rfl (by simp [Task.Early])⟩
  | cleared t order stage =>
    refine ⟨t, fun u other => by simp [other], .cleared stage rfl rfl ?_⟩
    simp [Task.Early, ofCalls_ne]
  -- Another method begins, which closes nothing.
  | start t task idle first =>
    refine ⟨t, fun u other => by simp [other], ?_⟩
    rcases first with rfl | ⟨rfl, -⟩ | rfl
    · exact .quiet rfl rfl (by simp [idle, Task.closes]) (by simp [idle, Task.Early])
    · exact .quiet rfl rfl (by simp [idle, Task.closes]) (by simp [idle, Task.Early])
    · exact .quiet rfl rfl (by simp [idle, Task.closes]) (by simp [idle, Task.Early])
  | call t call id b idle =>
    refine ⟨t, fun u other => by simp [other], ?_⟩
    exact .quiet rfl rfl (by simp [idle, Task.closes]) (by simp [idle, Task.Early])
  -- A list of calls is gone through, which is for `Modem.Close` only if it was so before.
  | listed t order stage =>
    refine ⟨t, fun u other => by simp [other], ?_⟩
    refine .quiet rfl rfl ?_ (by simp [stage, Task.Early, ofCalls_ne])
    simp only [setTask_tasks, if_true, closes_ofCalls, stage]
    rfl
  | leave t w b stage =>
    refine ⟨t, fun u other => by simp [other], ?_⟩
    refine .quiet rfl rfl ?_ (by simp [stage, Task.Early, next_ne])
    simp only [setTask_tasks, if_true, closes_next, stage]
    rfl
  | _ t =>
    -- The goroutine goes on with what it does.
    refine ⟨t, fun u other => by simp [other], ?_⟩
    exact .quiet rfl rfl (by simp [*, Task.closes]) (by simp [*, Task.Early])

/-- A goroutine of `Modem.Close` was one before, or it is the first. -/
theorem CloseMoves.closes_cases {s s' : Registry} {t u : TaskID} (step : CloseMoves s s' t)
    (frame : ∀ u, u ≠ t → s'.tasks u = s.tasks u) (closes : (s'.tasks u).closes = true) :
    (s.tasks u).closes = true ∨ (u = t ∧ s.closeOnce = false) := by
  by_cases same : u = t
  · subst same
    cases step with
    | quiet _ _ still _ => exact .inl (still ▸ closes)
    | called fresh _ _ _ => exact .inr ⟨rfl, fresh⟩
    | cleared stage _ _ _ => exact .inl (by simp [stage, Task.closes])
  · exact .inl (frame u same ▸ closes)

/-- A modem stays closed, and closes when it is marked as such. -/
theorem CloseMoves.closed_mono {s s' : Registry} {t : TaskID} (step : CloseMoves s s' t) (closed : s.closed = true) :
    s'.closed = true := by
  cases step with
  | quiet _ same _ _ => exact same.trans closed
  | called _ _ same _ => exact same.trans closed
  | cleared _ _ now _ => exact now

/-- `Modem.Close` goes on calling nothing but `closeOwned`. -/
theorem Closing.owns_moves {s s' : Registry} (closing : s.Closing) (moves : s.Moves s') :
    ∀ t w, s'.tasks t = .working w → w.closer = true → w.call = .closeOwned ∧ ∀ call ∈ w.rest, call.1 = .closeOwned := by
  have owns := closing.owns
  -- Only two steps give a goroutine new calls.
  cases moves with
  -- It goes on with the rest of its list.
  | leave t w b stage there leaving =>
    intro u w' task closer
    simp only [setTask_tasks, setBearer_tasks] at task
    split at task
    · exact next_calls task closer (owns t w stage)
    · exact owns u w' task closer
  -- It begins with the list of `Modem.Close`, which has nothing but `closeOwned`.
  | cleared t order stage =>
    intro u w task closer
    simp only [setTask_tasks] at task
    split at task
    · have all : ∀ call ∈ (w.call, w.id) :: w.rest, call.1 = .closeOwned := by
        rw [← (ofCalls_calls task).2]
        simp
      exact ⟨all _ List.mem_cons_self, fun call member => all call (List.mem_cons_of_mem _ member)⟩
    · exact owns u w task closer
  | _ => grind

/-- Every step keeps what is known of `Modem.Close`. -/
theorem Closing.moves {s s' : Registry} (closing : s.Closing) (moves : s.Moves s') : s'.Closing := by
  obtain ⟨t, frame, step⟩ := moves.closers
  -- As long as the once is unused, nobody is in `Modem.Close`.
  have fresh : s.closeOnce = false → ∀ u, (s.tasks u).closes = false := by
    intro unused u
    by_contra closes
    rw [Bool.not_eq_false] at closes
    simp [closing.called u closes] at unused
  refine ⟨?_, ?_, ?_, ?_, ?_, closing.owns_moves moves⟩
  · -- Two goroutines in `Modem.Close` are one.
    intro u v first second
    rcases step.closes_cases frame first with first | ⟨rfl, unused⟩
    · rcases step.closes_cases frame second with second | ⟨rfl, unused⟩
      · exact closing.once u v first second
      · simp [fresh unused u] at first
    · rcases step.closes_cases frame second with second | ⟨rfl, -⟩
      · simp [fresh unused v] at second
      · rfl
  · -- Whoever is in it has used the once.
    intro u closes
    rcases step.closes_cases frame closes with before | ⟨rfl, unused⟩
    · have called := closing.called u before
      cases step with
      | quiet same _ _ _ => exact same.trans called
      | called _ now _ _ => exact now
      | cleared _ same _ _ => exact same.trans called
    · cases step with
      | quiet _ _ same _ => simp [same, fresh unused u] at closes
      | called _ now _ _ => exact now
      | cleared stage _ _ _ =>
        have none := fresh unused u
        simp [stage, Task.closes] at none
  · -- An unused once leaves the modem open.
    intro unused
    cases step with
    | quiet same closed _ _ => exact closed.trans (closing.first (same ▸ unused))
    | called _ now _ _ => simp [now] at unused
    | cleared stage same _ _ =>
      have called := closing.called t (by simp [stage, Task.closes])
      simp [same, called] at unused
  · -- Until the list is cleared, the modem is open.
    intro u early
    by_cases same : u = t
    · subst same
      cases step with
      | quiet _ closed _ still => exact closed.trans (closing.before u (still.mp early))
      | called unused _ closed _ => exact closed.trans (closing.first unused)
      | cleared _ _ _ late => exact absurd early late
    · rw [frame u same] at early
      have closed := closing.before u early
      cases step with
      | quiet _ unchanged _ _ => exact unchanged.trans closed
      | called _ _ unchanged _ => exact unchanged.trans closed
      | cleared stage _ _ _ =>
        -- Only one goroutine is in `Modem.Close`.
        have one := closing.once u t (Task.closes_of_early early) (by rw [stage]; rfl)
        exact absurd one same
  · -- Afterwards it is closed.
    intro u closes
    rw [← or_assoc]
    rcases step.closes_cases frame closes with before | ⟨rfl, unused⟩
    · rcases or_assoc.mpr (closing.after u before) with early | closed
      · by_cases same : u = t
        · subst same
          cases step with
          | quiet _ _ _ still => exact .inl (still.mpr early)
          | called _ _ _ now => exact .inl now
          | cleared _ _ closed _ => exact .inr closed
        · rw [frame u same]
          exact .inl early
      · exact .inr (step.closed_mono closed)
    · cases step with
      | quiet _ _ same _ => simp [same, fresh unused u] at closes
      | called _ _ _ now => exact .inl now
      | cleared _ _ closed _ => exact .inr closed

/-- A list of calls that has a bearer in it owes its close. -/
theorem owes_ofCalls {calls : List (BearerCall × Nat)} {id : Nat} (member : (BearerCall.closeOwned, id) ∈ calls) :
    (Task.ofCalls true calls).owes id := by
  cases calls with
  | nil => cases member
  | cons call rest =>
    refine ⟨rfl, ?_⟩
    rcases List.mem_cons.mp member with here | later
    · exact .inl ⟨by rw [← here], .inl rfl⟩
    · exact .inr later

/-- Every bearer that a closed modem leaves open is owed its close. -/
def Owed (s : Registry) : Prop :=
  s.closed = true → ∀ id b, s.objects id = some b → b.closed = false → ∃ t, (s.tasks t).owes id

/-- A goroutine that owes a close owes it until the bearer is closed. -/
theorem Moves.owes {s s' : Registry} (closing : s.Closing) (moves : s.Moves s') {t : TaskID} {id : Nat} {b' : Bearer}
    (owes : (s.tasks t).owes id) (there : s'.objects id = some b') (live : b'.closed = false) :
    (s'.tasks t).owes id := by
  -- Only the goroutine's own steps matter.
  by_cases same : s'.tasks t = s.tasks t
  · rw [same]
    exact owes
  obtain ⟨w, stage⟩ : ∃ w, s.tasks t = .working w := by
    cases stage : s.tasks t <;> simp_all [Task.owes]
  rw [stage] at owes
  obtain ⟨closer, todo⟩ := owes
  -- The goroutine works for `Modem.Close`, so that what it calls is `closeOwned`.
  have owned := (closing.owns t w stage closer).1
  -- It owes the bearer as long as it has not gone past it.
  have onward {w' : BearerWork} (closer' : w'.closer = w.closer) (same : w'.id = w.id) (more : w'.rest = w.rest)
      (stage' : w'.stage = .entered ∨ w.id ≠ id ∨ w.stage ≠ .entering ∧ w.stage ≠ .entered) :
      (Task.working w').owes id := by
    refine ⟨closer' ▸ closer, ?_⟩
    rw [same, more]
    grind
  -- The steps follow one another from the lock of the bearer to its release.
  cases moves with
  | enter u v b begun here entering free =>
    obtain rfl := eq_of_moved rfl same
    cases stage.symm.trans begun
    simp only [setTask_tasks, if_pos]
    exact onward rfl rfl rfl (.inl rfl)
  -- `closeOwned` keeps no bearer.
  | kept u v b begun here entered live method =>
    obtain rfl := eq_of_moved rfl same
    cases stage.symm.trans begun
    exact absurd owned method
  | given u v b failed call begun here entered =>
    obtain rfl := eq_of_moved rfl same
    cases stage.symm.trans begun
    simp only [setTask_tasks, if_pos]
    refine onward rfl rfl rfl (.inr (.inl ?_))
    -- The bearer that is given up is closed.
    rintro rfl
    simp only [setTask_objects, setBearer_objects, if_pos, Option.some.injEq] at there
    subst there
    cases live
  -- A bearer that was closed is owed nothing.
  | alreadyClosed u v b begun here entered closed =>
    obtain rfl := eq_of_moved rfl same
    cases stage.symm.trans begun
    simp only [setTask_tasks, if_pos]
    refine onward rfl rfl rfl (.inr (.inl ?_))
    rintro rfl
    cases here.symm.trans there
    simp [closed] at live
  -- The bearer behind it in the list is next.
  | leave u v b begun here late =>
    obtain rfl := eq_of_moved rfl same
    cases stage.symm.trans begun
    simp only [setTask_tasks, if_pos, next_of_closeOwned owned, closer]
    exact owes_ofCalls (by grind)
  | closeDone u v b begun here late =>
    obtain rfl := eq_of_moved rfl same
    cases stage.symm.trans begun
    simp only [setTask_tasks, if_pos]
    exact onward rfl rfl rfl (.inr (.inr (by simp [late])))
  | lockRemove u v begun late | removed u v begun late | notThere u v begun late =>
    obtain rfl := eq_of_moved rfl same
    cases stage.symm.trans begun
    simp only [setTask_tasks, if_pos]
    exact onward rfl rfl rfl (.inr (.inr (by simp [late])))
  | _ =>
    -- The other steps are not those of a goroutine that works on a bearer.
    obtain rfl := eq_of_moved rfl same
    simp_all

/-- Every step keeps what `Modem.Close` owes. -/
theorem Owed.moves {s s' : Registry} (locked : s.Locked) (reg : s.Registered) (reg' : s'.Registered)
    (closing : s.Closing) (owed : s.Owed) (moves : s.Moves s') : s'.Owed := by
  intro closed id b' there live
  rcases moves.bearer locked reg.nodup there with ⟨-, new, -⟩ | ⟨b, here, step⟩
  · -- A closed modem gets no new bearer.
    simp [reg'.empty closed] at new
  · cases before : s.closed with
    | true =>
      obtain ⟨t, owes⟩ := owed before id b here (step.live live)
      exact ⟨t, moves.owes closing owes there live⟩
    | false =>
      have member := reg.isOpen id b here (step.live live) before
      cases moves with
      | cleared t order stage order_perm =>
        -- The modem has just been closed, and all open bearers are on the list.
        refine ⟨t, ?_⟩
        simp only [setTask_tasks, if_pos]
        exact owes_ofCalls (List.mem_map.mpr ⟨id, order_perm.mem_iff.mpr member, rfl⟩)
      | _ => simp_all

/-- A session is in the hands of a `Connect`. -/
def Handed (s : Registry) (session : SessionRef) : Prop := ∃ t, (s.tasks t).session? = some session

/-- Every session that the backend has returned is in one place. -/
structure Placed (s : Registry) : Prop where
  handed : ∀ t session, (s.tasks t).session? = some session → session < s.sessions
  handedOnce : ∀ t u session, (s.tasks t).session? = some session → (s.tasks u).session? = some session → t = u
  apart : ∀ t session id b, (s.tasks t).session? = some session → s.objects id = some b → b.session ≠ session
  bound : ∀ id b, s.objects id = some b → b.session < s.sessions
  owner : ∀ id b id' b', s.objects id = some b → s.objects id' = some b' → b.session = b'.session → id = id'
  placed : ∀ session < s.sessions, s.Handed session ∨ (∃ id b, s.objects id = some b ∧ b.session = session) ∨
    (session, SessionCall.close) ∈ s.calls

/-- A goroutine between methods of bearers has no session at hand. -/
theorem session?_ofCalls {closer : Bool} {calls : List (BearerCall × Nat)} :
    (Task.ofCalls closer calls).session? = none := by
  unfold Task.ofCalls
  split
  · cases closer <;> rfl
  · rfl

/-- Neither has one that leaves a bearer. -/
theorem session?_next {w : BearerWork} : w.next.session? = none := by
  unfold BearerWork.next
  split <;> rw [session?_ofCalls]

/-- A session stays in the hands of its `Connect` until that takes a step. -/
theorem Moves.handed {s s' : Registry} (moves : s.Moves s') {t : TaskID} {session : SessionRef}
    (hands : (s.tasks t).session? = some session) :
    (s'.tasks t).session? = some session ∨ (∃ b, s'.objects (s.nextID + 1) = some b ∧ b.session = session) ∨
      (session, SessionCall.close) ∈ s'.calls := by
  -- Only the goroutine's own steps matter.
  by_cases same : s'.tasks t = s.tasks t
  · exact .inl (same ▸ hands)
  cases moves with
  -- It still has the session in hand.
  | lockConnect u other stage | turnedAway u other stage =>
    obtain rfl := eq_of_moved rfl same
    rw [stage] at hands
    left
    simp only [setTask_tasks, if_pos]
    exact hands
  -- The session went to a new bearer.
  | registered u other stage =>
    obtain rfl := eq_of_moved rfl same
    rw [stage] at hands
    exact .inr (.inl ⟨_, by simp; rfl, by simpa [Task.session?] using hands⟩)
  -- The session was closed, since the modem was.
  | rejected u other stage =>
    obtain rfl := eq_of_moved rfl same
    rw [stage] at hands
    simp only [Task.session?, Option.some.injEq] at hands
    exact .inr (.inr (by simp [hands]))
  -- The other steps are not those of a goroutine with a session.
  | start u task stage | call u call id b stage | close u stage | connected u stage | refused u stage
  | listed u order stage | cleared u order stage | lockClose u stage | closeReturned u stage | kept u w b stage
  | given u w b failed call stage | enter u w b stage | alreadyClosed u w b stage | closeDone u w b stage
  | lockRemove u w stage | removed u w stage | notThere u w stage | leave u w b stage =>
    obtain rfl := eq_of_moved rfl same
    simp [stage, Task.session?] at hands

/-- What a step of one goroutine means to the sessions. -/
inductive SessionMoves (s s' : Registry) (t : TaskID) : Prop where
  | quiet (count : s'.sessions = s.sessions)
      (hands : (s'.tasks t).session? = (s.tasks t).session? ∨ (s'.tasks t).session? = none)
      (objects : ∀ id b', s'.objects id = some b' → ∃ b, s.objects id = some b ∧ b'.session = b.session)
  | connected (count : s'.sessions = s.sessions + 1) (hands : (s'.tasks t).session? = some s.sessions)
      (objects : s'.objects = s.objects)
  | registered (session : SessionRef) (count : s'.sessions = s.sessions)
      (had : (s.tasks t).session? = some session) (hands : (s'.tasks t).session? = none)
      (objects : ∀ id b', s'.objects id = some b' → (id = s.nextID + 1 ∧ b'.session = session) ∨ s.objects id = some b')

/-- A bearer that changes keeps its session. -/
theorem sameSession_of_set {s : Registry} {objects : Nat → Option Bearer} {id : Nat} {b b' : Bearer}
    (there : s.objects id = some b) (set : ∀ other, objects other = if other = id then some b' else s.objects other)
    (same : b'.session = b.session) (other : Nat) (found : Bearer) (here : objects other = some found) :
    ∃ b, s.objects other = some b ∧ found.session = b.session := by
  rw [set] at here
  split at here
  · next this =>
    cases here
    exact ⟨b, this ▸ there, same⟩
  · exact ⟨found, here, rfl⟩

/-- Every step is of one goroutine. -/
theorem Moves.sessions {s s' : Registry} (moves : s.Moves s') :
    ∃ t, (∀ u, u ≠ t → s'.tasks u = s.tasks u) ∧ SessionMoves s s' t := by
  -- Most steps leave every bearer with its session.
  have untouched : ∀ id b', s.objects id = some b' → ∃ b, s.objects id = some b ∧ b'.session = b.session :=
    fun id b' there => ⟨b', there, rfl⟩
  cases moves with
  | start t task idle first =>
    refine ⟨t, fun u other => by simp [other], .quiet rfl (.inr ?_) untouched⟩
    rcases first with rfl | ⟨rfl, -⟩ | rfl
    · simp [Task.session?]
    · simp [Task.session?]
    · simp [Task.session?]
  | connected t stage =>
    exact ⟨t, fun u other => by simp [other], .connected rfl (by simp [Task.session?]) rfl⟩
  -- Only registering gives a bearer a session, which was in the hands of the goroutine.
  | registered t session stage =>
    refine ⟨t, fun u other => by simp [other], .registered session rfl ?_ ?_ ?_⟩
    · rw [stage]
      rfl
    · simp [Task.session?]
    · intro id b' there
      simp only [setTask_objects, setBearer_objects] at there
      split at there
      · next new =>
        cases there
        exact .inl ⟨new, rfl⟩
      · exact .inr there
  | lockConnect t session stage =>
    exact ⟨t, fun u other => by simp [other], .quiet rfl (.inl (by simp [stage, Task.session?])) untouched⟩
  | turnedAway t session stage =>
    exact ⟨t, fun u other => by simp [other], .quiet rfl (.inl (by simp [stage, Task.session?])) untouched⟩
  -- The bearer is changed, but not its session.
  | given t w b failed call stage there =>
    exact ⟨t, fun u other => by simp [other],
      .quiet rfl (.inr (by simp [Task.session?])) (sameSession_of_set there (fun _ => rfl) rfl)⟩
  | enter t w b stage there =>
    exact ⟨t, fun u other => by simp [other],
      .quiet rfl (.inr (by simp [Task.session?])) (sameSession_of_set there (fun _ => rfl) rfl)⟩
  | closeDone t w b stage there =>
    exact ⟨t, fun u other => by simp [other],
      .quiet rfl (.inr (by simp [Task.session?])) (sameSession_of_set there (fun _ => rfl) (closeDone_session b))⟩
  | leave t w b stage there =>
    exact ⟨t, fun u other => by simp [other],
      .quiet rfl (.inr (by simp [session?_next])) (sameSession_of_set there (fun _ => rfl) rfl)⟩
  | listed t =>
    exact ⟨t, fun u other => by simp [other], .quiet rfl (.inr (by simp [session?_ofCalls])) untouched⟩
  | cleared t =>
    exact ⟨t, fun u other => by simp [other], .quiet rfl (.inr (by simp [session?_ofCalls])) untouched⟩
  | _ t =>
    exact ⟨t, fun u other => by simp [other], .quiet rfl (.inr (by simp [Task.session?])) untouched⟩

/-- A session at hand was at hand before, or the backend has just returned it. -/
theorem SessionMoves.hands_cases {s s' : Registry} {t u : TaskID} {session : SessionRef} (step : SessionMoves s s' t)
    (frame : ∀ u, u ≠ t → s'.tasks u = s.tasks u) (hands : (s'.tasks u).session? = some session) :
    (s.tasks u).session? = some session ∨ (u = t ∧ session = s.sessions ∧ s'.objects = s.objects) := by
  -- A session comes into hands only by being connected.
  by_cases same : u = t
  · subst same
    cases step with
    | quiet _ still _ =>
      rcases still with still | gone
      · exact .inl (still ▸ hands)
      · simp [gone] at hands
    | connected _ now objects =>
      cases now.symm.trans hands
      exact .inr ⟨rfl, rfl, objects⟩
    | registered _ _ _ gone => simp [gone] at hands
  · exact .inl (frame u same ▸ hands)

/-- A bearer had its session before, or it has just got it from the goroutine. -/
theorem SessionMoves.object_cases {s s' : Registry} {t : TaskID} {id : Nat} {b' : Bearer} (step : SessionMoves s s' t)
    (there : s'.objects id = some b') : (∃ b, s.objects id = some b ∧ b'.session = b.session) ∨
      (id = s.nextID + 1 ∧ (s.tasks t).session? = some b'.session ∧ (s'.tasks t).session? = none) := by
  cases step with
  | quiet _ _ objects => exact .inl (objects id b' there)
  | connected _ _ objects => exact .inl ⟨b', objects ▸ there, rfl⟩
  | registered _ _ had gone objects =>
    rcases objects id b' there with ⟨new, same⟩ | old
    · exact .inr ⟨new, same ▸ had, gone⟩
    · exact .inl ⟨b', old, rfl⟩

/-- No session is forgotten. -/
theorem SessionMoves.count_le {s s' : Registry} {t : TaskID} (step : SessionMoves s s' t) : s.sessions ≤ s'.sessions := by
  cases step with
  | quiet count => exact Nat.le_of_eq count.symm
  | connected count => omega
  | registered _ count => exact Nat.le_of_eq count.symm

/-- Every step keeps each session in one place. -/
theorem Placed.moves {s s' : Registry} (locked : s.Locked) (placed : s.Placed) (moves : s.Moves s') : s'.Placed := by
  obtain ⟨handed, handedOnce, apart, bound, owner, placed⟩ := placed
  have numbered := locked.numbered
  -- Bearers are never removed as objects, so that their sessions stay with them.
  have objects {id : Nat} {b : Bearer} (there : s.objects id = some b) := moves.objects there (numbered id b there)
  obtain ⟨t, frame, step⟩ := moves.sessions
  have grows := step.count_le
  constructor
  · -- The number of a session in hand was given out.
    intro u session hands
    rcases step.hands_cases frame hands with before | ⟨rfl, rfl, -⟩
    · exact Nat.lt_of_lt_of_le (handed u session before) grows
    · cases step with
      | quiet _ still =>
        rcases still with still | gone
        · exact absurd (handed u _ (still ▸ hands)) (Nat.lt_irrefl _)
        · simp [gone] at hands
      | connected count =>
        rw [count]
        exact Nat.lt_succ_self _
      | registered _ _ _ gone => simp [gone] at hands
  · -- No session is in two hands.
    intro u v session first second
    rcases step.hands_cases frame first with first | ⟨rfl, rfl, -⟩
    · rcases step.hands_cases frame second with second | ⟨rfl, rfl, -⟩
      · exact handedOnce u v session first second
      · exact absurd (handed u _ first) (Nat.lt_irrefl _)
    · rcases step.hands_cases frame second with second | ⟨rfl, -, -⟩
      · exact absurd (handed v _ second) (Nat.lt_irrefl _)
      · rfl
  · -- A session in hand is that of no bearer.
    intro u session id b' hands there same
    rcases step.object_cases there with ⟨b, here, kept⟩ | ⟨-, had, gone⟩
    · rcases step.hands_cases frame hands with before | ⟨rfl, rfl, -⟩
      · exact apart u session id b before here (kept.symm.trans same)
      · have below := bound id b here
        rw [kept.symm.trans same] at below
        exact absurd below (Nat.lt_irrefl _)
    · rcases step.hands_cases frame hands with before | ⟨rfl, -, -⟩
      · -- The goroutine has given its session away.
        have one := handedOnce u t session before (same ▸ had)
        subst one
        simp [gone] at hands
      · simp [gone] at hands
  · -- The number of a bearer's session was given out.
    intro id b' there
    rcases step.object_cases there with ⟨b, here, kept⟩ | ⟨-, had, -⟩
    · rw [kept]
      exact Nat.lt_of_lt_of_le (bound id b here) grows
    · exact Nat.lt_of_lt_of_le (handed t _ had) grows
  · -- No two bearers share a session.
    intro id b id' b' there there' same
    rcases step.object_cases there with ⟨old, here, kept⟩ | ⟨new, had, -⟩
    · rcases step.object_cases there' with ⟨old', here', kept'⟩ | ⟨new', had', -⟩
      · exact owner id old id' old' here here' (by rw [← kept, ← kept', same])
      · exact absurd (kept.symm.trans same) (apart t _ id old had' here)
    · rcases step.object_cases there' with ⟨old', here', kept'⟩ | ⟨new', -, -⟩
      · exact absurd (kept'.symm.trans same.symm) (apart t _ id' old' had here')
      · rw [new, new']
  · -- Every session is in hand, with a bearer, or closed.
    intro session below
    by_cases old : session < s.sessions
    · rcases placed session old with ⟨t, hands⟩ | ⟨id, b, there, same⟩ | closed
      · rcases moves.handed hands with hands | ⟨b, there, same⟩ | closed
        · exact .inl ⟨t, hands⟩
        · exact .inr (.inl ⟨_, b, there, same⟩)
        · exact .inr (.inr closed)
      · obtain ⟨b', there, kept⟩ := objects there
        exact .inr (.inl ⟨id, b', there, kept.trans same⟩)
      · exact .inr (.inr (moves.calls closed))
    · -- The backend has just returned it.
      cases moves with
      | connected t stage =>
        have latest : session = s.sessions := by
          simp only [setTask_sessions] at below
          omega
        refine .inl ⟨t, ?_⟩
        simp only [setTask_tasks, if_pos, Task.session?, latest]
      | _ => exact absurd below old

/-- Everything that holds along a run. -/
structure Sound (s : Registry) : Prop where
  locked : s.Locked
  marked : ∀ id b, s.objects id = some b → Marked (fun call => (b.session, call) ∈ s.calls) b (s.stageOf b)
  registered : s.Registered
  closing : s.Closing
  owed : s.Owed
  placed : s.Placed

/-- Every step keeps all of it. -/
theorem Sound.step {s s' : Registry} {e : RegistryEvent} (sound : s.Sound) (accepted : s.step e = some s') :
    s'.Sound := by
  -- Each part is kept by the moves, given the others before them.
  have moves := moves_of_step accepted
  have registered' := sound.registered.moves sound.locked sound.marked moves
  refine ⟨sound.locked.moves moves, ?_, registered', sound.closing.moves moves,
    sound.owed.moves sound.locked sound.registered registered' sound.closing moves,
    sound.placed.moves sound.locked moves⟩
  -- What a bearer's marks say is kept by the one move that it makes.
  intro id b' there
  rcases moves.bearer sound.locked sound.registered.nodup there with ⟨-, -, session, rfl⟩ | ⟨b, here, step⟩
  · -- A new bearer has no marks.
    have free : s'.stageOf { session } = none := rfl
    rw [free]
    exact ⟨by simp, by simp, by simp, by simp, rfl, by simp⟩
  · -- An old one keeps its session.
    have same : b'.session = b.session := by
      obtain ⟨other, there', same⟩ := moves.objects here (sound.locked.numbered id b here)
      cases there.symm.trans there'
      exact same
    rw [same]
    exact step.marked (sound.marked id b here) fun call made => moves.calls made

/-- All of it holds along every run. -/
theorem sound {trace : List (Registry × RegistryEvent)} {s : Registry} (run : registry.Runs trace s) : s.Sound := by
  refine run.stateInvariant (P := Sound) ?_ (fun _ _ _ sound accepted => sound.step accepted)
  refine ⟨⟨?_, ?_, ?_, ?_⟩, ?_, ⟨?_, ?_, ?_, ?_⟩, ⟨?_, ?_, ?_, ?_, ?_, ?_⟩, ?_, ⟨?_, ?_, ?_, ?_, ?_, ?_⟩⟩ <;>
    simp [registry, Task.locksModem, Task.closes, Task.session?, Owed]

/-- The locks of a modem and of its bearers. -/
inductive Lock where
  | bearer (id : Nat)
  | modem

/-- The order in which locks are taken. -/
def Lock.rank : Lock → Nat
  | .bearer _ => 0
  | .modem => 1

/-- A goroutine holds a lock. -/
def Holds (s : Registry) (t : TaskID) : Lock → Prop
  | .bearer id => ∃ b, s.objects id = some b ∧ b.mu = some t
  | .modem => s.mu = some t

/-- A task is one that holds a lock. -/
def Task.Holds (task : Task) : Lock → Prop
  | .bearer id => ∃ w, task = .working w ∧ w.id = id ∧ w.stage ≠ .entering
  | .modem => task.locksModem = true

/-- The locks a goroutine holds are those of its task. -/
theorem Locked.holds_iff {s : Registry} (locked : s.Locked) (t : TaskID) (lock : Lock) :
    s.Holds t lock ↔ Task.Holds (s.tasks t) lock := by
  cases lock with
  | modem => exact locked.modem t
  | bearer id =>
    constructor
    · rintro ⟨b, there, held⟩
      exact locked.holder id b t there held
    · rintro ⟨w, stage, rfl, inside⟩
      exact locked.holding t w stage inside

/-- A goroutine that takes a lock holds none, or it takes the modem's and holds a bearer's. -/
theorem Moves.ordered {s s' : Registry} (moves : s.Moves s') {t : TaskID} {lock other : Lock}
    (free : ¬ Task.Holds (s.tasks t) lock) (taken : Task.Holds (s'.tasks t) lock)
    (held : Task.Holds (s.tasks t) other) : other.rank < lock.rank := by
  -- Only the goroutine's own steps matter.
  by_cases same : s'.tasks t = s.tasks t
  · rw [same] at taken
    exact absurd taken free
  -- A goroutine inside a bearer holds its lock, and one outside holds none.
  have nothing {task : Task} (outside : ∀ w, task ≠ .working w) (unlocked : task.locksModem = false) (lock : Lock) :
      ¬ Task.Holds task lock := by
    cases lock with
    | modem => simp [Task.Holds, unlocked]
    | bearer id =>
      rintro ⟨w, inside, -⟩
      exact outside w inside
  -- Only two steps take a lock while another may be held.
  cases moves with
  -- The lock of a bearer is taken from outside all of them.
  | enter u w b stage there entering =>
    obtain rfl := eq_of_moved rfl same
    rw [stage] at held
    cases other <;> simp_all [Task.Holds, Task.locksModem]
  -- The lock of the modem is taken inside a bearer.
  | lockRemove u w stage marked =>
    obtain rfl := eq_of_moved rfl same
    rw [stage] at held free
    simp only [setTask_tasks, if_pos] at taken
    cases other <;> cases lock <;> simp_all [Task.Holds, Task.locksModem, Lock.rank]
  -- These steps take none.
  | kept u w b stage there inside | given u w b failed call stage there inside
  | alreadyClosed u w b stage there inside | closeDone u w b stage there inside =>
    obtain rfl := eq_of_moved rfl same
    rw [stage] at free
    simp only [setTask_tasks, if_pos] at taken
    cases lock <;> simp_all [Task.Holds, Task.locksModem]
  | removed u w stage inside | notThere u w stage inside =>
    obtain rfl := eq_of_moved rfl same
    rw [stage] at free
    simp only [setTask_tasks, if_pos] at taken
    cases lock <;> simp_all [Task.Holds, Task.locksModem]
  -- Leaving a bearer gives its lock back.
  | leave u w b stage there leaving =>
    obtain rfl := eq_of_moved rfl same
    simp only [setTask_tasks, if_pos] at taken
    cases lock with
    | modem => simp [Task.Holds] at taken
    | bearer id =>
      obtain ⟨w', made, -, inside⟩ := taken
      exact absurd (next_working made) inside
  -- Leaving the modem gives its lock back.
  | registered u session stage | turnedAway u session stage =>
    obtain rfl := eq_of_moved rfl same
    simp only [setTask_tasks, if_pos] at taken
    exact absurd taken (nothing (by simp) rfl lock)
  | cleared u order stage =>
    obtain rfl := eq_of_moved rfl same
    simp only [setTask_tasks, if_pos] at taken
    cases lock with
    | modem => simp [Task.Holds] at taken
    | bearer id =>
      obtain ⟨w', made, -, inside⟩ := taken
      exact absurd (ofCalls_working made) inside
  -- These goroutines hold nothing.
  | call u call id b stage | start u task stage | close u stage | connected u stage | refused u stage
  | listed u order stage | lockConnect u session stage | rejected u session stage | lockClose u stage
  | closeReturned u stage =>
    obtain rfl := eq_of_moved rfl same
    exact absurd held (nothing (by simp [stage]) (by simp [stage, Task.locksModem]) other)

/-- A step that gives up a session gives up one that no closed bearer has. -/
theorem Sound.uncalled {s s' : Registry} (sound : s.Sound) (moves : s.Moves s') {id : Nat} {b : Bearer}
    (there : s.objects id = some b) (closed : b.closed = true) :
    s'.calls.filter (fun call => call.1 = b.session) = s.calls.filter (fun call => call.1 = b.session) := by
  -- A call of another session does not count.
  have apart (session : SessionRef) (call : SessionCall) (other : session ≠ b.session) :
      (s.calls ++ [(session, call)]).filter (fun call => call.1 = b.session) =
        s.calls.filter (fun call => call.1 = b.session) := by
    simp [List.filter_append, other]
  -- An open bearer has another session.
  have openBearer {id' : Nat} {b' : Bearer} (there' : s.objects id' = some b') (live : b'.closed = false) :
      b'.session ≠ b.session := by
    intro same
    obtain rfl := sound.placed.owner _ _ _ _ there' there same
    cases there'.symm.trans there
    simp [closed] at live
  -- Only three steps call a session.
  cases moves with
  | kept t w b' stage there' entered live => exact apart _ _ (openBearer there' live)
  | given t w b' failed call stage there' entered live => exact apart _ _ (openBearer there' live)
  -- A session that is rejected has no bearer.
  | rejected t session stage =>
    refine apart _ _ fun same => ?_
    exact sound.placed.apart t session id b (by rw [stage]; rfl) there same.symm
  | _ => rfl

/-- Where the session of a bearer is: registered with it, owed its close by `Modem.Close`, or given up. -/
def Kept (s : Registry) (id : Nat) (b : Bearer) : Prop :=
  (b.closed = false ∧ s.closed = false ∧ id ∈ s.bearers) ∨
  (b.closed = false ∧ s.closed = true ∧ ∃ t, (s.tasks t).owes id) ∨
  (b.closed = true ∧ ∃ call, (b.session, call) ∈ s.calls)

/-- Every bearer keeps its session in one of these ways. -/
theorem Sound.kept {s : Registry} (sound : s.Sound) {id : Nat} {b : Bearer} (there : s.objects id = some b) :
    s.Kept id b := by
  cases live : b.closed with
  | true => exact .inr (.inr ⟨live, (sound.marked id b there).called live⟩)
  | false =>
    cases isOpen : s.closed with
    | false => exact .inl ⟨live, isOpen, sound.registered.isOpen id b there live isOpen⟩
    | true => exact .inr (.inl ⟨live, isOpen, sound.owed isOpen id b there live⟩)

/-- Once `Modem.Close` has returned, every session is given up that no `Connect` has at hand. -/
theorem Sound.closed {s : Registry} (sound : s.Sound) {t : TaskID} (past : s.tasks t = .closeReturned) :
    s.bearers = [] ∧ ∀ session < s.sessions, ¬ s.Handed session → ∃ call, (session, call) ∈ s.calls := by
  have closes : (s.tasks t).closes = true := by rw [past]; rfl
  -- The goroutine has passed the point where the modem is closed.
  have closed : s.closed = true := by
    rcases sound.closing.after t closes with early | early | closed
    · simp [past] at early
    · simp [past] at early
    · exact closed
  refine ⟨sound.registered.empty closed, ?_⟩
  intro session below unhanded
  -- A session that nobody has in hand is with a bearer, or was closed at once.
  rcases sound.placed.placed session below with handed | ⟨id, b, there, rfl⟩ | made
  · exact absurd handed unhanded
  · rcases sound.kept there with ⟨-, isOpen, -⟩ | ⟨-, -, u, owes⟩ | ⟨-, given⟩
    · simp [closed] at isOpen
    · -- Whoever owes a close is the one goroutine of `Modem.Close`, which has returned.
      have again : (s.tasks u).closes = true := by
        cases stage : s.tasks u with
        | working w =>
          rw [stage] at owes
          exact owes.1
        | _ => simp [stage, Task.owes] at owes
      rw [sound.closing.once u t again closes, past] at owes
      exact owes.elim
    · exact given
  · exact ⟨_, made⟩

/-- Who owns a data session, in every order of the steps of `Connect`, `Disconnect`, `Close`, `DisconnectAll` and one
`Modem.Close`: each session is at hand in one `Connect`, or has one bearer, or has none and was closed by its `Connect`;
each bearer is registered, owed its close or given up; after `Modem.Close` none is left; `done` is closed once and with
`closed`; a closed bearer leaves its session alone; and a bearer's lock is taken before the modem's. -/
theorem sessions_owned {trace : List (Registry × RegistryEvent)} {s : Registry} (run : registry.Runs trace s) :
    (∀ session < s.sessions, (∃! t, (s.tasks t).session? = some session) ∨
      (∃! id, ∃ b, s.objects id = some b ∧ b.session = session ∧ s.Kept id b) ∨
      (session, SessionCall.close) ∈ s.calls ∧ ∀ id b, s.objects id = some b → b.session ≠ session) ∧
    (∀ id b, s.objects id = some b → s.Kept id b) ∧
    (∀ t, s.tasks t = .closeReturned →
      s.bearers = [] ∧ ∀ session < s.sessions, ¬ s.Handed session → ∃ call, (session, call) ∈ s.calls) ∧
    (∀ id b, s.objects id = some b → b.doneCloses ≤ 1 ∧
      (b.doneCloses = 1 ↔ b.closed = true ∧ s.stageOf b ≠ some .closing)) ∧
    ∀ before t e t' after, trace = before ++ (t, e) :: after → t.step e = some t' →
      (∀ id b, t.objects id = some b → b.closed = true →
        t'.calls.filter (fun call => call.1 = b.session) = t.calls.filter (fun call => call.1 = b.session)) ∧
      ∀ task lock other, ¬ t.Holds task lock → t'.Holds task lock → t.Holds task other → other.rank < lock.rank := by
  have sound := sound run
  refine ⟨?_, fun id b there => sound.kept there, fun t past => sound.closed past, ?_, ?_⟩
  · intro session below
    by_cases borne : ∃ id b, s.objects id = some b ∧ b.session = session
    · -- The bearer of a session is the only one.
      obtain ⟨id, b, there, same⟩ := borne
      refine .inr (.inl ⟨id, ⟨b, there, same, sound.kept there⟩, ?_⟩)
      rintro other ⟨b', there', same', -⟩
      exact sound.placed.owner _ _ _ _ there' there (same'.trans same.symm)
    · -- Without a bearer, the session is still with its `Connect`, or was closed there.
      rcases sound.placed.placed session below with ⟨t, hands⟩ | bearer | made
      · exact .inl ⟨t, hands, fun u also => sound.placed.handedOnce u t session also hands⟩
      · exact absurd bearer borne
      · exact .inr (.inr ⟨made, fun id b there same => borne ⟨id, b, there, same⟩⟩)
  · -- The channel of a bearer is closed with its mark, once.
    intro id b there
    have marked := sound.marked id b there
    rw [marked.doneCloses]
    cases done : b.doneOnce with
    | true =>
      refine ⟨by simp, fun _ => ⟨marked.done done, fun early => ?_⟩, fun _ => rfl⟩
      simp [(marked.closing early).2] at done
    | false =>
      refine ⟨by simp, by simp, ?_⟩
      rintro ⟨closed, late⟩
      exact absurd (marked.undone closed done) late
  · -- A step calls no session of a closed bearer, and takes the locks in their order.
    rintro before t e t' after rfl accepted
    have earlier := Registry.sound run.accepted.1
    have moves := moves_of_step accepted
    refine ⟨fun id b there closed => earlier.uncalled moves there closed, ?_⟩
    intro task lock other free taken held
    rw [earlier.locked.holds_iff] at free held
    rw [(earlier.step accepted).locked.holds_iff] at taken
    exact moves.ordered free taken held

/-- A session that is disconnected, and one that comes after the modem is closed. -/
def lateSession : List RegistryEvent :=
  [.call 0 .connect, .connected 0, .run 0, .run 0, .call 1 .connect, .call 2 (.closeBearer 1), .run 2,
    .call 3 .close, .run 3, .list 3 [1], .connected 1, .answer 2 false false, .run 2, .run 2, .run 2, .run 2, .run 3,
    .run 3, .run 3, .run 3, .run 1, .run 1, .run 1]

/-- Both are given up when the modem is closed. -/
theorem lateSession_owned :
    ∃ trace s, registry.Runs trace s ∧ trace.map Prod.snd = lateSession ∧ s.sessions = 2 ∧ s.bearers = [] ∧
      ∀ session < s.sessions, ¬ s.Handed session → ∃ call, (session, call) ∈ s.calls := by
  have glance : (registry.runFrom registry.init lateSession).map (fun ran => (ran.2.sessions, ran.2.tasks 3)) =
      some (2, .closeReturned) := by decide +kernel
  obtain ⟨trace, s, run, events, seen⟩ := Machine.exists_runs glance
  simp only [Prod.mk.injEq] at seen
  obtain ⟨empty, given⟩ := (sessions_owned run).2.2.1 3 seen.2
  exact ⟨trace, s, run, events, seen.1, empty, given⟩

/-- A session that the backend has just returned is not registered, and neither is one whose failed `Disconnect` finds it
disconnected, though it was never closed. -/
theorem failedDisconnect_not_owned :
    (registry.runFrom registry.init [.call 0 .connect, .connected 0]).map
      (fun ran => (ran.2.sessions, ran.2.bearers, ran.2.calls)) = some (1, [], []) ∧
    (registry.runFrom registry.init [.call 0 .connect, .connected 0, .run 0, .run 0, .call 1 (.disconnect 1), .run 1,
        .answer 1 true false, .run 1, .run 1, .run 1, .run 1]).map
      (fun ran => (ran.2.tasks 1, ran.2.sessions, ran.2.bearers, ran.2.calls)) =
      some (.returned, 1, [], [(0, .disconnect)]) := by
  decide +kernel

end Wwan.Modem.Registry
