import Wwan.Cdcwdm.Conn

/-! Descriptors are closed once and only when nobody has them, and no wake-up is lost. -/

namespace Wwan.Cdcwdm

/-- The operation is between its acquire and its release. -/
def Stage.holds : Stage → Bool
  | .idle | .starting => false
  | .waiting _ | .parked _ | .woken | .ready | .finishing _ => true

namespace Conn

/-- Some operation is between its acquire and its release. -/
def InUse (c : Conn) : Prop := (∃ side, (c.stage side).holds = true) ∨ c.controls ≠ []

/-- The number of operations that are between their acquire and their release. -/
def holders (c : Conn) : Int :=
  (if (c.stage .read).holds then 1 else 0) + (if (c.stage .write).holds then 1 else 0) + c.controls.length

/-- What an operation polls with is out of date. -/
def Stale (c : Conn) (side : Side) (deadline : Deadline) : Prop := c.fdValid = false ∨ deadline ≠ c.deadline side

/-- The step makes a system call on the descriptor. -/
def Uses (c : Conn) (fd : FD) : Event → Prop
  | .poll side _ | .pollReturns side _ => fd = .device ∨ fd = .wake side
  | .drain side => fd = .wake side
  | .transfer _ _ | .ioctl _ => fd = .device
  | .setDeadline side _ => c.fdValid = true ∧ fd = .wake side
  | .close => c.fdValid = true ∧ ∃ side, fd = .wake side
  | _ => False

/-- What a step may do with the descriptors. -/
structure StepSafe (c : Conn) (event : Event) (c' : Conn) : Prop where
  /-- A descriptor is closed only while nobody is between acquire and release. -/
  closes : ∀ i, event = .closeFD i → ¬ c.InUse
  /-- No system call is made on a closed descriptor. -/
  uses : ∀ fd, c.Uses fd event → c.closes fd = 0
  /-- Nobody gets the descriptors of an invalidated connection. -/
  refuses : c.fdValid = false → (∀ side, (c'.stage side).holds = true → (c.stage side).holds = true) ∧
    c'.controls.length ≤ c.controls.length

/-- How far the connection is in its life, with what has been closed by then. -/
inductive Life (c : Conn) : Prop where
  | opened : c.fdValid = true → c.closers = [] → (∀ fd, c.closes fd = 0) → Life c
  /-- The one `Close` waits for the operations in flight. -/
  | draining (stage : CloserStage) : c.fdValid = false → c.closers = [stage] → (∀ k, stage ≠ .closing k) →
      (∀ fd, c.closes fd = 0) → Life c
  | closing (k : Nat) : c.fdValid = false → c.closers = [.closing k] → k < closeOrder.length → c.activeOps = 0 →
      (∀ fd, c.closes fd = if fd ∈ closeOrder.take k then 1 else 0) → Life c
  | closed : c.fdValid = false → c.closers = [] → c.activeOps = 0 → (∀ fd, c.closes fd = 1) → Life c

/-- What holds between the steps. -/
structure Sound (c : Conn) : Prop where
  /-- The counter of the mutex counts the operations that have descriptors. -/
  ops : c.activeOps = c.holders
  wake : ∀ side, c.wakeFDValid side = c.fdValid
  /-- An operation that polls, or is about to, with something out of date has a pending wake-up. -/
  pending : ∀ side deadline, c.stage side = .waiting deadline ∨ c.stage side = .parked deadline →
    c.Stale side deadline → 0 < c.counter side
  life : c.Life

variable {c c' : Conn}

/-! The parts of a connection. -/

/-- Moving an operation leaves its own new stage and the old stage of the other. -/
theorem stage_enter (c : Conn) (side other : Side) (stage : Stage) :
    (c.enter side stage).stage other = if other = side then stage else c.stage other := by
  simp [enter, Function.update_apply]

/-- The number of operations with descriptors, as one of the two operations moves. -/
theorem holders_enter_add (c : Conn) (side : Side) (stage : Stage) :
    (c.enter side stage).holders + (if (c.stage side).holds then 1 else 0) =
      c.holders + if stage.holds then 1 else 0 := by
  unfold holders
  cases side with
  | read =>
    simp only [Conn.enter, Function.update_apply, if_true, reduceCtorEq, if_false]
    omega
  | write =>
    simp only [Conn.enter, Function.update_apply, if_true, reduceCtorEq, if_false]
    omega

/-- An operation that neither takes nor gives back descriptors leaves their number. -/
theorem holders_enter {side : Side} {stage : Stage} (same : stage.holds = (c.stage side).holds) :
    (c.enter side stage).holders = c.holders := by
  have moved := holders_enter_add c side stage
  rw [same] at moved
  omega

/-- Notifying changes one counter only. -/
theorem notifyWakeFD_eq (c : Conn) (side : Side) :
    ∃ counter : Side → Nat, c.notifyWakeFD side = { c with counter } ∧ (∀ other, c.counter other ≤ counter other) ∧
      (c.wakeFDValid side = true → 0 < counter side) := by
  unfold notifyWakeFD
  dsimp only
  by_cases valid : c.wakeFDValid side = true
  · refine ⟨_, if_pos valid, fun other => ?_, fun _ => ?_⟩
    · rw [Function.update_apply]
      split
      · rename_i same
        subst same
        split <;> omega
      · omega
    · -- An eventfd that refuses to count further is readable already.
      rw [Function.update_self]
      split
      · rename_i full
        rw [full]
        decide
      · omega
  · exact ⟨c.counter, if_neg valid, fun _ => le_rfl, fun wrong => absurd wrong valid⟩

/-- The number of operations with descriptors is not negative. -/
theorem holders_nonneg (c : Conn) : 0 ≤ c.holders := by
  unfold holders
  split <;> split <;> omega

/-- A connection in use has operations with descriptors. -/
theorem holders_pos_iff (c : Conn) : 0 < c.holders ↔ c.InUse := by
  have controls : c.controls ≠ [] ↔ 0 < c.controls.length := by rw [List.length_pos_iff]
  unfold holders InUse
  rw [controls]
  constructor
  · -- Without an operation on either side only the control requests are left.
    intro positive
    by_cases reading : (c.stage .read).holds = true
    · exact .inl ⟨.read, reading⟩
    · by_cases writing : (c.stage .write).holds = true
      · exact .inl ⟨.write, writing⟩
      · rw [if_neg reading, if_neg writing] at positive
        exact .inr (by omega)
  · -- An operation of a side, or a control request, counts at least once.
    rintro (⟨side, holding⟩ | some_)
    · cases side with
      | read =>
        rw [if_pos holding]
        split <;> omega
      | write =>
        rw [if_pos holding]
        split <;> omega
    · split <;> split <;> omega

/-- Nothing has been closed while some operation has descriptors. -/
theorem Sound.not_closed (sound : c.Sound) (used : c.InUse) : ∀ fd, c.closes fd = 0 := by
  have positive := (holders_pos_iff c).mpr used
  have ops := sound.ops
  cases sound.life with
  | opened _ _ none => exact none
  | draining _ _ _ _ none => exact none
  | closing _ _ _ _ zero => omega
  | closed _ _ zero => omega

/-! What a step can do. -/

/-- Everything that a step of one of the calls can do. -/
inductive Moves (c : Conn) : Event → Conn → Prop where
  | begin_ {side : Side} : c.stage side = .idle → Moves c (.begin_ side) (c.enter side .starting)
  | acquireOp {side : Side} : c.stage side = .starting → c.fdValid = true →
      Moves c (.acquireOp side) ({ c with activeOps := c.activeOps + 1 }.enter side (.waiting (c.deadline side)))
  | refuseOp {side : Side} : c.stage side = .starting → Moves c (.acquireOp side) (c.enter side .idle)
  | expire {side : Side} {expired : Bool} {deadline : Deadline} : c.stage side = .waiting deadline →
      Moves c (.poll side expired) (c.enter side (.finishing false))
  | park {side : Side} {expired : Bool} {deadline : Deadline} : c.stage side = .waiting deadline →
      Moves c (.poll side expired) (c.enter side (.parked deadline))
  /-- A poll that returns keeps the descriptors, and the deadline if it is to be repeated. -/
  | pollReturns {side : Side} {result : PollResult} {deadline : Deadline} {stage : Stage} :
      c.stage side = .parked deadline → stage.holds = true → (∀ other, stage = .waiting other → other = deadline) →
      (∀ other, stage ≠ .parked other) → Moves c (.pollReturns side result) (c.enter side stage)
  | drained {side : Side} : c.stage side = .woken → Moves c (.drain side) (c.enter side (.finishing true))
  | drain {side : Side} : c.stage side = .woken →
      Moves c (.drain side) { c with counter := Function.update c.counter side 0 }
  | transfer {side : Side} {again : Bool} : c.stage side = .ready →
      Moves c (.transfer side again) (c.enter side (.finishing again))
  | releaseOp {side : Side} {again : Bool} : c.stage side = .finishing again →
      Moves c (.releaseOp side) (c.releaseFD.enter side (if again then .starting else .idle))
  | acquireFD : c.fdValid = true →
      Moves c .acquireFD { c with activeOps := c.activeOps + 1, controls := c.controls ++ [.acquired] }
  | ioctl {i : Nat} : c.controls[i]? = some .acquired → Moves c (.ioctl i) { c with controls := c.controls.set i .asked }
  | releaseControl {i : Nat} : c.controls[i]? = some .asked →
      Moves c (.releaseControl i) { c.releaseFD with controls := c.controls.eraseIdx i }
  | setDeadline {side : Side} {deadline : Deadline} : c.fdValid = true → Moves c (.setDeadline side deadline)
      ({ c with deadline := Function.update c.deadline side deadline }.notifyWakeFD side)
  /-- The first `Close` wakes both operations. -/
  | close {counter : Side → Nat} : c.fdValid = true → (∀ side, c.wakeFDValid side = true → 0 < counter side) →
      Moves c .close { c with
        counter
        fdValid := false
        wakeFDValid := fun _ => false
        closers := c.closers ++ [c.awaitOps] }
  | recheck {i : Nat} : c.closers[i]? = some .signalled →
      Moves c (.recheck i) { c with closers := c.closers.set i c.awaitOps }
  | closeFD {i k : Nat} {fd : FD} : c.closers[i]? = some (.closing k) → closeOrder[k]? = some fd →
      Moves c (.closeFD i) { c with
        closes := Function.update c.closes fd (c.closes fd + 1)
        closers := if k + 1 < closeOrder.length then c.closers.set i (.closing (k + 1)) else c.closers.eraseIdx i }
  /-- An invalidated connection is left alone. -/
  | refuse {event : Event} : c.fdValid = false → (∀ fd, ¬ c.Uses fd event) → (∀ i, event ≠ .closeFD i) → Moves c event c

/-- A step of a poll that returns is such a move. -/
private theorem moves_pollReturns {side : Side} {deadline : Deadline} (at_ : c.stage side = .parked deadline)
    {result : PollResult} (stepped : c.pollReturns side deadline result = some c') :
    Moves c (.pollReturns side result) c' := by
  cases result with
  -- A poll that is interrupted or fails ends with the wait, and its deadline plays no part.
  | interrupted =>
    rw [← Option.some.inj stepped]
    exact .pollReturns at_ rfl (by simp) (by simp)
  | failed =>
    rw [← Option.some.inj stepped]
    exact .pollReturns at_ rfl (by simp) (by simp)
  | timedOut =>
    -- A poll times out only where it has a deadline.
    simp only [Conn.pollReturns] at stepped
    split at stepped
    · rw [← Option.some.inj stepped]
      exact .pollReturns at_ rfl (by simp) (by simp)
    · simp at stepped
  | events device =>
    rw [← Option.some.inj stepped]
    -- A readable eventfd is drained before the device is looked at.
    unfold afterPoll
    split
    · exact .pollReturns at_ rfl (by simp) (by simp)
    · cases device <;> exact .pollReturns at_ rfl (by simp) (by simp)

/-- A `Close` of a valid connection leaves both eventfds readable. -/
private theorem moves_close (valid : c.fdValid = true) (stepped : c.step .close = some c') : Moves c .close c' := by
  simp only [step, valid, if_true] at stepped
  obtain ⟨counter, first, more, woken⟩ := c.notifyWakeFD_eq .read
  obtain ⟨counter', second, more', woken'⟩ := (c.notifyWakeFD .read).notifyWakeFD_eq .write
  rw [first] at second more' woken'
  rw [first, second] at stepped
  rw [← Option.some.inj stepped]
  refine .close valid fun side awake => ?_
  cases side with
  | read => exact Nat.lt_of_lt_of_le (woken awake) (more' .read)
  | write => exact woken' awake

/-- Every accepted step is one of these moves. -/
theorem step_moves {event : Event} (stepped : c.step event = some c') : Moves c event c' := by
  cases event with
  | close =>
    -- Only the first `Close` finds the descriptors valid.
    cases valid : c.fdValid with
    | true => exact moves_close valid stepped
    | false =>
      simp only [step, valid, Bool.false_eq_true, if_false] at stepped
      rw [← Option.some.inj stepped]
      exact .refuse valid (by simp [Uses, valid]) (by simp)
  | pollReturns side result =>
    simp only [step] at stepped
    split at stepped
    · rename_i at_
      exact moves_pollReturns at_ stepped
    · simp at stepped
  | begin_ side =>
    simp only [step] at stepped
    split at stepped
    · rename_i at_
      rw [← Option.some.inj stepped]
      exact .begin_ at_
    · simp at stepped
  | acquireOp side =>
    -- `acquireOp` refuses once the descriptors are invalid.
    simp only [step] at stepped
    split at stepped
    · rename_i at_
      split at stepped
      · rename_i valid
        rw [← Option.some.inj stepped]
        exact .acquireOp at_ valid
      · rw [← Option.some.inj stepped]
        exact .refuseOp at_
    · simp at stepped
  | poll side expired =>
    -- A deadline that has passed ends the wait at once.
    simp only [step] at stepped
    split at stepped
    · rename_i at_
      split at stepped
      · rw [← Option.some.inj stepped]
        exact .expire at_
      · rw [← Option.some.inj stepped]
        exact .park at_
    · simp at stepped
  | drain side =>
    -- The eventfd is drained until it has nothing more to read.
    simp only [step] at stepped
    split at stepped
    · rename_i at_
      split at stepped
      · rw [← Option.some.inj stepped]
        exact .drained at_
      · rw [← Option.some.inj stepped]
        exact .drain at_
    · simp at stepped
  | transfer side again =>
    simp only [step] at stepped
    split at stepped
    · rename_i at_
      rw [← Option.some.inj stepped]
      exact .transfer at_
    · simp at stepped
  | releaseOp side =>
    simp only [step] at stepped
    split at stepped
    · rename_i at_
      rw [← Option.some.inj stepped]
      exact .releaseOp at_
    · simp at stepped
  | acquireFD =>
    -- `acquireFD` refuses as `acquireOp` does.
    simp only [step] at stepped
    split at stepped
    · rename_i valid
      rw [← Option.some.inj stepped]
      exact .acquireFD valid
    · rename_i shut
      rw [← Option.some.inj stepped]
      exact .refuse (by simpa using shut) (by simp [Uses]) (by simp)
  | ioctl i =>
    simp only [step] at stepped
    split at stepped
    · rename_i at_
      rw [← Option.some.inj stepped]
      exact .ioctl at_
    · simp at stepped
  | releaseControl i =>
    simp only [step] at stepped
    split at stepped
    · rename_i at_
      rw [← Option.some.inj stepped]
      exact .releaseControl at_
    · simp at stepped
  | setDeadline side deadline =>
    -- A deadline is set on a valid connection only.
    simp only [step] at stepped
    split at stepped
    · rename_i valid
      rw [← Option.some.inj stepped]
      exact .setDeadline valid
    · rename_i shut
      rw [← Option.some.inj stepped]
      exact .refuse (by simpa using shut) (by simp [Uses, shut]) (by simp)
  | recheck i =>
    simp only [step] at stepped
    split at stepped
    · rename_i at_
      rw [← Option.some.inj stepped]
      exact .recheck at_
    · simp at stepped
  | closeFD i =>
    -- The descriptors are closed in the order of `Close`.
    simp only [step] at stepped
    split at stepped
    · rename_i at_
      split at stepped
      · rename_i next
        rw [← Option.some.inj stepped]
        exact .closeFD at_ next
      · simp at stepped
    · simp at stepped

/-! One step. -/

/-- The life of a connection is a matter of its close alone. -/
theorem Life.congr (life : c.Life) (valid : c'.fdValid = c.fdValid) (closers : c'.closers = c.closers)
    (ops : c.fdValid = false → c.activeOps = 0 → c'.activeOps = 0) (closes : c'.closes = c.closes) : c'.Life := by
  cases life with
  | opened open_ none_ zero => exact .opened (valid ▸ open_) (closers ▸ none_) (closes ▸ zero)
  | draining stage shut one waits zero =>
    exact .draining stage (valid ▸ shut) (closers ▸ one) waits (closes ▸ zero)
  | closing k shut one more idle some_ =>
    exact .closing k (valid ▸ shut) (closers ▸ one) more (ops shut idle) (closes ▸ some_)
  | closed shut none_ idle all => exact .closed (valid ▸ shut) (closers ▸ none_) (ops shut idle) (closes ▸ all)

/-- An operation moves on with the descriptors it has, or without any. -/
theorem Sound.enter (sound : c.Sound) {side : Side} {stage : Stage} (same : stage.holds = (c.stage side).holds)
    (pending : ∀ deadline, stage = .waiting deadline ∨ stage = .parked deadline → c.Stale side deadline →
      0 < c.counter side) : (c.enter side stage).Sound := by
  refine ⟨?_, sound.wake, ?_, sound.life.congr rfl rfl (fun _ zero => zero) rfl⟩
  · rw [holders_enter same]
    exact sound.ops
  · intro other deadline at_ stale
    rw [stage_enter] at at_
    split at at_
    · rename_i own
      subst own
      exact pending deadline at_ stale
    · exact sound.pending other deadline at_ stale

/-- Giving back a descriptor is sound while it is counted. -/
theorem releaseFD_life (life : c.Life) (counted : 0 < c.activeOps) : c.releaseFD.Life := by
  -- Somebody still has a descriptor, so nothing has been closed.
  unfold releaseFD
  dsimp only
  cases life with
  | opened open_ none_ zero =>
    -- The last operation of an open connection wakes nobody.
    split
    · exact .opened open_ (by simp [none_]) zero
    · exact .opened open_ none_ zero
  | draining stage shut one waits zero =>
    -- The last operation wakes the `Close` that waits for it.
    split
    · refine .draining (if stage = .waiting then .signalled else stage) shut (by simp [one]) ?_ zero
      intro k
      split
      · simp
      · exact waits k
    · exact .draining stage shut one waits zero
  | closing _ _ _ _ idle => omega
  | closed _ _ idle => omega

/-- What giving back a descriptor does to the other parts. -/
theorem releaseFD_frame (c : Conn) : c.releaseFD.activeOps = c.activeOps - 1 ∧ c.releaseFD.stage = c.stage ∧
    c.releaseFD.controls = c.controls ∧ c.releaseFD.fdValid = c.fdValid ∧ c.releaseFD.wakeFDValid = c.wakeFDValid ∧
    c.releaseFD.deadline = c.deadline ∧ c.releaseFD.counter = c.counter ∧ c.releaseFD.closes = c.closes := by
  unfold releaseFD
  dsimp only
  split <;> simp

/-- An operation that takes the descriptors takes the current deadline with them. -/
theorem Sound.acquireOp (sound : c.Sound) {side : Side} (at_ : c.stage side = .starting) (valid : c.fdValid = true) :
    Sound ({ c with activeOps := c.activeOps + 1 }.enter side (.waiting (c.deadline side))) := by
  refine ⟨?_, sound.wake, fun other deadline polls stale => ?_, sound.life.congr rfl rfl ?_ rfl⟩
  · -- One more operation counts, and the side holds one more.
    have moved := holders_enter_add { c with activeOps := c.activeOps + 1 } side (.waiting (c.deadline side))
    simp only [at_, Stage.holds, Bool.false_eq_true, if_false, if_true] at moved
    have ops := sound.ops
    unfold holders at moved ops ⊢
    simp only [Conn.enter] at moved ⊢
    omega
  · rw [stage_enter] at polls
    split at polls
    · rename_i own
      subst own
      -- Neither the connection nor the deadline can be out of date yet.
      simp only [Stage.waiting.injEq, reduceCtorEq, or_false] at polls
      rcases stale with shut | older
      · simp [Conn.enter, valid] at shut
      · exact absurd polls.symm older
    · exact sound.pending other deadline polls stale
  · -- An open connection has closed nothing.
    intro shut
    simp [valid] at shut

/-- An operation that drains its eventfd does not poll. -/
theorem Sound.drain (sound : c.Sound) {side : Side} (at_ : c.stage side = .woken) :
    Sound { c with counter := Function.update c.counter side 0 } := by
  refine ⟨sound.ops, sound.wake, fun other deadline polls stale => ?_, sound.life.congr rfl rfl (fun _ zero => zero) rfl⟩
  have different : other ≠ side := by
    rintro rfl
    simp [at_] at polls
  simpa [Function.update_apply, different] using sound.pending other deadline polls stale

/-- An operation gives its descriptors back. -/
theorem Sound.releaseOp (sound : c.Sound) {side : Side} {again : Bool} (at_ : c.stage side = .finishing again) :
    (c.releaseFD.enter side (if again then .starting else .idle)).Sound := by
  obtain ⟨ops, stage, controls, valid, wake, deadlines, counters, closes⟩ := c.releaseFD_frame
  -- What is given back was counted.
  have used : 0 < c.activeOps := by
    rw [sound.ops, holders_pos_iff]
    exact .inl ⟨side, by simp [at_, Stage.holds]⟩
  have rests : (if again then Stage.starting else .idle).holds = false := by
    cases again <;> rfl
  have kept : c.releaseFD.holders = c.holders := by
    unfold holders
    rw [stage, controls]
  refine ⟨?_, fun other => ?_, fun other deadline polls stale => ?_, ?_⟩
  · -- The side holds one less and one less is counted.
    have moved := holders_enter_add c.releaseFD side (if again then .starting else .idle)
    rw [rests, kept, stage, at_, ← sound.ops] at moved
    simp only [Stage.holds, if_true, Bool.false_eq_true, if_false, Int.add_zero] at moved
    show c.releaseFD.activeOps = _
    omega
  · -- The eventfds live as long as the device.
    show c.releaseFD.wakeFDValid other = c.releaseFD.fdValid
    rw [wake, valid]
    exact sound.wake other
  · -- The other side polls as before, and its wake-ups are as before.
    rw [stage_enter] at polls
    split at polls
    · cases again <;> simp at polls
    · show 0 < c.releaseFD.counter other
      rw [counters]
      rw [stage] at polls
      refine sound.pending other deadline polls ?_
      unfold Stale at stale ⊢
      simpa [Conn.enter, valid, deadlines] using stale
  · exact (releaseFD_life sound.life used).congr rfl rfl (fun _ zero => zero) rfl

/-- A `MaxControlTransfer` takes the descriptor of a valid connection. -/
theorem Sound.acquireFD (sound : c.Sound) (valid : c.fdValid = true) :
    Sound { c with activeOps := c.activeOps + 1, controls := c.controls ++ [.acquired] } := by
  refine ⟨?_, sound.wake, sound.pending, sound.life.congr rfl rfl ?_ rfl⟩
  · have ops := sound.ops
    unfold holders at ops ⊢
    simp only [List.length_append, List.length_singleton]
    omega
  · intro shut
    simp [valid] at shut

/-- A `MaxControlTransfer` asks the device. -/
theorem Sound.ioctl (sound : c.Sound) (i : Nat) : Sound { c with controls := c.controls.set i .asked } := by
  refine ⟨?_, sound.wake, sound.pending, sound.life.congr rfl rfl (fun _ zero => zero) rfl⟩
  have ops := sound.ops
  unfold holders at ops ⊢
  simpa using ops

/-- A `MaxControlTransfer` gives the descriptor back. -/
theorem Sound.releaseControl (sound : c.Sound) {i : Nat} (at_ : c.controls[i]? = some .asked) :
    Sound { c.releaseFD with controls := c.controls.eraseIdx i } := by
  obtain ⟨ops, stage, controls, valid, wake, deadlines, counters, closes⟩ := c.releaseFD_frame
  have inside : i < c.controls.length := (List.getElem?_eq_some_iff.mp at_).1
  have used : 0 < c.activeOps := by
    rw [sound.ops, holders_pos_iff]
    exact .inr (List.ne_nil_of_length_pos (by omega))
  refine ⟨?_, fun other => ?_, fun other deadline polls stale => ?_, ?_⟩
  · -- The list of control requests is one shorter.
    have counted := sound.ops
    unfold holders at counted ⊢
    simp only [ops, stage, List.length_eraseIdx, inside, if_true]
    omega
  · show c.releaseFD.wakeFDValid other = c.releaseFD.fdValid
    rw [wake, valid]
    exact sound.wake other
  · -- The polls see nothing of it.
    show 0 < c.releaseFD.counter other
    rw [counters]
    rw [show ({ c.releaseFD with controls := c.controls.eraseIdx i } : Conn).stage = c.stage from stage] at polls
    refine sound.pending other deadline polls ?_
    unfold Stale at stale ⊢
    simpa [valid, deadlines] using stale
  · exact (releaseFD_life sound.life used).congr rfl rfl (fun _ zero => zero) rfl

/-- A new deadline comes with a wake-up. -/
theorem Sound.setDeadline (sound : c.Sound) (valid : c.fdValid = true) (side : Side) (deadline : Deadline) :
    ({ c with deadline := Function.update c.deadline side deadline }.notifyWakeFD side).Sound := by
  obtain ⟨counter, notified, more, woken⟩ :=
    notifyWakeFD_eq { c with deadline := Function.update c.deadline side deadline } side
  rw [notified]
  refine ⟨sound.ops, sound.wake, fun other old polls stale => ?_, sound.life.congr rfl rfl (fun _ zero => zero) rfl⟩
  by_cases own : other = side
  · subst own
    exact woken ((sound.wake other).trans valid)
  · refine Nat.lt_of_lt_of_le (sound.pending other old polls ?_) (more other)
    unfold Stale at stale ⊢
    simpa [Function.update_apply, own] using stale

/-- The first `Close` wakes both operations and waits for those in flight. -/
theorem Sound.close (sound : c.Sound) (valid : c.fdValid = true) {counter : Side → Nat}
    (woken : ∀ side, 0 < counter side) :
    Sound { c with
      counter
      fdValid := false
      wakeFDValid := fun _ => false
      closers := c.closers ++ [c.awaitOps] } := by
  refine ⟨sound.ops, fun _ => rfl, fun side deadline _ _ => woken side, ?_⟩
  -- The first `Close` finds no other `Close` at work.
  cases sound.life with
  | opened _ none_ zero =>
    unfold awaitOps
    by_cases flight : c.activeOps > 0
    · rw [if_pos flight]
      exact .draining .waiting rfl (by simp [none_]) (by simp) zero
    · rw [if_neg flight]
      -- Nobody has a descriptor, so it closes right away.
      have idle : c.activeOps = 0 := by
        have := sound.ops
        have := c.holders_nonneg
        omega
      exact .closing 0 rfl (by simp [none_]) (by decide) idle (by simpa using zero)
  | draining _ shut => simp [valid] at shut
  | closing _ shut => simp [valid] at shut
  | closed shut => simp [valid] at shut

/-- A woken `Close` goes on when nobody has a descriptor. -/
theorem Sound.recheck (sound : c.Sound) {i : Nat} (at_ : c.closers[i]? = some .signalled) :
    Sound { c with closers := c.closers.set i c.awaitOps } := by
  refine ⟨sound.ops, sound.wake, sound.pending, ?_⟩
  cases sound.life with
  -- There is no `Close` to be woken on an open connection.
  | opened _ none_ => simp [none_] at at_
  | draining stage shut one waits zero =>
    -- It is the one `Close`, which looks again at the operations in flight.
    rw [one, List.getElem?_singleton] at at_
    split at at_
    · rename_i first
      subst first
      unfold awaitOps
      by_cases flight : c.activeOps > 0
      · rw [if_pos flight]
        exact .draining .waiting shut (by simp [one]) (by simp) zero
      · rw [if_neg flight]
        have idle : c.activeOps = 0 := by
          have := sound.ops
          have := c.holders_nonneg
          omega
        exact .closing 0 shut (by simp [one]) (by decide) idle (by simpa using zero)
    · simp at at_
  | closing k _ one =>
    -- A `Close` that is closing waits for nothing.
    rw [one, List.getElem?_singleton] at at_
    split at at_ <;> simp at at_
  | closed _ none_ => simp [none_] at at_

/-- A `Close` that has come to closing has the connection to itself. -/
theorem Sound.closing_spec (sound : c.Sound) {i k : Nat} (at_ : c.closers[i]? = some (.closing k)) :
    i = 0 ∧ c.fdValid = false ∧ c.closers = [.closing k] ∧ k < closeOrder.length ∧ c.activeOps = 0 ∧
      ∀ fd, c.closes fd = if fd ∈ closeOrder.take k then 1 else 0 := by
  cases sound.life with
  | opened _ none_ => simp [none_] at at_
  | draining stage _ one waits =>
    -- A draining `Close` is not yet closing.
    rw [one, List.getElem?_singleton] at at_
    split at at_
    · exact absurd (Option.some.inj at_) (waits k)
    · simp at at_
  | closing k' shut one more idle closes =>
    -- The one `Close` that is closing is this one.
    rw [one, List.getElem?_singleton] at at_
    split at at_
    · rename_i first
      simp only [Option.some.injEq, CloserStage.closing.injEq] at at_
      subst at_
      exact ⟨first, shut, one, more, idle, closes⟩
    · simp at at_
  | closed _ none_ => simp [none_] at at_

/-- `Close` closes one descriptor after another. -/
theorem Sound.closeFD (sound : c.Sound) {i k : Nat} (at_ : c.closers[i]? = some (.closing k)) {fd : FD}
    (next : closeOrder[k]? = some fd) :
    Sound { c with
      closes := Function.update c.closes fd (c.closes fd + 1)
      closers := if k + 1 < closeOrder.length then c.closers.set i (.closing (k + 1)) else c.closers.eraseIdx i } := by
  obtain ⟨rfl, shut, one, more, idle, closes⟩ := sound.closing_spec at_
  refine ⟨sound.ops, sound.wake, sound.pending, ?_⟩
  have order : closeOrder.length = 3 := rfl
  rw [order] at more
  -- Each of the three steps closes its own descriptor, which nobody has closed yet.
  have each : ∀ other, Function.update c.closes fd (c.closes fd + 1) other =
      if other ∈ closeOrder.take (k + 1) then 1 else 0 := by
    intro other
    rw [Function.update_apply, closes fd, closes other]
    rcases (by omega : k = 0 ∨ k = 1 ∨ k = 2) with rfl | rfl | rfl
    all_goals
      simp only [closeOrder, List.getElem?_cons_zero, List.getElem?_cons_succ, Option.some.injEq] at next
      subst next
      cases other with
      | device => simp [closeOrder]
      | wake side => cases side <;> simp [closeOrder]
  by_cases last : k + 1 < closeOrder.length
  · -- There are more descriptors to close.
    refine .closing (k + 1) shut ?_ last idle each
    simp [last, one]
  · -- It was the last of the three.
    have two : k = 2 := by omega
    refine .closed shut ?_ idle fun other => ?_
    · simp [last, one]
    · refine (each other).trans (if_pos ?_)
      subst two
      cases other with
      | device => simp [closeOrder]
      | wake side => cases side <;> simp [closeOrder]

/-- Every step keeps the connection sound. -/
theorem Sound.moves (sound : c.Sound) {event : Event} (moves : c.Moves event c') : c'.Sound := by
  cases moves with
  -- The moves of an operation keep what it holds, and none of them starts a stale poll.
  | begin_ at_ => exact sound.enter (by simp [at_, Stage.holds]) (by simp)
  | acquireOp at_ valid => exact sound.acquireOp at_ valid
  | refuseOp at_ => exact sound.enter (by simp [at_, Stage.holds]) (by simp)
  | expire at_ => exact sound.enter (by simp [at_, Stage.holds]) (by simp)
  | @park side _ deadline at_ =>
    -- A poll that parks has the deadline it waited with.
    refine sound.enter (by simp [at_, Stage.holds]) fun other same stale => ?_
    simp only [Stage.parked.injEq, reduceCtorEq, false_or] at same
    exact sound.pending side deadline (.inl at_) (same ▸ stale)
  | @pollReturns side _ deadline stage at_ holds repeated returned =>
    -- Without a pending wake-up the deadline of a repeated poll is not out of date.
    refine sound.enter (by rw [at_, holds]; rfl) fun other same stale => ?_
    have again : stage = .waiting other := same.resolve_right (returned other)
    exact sound.pending side deadline (.inr at_) (repeated other again ▸ stale)
  | drained at_ => exact sound.enter (by simp [at_, Stage.holds]) (by simp)
  | drain at_ => exact sound.drain at_
  | transfer at_ => exact sound.enter (by simp [at_, Stage.holds]) (by simp)
  | releaseOp at_ => exact sound.releaseOp at_
  | acquireFD valid => exact sound.acquireFD valid
  | ioctl => exact sound.ioctl _
  | releaseControl at_ => exact sound.releaseControl at_
  | setDeadline valid => exact sound.setDeadline valid _ _
  | close valid woken => exact sound.close valid fun side => woken side ((sound.wake side).trans valid)
  | recheck at_ => exact sound.recheck at_
  | closeFD at_ next => exact sound.closeFD at_ next
  | refuse => exact sound

/-! What a step of a sound connection does with the descriptors. -/

/-- A valid connection has not been closed. -/
theorem Sound.not_closed_of_valid (sound : c.Sound) (valid : c.fdValid = true) : ∀ fd, c.closes fd = 0 := by
  cases sound.life with
  | opened _ _ zero => exact zero
  | draining _ shut => simp [valid] at shut
  | closing _ shut => simp [valid] at shut
  | closed shut => simp [valid] at shut

/-- Every descriptor is closed at most once. -/
theorem Sound.closes_le_one (sound : c.Sound) (fd : FD) : c.closes fd ≤ 1 := by
  cases sound.life with
  | opened _ _ zero => simp [zero]
  | draining _ _ _ _ zero => simp [zero]
  | closing _ _ _ _ _ closes =>
    rw [closes]
    split <;> omega
  | closed _ _ _ one => simp [one]

/-- An operation with descriptors uses the connection. -/
theorem inUse_of_stage {side : Side} {stage : Stage} (at_ : c.stage side = stage) (holds : stage.holds = true) :
    c.InUse := by
  refine .inl ⟨side, ?_⟩
  rw [at_, holds]

/-- A step that makes a system call is one of an operation with descriptors, or finds the connection valid. -/
theorem Moves.inUse_of_uses {event : Event} (moves : c.Moves event c') {fd : FD} (uses : c.Uses fd event) :
    c.InUse ∨ c.fdValid = true := by
  cases moves with
  | begin_ | acquireOp | refuseOp | releaseOp | acquireFD | releaseControl | recheck | closeFD => exact absurd uses id
  | expire at_ => exact .inl (inUse_of_stage at_ rfl)
  | park at_ => exact .inl (inUse_of_stage at_ rfl)
  | pollReturns at_ => exact .inl (inUse_of_stage at_ rfl)
  | drained at_ => exact .inl (inUse_of_stage at_ rfl)
  | drain at_ => exact .inl (inUse_of_stage at_ rfl)
  | transfer at_ => exact .inl (inUse_of_stage at_ rfl)
  | ioctl at_ => exact .inl (.inr fun none_ => by simp [none_] at at_)
  | setDeadline valid => exact .inr valid
  | close valid => exact .inr valid
  | refuse _ none_ => exact absurd uses (none_ fd)

/-- An operation that keeps descriptors or has none gives them to nobody. -/
private theorem holds_enter {side : Side} {stage : Stage}
    (kept : stage.holds = true → (c.stage side).holds = true) (other : Side)
    (holds : ((c.enter side stage).stage other).holds = true) : (c.stage other).holds = true := by
  rw [stage_enter] at holds
  split at holds
  · rename_i own
    rw [own]
    exact kept holds
  · exact holds

/-- Nobody gets the descriptors of an invalidated connection. -/
theorem Moves.refuses {event : Event} (moves : c.Moves event c') (shut : c.fdValid = false) :
    (∀ side, (c'.stage side).holds = true → (c.stage side).holds = true) ∧
      c'.controls.length ≤ c.controls.length := by
  cases moves with
  -- The moves that give a descriptor need a valid connection, and the others give none.
  | begin_ | refuseOp => exact ⟨holds_enter (by simp [Stage.holds]), le_rfl⟩
  | acquireOp _ valid | acquireFD valid | setDeadline valid | close valid => simp [shut] at valid
  | expire at_ | park at_ | pollReturns at_ | drained at_ | transfer at_ =>
    exact ⟨holds_enter fun _ => by simp [at_, Stage.holds], le_rfl⟩
  | @releaseOp side again at_ =>
    -- Giving back is no getting.
    obtain ⟨-, stage, controls, -⟩ := c.releaseFD_frame
    refine ⟨fun other holds => ?_, by simp [Conn.enter, controls]⟩
    rw [← stage]
    exact holds_enter (fun _ => by simp [stage, at_, Stage.holds]) other holds
  | drain | recheck | closeFD | refuse => exact ⟨fun _ holds => holds, le_rfl⟩
  | ioctl => exact ⟨fun _ holds => holds, by simp⟩
  | releaseControl =>
    obtain ⟨-, stage, -⟩ := c.releaseFD_frame
    exact ⟨fun side holds => stage ▸ holds, List.length_eraseIdx_le _ _⟩

/-- Every step of a sound connection is safe. -/
theorem Sound.stepSafe (sound : c.Sound) {event : Event} (moves : c.Moves event c') : c.StepSafe event c' := by
  refine ⟨?_, fun fd uses => ?_, moves.refuses⟩
  · rintro i rfl used
    have positive := (holders_pos_iff c).mpr used
    cases moves with
    | closeFD at_ next =>
      have idle := (sound.closing_spec at_).2.2.2.2.1
      rw [sound.ops] at idle
      omega
    | refuse _ _ other => exact other i rfl
  · rcases moves.inUse_of_uses uses with used | valid
    · exact sound.not_closed used fd
    · exact sound.not_closed_of_valid valid fd

end Conn

/-- The connection is sound in every reachable state. -/
theorem conn_sound {trace : List (Conn × Event)} {c : Conn} (run : conn.Runs trace c) : c.Sound := by
  refine Machine.Runs.stateInvariant ?_ (fun c event c' sound stepped => sound.moves (Conn.step_moves stepped)) run
  exact ⟨rfl, fun _ => rfl, by simp [conn], .opened rfl rfl fun _ => rfl⟩

/--
In every run, descriptors are closed at most once and only when nobody has them, and no wake-up is lost.

No step makes a system call on a closed descriptor, and nobody gets the descriptors of an invalidated connection. An
operation in `poll` on an invalidated connection, or with another deadline than the one last set, has a pending wake-up.
-/
theorem conn_safe {trace : List (Conn × Event)} {c : Conn} (run : conn.Runs trace c) :
    (∀ fd, c.closes fd ≤ 1) ∧ (c.InUse → ∀ fd, c.closes fd = 0) ∧
      (∀ before s event after s', trace = before ++ (s, event) :: after → s.step event = some s' →
        s.StepSafe event s') ∧
      ∀ side deadline, c.stage side = .parked deadline → c.fdValid = false ∨ deadline ≠ c.deadline side →
        0 < c.counter side := by
  have sound := conn_sound run
  refine ⟨sound.closes_le_one, sound.not_closed, ?_, fun side deadline at_ => sound.pending side deadline (.inr at_)⟩
  intro before s event after s' split stepped
  subst split
  exact (conn_sound run.accepted.1).stepSafe (Conn.step_moves stepped)

/-- A reader is in `poll` when the connection is closed, and is woken by it. -/
def closeEvents : List Event :=
  [.begin_ .read, .acquireOp .read, .poll .read false, .close, .pollReturns .read (.events .nothing), .drain .read,
    .drain .read, .releaseOp .read, .acquireOp .read, .recheck 0, .closeFD 0, .closeFD 0, .closeFD 0]

/-- After these steps every descriptor has been closed once, and the reader has returned. -/
theorem closeEvents_safe : ∃ trace c, conn.Runs trace c ∧ c.stage .read = .idle ∧ c.closes .device = 1 ∧
    (∀ fd, c.closes fd ≤ 1) ∧ (c.InUse → ∀ fd, c.closes fd = 0) := by
  have glance : (conn.runFrom conn.init closeEvents).map (fun run => (run.2.stage .read, run.2.closes .device)) =
      some (.idle, 1) := by decide +kernel
  obtain ⟨trace, c, run, -, seen⟩ := Machine.exists_runs glance
  simp only [Prod.mk.injEq] at seen
  exact ⟨trace, c, run, seen.1, seen.2, (conn_safe run).1, (conn_safe run).2.1⟩

/-- A reader whose poll has reported the device, when the connection is closed. -/
def lateEvents : List Event :=
  [.begin_ .read, .acquireOp .read, .poll .read false, .pollReturns .read (.events .ready), .close]

/-- The reader then still reads from the device that `Close` has invalidated. -/
theorem lateEvents_used : ∃ trace c c', conn.Runs trace c ∧ c.fdValid = false ∧
    c.step (.transfer .read false) = some c' ∧ c.Uses .device (.transfer .read false) := by
  have glance : (conn.runFrom conn.init lateEvents).map (fun run => (run.2.fdValid, run.2.stage .read)) =
      some (false, .ready) := by decide +kernel
  obtain ⟨trace, c, run, -, seen⟩ := Machine.exists_runs glance
  simp only [Prod.mk.injEq] at seen
  have reads : c.step (.transfer .read false) = some (c.enter .read (.finishing false)) := if_pos seen.2
  exact ⟨trace, c, _, run, seen.1, reads, rfl⟩

end Wwan.Cdcwdm
