import Wwan.Qcom.IncrementalScan

/-! Which updates an incremental scan delivers, and when it is aborted. -/

namespace Wwan.Qcom.Nas

/-! What a stream is for. -/

/-- The update that an indication carries, if it can be decoded. -/
def decode? (tlvs : List TLV) : Option Update := (Update.unmarshalTLVs tlvs).toOption

/-- The scan is over with this update. -/
def Update.Finishing (u : Update) : Prop := u.status ≠ Status.partially ∧ u.status ≠ Status.partialPeriodic

/-- An update that finishes the scan was delivered. -/
def Scan.Finished (s : Scan) : Prop := ∃ u ∈ s.out.sent, u.Finishing

/-- The stream has ended, but for the channel that may still have to be closed. -/
def Scan.Over (s : Scan) : Prop := s.phase = .releasing ∨ s.phase = .closed

/-- What the environment has done is the same in both states. -/
def Scan.SameOutside (s s' : Scan) : Prop :=
  s'.arrived = s.arrived ∧ s'.ended = s.ended ∧ s'.cancelled = s.cancelled

/-- The goroutine and the caller bring the stream to its end, or to a point where it waits for another indication. -/
def Rests (base s : Scan) : Prop :=
  ∃ s', (machine base).Leads s s' ∧ s.SameOutside s' ∧ (s'.Over ∨ s'.phase = .reading ∧ s'.waiting = [])

/-- The stream delivers what arrives in order, until it is cancelled or the scan is finished, and an abort is sent
exactly for a scan that was not finished. -/
structure Scan.Streams (s : Scan) : Prop where
  /-- There are no gaps. -/
  inOrder : s.out.sent.map some <+: s.arrived.map decode?
  /-- Nothing is delivered after an update that finishes the scan. -/
  last : ∀ before u after, s.out.sent = before ++ u :: after → u.Finishing → after = []
  /-- A stream that waits has delivered everything. -/
  idle : s.phase = .reading → s.waiting = [] → s.out.sent.map some = s.arrived.map decode?
  rests : Rests s s
  /-- A stream ends because it was cancelled or finished, or because there is nothing more or nothing that can be
  decoded. -/
  whole : s.Over → s.cancelled = true ∨ s.Finished ∨ (s.ended = true ∧ s.out.sent.map some = s.arrived.map decode?)
    ∨ none ∈ s.arrived.map decode?
  /-- An abort was sent for the transaction of the scan, once, or the scan was finished and none was sent. -/
  abort : s.Over → (s.Finished ∧ s.aborts = []) ∨ (¬s.Finished ∧ s.aborts = [s.transactionID])

/-- The step that ends a stream after an update that does not finish the scan, or without the abort that is due. -/
def Breaks (s : Scan) : Event → Prop
  | .abort sent => s.out.sent.getLast?.map Update.status = some Status.partialPeriodic
      ∨ (s.phase = .leaving false ∧ sent = false)
  | .arrive _ | .endIndications | .cancel | .receive | .read | .send | .giveUp | .close => False

instance (s : Scan) : DecidablePred (Breaks s)
  | .abort sent => inferInstanceAs (Decidable (s.out.sent.getLast?.map Update.status = some Status.partialPeriodic
      ∨ (s.phase = .leaving false ∧ sent = false)))
  | .arrive _ | .endIndications | .cancel | .receive | .read | .send | .giveUp | .close => .isFalse id

/-! The stages of a stream. -/

/-- No update but partial ones. -/
def Partials (updates : List Update) : Prop := ∀ u ∈ updates, u.status = Status.partially

/-- How far a stream has come with the indications that it has taken. -/
inductive Stage (s : Scan) (taken : List (List TLV)) : Prop where
  | reading (phase : s.phase = .reading) (none : s.aborts = []) (partials : Partials s.out.sent)
      (delivered : s.out.sent.map some = taken.map decode?)
  | sending (u : Update) (phase : s.phase = .sending u) (none : s.aborts = []) (partials : Partials s.out.sent)
      (delivered : s.out.sent.map some ++ [some u] = taken.map decode?)
  /-- The loop was left after an update that the code takes for the end. -/
  | terminal (earlier : List Update) (u : Update) (phase : s.phase = .leaving true) (none : s.aborts = [])
      (sent : s.out.sent = earlier ++ [u]) (partials : Partials earlier) (other : u.status ≠ Status.partially)
      (delivered : s.out.sent.map some = taken.map decode?)
  | givenUp (phase : s.phase = .leaving false) (none : s.aborts = []) (partials : Partials s.out.sent)
      (delivered : s.out.sent.map some <+: taken.map decode?)
      (cause : s.cancelled = true
        ∨ (s.ended = true ∧ s.waiting = [] ∧ s.out.sent.map some = taken.map decode?)
        ∨ Option.none ∈ taken.map decode?)
  | ended (phase : s.Over) (delivered : s.out.sent.map some <+: taken.map decode?)
      (last : ∀ before u after, s.out.sent = before ++ u :: after → u.Finishing → after = [])
      (whole : s.cancelled = true ∨ s.Finished
        ∨ (s.ended = true ∧ s.waiting = [] ∧ s.out.sent.map some = taken.map decode?)
        ∨ Option.none ∈ taken.map decode?)
      (abort : (s.Finished ∧ s.aborts = []) ∨ (¬s.Finished ∧ s.aborts = [s.transactionID]))

/-- What holds of a stream in which no step breaks. -/
structure Inv (s : Scan) : Prop where
  capacity : s.out.capacity = 8
  bounded : s.out.buffer.length ≤ 8
  isOpen : s.phase ≠ .closed → s.out.closed = false
  stage : ∃ taken, s.arrived = taken ++ s.waiting ∧ Stage s taken

/-- Partial updates do not finish the scan. -/
theorem Partials.not_finishing {updates : List Update} (partials : Partials updates) {u : Update} (there : u ∈ updates) :
    ¬u.Finishing := fun finishing => finishing.1 (partials u there)

/-- Only the update after partial ones can finish the scan. -/
theorem Partials.last {earlier : List Update} (partials : Partials earlier) (u : Update) (before : List Update)
    (v : Update) (after : List Update) (split : earlier ++ [u] = before ++ v :: after) (ends : v.Finishing) :
    after = [] := by
  rcases List.eq_nil_or_concat after with rfl | ⟨rest, w, rfl⟩
  · rfl
  · rw [List.concat_eq_append, ← List.cons_append, ← List.append_assoc] at split
    have inside : v ∈ earlier := by
      rw [(List.append_inj' split rfl).1]
      simp
    exact absurd ends (partials.not_finishing inside)

/-- A scan begins with nothing. -/
theorem inv_start (transactionID : UInt16) : Inv { transactionID := transactionID } where
  capacity := rfl
  bounded := Nat.zero_le _
  isOpen := fun _ => rfl
  stage := ⟨[], rfl, .reading rfl rfl (by simp [Partials]) rfl⟩

/-- Events around the goroutine keep its stage. -/
theorem Stage.mono {s s' : Scan} {taken : List (List TLV)} (stage : Stage s taken) (phase : s'.phase = s.phase)
    (aborts : s'.aborts = s.aborts) (sent : s'.out.sent = s.out.sent) (transaction : s'.transactionID = s.transactionID)
    (cancelled : s.cancelled = true → s'.cancelled = true)
    (ended : s.ended = true → s.waiting = [] → s'.ended = true ∧ s'.waiting = []) : Stage s' taken := by
  have finished : s'.Finished ↔ s.Finished := by rw [Scan.Finished, sent, Scan.Finished]
  cases stage with
  | reading at_ none partials delivered =>
    exact .reading (phase.trans at_) (aborts.trans none) (sent ▸ partials) (sent ▸ delivered)
  | sending u at_ none partials delivered =>
    exact .sending u (phase.trans at_) (aborts.trans none) (sent ▸ partials) (sent ▸ delivered)
  | terminal earlier u at_ none last partials other delivered =>
    exact .terminal earlier u (phase.trans at_) (aborts.trans none) (sent.trans last) partials other (sent ▸ delivered)
  | givenUp at_ none partials delivered cause =>
    refine .givenUp (phase.trans at_) (aborts.trans none) (sent ▸ partials) (sent ▸ delivered) ?_
    refine cause.imp cancelled (Or.imp_left fun drained => ?_)
    exact ⟨(ended drained.1 drained.2.1).1, (ended drained.1 drained.2.1).2, sent ▸ drained.2.2⟩
  | ended at_ delivered last whole abort =>
    refine .ended (by rw [Scan.Over, phase]; exact at_) (sent ▸ delivered) (sent ▸ last) ?_ ?_
    · refine whole.imp cancelled (Or.imp finished.mpr (Or.imp_left fun drained => ?_))
      exact ⟨(ended drained.1 drained.2.1).1, (ended drained.1 drained.2.1).2, sent ▸ drained.2.2⟩
    · rw [finished, aborts, transaction]
      exact abort

/-- The goroutine takes an indication. -/
theorem Inv.read {s s' : Scan} (inv : Inv s) (stepped : step s .read = some s') : Inv s' := by
  obtain ⟨capacity, bounded, isOpen, taken, arrived, stage⟩ := inv
  unfold step at stepped
  cases stage with
  | reading phase none partials delivered =>
    rw [phase] at stepped isOpen
    cases waiting : s.waiting with
    | nil =>
      -- The indications have ended, and all of them were delivered.
      rw [waiting] at stepped arrived
      simp only [Option.ite_none_right_eq_some, Option.some.injEq] at stepped
      obtain ⟨ended, rfl⟩ := stepped
      refine ⟨capacity, bounded, fun _ => isOpen (by simp), taken, arrived, ?_⟩
      exact .givenUp rfl none partials (delivered ▸ List.prefix_rfl) (.inr (.inl ⟨ended, rfl, delivered⟩))
    | cons tlvs rest =>
      rw [waiting] at stepped arrived
      -- The indication is the next one that has arrived.
      have more : s.arrived = (taken ++ [tlvs]) ++ rest := by rw [arrived, List.append_assoc, List.singleton_append]
      cases decoded : Update.unmarshalTLVs tlvs with
      -- It is decoded and will be delivered.
      | ok u =>
        simp only [decoded, Option.some.injEq] at stepped
        subst stepped
        refine ⟨capacity, bounded, fun _ => isOpen (by simp), taken ++ [tlvs], more, ?_⟩
        exact .sending u rfl none partials (by simp [delivered, decode?, decoded, Except.toOption])
      -- It cannot be decoded, and the loop is given up.
      | error fault =>
        simp only [decoded, Option.some.injEq] at stepped
        subst stepped
        refine ⟨capacity, bounded, fun _ => isOpen (by simp), taken ++ [tlvs], more, ?_⟩
        refine .givenUp rfl none partials ?_ (.inr (.inr ?_))
        · rw [delivered, List.map_append]
          exact List.prefix_append _ _
        · simp [decode?, decoded, Except.toOption]
  | sending u phase none partials delivered => simp [phase] at stepped
  | terminal earlier u phase none sent partials other delivered => simp [phase] at stepped
  | givenUp phase none partials delivered cause => simp [phase] at stepped
  | ended phase delivered last whole abort => rcases phase with phase | phase <;> simp [phase] at stepped

/-- The goroutine delivers an update. -/
theorem Inv.send {s s' : Scan} (inv : Inv s) (stepped : step s .send = some s') : Inv s' := by
  obtain ⟨capacity, bounded, isOpen, taken, arrived, stage⟩ := inv
  unfold step at stepped
  cases stage with
  | sending u phase none partials delivered =>
    simp only [phase, Option.map_eq_some_iff] at stepped
    obtain ⟨out, pushed, rfl⟩ := stepped
    obtain ⟨stillOpen, room, rfl⟩ := Chan.send?_eq_some.mp pushed
    -- The channel has room, so that the send stays within its capacity.
    simp only [Chan.hasRoom, capacity, decide_eq_true_eq] at room
    refine ⟨capacity, by simp; omega, fun _ => stillOpen, taken, arrived, ?_⟩
    have all : (s.out.push u).sent.map some = taken.map decode? := by simpa using delivered
    by_cases other : u.status ≠ Status.partially
    · -- Any status but a partial one ends the loop.
      exact .terminal s.out.sent u (by simp [other]) none rfl partials other all
    · -- A partial update is followed by others.
      refine .reading (by simp [other]) none (fun v there => ?_) all
      rcases List.mem_append.mp there with early | late
      · exact partials v early
      · rw [List.mem_singleton.mp late]
        exact not_not.mp other
  | reading phase none partials delivered => simp [phase] at stepped
  | terminal earlier u phase none sent partials other delivered => simp [phase] at stepped
  | givenUp phase none partials delivered cause => simp [phase] at stepped
  | ended phase delivered last whole abort => rcases phase with phase | phase <;> simp [phase] at stepped

/-- The goroutine gives up. -/
theorem Inv.giveUp {s s' : Scan} (inv : Inv s) (stepped : step s .giveUp = some s') : Inv s' := by
  obtain ⟨capacity, bounded, isOpen, taken, arrived, stage⟩ := inv
  unfold step at stepped
  cases stage with
  | sending u phase none partials delivered =>
    rw [phase] at stepped isOpen
    simp only [Option.ite_none_right_eq_some, Option.some.injEq] at stepped
    obtain ⟨cancelled, rfl⟩ := stepped
    refine ⟨capacity, bounded, fun _ => isOpen (by simp), taken, arrived, .givenUp rfl none partials ?_ (.inl cancelled)⟩
    rw [← delivered]
    exact List.prefix_append _ _
  | reading phase none partials delivered => simp [phase] at stepped
  | terminal earlier u phase none sent partials other delivered => simp [phase] at stepped
  | givenUp phase none partials delivered cause => simp [phase] at stepped
  | ended phase delivered last whole abort => rcases phase with phase | phase <;> simp [phase] at stepped

/-- The deferred function aborts a scan that was not finished, unless the code has taken another update for the end. -/
theorem Inv.abort {s s' : Scan} {sent : Bool} (inv : Inv s) (fine : ¬Breaks s (.abort sent))
    (stepped : step s (.abort sent) = some s') : Inv s' := by
  obtain ⟨capacity, bounded, isOpen, taken, arrived, stage⟩ := inv
  unfold step at stepped
  cases stage with
  | terminal earlier u phase none last partials other delivered =>
    simp only [phase, Bool.not_true, Bool.false_and, Bool.false_eq_true, ↓reduceIte, Option.some.injEq] at stepped
    subst stepped
    -- The update that ended the loop is not a partial one of a periodic scan, so that it finishes the scan.
    have finishing : u.Finishing := ⟨other, fun periodic => fine (.inl (by simp [last, periodic]))⟩
    have finished : s.Finished := ⟨u, by rw [last]; simp, finishing⟩
    refine ⟨capacity, bounded, fun _ => isOpen (by simp [phase]), taken, arrived, ?_⟩
    refine .ended (.inl rfl) (delivered ▸ List.prefix_rfl) ?_ (.inr (.inl finished)) (.inl ⟨finished, none⟩)
    exact fun before v after split => partials.last u before v after (last.symm.trans split)
  | givenUp phase none partials delivered cause =>
    -- The abort was sent, since a step without it breaks.
    have isSent : sent = true := by
      by_contra refused
      exact fine (.inr ⟨phase, by simpa using refused⟩)
    simp only [phase, isSent, Bool.not_false, Bool.and_self, ↓reduceIte, none, List.nil_append, Option.some.injEq]
      at stepped
    subst stepped
    -- Partial updates do not finish the scan.
    have unfinished : ¬s.Finished := by
      rintro ⟨u, there, finishing⟩
      exact partials.not_finishing there finishing
    refine ⟨capacity, bounded, fun _ => isOpen (by simp [phase]), taken, arrived, ?_⟩
    refine .ended (.inl rfl) delivered ?_ (cause.imp_right .inr) (.inr ⟨unfinished, rfl⟩)
    intro before u after split ends
    exact absurd ends (partials.not_finishing (by rw [split]; simp))
  | reading phase none partials delivered => simp [phase] at stepped
  | sending u phase none partials delivered => simp [phase] at stepped
  | ended phase delivered last whole abort => rcases phase with phase | phase <;> simp [phase] at stepped

/-- The stream is closed. -/
theorem Inv.close {s s' : Scan} (inv : Inv s) (stepped : step s .close = some s') : Inv s' := by
  obtain ⟨capacity, bounded, isOpen, taken, arrived, stage⟩ := inv
  unfold step at stepped
  cases stage with
  | ended phase delivered last whole abort =>
    rcases phase with phase | phase
    · simp only [phase, Option.some.injEq] at stepped
      subst stepped
      exact ⟨capacity, bounded, by simp, taken, arrived, .ended (.inr rfl) delivered last whole abort⟩
    · simp [phase] at stepped
  | reading phase none partials delivered => simp [phase] at stepped
  | sending u phase none partials delivered => simp [phase] at stepped
  | terminal earlier u phase none sent partials other delivered => simp [phase] at stepped
  | givenUp phase none partials delivered cause => simp [phase] at stepped

/-- Every step that does not break keeps the invariant. -/
theorem Inv.step {s s' : Scan} {e : Event} (inv : Inv s) (fine : ¬Breaks s e) (stepped : step s e = some s') :
    Inv s' := by
  cases e with
  | read => exact inv.read stepped
  | send => exact inv.send stepped
  | giveUp => exact inv.giveUp stepped
  | abort sent => exact inv.abort fine stepped
  | close => exact inv.close stepped
  -- What arrives is behind all that was taken.
  | arrive tlvs =>
    obtain ⟨capacity, bounded, isOpen, taken, arrived, stage⟩ := inv
    simp only [Nas.step, Option.ite_none_left_eq_some, Option.some.injEq] at stepped
    obtain ⟨more, rfl⟩ := stepped
    refine ⟨capacity, bounded, isOpen, taken, by simp [arrived], ?_⟩
    exact stage.mono rfl rfl rfl rfl id fun ended => absurd ended more
  | endIndications =>
    -- The end of the indications changes nothing that was delivered.
    obtain ⟨capacity, bounded, isOpen, taken, arrived, stage⟩ := inv
    cases stepped
    exact ⟨capacity, bounded, isOpen, taken, arrived, stage.mono rfl rfl rfl rfl id fun _ waiting => ⟨rfl, waiting⟩⟩
  | cancel =>
    obtain ⟨capacity, bounded, isOpen, taken, arrived, stage⟩ := inv
    cases stepped
    exact ⟨capacity, bounded, isOpen, taken, arrived, stage.mono rfl rfl rfl rfl (fun _ => rfl) fun ended waiting =>
      ⟨ended, waiting⟩⟩
  | receive =>
    obtain ⟨capacity, bounded, isOpen, taken, arrived, stage⟩ := inv
    simp only [Nas.step, Option.ite_none_left_eq_some, Option.some.injEq] at stepped
    obtain ⟨-, rfl⟩ := stepped
    refine ⟨capacity, ?_, isOpen, taken, arrived, stage.mono rfl rfl rfl rfl id fun ended waiting => ⟨ended, waiting⟩⟩
    simp only [Chan.pop_buffer, List.length_tail]
    omega

/-! The stream goes on. -/

section

variable (base : Scan)

/-- One step more on the way. -/
theorem Rests.cons {s t : Scan} {e : Event} (stepped : step s e = some t) (same : s.SameOutside t)
    (rests : Rests base t) : Rests base s := by
  obtain ⟨s', leads, outside, there⟩ := rests
  exact ⟨s', .cons stepped leads, ⟨outside.1.trans same.1, outside.2.1.trans same.2.1, outside.2.2.trans same.2.2⟩, there⟩

/-- A goroutine that has left the loop comes to the end. -/
theorem rests_leaving {s : Scan} {terminal : Bool} (phase : s.phase = .leaving terminal) : Rests base s := by
  have stepped : step s (.abort true) = some { s with
      aborts := if !terminal && true then s.aborts ++ [s.transactionID] else s.aborts, phase := .releasing } := by
    simp only [step, phase]
  exact .cons base stepped ⟨rfl, rfl, rfl⟩ ⟨_, .refl _, ⟨rfl, rfl, rfl⟩, .inl (.inl rfl)⟩

/-- A goroutine that has room for its update goes on with the next one. -/
theorem rests_room {s : Scan} {u : Update} (inv : Inv s) (phase : s.phase = .sending u)
    (room : s.out.buffer.length < 8)
    (next : ∀ t, Inv t → t.phase = .reading → t.waiting = s.waiting → Rests base t) : Rests base s := by
  have pushed : s.out.send? u = some (s.out.push u) :=
    Chan.send?_eq_some.mpr ⟨inv.isOpen (by simp [phase]), by simp [Chan.hasRoom, inv.capacity, room], rfl⟩
  have stepped : step s .send = some { s with
      out := s.out.push u, phase := if u.status ≠ Status.partially then .leaving true else .reading } := by
    simp only [step, phase, pushed, Option.map_some]
  refine .cons base stepped ⟨rfl, rfl, rfl⟩ ?_
  by_cases other : u.status ≠ Status.partially
  · exact rests_leaving base (by simp only [if_pos other]; rfl)
  · exact next _ (inv.step (e := .send) (by simp [Breaks]) stepped) (by simp only [if_neg other]) rfl

/-- A goroutine with an update goes on when the caller takes one from a full stream. -/
theorem rests_sending {s : Scan} {u : Update} (inv : Inv s) (phase : s.phase = .sending u)
    (next : ∀ t, Inv t → t.phase = .reading → t.waiting = s.waiting → Rests base t) : Rests base s := by
  by_cases room : s.out.buffer.length < 8
  · exact rests_room base inv phase room next
  · have full : s.out.buffer ≠ [] := by
      intro empty
      simp [empty] at room
    have stepped : step s .receive = some { s with out := s.out.pop } := by
      simp only [step, full, ↓reduceIte]
    have popped := inv.step (e := .receive) (by simp [Breaks]) stepped
    refine .cons base stepped ⟨rfl, rfl, rfl⟩ (rests_room base popped phase ?_ next)
    have bounded := inv.bounded
    have positive := List.length_pos_iff.mpr full
    simp only [Chan.pop_buffer, List.length_tail]
    omega

/-- A goroutine that waits for indications takes those that are there. -/
theorem rests_reading (waiting : List (List TLV)) (s : Scan) (inv : Inv s) (phase : s.phase = .reading)
    (same : s.waiting = waiting) : Rests base s := by
  induction waiting generalizing s with
  | nil => exact ⟨s, .refl s, ⟨rfl, rfl, rfl⟩, .inr ⟨phase, same⟩⟩
  | cons tlvs rest ih =>
    cases decoded : Update.unmarshalTLVs tlvs with
    | ok u =>
      have stepped : step s .read = some { s with waiting := rest, phase := .sending u } := by
        simp only [step, phase, same, decoded]
      refine .cons base stepped ⟨rfl, rfl, rfl⟩ ?_
      exact rests_sending base (inv.step (e := .read) (by simp [Breaks]) stepped) rfl fun t inv phase waiting => ih t inv phase waiting
    | error fault =>
      have stepped : step s .read = some { s with waiting := rest, phase := .leaving false } := by
        simp only [step, phase, same, decoded]
      exact .cons base stepped ⟨rfl, rfl, rfl⟩ (rests_leaving base rfl)

/-- A stream goes on from everywhere. -/
theorem Inv.rests {s : Scan} (inv : Inv s) : Rests base s := by
  cases phase : s.phase with
  | reading => exact rests_reading base s.waiting s inv phase rfl
  | sending u => exact rests_sending base inv phase fun t inv phase _ => rests_reading base t.waiting t inv phase rfl
  | leaving terminal => exact rests_leaving base phase
  | releasing => exact ⟨s, .refl s, ⟨rfl, rfl, rfl⟩, .inl (.inl phase)⟩
  | closed => exact ⟨s, .refl s, ⟨rfl, rfl, rfl⟩, .inl (.inr phase)⟩

end

/-! The property of the runs. -/

/-- A stream in which no step has broken is as it should be. -/
theorem Inv.streams {s : Scan} (inv : Inv s) : s.Streams := by
  obtain ⟨taken, arrived, stage⟩ := inv.stage
  -- What was delivered is a beginning of what has arrived.
  have front : taken.map decode? <+: s.arrived.map decode? := by
    rw [arrived, List.map_append]
    exact List.prefix_append _ _
  -- Partial updates are all followed by nothing that finishes.
  have partly : ∀ {updates : List Update}, Partials updates → ∀ before u after,
      updates = before ++ u :: after → u.Finishing → after = [] := by
    intro updates partials before u after split ends
    exact absurd ends (partials.not_finishing (by rw [split]; simp))
  cases stage with
  | reading phase none partials delivered =>
    -- While the loop runs all that was taken has been delivered.
    refine ⟨delivered ▸ front, partly partials, fun _ waiting => ?_, inv.rests s, ?_, ?_⟩
    · rw [arrived, waiting, List.append_nil, delivered]
    · rintro (ended | ended) <;> simp [phase] at ended
    · rintro (ended | ended) <;> simp [phase] at ended
  | sending u phase none partials delivered =>
    refine ⟨?_, partly partials, by simp [phase], inv.rests s, ?_, ?_⟩
    · exact (List.prefix_append _ _).trans (delivered ▸ front)
    · rintro (ended | ended) <;> simp [phase] at ended
    · rintro (ended | ended) <;> simp [phase] at ended
  | terminal earlier u phase none sent partials other delivered =>
    refine ⟨delivered ▸ front, ?_, by simp [phase], inv.rests s, ?_, ?_⟩
    · exact fun before v after split => partials.last u before v after (sent.symm.trans split)
    · rintro (ended | ended) <;> simp [phase] at ended
    · rintro (ended | ended) <;> simp [phase] at ended
  | givenUp phase none partials delivered cause =>
    refine ⟨delivered.trans front, partly partials, by simp [phase], inv.rests s, ?_, ?_⟩
    · rintro (ended | ended) <;> simp [phase] at ended
    · rintro (ended | ended) <;> simp [phase] at ended
  | ended phase delivered last whole abort =>
    -- After the end the cause is one of those that the stream owes.
    refine ⟨delivered.trans front, last, ?_, inv.rests s, fun _ => ?_, fun _ => abort⟩
    · rcases phase with phase | phase <;> simp [phase]
    · refine whole.imp_right (Or.imp_right (Or.imp ?_ fun undecodable => front.subset undecodable))
      rintro ⟨ended, waiting, all⟩
      exact ⟨ended, by rw [arrived, waiting, List.append_nil, all]⟩

/-- A stream that has ended stays ended. -/
theorem Scan.Over.step {s s' : Scan} {e : Event} (ended : s.Over) (stepped : step s e = some s') : s'.Over := by
  cases e with
  | arrive tlvs =>
    -- Nothing around the goroutine makes it start again.
    simp only [Nas.step, Option.ite_none_left_eq_some, Option.some.injEq] at stepped
    obtain ⟨-, rfl⟩ := stepped
    exact ended
  | endIndications =>
    cases stepped
    exact ended
  | cancel =>
    cases stepped
    exact ended
  | receive =>
    simp only [Nas.step, Option.ite_none_left_eq_some, Option.some.injEq] at stepped
    obtain ⟨-, rfl⟩ := stepped
    exact ended
  | read => rcases ended with phase | phase <;> simp [Nas.step, phase] at stepped
  | send => rcases ended with phase | phase <;> simp [Nas.step, phase] at stepped
  | giveUp => rcases ended with phase | phase <;> simp [Nas.step, phase] at stepped
  | abort sent => rcases ended with phase | phase <;> simp [Nas.step, phase] at stepped
  | close =>
    -- It closes its channel once.
    rcases ended with phase | phase
    · simp only [Nas.step, phase, Option.some.injEq] at stepped
      subst stepped
      exact .inr rfl
    · simp [Nas.step, phase] at stepped

/-- Only the deferred function that aborts the scan can break. -/
theorem abort_of_breaks {s : Scan} {e : Event} (breaks : Breaks s e) : ∃ sent, e = .abort sent := by
  cases e with
  | abort sent => exact ⟨sent, rfl⟩
  | arrive tlvs => exact breaks.elim
  | endIndications => exact breaks.elim
  | cancel => exact breaks.elim
  | receive => exact breaks.elim
  | read => exact breaks.elim
  | send => exact breaks.elim
  | giveUp => exact breaks.elim
  | close => exact breaks.elim

/-- A step that breaks ends the stream. -/
theorem over_of_breaks {s s' : Scan} {e : Event} (breaks : Breaks s e) (stepped : step s e = some s') : s'.Over := by
  obtain ⟨sent, rfl⟩ := abort_of_breaks breaks
  cases phase : s.phase with
  | leaving terminal =>
    simp only [step, phase, Option.some.injEq] at stepped
    subst stepped
    exact .inl rfl
  | reading => simp [step, phase] at stepped
  | sending u => simp [step, phase] at stepped
  | releasing => simp [step, phase] at stepped
  | closed => simp [step, phase] at stepped

/-- Until it ends, a stream keeps the invariant. -/
theorem inv_or_over (transactionID : UInt16) {trace : List (Scan × Event)} {s : Scan}
    (run : (machine { transactionID := transactionID }).Runs trace s) : Inv s ∨ s.Over := by
  refine run.stateInvariant (P := fun s => Inv s ∨ s.Over) (.inl (inv_start transactionID)) ?_
  intro s e s' held stepped
  rcases held with inv | ended
  · by_cases breaks : Breaks s e
    · exact .inr (over_of_breaks breaks stepped)
    · exact .inl (inv.step breaks stepped)
  · exact .inr (ended.step stepped)

/-- A step that breaks leaves a stream that is not as it should be. -/
theorem not_streams_of_breaks {s s' : Scan} {e : Event} (inv : Inv s) (breaks : Breaks s e)
    (stepped : step s e = some s') : ¬s'.Streams := by
  intro streams
  have ended := over_of_breaks breaks stepped
  obtain ⟨sent, rfl⟩ := abort_of_breaks breaks
  -- No abort was sent, and no update that finishes the scan was delivered.
  suffices missed : ¬s'.Finished ∧ s'.aborts = [] by
    rcases streams.abort ended with finished | unfinished
    · exact missed.1 finished.1
    · exact absurd (missed.2.symm.trans unfinished.2) (by simp)
  obtain ⟨taken, arrived, stage⟩ := inv.stage
  cases stage with
  | terminal earlier u phase none last partials other delivered =>
    simp only [step, phase, Bool.not_true, Bool.false_and, Bool.false_eq_true, ↓reduceIte, Option.some.injEq]
      at stepped
    subst stepped
    -- The last update was a partial one of a periodic scan.
    rcases breaks with periodic | ⟨leaving, -⟩
    · simp only [last, List.getLast?_concat, Option.map_some, Option.some.injEq] at periodic
      refine ⟨?_, none⟩
      rintro ⟨w, there, finishing⟩
      rw [show s.out.sent = earlier ++ [u] from last] at there
      rcases List.mem_append.mp there with early | late
      · exact partials.not_finishing early finishing
      · rw [List.mem_singleton.mp late] at finishing
        exact finishing.2 periodic
    · exact absurd (phase.symm.trans leaving) (by simp)
  | givenUp phase none partials delivered cause =>
    -- The abort was refused.
    have refused : sent = false := by
      rcases breaks with periodic | ⟨-, refused⟩
      · obtain ⟨u, last, status⟩ := Option.map_eq_some_iff.mp periodic
        have partially := partials u (List.mem_of_getLast? last)
        exact absurd (status.symm.trans partially) (by decide)
      · exact refused
    simp only [step, phase, refused, Bool.not_false, Bool.and_false, Bool.false_eq_true, ↓reduceIte,
      Option.some.injEq] at stepped
    subst stepped
    refine ⟨?_, none⟩
    rintro ⟨u, there, finishing⟩
    exact partials.not_finishing there finishing
  | reading phase none partials delivered => simp [step, phase] at stepped
  | sending u phase none partials delivered => simp [step, phase] at stepped
  | ended phase delivered last whole abort => rcases phase with phase | phase <;> simp [step, phase] at stepped

/-- A scan that was started has the transaction of its request, and nothing else yet. -/
theorem incrementalNetworkScan_ok {scanType : Option UInt32} {answers : StartAnswers} {scan : Scan}
    (started : incrementalNetworkScan scanType answers = .ok scan) : scan = { transactionID := answers.transactionID } := by
  unfold incrementalNetworkScan at started
  -- Every exit of the start but the last is an error.
  cases encoded : marshalTLVs scanType with
  | error err =>
    rw [encoded] at started
    cases started
  | ok tlvs =>
    rw [encoded] at started
    cases ready : (!answers.indications || !answers.clientID || !answers.subscribed) with
    | true =>
      simp only [ready] at started
      cases started
    | false =>
      simp only [ready] at started
      cases answered : answers.response with
      | none =>
        rw [answered] at started
        cases started
      | some response =>
        rw [answered] at started
        cases result : resultError response with
        | some err =>
          simp only [result] at started
          cases started
        | none =>
          simp only [result] at started
          exact (Except.ok.inj started).symm

/-- The stream of a scan delivers what it should and is aborted when it should be, exactly if it does not end after an
update of a periodic scan or with an abort that the client refuses to send. -/
theorem incremental_scan_streams {scanType : Option UInt32} {answers : StartAnswers} {scan : Scan}
    (started : incrementalNetworkScan scanType answers = .ok scan) {trace : List (Scan × Event)} {last : Scan}
    (run : (machine scan).Runs trace last) :
    (machine scan).Throughout trace Scan.Streams ↔ ∀ step ∈ trace, ¬Breaks step.1 step.2 := by
  obtain rfl := incrementalNetworkScan_ok started
  refine Machine.Runs.throughout_iff (Q := Inv) (inv_start _) (fun s inv => inv.streams)
    (fun s e s' inv fine stepped => inv.step fine stepped) ?_ run
  intro before s e s' earlier breaks stepped
  rcases inv_or_over _ earlier with inv | ended
  · exact not_streams_of_breaks inv breaks stepped
  · -- A stream that has ended does not end again.
    obtain ⟨sent, rfl⟩ := abort_of_breaks breaks
    rcases ended with phase | phase <;> simp [machine, step, phase] at stepped

/-- A modem that has started a scan in the transaction 7. -/
def startedScan : StartAnswers where
  indications := true
  clientID := true
  subscribed := true
  transactionID := 7
  response := some [TLV.bytes 0x02 [0, 0, 0, 0]]

/-- An indication without networks. -/
def indication (status : UInt8) : List TLV := [TLV.bytes 0x01 [status, 0, 0, 0]]

/-- A partial update and the last one, after which the stream is closed. -/
def completeScan : List Event :=
  [.arrive (indication 1), .read, .send, .arrive (indication 0), .read, .send, .abort true, .close]

/-- A scan that completes is streamed as it should be. -/
theorem incremental_scan_streams_complete :
    ∃ trace last, (machine { transactionID := 7 }).Runs trace last ∧ last.phase = .closed
      ∧ last.out.sent = [{ status := 1 }, { status := 0 }]
      ∧ (machine { transactionID := 7 }).Throughout trace Scan.Streams := by
  have run := Machine.Runs.ofEvents (machine { transactionID := 7 }) completeScan rfl
  refine ⟨_, _, run, rfl, rfl, ?_⟩
  have started : incrementalNetworkScan none startedScan = .ok { transactionID := 7 } := rfl
  refine (incremental_scan_streams started run).mpr ?_
  decide

/-- The stream ends after an update of a periodic scan, which neither finishes the scan nor aborts it. -/
theorem periodic_update_ends_stream :
    ∃ trace last, (machine { transactionID := 7 }).Runs trace last ∧ ¬last.Streams := by
  have run := Machine.Runs.ofEvents (machine { transactionID := 7 })
    [.arrive (indication 5), .read, .send, .abort true, .close] rfl
  refine ⟨_, _, run, fun streams => ?_⟩
  rcases streams.abort (.inr rfl) with ⟨⟨u, there, finishing⟩, -⟩ | ⟨-, aborted⟩
  · rw [List.mem_singleton.mp there] at finishing
    exact finishing.2 rfl
  · cases aborted

end Wwan.Qcom.Nas
