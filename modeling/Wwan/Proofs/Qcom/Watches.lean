import Mathlib.Data.List.Nodup
import Wwan.Qcom.Watches

/-! A watch listens on the client ID that its indications are registered on, unless the client ID of the service is
forgotten under it. -/

namespace Wwan.Qcom.Watches

variable {R : Type} {s s' : State R}

/-- Every watch that has returned a channel listens on a client ID on which the modem has accepted its registration. -/
def State.Meets (s : State R) : Prop :=
  ∀ w registration clientID registered,
    s.watches w = some ⟨registration, .watching clientID registered⟩ → clientID ∈ registered

/-! The condition. -/

/-- A watch has got a client ID, and its registration is counted or about to be. -/
def State.UnderWay (s : State R) : Prop :=
  ∃ w watch clientID, s.watches w = some watch ∧ watch.stage.clientID = some clientID

/-- The call forgets the client ID of the service. -/
def State.Forgets (managed : Bool) (s : State R) (clientID : UInt8) (locked : Bool) : Prop :=
  locked = true ∧ (managed && !s.closed) = false ∧ s.clientID = some clientID

/-- The steps that forget the client ID of the service while a watch is under way. -/
def Breaks (managed : Bool) (s : State R) : Event R → Prop
  | .callForget w locked => s.UnderWay ∧ ∃ watch clientID, s.watches w = some watch ∧
      watch.stage.call = some (.told clientID) ∧ s.Forgets managed clientID locked
  | .forget clientID locked => s.UnderWay ∧ s.Forgets managed clientID locked
  | _ => False

/-! The shared client ID. -/

/-- What a call that asks for the client ID of the service gets, and how that changes the client. -/
theorem serviceClientID_spec {managed : Bool} {asked : Asked} {got : Option UInt8}
    (ran : s.serviceClientID managed asked = (got, s')) :
    (s' = s ∨ s.clientID = none ∧ managed = false ∧ s.closed = false ∧
      ∃ clientID, s' = { s with clientID := some clientID }) ∧
    ∀ clientID, got = some clientID →
      s'.closed = false ∧ (managed = true → clientID = 0) ∧ (managed = false → s'.clientID = some clientID) := by
  unfold State.serviceClientID at ran
  split at ran
  · cases ran
    exact ⟨.inl rfl, nofun⟩
  next free =>
  simp only [Bool.or_eq_true, Bool.not_eq_true', not_or, Bool.not_eq_false, Bool.not_eq_true] at free
  split at ran
  · next own =>
    -- A transport that gives out the IDs has none of its own for the service.
    cases ran
    refine ⟨.inl rfl, fun clientID given => ⟨free.2, fun _ => ?_, fun other => absurd own (by simp [other])⟩⟩
    split at given
    · exact (Option.some.inj given).symm
    · cases given
  next other =>
  rw [Bool.not_eq_true] at other
  split at ran
  · next clientID cached =>
    cases ran
    refine ⟨.inl rfl, fun clientID' given => ⟨free.2, fun own => absurd own (by simp [other]), fun _ => ?_⟩⟩
    rw [← given]
    exact cached
  next none =>
  split at ran
  · cases ran
    exact ⟨.inl rfl, nofun⟩
  next clientID granted =>
  split at ran
  · cases ran
    exact ⟨.inl rfl, nofun⟩
  · cases ran
    refine ⟨.inr ⟨none, other, free.2, clientID, rfl⟩, fun clientID' given =>
      ⟨free.2, fun own => absurd own (by simp [other]), fun _ => ?_⟩⟩
    split at given
    · exact given
    · cases given

/-- No watch moves while a call asks for the client ID. -/
theorem serviceClientID_watches {managed : Bool} {asked : Asked} {got : Option UInt8}
    (ran : s.serviceClientID managed asked = (got, s')) : s'.watches = s.watches := by
  rcases (serviceClientID_spec ran).1 with rfl | ⟨-, -, -, _, rfl⟩ <;> rfl

/-- What forgetting a client ID changes. -/
theorem forgetServiceClientID_spec {managed : Bool} {clientID : UInt8} {locked done : Bool}
    (ran : s.forgetServiceClientID managed clientID locked = (done, s')) :
    s' = s ∨ s.Forgets managed clientID locked ∧ s' = { s with clientID := none } := by
  unfold State.forgetServiceClientID at ran
  split at ran
  · cases ran
    exact .inl rfl
  next taken =>
  split at ran
  · cases ran
    exact .inl rfl
  next may =>
  cases ran
  split
  · next same => exact .inr ⟨⟨by simpa using taken, by simpa using may, same⟩, rfl⟩
  · exact .inl rfl

/-- No watch moves while a call forgets a client ID. -/
theorem forgetServiceClientID_watches {managed : Bool} {clientID : UInt8} {locked done : Bool}
    (ran : s.forgetServiceClientID managed clientID locked = (done, s')) : s'.watches = s.watches := by
  rcases forgetServiceClientID_spec ran with rfl | ⟨-, rfl⟩ <;> rfl

/-! The watches that are counted. -/

/-- The registration of the watch is counted. -/
def Stage.counted : Stage → Bool
  | .acquiring _ _ | .watching _ _ | .ended _ => true
  | .got _ | .subscribed _ | .releasing _ => false

/-- The watch has returned its channel, and is still counted. -/
def Stage.settled : Stage → Bool
  | .watching _ _ | .ended _ => true
  | .got _ | .subscribed _ | .acquiring _ _ | .releasing _ => false

/-- A watch is counted for a registration. -/
def State.Counted (s : State R) (w : WatchID) (registration : R) : Prop :=
  ∃ watch, s.watches w = some watch ∧ watch.registration = registration ∧ watch.stage.counted = true

/-- Where one watch moves on, any watch is that one or has not moved. -/
theorem moved_cases {w w' : WatchID} {new : Option (Watch R)} {watch : Watch R}
    (moved : s'.watches = Function.update s.watches w new) (at' : s'.watches w' = some watch) :
    w' = w ∧ new = some watch ∨ w' ≠ w ∧ s.watches w' = some watch := by
  rw [moved] at at'
  by_cases here : w' = w
  · rw [here, Function.update_self] at at'
    exact .inl ⟨here, at'⟩
  · rw [Function.update_of_ne here] at at'
    exact .inr ⟨here, at'⟩

/-- One watch moves on, and the others are counted as before. -/
theorem counted_update {w : WatchID} {new : Option (Watch R)} (moved : s'.watches = Function.update s.watches w new)
    (w' : WatchID) (registration : R) : s'.Counted w' registration ↔
      if w' = w then ∃ watch, new = some watch ∧ watch.registration = registration ∧ watch.stage.counted = true
      else s.Counted w' registration := by
  unfold State.Counted
  rw [moved]
  split
  · next same => rw [same, Function.update_self]
  · next other => rw [Function.update_of_ne other]

variable [DecidableEq R] {service : Service R} {managed : Bool}

/-- The count of each registration is the number of its watches. -/
def State.Counts (s : State R) : Prop :=
  ∀ registration, ∃ ws : List WatchID, ws.Nodup ∧ (∀ w, w ∈ ws ↔ s.Counted w registration) ∧
    s.refs.count registration = ws.length

namespace State.Counts

/-- Nothing changes. -/
theorem keep (counts : s.Counts) (counted : ∀ w registration, s'.Counted w registration ↔ s.Counted w registration)
    (refs : ∀ registration, s'.refs.count registration = s.refs.count registration) : s'.Counts := by
  intro registration
  obtain ⟨ws, distinct, members, number⟩ := counts registration
  exact ⟨ws, distinct, fun w => (members w).trans (counted w registration).symm, (refs registration).trans number⟩

/-- One more watch is counted. -/
theorem add (counts : s.Counts) {w : WatchID} {registration : R} (new : ¬s.Counted w registration)
    (counted : ∀ w' other, s'.Counted w' other ↔ s.Counted w' other ∨ w' = w ∧ other = registration)
    (refs : ∀ other, s'.refs.count other = s.refs.count other + if other = registration then 1 else 0) : s'.Counts := by
  intro other
  obtain ⟨ws, distinct, members, number⟩ := counts other
  by_cases same : other = registration
  · subst same
    refine ⟨w :: ws, List.nodup_cons.mpr ⟨fun member => new ((members w).mp member), distinct⟩, fun w' => ?_, ?_⟩
    · rw [List.mem_cons, members, counted, or_comm]
      simp
    · rw [refs, number, if_pos rfl, List.length_cons]
      omega
  · refine ⟨ws, distinct, fun w' => ?_, ?_⟩
    · rw [members, counted]
      simp [same]
    · rw [refs, if_neg same, number]
      omega

/-- One watch moves, and is counted as before. -/
theorem move (counts : s.Counts) {w : WatchID} {new : Option (Watch R)}
    (moved : s'.watches = Function.update s.watches w new) (refs : s'.refs = s.refs)
    (same : ∀ registration, (∃ watch, new = some watch ∧ watch.registration = registration ∧
      watch.stage.counted = true) ↔ s.Counted w registration) : s'.Counts := by
  refine counts.keep (fun w' registration => ?_) fun _ => by rw [refs]
  rw [counted_update moved]
  split
  · next here => rw [here, same]
  · exact Iff.rfl

/-- One watch is not counted any more. -/
theorem remove (counts : s.Counts) {w : WatchID} {registration : R} {new : Option (Watch R)}
    (old : s.Counted w registration) (moved : s'.watches = Function.update s.watches w new)
    (gone : ∀ watch, new = some watch → watch.stage.counted = false)
    (refs : ∀ other, s'.refs.count other = s.refs.count other - if other = registration then 1 else 0) : s'.Counts := by
  have counted (w' : WatchID) (other : R) : s'.Counted w' other ↔ s.Counted w' other ∧ w' ≠ w := by
    rw [counted_update moved]
    split
    · next here =>
      refine iff_of_false ?_ fun held => held.2 here
      rintro ⟨watch, is, -, counts⟩
      rw [gone watch is] at counts
      cases counts
    · next there => rw [and_iff_left there]
  intro other
  obtain ⟨ws, distinct, members, number⟩ := counts other
  by_cases same : other = registration
  · subst same
    have member : w ∈ ws := (members w).mpr old
    refine ⟨ws.erase w, distinct.erase w, fun w' => ?_, ?_⟩
    · rw [distinct.mem_erase_iff, members, counted, and_comm]
    · have positive := List.length_pos_of_mem member
      rw [refs, number, if_pos rfl, List.length_erase_of_mem member]
      omega
  · refine ⟨ws, distinct, fun w' => ?_, ?_⟩
    · rw [members, counted]
      refine ⟨fun found => ⟨found, ?_⟩, And.left⟩
      -- A watch has one registration.
      rintro rfl
      obtain ⟨watch, at_, is, -⟩ := found
      obtain ⟨watch', at', is', -⟩ := old
      rw [at_] at at'
      cases at'
      exact same (is.symm.trans is')
    · rw [refs, if_neg same, number]
      omega

/-- A registration that is counted has a watch. -/
theorem exists_of_pos (counts : s.Counts) {registration : R} (positive : s.refs.count registration > 0) :
    ∃ w, s.Counted w registration := by
  obtain ⟨ws, -, members, number⟩ := counts registration
  obtain ⟨w, member⟩ := List.exists_mem_of_length_pos (l := ws) (by omega)
  exact ⟨w, (members w).mp member⟩

/-- A registration that has a watch is counted. -/
theorem pos_of_counted (counts : s.Counts) {w : WatchID} {registration : R} (counted : s.Counted w registration) :
    s.refs.count registration > 0 := by
  obtain ⟨ws, -, members, number⟩ := counts registration
  have positive := List.length_pos_of_mem ((members w).mpr counted)
  omega

/-- No count is negative. -/
theorem nonneg (counts : s.Counts) (registration : R) : 0 ≤ s.refs.count registration := by
  obtain ⟨ws, -, -, number⟩ := counts registration
  omega

end State.Counts

/-! What holds of each watch. -/

/-- A watch fits the client and what the modem has accepted. -/
structure Watch.Fits (managed : Bool) (s : State R) (w : WatchID) (watch : Watch R) : Prop where
  /-- The client ID of a transport that gives out the IDs itself is zero. -/
  zero : managed = true → ∀ clientID, watch.stage.clientID = some clientID → clientID = 0
  /-- Any other client ID is that of the service, which is not forgotten under the watch. -/
  shared : managed = false → s.closed = false → ∀ clientID, watch.stage.clientID = some clientID →
    s.clientID = some clientID
  locked : watch.stage.call ≠ none → s.watchMu = some w
  registered : watch.stage.settled = true → ∀ clientID, watch.stage.clientID = some clientID →
    (watch.registration, clientID) ∈ s.registered
  first : ∀ clientID call, watch.stage = .acquiring clientID call → s.refs.count watch.registration = 1
  sending : ∀ clientID retried used, watch.stage = .acquiring clientID (.sending retried used) → used = clientID
  met : ∀ clientID registered, watch.stage = .watching clientID registered → clientID ∈ registered

/-- A watch that does not move still fits after a step that leaves it what it rests on. -/
theorem Watch.Fits.keep {w : WatchID} {watch : Watch R} (fits : watch.Fits managed s w)
    (shared : s'.closed = false → s.closed = false ∧ ∀ clientID, watch.stage.clientID = some clientID →
      s.clientID = some clientID → s'.clientID = some clientID)
    (locked : watch.stage.call ≠ none → s'.watchMu = s.watchMu ∧
      s'.refs.count watch.registration = s.refs.count watch.registration)
    (registered : watch.stage.settled = true → ∀ clientID, (watch.registration, clientID) ∈ s.registered →
      (watch.registration, clientID) ∈ s'.registered) : watch.Fits managed s' w where
  zero := fits.zero
  shared other isOpen clientID has :=
    (shared isOpen).2 clientID has (fits.shared other (shared isOpen).1 clientID has)
  locked call := (locked call).1.trans (fits.locked call)
  registered settled clientID has := registered settled clientID (fits.registered settled clientID has)
  first clientID call stage := by
    rw [(locked (by simp [stage, Stage.call])).2]
    exact fits.first clientID call stage
  sending := fits.sending
  met := fits.met

/-- A watch that is registering its indications fits while it holds the lock and is the only one that is counted. -/
theorem Watch.Fits.acquiring {w : WatchID} {registration : R} {clientID : UInt8} {call : Call} {old : Stage}
    (fits : Watch.Fits managed s w ⟨registration, old⟩) (same : old.clientID = some clientID) (locked : s'.watchMu = some w)
    (closed : s'.closed = s.closed) (kept : s'.clientID = s.clientID) (first : s'.refs.count registration = 1)
    (sending : ∀ retried used, call = .sending retried used → used = clientID) :
    Watch.Fits managed s' w ⟨registration, .acquiring clientID call⟩ where
  zero own id has := fits.zero own id (same.trans has)
  shared other isOpen id has := kept ▸ fits.shared other (closed ▸ isOpen) id (same.trans has)
  locked _ := locked
  registered := nofun
  first _ _ _ := first
  sending := by
    rintro _ retried used ⟨⟩
    exact sending retried used rfl
  met := nofun

/-- A watch that has returned its channel fits where its registration was accepted. -/
theorem Watch.Fits.watching {w : WatchID} {registration : R} {clientID : UInt8} {old : Stage}
    (fits : Watch.Fits managed s w ⟨registration, old⟩) (same : old.clientID = some clientID)
    (closed : s'.closed = s.closed) (kept : s'.clientID = s.clientID)
    (registered : (registration, clientID) ∈ s'.registered) :
    Watch.Fits managed s' w ⟨registration, .watching clientID (s'.registeredOn registration)⟩ where
  zero own id has := fits.zero own id (same.trans has)
  shared other isOpen id has := kept ▸ fits.shared other (closed ▸ isOpen) id (same.trans has)
  locked := by simp [Stage.call]
  registered := by
    rintro - _ ⟨⟩
    exact registered
  first := nofun
  sending := nofun
  met := by
    rintro _ _ ⟨⟩
    simpa [State.registeredOn] using registered

/-- A watch that is having its indications turned off fits while it holds the lock. -/
theorem Watch.Fits.releasing {w : WatchID} {registration : R} {call : Call} (locked : s.watchMu = some w) :
    Watch.Fits managed s w ⟨registration, .releasing call⟩ :=
  ⟨nofun, nofun, fun _ => locked, nofun, nofun, nofun, nofun⟩

/-- Every watch fits, all of them have the same client ID, and the counts are right. -/
structure Sound (managed : Bool) (s : State R) : Prop where
  fits : ∀ w watch, s.watches w = some watch → watch.Fits managed s w
  alike : ∀ w w' watch watch' clientID clientID', s.watches w = some watch → s.watches w' = some watch' →
    watch.stage.clientID = some clientID → watch'.stage.clientID = some clientID' → clientID = clientID'
  counts : s.Counts

namespace Sound

/-- Sound watches meet. -/
theorem meets (sound : Sound managed s) : s.Meets :=
  fun w _ clientID registered at_ => (sound.fits w _ at_).met clientID registered rfl

/-- Nothing is under way at the start. -/
theorem init : Sound managed ({} : State R) where
  fits := by simp
  alike := by simp
  counts registration := ⟨[], List.nodup_nil, by simp [State.Counted], by simp⟩

/-- Only the watch that holds the lock is in a call. -/
theorem call_of_ne (sound : Sound managed s) {w w' : WatchID} {watch watch' : Watch R} (at_ : s.watches w = some watch)
    (calls : watch.stage.call ≠ none) (at' : s.watches w' = some watch') (other : w' ≠ w) :
    watch'.stage.call = none := by
  by_contra calls'
  have here := (sound.fits w watch at_).locked calls
  have there := (sound.fits w' watch' at').locked calls'
  rw [here] at there
  exact other (Option.some.inj there).symm

/-- While the lock is free, no watch is in a call. -/
theorem call_of_free (sound : Sound managed s) (free : s.watchMu = none) {w : WatchID} {watch : Watch R}
    (at_ : s.watches w = some watch) : watch.stage.call = none := by
  by_contra calls
  have locked := (sound.fits w watch at_).locked calls
  rw [free] at locked
  cases locked

/-- A watch that is in no call fits where the counts or the lock change. -/
theorem fits_of_idle (sound : Sound managed s) {w : WatchID} {watch : Watch R} (at_ : s.watches w = some watch)
    (idle : watch.stage.call = none) (closed : s'.closed = s.closed) (clientID : s'.clientID = s.clientID)
    (registered : s'.registered = s.registered) : watch.Fits managed s' w :=
  (sound.fits w watch at_).keep (fun isOpen => ⟨closed ▸ isOpen, fun _ _ => clientID ▸ id⟩)
    (fun calls => absurd idle calls) fun _ _ => registered ▸ id

/-- No watch moves. -/
theorem keep (sound : Sound managed s) (same : s'.watches = s.watches) (refs : s'.refs = s.refs)
    (kept : ∀ w watch, s.watches w = some watch → watch.Fits managed s' w) : Sound managed s' where
  fits w watch at_ := kept w watch (same ▸ at_)
  alike w w' watch watch' clientID clientID' at_ at' := by
    rw [same] at at_ at'
    exact sound.alike w w' watch watch' clientID clientID' at_ at'
  counts := sound.counts.keep (fun w registration => by unfold State.Counted; rw [same])
    fun registration => by rw [refs]

/-- One watch moves on with the client ID it had, or without one. -/
theorem move (sound : Sound managed s) {w : WatchID} {old : Watch R} {new : Option (Watch R)}
    (at_ : s.watches w = some old) (moved : s'.watches = Function.update s.watches w new)
    (others : ∀ w' watch, w' ≠ w → s.watches w' = some watch → watch.Fits managed s' w')
    (own : ∀ watch, new = some watch → watch.Fits managed s' w)
    (same : ∀ watch clientID, new = some watch → watch.stage.clientID = some clientID →
      old.stage.clientID = some clientID) (counts : s'.Counts) : Sound managed s' where
  fits w' watch at' := by
    rcases moved_cases moved at' with ⟨rfl, is⟩ | ⟨other, at'⟩
    · exact own watch is
    · exact others w' watch other at'
  alike w₁ w₂ watch₁ watch₂ clientID₁ clientID₂ at₁ at₂ has₁ has₂ := by
    -- Each of the two had its client ID before.
    have before (w' : WatchID) (watch : Watch R) (clientID : UInt8) (at' : s'.watches w' = some watch)
        (has : watch.stage.clientID = some clientID) :
        ∃ watch', s.watches w' = some watch' ∧ watch'.stage.clientID = some clientID := by
      rcases moved_cases moved at' with ⟨rfl, is⟩ | ⟨-, at'⟩
      · exact ⟨old, at_, same watch clientID is has⟩
      · exact ⟨watch, at', has⟩
    obtain ⟨watch₁', before₁, has₁'⟩ := before w₁ watch₁ clientID₁ at₁ has₁
    obtain ⟨watch₂', before₂, has₂'⟩ := before w₂ watch₂ clientID₂ at₂ has₂
    exact sound.alike w₁ w₂ watch₁' watch₂' clientID₁ clientID₂ before₁ before₂ has₁' has₂'
  counts := counts

/-- One watch is over. -/
theorem leave (sound : Sound managed s) {w : WatchID} {old : Watch R} (at_ : s.watches w = some old)
    (moved : s'.watches = Function.update s.watches w none)
    (others : ∀ w' watch, w' ≠ w → s.watches w' = some watch → watch.Fits managed s' w') (counts : s'.Counts) :
    Sound managed s' :=
  sound.move at_ moved others nofun nofun counts

/-- One watch moves on within what its registration is counted for, and the client stays as it is. -/
theorem enter (sound : Sound managed s) {w : WatchID} {old : Watch R} {new : Option (Watch R)}
    (at_ : s.watches w = some old) (own : ∀ watch, new = some watch → watch.Fits managed (s.enter w new) w)
    (same : ∀ watch clientID, new = some watch → watch.stage.clientID = some clientID →
      old.stage.clientID = some clientID)
    (counted : ∀ registration, (∃ watch, new = some watch ∧ watch.registration = registration ∧
      watch.stage.counted = true) ↔ s.Counted w registration) : Sound managed (s.enter w new) := by
  refine sound.move at_ rfl (fun w' watch _ at' => ?_) own same
    (sound.counts.move rfl rfl counted)
  exact (sound.fits w' watch at').keep (fun isOpen => ⟨isOpen, fun _ _ => id⟩) (fun _ => ⟨rfl, rfl⟩) fun _ _ => id

end Sound

namespace Sound

/-- A client ID is granted only where no watch is under way. -/
theorem asked (sound : Sound managed s) {asked : Asked} {got : Option UInt8}
    (ran : s.serviceClientID managed asked = (got, s')) : Sound managed s' := by
  rcases (serviceClientID_spec ran).1 with rfl | ⟨none, other, isOpen, clientID, rfl⟩
  · exact sound
  · refine sound.keep rfl rfl fun w watch at_ => (sound.fits w watch at_).keep (fun _ => ⟨isOpen, ?_⟩)
      (fun _ => ⟨rfl, rfl⟩) fun _ _ => id
    intro clientID' has cached
    rw [none] at cached
    cases cached

/-- A client ID is forgotten where no watch is under way. -/
theorem forgot (sound : Sound managed s) {clientID : UInt8} {locked done : Bool}
    (ran : s.forgetServiceClientID managed clientID locked = (done, s'))
    (calm : ¬(s.UnderWay ∧ s.Forgets managed clientID locked)) : Sound managed s' := by
  rcases forgetServiceClientID_spec ran with rfl | ⟨forgets, rfl⟩
  · exact sound
  · refine sound.keep rfl rfl fun w watch at_ => (sound.fits w watch at_).keep (fun isOpen => ⟨isOpen, ?_⟩)
      (fun _ => ⟨rfl, rfl⟩) fun _ _ => id
    intro clientID' has cached
    exact absurd ⟨⟨w, watch, clientID', at_, has⟩, forgets⟩ calm

/-- A closed client has no client ID, and its watches keep theirs. -/
theorem close (sound : Sound managed s) : Sound managed { s with closed := true, clientID := none } :=
  sound.keep rfl rfl fun w watch at_ =>
    (sound.fits w watch at_).keep nofun (fun _ => ⟨rfl, rfl⟩) fun _ _ => id

/-- A watch starts with the client ID of the service, which is that of every other watch. -/
theorem watch (sound : Sound managed s) {w : WatchID} {asked : Asked} {clientID : UInt8} (registration : R)
    (new : s.watches w = none) (ran : s.serviceClientID managed asked = (some clientID, s')) :
    Sound managed (s'.enter w (some ⟨registration, .got clientID⟩)) := by
  have sound' := sound.asked ran
  obtain ⟨isOpen, zero, cached⟩ := (serviceClientID_spec ran).2 clientID rfl
  have new' : s'.watches w = none := (serviceClientID_watches ran).symm ▸ new
  have alike (w' : WatchID) (watch : Watch R) (other : UInt8) (at_ : s'.watches w' = some watch)
      (has : watch.stage.clientID = some other) : other = clientID := by
    have fits := sound'.fits w' watch at_
    cases managed with
    | true => exact (fits.zero rfl other has).trans (zero rfl).symm
    | false => exact Option.some.inj ((fits.shared rfl isOpen other has).symm.trans (cached rfl))
  refine ⟨fun w' watch at_ => ?_, fun w₁ w₂ watch₁ watch₂ id₁ id₂ at₁ at₂ has₁ has₂ => ?_, ?_⟩
  · rcases moved_cases rfl at_ with ⟨rfl, ⟨⟩⟩ | ⟨-, at_⟩
    · refine ⟨fun own other has => ?_, fun other _ id has => ?_, by simp [Stage.call], by simp [Stage.settled], nofun,
        nofun, nofun⟩
      · cases has
        exact zero own
      · cases has
        exact cached other
    · exact (sound'.fits w' watch at_).keep (fun isOpen => ⟨isOpen, fun _ _ => id⟩) (fun _ => ⟨rfl, rfl⟩) fun _ _ => id
  · -- Each of the two has the client ID of the service.
    have all (w' : WatchID) (watch : Watch R) (other : UInt8)
        (at_ : (s'.enter w (some ⟨registration, .got clientID⟩)).watches w' = some watch)
        (has : watch.stage.clientID = some other) : other = clientID := by
      rcases moved_cases rfl at_ with ⟨rfl, ⟨⟩⟩ | ⟨-, at_⟩
      · exact (Option.some.inj has).symm
      · exact alike w' watch other at_ has
    exact (all w₁ watch₁ id₁ at₁ has₁).trans (all w₂ watch₂ id₂ at₂ has₂).symm
  · exact sound'.counts.move rfl rfl (by simp [State.Counted, new', Stage.counted])

/-- A call of a watch goes on. -/
theorem goOn (sound : Sound managed s) {w : WatchID} {watch : Watch R} {before : Call} (call : Call)
    (at_ : s.watches w = some watch) (calls : watch.stage.call = some before)
    (sending : ∀ clientID retried used, watch.stage.clientID = some clientID → call = .sending retried used →
      used = clientID) : Sound managed (s.enter w (some { watch with stage := watch.stage.goOn call })) := by
  obtain ⟨registration, stage⟩ := watch
  have fits := sound.fits w _ at_
  have locked : s.watchMu = some w := fits.locked (by simp [calls])
  cases stage with
  | acquiring clientID old =>
    refine sound.enter at_ ?_ (by rintro _ _ ⟨⟩; exact id) ?_
    · rintro _ ⟨⟩
      exact fits.acquiring rfl locked rfl rfl (fits.first clientID old rfl) fun retried used =>
        sending clientID retried used rfl
    · simp [State.Counted, at_, Stage.goOn, Stage.counted]
  | releasing old =>
    refine sound.enter at_ ?_ (by rintro _ _ ⟨⟩ ⟨⟩) ?_
    · rintro _ ⟨⟩
      exact .releasing locked
    · simp [State.Counted, at_, Stage.goOn, Stage.counted]
  | got _ | subscribed _ | watching _ _ | ended _ => cases calls

/-- A call of a watch gets the client ID that the watch has. -/
theorem callClientID (sound : Sound managed s) {w : WatchID} {watch : Watch R} {retried : Bool} {asked : Asked}
    {used : UInt8} (at_ : s.watches w = some watch) (calls : watch.stage.call = some (.start retried))
    (ran : s.serviceClientID managed asked = (some used, s')) :
    Sound managed (s'.enter w (some { watch with stage := watch.stage.goOn (.sending retried used) })) := by
  have sound' := sound.asked ran
  have at' : s'.watches w = some watch := (serviceClientID_watches ran).symm ▸ at_
  obtain ⟨isOpen, zero, cached⟩ := (serviceClientID_spec ran).2 used rfl
  refine sound'.goOn _ at' calls ?_
  rintro clientID _ _ has ⟨⟩
  -- It is the client ID of the service, which was not forgotten under the watch.
  have fits := sound'.fits w watch at'
  cases managed with
  | true => exact (zero rfl).trans (fits.zero rfl clientID has).symm
  | false => exact Option.some.inj ((cached rfl).symm.trans (fits.shared rfl isOpen clientID has))

/-- The modem accepts a request. -/
theorem accept (sound : Sound managed s) (config : Config R) (clientID : UInt8) :
    Sound managed (s.accept config clientID) :=
  sound.keep rfl rfl fun w watch at_ => (sound.fits w watch at_).keep (fun isOpen => ⟨isOpen, fun _ _ => id⟩)
    (fun _ => ⟨rfl, rfl⟩) fun _ _ member => List.mem_append_left _ member

/-- The request of a watch that is to register its indications has failed. -/
theorem finish_failed (sound : Sound managed s) {w : WatchID} {watch : Watch R} {call : Call}
    (at_ : s.watches w = some watch) (calls : watch.stage.call = some call) :
    Sound managed (s.finish w watch false) := by
  obtain ⟨registration, stage⟩ := watch
  have fits := sound.fits w _ at_
  have idle (w' : WatchID) (watch : Watch R) (other : w' ≠ w) (at' : s.watches w' = some watch) :
      watch.stage.call = none := sound.call_of_ne at_ (by simp [calls]) at' other
  cases stage with
  | acquiring clientID old =>
    -- The watch returns an error, and is not counted any more.
    refine sound.leave at_ rfl (fun w' watch other at' => ?_) ?_
    · exact sound.fits_of_idle at' (idle w' watch other at') rfl rfl rfl
    · -- Its count was one, since no other watch could be counted meanwhile.
      have one := fits.first clientID old rfl
      have counted : s.Counted w registration := ⟨_, at_, rfl, rfl⟩
      refine sound.counts.remove counted rfl (by rintro _ ⟨⟩) fun other => ?_
      show (s.refs.delete registration).count other = _
      rw [GoMap.count_delete]
      split
      · next same =>
        subst same
        simp only at one
        omega
      · omega
  | releasing old =>
    -- The watch was not counted any more, and is over whatever the modem answers.
    refine sound.leave at_ rfl (fun w' watch other at' => ?_) ?_
    · exact sound.fits_of_idle at' (idle w' watch other at') rfl rfl rfl
    · exact sound.counts.move rfl rfl (by simp [State.Counted, at_, Stage.counted])
  | got _ | subscribed _ | watching _ _ | ended _ => cases calls

/-- The request of a watch was accepted. -/
theorem finish_accepted (sound : Sound managed s) {w : WatchID} {watch : Watch R} {call : Call}
    (at_ : s.watches w = some watch) (calls : watch.stage.call = some call)
    (accepted : ∀ clientID, watch.stage = .acquiring clientID call → (watch.registration, clientID) ∈ s.registered) :
    Sound managed (s.finish w watch true) := by
  obtain ⟨registration, stage⟩ := watch
  have fits := sound.fits w _ at_
  have idle (w' : WatchID) (watch : Watch R) (other : w' ≠ w) (at' : s.watches w' = some watch) :
      watch.stage.call = none := sound.call_of_ne at_ (by simp [calls]) at' other
  cases stage with
  | acquiring clientID old =>
    cases calls
    have registered := accepted clientID rfl
    refine sound.move at_ rfl (fun w' watch other at' => ?_) ?_ (by rintro _ _ ⟨⟩; exact id) ?_
    · exact sound.fits_of_idle at' (idle w' watch other at') rfl rfl rfl
    · -- The watch listens on a client ID on which the registration was accepted.
      rintro _ ⟨⟩
      exact fits.watching rfl rfl rfl registered
    · exact sound.counts.move rfl rfl (by simp [State.Counted, at_, Stage.counted])
  | releasing old => exact sound.finish_failed at_ calls
  | got _ | subscribed _ | watching _ _ | ended _ => cases calls

/-- A watch counts on the registration of another one, or is the first to register its indications. -/
theorem acquire (sound : Sound managed s) {w : WatchID} {registration : R} {clientID : UInt8} (free : s.watchMu = none)
    (at_ : s.watches w = some ⟨registration, .subscribed clientID⟩) :
    Sound managed (s.acquire w registration clientID) := by
  have fits := sound.fits w _ at_
  have uncounted (other : R) : ¬s.Counted w other := by simp [State.Counted, at_, Stage.counted]
  -- The watch is counted now, and no other one is.
  have counted {s' : State R} {stage : Stage} (counts : stage.counted = true)
      (moved : s'.watches = Function.update s.watches w (some ⟨registration, stage⟩)) (w' : WatchID) (other : R) :
      s'.Counted w' other ↔ s.Counted w' other ∨ w' = w ∧ other = registration := by
    rw [counted_update moved]
    split
    · next here =>
      rw [here, or_iff_right (uncounted other), and_iff_right rfl]
      constructor
      · rintro ⟨_, ⟨⟩, same, -⟩
        exact same.symm
      · rintro rfl
        exact ⟨_, rfl, rfl, counts⟩
    · next there => simp [there]
  unfold State.acquire
  split
  · next positive =>
    -- Another watch has registered the indications, and it has the same client ID.
    obtain ⟨w', ⟨_, stage'⟩, at', rfl, counts⟩ := sound.counts.exists_of_pos positive
    have fits' := sound.fits w' _ at'
    obtain ⟨clientID', settled, has⟩ : ∃ clientID', stage'.settled = true ∧ stage'.clientID = some clientID' := by
      cases stage' with
      | watching clientID' _ => exact ⟨clientID', rfl, rfl⟩
      | ended clientID' => exact ⟨clientID', rfl, rfl⟩
      | acquiring _ call => cases sound.call_of_free free at'
      | got _ | subscribed _ | releasing _ => cases counts
    have same := sound.alike w w' _ _ clientID clientID' at_ at' rfl has
    have registered := fits'.registered settled clientID' has
    subst same
    refine sound.move at_ rfl (fun w'' watch other at'' => ?_) ?_ (by rintro _ _ ⟨⟩; exact id) ?_
    · exact sound.fits_of_idle at'' (sound.call_of_free free at'') rfl rfl rfl
    · rintro _ ⟨⟩
      exact fits.watching rfl rfl rfl registered
    · exact sound.counts.add (uncounted _) (counted rfl rfl) fun other => GoMap.count_incr _ _ _
  · next zero =>
    -- Nothing is registered for it, nor counted.
    have none : s.refs.count registration = 0 := by
      have := sound.counts.nonneg registration
      omega
    refine sound.move at_ rfl (fun w' watch other at' => ?_) ?_ (by rintro _ _ ⟨⟩; exact id) ?_
    · refine (sound.fits w' watch at').keep (fun isOpen => ⟨isOpen, fun _ _ => id⟩)
        (fun calls => absurd (sound.call_of_free free at') calls) fun settled clientID' member => ?_
      refine List.mem_filter.mpr ⟨member, decide_eq_true fun same => zero ?_⟩
      refine same ▸ sound.counts.pos_of_counted ⟨watch, at', rfl, ?_⟩
      revert settled
      cases watch.stage <;> simp [Stage.settled, Stage.counted]
    · rintro _ ⟨⟩
      refine fits.acquiring rfl rfl rfl rfl ?_ (by rintro _ _ ⟨⟩)
      show (s.refs.set registration 1).count registration = 1
      simp [GoMap.count_set]
    · refine sound.counts.add (uncounted _) (counted rfl rfl) fun other => ?_
      show (s.refs.set registration 1).count other = _
      rw [GoMap.count_set]
      split
      · next same => rw [same, none]; rfl
      · omega

/-- A watch is not counted any more. -/
theorem release (sound : Sound managed s) {w : WatchID} {registration : R} {clientID : UInt8} (free : s.watchMu = none)
    (at_ : s.watches w = some ⟨registration, .ended clientID⟩) : Sound managed (s.release w registration) := by
  have counted : s.Counted w registration := ⟨_, at_, rfl, rfl⟩
  have positive := sound.counts.pos_of_counted counted
  unfold State.release
  split
  · next zero => omega
  split
  · -- Other watches have the registration too.
    refine sound.leave at_ rfl (fun w' watch _ at' => ?_) ?_
    · exact sound.fits_of_idle at' (sound.call_of_free free at') rfl rfl rfl
    exact sound.counts.remove counted rfl (by rintro _ ⟨⟩) (GoMap.count_drop _ positive)
  · -- The last watch keeps the lock, to have the indications turned off.
    refine sound.move at_ rfl (fun w' watch _ at' => ?_) ?_ (by rintro _ _ ⟨⟩ ⟨⟩) ?_
    · exact sound.fits_of_idle at' (sound.call_of_free free at') rfl rfl rfl
    · rintro _ ⟨⟩
      exact .releasing rfl
    · exact sound.counts.remove counted rfl (by rintro _ ⟨⟩; rfl) (GoMap.count_drop _ positive)

end Sound

/-! The steps. -/

/-- What a service asks for when a count has become positive turns on the indications of its registration. -/
def Enables (service : Service R) : Prop :=
  ∀ refs registration, refs.count registration > 0 → (registration, true) ∈ service refs registration true

/-- `setNASIndication` turns on one indication. -/
theorem nas_enables : Enables nas := fun _ _ _ => List.mem_cons_self

/-- `syncPDCIndications` turns on all indications that are counted. -/
theorem pdc_enables : Enables pdc := by
  intro refs registration positive
  cases registration <;> simp [pdc, syncPDCIndications, positive]

namespace Sound

/-- The answer to the registration of a watch. -/
theorem callSend (sound : Sound managed s) (enables : Enables service) {w : WatchID} {answer : Answer}
    (stepped : step service managed s (.callSend w answer) = some s') : Sound managed s' := by
  simp only [step] at stepped
  split at stepped
  · cases stepped
  next watch at_ =>
  split at stepped
  next retried used calls =>
    cases answer with
    | accepted =>
      simp only at stepped
      split at stepped
      · cases stepped
      cases stepped
      refine (sound.accept _ used).finish_accepted at_ calls fun clientID stage => ?_
      -- The request was sent on the client ID that the watch listens on.
      have fits := sound.fits w watch at_
      have same : used = clientID := fits.sending clientID retried used stage
      have counted : s.Counted w watch.registration := ⟨watch, at_, rfl, by simp [stage, Stage.counted]⟩
      have turned := enables s.refs watch.registration (sound.counts.pos_of_counted counted)
      refine List.mem_append_right _ (List.mem_map.mpr ⟨(watch.registration, true), ?_, by rw [same]⟩)
      rw [stage]
      exact List.mem_filter.mpr ⟨turned, rfl⟩
    | invalidClientID =>
      simp only at stepped
      split at stepped
      · cases stepped
      split at stepped
      · cases stepped
        exact sound.finish_failed at_ calls
      · cases stepped
        exact sound.goOn (.told used) at_ calls nofun
    | failed =>
      cases stepped
      exact sound.finish_failed at_ calls
  · cases stepped

/-- Every step keeps the watches sound, unless it forgets the client ID of the service under one. -/
theorem step (sound : Sound managed s) (enables : Enables service) {e : Event R} (calm : ¬Breaks managed s e)
    (stepped : Watches.step service managed s e = some s') : Sound managed s' := by
  cases e with
  | watch w registration asked =>
    simp only [Watches.step] at stepped
    split at stepped
    · cases stepped
    next new =>
    split at stepped
    · next ran =>
      cases stepped
      exact sound.watch registration new ran
    · next ran =>
      cases stepped
      exact sound.asked ran
  | subscribe w ok =>
    simp only [Watches.step] at stepped
    split at stepped
    · next registration clientID at_ =>
      cases stepped
      have fits := sound.fits w _ at_
      cases ok with
      | true =>
        refine sound.enter at_ ?_ (by rintro _ _ ⟨⟩; exact id) (by simp [State.Counted, at_, Stage.counted])
        rintro _ ⟨⟩
        exact ⟨fits.zero, fits.shared, by simp [Stage.call], nofun, nofun, nofun, nofun⟩
      | false => exact sound.enter at_ nofun nofun (by simp [State.Counted, at_, Stage.counted])
    · cases stepped
  | acquire w =>
    simp only [Watches.step] at stepped
    split at stepped
    · next registration clientID free at_ =>
      cases stepped
      exact sound.acquire free at_
    · cases stepped
  | callClientID w asked =>
    simp only [Watches.step] at stepped
    split at stepped
    · cases stepped
    next watch at_ =>
    split at stepped
    · next retried calls =>
      split at stepped
      · next used s₁ ran =>
        cases stepped
        exact sound.callClientID at_ calls ran
      · next s₁ ran =>
        cases stepped
        exact (sound.asked ran).finish_failed ((serviceClientID_watches ran).symm ▸ at_) calls
    · cases stepped
  | callSend w answer => exact sound.callSend enables stepped
  | callForget w locked =>
    simp only [Watches.step] at stepped
    split at stepped
    · cases stepped
    next watch at_ =>
    split at stepped
    · next used calls =>
      have calm : ¬(s.UnderWay ∧ s.Forgets managed used locked) := fun ⟨underWay, forgets⟩ =>
        calm ⟨underWay, watch, used, at_, calls, forgets⟩
      split at stepped
      · next s₁ ran =>
        cases stepped
        exact (sound.forgot ran calm).goOn (.start true) ((forgetServiceClientID_watches ran).symm ▸ at_) calls nofun
      · next s₁ ran =>
        cases stepped
        exact (sound.forgot ran calm).finish_failed ((forgetServiceClientID_watches ran).symm ▸ at_) calls
    · cases stepped
  | done w =>
    simp only [Watches.step] at stepped
    split at stepped
    · next registration clientID registered at_ =>
      cases stepped
      have fits := sound.fits w _ at_
      refine sound.enter at_ ?_ (by rintro _ _ ⟨⟩; exact id) (by simp [State.Counted, at_, Stage.counted])
      rintro _ ⟨⟩
      exact ⟨fits.zero, fits.shared, by simp [Stage.call], fun _ => fits.registered rfl, nofun, nofun, nofun⟩
    · cases stepped
  | release w =>
    simp only [Watches.step] at stepped
    split at stepped
    · next registration clientID free at_ =>
      cases stepped
      exact sound.release free at_
    · cases stepped
  | serviceClientID asked =>
    cases stepped
    exact sound.asked rfl
  | forget clientID locked =>
    cases stepped
    exact sound.forgot rfl calm
  | close =>
    cases stepped
    exact sound.close

end Sound

/-! All runs. -/

/-- In every state that a run reaches in which the client ID of the service is not forgotten under a watch, the watches
listen on the client IDs that their indications are registered on. -/
theorem meets_of_runs (enables : Enables service) {trace : List (State R × Event R)}
    (run : (watches service managed).Runs trace s) (calm : ∀ step ∈ trace, ¬Breaks managed step.1 step.2) : s.Meets :=
  (Machine.Runs.invariantUnless (P := Sound managed) Sound.init
    (fun _ _ _ sound calm stepped => sound.step enables calm stepped) run calm).meets

/-- The watches of both services do so, whoever gives out the client IDs. -/
theorem watches_listen_registered (managed : Bool) :
    (∀ trace s, (watches nas managed).Runs trace s → (∀ step ∈ trace, ¬Breaks managed step.1 step.2) → s.Meets) ∧
    (∀ trace s, (watches pdc managed).Runs trace s → (∀ step ∈ trace, ¬Breaks managed step.1 step.2) → s.Meets) :=
  ⟨fun _ _ run calm => meets_of_runs nas_enables run calm, fun _ _ run calm => meets_of_runs pdc_enables run calm⟩

/-- The client ID of the service is granted and forgotten before there is a watch. -/
theorem forgotten_before : (watches pdc false).Runs
    [({}, .serviceClientID { granted := some 5 }), ({ clientID := some 5 }, .forget 5 true)] {} :=
  .step (.step .init rfl) rfl

/-- Then two watches for the same indications start, and the first one ends. -/
def laterEvents : List (Event PDCIndicationRegistration) :=
  [.watch 0 .configChange { granted := some 6 }, .subscribe 0 true, .watch 1 .configChange {}, .acquire 0,
    .callClientID 0 {}, .subscribe 1 true, .callSend 0 .accepted, .acquire 1, .done 0, .release 0]

/-- No client ID is forgotten in a step. -/
def Event.keeps : Event R → Bool
  | .callForget _ _ | .forget _ _ => false
  | _ => true

/-- The second watch listens on the client ID on which the first one has registered the indications. -/
theorem laterEvents_listen : ∃ trace s, (watches pdc false).Runs trace s ∧
    s.watches 1 = some ⟨.configChange, .watching 6 [6]⟩ ∧ s.Meets := by
  have glance : ((watches pdc false).runFrom {} laterEvents).map
      (fun run => (run.2.watches 1, run.1.all fun step => step.2.keeps)) =
      some (some ⟨.configChange, .watching 6 [6]⟩, true) := by decide +kernel
  obtain ⟨⟨trace, s⟩, ran, seen⟩ := Option.map_eq_some_iff.mp glance
  simp only [Prod.mk.injEq, List.all_eq_true] at seen
  have run := forgotten_before.runFrom ran
  refine ⟨_, s, run, seen.1, (watches_listen_registered false).2 _ s run fun step member breaks => ?_⟩
  rcases List.mem_append.mp member with early | late
  · -- There is no watch yet.
    simp only [List.mem_cons, List.not_mem_nil, or_false] at early
    rcases early with rfl | rfl
    · exact breaks
    · obtain ⟨⟨w, watch, clientID, at_, -⟩, -⟩ := breaks
      cases at_
  · have keeps := seen.2 step late
    revert breaks keeps
    cases step.2 <;> simp [Breaks, Event.keeps]

/-- The registration of a watch is answered that the client ID is invalid, and is sent again on another one. -/
def resetEvents : List (Event NASIndicationRegistration) :=
  [.watch 0 .servingSystem { granted := some 5 }, .subscribe 0 true, .acquire 0, .callClientID 0 {},
    .callSend 0 .invalidClientID, .callForget 0 true, .callClientID 0 { granted := some 6 }, .callSend 0 .accepted]

/-- Another call has the client ID of the service forgotten, and another watch counts on the registration. -/
def countedEvents : List (Event PDCIndicationRegistration) :=
  [.watch 0 .clientRefresh { granted := some 5 }, .subscribe 0 true, .acquire 0, .callClientID 0 {},
    .callSend 0 .accepted, .forget 5 true, .watch 1 .clientRefresh { granted := some 6 }, .subscribe 1 true, .acquire 1]

/-- The watch listens on one client ID and is registered on another. -/
theorem watches_misregistered :
    (∃ trace s, (watches nas false).Runs trace s ∧ s.watches 0 = some ⟨.servingSystem, .watching 5 [6]⟩ ∧ ¬s.Meets) ∧
    (∃ trace s, (watches pdc false).Runs trace s ∧ s.watches 1 = some ⟨.clientRefresh, .watching 6 [5]⟩ ∧ ¬s.Meets) := by
  have reset : ((watches nas false).runFrom {} resetEvents).map (fun run => run.2.watches 0) =
      some (some ⟨.servingSystem, .watching 5 [6]⟩) := by decide +kernel
  have counted : ((watches pdc false).runFrom {} countedEvents).map (fun run => run.2.watches 1) =
      some (some ⟨.clientRefresh, .watching 6 [5]⟩) := by decide +kernel
  constructor
  · obtain ⟨trace, s, run, -, seen⟩ := Machine.exists_runs reset
    refine ⟨trace, s, run, seen, fun meets => ?_⟩
    exact absurd (meets 0 _ _ _ seen) (by decide)
  · obtain ⟨trace, s, run, -, seen⟩ := Machine.exists_runs counted
    refine ⟨trace, s, run, seen, fun meets => ?_⟩
    exact absurd (meets 1 _ _ _ seen) (by decide)

end Wwan.Qcom.Watches
