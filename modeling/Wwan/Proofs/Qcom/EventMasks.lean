import Wwan.Qcom.EventMasks

/-! The modem always reports what the live watchers have asked for. -/

namespace Wwan.Qcom

variable {w : Nat}

/-- Every bit of a mask is a bit of the other. -/
def Within (mask other : BitVec w) : Prop := ∀ i, mask.getLsbD i = true → other.getLsbD i = true

/-- The accepted mask has the bits of the caller and those of the counted registrations, and no others. -/
def EventService.Exact (s : EventService w) : Prop :=
  ∀ i, s.accepted.getLsbD i = true ↔
    s.base.getLsbD i = true ∨ ∃ mask, 0 < s.refs.count mask ∧ mask.getLsbD i = true

/-- The call is one of the LOC service. -/
def EventCall.isLOC : EventCall → Bool
  | .locRegisterEvents _ _ | .acquireLOCEvents _ _ | .releaseLOCEvents _ _ => true
  | .acquireUIMEvents _ _ | .releaseUIMEvents _ _ => false

/-- The call is an acquire of one of the services. -/
def EventCall.isAcquire : EventCall → Bool
  | .acquireLOCEvents _ _ | .acquireUIMEvents _ _ => true
  | .locRegisterEvents _ _ | .releaseLOCEvents _ _ | .releaseUIMEvents _ _ => false

/-- The mask that the caller has chosen after a call, where a request that fails chooses nothing. -/
def EventCall.chosen (before : BitVec 64) : EventCall → BitVec 64
  | .locRegisterEvents mask accepts => if accepts then mask else before
  | .acquireLOCEvents _ _ | .releaseLOCEvents _ _ | .acquireUIMEvents _ _ | .releaseUIMEvents _ _ => before

/-- The mask of the last `LOCRegisterEvents` that the modem accepted, and no bits before the first. -/
def chosenMask (trace : List (EventClient × EventCall)) : BitVec 64 :=
  trace.foldl (fun before step => step.2.chosen before) 0

/-! Combined masks. -/

/-- Joining the counted registrations of a list adds their bits. -/
private theorem getLsbD_foldl (entries : List (BitVec w × Int)) (start : BitVec w) (i : Nat) :
    (entries.foldl (fun mask (entry : BitVec w × Int) =>
      if entry.2 > 0 then mask ||| entry.1 else mask) start).getLsbD i = true ↔
      start.getLsbD i = true ∨ ∃ entry ∈ entries, entry.2 > 0 ∧ entry.1.getLsbD i = true := by
  induction entries generalizing start with
  | nil => simp
  | cons entry entries ih =>
    rw [List.foldl_cons, ih]
    by_cases counted : entry.2 > 0
    · simp [counted, or_assoc]
    · simp [counted]

/-- The combined mask has the bits of the counted registrations. -/
theorem getLsbD_combinedEventMask (refs : GoMap (BitVec w) Int) (i : Nat) :
    (combinedEventMask refs).getLsbD i = true ↔ ∃ mask, 0 < refs.count mask ∧ mask.getLsbD i = true := by
  have joined := getLsbD_foldl refs.entries 0 i
  simp only [BitVec.ofNat_eq_ofNat, BitVec.getLsbD_zero, Bool.false_eq_true, false_or] at joined
  refine Iff.trans joined ?_
  constructor
  · rintro ⟨⟨mask, count⟩, member, positive, bit⟩
    refine ⟨mask, ?_, bit⟩
    rw [GoMap.mem_entries_iff] at member
    simpa [GoMap.count, member] using positive
  · rintro ⟨mask, positive, bit⟩
    -- A positive count is one that is stored.
    cases found : refs.get mask with
    | none => simp [GoMap.count, found] at positive
    | some count =>
      refine ⟨(mask, count), (refs.mem_entries_iff mask count).mpr found, ?_, bit⟩
      simpa [GoMap.count, found] using positive

/-- The combined mask is a matter of the counts. -/
theorem combinedEventMask_congr {refs other : GoMap (BitVec w) Int}
    (same : ∀ mask, other.count mask = refs.count mask) : combinedEventMask other = combinedEventMask refs := by
  refine BitVec.eq_of_getLsbD_eq fun i _ => Bool.eq_iff_iff.mpr ?_
  rw [getLsbD_combinedEventMask, getLsbD_combinedEventMask]
  simp only [same]

/-- Fewer counts combine to fewer bits. -/
theorem within_combinedEventMask {refs fewer : GoMap (BitVec w) Int}
    (less : ∀ mask, fewer.count mask ≤ refs.count mask) : Within (combinedEventMask fewer) (combinedEventMask refs) := by
  intro i bit
  rw [getLsbD_combinedEventMask] at bit ⊢
  obtain ⟨mask, positive, own⟩ := bit
  have := less mask
  exact ⟨mask, by omega, own⟩

/-! One call on one service. -/

/-- What holds between the calls: counts are those of the live watchers, and the modem reports all that is wanted. -/
structure EventService.Sound (s : EventService w) (live : List (BitVec w)) : Prop where
  counts : ∀ mask, s.refs.count mask = live.count mask
  covered : Within (s.base ||| combinedEventMask s.refs) s.accepted

/-- What an outcome promises about the accepted mask. -/
def EventService.Meets (s : EventService w) (outcome : Outcome) : Prop :=
  outcome = .registered → s.accepted = s.base ||| combinedEventMask s.refs

/-- A mask that was accepted as wanted is exact. -/
theorem EventService.exact_of_eq {s : EventService w} (same : s.accepted = s.base ||| combinedEventMask s.refs) :
    s.Exact := by
  intro i
  rw [same, BitVec.getLsbD_or, Bool.or_eq_true, getLsbD_combinedEventMask]

/-- A service whose accepted mask is the wanted one reports all that is wanted. -/
theorem within_of_eq {mask other : BitVec w} (same : other = mask) : Within mask other := by
  intro i bit
  rwa [same]

/-- An acquire counts its watcher unless it fails, and then leaves every count as it was. -/
theorem EventService.Sound.acquire {s : EventService w} {live : List (BitVec w)} (sound : s.Sound live) (mask : BitVec w)
    (accepts : Bool) :
    (s.acquire mask accepts).1.Sound (if (s.acquire mask accepts).2 = .failed then live else mask :: live) ∧
      (s.acquire mask accepts).1.Meets (s.acquire mask accepts).2 ∧ (s.acquire mask accepts).1.base = s.base ∧
      ((s.acquire mask accepts).2 = .failed → ∀ other, (s.acquire mask accepts).1.refs.count other = s.refs.count other) := by
  obtain ⟨counts, covered⟩ := sound
  -- The new watcher is counted under its own mask.
  have counted (other : BitVec w) : (s.refs.incr mask).count other = (mask :: live).count other := by
    rw [GoMap.count_incr, counts, List.count_cons]
    by_cases same : other = mask
    · simp [same]
    · simp [same, Ne.symm same]
  -- A failed registration takes the count back.
  have undone (other : BitVec w) : ((s.refs.incr mask).decr mask).count other = s.refs.count other := by
    rw [GoMap.count_decr, GoMap.count_incr]
    omega
  unfold EventService.acquire
  dsimp only
  by_cases same : s.base ||| combinedEventMask s.refs = s.base ||| combinedEventMask (s.refs.incr mask)
  · -- The modem reports the bits already.
    rw [if_pos same]
    refine ⟨⟨counted, ?_⟩, by simp [EventService.Meets], rfl, by simp⟩
    show Within (s.base ||| combinedEventMask (s.refs.incr mask)) s.accepted
    rwa [← same]
  · -- The modem is told the new bits.
    rw [if_neg same]
    cases accepts with
    | true => exact ⟨⟨counted, within_of_eq rfl⟩, fun _ => rfl, rfl, by simp [EventService.register]⟩
    | false =>
      -- The modem refuses, and the watcher is not counted.
      simp only [EventService.register, Bool.false_eq_true, if_false, if_true]
      refine ⟨⟨fun other => (undone other).trans (counts other), ?_⟩, by simp [EventService.Meets], trivial, fun _ => undone⟩
      show Within (s.base ||| combinedEventMask ((s.refs.incr mask).decr mask)) s.accepted
      rwa [combinedEventMask_congr undone]

/-- A release counts one watcher of its mask less, if there is one. -/
theorem EventService.Sound.release {s : EventService w} {live : List (BitVec w)} (sound : s.Sound live) (mask : BitVec w)
    (accepts : Bool) :
    (s.release mask accepts).1.Sound (live.erase mask) ∧ (s.release mask accepts).1.Meets (s.release mask accepts).2 ∧
      (s.release mask accepts).1.base = s.base := by
  obtain ⟨counts, covered⟩ := sound
  unfold EventService.release
  by_cases none_ : s.refs.count mask = 0
  · -- Nobody watches this mask.
    have absent : mask ∉ live := by
      rw [counts] at none_
      exact List.count_eq_zero.mp (by omega)
    rw [if_pos none_, List.erase_of_not_mem absent]
    exact ⟨⟨counts, covered⟩, by simp [EventService.Meets], rfl⟩
  · -- One watcher of the mask goes.
    rw [if_neg none_]
    dsimp only
    have counted (other : BitVec w) : (s.refs.decr mask).count other = (live.erase mask).count other := by
      rw [GoMap.count_decr, counts, List.count_erase]
      rw [counts] at none_
      by_cases same : other = mask
      · subst same
        simp
        omega
      · simp [same, Ne.symm same]
    -- No mask has more watchers than before.
    have less (other : BitVec w) : (s.refs.decr mask).count other ≤ s.refs.count other := by
      rw [GoMap.count_decr]
      split <;> omega
    -- What remains wanted is part of what was wanted before.
    have remaining : Within (s.base ||| combinedEventMask (s.refs.decr mask)) s.accepted := by
      intro i bit
      refine covered i ?_
      rw [BitVec.getLsbD_or, Bool.or_eq_true] at bit ⊢
      exact bit.imp_right (within_combinedEventMask less i)
    split
    · -- The remaining watchers want the same bits.
      exact ⟨⟨counted, remaining⟩, by simp [EventService.Meets], rfl⟩
    · cases accepts with
      | true => exact ⟨⟨counted, within_of_eq rfl⟩, fun _ => rfl, rfl⟩
      | false => exact ⟨⟨counted, remaining⟩, by simp [EventService.Meets, EventService.register], rfl⟩

/-- Choosing the bits of the caller leaves the watchers alone. -/
theorem EventService.Sound.registerBase {s : EventService w} {live : List (BitVec w)} (sound : s.Sound live)
    (mask : BitVec w) (accepts : Bool) :
    (s.registerBase mask accepts).1.Sound live ∧ (s.registerBase mask accepts).1.Meets (s.registerBase mask accepts).2 := by
  obtain ⟨counts, covered⟩ := sound
  cases accepts with
  -- The mask that was sent is what the modem reports.
  | true => exact ⟨⟨counts, within_of_eq rfl⟩, fun _ => rfl⟩
  | false => exact ⟨⟨counts, covered⟩, by simp [EventService.Meets, EventService.registerBase, EventService.register]⟩

/-- The modem reports every bit of a live watcher. -/
theorem EventService.Sound.within {s : EventService w} {live : List (BitVec w)} (sound : s.Sound live) {mask : BitVec w}
    (lives : mask ∈ live) : Within mask s.accepted := by
  intro i bit
  refine sound.covered i ?_
  rw [BitVec.getLsbD_or, Bool.or_eq_true, getLsbD_combinedEventMask]
  -- The mask is counted, so that its bits are in the combined mask.
  have counted : 0 < live.count mask := List.count_pos_iff.mpr lives
  exact .inr ⟨mask, by rw [sound.counts]; omega, bit⟩

/-! All runs. -/

/-- What holds of both services between the calls. -/
structure EventClient.Sound (c : EventClient) : Prop where
  loc : c.loc.Sound c.locLive
  uim : c.uim.Sound c.uimLive
  /-- No call chooses bits of the caller for UIM. -/
  base : c.uim.base = 0

/-- What a call owes, besides the bits of the live watchers. -/
structure EventClient.CallMeets (c : EventClient) (call : EventCall) : Prop where
  loc : call.isLOC = true → (c.step call).outcome = .registered → (c.step call).loc.Exact
  uim : call.isLOC = false → (c.step call).outcome = .registered →
    (c.step call).uim.Exact ∧ (c.step call).uim.base = 0
  failed : call.isAcquire = true → (c.step call).outcome = .failed →
    (∀ mask, (c.step call).loc.refs.count mask = c.loc.refs.count mask) ∧
      ∀ mask, (c.step call).uim.refs.count mask = c.uim.refs.count mask

/-- Every call keeps both services sound and does what it owes. -/
theorem EventClient.Sound.step {c : EventClient} (sound : c.Sound) (call : EventCall) :
    (c.step call).Sound ∧ c.CallMeets call := by
  -- A call is to one of the services and leaves the other as it was.
  obtain ⟨loc, uim, base⟩ := sound
  cases call with
  | locRegisterEvents mask accepts =>
    obtain ⟨kept, meets⟩ := loc.registerBase mask accepts
    exact ⟨⟨kept, uim, base⟩, fun _ registered => EventService.exact_of_eq (meets registered), nofun, nofun⟩
  | acquireLOCEvents mask accepts =>
    obtain ⟨kept, meets, -, failed⟩ := loc.acquire mask accepts
    exact ⟨⟨kept, uim, base⟩, fun _ registered => EventService.exact_of_eq (meets registered), nofun,
      fun _ fails => ⟨failed fails, fun _ => rfl⟩⟩
  | releaseLOCEvents mask accepts =>
    obtain ⟨kept, meets, -⟩ := loc.release mask accepts
    exact ⟨⟨kept, uim, base⟩, fun _ registered => EventService.exact_of_eq (meets registered), nofun, nofun⟩
  | acquireUIMEvents mask accepts =>
    obtain ⟨kept, meets, same, failed⟩ := uim.acquire mask accepts
    exact ⟨⟨loc, kept, same.trans base⟩, nofun,
      fun _ registered => ⟨EventService.exact_of_eq (meets registered), same.trans base⟩,
      fun _ fails => ⟨fun _ => rfl, failed fails⟩⟩
  | releaseUIMEvents mask accepts =>
    obtain ⟨kept, meets, same⟩ := uim.release mask accepts
    exact ⟨⟨loc, kept, same.trans base⟩, nofun,
      fun _ registered => ⟨EventService.exact_of_eq (meets registered), same.trans base⟩, nofun⟩

/-- Both services are sound in every reachable state. -/
theorem eventClient_sound {trace : List (EventClient × EventCall)} {c : EventClient} (run : eventClient.Runs trace c) :
    c.Sound := by
  refine Machine.Runs.stateInvariant ?_ ?_ run
  · have nothing {w : Nat} : EventService.Sound ({} : EventService w) [] := by
      refine ⟨fun mask => GoMap.count_empty mask, fun i bit => ?_⟩
      rw [BitVec.getLsbD_or, Bool.or_eq_true, getLsbD_combinedEventMask] at bit
      simp at bit
    exact ⟨nothing, nothing, rfl⟩
  · intro c call c' sound stepped
    rw [← Option.some.inj stepped]
    exact (sound.step call).1

/-- The bits of the caller are those of the call if it chose some, and else stay. -/
theorem EventClient.Sound.base_step {c : EventClient} (sound : c.Sound) (call : EventCall) :
    (c.step call).loc.base = call.chosen c.loc.base := by
  cases call with
  | locRegisterEvents mask accepts => cases accepts <;> rfl
  | acquireLOCEvents mask accepts => exact (sound.loc.acquire mask accepts).2.2.1
  | releaseLOCEvents mask accepts => exact (sound.loc.release mask accepts).2.2
  | acquireUIMEvents mask accepts => rfl
  | releaseUIMEvents mask accepts => rfl

/-- The bits of the caller are those that it chose last. -/
theorem eventClient_base {trace : List (EventClient × EventCall)} {c : EventClient} (run : eventClient.Runs trace c) :
    c.loc.base = chosenMask trace := by
  refine run.invariant (P := fun trace c => c.loc.base = chosenMask trace) rfl ?_
  intro trace c call c' earlier same stepped
  rw [← Option.some.inj stepped, (eventClient_sound earlier).base_step, same]
  simp [chosenMask]

/--
In every run each call does what it owes, and the modem reports every bit of every live watcher.

The bits of the caller are the mask of the last `LOCRegisterEvents` that the modem accepted. A call that registered
leaves the accepted mask exact, and an acquire that fails leaves every count as it was.
-/
theorem eventClient_covers {trace : List (EventClient × EventCall)} {c : EventClient} (run : eventClient.Runs trace c) :
    (∀ mask ∈ c.locLive, Within mask c.loc.accepted) ∧ (∀ mask ∈ c.uimLive, Within mask c.uim.accepted) ∧
      c.loc.base = chosenMask trace ∧
      ∀ before state call after, trace = before ++ (state, call) :: after → state.CallMeets call := by
  have sound := eventClient_sound run
  refine ⟨fun mask => sound.loc.within, fun mask => sound.uim.within, eventClient_base run, ?_⟩
  intro before state call after split
  subst split
  exact ((eventClient_sound run.accepted.1).step call).2

/-- Two watchers with a bit in common, one of which ends while the modem does not answer. -/
def eventCalls : List EventCall :=
  [.locRegisterEvents 0x8 true, .acquireLOCEvents 0x3 true, .acquireLOCEvents 0x6 true, .acquireLOCEvents 0x10 false,
    .releaseLOCEvents 0x3 false, .acquireUIMEvents 0x1 true]

/-- The modem still reports the bits of the watcher that ended, besides those of the live ones. -/
theorem eventCalls_covered : ∃ trace c, eventClient.Runs trace c ∧ c.locLive = [0x6] ∧ c.loc.accepted = 0xf ∧
    c.uim.accepted = 0x1 ∧ ∀ mask ∈ c.locLive, Within mask c.loc.accepted := by
  have glance : (eventClient.runFrom eventClient.init eventCalls).map
      (fun run => (run.2.locLive, run.2.loc.accepted, run.2.uim.accepted)) = some ([0x6], 0xf, 0x1) := by decide +kernel
  obtain ⟨trace, c, run, -, seen⟩ := Machine.exists_runs glance
  simp only [Prod.mk.injEq] at seen
  exact ⟨trace, c, run, seen.1, seen.2.1, seen.2.2, (eventClient_covers run).1⟩

end Wwan.Qcom
