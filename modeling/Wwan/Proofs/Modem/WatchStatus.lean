import Wwan.Modem.WatchStatus
import Wwan.Proofs.Modem.Registry

/-! The number of bearers that a watch of the status has sent is never stale. -/

namespace Wwan.Modem

namespace StatusWatch

/-- A status differs from one sent before it in the number of bearers only. -/
def Recounts (sent : List (StreamResult Status × Bool)) (status : Status) : Prop :=
  ∃ last, sent.getLast? = some last ∧ status = { last.1.value with ownBearers := status.ownBearers }

/-- The results that the backend did not give only recount the bearers. -/
def Follows (sent : List (StreamResult Status × Bool)) : Prop :=
  ∀ before item after, sent = before ++ item :: after → item.2 = false → Recounts before item.1.value

/-- One more result follows those before it. -/
theorem Follows.append {sent : List (StreamResult Status × Bool)} {item : StreamResult Status × Bool}
    (follows : Follows sent) (recounts : item.2 = false → Recounts sent item.1.value) : Follows (sent ++ [item]) := by
  intro before other after split own
  rcases List.eq_nil_or_concat' after with rfl | ⟨more, last, rfl⟩
  · obtain ⟨rfl, same⟩ := List.append_inj' split rfl
    cases same
    exact recounts own
  · rw [← List.cons_append, ← List.append_assoc] at split
    exact follows before other more (List.append_inj' split rfl).1 own

/-- What is known of a watch. -/
structure Current (s : StatusWatch) : Prop where
  starting : s.stage = .starting → s.haveCurrent = false
  behind : s.bearersChanged ≤ s.modem.bearersChanged
  /-- The count at hand is that of the modem, unless there is a change to come. -/
  fresh : s.haveCurrent = true → (∀ result backend, s.stage = .sending result backend → result.err = none) →
    s.stage ≠ .returned → s.modem.closed = false → s.bearersChanged = s.modem.bearersChanged →
    s.current.ownBearers = s.modem.bearers.length
  /-- What is at hand was sent last. -/
  last : (∀ result backend, s.stage ≠ .sending result backend) → s.stage ≠ .returned →
    if s.haveCurrent then ∃ backend, s.sent.getLast? = some ({ value := s.current }, backend) else s.sent = []
  sending : ∀ result backend, s.stage = .sending result backend → result.err = none →
    s.haveCurrent = true ∧ result.value = s.current
  recounts : ∀ result, s.stage = .sending result false → Recounts s.sent result.value
  follows : Follows s.sent

/-- A step of the modem changes the bearers only with the channel, or closes the modem. -/
theorem Current.modem {s : StatusWatch} {modem : Registry} {event : RegistryEvent} (current : s.Current)
    (accepted : s.modem.step event = some modem) : Current { s with modem } := by
  obtain ⟨starting, behind, fresh, last, sending, recounts, follows⟩ := current
  have more (changed : modem.bearersChanged = s.modem.bearersChanged + 1) : s.bearersChanged ≤ modem.bearersChanged := by
    rw [changed]
    exact Nat.le_succ_of_le behind
  rcases (Registry.moves_of_step accepted).bearers with ⟨same, closed, changed, -⟩ | ⟨-, -, changed, -⟩ |
    ⟨-, changed, -⟩ | ⟨-, closed, changed, -⟩
  · refine ⟨starting, changed ▸ behind, ?_, last, sending, recounts, follows⟩
    rw [same, closed, changed]
    exact fresh
  · refine ⟨starting, more changed, ?_, last, sending, recounts, follows⟩
    intro _ _ _ _ now
    exact absurd now (Nat.ne_of_lt (Nat.lt_of_le_of_lt behind (changed ▸ Nat.lt_succ_self _)))
  · refine ⟨starting, more changed, ?_, last, sending, recounts, follows⟩
    intro _ _ _ _ now
    exact absurd now (Nat.ne_of_lt (Nat.lt_of_le_of_lt behind (changed ▸ Nat.lt_succ_self _)))
  · refine ⟨starting, changed ▸ behind, ?_, last, sending, recounts, follows⟩
    intro _ _ _ isOpen
    simp [closed] at isOpen

/-- A snapshot brings the watch up to date. -/
theorem Current.snapshot {s s' : StatusWatch} (current : s.Current)
    (accepted : s.snapshot s.modem.bearers.length s.modem.bearersChanged = some s') : s'.Current := by
  obtain ⟨starting, behind, fresh, last, sending, recounts, follows⟩ := current
  unfold StatusWatch.snapshot at accepted
  split at accepted
  · -- Nothing was sent before, and the watch waits for the first status.
    rename_i stage
    cases accepted
    have idle := last (by simp [stage]) (by simp [stage])
    refine ⟨by simp, Nat.le_refl _, ?_, fun _ _ => idle, by simp, by simp, follows⟩
    simp [starting stage]
  · -- The watch has been told of a change.
    rename_i stage
    have idle := last (by simp [stage]) (by simp [stage])
    split at accepted
    · -- The count is as it was sent.
      rename_i known
      cases accepted
      refine ⟨by simp, Nat.le_refl _, ?_, fun _ _ => idle, by simp, by simp, follows⟩
      intro known' _ _ _ _
      have known' : s.haveCurrent = true := known'
      simpa [known'] using known
    · -- The count has changed, and the last status is sent again with it.
      rename_i stale
      cases accepted
      simp only [Bool.or_eq_true, Bool.not_eq_true', decide_eq_true_eq, not_or, Bool.not_eq_false] at stale
      rw [if_pos stale.1] at idle
      obtain ⟨backend, sent⟩ := idle
      refine ⟨by simp, Nat.le_refl _, fun _ _ _ _ _ => rfl, by simp, ?_, ?_, follows⟩
      · intro result backend stage _
        cases stage
        exact ⟨stale.1, rfl⟩
      · intro result stage
        cases stage
        exact ⟨_, sent, rfl⟩
  · -- A status has arrived, and takes the new count with it.
    rename_i result stage
    dsimp only at accepted
    split at accepted
    · -- It is sent and remembered.
      cases accepted
      refine ⟨by simp, Nat.le_refl _, fun _ _ _ _ _ => rfl, by simp, ?_, by simp, follows⟩
      intro result backend stage _
      cases stage
      exact ⟨rfl, rfl⟩
    · -- An error is the last result.
      rename_i failed
      cases accepted
      refine ⟨by simp, Nat.le_refl _, ?_, by simp, ?_, by simp, follows⟩
      · intro _ fine
        have fine := fine _ _ rfl
        simp_all
      · intro result' backend stage fine
        cases stage
        simp [show result.err = none from fine] at failed
  · cases accepted

/-- Every step keeps what is known of a watch. -/
theorem Current.step {s s' : StatusWatch} {e : StatusWatchEvent} (current : s.Current) (accepted : s.step e = some s') :
    s'.Current := by
  cases e with
  | modem event =>
    simp only [StatusWatch.step, Option.map_eq_some_iff] at accepted
    obtain ⟨modem, accepted, rfl⟩ := accepted
    exact current.modem accepted
  | bearerSnapshot =>
    -- The snapshot is taken where no other holds the lock.
    simp only [StatusWatch.step, Option.ite_none_right_eq_some] at accepted
    exact current.snapshot accepted.2
  | changed =>
    -- A change makes the watch look again.
    simp only [StatusWatch.step, Option.ite_none_right_eq_some, Bool.and_eq_true, decide_eq_true_eq,
      Option.some.injEq] at accepted
    obtain ⟨⟨stage, -⟩, rfl⟩ := accepted
    have idle := current.last (by simp [stage]) (by simp [stage])
    refine ⟨by simp, current.behind, ?_, fun _ _ => idle, by simp, by simp, current.follows⟩
    intro known _ _
    exact current.fresh known (by simp [stage]) (by simp [stage])
  | receive result =>
    -- A status of the backend makes the watch look again too.
    simp only [StatusWatch.step, Option.ite_none_right_eq_some, Option.some.injEq] at accepted
    obtain ⟨stage, rfl⟩ := accepted
    have idle := current.last (by simp [stage]) (by simp [stage])
    refine ⟨by simp, current.behind, ?_, fun _ _ => idle, by simp, by simp, current.follows⟩
    intro known _ _
    exact current.fresh known (by simp [stage]) (by simp [stage])
  | send =>
    simp only [StatusWatch.step] at accepted
    split at accepted
    · rename_i result backend stage
      cases accepted
      -- What the watch sends by itself follows the last status.
      have follows : Follows (s.sent ++ [(result, backend)]) := by
        refine current.follows.append fun own => ?_
        cases own
        exact current.recounts result stage
      -- An error is the last result of the watch.
      cases failed : result.err with
      | some err => exact ⟨by simp, current.behind, by simp, by simp, by simp, by simp, follows⟩
      | none =>
        obtain ⟨known, same⟩ := current.sending result backend stage failed
        -- A status that was sent is the current one.
        refine ⟨by simp, current.behind, ?_, ?_, by simp, by simp, follows⟩
        · intro _ _ _
          refine current.fresh known ?_ (by simp [stage])
          intro other _ also
          cases stage.symm.trans also
          exact failed
        · intro _ _
          simp only [known, if_true, List.getLast?_concat, Option.some.injEq, Prod.mk.injEq]
          refine ⟨backend, ?_, rfl⟩
          cases result
          cases failed
          cases same
          rfl
    · cases accepted
  | cancel =>
    simp only [StatusWatch.step] at accepted
    split at accepted
    · -- The watch returns, wherever it is.
      cases accepted
      exact ⟨by simp, current.behind, by simp, by simp, by simp, by simp, current.follows⟩
    · cases accepted
      exact ⟨by simp, current.behind, by simp, by simp, by simp, by simp, current.follows⟩
    · cases accepted

/-- In every order of the steps of a modem and of a watch of its status, a watch that has sent a status and waits has
sent the number of bearers that are registered, or waits for a channel that is closed, unless the modem is closed; and
what it sends by itself only recounts the bearers. -/
theorem ownBearers_fresh {trace : List (StatusWatch × StatusWatchEvent)} {s : StatusWatch}
    (run : statusWatch.Runs trace s) :
    (s.stage = .selecting → s.modem.closed = false → ∀ last, s.sent.getLast? = some last →
      last.1.value.ownBearers = s.modem.bearers.length ∨ s.bearersChanged < s.modem.bearersChanged) ∧
    Follows s.sent := by
  -- The invariant holds at the start and in every step.
  have current : s.Current := by
    refine run.stateInvariant (P := Current) ?_ (fun _ _ _ current accepted => current.step accepted)
    refine ⟨fun _ => rfl, Nat.le_refl _, by simp [statusWatch], by simp [statusWatch], by simp [statusWatch],
      by simp [statusWatch], ?_⟩
    intro before item after split
    simp [statusWatch] at split
  refine ⟨?_, current.follows⟩
  intro stage isOpen last found
  have idle := current.last (by simp [stage]) (by simp [stage])
  cases known : s.haveCurrent with
  | false =>
    simp only [known, Bool.false_eq_true, if_false] at idle
    simp [idle] at found
  | true =>
    simp only [known, if_true] at idle
    obtain ⟨backend, sent⟩ := idle
    cases found.symm.trans sent
    -- The count is the one of now, or a change is still to be told of.
    rcases Nat.eq_or_lt_of_le current.behind with now | late
    · exact .inl (current.fresh known (by simp [stage]) (by simp [stage]) isOpen now)
    · exact .inr late

/-- A watch that sees a bearer come. -/
def bearerComes : List StatusWatchEvent :=
  [.bearerSnapshot, .receive { value := {} }, .bearerSnapshot, .send, .modem (.call 0 .connect), .modem (.connected 0),
    .modem (.run 0), .modem (.run 0), .changed, .bearerSnapshot, .send]

/-- It has sent the new number of bearers. -/
theorem bearerComes_fresh :
    ∃ trace s, statusWatch.Runs trace s ∧ trace.map Prod.snd = bearerComes ∧ s.modem.bearers = [1] ∧
      (∀ last, s.sent.getLast? = some last →
        last.1.value.ownBearers = s.modem.bearers.length ∨ s.bearersChanged < s.modem.bearersChanged) := by
  have glance : (statusWatch.runFrom statusWatch.init bearerComes).map
      (fun ran => (ran.2.modem.bearers, ran.2.stage, ran.2.modem.closed)) = some ([1], .selecting, false) := by
    decide +kernel
  obtain ⟨trace, s, run, events, seen⟩ := Machine.exists_runs glance
  simp only [Prod.mk.injEq] at seen
  exact ⟨trace, s, run, events, seen.1, (ownBearers_fresh run).1 seen.2.1 seen.2.2⟩

end StatusWatch

end Wwan.Modem
