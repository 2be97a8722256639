import Wwan.Modem.Session

/-! When a closed data session stays disconnected. -/

namespace Wwan.Modem

namespace Qmi

namespace Session

/-- `Close` has succeeded. -/
def Closed (s : Session) : Prop := s.close = .closed none

/-- A closed session is reported as not connected. -/
def StaysDisconnected (s : Session) : Prop := s.Closed → s.infoValue.connected = false

/-- A watch is about to write that a closed session is connected. -/
def Late (s : Session) (e : SessionEvent) : Prop :=
  s.Closed ∧ ∃ w index network, e = .apply w ∧ s.watchers w = .updating index true network

/-- Updates are of sessions that there are. -/
def Inside (s : Session) : Prop :=
  ∀ w index connected network, s.watchers w = .updating index connected network → index < s.connected.length

/-- A goroutine that goes on without an update leaves the others inside. -/
theorem Inside.setWatcher {s : Session} (inside : s.Inside) (w : WatcherID) {stage : WatcherStage}
    (known : ∀ index connected network, stage = .updating index connected network → index < s.connected.length) :
    (s.setWatcher w stage).Inside := by
  intro v index connected network there
  simp only [Session.setWatcher] at there
  split at there
  · exact known index connected network there
  · exact inside v index connected network there

/-- Every step keeps updates inside. -/
theorem Inside.step {s s' : Session} {e : SessionEvent} (inside : s.Inside) (accepted : s.step e = some s') :
    s'.Inside := by
  cases e with
  | watch w =>
    simp only [Session.step, Option.ite_none_right_eq_some, Option.some.injEq] at accepted
    obtain ⟨-, rfl⟩ := accepted
    exact inside.setWatcher w (by simp)
  | update w index connected network =>
    simp only [Session.step, Option.ite_none_right_eq_some, Bool.and_eq_true, decide_eq_true_eq, Option.some.injEq]
      at accepted
    obtain ⟨⟨-, known⟩, rfl⟩ := accepted
    -- An update is for one of the connections.
    refine inside.setWatcher w ?_
    intro _ _ _ same
    cases same
    exact known
  | apply w =>
    simp only [Session.step] at accepted
    split at accepted
    · cases accepted
      -- Writing it changes no number of connections.
      refine Inside.setWatcher ?_ w (by simp)
      intro v index connected network there
      simpa using inside v index connected network there
    · cases accepted
  | leave w =>
    simp only [Session.step, Option.ite_none_right_eq_some, Option.some.injEq] at accepted
    obtain ⟨-, rfl⟩ := accepted
    exact inside.setWatcher w (by simp)
  | close =>
    simp only [Session.step, Option.ite_none_right_eq_some, Option.some.injEq] at accepted
    obtain ⟨-, rfl⟩ := accepted
    exact inside
  | closed err =>
    simp only [Session.step, Option.ite_none_right_eq_some, Option.some.injEq] at accepted
    obtain ⟨-, rfl⟩ := accepted
    -- Closing changes no number of connections either.
    intro v index connected network there
    simpa using inside v index connected network there

/-- A closed session has no flag set. -/
def Cleared (s : Session) : Prop := s.Closed → true ∉ s.connected ∧ s.infoValue.connected = false

/-- A step that is not late keeps a closed session cleared. -/
theorem Cleared.step {s s' : Session} {e : SessionEvent} (cleared : s.Cleared) (onTime : ¬ s.Late e)
    (accepted : s.step e = some s') : s'.Cleared := by
  cases e with
  | apply w =>
    simp only [Session.step] at accepted
    split at accepted
    · rename_i index connected network stage
      cases accepted
      intro closed
      -- On a closed session the update can only say that nothing is connected.
      have unset : connected = false := by
        cases connected
        · rfl
        · exact absurd ⟨closed, w, index, network, rfl, stage⟩ onTime
      have still : true ∉ s.connected.set index connected := by
        intro member
        rcases List.mem_or_eq_of_mem_set member with old | new
        · exact (cleared closed).1 old
        · simp [unset] at new
      exact ⟨still, by simpa [setWatcher, BearerInfo.refresh] using still⟩
    · cases accepted
  | close =>
    -- Closing clears all connections.
    simp only [Session.step, Option.ite_none_right_eq_some, Option.some.injEq] at accepted
    obtain ⟨-, rfl⟩ := accepted
    simp [Cleared, Closed]
  | closed err =>
    simp only [Session.step, Option.ite_none_right_eq_some, Option.some.injEq] at accepted
    obtain ⟨-, rfl⟩ := accepted
    intro _
    simp
  | watch w | update w | leave w =>
    -- These steps only move a goroutine on.
    simp only [Session.step, Option.ite_none_right_eq_some, Option.some.injEq] at accepted
    obtain ⟨-, rfl⟩ := accepted
    exact cleared

/-- A late step reports a closed session as connected. -/
theorem Inside.connected_of_late {s s' : Session} {e : SessionEvent} (inside : s.Inside) (late : s.Late e)
    (accepted : s.step e = some s') : ¬ s'.StaysDisconnected := by
  obtain ⟨closed, w, index, network, rfl, stage⟩ := late
  simp only [Session.step, stage, Option.some.injEq] at accepted
  subst accepted
  intro stays
  have reported := stays closed
  have member : true ∈ s.connected.set index true :=
    List.mem_iff_getElem.mpr ⟨index, by simpa using inside w index true network stage, by simp⟩
  simp [Session.setWatcher, BearerInfo.refresh, member] at reported

/-- The updates of every run are inside. -/
theorem inside {connected : List Bool} {infoValue : BearerInfo} {trace : List (Session × SessionEvent)} {s : Session}
    (run : (sessionMachine connected infoValue).Runs trace s) : s.Inside :=
  run.stateInvariant (P := Inside) (by simp [sessionMachine, Inside]) fun _ _ _ inside accepted => inside.step accepted

end Session

end Qmi

namespace Mbim

namespace Session

/-- A closed session is reported as not connected. -/
def StaysDisconnected (s : Session) : Prop := s.closed = true → s.infoValue.connected = false

/-- A watch is about to write that a closed session is connected. -/
def Late (s : Session) (e : SessionEvent) : Prop :=
  s.closed = true ∧ ∃ w, e = .apply w ∧ s.watchers w = .answered true

/-- A step that is not late keeps a closed session disconnected. -/
theorem StaysDisconnected.step {s s' : Session} {e : SessionEvent} (stays : s.StaysDisconnected)
    (onTime : ¬ s.Late e) (accepted : s.step e = some s') : s'.StaysDisconnected := by
  cases e with
  | apply w =>
    simp only [Session.step] at accepted
    split at accepted
    · rename_i activated stage
      simp only [Option.ite_none_left_eq_some, Option.some.injEq] at accepted
      obtain ⟨-, rfl⟩ := accepted
      -- A late answer would be one that says activated.
      intro closed
      show activated = false
      cases activated
      · rfl
      · exact absurd ⟨closed, w, rfl, stage⟩ onTime
    · cases accepted
  | network w network =>
    simp only [Session.step] at accepted
    split at accepted
    · simp only [Option.ite_none_left_eq_some, Option.some.injEq] at accepted
      obtain ⟨-, rfl⟩ := accepted
      exact stays
    · cases accepted
  | leave w =>
    simp only [Session.step] at accepted
    split at accepted
    · cases accepted
      exact stays
    · cases accepted
      exact stays
    · cases accepted
  | disconnect =>
    simp only [Session.step, Option.ite_none_left_eq_some, Option.some.injEq] at accepted
    obtain ⟨-, rfl⟩ := accepted
    -- A second call finds the session closed.
    split
    · exact stays
    · exact stays
  | disconnected failed =>
    simp only [Session.step, Option.ite_none_left_eq_some] at accepted
    obtain ⟨-, accepted⟩ := accepted
    -- A failed call leaves the session as it was.
    split at accepted
    · cases accepted
      exact stays
    · cases accepted
      exact fun _ => rfl
  | watch w | answer w =>
    simp only [Session.step, Option.ite_none_right_eq_some, Option.some.injEq] at accepted
    obtain ⟨-, rfl⟩ := accepted
    exact stays

/-- A late step reports a closed session as connected. -/
theorem connected_of_late {s s' : Session} {e : SessionEvent} (late : s.Late e) (accepted : s.step e = some s') :
    ¬ s'.StaysDisconnected := by
  obtain ⟨closed, w, rfl, stage⟩ := late
  simp only [Session.step, stage, Option.ite_none_left_eq_some, Option.some.injEq] at accepted
  obtain ⟨-, rfl⟩ := accepted
  intro stays
  have reported := stays closed
  simp [setWatcher] at reported

end Session

end Mbim

/-- A closed data session stays disconnected throughout exactly the runs in which no watch writes, after `Close` or
`Disconnect` has succeeded, that the session is connected. -/
theorem closedSession_disconnected_iff (connected : List Bool) (qmiInfo mbimInfo : BearerInfo)
    {qmiTrace : List (Qmi.Session × Qmi.SessionEvent)} {qmi : Qmi.Session}
    (qmiRun : (Qmi.sessionMachine connected qmiInfo).Runs qmiTrace qmi)
    {mbimTrace : List (Mbim.Session × Mbim.SessionEvent)} {mbim : Mbim.Session}
    (mbimRun : (Mbim.sessionMachine mbimInfo).Runs mbimTrace mbim) :
    ((Qmi.sessionMachine connected qmiInfo).Throughout qmiTrace Qmi.Session.StaysDisconnected ↔
      ∀ step ∈ qmiTrace, ¬ step.1.Late step.2) ∧
    ((Mbim.sessionMachine mbimInfo).Throughout mbimTrace Mbim.Session.StaysDisconnected ↔
      ∀ step ∈ mbimTrace, ¬ step.1.Late step.2) := by
  constructor
  · refine qmiRun.throughout_iff (Q := Qmi.Session.Cleared) (by simp [Qmi.sessionMachine, Qmi.Session.Cleared,
      Qmi.Session.Closed]) (fun s cleared closed => (cleared closed).2) ?_ ?_
    · exact fun _ _ _ cleared onTime accepted => cleared.step onTime accepted
    · exact fun _ _ _ _ earlier late accepted => (Qmi.Session.inside earlier).connected_of_late late accepted
  · refine mbimRun.throughout_iff (Q := Mbim.Session.StaysDisconnected) (by simp [Mbim.sessionMachine,
      Mbim.Session.StaysDisconnected]) (fun _ stays => stays) ?_ ?_
    · exact fun _ _ _ stays onTime accepted => stays.step onTime accepted
    · exact fun _ _ _ _ _ late accepted => Mbim.Session.connected_of_late late accepted

/-- Sessions that are closed while their watches wait. -/
theorem waitingWatch_disconnected : ∃ qmiTrace qmi mbimTrace mbim,
    (Qmi.sessionMachine [true] {}).Runs qmiTrace qmi ∧ qmi.Closed ∧
    (Mbim.sessionMachine {}).Runs mbimTrace mbim ∧ mbim.closed = true ∧
    (Qmi.sessionMachine [true] {}).Throughout qmiTrace Qmi.Session.StaysDisconnected ∧
    (Mbim.sessionMachine {}).Throughout mbimTrace Mbim.Session.StaysDisconnected := by
  have qmiGlance : ((Qmi.sessionMachine [true] {}).runFrom (Qmi.sessionMachine [true] {}).init
      [.watch 0, .update 0 0 true {}, .close, .closed none]).map (fun ran => ran.2.close) = some (.closed none) := by
    decide +kernel
  have mbimGlance : ((Mbim.sessionMachine {}).runFrom (Mbim.sessionMachine {}).init
      [.watch 0, .answer 0 true, .disconnect, .disconnected false]).map (fun ran => ran.2.closed) = some true := by
    decide +kernel
  obtain ⟨qmiTrace, qmi, qmiRun, qmiEvents, qmiClosed⟩ := Machine.exists_runs qmiGlance
  obtain ⟨mbimTrace, mbim, mbimRun, mbimEvents, mbimClosed⟩ := Machine.exists_runs mbimGlance
  have both := closedSession_disconnected_iff [true] {} {} qmiRun mbimRun
  refine ⟨qmiTrace, qmi, mbimTrace, mbim, qmiRun, qmiClosed, mbimRun, mbimClosed, both.1.mpr ?_, both.2.mpr ?_⟩
  · -- No watch writes anything.
    rintro step member ⟨-, w, index, network, apply, -⟩
    have event : step.2 ∈ qmiTrace.map Prod.snd := List.mem_map_of_mem member
    rw [qmiEvents, apply] at event
    simp at event
  · rintro step member ⟨-, w, apply, -⟩
    have event : step.2 ∈ mbimTrace.map Prod.snd := List.mem_map_of_mem member
    rw [mbimEvents, apply] at event
    simp at event

/-- A watch that holds an update while the QMI session is closed, and an answer for an MBIM session that comes before its
disconnect, are both written after it. -/
theorem lateUpdate_reconnects :
    ((Qmi.sessionMachine [true] {}).runFrom (Qmi.sessionMachine [true] {}).init
        [.watch 0, .update 0 0 true {}, .close, .closed none, .apply 0]).map
      (fun ran => (ran.2.close, ran.2.infoValue.connected)) = some (.closed none, true) ∧
    ((Mbim.sessionMachine {}).runFrom (Mbim.sessionMachine {}).init
        [.watch 0, .answer 0 true, .disconnect, .disconnected false, .apply 0]).map
      (fun ran => (ran.2.closed, ran.2.infoValue.connected)) = some (true, true) := by
  decide +kernel

end Wwan.Modem
