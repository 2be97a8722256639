import Wwan.Lib.StreamLaws
import Wwan.Modem.Streams

/-! An error ends each of the backends' streams, except where the status is queried for system information. -/

namespace Wwan.Modem

open Streams (Act Event Result Watch Watcher pollLoop_terminal)

/-- The answers that do not keep a stream going after an error. -/
def Fine (site : Site) (answers : QueryAnswers) : Prop := site = .system → answers.status.err = none

/-- Every place has such an answer. -/
theorem exists_fine (site : Site) : ∃ answers, Fine site answers := ⟨default, fun _ => rfl⟩

/-- A query whose error is sent last. -/
theorem queryAndSend_terminal {σ α : Type} (site : Site) (query : QueryAnswers → Result α GoString)
    {next : α → Act Site QueryAnswers σ α GoString} (terminal : ∀ value, (next value).Terminal Fine) :
    (queryAndSend site query next).Terminal Fine := by
  intro answers _
  show _ ∧ _
  split
  · exact ⟨fun _ => rfl, trivial⟩
  · next fine =>
    refine ⟨fun failed => absurd ?_ fine, terminal _⟩
    simpa [Option.isSome_iff_ne_none] using failed

/-- A value is sent without an error. -/
theorem send_terminal {σ α : Type} (value : α) {next : Act Site QueryAnswers σ α GoString} (terminal : next.Terminal Fine) :
    (Act.send { value } next : Act Site QueryAnswers σ α GoString).Terminal Fine :=
  ⟨fun failed => absurd rfl failed, terminal⟩

/-- An error is sent before the return. -/
theorem send_ret_terminal {σ α : Type} (result : Result α GoString) :
    (Act.send result .ret : Act Site QueryAnswers σ α GoString).Terminal Fine :=
  ⟨fun _ => rfl, trivial⟩

namespace Qmi

/-- Nothing is sent before the next select. -/
theorem StatusLocals.after_terminal (l : StatusLocals) : l.after.Terminal Fine := by
  rw [StatusLocals.after]
  split <;> trivial

/-- `sendPowerState` sends an error last. -/
theorem StatusLocals.sendPowerState_terminal (l : StatusLocals) (state : UInt8) :
    (l.sendPowerState state).Terminal Fine := by
  rw [StatusLocals.sendPowerState]
  split
  · exact send_terminal _ (after_terminal _)
  · exact queryAndSend_terminal _ _ fun value => after_terminal _

/-- `WatchStatus` returns after every error, if no query for system information fails. -/
theorem watchStatus_lawful : watchStatus.Lawful Fine := by
  constructor
  · -- The watch starts with a first status, or polls where there are no indications.
    intro indications
    simp only [watchStatus]
    split
    · exact pollLoop_terminal _ _
    · exact queryAndSend_terminal _ _ fun value => trivial
  · -- Each case of the `select` ends with a return or goes on without an error.
    intro l i act taken
    cases i with
    | resync =>
      cases taken
      exact queryAndSend_terminal _ _ fun value => StatusLocals.after_terminal _
    | power event =>
      simp only [watchStatus] at taken
      split at taken
      · -- A power event is sent, and an error of its query returns.
        split at taken
        · cases taken
          exact StatusLocals.sendPowerState_terminal _ _
        · split at taken
          · cases taken
            trivial
          · cases taken
            intro answers _
            show Act.Terminal Fine (if _ then _ else _)
            split
            · exact send_ret_terminal _
            · exact StatusLocals.sendPowerState_terminal _ _
      · cases taken
    | powerPoll result =>
      simp only [watchStatus] at taken
      split at taken
      · -- So is the result of a poll for the power state.
        split at taken
        · cases taken
          exact send_ret_terminal _
        · split at taken
          · cases taken
            trivial
          · cases taken
            exact StatusLocals.sendPowerState_terminal _ _
      · cases taken
    | system =>
      simp only [watchStatus] at taken
      split at taken
      · cases taken
        -- Here the loop goes on, which is right as long as the query does not fail.
        intro answers fine
        exact ⟨fun failed => absurd (fine rfl) failed, StatusLocals.after_terminal _⟩
      · cases taken
    | powerClosed | powerPollsClosed | cardClosed | networkClosed | systemClosed | signalClosed =>
      -- A channel that was closed is not looked at again.
      simp only [watchStatus] at taken
      split at taken <;> cases taken
      exact StatusLocals.after_terminal _
    | card | network | signal =>
      simp only [watchStatus] at taken
      split at taken <;> cases taken
      exact send_terminal _ (StatusLocals.after_terminal _)

/-- Nothing is sent before the next select. -/
theorem SIMLocals.after_terminal (l : SIMLocals) : l.after.Terminal Fine := by
  rw [SIMLocals.after]
  split <;> trivial

/-- `WatchSIM` returns after every error. -/
theorem watchSIM_lawful : watchSIM.Lawful Fine := by
  constructor
  · -- The watch starts with a first SIM, or polls where there are no indications.
    intro (cardEvents, slotEvents)
    simp only [watchSIM]
    split
    · exact pollLoop_terminal _ _
    · exact queryAndSend_terminal _ _ fun value => trivial
  · -- Each case of the `select` ends with a return or goes on without an error.
    intro l i act taken
    cases i with
    | card =>
      simp only [watchSIM] at taken
      split at taken <;> cases taken
      intro answers _
      exact send_terminal _ (SIMLocals.after_terminal _)
    | slot =>
      simp only [watchSIM] at taken
      split at taken <;> cases taken
      exact queryAndSend_terminal _ _ fun value => SIMLocals.after_terminal _
    | enriched generation result =>
      simp only [watchSIM] at taken
      -- A result of an older enrichment is dropped.
      split at taken
      · split at taken
        · cases taken
          trivial
        · cases taken
          show _ ∧ _
          split
          · exact ⟨fun _ => rfl, trivial⟩
          · next fine =>
            refine ⟨fun failed => absurd ?_ fine, SIMLocals.after_terminal _⟩
            simpa [Option.isSome_iff_ne_none] using failed
      · cases taken
    | cardClosed | slotClosed | enrichment =>
      simp only [watchSIM] at taken
      split at taken <;> cases taken
      exact SIMLocals.after_terminal _
    | resync =>
      cases taken
      exact SIMLocals.after_terminal _

/-- A watcher of indications of one kind returns after every error. -/
theorem watchEvents_lawful {α : Type} (query : QueryAnswers → Result α GoString) : (watchEvents query).Lawful Fine := by
  constructor
  · intro subscribed
    simp only [watchEvents]
    split
    · exact queryAndSend_terminal _ _ fun value => trivial
    · exact pollLoop_terminal _ _
  · intro l i act taken
    cases i with
    | event value =>
      cases taken
      exact send_terminal _ trivial
    | closed =>
      cases taken
      trivial
    | resync =>
      cases taken
      exact queryAndSend_terminal _ _ fun value => trivial

end Qmi

namespace Mbim

/-- A failed indication is sent last. -/
theorem onIndication_terminal {σ α β : Type} (value : α) (kind : String) (indication : Indication β)
    {next : β → Act Site QueryAnswers σ α GoString} (terminal : ∀ decoded, (next decoded).Terminal Fine) :
    (onIndication value kind indication next).Terminal Fine := by
  cases indication with
  | failed err => exact send_ret_terminal _
  | malformed err => exact send_ret_terminal _
  | decoded decoded => exact terminal decoded

/-- Nothing is sent before the next select. -/
theorem StatusLocals.after_terminal (l : StatusLocals) : l.after.Terminal Fine := by
  rw [StatusLocals.after]
  split <;> trivial

/-- `WatchStatus` returns after every error. -/
theorem watchStatus_lawful : watchStatus.Lawful Fine := by
  constructor
  · -- The watch starts with a first status, or polls without a subscription.
    intro subscribed
    simp only [watchStatus]
    split
    · exact queryAndSend_terminal _ _ fun value => trivial
    · exact pollLoop_terminal _ _
  · -- Each case of the `select` ends with a return or goes on without an error.
    intro l i act taken
    cases i with
    | radio | registration | packet | signal =>
      simp only [watchStatus] at taken
      split at taken <;> cases taken
      exact onIndication_terminal _ _ _ fun decoded => send_terminal _ (StatusLocals.after_terminal _)
    | subscriber =>
      simp only [watchStatus] at taken
      split at taken <;> cases taken
      refine onIndication_terminal _ _ _ fun decoded => ?_
      intro answers _
      exact send_terminal _ (StatusLocals.after_terminal _)
    | radioClosed | subscriberClosed | registrationClosed | packetClosed | signalClosed =>
      simp only [watchStatus] at taken
      split at taken <;> cases taken
      exact StatusLocals.after_terminal _
    | simRetry =>
      simp only [watchStatus] at taken
      split at taken <;> cases taken
      intro answers _
      show Act.Terminal Fine (if _ then _ else _)
      split
      · trivial
      · exact send_terminal _ (StatusLocals.after_terminal _)
    | resync =>
      cases taken
      exact queryAndSend_terminal _ _ fun value => StatusLocals.after_terminal _

/-- `WatchSIM` returns after every error. -/
theorem watchSIM_lawful : watchSIM.Lawful Fine := by
  constructor
  · -- The watch starts with a first SIM, or polls without a subscription.
    intro subscribed
    simp only [watchSIM]
    split
    · exact queryAndSend_terminal _ _ fun value => trivial
    · exact pollLoop_terminal _ _
  · -- Each case of the `select` ends with a return or goes on without an error.
    intro l i act taken
    cases i with
    | subscriber indication =>
      cases taken
      exact onIndication_terminal _ _ _ fun decoded => queryAndSend_terminal _ _ fun value => trivial
    | closed =>
      cases taken
      trivial
    | simRetry =>
      simp only [watchSIM] at taken
      split at taken <;> cases taken
      intro answers _
      show Act.Terminal Fine (if _ then _ else _)
      split
      · trivial
      · exact queryAndSend_terminal _ _ fun value => trivial
    | resync =>
      cases taken
      exact queryAndSend_terminal _ _ fun value => trivial

/-- Nothing is sent before the next select. -/
theorem NetworkLocals.after_terminal (l : NetworkLocals) : l.after.Terminal Fine := by
  rw [NetworkLocals.after]
  split <;> trivial

/-- `WatchNetwork` returns after every error. -/
theorem watchNetwork_lawful : watchNetwork.Lawful Fine := by
  constructor
  · intro subscribed
    simp only [watchNetwork]
    split
    · exact queryAndSend_terminal _ _ fun value => trivial
    · exact pollLoop_terminal _ _
  · intro l i act taken
    cases i with
    | registration | packet =>
      simp only [watchNetwork] at taken
      split at taken <;> cases taken
      exact onIndication_terminal _ _ _ fun decoded => send_terminal _ (NetworkLocals.after_terminal _)
    | registrationClosed | packetClosed =>
      simp only [watchNetwork] at taken
      split at taken <;> cases taken
      exact NetworkLocals.after_terminal _
    | resync =>
      cases taken
      exact queryAndSend_terminal _ _ fun value => NetworkLocals.after_terminal _

/-- `WatchSignal` returns after every error. -/
theorem watchSignal_lawful : watchSignal.Lawful Fine := by
  constructor
  · intro subscribed
    simp only [watchSignal]
    split
    · exact queryAndSend_terminal _ _ fun value => trivial
    · exact pollLoop_terminal _ _
  · intro l i act taken
    cases i with
    | event indication =>
      cases taken
      exact onIndication_terminal _ _ _ fun signal => send_terminal _ trivial
    | closed =>
      cases taken
      trivial
    | resync =>
      cases taken
      exact queryAndSend_terminal _ _ fun value => trivial

end Mbim

/-- Each loop returns after every error, if no query for system information fails. -/
theorem watchLoop_lawful (backend : BackendKind) (kind : WatchKind) :
    (watchLoop backend kind).loop.Lawful Fine := by
  cases backend <;> cases kind
  · exact Qmi.watchStatus_lawful
  · exact Qmi.watchSIM_lawful
  · exact Qmi.watchEvents_lawful _
  · exact Qmi.watchEvents_lawful _
  · exact Mbim.watchStatus_lawful
  · exact Mbim.watchSIM_lawful
  · exact Mbim.watchNetwork_lawful
  · exact Mbim.watchSignal_lawful

/-- In every run of one of the eight streams in which no status query for system information fails, and in which the
context does not end just when an error is about to be sent, an error is the last result, and none is sent after the end
of the context; after either, the channel can be closed with nothing more sent. -/
theorem watchErrors_terminal (backend : BackendKind) (kind : WatchKind)
    {trace : List (Watch Site QueryAnswers (watchLoop backend kind).locals (watchLoop backend kind).value GoString ×
      Event QueryAnswers (watchLoop backend kind).case (watchLoop backend kind).subscriptions)}
    {s : Watch Site QueryAnswers (watchLoop backend kind).locals (watchLoop backend kind).value GoString}
    (run : (watchLoop backend kind).loop.machine.Runs trace s) (meeting : Watcher.Meeting Fine trace) :
    s.main.ErrorLast ∧ (∀ entry ∈ s.main.sent, entry.2 = true → entry.1.err = none) ∧
      (¬ s.main.Clean ∨ s.cancelled = true ∧ s.main.stage ≠ .absent → (watchLoop backend kind).loop.Closable s) := by
  have lawful := watchLoop_lawful backend kind
  obtain ⟨sound, timely⟩ := Watcher.sound_run lawful run meeting
  refine ⟨sound.errorLast, timely.sent, ?_⟩
  rintro (failed | ⟨ended, started⟩)
  · exact Watcher.closable_of_failed sound failed
  · exact Watcher.closable_run exists_fine lawful run meeting ended started

/-- A query of the network fails at once. -/
def failedNetwork : List (Event QueryAnswers (EventCase NetworkStatus) Bool) :=
  [.start true, .main (.answer { networkStatus := { value := {}, err := some [] } }), .main .go, .main .go, .main .go,
   .main .go]

/-- The error is the last result, and the channel can be closed. -/
theorem failedNetwork_terminal : ∃ trace s, (watchLoop .qmi .network).loop.machine.Runs trace s ∧
    s.main.sent.map (fun entry => entry.1.err) = [some []] ∧ s.main.ErrorLast := by
  have glance : (Qmi.watchNetwork.machine.runFrom {} failedNetwork).map
      (fun ran => ran.2.main.sent.map fun entry => entry.1.err) = some [some []] := by decide +kernel
  obtain ⟨trace, s, run, events, seen⟩ := Machine.exists_runs glance
  have meeting : Watcher.Meeting Fine trace := by
    refine Watcher.meeting_of_events events (by simp [failedNetwork]) ?_
    intro answers member site _
    simp [failedNetwork] at member
    rw [member]
  exact ⟨trace, s, run, seen, (watchErrors_terminal .qmi .network run meeting).1⟩

/-- The query for the first indication of system information fails, and that for the second does not. -/
def failedSystemQuery : List (Event QueryAnswers Qmi.StatusCase Qmi.StatusIndications) :=
  [.start { power := false, card := false, network := false, system := true, signal := false },
   .main (.answer {}), .main .go, .main .go, .main .go, .receive,
   .main (.case .system), .main (.answer { status := { value := {}, err := some [] } }), .main .go, .main .go, .receive,
   .main (.case .system), .main (.answer {}), .main .go, .main .go]

/-- The context ends after the look at it and before the select of an error. -/
def cancelledSend : List (Event QueryAnswers (EventCase NetworkStatus) Bool) :=
  [.start true, .main (.answer { networkStatus := { value := {}, err := some [] } }), .main .go, .main .go, .cancel,
   .main .go]

/-- A status follows an error, and an error is sent after the end of the context. -/
theorem watchErrors_not_terminal :
    (∃ trace s, (watchLoop .qmi .status).loop.machine.Runs trace s ∧ s.cancelled = false ∧ ¬ s.main.ErrorLast) ∧
    ∃ trace s, (watchLoop .qmi .network).loop.machine.Runs trace s ∧
      ∃ entry ∈ s.main.sent, entry.2 = true ∧ entry.1.err ≠ none := by
  constructor
  · have glance : (Qmi.watchStatus.machine.runFrom {} failedSystemQuery).map
        (fun ran => (ran.2.cancelled, ran.2.main.sent)) =
        some (false, [({ value := {} }, false), ({ value := {}, err := some [] }, false), ({ value := {} }, false)]) := by
      decide +kernel
    obtain ⟨trace, s, run, -, seen⟩ := Machine.exists_runs glance
    obtain ⟨live, sent⟩ := Prod.mk.inj seen
    refine ⟨trace, s, run, live, fun last => ?_⟩
    have nothing := last [_] _ [_] sent (by simp)
    simp at nothing
  · have glance : (Qmi.watchNetwork.machine.runFrom {} cancelledSend).map (fun ran => ran.2.main.sent) =
        some [({ value := {}, err := some [] }, true)] := by decide +kernel
    obtain ⟨trace, s, run, -, sent⟩ := Machine.exists_runs glance
    refine ⟨trace, s, run, ({ value := {}, err := some [] }, true), ?_, rfl, by simp⟩
    show _ ∈ s.main.sent
    rw [show s.main.sent = _ from sent]
    exact List.mem_singleton_self _

end Wwan.Modem
