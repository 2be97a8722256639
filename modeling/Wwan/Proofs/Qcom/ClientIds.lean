import Mathlib.Data.List.Induction
import Mathlib.Data.Set.Basic
import Wwan.Qcom.ClientIds

/-! A client has recorded the client IDs that the modem holds for it, and releases each of them once when it closes. -/

namespace Wwan.Qcom.ClientIds

open Call (Ensures Fails fails_pure fails_throw fails_ite)
open Dialogue (ask getState setState)

/-- What was said. -/
abbrev Log := List (Request × Answer)

/-! What the modem holds, as its answers tell. -/

/-- The client ID that a response to an allocation grants, be it for the service that was asked for or not. -/
def granted (tlvs : List TLV) : Option AllocatedClientID :=
  if resultError tlvs = none then
    match TLVs.value tlvs 0x01 with
    | some [service, clientID] => if clientID = 0 then none else some ⟨service.toUInt32, clientID⟩
    | _ => none
  else none

/-- The response to a release says that the modem does not hold the client ID any more. -/
def Gone (tlvs : List TLV) : Prop :=
  resultError tlvs = none ∨ resultError tlvs = some (.qmi qmiErrorInvalidClientID)

/-- What the modem holds for the client after one more answer. -/
def settle (held : Set AllocatedClientID) : Request × Answer → Set AllocatedClientID
  | (.allocateClientID _, .response tlvs) => held ∪ {id | granted tlvs = some id}
  | (.releaseClientID service clientID, .response tlvs) =>
    {id | id ∈ held ∧ ¬(Gone tlvs ∧ id = ⟨service, clientID⟩)}
  | _ => held

/-- What the modem holds for the client: the client IDs that it granted and that have not been released since. -/
def Held (log : Log) : Set AllocatedClientID := log.foldl settle ∅

/-- The modem has said that a client ID is invalid. -/
def Invalid (log : Log) (id : AllocatedClientID) : Prop :=
  ∃ message tlvs answer, (.message id.service id.clientID message tlvs, .response answer) ∈ log ∧
    resultError answer = some (.qmi qmiErrorInvalidClientID)

/-- The modem has granted a client ID. -/
def Granted (log : Log) (id : AllocatedClientID) : Prop :=
  ∃ service tlvs, (.allocateClientID service, .response tlvs) ∈ log ∧ granted tlvs = some id

/-- One more answer. -/
theorem held_concat (log : Log) (entry : Request × Answer) : Held (log ++ [entry]) = settle (Held log) entry := by
  simp [Held, List.foldl_append]

/-- What was granted stays granted. -/
theorem Granted.concat {log : Log} {id : AllocatedClientID} (given : Granted log id) (entry : Request × Answer) :
    Granted (log ++ [entry]) id := by
  obtain ⟨service, tlvs, member, grant⟩ := given
  exact ⟨service, tlvs, List.mem_append_left _ member, grant⟩

/-- The modem has not granted a client ID since. -/
def Ungranted (past log : Log) (id : AllocatedClientID) : Prop := ∃ more, log = past ++ more ∧ ¬Granted more id

/-- Nothing has been said since. -/
theorem Ungranted.refl (log : Log) (id : AllocatedClientID) : Ungranted log log id := by
  refine ⟨[], by simp, ?_⟩
  rintro ⟨service, tlvs, member, -⟩
  cases member

/-- What was said first and what was said then does not grant a client ID. -/
theorem Ungranted.append {past log : Log} {id : AllocatedClientID} (ungranted : Ungranted past log id) {more : Log}
    (nothing : ¬Granted more id) : Ungranted past (log ++ more) id := by
  obtain ⟨early, rfl, before⟩ := ungranted
  refine ⟨early ++ more, List.append_assoc .., ?_⟩
  rintro ⟨service, tlvs, member, grant⟩
  rcases List.mem_append.mp member with early | late
  · exact before ⟨service, tlvs, early, grant⟩
  · exact nothing ⟨service, tlvs, late, grant⟩

/-- One stretch after the other. -/
theorem Ungranted.trans {past log log' : Log} {id : AllocatedClientID} (first : Ungranted past log id)
    (second : Ungranted log log' id) : Ungranted past log' id := by
  obtain ⟨more, rfl, nothing⟩ := second
  exact first.append nothing

/-- One answer grants a client ID. -/
theorem granted_singleton (entry : Request × Answer) (id : AllocatedClientID) : Granted [entry] id ↔
    ∃ service tlvs, (.allocateClientID service, .response tlvs) = entry ∧ granted tlvs = some id := by
  simp only [Granted, List.mem_singleton]

/-! The record. -/

/-- A remembered client ID is recorded, and the others are as before. -/
@[simp] theorem recorded_remember (c : Client) (service : ServiceType) (clientID : UInt8) (id : AllocatedClientID) :
    (c.rememberAllocatedClientID service clientID).Recorded id ↔ id = ⟨service, clientID⟩ ∨ c.Recorded id := by
  simp only [Client.Recorded, Client.rememberAllocatedClientID, GoMap.get_set]
  split
  · next same => simp [same]
  · next other => simp [other]

/-- A forgotten client ID is not recorded, and the others are as before. -/
@[simp] theorem recorded_forget (c : Client) (service : ServiceType) (clientID : UInt8) (id : AllocatedClientID) :
    (c.forgetAllocatedClientID service clientID).Recorded id ↔ id ≠ ⟨service, clientID⟩ ∧ c.Recorded id := by
  simp only [Client.Recorded, Client.forgetAllocatedClientID, GoMap.get_delete]
  split
  · next same => simp [same]
  · next other => simp [other]

/--
After what was said before, what the client keeps of its client IDs agrees with what the modem holds.

The client has forgotten some client IDs before, and knows of them again once they are granted again.
-/
structure Accounted (past : Log) (forgotten : Set AllocatedClientID) (d : World) : Prop where
  overQmux : d.state.transport = .qmux
  said : past <+: d.log
  recorded : ∀ id, d.state.Recorded id → id ∈ Held d.log
  held : d.state.closed = false → ∀ id ∈ Held d.log,
    d.state.Recorded id ∨ id ∈ forgotten ∧ Ungranted past d.log id
  cached : ∀ service clientID, d.state.clientIDs.get service = some clientID → Granted d.log ⟨service, clientID⟩

namespace Accounted

variable {past : Log} {forgotten : Set AllocatedClientID} {d : World}

/-- One more answer, with the record changed as what the modem holds. -/
theorem next (accounted : Accounted past forgotten d) {r : Request} {c : Client}
    (overQmux : c.transport = d.state.transport) (same : c.clientIDs = d.state.clientIDs)
    (recorded : ∀ id, c.Recorded id → id ∈ settle (Held d.log) (r, d.answer))
    (held : c.closed = false → ∀ id ∈ settle (Held d.log) (r, d.answer),
      c.Recorded id ∨ id ∈ forgotten ∧ Ungranted past d.log id ∧ ¬Granted [(r, d.answer)] id) :
    Accounted past forgotten { d.say r with state := c } where
  overQmux := overQmux.trans accounted.overQmux
  said := accounted.said.trans (List.prefix_append _ _)
  recorded id known := by
    rw [Dialogue.say_log, held_concat]
    exact recorded id known
  held isOpen id member := by
    rw [Dialogue.say_log, held_concat] at member
    rcases held isOpen id member with known | ⟨lost, ungranted, nothing⟩
    · exact .inl known
    · exact .inr ⟨lost, ungranted.append nothing⟩
  cached service clientID cached := by
    rw [same] at cached
    exact (accounted.cached service clientID cached).concat _

/-- An answer that grants nothing, and after which the modem holds what it held. -/
theorem say (accounted : Accounted past forgotten d) {r : Request}
    (same : settle (Held d.log) (r, d.answer) = Held d.log) (nothing : ∀ id, ¬Granted [(r, d.answer)] id) :
    Accounted past forgotten (d.say r) := by
  refine accounted.next (r := r) rfl rfl (fun id recorded => ?_) fun isOpen id member => ?_
  · rw [same]
    exact accounted.recorded id recorded
  · rw [same] at member
    rcases accounted.held isOpen id member with recorded | ⟨lost, ungranted⟩
    · exact .inl recorded
    · exact .inr ⟨lost, ungranted, nothing id⟩

/-- A release that the modem has not agreed to changes nothing. -/
theorem say_kept (accounted : Accounted past forgotten d) {service : ServiceType} {clientID : UInt8}
    (kept : ∀ tlvs, d.answer = .response tlvs → ¬Gone tlvs) :
    Accounted past forgotten (d.say (.releaseClientID service clientID)) := by
  refine accounted.say ?_ fun id => by simp [granted_singleton]
  cases answered : d.answer with
  | response tlvs =>
    ext id
    simp [settle, kept tlvs answered]
  | refused | lost _ | services _ | clientID _ => rfl

/-- A client ID that the modem has released is forgotten. -/
theorem say_released (accounted : Accounted past forgotten d) {service : ServiceType} {clientID : UInt8}
    {tlvs : List TLV} (answered : d.answer = .response tlvs) (gone : Gone tlvs) :
    Accounted past forgotten { d.say (.releaseClientID service clientID) with
      state := d.state.forgetAllocatedClientID service clientID } := by
  have settled (id : AllocatedClientID) : id ∈ settle (Held d.log) (.releaseClientID service clientID, d.answer) ↔
      id ∈ Held d.log ∧ id ≠ ⟨service, clientID⟩ := by
    simp [answered, settle, gone]
  refine accounted.next rfl rfl (fun id recorded => ?_) fun isOpen id member => ?_
  · rw [recorded_forget] at recorded
    exact (settled id).mpr ⟨accounted.recorded id recorded.2, recorded.1⟩
  · obtain ⟨before, other⟩ := (settled id).mp member
    rcases accounted.held isOpen id before with recorded | ⟨lost, ungranted⟩
    · exact .inl ((recorded_forget _ _ _ _).mpr ⟨other, recorded⟩)
    · exact .inr ⟨lost, ungranted, by simp [granted_singleton]⟩

/-- An allocation that grants nothing changes nothing. -/
theorem say_ungranted (accounted : Accounted past forgotten d) {service : ServiceType}
    (ungranted : ∀ tlvs, d.answer = .response tlvs → granted tlvs = none) :
    Accounted past forgotten (d.say (.allocateClientID service)) := by
  refine accounted.say ?_ fun id => ?_
  · cases answered : d.answer with
    | response tlvs =>
      ext id
      simp [settle, ungranted tlvs answered]
    | refused | lost _ | services _ | clientID _ => rfl
  · rw [granted_singleton]
    rintro ⟨_, tlvs, same, grant⟩
    rw [ungranted tlvs (Prod.mk.inj same).2.symm] at grant
    cases grant

/-- A client ID that the modem has granted is remembered. -/
theorem say_granted (accounted : Accounted past forgotten d) (service : ServiceType) {allocatedService : ServiceType}
    {clientID : UInt8} {tlvs : List TLV} (answered : d.answer = .response tlvs)
    (grant : granted tlvs = some ⟨allocatedService, clientID⟩) :
    Accounted past forgotten { d.say (.allocateClientID service) with
      state := d.state.rememberAllocatedClientID allocatedService clientID } := by
  have settled (id : AllocatedClientID) : id ∈ settle (Held d.log) (.allocateClientID service, d.answer) ↔
      id = ⟨allocatedService, clientID⟩ ∨ id ∈ Held d.log := by
    simp [answered, settle, grant, eq_comm, or_comm]
  refine accounted.next rfl rfl (fun id recorded => ?_) fun isOpen id member => ?_
  · rcases (recorded_remember _ _ _ _).mp recorded with same | recorded
    · exact (settled id).mpr (.inl same)
    · exact (settled id).mpr (.inr (accounted.recorded id recorded))
  · -- What is granted is recorded, and what is not stays as it was.
    by_cases same : id = ⟨allocatedService, clientID⟩
    · exact .inl ((recorded_remember _ _ _ _).mpr (.inl same))
    · rcases accounted.held isOpen id (((settled id).mp member).resolve_left same) with recorded | ⟨lost, ungranted⟩
      · exact .inl ((recorded_remember _ _ _ _).mpr (.inr recorded))
      · refine .inr ⟨lost, ungranted, ?_⟩
        rw [granted_singleton, answered]
        rintro ⟨_, _, equal, other⟩
        cases equal
        exact same (Option.some.inj (other.symm.trans grant))

/-- A client ID that the modem has granted may be cached. -/
theorem cache (accounted : Accounted past forgotten d) {service : ServiceType} {clientID : UInt8}
    (given : Granted d.log ⟨service, clientID⟩) :
    Accounted past forgotten { d with state := d.state.cache service clientID } where
  overQmux := accounted.overQmux
  said := accounted.said
  recorded := accounted.recorded
  held := accounted.held
  cached other id cached := by
    simp only [Client.cache, GoMap.get_set] at cached
    split at cached
    · next same =>
      cases cached
      rwa [same]
    · exact accounted.cached other id cached

/-- A client ID may be forgotten, and is then one of those that were. -/
theorem forget (accounted : Accounted past forgotten d) (service : ServiceType) (clientID : UInt8)
    (ungranted : Ungranted past d.log ⟨service, clientID⟩) :
    Accounted past (insert ⟨service, clientID⟩ forgotten)
      { d with state := d.state.forgetAllocatedClientID service clientID } where
  overQmux := accounted.overQmux
  said := accounted.said
  recorded id recorded := accounted.recorded id ((recorded_forget _ _ _ _).mp recorded).2
  held isOpen id member := by
    by_cases same : id = ⟨service, clientID⟩
    · exact .inr ⟨.inl same, same ▸ ungranted⟩
    · rcases accounted.held isOpen id member with recorded | ⟨lost, ungranted⟩
      · exact .inl ((recorded_forget _ _ _ _).mpr ⟨same, recorded⟩)
      · exact .inr ⟨.inr lost, ungranted⟩
  cached := accounted.cached

/-- A client ID may leave the cache. -/
theorem uncache (accounted : Accounted past forgotten d) (service : ServiceType) :
    Accounted past forgotten { d with state := { d.state with clientIDs := d.state.clientIDs.delete service } } where
  overQmux := accounted.overQmux
  said := accounted.said
  recorded := accounted.recorded
  held := accounted.held
  cached other id cached := by
    simp only [GoMap.get_delete] at cached
    split at cached
    · cases cached
    · exact accounted.cached other id cached

end Accounted

/-! What each part of a call asks for. -/

/-- A condition is looked at. -/
theorem ensures_holds (condition : Condition) (d : World) :
    (holds condition).Ensures d
      (fun result d' => d' = d.say (.condition condition) ∧ (result = true ↔ d.answer ≠ .refused)) fun _ => False := by
  refine Dialogue.ensures_ask_bind (Call.ensures_pure ⟨rfl, ?_⟩)
  simp

/-- A request gets a response, or fails. -/
theorem ensures_sendRequest (r : Request) (d : World) :
    (sendRequest r).Ensures d (fun tlvs d' => d' = d.say r ∧ d.answer = .response tlvs)
      fun d' => d' = d.say r ∧ ∀ tlvs, d.answer ≠ .response tlvs := by
  refine Dialogue.ensures_ask_bind ?_
  cases answered : d.answer with
  | response tlvs => exact Call.ensures_pure ⟨rfl, rfl⟩
  | refused => exact Call.ensures_throw ⟨rfl, by simp⟩
  | lost tlvs => exact Call.ensures_throw ⟨rfl, by simp⟩
  | services services => exact Call.ensures_throw ⟨rfl, by simp⟩
  | clientID clientID => exact Call.ensures_throw ⟨rfl, by simp⟩

/-- A result is looked at. -/
theorem ensures_resultOK (tlvs : List TLV) (d : World) :
    (resultOK tlvs).Ensures d (fun _ d' => d' = d ∧ resultError tlvs = none)
      fun d' => d' = d ∧ resultError tlvs ≠ none := by
  unfold resultOK
  cases resultError tlvs with
  | none => exact Call.ensures_pure ⟨rfl, rfl⟩
  | some err => exact Call.ensures_throw ⟨rfl, by simp⟩

/-- Some conditions have been looked at. -/
def Looked (d d' : World) : Prop :=
  d'.state = d.state ∧ ∃ more : Log, d'.log = d.log ++ more ∧ ∀ entry ∈ more, ∃ c, entry.1 = .condition c

/-- No condition has been looked at yet. -/
theorem Looked.refl (d : World) : Looked d d := ⟨rfl, [], by simp, by simp⟩

/-- One more condition is looked at. -/
theorem Looked.say {d d' : World} (looked : Looked d d') (condition : Condition) :
    Looked d (d'.say (.condition condition)) := by
  obtain ⟨same, more, log, conditions⟩ := looked
  refine ⟨same, more ++ [(.condition condition, d'.answer)], by simp [log], fun entry member => ?_⟩
  rcases List.mem_append.mp member with early | last
  · exact conditions entry early
  · rw [List.mem_singleton.mp last]
    exact ⟨condition, rfl⟩

/-- Looking at conditions changes nothing. -/
theorem Looked.accounted {past : Log} {d d' : World} (looked : Looked d d') (accounted : Accounted past forgotten d) :
    Accounted past forgotten d' := by
  obtain ⟨same, more, log, conditions⟩ := looked
  -- The record and what the modem holds stay, one condition after the other.
  have held : Held d'.log = Held d.log := by
    rw [log]
    clear log
    induction more using List.reverseRecOn with
    | nil => rw [List.append_nil]
    | append_singleton more entry ih =>
      obtain ⟨c, asked⟩ := conditions entry (by simp)
      rw [← List.append_assoc, held_concat, ih fun entry member => conditions entry (List.mem_append_left _ member)]
      obtain ⟨r, answer⟩ := entry
      cases asked
      rfl
  refine ⟨same ▸ accounted.overQmux, accounted.said.trans (log ▸ List.prefix_append _ _), fun id recorded => ?_,
    fun isOpen id member => ?_, fun service clientID cached => ?_⟩
  · -- The record is as before.
    rw [same] at recorded
    rw [held]
    exact accounted.recorded id recorded
  · -- What is held is recorded or was forgotten, and looking grants nothing.
    rw [held] at member
    rw [same] at isOpen ⊢
    rcases accounted.held isOpen id member with recorded | ⟨lost, ungranted⟩
    · exact .inl recorded
    · exact .inr ⟨lost, log ▸ ungranted.append fun ⟨_, _, asked, _⟩ => nomatch conditions _ asked⟩
  · rw [same] at cached
    obtain ⟨asked, tlvs, member, grant⟩ := accounted.cached service clientID cached
    exact ⟨asked, tlvs, log ▸ List.mem_append_left _ member, grant⟩

/-- The lock is taken, or not. -/
theorem ensures_enter (d : World) :
    enter.Ensures d (fun _ d' => Looked d d' ∧ d.state.closed = false) (Looked d) := by
  unfold enter
  have locked := (Looked.refl d).say .locked
  refine Ensures.bind ((ensures_holds .locked d).mono (fun _ _ => id) fun _ => False.elim) ?_
  rintro taken d₁ ⟨rfl, -⟩
  refine Call.ensures_ite (fun _ => Call.ensures_throw locked) fun _ => ?_
  refine Dialogue.ensures_getState_bind ?_
  refine Call.ensures_ite (fun _ => Call.ensures_throw locked) fun isOpen => ?_
  refine Ensures.bind ((ensures_holds .isOpen _).mono (fun _ _ => id) fun _ => False.elim) ?_
  rintro going d₂ ⟨rfl, -⟩
  refine Call.ensures_ite (fun _ => Call.ensures_throw (locked.say .isOpen)) fun _ => ?_
  exact Call.ensures_pure ⟨locked.say .isOpen, by simpa using isOpen⟩

/-! The calls keep the account. -/

namespace Accounted

variable {past : Log} {forgotten : Set AllocatedClientID} {d : World}

/-- Asking for something that is neither an allocation nor a release. -/
theorem message (accounted : Accounted past forgotten d) (service : ServiceType) (clientID : UInt8) (id : MessageID)
    (tlvs : List TLV) : Accounted past forgotten (d.say (.message service clientID id tlvs)) :=
  accounted.say rfl fun id => by simp [granted_singleton]

/-- Looking at a condition. -/
theorem look (accounted : Accounted past forgotten d) (condition : Condition) :
    Accounted past forgotten (d.say (.condition condition)) :=
  accounted.say rfl fun id => by simp [granted_singleton]

/-- Releasing a client ID. -/
theorem releaseServiceClientIDLocked (accounted : Accounted past forgotten d) (service : ServiceType)
    (clientID : UInt8) : (ClientIds.releaseServiceClientIDLocked service clientID).Ensures d
      (fun _ => Accounted past forgotten) (Accounted past forgotten) := by
  unfold ClientIds.releaseServiceClientIDLocked
  refine Call.ensures_ite (fun _ => Call.ensures_throw accounted) fun _ => ?_
  refine Ensures.bind ((ensures_sendRequest (.releaseClientID service clientID) d).mono (fun _ _ => id) ?_) ?_
  · rintro d' ⟨rfl, failed⟩
    exact accounted.say_kept fun tlvs answered => (failed tlvs answered).elim
  · rintro tlvs d' ⟨rfl, answered⟩
    cases result : resultError tlvs with
    | none => exact accounted.say_released answered (.inl result)
    | some err =>
      refine Call.ensures_ite (fun unknown => ?_) fun other => ?_
      · exact accounted.say_released answered (.inr (unknown ▸ result))
      · refine Call.ensures_throw (accounted.say_kept fun tlvs' same => ?_)
        cases answered.symm.trans same
        rintro (fine | unknown)
        · exact Option.some_ne_none _ (result.symm.trans fine)
        · exact other (Option.some.inj (result.symm.trans unknown))

/-- Allocating a client ID. -/
theorem allocateServiceClientIDLocked (accounted : Accounted past forgotten d) (service : ServiceType) :
    (ClientIds.allocateServiceClientIDLocked service).Ensures d
      (fun clientID d' => Accounted past forgotten d' ∧ Granted d'.log ⟨service, clientID⟩)
      (Accounted past forgotten) := by
  unfold ClientIds.allocateServiceClientIDLocked
  refine Call.ensures_ite (fun _ => Call.ensures_throw accounted) fun _ => ?_
  refine Ensures.bind ((ensures_holds .live d).mono (fun _ _ => id) fun _ => False.elim) ?_
  rintro live d₁ ⟨rfl, -⟩
  replace accounted := accounted.look .live
  generalize d.say (.condition .live) = d at accounted ⊢
  refine Call.ensures_ite (fun _ => Call.ensures_throw accounted) fun _ => ?_
  refine Ensures.bind ((ensures_sendRequest (.allocateClientID service) d).mono (fun _ _ => id) ?_) ?_
  · -- Without an answer nothing is granted.
    rintro d' ⟨rfl, failed⟩
    exact accounted.say_ungranted fun tlvs answered => (failed tlvs answered).elim
  · rintro tlvs d' ⟨rfl, answered⟩
    -- Unless the response names a client ID, nothing is granted.
    have nothing (none : granted tlvs = none) : Accounted past forgotten (d.say (.allocateClientID service)) := by
      refine accounted.say_ungranted fun tlvs' same => ?_
      cases answered.symm.trans same
      exact none
    refine Ensures.bind ((ensures_resultOK tlvs _).mono (fun _ _ => id) ?_) ?_
    · rintro d' ⟨rfl, failed⟩
      exact nothing (if_neg failed)
    · rintro ⟨⟩ d' ⟨rfl, fine⟩
      cases found : TLVs.value tlvs 0x01 with
      | none => exact Call.ensures_throw (nothing (by simp [granted, fine, found]))
      | some value =>
        rcases value with _ | ⟨byte, _ | ⟨clientID, _ | ⟨more, rest⟩⟩⟩
        · exact Call.ensures_throw (nothing (by simp [granted, fine, found]))
        · exact Call.ensures_throw (nothing (by simp [granted, fine, found]))
        · refine Call.ensures_ite (fun zero => Call.ensures_throw (nothing (by simp [granted, fine, found, zero])))
            fun nonzero => ?_
          -- The response grants the client ID.
          have grant : granted tlvs = some ⟨byte.toUInt32, clientID⟩ := by simp [granted, fine, found, nonzero]
          have remembered := accounted.say_granted service answered grant
          refine Call.ensures_ite (fun mismatch => ?_) fun same => ?_
          · -- A client ID of another service is recorded and given back at once.
            refine Dialogue.ensures_setState_bind ?_
            exact (remembered.releaseServiceClientIDLocked _ _).attempt_bind
              (fun _ _ after => Call.ensures_throw after) fun _ _ after => Call.ensures_throw after
          · -- The client ID is recorded before the call looks at its context again.
            refine Dialogue.ensures_setState_bind ?_
            rw [not_not.mp same] at grant remembered
            refine Ensures.bind ((ensures_holds .isOpen _).mono (fun _ _ => id) fun _ => False.elim) ?_
            rintro going d₄ ⟨rfl, -⟩
            refine Call.ensures_ite (fun _ => Call.ensures_throw (remembered.look .isOpen)) fun _ => ?_
            refine Call.ensures_pure ⟨remembered.look .isOpen, service, tlvs, ?_, grant⟩
            simp [answered]
        · exact Call.ensures_throw (nothing (by simp [granted, fine, found]))

/-- Getting the client ID of a service that calls share. -/
theorem serviceClientIDLocked (accounted : Accounted past forgotten d) (service : ServiceType) :
    (ClientIds.serviceClientIDLocked service).Ensures d (fun _ => Accounted past forgotten)
      (Accounted past forgotten) := by
  refine Dialogue.ensures_getState_bind ?_
  rw [accounted.overQmux]
  -- A cached client ID is used again, and a new one is cached.
  refine Call.ensures_ite (fun cached => Call.ensures_pure accounted) fun _ => ?_
  refine Ensures.bind (accounted.allocateServiceClientIDLocked service) ?_
  rintro clientID d₁ ⟨allocated, given⟩
  refine Dialogue.ensures_setState_bind ?_
  refine Ensures.bind ((ensures_holds .live _).mono (fun _ _ => id) fun _ => False.elim) ?_
  rintro live d₂ ⟨rfl, -⟩
  have cached := (allocated.cache given).look .live
  exact Call.ensures_ite (fun _ => Call.ensures_throw cached) fun _ => Call.ensures_pure cached

/-- A call that takes the lock first. -/
theorem entered {α : Type} {call : ClientCall α} (accounted : Accounted past forgotten d)
    (inner : ∀ d', Accounted past forgotten d' →
      call.Ensures d' (fun _ => Accounted past forgotten) (Accounted past forgotten)) :
    (do enter; call : ClientCall α).Ensures d (fun _ => Accounted past forgotten) (Accounted past forgotten) := by
  refine Ensures.bind ((ensures_enter d).mono (fun _ _ => id) fun d' looked => looked.accounted accounted) ?_
  rintro ⟨⟩ d' ⟨looked, -⟩
  exact inner d' (looked.accounted accounted)

/-- Forgetting a client ID, unless the lock is not taken or the transport gives out the client IDs. -/
theorem forgetServiceClientID (accounted : Accounted d.log forgotten d) (service : ServiceType) (clientID : UInt8) :
    (ClientIds.forgetServiceClientID service clientID).Ensures d
      (fun done => Accounted d.log (if done then insert ⟨service, clientID⟩ forgotten else forgotten))
      fun _ => False := by
  refine Ensures.bind (ensures_holds .locked d) ?_
  rintro taken d₁ ⟨rfl, -⟩
  -- The client ID is not granted between the look at the lock and the end.
  have ungranted : Ungranted d.log (d.say (.condition .locked)).log ⟨service, clientID⟩ :=
    (Ungranted.refl _ _).append (by simp [granted_singleton])
  replace accounted := accounted.look .locked
  generalize d.say (.condition .locked) = d' at accounted ungranted ⊢
  refine Call.ensures_ite (fun _ => Call.ensures_pure accounted) fun _ => ?_
  refine Dialogue.ensures_getState_bind ?_
  refine Call.ensures_ite (fun _ => Call.ensures_pure accounted) fun _ => ?_
  refine Call.ensures_ite (fun _ => ?_) fun _ => ?_
  · refine Dialogue.ensures_setState_bind (Dialogue.ensures_setState_bind ?_)
    exact Call.ensures_pure ((accounted.uncache service).forget service clientID ungranted)
  · refine Dialogue.ensures_setState_bind ?_
    exact Call.ensures_pure (accounted.forget service clientID ungranted)

/-- A field that no account is of may change. -/
theorem setCATService (accounted : Accounted past forgotten d) (service : Option Cat.CATService) :
    Accounted past forgotten { d with state := { d.state with catService := service } } :=
  ⟨accounted.overQmux, accounted.said, accounted.recorded, accounted.held, accounted.cached⟩

/-- Looking for the version of the toolkit service. -/
theorem catServiceType (accounted : Accounted past forgotten d) :
    ClientIds.catServiceType.Ensures d (fun _ => Accounted past forgotten) (Accounted past forgotten) := by
  refine Dialogue.ensures_getState_bind ?_
  rw [accounted.overQmux]
  have listed : serviceVersionsLocked.Ensures d (fun _ => Accounted past forgotten) (Accounted past forgotten) := by
    have asked : Accounted past forgotten (d.say .versionInfo) :=
      accounted.say rfl fun id => by simp [granted_singleton]
    refine Dialogue.ensures_ask_bind ?_
    cases d.answer with
    | services services => exact Call.ensures_pure asked
    | refused | lost tlvs | response tlvs | clientID clientID => exact Call.ensures_throw asked
  -- Of the services of the modem, the newer one is taken.
  refine Ensures.bind listed fun services d' accounted => ?_
  refine Call.ensures_ite (fun _ => Call.ensures_pure accounted) fun _ => ?_
  exact Call.ensures_ite (fun _ => Call.ensures_pure accounted) fun _ => Call.ensures_throw accounted

/-- Getting the client ID of the toolkit. -/
theorem catClient (accounted : Accounted past forgotten d) :
    ClientIds.catClient.Ensures d (fun _ => Accounted past forgotten) (Accounted past forgotten) := by
  refine accounted.entered fun d' inner => ?_
  -- Once the service is known, its client ID is that of any service.
  have known (service : Cat.CATService) (d' : World) (inner : Accounted past forgotten d') :
      (do return (service, ← ClientIds.serviceClientIDLocked service.type) :
        ClientCall (Cat.CATService × UInt8)).Ensures d' (fun _ => Accounted past forgotten)
          (Accounted past forgotten) :=
    Ensures.bind (inner.serviceClientIDLocked _) fun _ _ after => Call.ensures_pure after
  refine Dialogue.ensures_getState_bind ?_
  rw [inner.overQmux]
  cases d'.state.catService with
  | some service => exact known service d' inner
  | none =>
    -- The service is looked for, and kept.
    refine Ensures.bind inner.catServiceType fun service d'' after => ?_
    exact Dialogue.ensures_setState_bind (known service _ (after.setCATService _))

/-- Releasing the client ID of the toolkit. -/
theorem releaseCATClient (accounted : Accounted past forgotten d) (service : Cat.CATService) (clientID : UInt8) :
    (ClientIds.releaseCATClient service clientID).Ensures d (fun _ => Accounted past forgotten)
      (Accounted past forgotten) := by
  refine Ensures.bind ((ensures_holds .locked d).mono (fun _ _ => id) fun _ => False.elim) ?_
  rintro taken d₁ ⟨rfl, -⟩
  replace accounted := accounted.look .locked
  refine Call.ensures_ite (fun _ => Call.ensures_throw accounted) fun _ => ?_
  refine Dialogue.ensures_getState_bind ?_
  refine Call.ensures_ite (fun _ => Call.ensures_pure accounted) fun _ => ?_
  refine Ensures.bind ((ensures_holds .isOpen _).mono (fun _ _ => id) fun _ => False.elim) ?_
  rintro going d₂ ⟨rfl, -⟩
  replace accounted := accounted.look .isOpen
  refine Call.ensures_ite (fun _ => Call.ensures_pure accounted) fun _ => ?_
  refine Call.ensures_ite (fun _ => Call.ensures_pure accounted) fun _ => ?_
  refine Call.ensures_ite (fun _ => ?_) fun _ => ?_
  · -- The modem releases the client ID before it leaves the cache.
    refine Ensures.bind (accounted.releaseServiceClientIDLocked _ _) fun _ d' after => ?_
    exact after.uncache _
  · exact accounted.uncache _

end Accounted

/-! Closing. -/

/-- What the modem holds, it has granted. -/
theorem Granted.of_held {log : Log} {id : AllocatedClientID} (held : id ∈ Held log) : Granted log id := by
  -- The induction is from the back, as the modem is asked.
  induction log using List.reverseRecOn with
  | nil => cases held
  | append_singleton log entry ih =>
    rw [held_concat] at held
    -- Only an allocation that grants the client ID adds it.
    obtain ⟨r, answer⟩ := entry
    cases r with
    | allocateClientID asked =>
      cases answer with
      | response tlvs =>
        rcases held with before | grant
        · exact (ih before).concat _
        · exact ⟨asked, tlvs, by simp, grant⟩
      | refused | lost _ | services _ | clientID _ => exact (ih held).concat _
    -- A release only takes away.
    | releaseClientID service clientID =>
      cases answer with
      | response tlvs => exact (ih held.1).concat _
      | refused | lost _ | services _ | clientID _ => exact (ih held).concat _
    | condition _ | versionInfo | clientID _ | message _ _ _ _ | closeTransport => exact (ih held).concat _

/-- The service of a client ID that is granted fits the eight bits of QMUX. -/
theorem Granted.short {log : Log} {id : AllocatedClientID} (given : Granted log id) : ¬id.service > 0xff := by
  obtain ⟨_, tlvs, -, grant⟩ := given
  unfold granted at grant
  split at grant
  · split at grant
    · split at grant
      · cases grant
      · next byte _ _ _ =>
        cases grant
        have bound := byte.toNat_lt
        rw [gt_iff_lt, UInt32.lt_iff_toNat_lt, UInt8.toNat_toUInt32]
        simp only [UInt32.reduceToNat]
        omega
    · cases grant
  · cases grant

/-- The client ID that a request is to release. -/
def Request.released : Request → Option AllocatedClientID
  | .releaseClientID service id => some ⟨service, id⟩
  | _ => none

/-- The client IDs that were to be released, in this order. -/
def releases (log : Log) : List AllocatedClientID := log.filterMap fun entry => entry.1.released

/-- The client IDs that were to be released, earlier and later. -/
@[simp] theorem releases_append (early late : Log) : releases (early ++ late) = releases early ++ releases late :=
  List.filterMap_append

/-- The releases were stopped: the transport has failed for good, or the time was up. -/
def Stopped (log : Log) : Prop :=
  (∃ answer, answer ≠ .refused ∧ (.condition .terminal, answer) ∈ log) ∨ (.condition .live, .refused) ∈ log

/-- One client ID is released for closing. -/
theorem ensures_releaseForClose {one : AllocatedClientID} (short : ¬one.service > 0xff) (d : World) :
    (releaseServiceClientIDForCloseLocked one).Ensures d
      (fun _ d' => d' = d.say (.releaseClientID one.service one.clientID))
      fun d' => d' = d.say (.releaseClientID one.service one.clientID) := by
  unfold releaseServiceClientIDForCloseLocked
  refine Call.ensures_ite (fun long => (short long).elim) fun _ => ?_
  refine Ensures.bind ((ensures_sendRequest _ d).mono (fun _ _ => id) fun _ => And.left) ?_
  rintro tlvs d' ⟨rfl, -⟩
  cases resultError tlvs with
  | none => exact Call.ensures_pure rfl
  | some err => exact Call.ensures_ite (fun _ => Call.ensures_pure rfl) fun _ => Call.ensures_throw rfl

/-- Between two dialogues some of the client IDs were released in order, and all of them unless it was stopped. -/
def Releases (ids : List AllocatedClientID) (d d' : World) : Prop :=
  d'.state = d.state ∧ ∃ more, d'.log = d.log ++ more ∧ releases more <+: ids ∧ (releases more = ids ∨ Stopped more)

/-- Nothing is released when it is stopped at once. -/
theorem Releases.stop {ids : List AllocatedClientID} {d d' : World} {more : Log} (same : d'.state = d.state)
    (log : d'.log = d.log ++ more) (none : releases more = []) (stopped : Stopped more) : Releases ids d d' :=
  ⟨same, more, log, by simp [none], .inr stopped⟩

/-- One client ID is released before the others. -/
theorem Releases.cons {one : AllocatedClientID} {ids : List AllocatedClientID} {d d₁ d' : World} {more : Log}
    (same : d₁.state = d.state) (log : d₁.log = d.log ++ more) (first : releases more = [one])
    (rest : Releases ids d₁ d') : Releases (one :: ids) d d' := by
  obtain ⟨same', later, log', front, all⟩ := rest
  have joined : releases (more ++ later) = one :: releases later := by
    rw [releases_append, first]
    rfl
  refine ⟨same'.trans same, more ++ later, by rw [log', log, List.append_assoc], ?_, ?_⟩
  · rw [joined]
    exact List.cons_prefix_cons.mpr ⟨rfl, front⟩
  · rw [joined]
    rcases all with all | ⟨answer, failed, member⟩ | late
    · exact .inl (by rw [all])
    · exact .inr (.inl ⟨answer, failed, List.mem_append_right _ member⟩)
    · exact .inr (.inr (List.mem_append_right _ late))

/-- Before each release and after one that failed, it is looked whether to stop. -/
theorem ensures_checked {stop late : List ClientError} {next : ClientCall (List ClientError)} {d : World}
    {P : World → Prop}
    (stopped : ∀ d' more, d'.state = d.state → d'.log = d.log ++ more → releases more = [] → Stopped more → P d')
    (going : ∀ d' more, d'.state = d.state → d'.log = d.log ++ more → releases more = [] →
      next.Ensures d' (fun _ => P) fun _ => False) :
    (do
      if ← holds .terminal then return stop
      if !(← holds .live) then return late
      next : ClientCall (List ClientError)).Ensures d (fun _ => P) fun _ => False := by
  refine Ensures.bind (ensures_holds .terminal d) ?_
  rintro failed d₁ ⟨rfl, failure⟩
  refine Call.ensures_ite (fun yes => Call.ensures_pure ?_) fun _ => ?_
  · exact stopped _ [(.condition .terminal, d.answer)] rfl rfl (by simp [releases, Request.released])
      (.inl ⟨_, failure.mp yes, by simp⟩)
  refine Ensures.bind (ensures_holds .live _) ?_
  rintro live d₂ ⟨rfl, alive⟩
  refine Call.ensures_ite (fun no => Call.ensures_pure ?_) fun _ => ?_
  · have refused : (d.say (.condition .terminal)).answer = .refused := by
      simp only [Bool.not_eq_true'] at no
      exact not_not.mp fun other => Bool.false_ne_true (no.symm.trans (alive.mpr other))
    exact stopped _ [(.condition .terminal, d.answer), (.condition .live, .refused)] rfl (by simp [refused])
      (by simp [releases, Request.released]) (.inr (by simp))
  · exact going _ [(.condition .terminal, d.answer), (.condition .live, (d.say (.condition .terminal)).answer)] rfl
      (by simp) (by simp [releases, Request.released])

/-- The loop over the client IDs. -/
theorem ensures_releaseEach (ids : List AllocatedClientID) (short : ∀ id ∈ ids, ¬id.service > 0xff) (d : World) :
    (releaseEach ids).Ensures d (fun _ => Releases ids d) fun _ => False := by
  -- The induction is on the client IDs still to be released.
  induction ids generalizing d with
  | nil => exact Call.ensures_pure ⟨rfl, [], by simp, by simp [releases], .inl rfl⟩
  | cons one rest ih =>
    have others : ∀ id ∈ rest, ¬id.service > 0xff := fun id member => short id (List.mem_cons_of_mem _ member)
    unfold releaseEach
    -- The context is looked at before each release.
    refine ensures_checked (fun d' more same log none stopped => .stop same log none stopped) ?_
    intro d₁ looked same log none
    -- Now the release is sent, whatever comes of it.
    have said : (d₁.say (.releaseClientID one.service one.clientID)).state = d.state := same
    obtain ⟨more, log', first⟩ : ∃ more, (d₁.say (.releaseClientID one.service one.clientID)).log = d.log ++ more ∧
        releases more = [one] := by
      refine ⟨looked ++ [(.releaseClientID one.service one.clientID, d₁.answer)], by simp [log], ?_⟩
      rw [releases_append, none]
      simp [releases, Request.released]
    refine (ensures_releaseForClose (short one List.mem_cons_self) d₁).attempt_bind ?_ ?_
    · -- The release succeeds, and the loop goes on.
      rintro ⟨⟩ d₂ rfl
      exact (ih others _).mono (fun _ d' rest => .cons said log' first rest) fun _ => False.elim
    · -- The release fails, and the loop goes on unless the context has ended.
      rintro err d₂ rfl
      refine ensures_checked (fun d' more same log none stopped => ?_) fun d' looked same log none => ?_
      · exact .cons said log' first (.stop same log none stopped)
      · refine Ensures.bind (ih others _) ?_
        intro errs d'' rest
        have joined : d'.log = d.log ++ (more ++ looked) := by rw [log, log', List.append_assoc]
        have single : releases (more ++ looked) = [one] := by
          rw [releases_append, first, none]
          rfl
        exact Call.ensures_pure (.cons (same.trans said) joined single rest)

/-- The client IDs of one list and the cached ones of another. -/
theorem get_foldl_set (entries : List (ServiceType × UInt8)) (allocated : GoMap AllocatedClientID Unit)
    (id : AllocatedClientID) :
    (entries.foldl (fun allocated entry => allocated.set ⟨entry.1, entry.2⟩ ()) allocated).get id = some () ↔
      allocated.get id = some () ∨ (id.service, id.clientID) ∈ entries := by
  induction entries generalizing allocated with
  | nil => simp
  | cons entry rest ih =>
    rw [List.foldl_cons, ih, GoMap.get_set, List.mem_cons, ← or_assoc]
    refine or_congr_left ?_
    obtain ⟨service, clientID⟩ := entry
    obtain ⟨service', clientID'⟩ := id
    split
    · next same => simp_all
    · next other =>
      simp only [AllocatedClientID.mk.injEq] at other
      simp [other]

/-- The client IDs that are gone through are those recorded and those cached. -/
theorem mem_releasable (c : Client) (id : AllocatedClientID) :
    id ∈ c.releasable ↔ c.Recorded id ∨ c.clientIDs.get id.service = some id.clientID := by
  have known (m : GoMap AllocatedClientID Unit) : id ∈ m.keys ↔ m.get id = some () := by
    rw [GoMap.mem_keys_iff]
    exact ⟨fun ⟨⟨⟩, found⟩ => found, fun found => ⟨(), found⟩⟩
  rw [Client.releasable, List.mem_mergeSort, known, get_foldl_set, GoMap.mem_entries_iff]
  rfl

/-- The order of the releases, by service and then by client ID. -/
def Ascending (a b : AllocatedClientID) : Prop :=
  a.service < b.service ∨ a.service = b.service ∧ a.clientID < b.clientID

/-- No client ID comes before itself. -/
theorem Ascending.ne {a b : AllocatedClientID} (before : Ascending a b) : a ≠ b := by
  rintro rfl
  rcases before with service | ⟨-, clientID⟩
  · exact UInt32.lt_irrefl _ service
  · exact UInt8.lt_irrefl _ clientID

/-- The comparison of the sort, as one of numbers. -/
theorem releasedBefore_iff (a b : AllocatedClientID) :
    releasedBefore a b = true ↔ a.service.toNat < b.service.toNat ∨
      a.service.toNat = b.service.toNat ∧ a.clientID.toNat ≤ b.clientID.toNat := by
  unfold releasedBefore
  by_cases same : a.service = b.service
  · simp [same]
  · have other : a.service.toNat ≠ b.service.toNat := fun equal => same (UInt32.toNat_inj.mp equal)
    simp only [ne_eq, same, not_false_eq_true, ↓reduceIte, decide_eq_true_eq]
    omega

/-- The client IDs are gone through in ascending order, each once. -/
theorem releasable_ascending (c : Client) : c.releasable.Pairwise Ascending := by
  unfold Client.releasable
  generalize c.clientIDs.entries.foldl _ c.allocatedClientIDs = allocated
  -- Sorting orders by service, and by client ID within a service.
  have ordered : (allocated.keys.mergeSort releasedBefore).Pairwise fun a b => releasedBefore a b = true := by
    refine List.pairwise_mergeSort (fun a b c first second => ?_) (fun a b => ?_) _
    · rw [releasedBefore_iff] at first second ⊢
      omega
    · rw [Bool.or_eq_true, releasedBefore_iff, releasedBefore_iff]
      omega
  -- The record has each client ID once, so no two are equal.
  have distinct : (allocated.keys.mergeSort releasedBefore).Nodup :=
    (List.mergeSort_perm _ _).nodup_iff.mpr allocated.keys_nodup
  refine (ordered.and distinct).imp fun {a b} both => ?_
  obtain ⟨before, other⟩ := both
  rw [releasedBefore_iff] at before
  rcases before with service | ⟨service, clientID⟩
  · exact .inl (UInt32.lt_iff_toNat_lt.mpr service)
  · have same : a.service = b.service := UInt32.toNat_inj.mp service
    refine .inr ⟨same, UInt8.lt_iff_toNat_lt.mpr (Nat.lt_of_le_of_ne clientID fun equal => other ?_)⟩
    obtain ⟨service', clientID'⟩ := a
    cases same
    cases UInt8.toNat_inj.mp equal
    rfl

/-- The client IDs are all released, unless the transport gives them out or it is stopped. -/
theorem ensures_releaseClientIDs (d : World) (short : ∀ id ∈ d.state.releasable, ¬id.service > 0xff) :
    releaseClientIDs.Ensures d (fun _ d' => Releases d.state.releasable d d' ∨
      d.state.transportManagesClientIDs = true ∧ d' = d) fun _ => False := by
  refine Dialogue.ensures_getState_bind ?_
  refine Call.ensures_ite (fun managed => Call.ensures_pure (.inr ⟨managed, rfl⟩)) fun _ => ?_
  refine Ensures.bind (ensures_holds .terminal d) ?_
  rintro failed d₁ ⟨rfl, failure⟩
  refine Call.ensures_ite (fun yes => Call.ensures_pure (.inl ?_)) fun _ => ?_
  · exact .stop rfl rfl (by simp [releases, Request.released]) (.inl ⟨_, failure.mp yes, by simp⟩)
  · refine (ensures_releaseEach d.state.releasable short _).mono (fun _ d' rest => .inl ?_) fun _ => False.elim
    obtain ⟨same, more, log, front, all⟩ := rest
    refine ⟨same, (.condition .terminal, d.answer) :: more, by simp [log], ?_, ?_⟩
    · simpa [releases, Request.released] using front
    · rcases all with all | ⟨answer, failed, member⟩ | late
      · exact .inl (by simpa [releases, Request.released] using all)
      · exact .inr (.inl ⟨answer, failed, List.mem_cons_of_mem _ member⟩)
      · exact .inr (.inr (List.mem_cons_of_mem _ late))

/-- What is left of a client that was closed. -/
def Client.afterClose (c : Client) : Client :=
  { c with closed := true, clientIDs := ∅, allocatedClientIDs := ∅, catService := none }

/-- The requests of a close: some of the client IDs in order, and all of them unless the transport gives them out or it
is stopped. -/
def Closing (c : Client) (more : Log) : Prop :=
  releases more <+: c.releasable ∧
    (releases more = c.releasable ∨ Stopped more ∨ c.transportManagesClientIDs = true)

/-- Closing a client releases its client IDs, and closing it again does nothing. -/
theorem ensures_close (d : World) (short : ∀ id ∈ d.state.releasable, ¬id.service > 0xff) :
    close.Ensures d (fun _ d' => d.state.closed = true ∧ d' = d ∨
        d.state.closed = false ∧ d'.state = d.state.afterClose ∧
          ∃ more, d'.log = d.log ++ more ∧ Closing d.state more)
      fun _ => False := by
  refine Dialogue.ensures_getState_bind ?_
  refine Call.ensures_ite (fun again => Call.ensures_pure (.inl ⟨again, rfl⟩)) fun isOpen => ?_
  rw [Bool.not_eq_true] at isOpen
  refine Ensures.bind (ensures_releaseClientIDs d short) ?_
  rintro errs d₁ (⟨same, more, log, front, all⟩ | ⟨managed, rfl⟩)
  · refine Dialogue.ensures_ask_bind ?_
    refine .inr ⟨isOpen, congrArg Client.afterClose same, more ++ [(.closeTransport, d₁.answer)], by simp [log], ?_, ?_⟩
    · simpa [releases, Request.released] using front
    · rcases all with all | ⟨answer, failed, member⟩ | late
      · exact .inl (by simpa [releases, Request.released] using all)
      · exact .inr (.inl (.inl ⟨answer, failed, List.mem_append_left _ member⟩))
      · exact .inr (.inl (.inr (List.mem_append_left _ late)))
  · refine Dialogue.ensures_ask_bind ?_
    refine .inr ⟨isOpen, rfl, [(.closeTransport, d₁.answer)], rfl, ?_, .inr (.inr managed)⟩
    simp [releases, Request.released]

namespace Accounted

variable {past : Log} {forgotten : Set AllocatedClientID} {d : World}

/-- The client IDs to be released were all granted. -/
theorem short (accounted : Accounted past forgotten d) : ∀ id ∈ d.state.releasable, ¬id.service > 0xff := by
  intro id member
  rcases (mem_releasable d.state id).mp member with recorded | cached
  · exact (Granted.of_held (accounted.recorded id recorded)).short
  · exact (accounted.cached id.service id.clientID cached).short

/-- Closing the client. -/
theorem close (accounted : Accounted past forgotten d) :
    ClientIds.close.Ensures d (fun _ => Accounted past forgotten) fun _ => False := by
  refine (ensures_close d accounted.short).mono ?_ fun _ => False.elim
  rintro ⟨⟩ d' (⟨-, rfl⟩ | ⟨-, after, more, log, -⟩)
  · exact accounted
  · refine ⟨after ▸ accounted.overQmux, accounted.said.trans (log ▸ List.prefix_append _ _), ?_, ?_, ?_⟩
    · simp [after, Client.afterClose, Client.Recorded]
    · simp [after, Client.afterClose]
    · simp [after, Client.afterClose]

end Accounted

/-! Calls in any order. -/

/-- One more call. -/
theorem System.run_concat (s : System) (ops : List Op) (op : Op) : s.run (ops ++ [op]) = (s.run ops).perform op := by
  simp [System.run]

/-- A call that had been told that a client ID is invalid has forgotten it, and the modem has not granted it since. -/
def Forgotten (s : System) (ops : List Op) (id : AllocatedClientID) : Prop :=
  ∃ before turn after, ops = before ++ .forget turn :: after ∧ (s.run before).invalid[turn]? = some id ∧
    Invalid (s.run before).world.log id ∧
    (forgetServiceClientID id.service id.clientID).outcome (s.run before).world = .ok true ∧
    Ungranted (s.run before).world.log (s.run ops).world.log id

/-- What was forgotten stays so until it is granted again. -/
theorem Forgotten.concat {s : System} {ops : List Op} {id : AllocatedClientID} (forgotten : Forgotten s ops id)
    (op : Op) (ungranted : Ungranted (s.run ops).world.log (s.run (ops ++ [op])).world.log id) :
    Forgotten s (ops ++ [op]) id := by
  obtain ⟨before, turn, after, rfl, noted, invalid, done, since⟩ := forgotten
  exact ⟨before, turn, after ++ [op], by simp, noted, invalid, done, since.trans ungranted⟩

/-- After these calls, the account is right, and what is to be forgotten was called invalid. -/
structure System.Fine (s : System) (ops : List Op) : Prop where
  accounted : Accounted (s.run ops).world.log {id | Forgotten s ops id} (s.run ops).world
  invalid : ∀ id ∈ (s.run ops).invalid, Invalid (s.run ops).world.log id

/-- What was called invalid before stays so. -/
theorem Invalid.mono {log log' : Log} {id : AllocatedClientID} (invalid : Invalid log id) (more : log <+: log') :
    Invalid log' id := by
  obtain ⟨message, tlvs, answer, member, result⟩ := invalid
  exact ⟨message, tlvs, answer, more.subset member, result⟩

namespace System.Fine

variable {s : System} {ops : List Op} {op : Op}

/-- A call after which the account is right keeps the system fine. -/
theorem concat (fine : s.Fine ops) {forgotten : Set AllocatedClientID}
    (after : Accounted (s.run ops).world.log forgotten (s.run (ops ++ [op])).world)
    (known : ∀ id ∈ forgotten, Ungranted (s.run ops).world.log (s.run (ops ++ [op])).world.log id →
      Forgotten s (ops ++ [op]) id)
    (told : ∀ id ∈ (s.run (ops ++ [op])).invalid,
      id ∈ (s.run ops).invalid ∨ Invalid (s.run (ops ++ [op])).world.log id) : s.Fine (ops ++ [op]) where
  accounted := by
    refine ⟨after.overQmux, List.prefix_rfl, after.recorded, fun isOpen id member => ?_, after.cached⟩
    rcases after.held isOpen id member with recorded | ⟨lost, ungranted⟩
    · exact .inl recorded
    · exact .inr ⟨known id lost ungranted, .refl _ _⟩
  invalid id member := by
    rcases told id member with early | now
    · exact (fine.invalid id early).mono after.said
    · exact now

/-- A call that keeps the account, and tells no other call that a client ID is invalid. -/
theorem call {α : Type} {call : ClientCall α} (fine : s.Fine ops)
    (kept : call.Ensures (s.run ops).world
      (fun _ => Accounted (s.run ops).world.log {id | Forgotten s ops id})
      (Accounted (s.run ops).world.log {id | Forgotten s ops id}))
    (same : (s.run ops).perform op = { s.run ops with world := call.after (s.run ops).world }) :
    s.Fine (ops ++ [op]) := by
  have ran : s.run (ops ++ [op]) = { s.run ops with world := call.after (s.run ops).world } :=
    (s.run_concat ops op).trans same
  have after : Accounted (s.run ops).world.log {id | Forgotten s ops id} (s.run (ops ++ [op])).world := by
    rw [ran]
    exact kept.after
  refine fine.concat after (fun id lost => Forgotten.concat lost op) fun id member => .inl ?_
  rw [ran] at member
  exact member

/-- A request on a client ID. -/
theorem request (fine : s.Fine ops) (service : ServiceType) (clientID : UInt8) (message : MessageID) (tlvs : List TLV) :
    s.Fine (ops ++ [.request service clientID message tlvs]) := by
  have asked : (resultError <$> requestService service clientID message tlvs : ClientCall _).Ensures (s.run ops).world
      (fun result d' => Accounted (s.run ops).world.log {id | Forgotten s ops id} d' ∧
        (result = some (.qmi qmiErrorInvalidClientID) → Invalid d'.log ⟨service, clientID⟩))
      (Accounted (s.run ops).world.log {id | Forgotten s ops id}) := by
    -- Entering the client may fail, and then nothing is sent.
    refine Ensures.map ?_
    refine Ensures.bind ((ensures_enter _).mono (fun _ _ => id) fun d' looked => looked.accounted fine.accounted) ?_
    rintro ⟨⟩ d ⟨looked, -⟩
    have accounted := looked.accounted fine.accounted
    refine (ensures_sendRequest (.message service clientID message tlvs) d).mono ?_ ?_
    · rintro response d' ⟨rfl, answered⟩
      exact ⟨accounted.message .., fun invalid => ⟨message, tlvs, response, by simp [answered], invalid⟩⟩
    · rintro d' ⟨rfl, -⟩
      exact accounted.message ..
  have after := (asked.mono (fun _ _ => And.left) fun _ => id).after
  have ran : Accounted (s.run ops).world.log {id | Forgotten s ops id}
      (s.run (ops ++ [.request service clientID message tlvs])).world := by
    rw [s.run_concat]
    exact after
  refine fine.concat ran (fun id lost => Forgotten.concat lost _) fun other member => ?_
  -- A client ID is noted as invalid where the modem has answered so.
  rw [s.run_concat] at member ⊢
  simp only [System.perform] at member ⊢
  split at member
  · next result outcome =>
    split at member
    · next invalid =>
      rcases List.mem_append.mp member with early | last
      · exact .inl early
      · rw [List.mem_singleton.mp last]
        exact .inr ((asked.of_outcome outcome).2 invalid)
    · exact .inl member
  · exact .inl member

/-- A call that was told that its client ID is invalid forgets it, or finds that it may not. -/
theorem forget (fine : s.Fine ops) (turn : Nat) : s.Fine (ops ++ [.forget turn]) := by
  cases found : (s.run ops).invalid[turn]? with
  | none =>
    -- No call is about to forget a client ID at this turn.
    have ran : s.run (ops ++ [.forget turn]) = s.run ops := by
      rw [s.run_concat]
      simp only [System.perform, found]
    have after : Accounted (s.run ops).world.log {id | Forgotten s ops id} (s.run (ops ++ [.forget turn])).world := by
      rw [ran]
      exact fine.accounted
    exact fine.concat after (fun id lost => Forgotten.concat lost _) fun id member => .inl (ran ▸ member)
  | some id =>
    have ran : s.run (ops ++ [.forget turn]) =
        { world := (forgetServiceClientID id.service id.clientID).after (s.run ops).world
          invalid := (s.run ops).invalid.eraseIdx turn } := by
      rw [s.run_concat]
      simp only [System.perform, found]
    have told := fine.invalid id (List.mem_of_getElem? found)
    obtain ⟨done, outcome, after⟩ := (fine.accounted.forgetServiceClientID id.service id.clientID).returns
    refine fine.concat (by rw [ran]; exact after) (fun other lost ungranted => ?_) fun other member => .inl ?_
    · -- What is forgotten is this client ID, or was forgotten before.
      cases done with
      | false => exact Forgotten.concat lost _ ungranted
      | true =>
        rcases lost with rfl | lost
        · exact ⟨ops, turn, [], rfl, found, told, outcome, ungranted⟩
        · exact Forgotten.concat lost _ ungranted
    · rw [ran] at member
      exact List.mem_of_mem_eraseIdx member

/-- Every call keeps the system fine. -/
theorem perform (fine : s.Fine ops) (op : Op) : s.Fine (ops ++ [op]) := by
  have accounted := fine.accounted
  cases op with
  | serviceClientID service =>
    -- Every call but `forget` and `request` is one under the lock.
    exact fine.call (accounted.entered fun d' inner => inner.serviceClientIDLocked service) rfl
  | allocateServiceClientID service =>
    refine fine.call (accounted.entered fun d' inner => ?_) rfl
    exact (inner.allocateServiceClientIDLocked service).mono (fun _ _ => And.left) fun _ => id
  | sessionServiceClientID service =>
    refine fine.call (accounted.entered fun d' inner => ?_) rfl
    refine Dialogue.ensures_getState_bind (Call.ensures_ite (fun _ => ?_) fun _ => ?_)
    · exact Ensures.bind (inner.serviceClientIDLocked service) fun _ _ after => Call.ensures_pure after
    · exact Ensures.bind (inner.allocateServiceClientIDLocked service) fun _ _ after => Call.ensures_pure after.1
  | releaseServiceClientID service clientID =>
    exact fine.call (accounted.entered fun d' inner => inner.releaseServiceClientIDLocked service clientID) rfl
  | request service clientID id tlvs => exact fine.request service clientID id tlvs
  | requestWithTimeout id tlvs =>
    refine fine.call (accounted.entered fun d' inner => ?_) rfl
    refine Ensures.bind (inner.serviceClientIDLocked serviceUIM) fun clientID d after => ?_
    refine (ensures_sendRequest (.message serviceUIM clientID id tlvs) d).mono ?_ ?_
    · rintro response d' ⟨rfl, -⟩
      exact after.message ..
    · rintro d' ⟨rfl, -⟩
      exact after.message ..
  | catClient => exact fine.call accounted.catClient rfl
  | releaseCATClient service clientID => exact fine.call (accounted.releaseCATClient service clientID) rfl
  | forget turn => exact fine.forget turn
  | close => exact fine.call (accounted.close.mono (fun _ _ => id) fun _ => False.elim) rfl

/-- A client that has not been used is fine, and so it is after any calls. -/
theorem run (tape : Nat → Answer) (ops : List Op) : (System.init tape .qmux).Fine ops := by
  -- The induction is from the back, one more call after those before.
  induction ops using List.reverseRecOn with
  | nil =>
    refine ⟨⟨rfl, List.prefix_rfl, ?_, ?_, ?_⟩, ?_⟩
    · simp [System.run, System.init, Client.Recorded]
    · simp [System.run, System.init, Held]
    · simp [System.run, System.init]
    · simp [System.run, System.init]
  | append_singleton ops op fine => exact fine.perform op

end System.Fine

/-! The calls of `withServiceClient`, which other calls may come between. -/

/-- The function that the callers of `withServiceClient` run. -/
def serviceRequest (service : ServiceType) (id : MessageID) (tlvs : List TLV) (clientID : UInt8) :
    ClientCall (List TLV) := do
  let response ← requestService service clientID id tlvs
  resultOK response
  return response

/-- Without a response, a request does not fail with an error of the modem. -/
theorem requestService_fails (service : ServiceType) (clientID : UInt8) (id : MessageID) (tlvs : List TLV)
    (code : QMIError) : (requestService service clientID id tlvs).Fails fun err => err.isQMI code = false := by
  have looks (condition : Condition) : (holds condition).Fails fun err => err.isQMI code = false :=
    Fails.bind nofun fun _ => fails_pure
  -- Entering fails where the lock is not taken, or the client is closed.
  have last : (do if !(← holds .isOpen) then throw .refused : ClientCall Unit).Fails fun err => err.isQMI code = false :=
    Fails.bind (looks .isOpen) fun _ => fails_ite (fails_throw rfl) fails_pure
  have middle : (do
      if (← getState).closed then throw .refused
      if !(← holds .isOpen) then throw .refused : ClientCall Unit).Fails fun err => err.isQMI code = false :=
    Fails.bind nofun fun _ => fails_ite (Fails.bind (fails_throw rfl) fun _ => last) last
  have enters : enter.Fails fun err => err.isQMI code = false :=
    Fails.bind (looks .locked) fun _ => fails_ite (Fails.bind (fails_throw rfl) fun _ => middle) middle
  refine Fails.bind enters fun _ => Fails.bind nofun fun answer => ?_
  -- What is sent gets a response, or is lost.
  cases answer with
  | response tlvs => exact fails_pure
  | refused => exact fails_throw rfl
  | lost tlvs => exact fails_throw rfl
  | services services => exact fails_throw rfl
  | clientID clientID => exact fails_throw rfl

/-- Some calls lead from one system to the other. -/
def System.Leads (s s' : System) : Prop := ∃ ops, s' = s.run ops

namespace System.Leads

variable {s s' s'' : System}

/-- No call leads nowhere else. -/
theorem refl (s : System) : s.Leads s := ⟨[], rfl⟩

/-- One more call. -/
theorem perform (leads : s.Leads s') (op : Op) : s.Leads (s'.perform op) := by
  obtain ⟨ops, rfl⟩ := leads
  exact ⟨ops ++ [op], by simp [System.run]⟩

/-- Some calls after others. -/
theorem trans (first : s.Leads s') (second : s'.Leads s'') : s.Leads s'' := by
  obtain ⟨ops, rfl⟩ := first
  obtain ⟨more, rfl⟩ := second
  exact ⟨ops ++ more, by simp [System.run]⟩

end System.Leads

section

variable (service : ServiceType) (id : MessageID) (tlvs : List TLV)

/-- A request of the system is the function of a caller, but for what becomes of the result. -/
theorem request_world (s : System) (clientID : UInt8) :
    (s.perform (.request service clientID id tlvs)).world = (serviceRequest service id tlvs clientID).after s.world := by
  have looked (response : List TLV) (d : World) :
      (do resultOK response; return response : ClientCall (List TLV)).after d = d := by
    unfold resultOK
    cases resultError response <;> rfl
  show (resultError <$> requestService service clientID id tlvs : ClientCall _).after s.world = _
  rw [serviceRequest, ← bind_pure_comp, Call.after_bind, Call.after_bind]
  cases (requestService service clientID id tlvs).outcome s.world with
  | ok response => exact (looked response _).symm
  | error err => rfl

/-- A function that fails with an invalid client ID leaves its caller about to forget the ID. -/
theorem request_invalid (s : System) {clientID : UInt8} {err : ClientError}
    (failed : (serviceRequest service id tlvs clientID).outcome s.world = .error err)
    (invalid : err.isQMI qmiErrorInvalidClientID = true) :
    (s.perform (.request service clientID id tlvs)).invalid = s.invalid ++ [⟨service, clientID⟩] := by
  rw [serviceRequest, Call.outcome_bind] at failed
  cases asked : (requestService service clientID id tlvs).outcome s.world with
  | error other =>
    -- Without a response there is no such error.
    rw [asked] at failed
    cases failed
    rw [requestService_fails service clientID id tlvs _ s.world err asked] at invalid
    cases invalid
  | ok response =>
    rw [asked] at failed
    cases result : resultError response with
    | none =>
      simp only [resultOK, result] at failed
      cases failed
    | some fault =>
      simp only [resultOK, result] at failed
      cases failed
      have outcome : (resultError <$> requestService service clientID id tlvs : ClientCall _).outcome s.world =
          .ok (some fault) := by
        rw [← bind_pure_comp, Call.outcome_bind, asked, ← result]
        rfl
      have same : fault = .qmi qmiErrorInvalidClientID := by simpa [ClientError.isQMI] using invalid
      simp only [System.perform, outcome, same, if_true]

/-- The second attempt, with a new client ID. -/
theorem retry_leads (s : System) (err : ClientError) : ∃ s', s.Leads s' ∧ (do
      match ← (serviceClientID service).attempt with
      | .error allocateErr => throw (err.join allocateErr)
      | .ok clientID => serviceRequest service id tlvs clientID : ClientCall (List TLV)).after s.world = s'.world := by
  obtain ⟨s', got⟩ : ∃ s', s' = s.perform (.serviceClientID service) := ⟨_, rfl⟩
  have leads : s.Leads s' := got ▸ (System.Leads.refl s).perform _
  have world : (serviceClientID service).after s.world = s'.world := by
    rw [got]
    rfl
  rw [Call.after_attempt_bind, world]
  cases (serviceClientID service).outcome s.world with
  | error allocateErr => exact ⟨s', leads, rfl⟩
  | ok clientID => exact ⟨_, leads.perform _, (request_world service id tlvs s' clientID).symm⟩

/-- A call of `withServiceClient` is a sequence of calls of the system. -/
theorem withServiceClient_leads (s : System) : ∃ s', s.Leads s' ∧
    (withServiceClient service (serviceRequest service id tlvs)).after s.world = s'.world := by
  unfold withServiceClient
  rw [Call.after_bind]
  obtain ⟨s₁, got⟩ : ∃ s₁, s₁ = s.perform (.serviceClientID service) := ⟨_, rfl⟩
  have leads₁ : s.Leads s₁ := got ▸ (System.Leads.refl s).perform _
  have world₁ : (serviceClientID service).after s.world = s₁.world := by
    rw [got]
    rfl
  rw [world₁]
  cases (serviceClientID service).outcome s.world with
  | error err => exact ⟨s₁, leads₁, rfl⟩
  | ok clientID =>
    -- The function runs with the ID that was got.
    obtain ⟨s₂, asked⟩ : ∃ s₂, s₂ = s₁.perform (.request service clientID id tlvs) := ⟨_, rfl⟩
    have leads₂ : s.Leads s₂ := asked ▸ leads₁.perform _
    dsimp only
    rw [Call.after_attempt_bind, ← request_world, ← asked]
    cases ran : (serviceRequest service id tlvs clientID).outcome s₁.world with
    | ok value => exact ⟨s₂, leads₂, rfl⟩
    | error err =>
      by_cases invalid : err.isQMI qmiErrorInvalidClientID = true
      · -- The ID is invalid, and is forgotten.
        have noted : s₂.invalid[s₁.invalid.length]? = some ⟨service, clientID⟩ := by
          rw [asked, request_invalid service id tlvs s₁ ran invalid, List.getElem?_concat_length]
        obtain ⟨s₃, forgot⟩ : ∃ s₃, s₃ = s₂.perform (.forget s₁.invalid.length) := ⟨_, rfl⟩
        have leads₃ : s.Leads s₃ := forgot ▸ leads₂.perform _
        have world₃ : (forgetServiceClientID service clientID).after s₂.world = s₃.world := by
          rw [forgot, System.perform, noted]
        simp only [invalid, Bool.not_true, Bool.false_eq_true, if_false]
        rw [Call.after_bind, world₃]
        cases (forgetServiceClientID service clientID).outcome s₂.world with
        | error err => exact ⟨s₃, leads₃, rfl⟩
        | ok forgotten =>
          cases forgotten with
          | false => exact ⟨s₃, leads₃, rfl⟩
          | true =>
            obtain ⟨s', leads, same⟩ := retry_leads service id tlvs s₃ err
            exact ⟨s', leads₃.trans leads, same⟩
      · -- Any other error is returned.
        simp only [invalid, Bool.not_false, if_true]
        exact ⟨s₂, leads₂, rfl⟩

end

/-- Client IDs that are in order already are gone through in this order. -/
theorem releasable_of_sorted {c : Client} {ids : List AllocatedClientID}
    (known : (c.clientIDs.entries.foldl
      (fun allocated entry => allocated.set (⟨entry.1, entry.2⟩ : AllocatedClientID) ())
      c.allocatedClientIDs).keys = ids)
    (sorted : ids.Pairwise fun a b => releasedBefore a b = true) : c.releasable = ids := by
  subst known
  exact List.mergeSort_of_pairwise sorted

/-- Closing an open client over QMUX goes through its client IDs, if the transport has not failed for good. -/
theorem log_close {d : World} (isOpen : d.state.closed = false) (overQmux : d.state.transport = .qmux)
    (going : d.answer = .refused) (short : ∀ id ∈ d.state.releasable, ¬id.service > 0xff) :
    ∃ answer, (close.after d).log =
      ((releaseEach d.state.releasable).after (d.say (.condition .terminal))).log ++ [(.closeTransport, answer)] := by
  obtain ⟨errs, outcome, -⟩ := (ensures_releaseEach d.state.releasable short (d.say (.condition .terminal))).returns
  -- Neither the transport gives out the client IDs nor it has failed.
  have managed : d.state.transportManagesClientIDs = false := by simp [Client.transportManagesClientIDs, overQmux]
  have failed : (holds .terminal).run d = .ok false (d.say (.condition .terminal)) := by
    show EStateM.Result.ok (decide (d.answer ≠ .refused)) _ = _
    simp [going]
  have ran : releaseClientIDs.run d = (releaseEach d.state.releasable).run (d.say (.condition .terminal)) := by
    show EStateM.run (if d.state.transportManagesClientIDs = true then _ else _) d = _
    rw [managed, if_neg Bool.false_ne_true, EStateM.run_bind, failed]
    rfl
  unfold close
  rw [Call.after_bind]
  show ∃ answer, (Call.after (if d.state.closed = true then _ else _) d).log = _
  rw [isOpen, if_neg Bool.false_ne_true, Call.after_bind]
  have ended : releaseClientIDs.outcome d = .ok errs ∧
      releaseClientIDs.after d = (releaseEach d.state.releasable).after (d.say (.condition .terminal)) := by
    rw [← outcome]
    unfold Call.outcome Call.after
    rw [ran]
    exact ⟨rfl, rfl⟩
  rw [ended.1, ended.2]
  exact ⟨_, rfl⟩

/-- After some calls, a client knows the client IDs that the modem holds for it, and gives them back when it closes. -/
structure OwnsClientIDs (s : System) (ops : List Op) : Prop where
  /-- No client ID is recorded twice. -/
  distinct : (s.run ops).world.state.allocatedClientIDs.keys.Nodup
  /-- What is recorded was granted for the service it is recorded for, and has not been released since. -/
  recorded : ∀ id, (s.run ops).world.state.Recorded id → id ∈ Held (s.run ops).world.log
  /-- What was granted and has not been released since is recorded, unless a call that had been told that it is invalid
  has forgotten it since. -/
  held : (s.run ops).world.state.closed = false → ∀ id ∈ Held (s.run ops).world.log,
    (s.run ops).world.state.Recorded id ∨ Forgotten s ops id
  /-- Closing sends a release for each recorded ID once, in ascending order and for none that was never granted, unless
  the transport fails for good or the time is up. -/
  closes : (s.run ops).world.state.closed = false →
    ∃ more, (close.after (s.run ops).world).log = (s.run ops).world.log ++ more ∧
      (releases more).Pairwise Ascending ∧ (∀ id ∈ releases more, Granted (s.run ops).world.log id) ∧
      (Stopped more ∨ ∀ id, (s.run ops).world.state.Recorded id → (releases more).count id = 1)
  /-- Closing again does nothing. -/
  again : (s.run ops).world.state.closed = true → close.after (s.run ops).world = (s.run ops).world

/--
Whatever calls are made of a client over QMUX and whatever the modem answers, the client owns its client IDs.

The calls may come from any number of goroutines, since each of them holds the lock of the client to its end. Those of
`withServiceClient` are several, and others may come between.
-/
theorem client_ids_owned (tape : Nat → Answer) (ops : List Op) : OwnsClientIDs (System.init tape .qmux) ops := by
  have accounted := (System.Fine.run tape ops).accounted
  generalize System.init tape .qmux = s at accounted ⊢
  have closing := (ensures_close (s.run ops).world accounted.short).returns
  refine ⟨GoMap.keys_nodup _, accounted.recorded, fun isOpen id member => ?_, fun isOpen => ?_, fun done => ?_⟩
  · -- What is held is recorded, or was forgotten.
    rcases accounted.held isOpen id member with recorded | ⟨forgotten, -⟩
    · exact .inl recorded
    · exact .inr forgotten
  · -- A client that is open is closed now.
    obtain ⟨⟨⟩, -, ⟨again, -⟩ | ⟨-, -, more, log, front, all⟩⟩ := closing
    · exact absurd (isOpen.symm.trans again) Bool.false_ne_true
    have ascending := (releasable_ascending (s.run ops).world.state).sublist front.sublist
    refine ⟨more, log, ascending, fun id sent => ?_, ?_⟩
    · -- What is released was recorded or cached, and so was granted.
      rcases (mem_releasable _ id).mp (front.subset sent) with recorded | cached
      · exact .of_held (accounted.recorded id recorded)
      · exact accounted.cached id.service id.clientID cached
    · -- Where the loop came to its end, all that is recorded was released.
      rcases all with all | stopped | managed
      · refine .inr fun id recorded => ?_
        have sent : id ∈ releases more := all ▸ (mem_releasable _ id).mpr (.inl recorded)
        exact List.count_eq_one_of_mem (ascending.imp fun before same => before.ne same) sent
      · exact .inl stopped
      · simp [Client.transportManagesClientIDs, accounted.overQmux] at managed
  · -- A client that is closed already is left as it is.
    obtain ⟨⟨⟩, -, ⟨-, same⟩ | ⟨isOpen, -⟩⟩ := closing
    · exact same
    · exact absurd (isOpen.symm.trans done) Bool.false_ne_true

/-- The result of a response to a request that the modem has done. -/
def success : TLV := ⟨0x02, 4, [0, 0, 0, 0]⟩

/-- A response that grants a client ID of a service. -/
def grant (service clientID : UInt8) : List TLV := [success, ⟨0x01, 2, [service, clientID]⟩]

/-- A modem that is reset after it has granted a client ID of two services each. -/
def resetModem : Nat → Answer
  | 3 => .response (grant 1 5)
  | 9 => .response (grant 2 6)
  | 14 => .response [⟨0x02, 4, [1, 0, 7, 0]⟩]
  | 19 => .response (grant 2 7)
  | 22 | 23 | 26 => .refused
  | _ => .response [success]

/-- A client gets the client IDs, is told that one of them is invalid, and gets another one. -/
def resetOps : List Op := [.serviceClientID 1, .serviceClientID 2, .request 2 6 0x20 [], .forget 0, .serviceClientID 2]

/-- The client after these calls. -/
def resetWorld : World := ((System.init resetModem .qmux).run resetOps).world

/-- The client has recorded the client IDs that the modem holds, and releases each of them once when it closes. -/
theorem reset_owned : resetWorld.state.Recorded ⟨1, 5⟩ ∧ resetWorld.state.Recorded ⟨2, 7⟩ ∧
    ∃ more, (close.after resetWorld).log = resetWorld.log ++ more ∧
      (releases more).count ⟨1, 5⟩ = 1 ∧ (releases more).count ⟨2, 7⟩ = 1 := by
  obtain ⟨more, log, -, -, stopped | all⟩ := (client_ids_owned resetModem resetOps).closes (by decide)
  · -- Neither the transport fails nor the time is up.
    exfalso
    have ids : resetWorld.state.releasable = [⟨1, 5⟩, ⟨2, 7⟩] := releasable_of_sorted (by decide) (by decide)
    obtain ⟨answer, closed⟩ := log_close (d := resetWorld) (by decide) rfl (by decide) (by rw [ids]; decide)
    have said : ((releaseEach [⟨1, 5⟩, ⟨2, 7⟩]).after (resetWorld.say (.condition .terminal))).log = resetWorld.log ++
        [(.condition .terminal, .refused), (.condition .terminal, .refused), (.condition .live, .response [success]),
          (.releaseClientID 1 5, .response [success]), (.condition .terminal, .refused),
          (.condition .live, .response [success]), (.releaseClientID 2 7, .response [success])] := by
      decide
    rw [ids, said, List.append_assoc] at closed
    rw [List.append_cancel_left (log.symm.trans closed)] at stopped
    simp [Stopped] at stopped
  · exact ⟨by decide, by decide, more, log, all _ (by decide), all _ (by decide)⟩

/-- What was said, as the modem has it: all that it answered has arrived. -/
def atModem (log : Log) : Log := log.map fun
  | (r, .lost tlvs) => (r, .response tlvs)
  | entry => entry

/-- A client that has asked a modem whose response did not arrive. -/
def silentWorld : World := ((System.init (fun n => if n = 3 then .lost (grant 1 5) else .response [success]) .qmux).run
  [.serviceClientID 1]).world

/-- A modem that does not answer the first release, until the time of the close is up. -/
def slowModem : Nat → Answer
  | 3 => .response (grant 1 5)
  | 9 => .response (grant 2 6)
  | 12 | 13 | 16 | 17 => .refused
  | 15 => .lost []
  | _ => .response [success]

/-- A client that has got two client IDs of this modem. -/
def slowWorld : World := ((System.init slowModem .qmux).run [.serviceClientID 1, .serviceClientID 2]).world

/--
A client ID that was granted in a response that did not arrive is not recorded. A client ID that is recorded is not
released when the time of the close is up before, though the transport has not failed.
-/
theorem unanswered_not_owned :
    (silentWorld.state.closed = false ∧ ⟨1, 5⟩ ∈ Held (atModem silentWorld.log) ∧ ¬Invalid silentWorld.log ⟨1, 5⟩ ∧
      ¬silentWorld.state.Recorded ⟨1, 5⟩) ∧
    (slowWorld.state.Recorded ⟨2, 6⟩ ∧ ∃ more, (close.after slowWorld).log = slowWorld.log ++ more ∧
      (∀ answer, (.condition .terminal, answer) ∈ more → answer = .refused) ∧ ⟨2, 6⟩ ∉ releases more) := by
  have lost : silentWorld.log =
      [(.condition .locked, .response [success]), (.condition .isOpen, .response [success]),
        (.condition .live, .response [success]), (.allocateClientID 1, .lost (grant 1 5))] := by decide
  have granted : granted (grant 1 5) = some ⟨1, 5⟩ := by decide
  refine ⟨⟨by decide, ?_, ?_, by decide⟩, by decide, ?_⟩
  · rw [lost]
    simp [atModem, Held, settle, granted]
  · rw [lost]
    simp [Invalid]
  · -- The loop ends after the first client ID.
    have ids : slowWorld.state.releasable = [⟨1, 5⟩, ⟨2, 6⟩] := releasable_of_sorted (by decide) (by decide)
    obtain ⟨answer, closed⟩ := log_close (d := slowWorld) (by decide) rfl (by decide) (by rw [ids]; decide)
    have said : ((releaseEach [⟨1, 5⟩, ⟨2, 6⟩]).after (slowWorld.say (.condition .terminal))).log = slowWorld.log ++
        [(.condition .terminal, .refused), (.condition .terminal, .refused), (.condition .live, .response [success]),
          (.releaseClientID 1 5, .lost []), (.condition .terminal, .refused), (.condition .live, .refused)] := by
      decide
    rw [ids, said, List.append_assoc] at closed
    exact ⟨_, closed, by simp, by simp [releases, Request.released]⟩

end Wwan.Qcom.ClientIds
