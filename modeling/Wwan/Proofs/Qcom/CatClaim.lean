import Mathlib.Data.List.Induction
import Wwan.Qcom.CatClaim

/-! Which clients a claim of events releases, what it says about them, and what becomes of its own client ID. -/

namespace Wwan.Qcom.Cat

open Call (Ensures)
open Dialogue (ask getState setState)

/-- What was asked and answered. -/
abbrev Log := List (Request × Answer)

/-- A world of the calls. -/
abbrev World := Dialogue Request Answer Client

/-! What each part of a call asks for. -/

/-- A condition is looked at. -/
theorem ensures_holds (condition : Condition) (d : World) :
    (holds condition).Ensures d
      (fun result d' => d' = d.say (.condition condition) ∧ (result = true ↔ d.answer ≠ .refused)) fun _ => False := by
  refine Dialogue.ensures_ask_bind (Call.ensures_pure ⟨rfl, ?_⟩)
  simp

/-- A request gets a response, or fails. -/
theorem ensures_request (r : Request) (d : World) :
    (request r).Ensures d (fun tlvs d' => d' = d.say r ∧ d.answer = .response tlvs)
      fun d' => d' = d.say r ∧ ∀ tlvs, d.answer ≠ .response tlvs := by
  refine Dialogue.ensures_ask_bind ?_
  cases answered : d.answer with
  | response tlvs => exact Call.ensures_pure ⟨rfl, rfl⟩
  | refused => exact Call.ensures_throw ⟨rfl, by simp⟩
  | lost => exact Call.ensures_throw ⟨rfl, by simp⟩
  | services services => exact Call.ensures_throw ⟨rfl, by simp⟩
  | clientID clientID => exact Call.ensures_throw ⟨rfl, by simp⟩

/-- A result is looked at. -/
theorem ensures_resultOK (tlvs : List TLV) (d : World) :
    (resultOK tlvs).Ensures d (fun _ d' => d' = d ∧ resultError tlvs = none) fun d' => d' = d := by
  unfold resultOK
  cases resultError tlvs with
  | none => exact Call.ensures_pure ⟨rfl, rfl⟩
  | some err => exact Call.ensures_throw rfl

/-- A context around the error of a call changes nothing else. -/
theorem ensures_wrapped {α : Type} {call : CatCall α} {d : World} {returned : α → World → Prop} {failed : World → Prop}
    (ensures : call.Ensures d returned failed) (context : String) : (wrapped context call).Ensures d returned failed := by
  exact ensures.attempt_bind (fun x d' holds => Call.ensures_pure holds) fun err d' holds => Call.ensures_throw holds

/-- The modem has released an ID, or does not know it. -/
def Answer.Releases (answer : Answer) : Prop :=
  ∃ tlvs, answer = .response tlvs
    ∧ (resultError tlvs = none ∨ resultError tlvs = some (.qmi qmiErrorInvalidClientID))

/-- An ID of a service with a short number is released, or the modem is asked in vain. -/
theorem ensures_releaseServiceClientIDLocked {service : ServiceType} (short : ¬service > 0xff) (clientID : UInt8)
    (d : World) :
    (releaseServiceClientIDLocked service clientID).Ensures d
      (fun _ d' => d' = d.say (.releaseClientID service clientID) ∧ d.answer.Releases)
      fun d' => d' = d.say (.releaseClientID service clientID) ∧ ¬d.answer.Releases := by
  unfold releaseServiceClientIDLocked
  rw [if_neg short]
  refine Ensures.bind ((ensures_request (.releaseClientID service clientID) d).mono (fun _ _ => id) ?_) ?_
  · -- Without an answer the ID is not released.
    rintro d' ⟨rfl, unanswered⟩
    refine ⟨rfl, fun released => ?_⟩
    obtain ⟨tlvs, answered, -⟩ := released
    exact unanswered tlvs answered
  · rintro tlvs d' ⟨rfl, answered⟩
    -- Any other result is an error.
    have refuses : ∀ err, resultError tlvs = some err → err ≠ .qmi qmiErrorInvalidClientID → ¬d.answer.Releases := by
      rintro err found other ⟨tlvs', answered', accepted⟩
      cases answered.symm.trans answered'
      rcases accepted with none | invalid
      · exact absurd (found.symm.trans none) (by simp)
      · exact other (Option.some.inj (found.symm.trans invalid))
    cases found : resultError tlvs with
    | none => exact Call.ensures_pure ⟨rfl, tlvs, answered, .inl found⟩
    | some err =>
      cases err with
      | qmi code =>
        -- An ID that the modem does not know counts as released.
        refine Call.ensures_ite (fun invalid => ?_) fun other => ?_
        · exact Call.ensures_pure ⟨rfl, tlvs, answered, .inr (by rw [found, invalid])⟩
        · exact Call.ensures_throw ⟨rfl, refuses _ found (by simpa using other)⟩
      | noResultTLV => exact Call.ensures_throw ⟨rfl, refuses _ found (by simp)⟩
      | shortResultTLV length => exact Call.ensures_throw ⟨rfl, refuses _ found (by simp)⟩

/-! What is said on the way that neither releases nor registers anything. -/

/-- The request is neither for the release of an ID nor for a registration. -/
def Request.Quiet : Request → Prop
  | .condition _ | .versionInfo | .clientID _ | .allocateClientID _ | .getServiceState _ _ => True
  | .releaseClientID _ _ | .setEventReport _ _ _ _ => False

/-- The dialogue has gone on with quiet requests only. -/
def Quietly (d d' : World) : Prop := ∃ more : Log, d'.log = d.log ++ more ∧ ∀ entry ∈ more, entry.1.Quiet

/-- Nothing was said. -/
theorem Quietly.refl (d : World) : Quietly d d := ⟨[], by simp, by simp⟩

/-- Quiet requests one after the other. -/
theorem Quietly.trans {d d' d'' : World} (first : Quietly d d') (second : Quietly d' d'') : Quietly d d'' := by
  obtain ⟨more, said, quiet⟩ := first
  obtain ⟨rest, saidRest, quietRest⟩ := second
  refine ⟨more ++ rest, by rw [saidRest, said, List.append_assoc], fun entry there => ?_⟩
  rcases List.mem_append.mp there with early | late
  · exact quiet entry early
  · exact quietRest entry late

/-- A quiet request was sent. -/
theorem Quietly.say {d d' : World} (first : Quietly d d') {r : Request} (quiet : r.Quiet) : Quietly d (d'.say r) := by
  refine first.trans ⟨[(r, d'.answer)], rfl, fun entry there => ?_⟩
  rw [List.mem_singleton.mp there]
  exact quiet

/-- The state of the caller changed, and nothing was said. -/
theorem Quietly.state {d d' : World} (first : Quietly d d') (f : Client → Client) :
    Quietly d { d' with state := f d'.state } := by
  obtain ⟨more, said, quiet⟩ := first
  exact ⟨more, said, quiet⟩

/-! The own client ID. -/

/-- The modem has given out an ID for a service. -/
def Allocated (log : Log) (service : ServiceType) (id : UInt8) : Prop :=
  ∃ asked tlvs byte, (.allocateClientID asked, .response tlvs) ∈ log ∧ TLVs.value tlvs 0x01 = some [byte, id]
    ∧ byte.toUInt32 = service

/-- An ID that was given out stays given out. -/
theorem Allocated.mono {log : Log} {service : ServiceType} {id : UInt8} (allocated : Allocated log service id)
    (more : Log) : Allocated (log ++ more) service id := by
  obtain ⟨asked, tlvs, byte, there, rest⟩ := allocated
  exact ⟨asked, tlvs, byte, List.mem_append_left _ there, rest⟩

/-- The dialogue has gone on with quiet requests, but for the release of an ID that was given out for another service. -/
def Opening (d d' : World) : Prop :=
  Quietly d d' ∨ ∃ between : World, Quietly d between ∧ ∃ service id answer,
    d'.log = between.log ++ [(.releaseClientID service id, answer)] ∧ Allocated between.log service id

/-- Quiet requests before an opening belong to it. -/
theorem Quietly.opening {d d' d'' : World} (first : Quietly d d') (rest : Opening d' d'') : Opening d d'' := by
  obtain quiet | ⟨between, quiet, released⟩ := rest
  · exact .inl (first.trans quiet)
  · exact .inr ⟨between, first.trans quiet, released⟩

/-- An ID is given out for the service, or a wrong one is given back. -/
theorem ensures_allocateServiceClientIDLocked (service : ServiceType) (d : World) :
    (allocateServiceClientIDLocked service).Ensures d
      (fun id d' => Quietly d d' ∧ d'.state = d.state ∧ id ≠ 0 ∧ Allocated d'.log service id)
      fun d' => d'.state = d.state ∧ Opening d d' := by
  unfold allocateServiceClientIDLocked
  refine Call.ensures_ite (fun _ => Call.ensures_throw ⟨rfl, .inl (.refl d)⟩) fun _ => ?_
  refine Ensures.bind ((ensures_holds .live d).mono (fun _ _ => id) fun _ => False.elim) ?_
  rintro live d₁ ⟨rfl, -⟩
  -- Nothing has been sent so far.
  have opened : Quietly d (d.say (.condition .live)) := (Quietly.refl d).say trivial
  refine Call.ensures_ite (fun _ => Call.ensures_throw ⟨rfl, .inl opened⟩) fun _ => ?_
  have asked := opened.say (r := .allocateClientID service) trivial
  refine Ensures.bind ((ensures_request (.allocateClientID service) _).mono (fun _ _ => id)
    fun d' failed => failed.1 ▸ ⟨rfl, .inl asked⟩) ?_
  rintro tlvs d₂ ⟨rfl, answered⟩
  refine Ensures.bind ((ensures_resultOK tlvs _).mono (fun _ _ => id) fun d' same => same ▸ ⟨rfl, .inl asked⟩) ?_
  rintro ⟨⟩ d₃ ⟨rfl, -⟩
  -- The answer names the service and the ID in two bytes, and everything else is an error.
  cases found : TLVs.value tlvs 0x01 with
  | none => exact Call.ensures_throw ⟨rfl, .inl asked⟩
  | some value =>
    rcases value with _ | ⟨byte, _ | ⟨clientID, _ | ⟨more, rest⟩⟩⟩
    · exact Call.ensures_throw ⟨rfl, .inl asked⟩
    · exact Call.ensures_throw ⟨rfl, .inl asked⟩
    · have allocated : Allocated ((d.say (.condition .live)).say (.allocateClientID service)).log byte.toUInt32 clientID :=
        ⟨service, tlvs, byte, by simp [answered], found, rfl⟩
      -- An ID of zero is none.
      refine Call.ensures_ite (fun _ => Call.ensures_throw ⟨rfl, .inl asked⟩) fun nonzero => ?_
      refine Call.ensures_ite (fun mismatch => ?_) fun same => ?_
      · -- The service of the ID is a byte, so that its release is sent.
        have short : ¬byte.toUInt32 > 0xff := by
          have bound := byte.toNat_lt
          rw [gt_iff_lt, UInt32.lt_iff_toNat_lt, UInt8.toNat_toUInt32]
          simp only [UInt32.reduceToNat]
          omega
        refine (ensures_releaseServiceClientIDLocked short clientID _).attempt_bind (fun _ d' released => ?_)
          fun err d' failed => ?_
        · obtain ⟨rfl, -⟩ := released
          exact Call.ensures_throw ⟨rfl, .inr ⟨_, asked, _, _, _, rfl, allocated⟩⟩
        · obtain ⟨rfl, -⟩ := failed
          exact Call.ensures_throw ⟨rfl, .inr ⟨_, asked, _, _, _, rfl, allocated⟩⟩
      · -- The connection is looked at again before the ID is returned.
        refine Ensures.bind ((ensures_holds .isOpen _).mono (fun _ _ => id) fun _ => False.elim) ?_
        rintro live d₄ ⟨rfl, -⟩
        have looked := asked.say (r := .condition .isOpen) trivial
        refine Call.ensures_ite (fun _ => Call.ensures_throw ⟨rfl, .inl looked⟩) fun _ => ?_
        rw [not_not.mp same] at allocated
        exact Call.ensures_pure ⟨looked, rfl, nonzero, allocated.mono _⟩
    · -- A value of another length is an error.
      exact Call.ensures_throw ⟨rfl, .inl asked⟩

/-- The client ID of the service is known to the client, or to the transport that gave it out. -/
def Ready (service : ServiceType) (own : UInt8) (c : Client) : Prop :=
  c.transport = .qmux → c.clientIDs.get service = some own ∧ own ≠ 0

/-- The transport is asked for a client ID. -/
theorem ensures_transportClientIDLocked (service : ServiceType) (d : World) :
    (transportClientIDLocked service).Ensures d (fun _ d' => d' = d.say (.clientID service))
      fun d' => d' = d.say (.clientID service) := by
  refine Dialogue.ensures_ask_bind ?_
  cases d.answer with
  | clientID clientID => exact Call.ensures_pure rfl
  | refused => exact Call.ensures_throw rfl
  | lost => exact Call.ensures_throw rfl
  | response tlvs => exact Call.ensures_throw rfl
  | services services => exact Call.ensures_throw rfl

/-- The client ID of a service is found, allocated or asked for. -/
theorem ensures_serviceClientIDLocked (service : ServiceType) (d : World) :
    (serviceClientIDLocked service).Ensures d
      (fun id d' => Quietly d d' ∧ d'.state.transport = d.state.transport ∧ d'.state.catService = d.state.catService
        ∧ Ready service id d'.state
        ∧ (d.state.transport = .qmux → d.state.clientIDs.get service = some id ∨ Allocated d'.log service id))
      (Opening d) := by
  refine Dialogue.ensures_getState_bind ?_
  cases kind : d.state.transport with
  | provider =>
    -- The transport is asked for the ID.
    have asked : Quietly d (d.say (.clientID service)) := (Quietly.refl d).say trivial
    refine (ensures_transportClientIDLocked service d).mono ?_ fun d' said => said ▸ .inl asked
    rintro clientID d' rfl
    exact ⟨asked, kind, rfl, by simp [Ready, kind], by simp⟩
  | bound boundService =>
    -- The bound service has the ID of the transport.
    refine Call.ensures_ite (fun _ => Call.ensures_throw (.inl (.refl d))) fun _ => ?_
    exact Call.ensures_pure ⟨.refl d, kind, rfl, by simp [Ready, kind], by simp⟩
  | qmux =>
    refine Call.ensures_ite (fun cached => ?_) fun _ => ?_
    · -- An ID that was allocated before is used again.
      have known : d.state.clientIDs.get service = some ((d.state.clientIDs.get service).getD 0) := by
        cases found : d.state.clientIDs.get service with
        | none => simp [found] at cached
        | some clientID => rfl
      exact Call.ensures_pure ⟨.refl d, kind, rfl, fun _ => ⟨known, cached⟩, fun _ => .inl known⟩
    · -- Otherwise an ID is allocated and remembered.
      refine Ensures.bind ((ensures_allocateServiceClientIDLocked service d).mono (fun _ _ => id) fun _ => And.right) ?_
      rintro clientID d₁ ⟨asked, same, nonzero, allocated⟩
      -- It is remembered before the call looks at its context.
      refine Dialogue.ensures_setState_bind ?_
      refine Ensures.bind ((ensures_holds .live _).mono (fun _ _ => id) fun _ => False.elim) ?_
      rintro live d₂ ⟨rfl, -⟩
      have looked := (asked.state fun c => { c with clientIDs := c.clientIDs.set service clientID }).say
        (r := .condition .live) trivial
      refine Call.ensures_ite (fun _ => Call.ensures_throw (.inl looked)) fun _ => Call.ensures_pure ⟨looked, ?_⟩
      simp only [Dialogue.say_state, same, kind, true_and, Ready, forall_const]
      exact ⟨⟨by simp, nonzero⟩, .inr (allocated.mono _)⟩

/-- A client ID that is known is found again. -/
theorem ensures_serviceClientIDLocked_ready {service : ServiceType} {own : UInt8} {d : World}
    (ready : Ready service own d.state) :
    (serviceClientIDLocked service).Ensures d (fun _ d' => Quietly d d' ∧ d'.state = d.state)
      fun d' => Quietly d d' ∧ d'.state = d.state := by
  refine Dialogue.ensures_getState_bind ?_
  cases kind : d.state.transport with
  | provider =>
    have asked : Quietly d (d.say (.clientID service)) := (Quietly.refl d).say trivial
    exact (ensures_transportClientIDLocked service d).mono (fun _ _ said => said ▸ ⟨asked, rfl⟩)
      fun _ said => said ▸ ⟨asked, rfl⟩
  | bound boundService =>
    refine Call.ensures_ite (fun _ => Call.ensures_throw ⟨.refl d, rfl⟩) fun _ => ?_
    exact Call.ensures_pure ⟨.refl d, rfl⟩
  | qmux =>
    obtain ⟨found, nonzero⟩ := ready kind
    simp only [found, Option.getD_some, ne_eq, nonzero, not_false_eq_true, ↓reduceIte]
    exact Call.ensures_pure ⟨.refl d, rfl⟩

/-- The version of the service is looked for. -/
theorem ensures_catServiceType (d : World) :
    catServiceType.Ensures d (fun _ d' => Quietly d d' ∧ d'.state = d.state) (Quietly d) := by
  refine Dialogue.ensures_getState_bind (Call.ensures_ite (fun _ => ?_) fun _ => ?_)
  · -- The transport knows the versions that it can reach.
    have first : Quietly d (d.say (.clientID serviceCAT2)) := (Quietly.refl d).say trivial
    have second := first.say (r := .clientID serviceCAT) trivial
    refine (ensures_transportClientIDLocked serviceCAT2 d).attempt_bind ?_ ?_
    · rintro clientID d' rfl
      exact Call.ensures_pure ⟨first, rfl⟩
    · rintro err d' rfl
      refine (ensures_transportClientIDLocked serviceCAT _).attempt_bind ?_ ?_
      · rintro clientID d' rfl
        exact Call.ensures_pure ⟨second, rfl⟩
      · rintro err d' rfl
        exact Call.ensures_throw second
  · -- The modem lists its services.
    have asked : Quietly d (d.say .versionInfo) := (Quietly.refl d).say trivial
    have versions : serviceVersionsLocked.Ensures d (fun _ d' => d' = d.say .versionInfo)
        fun d' => d' = d.say .versionInfo := by
      refine Dialogue.ensures_ask_bind ?_
      cases d.answer with
      | services services => exact Call.ensures_pure rfl
      | refused => exact Call.ensures_throw rfl
      | lost => exact Call.ensures_throw rfl
      | response tlvs => exact Call.ensures_throw rfl
      | clientID clientID => exact Call.ensures_throw rfl
    refine Ensures.bind (versions.mono (fun _ _ => id) fun d' said => said ▸ asked) ?_
    rintro services d' rfl
    refine Call.ensures_ite (fun _ => Call.ensures_pure ⟨asked, rfl⟩) fun _ => ?_
    exact Call.ensures_ite (fun _ => Call.ensures_pure ⟨asked, rfl⟩) fun _ => Call.ensures_throw asked

/-- The client ID of the toolkit service was found without a release. -/
structure Found (d : World) (service : CATService) (own : UInt8) (d' : World) : Prop where
  quiet : Quietly d d'
  transport : d'.state.transport = d.state.transport
  version : d'.state.catService = some service
  ready : Ready service.type own d'.state
  own : d.state.transport = .qmux →
    d.state.clientIDs.get service.type = some own ∨ Allocated d'.log service.type own

/-- The client ID of the toolkit service is found, or nothing but an ID for another service is given back. -/
theorem ensures_catClient (d : World) :
    catClient.Ensures d (fun found d' => Found d found.1 found.2 d') (Opening d) := by
  refine Ensures.bind ((ensures_holds .entered d).mono (fun _ _ => id) fun _ => False.elim) ?_
  rintro entered d₁ ⟨rfl, -⟩
  -- A call whose context has ended sends nothing.
  have looked : Quietly d (d.say (.condition .entered)) := (Quietly.refl d).say trivial
  refine Call.ensures_ite (fun _ => Call.ensures_throw (.inl looked)) fun _ => ?_
  refine Dialogue.ensures_getState_bind ?_
  simp only [Dialogue.say_state]
  cases version : d.state.catService with
  | some service =>
    -- The version is known from an earlier call.
    refine Ensures.bind ((ensures_serviceClientIDLocked service.type _).mono (fun _ _ => id)
      fun d' => looked.opening) ?_
    rintro clientID d₂ ⟨asked, transport, kept, ready, own⟩
    exact Call.ensures_pure ⟨looked.trans asked, transport, kept.trans version, ready, own⟩
  | none =>
    -- The version is looked for first, and then the ID as before.
    have detected : (catServiceType >>= fun service =>
        setState (fun c => { c with catService := some service }) >>= fun _ =>
          serviceClientIDLocked service.type >>= fun clientID => pure (service, clientID) :
          CatCall (CATService × UInt8)).Ensures (d.say (.condition .entered))
        (fun found d' => Found d found.1 found.2 d') (Opening d) := by
      refine Ensures.bind ((ensures_catServiceType _).mono (fun _ _ => id) fun d' said => .inl (looked.trans said)) ?_
      rintro service d₂ ⟨said, same⟩
      refine Dialogue.ensures_setState_bind ?_
      have before := (looked.trans said).state fun c => { c with catService := some service }
      refine Ensures.bind ((ensures_serviceClientIDLocked service.type _).mono (fun _ _ => id)
        fun d' => before.opening) ?_
      rintro clientID d₃ ⟨asked, transport, kept, ready, own⟩
      simp only [same, Dialogue.say_state] at transport kept own
      exact Call.ensures_pure ⟨before.trans asked, transport, kept, ready, own⟩
    -- A transport bound to one service cannot look for versions.
    cases d.state.transport with
    | bound service => exact Call.ensures_throw (.inl looked)
    | qmux => exact detected
    | provider => exact detected

/-- A client ID of the toolkit service that is known is found again. -/
theorem ensures_catClient_ready {service : CATService} {own : UInt8} {d : World}
    (known : d.state.catService = some service) (ready : Ready service.type own d.state) :
    catClient.Ensures d (fun _ d' => Quietly d d' ∧ d'.state = d.state) fun d' => Quietly d d' ∧ d'.state = d.state := by
  refine Ensures.bind ((ensures_holds .entered d).mono (fun _ _ => id) fun _ => False.elim) ?_
  rintro entered d₁ ⟨rfl, -⟩
  have looked : Quietly d (d.say (.condition .entered)) := (Quietly.refl d).say trivial
  refine Call.ensures_ite (fun _ => Call.ensures_throw ⟨looked, rfl⟩) fun _ => ?_
  refine Dialogue.ensures_getState_bind ?_
  simp only [Dialogue.say_state, known]
  have cached : (serviceClientIDLocked service.type).Ensures (d.say (.condition .entered))
      (fun _ d' => Quietly d d' ∧ d'.state = d.state) fun d' => Quietly d d' ∧ d'.state = d.state :=
    (ensures_serviceClientIDLocked_ready (d := d.say (.condition .entered)) ready).mono (fun _ _ said => ⟨looked.trans said.1, said.2⟩)
      fun _ said => ⟨looked.trans said.1, said.2⟩
  exact Ensures.bind cached fun clientID d' said => Call.ensures_pure said

/-! What justifies a release. -/

/-- The ID is the client's own, from before or from this call. -/
def Owned (client : Client) (log : Log) (service : ServiceType) (id : UInt8) : Prop :=
  client.clientIDs.get service = some id ∨ Allocated log service id

/-- Every registration was made with one client ID. -/
def Reports (service : ServiceType) (own : UInt8) (log : Log) : Prop :=
  ∀ other id raw full answer, (.setEventReport other id raw full, answer) ∈ log → other = service ∧ id = own

/-- A registration was made with this client ID, and none with another. -/
def Registered (service : ServiceType) (own : UInt8) (log : Log) : Prop :=
  (∃ raw full answer, (.setEventReport service own raw full, answer) ∈ log) ∧ Reports service own log

/-- The ID is not the caller's own but that of another client, which the modem has just said to have some of the
events. -/
def Holds (mask : UInt32) (log : Log) (service : ServiceType) (id : UInt8) : Prop :=
  id ≠ 0 ∧ (∃ own, Registered service own log ∧ id ≠ own)
    ∧ ∃ earlier tlvs, log = earlier ++ [(.getServiceState service id, .response tlvs)] ∧ resultError tlvs = none
      ∧ (CATServiceState.unmarshalTLVs tlvs).rawClientMask &&& mask ≠ 0

/-- Every release was of the ID of another client that had some of the events. -/
def OnlyHolders (mask : UInt32) (log : Log) : Prop :=
  ∀ before service id answer after, log = before ++ (.releaseClientID service id, answer) :: after →
    Holds mask before service id

/-- Every release was of the ID of another client that had some of the events, but for a last one that cleans up: it is of
an own ID, the one that was registered with if any was. -/
def Justified (client : Client) (mask : UInt32) (log : Log) : Prop :=
  ∀ before service id answer after, log = before ++ (.releaseClientID service id, answer) :: after →
    Holds mask before service id ∨ after = [] ∧ Owned client before service id ∧
      ∀ other own raw full given, (.setEventReport other own raw full, given) ∈ before → own = id

/-- Nothing was released. -/
theorem OnlyHolders.nil (mask : UInt32) : OnlyHolders mask [] := by
  intro before service id answer after split
  simp at split

/-- What the last request needs, if it is a release, and what was there before it. -/
theorem release_concat {log before after : Log} {r : Request} {answer given : Answer} {service : ServiceType} {id : UInt8}
    (split : log ++ [(r, answer)] = before ++ (.releaseClientID service id, given) :: after) :
    (after = [] ∧ before = log ∧ r = .releaseClientID service id) ∨
      ∃ rest, log = before ++ (.releaseClientID service id, given) :: rest := by
  -- The release is the last request, or it was there before.
  rcases List.eq_nil_or_concat after with rfl | ⟨rest, other, rfl⟩
  · obtain ⟨rfl, same⟩ := List.append_inj' split rfl
    exact .inl ⟨rfl, rfl, congrArg Prod.fst (List.cons.inj same).1⟩
  · rw [List.concat_eq_append, ← List.cons_append, ← List.append_assoc] at split
    exact .inr ⟨rest, (List.append_inj' split rfl).1⟩

/-- What justifies the last request justifies the log. -/
theorem OnlyHolders.concat {mask : UInt32} {log : Log} (holders : OnlyHolders mask log) (r : Request) (answer : Answer)
    (last : ∀ service id, r = .releaseClientID service id → Holds mask log service id) :
    OnlyHolders mask (log ++ [(r, answer)]) := by
  intro before service id given after split
  rcases release_concat split with ⟨-, rfl, release⟩ | ⟨rest, earlier⟩
  · exact last service id release
  · exact holders before service id given rest earlier

/-- Releases of clients that have events need no other justification. -/
theorem OnlyHolders.justified {client : Client} {mask : UInt32} {log : Log} (holders : OnlyHolders mask log) :
    Justified client mask log :=
  fun before service id answer after split => .inl (holders before service id answer after split)

/-- The release of an own ID may come last. -/
theorem OnlyHolders.cleanUp {client : Client} {mask : UInt32} {log : Log} (holders : OnlyHolders mask log)
    {service : ServiceType} {own : UInt8} (owned : Owned client log service own)
    (registered : ∀ other id raw full given, (.setEventReport other id raw full, given) ∈ log → id = own)
    (answer : Answer) : Justified client mask (log ++ [(.releaseClientID service own, answer)]) := by
  intro before number id given after split
  rcases release_concat split with ⟨rfl, rfl, release⟩ | ⟨rest, earlier⟩
  · cases release
    exact .inr ⟨rfl, owned, registered⟩
  · exact .inl (holders before number id given rest earlier)

/-- Requests that are quiet need no justification. -/
theorem OnlyHolders.quietly {mask : UInt32} {d d' : World} (holders : OnlyHolders mask d.log) (quietly : Quietly d d') :
    OnlyHolders mask d'.log := by
  obtain ⟨more, said, quiet⟩ := quietly
  rw [said]
  clear said
  induction more using List.reverseRecOn with
  | nil => simpa using holders
  | append_singleton more entry ih =>
    rw [← List.append_assoc]
    have earlier := ih fun other there => quiet other (List.mem_append_left _ there)
    refine earlier.concat entry.1 entry.2 fun service id release => ?_
    have silent := quiet entry (by simp)
    rw [release] at silent
    exact silent.elim

/-- Quiet requests at the start register nothing. -/
theorem Quietly.unregistered {d d' : World} (quietly : Quietly d d') (start : d.log = []) {service : ServiceType}
    {own : UInt8} {raw full : UInt32} {answer : Answer} : (.setEventReport service own raw full, answer) ∉ d'.log := by
  obtain ⟨more, said, quiet⟩ := quietly
  rw [said, start, List.nil_append]
  exact fun there => quiet _ there

/-- An opening is justified. -/
theorem Opening.justified {client : Client} {mask : UInt32} {d d' : World} (opening : Opening d d')
    (start : d.log = []) : Justified client mask d'.log := by
  have holders : OnlyHolders mask d.log := start ▸ OnlyHolders.nil mask
  obtain quiet | ⟨between, quiet, service, id, answer, said, allocated⟩ := opening
  · exact (holders.quietly quiet).justified
  · rw [said]
    exact (holders.quietly quiet).cleanUp (.inr allocated)
      (fun other own raw full given there => absurd there (quiet.unregistered start)) answer

/-- The IDs of the requests for a release. -/
def released (log : Log) : List UInt8 :=
  log.filterMap fun entry =>
    match entry.1 with
    | .releaseClientID _ id => some id
    | _ => none

/-- Quiet requests release nothing. -/
theorem Quietly.released {d d' : World} (quietly : Quietly d d') : released d'.log = released d.log := by
  obtain ⟨more, said, quiet⟩ := quietly
  have none : Cat.released more = [] := by
    refine List.filterMap_eq_nil_iff.mpr fun entry there => ?_
    have silent := quiet entry there
    obtain ⟨r, answer⟩ := entry
    cases r <;> first | rfl | exact silent.elim
  unfold Cat.released at none ⊢
  rw [said, List.filterMap_append, none, List.append_nil]

/-- Another request that is no registration, or one with the client ID. -/
theorem Reports.concat {service : ServiceType} {own : UInt8} {log : Log} (reports : Reports service own log)
    (r : Request) (answer : Answer)
    (last : ∀ other id raw full, r = .setEventReport other id raw full → other = service ∧ id = own) :
    Reports service own (log ++ [(r, answer)]) := by
  intro other id raw full given there
  rcases List.mem_append.mp there with early | late
  · exact reports other id raw full given early
  · exact last other id raw full (congrArg Prod.fst (List.mem_singleton.mp late)).symm

/-- Quiet requests register nothing. -/
theorem Reports.quietly {service : ServiceType} {own : UInt8} {d d' : World} (reports : Reports service own d.log)
    (quietly : Quietly d d') : Reports service own d'.log := by
  obtain ⟨more, said, quiet⟩ := quietly
  rw [said]
  intro other id raw full answer there
  rcases List.mem_append.mp there with early | late
  · exact reports other id raw full answer early
  · exact (quiet _ late).elim

/-- A registration that was made stays made. -/
theorem Registered.concat {service : ServiceType} {own : UInt8} {log : Log} (registered : Registered service own log)
    (r : Request) (answer : Answer)
    (last : ∀ other id raw full, r = .setEventReport other id raw full → other = service ∧ id = own) :
    Registered service own (log ++ [(r, answer)]) := by
  obtain ⟨⟨raw, full, given, there⟩, reports⟩ := registered
  exact ⟨⟨raw, full, given, List.mem_append_left _ there⟩, reports.concat r answer last⟩

/-- Quiet requests change no registration. -/
theorem Registered.quietly {service : ServiceType} {own : UInt8} {d d' : World} (registered : Registered service own d.log)
    (quietly : Quietly d d') : Registered service own d'.log := by
  obtain ⟨⟨raw, full, given, there⟩, reports⟩ := registered
  refine ⟨⟨raw, full, given, ?_⟩, reports.quietly quietly⟩
  obtain ⟨more, said, -⟩ := quietly
  rw [said]
  exact List.mem_append_left _ there

/-! The claim. -/

/-- The numbers of the toolkit service are short. -/
theorem CATService.type_short (service : CATService) : ¬service.type > 0xff := by
  cases service <;> decide

/-- The state of a claim that has tried to register with its own client ID. -/
structure Claiming (client : Client) (mask : UInt32) (service : CATService) (own : UInt8) (d : World) : Prop where
  transport : d.state.transport = client.transport
  version : d.state.catService = some service
  ready : Ready service.type own d.state
  holders : OnlyHolders mask d.log
  registered : Registered service.type own d.log
  owned : client.transport = .qmux → Owned client d.log service.type own

/-- The last thing that was done is to release the own client ID, unless the transport gave it out. -/
def CleanedUp (service : ServiceType) (own : UInt8) (d : World) : Prop :=
  d.state.transport = .qmux →
    (∃ earlier answer, d.log = earlier ++ [(.releaseClientID service own, answer)]
      ∧ (answer.Releases → d.state.clientIDs.get service = none))
    -- The context had ended, or the client was closed.
    ∨ ∃ earlier, d.log = earlier ++ [(.condition .entered, .refused)]

/-- A claim that has failed. -/
structure Ended (client : Client) (mask : UInt32) (service : CATService) (own : UInt8) (d : World) : Prop where
  justified : Justified client mask d.log
  reports : Reports service.type own d.log
  cleanedUp : CleanedUp service.type own d

section

variable {client : Client} {mask : UInt32} {service : CATService} {own : UInt8} {d : World}

/-- An own ID stays an own one. -/
theorem Owned.mono {log : Log} {number : ServiceType} (owned : Owned client log number own) (more : Log) :
    Owned client (log ++ more) number own := owned.imp id fun allocated => allocated.mono more

/-- Quiet requests keep the state of a claim. -/
theorem Claiming.quietly {d' : World} (claiming : Claiming client mask service own d) (quiet : Quietly d d')
    (same : d'.state = d.state) : Claiming client mask service own d' where
  transport := same ▸ claiming.transport
  version := same ▸ claiming.version
  ready := same ▸ claiming.ready
  holders := claiming.holders.quietly quiet
  registered := claiming.registered.quietly quiet
  owned := by
    intro qmux
    obtain ⟨more, said, -⟩ := quiet
    rw [said]
    exact (claiming.owned qmux).mono more

/-- The own client ID is released at the end of a claim that fails. -/
theorem ensures_releaseAnd {α : Type} (claiming : Claiming client mask service own d) (err : CatError) :
    (releaseAnd service own err : CatCall α).Ensures d (fun _ _ => False) (Ended client mask service own) := by
  have released : (releaseCATClient service own).Ensures d (fun _ => Ended client mask service own)
      (Ended client mask service own) := by
    -- The lock is taken only while the context lasts.
    refine Ensures.bind ((ensures_holds .entered d).mono (fun _ _ => id) fun _ => False.elim) ?_
    rintro entered d₁ ⟨rfl, passed⟩
    have looked : Quietly d (d.say (.condition .entered)) := (Quietly.refl d).say trivial
    have claiming₁ := claiming.quietly looked rfl
    refine Call.ensures_ite (fun refused => ?_) fun _ => Dialogue.ensures_getState_bind ?_
    · -- The context has ended, and the ID stays with the client.
      refine Call.ensures_throw ⟨claiming₁.holders.justified, claiming₁.registered.2, fun _ => .inr ⟨d.log, ?_⟩⟩
      have answered : d.answer = .refused := by
        by_contra other
        simp [passed.mpr other] at refused
      rw [Dialogue.say_log, answered]
    · refine Call.ensures_ite (fun different => ?_) fun _ => ?_
      · -- Only a transport that gives out the IDs itself has another one.
        refine Call.ensures_pure ⟨claiming₁.holders.justified, claiming₁.registered.2, fun qmux => ?_⟩
        obtain ⟨known, -⟩ := claiming₁.ready qmux
        rw [claiming₁.version, known] at different
        exact absurd different (by simp)
      · refine Call.ensures_ite (fun qmux => ?_) fun managed => ?_
        · -- The client ID of the claim is given back last, and only then.
          have released : Justified client mask ((d.say (.condition .entered)).say
              (.releaseClientID service.type own)).log :=
            claiming₁.holders.cleanUp (claiming₁.owned (claiming₁.transport.symm.trans qmux))
              (fun other id raw full given there => (claiming₁.registered.2 other id raw full given there).2) _
          have registered := claiming₁.registered.2.concat (.releaseClientID service.type own)
            (d.say (.condition .entered)).answer (by simp)
          refine Ensures.bind ((ensures_releaseServiceClientIDLocked service.type_short own _).mono (fun _ _ => id) ?_) ?_
          · -- The modem may refuse, and then the ID stays registered here too.
            rintro d' ⟨rfl, kept⟩
            exact ⟨released, registered, fun _ => .inl ⟨_, _, rfl, fun accepted => absurd accepted kept⟩⟩
          · rintro ⟨⟩ d₂ ⟨rfl, accepted⟩
            refine ⟨released, registered, fun _ => .inl ⟨_, _, rfl, fun _ => ?_⟩⟩
            simp
        · -- A transport that gives out the IDs itself releases nothing.
          exact ⟨claiming₁.holders.justified, claiming₁.registered.2, fun qmux => absurd qmux managed⟩
  refine released.attempt_bind (fun _ d' ended => ?_) fun err d' ended => ?_
  · exact Call.ensures_throw ended
  · exact Call.ensures_throw ended

/-- The state of the service is read with the own client ID. -/
theorem ensures_serviceState (claiming : Claiming client mask service own d) :
    serviceState.Ensures d (fun _ => Claiming client mask service own) (Claiming client mask service own) := by
  refine Ensures.bind ((ensures_catClient_ready claiming.version claiming.ready).mono
    (fun _ _ said => claiming.quietly said.1 said.2) fun _ said => claiming.quietly said.1 said.2) ?_
  rintro ⟨version, clientID⟩ d₁ claiming₁
  have asked := claiming₁.quietly ((Quietly.refl d₁).say (r := .getServiceState version.type clientID) trivial) rfl
  refine Ensures.bind ((ensures_wrapped (ensures_request _ d₁) _).mono (fun _ _ => And.left)
    fun d' said => said.1 ▸ asked) ?_
  rintro tlvs d₂ rfl
  refine Ensures.bind ((ensures_wrapped (ensures_resultOK tlvs _) _).mono (fun _ _ => And.left)
    fun d' same => same ▸ asked) ?_
  rintro ⟨⟩ d₃ rfl
  exact Call.ensures_pure asked

/-- The modem has just said that the client has some of the events. -/
def Answer.Shows (answer : Answer) (mask : UInt32) : Prop :=
  ∃ tlvs, answer = .response tlvs ∧ resultError tlvs = none
    ∧ (CATServiceState.unmarshalTLVs tlvs).rawClientMask &&& mask ≠ 0

/-- A candidate is skipped, or the modem says that it has some of the events. -/
theorem ensures_eventOwner (claiming : Claiming client mask service own d) (candidate : UInt8) :
    (eventOwner service own mask candidate).Ensures d
      (fun owner d' => (owner = 0 ∧ Claiming client mask service own d')
        ∨ (owner ≠ 0 ∧ owner ≠ own ∧ d' = d.say (.getServiceState service.type owner) ∧ d.answer.Shows mask))
      (Claiming client mask service own) := by
  -- Zero and the own ID are no candidates.
  refine Call.ensures_ite (fun _ => Call.ensures_pure (.inl ⟨rfl, claiming⟩)) fun other => ?_
  have asked := claiming.quietly ((Quietly.refl d).say (r := .getServiceState service.type candidate) trivial) rfl
  -- The probe shows the state of the candidate.
  have probed : (serviceStateForClient service candidate).Ensures d
      (fun state d' => d' = d.say (.getServiceState service.type candidate) ∧ ∃ tlvs, d.answer = .response tlvs
        ∧ resultError tlvs = none ∧ state = CATServiceState.unmarshalTLVs tlvs)
      (Claiming client mask service own) := by
    refine Ensures.bind ((ensures_request _ d).mono (fun _ _ => id) fun d' said => said.1 ▸ asked) ?_
    rintro tlvs d₁ ⟨rfl, answered⟩
    refine Ensures.bind ((ensures_resultOK tlvs _).mono (fun _ _ => id) fun d' same => same ▸ asked) ?_
    rintro ⟨⟩ d₂ ⟨rfl, passed⟩
    exact Call.ensures_pure ⟨rfl, tlvs, answered, passed, rfl⟩
  refine Ensures.bind probed ?_
  rintro state d₁ ⟨rfl, tlvs, answered, passed, rfl⟩
  -- A candidate without any of the events is skipped.
  refine Call.ensures_ite (fun _ => Call.ensures_pure (.inl ⟨rfl, asked⟩)) fun overlaps => ?_
  exact Call.ensures_pure (.inr ⟨fun zero => other (.inl zero), fun same => other (.inr same), rfl, tlvs, answered,
    passed, overlaps⟩)

/-- The answer to a registration says which events were refused, in a form that can be read. -/
def Answer.Readable (answer : Answer) (mask : UInt32) : Prop :=
  ∃ tlvs conflict, answer = .response tlvs ∧ rawEventConflict tlvs mask = .ok conflict

/-- A registration is made, and returns unless its answer cannot be read. -/
theorem ensures_trySetEventReport (service : CATService) (own : UInt8) (mask full : UInt32) (d : World) :
    (trySetEventReport service own mask full).Ensures d
      (fun _ d' => d' = d.say (.setEventReport service.type own mask full))
      fun d' => d' = d.say (.setEventReport service.type own mask full) ∧ ¬d.answer.Readable mask := by
  refine Ensures.bind ((ensures_wrapped (ensures_request _ d) _).mono (fun _ _ => id) ?_) ?_
  · -- Without an answer nothing can be read.
    rintro d' ⟨rfl, unanswered⟩
    refine ⟨rfl, ?_⟩
    rintro ⟨tlvs, conflict, answered, -⟩
    exact unanswered tlvs answered
  · rintro tlvs d' ⟨rfl, answered⟩
    -- An answer that cannot be read is an error.
    cases conflicts : rawEventConflict tlvs mask with
    | error err =>
      refine Call.ensures_throw ⟨rfl, ?_⟩
      rintro ⟨tlvs', conflict, answered', read⟩
      cases answered.symm.trans answered'
      exact absurd (conflicts.symm.trans read) (by simp)
    | ok conflict =>
      -- The modem has refused some of the events, or has accepted.
      cases checkEventReportRegistration tlvs mask full with
      | error err => exact Call.ensures_pure rfl
      | ok passed => exact Call.ensures_ite (fun _ => Call.ensures_pure rfl) fun _ => Call.ensures_pure rfl

/-- Another registration keeps the state of a claim. -/
theorem Claiming.report (claiming : Claiming client mask service own d) (full : UInt32) :
    Claiming client mask service own (d.say (.setEventReport service.type own mask full)) where
  transport := claiming.transport
  version := claiming.version
  ready := claiming.ready
  holders := claiming.holders.concat _ _ (by simp)
  registered := claiming.registered.concat _ _ fun number id raw full same => by
    cases same
    exact ⟨rfl, rfl⟩
  owned := fun qmux => (claiming.owned qmux).mono _

/-- Releasing a client that was shown to have some of the events keeps the state of a claim. -/
theorem Claiming.release (claiming : Claiming client mask service own d) {owner : UInt8} (nonzero : owner ≠ 0)
    (other : owner ≠ own) (shows : d.answer.Shows mask) :
    Claiming client mask service own
      ((d.say (.getServiceState service.type owner)).say (.releaseClientID service.type owner)) := by
  have asked := claiming.quietly ((Quietly.refl d).say (r := .getServiceState service.type owner) trivial) rfl
  obtain ⟨tlvs, answered, passed, overlaps⟩ := shows
  have shown : Holds mask (d.say (.getServiceState service.type owner)).log service.type owner :=
    ⟨nonzero, ⟨own, asked.registered, other⟩, d.log, tlvs, by rw [Dialogue.say_log, answered], passed, overlaps⟩
  exact {
    transport := asked.transport
    version := asked.version
    ready := asked.ready
    holders := asked.holders.concat _ _ fun number id same => by
      cases same
      exact shown
    registered := asked.registered.concat _ _ (by simp)
    owned := fun qmux => (asked.owned qmux).mono _ }

/-- The loop over the candidates releases only clients that have some of the events, and names the last of them. -/
theorem ensures_claimFrom (config : CATEventClaimConfig) (candidates : List UInt8) (claim : CATEventClaim) (d : World)
    (claiming : Claiming client config.rawMask claim.service claim.clientID d) :
    (claimFrom config claim candidates).Ensures d
      (fun claim' d' => OnlyHolders config.rawMask d'.log ∧ Registered claim'.service.type claim'.clientID d'.log
        ∧ (released d'.log).getLast? = some claim'.releasedClientID)
      (Ended client config.rawMask claim.service claim.clientID) := by
  -- The induction is on the candidates, and every call of the loop starts from a claim that goes on.
  induction candidates generalizing d with
  | nil => exact (ensures_releaseAnd claiming _).mono (fun _ _ => False.elim) fun _ => id
  | cons candidate rest ih =>
    -- A candidate whose probe fails is skipped.
    refine (ensures_eventOwner claiming candidate).attempt_bind ?_ fun err d₁ claiming₁ => ih d₁ claiming₁
    rintro owner d₁ (⟨rfl, claiming₁⟩ | ⟨nonzero, other, rfl, shows⟩)
    · exact ih d₁ claiming₁
    · refine Call.ensures_ite (fun zero => absurd zero nonzero) fun _ => ?_
      -- The owner is released, and the registration is tried again.
      have claiming₂ := claiming.release nonzero other shows
      refine (ensures_releaseServiceClientIDLocked claim.service.type_short owner _).attempt_bind ?_ ?_
      · rintro ⟨⟩ d₂ ⟨rfl, -⟩
        have claiming₃ := claiming₂.report config.fullFunctionMask
        refine (ensures_trySetEventReport claim.service claim.clientID config.rawMask config.fullFunctionMask
          _).attempt_bind ?_ ?_
        · rintro registration d₃ rfl
          cases registration with
          -- The last owner released is the one the claim names.
          | accepted =>
            refine Call.ensures_pure ⟨claiming₃.holders, claiming₃.registered, ?_⟩
            simp [released]
          -- The modem refuses still, and the next candidate is looked at.
          | rejected conflict => exact ih _ claiming₃
        · -- The claim fails with the registration.
          rintro err d₃ ⟨rfl, -⟩
          exact (ensures_releaseAnd claiming₃ _).mono (fun _ _ => False.elim) fun _ => id
      · -- The claim fails with the release.
        rintro err d₂ ⟨rfl, -⟩
        exact (ensures_releaseAnd claiming₂ _).mono (fun _ _ => False.elim) fun _ => id

end

/-- An opening registers nothing. -/
theorem Opening.no_report {d d' : World} (opening : Opening d d') (start : d.log = []) {r : Request} {answer : Answer}
    (there : (r, answer) ∈ d'.log) : ∀ service own mask full, r ≠ .setEventReport service own mask full := by
  rintro service own mask full rfl
  obtain ⟨more, said, quiet⟩ | ⟨between, ⟨more, said, quiet⟩, number, id, given, last, -⟩ := opening
  · rw [said, start, List.nil_append] at there
    exact quiet _ there
  · rw [last, said, start, List.nil_append] at there
    rcases List.mem_append.mp there with early | late
    · exact quiet _ early
    · cases List.mem_singleton.mp late

/-- A claim that has found its client ID registers with it. -/
theorem Found.report {tape : Nat → Answer} {client : Client} {service : CATService} {own : UInt8} {d : World}
    (found : Found ⟨tape, [], client⟩ service own d) (mask full : UInt32) :
    Claiming client mask service own (d.say (.setEventReport service.type own mask full)) where
  transport := found.transport
  version := found.version
  ready := found.ready
  holders := ((OnlyHolders.nil mask).quietly found.quiet).concat _ _ (by simp)
  registered := by
    refine ⟨⟨mask, full, d.answer, by simp⟩, fun other id raw full' answer there => ?_⟩
    rcases List.mem_append.mp there with early | late
    · exact absurd early (found.quiet.unregistered rfl)
    · cases List.mem_singleton.mp late
      exact ⟨rfl, rfl⟩
  owned := fun qmux => (found.own qmux).imp id fun allocated => allocated.mono _

/-- A claim of events releases only other clients that were found to have some of the events, and at the end of a call
that fails its own client ID. On success it names the client that it released last, and on an error it has tried to
release its own client ID, once the modem has answered a registration. -/
theorem force_claim_events (tape : Nat → Answer) (client : Client) (config : CATEventClaimConfig) :
    (forceClaimEvents config).Ensures ⟨tape, [], client⟩
      (fun claim d => OnlyHolders config.rawMask d.log ∧ Registered claim.service.type claim.clientID d.log
        ∧ claim.releasedClientID = (released d.log).getLast?.getD 0)
      fun d => Justified client config.rawMask d.log
        ∧ ∀ service own full answer, (.setEventReport service own config.rawMask full, answer) ∈ d.log →
          answer.Readable config.rawMask → CleanedUp service own d := by
  -- What a failed claim leaves is about the one client ID that it has registered with.
  have ended : ∀ {service : CATService} {own : UInt8} {d : World}, Ended client config.rawMask service own d →
      Justified client config.rawMask d.log
        ∧ ∀ number id full answer, (.setEventReport number id config.rawMask full, answer) ∈ d.log →
          answer.Readable config.rawMask → CleanedUp number id d := by
    refine fun failed => ⟨failed.justified, fun number id full answer there _ => ?_⟩
    obtain ⟨rfl, rfl⟩ := failed.reports _ _ _ _ _ there
    exact failed.cleanedUp
  -- A claim without events sends nothing.
  refine Call.ensures_ite (fun _ => Call.ensures_throw ⟨(OnlyHolders.nil _).justified, by simp⟩) fun _ => ?_
  refine Ensures.bind ((ensures_catClient _).mono (fun _ _ => id) fun d opening => ⟨opening.justified rfl,
    fun number id full answer there _ => absurd rfl (opening.no_report rfl there number id config.rawMask full)⟩) ?_
  rintro ⟨service, own⟩ d₁ found
  have claiming := found.report config.rawMask config.fullFunctionMask
  refine Ensures.bind ((ensures_trySetEventReport service own config.rawMask config.fullFunctionMask d₁).mono
    (fun _ _ => id) ?_) ?_
  · -- The first registration has an answer that cannot be read, and there is no other.
    rintro d₂ ⟨rfl, unreadable⟩
    refine ⟨claiming.holders.justified, fun number id full answer there readable => ?_⟩
    rcases List.mem_append.mp there with early | late
    · exact absurd early (found.quiet.unregistered rfl)
    · cases List.mem_singleton.mp late
      exact absurd readable unreadable
  · rintro registration d₂ rfl
    cases registration with
    | accepted =>
      -- Nobody had the events, and nobody was released.
      refine Call.ensures_pure ⟨claiming.holders, claiming.registered, ?_⟩
      have none : released d₁.log = [] := found.quiet.released
      have silent : released (d₁.say (.setEventReport service.type own config.rawMask config.fullFunctionMask)).log
          = [] := by
        simpa [released] using none
      rw [silent]
      rfl
    | rejected conflict =>
      -- A refusal without a conflict ends the claim.
      cases conflict with
      | false => exact (ensures_releaseAnd claiming _).mono (fun _ _ => False.elim) fun _ => ended
      | true =>
        -- With a conflict the state before is asked for, and the candidates are looked at.
        refine (ensures_serviceState claiming).attempt_bind (fun state d₃ claiming₃ => ?_) fun err d₃ claiming₃ => ?_
        · refine Call.ensures_ite (fun _ => ?_) fun _ => ?_
          · exact (ensures_releaseAnd claiming₃ _).mono (fun _ _ => False.elim) fun _ => ended
          · refine (ensures_claimFrom config _ { service := service, clientID := own, stateBefore := state } d₃
              claiming₃).mono (fun claim d₄ done => ⟨done.1, done.2.1, ?_⟩) fun _ => ended
            rw [done.2.2]
            rfl
        · exact (ensures_releaseAnd claiming₃ _).mono (fun _ _ => False.elim) fun _ => ended

/-- A modem on which the clients 1 and 2 each have one of two events. -/
def twoOwners : Nat → Answer
  | 0 | 2 => .lost
  -- A registration is refused because of another client.
  | 1 | 6 => .response [TLV.bytes 0x02 [1, 0, 3, 0], TLV.bytes 0x10 [3, 0, 0, 0]]
  | 3 => .response [TLV.bytes 0x02 [0, 0, 0, 0], TLV.bytes 0x01 [3, 0, 0, 0, 0, 0, 0, 0]]
  | 4 => .response [TLV.bytes 0x02 [0, 0, 0, 0], TLV.bytes 0x01 [3, 0, 0, 0, 1, 0, 0, 0]]
  | 7 => .response [TLV.bytes 0x02 [0, 0, 0, 0], TLV.bytes 0x01 [3, 0, 0, 0, 2, 0, 0, 0]]
  | _ => .response [TLV.bytes 0x02 [0, 0, 0, 0]]

/-- A client with an ID of the toolkit service, and nothing said yet. -/
def beforeClaim : World := ⟨twoOwners, [], { catService := some .cat2, clientIDs := (∅ : GoMap _ _).set serviceCAT2 7 }⟩

/-- Both owners are released, and the claim names the second one only. -/
theorem claim_names_second_owner_only :
    released ((forceClaimEvents { rawMask := 3 }).after beforeClaim).log = [1, 2]
      ∧ ∃ claim, (forceClaimEvents { rawMask := 3 }).outcome beforeClaim = .ok claim ∧ claim.releasedClientID = 2 := by
  refine ⟨by rfl, ?_⟩
  exact ⟨_, rfl, rfl⟩

end Wwan.Qcom.Cat
