import Wwan.Proofs.Modem.QmiProfiles

/-! What a change of the attach settings leaves on the modem, whichever of its requests fails. -/

namespace Wwan.Modem.Qmi.Profiles

open Wwan.Qcom

/-! The modem that the requests change. -/

/-- The profiles of the modem, each with what was written to it from the newest on, and the attach list. -/
structure Stored where
  profiles : GoMap UInt8 (List WDSProfileUpdate)
  attach : List UInt16

/-- What a request changes. -/
def Stored.apply (stored : Stored) : Request → Stored
  | .setAttachList profiles true => { stored with attach := profiles }
  | .create fields (some index) => { stored with profiles := stored.profiles.set index [fields] }
  | .modify index fields true =>
    { stored with profiles := stored.profiles.set index (fields :: (stored.profiles.get index).getD []) }
  | .delete index true => { stored with profiles := stored.profiles.delete index }
  | .setAttachList _ false | .create _ none | .modify _ _ false | .delete _ false => stored
  | .attachList | .read _ | .readListed _ | .startNetwork _ => stored

/-- What the requests of a call change. -/
def Stored.after (stored : Stored) (sent : List Request) : Stored := sent.foldl Stored.apply stored

/-- The fields of a request carry the attach settings that were asked for. -/
def Requested (cfg : InitialEPSConfig) (fields : WDSProfileUpdate) : Prop :=
  (fields.apn = some cfg.apn ∨ fields.apn = some (GoString.trimSpace cfg.apn))
    ∧ fields.pdpType = some (pdpTypeFromIPFamily cfg.ipFamily)
    ∧ fields.authentication.getD 0 = authenticationMask cfg.authentication
    ∧ fields.username.getD [] = cfg.username ∧ fields.password.getD [] = cfg.password
    ∧ fields.apnDisabled = some false

/-- The attach list begins with a profile that has the settings of the call, before the others in their order. -/
def Attached (cfg : InitialEPSConfig) (sent : List Request) (before : Stored) : Prop :=
  ∃ index fields older,
    (before.after sent).profiles.get index = some (fields :: older) ∧ Requested cfg fields
      -- The profile is the one that was named, or one that the call has created.
      ∧ ((cfg.profileID ≠ 0 ∧ (index.toNat : Int) = cfg.profileID.toInt)
        ∨ (cfg.profileID = 0 ∧ .create fields (some index) ∈ sent))
      ∧ (before.after sent).attach = index.toUInt16 :: before.attach.filter fun current => current ≠ index.toUInt16

/-- No profile that the requests have created is left, unless the attach list was changed or a deletion failed. -/
def Undone (sent : List Request) (before : Stored) : Prop :=
  (∀ profiles, .setAttachList profiles true ∉ sent) → (∀ index, .delete index false ∉ sent) →
    ∀ fields index, .create fields (some index) ∈ sent → (before.after sent).profiles.get index = none

/-- A change of the attach settings is made as a whole, or leaves no profile behind. -/
def Settled (a : Answers) (cfg : InitialEPSConfig) (before : Stored) : Prop :=
  ((run a (.setInitialEPS cfg)).2 = .ok () → Attached cfg (run a (.setInitialEPS cfg)).1 before)
    ∧ ∀ err, (run a (.setInitialEPS cfg)).2 = .error err → Undone (run a (.setInitialEPS cfg)).1 before

/-- The attach list that the modem reports is the one it has. -/
def Answers.Reports (a : Answers) (before : Stored) : Prop :=
  ∀ list, a.attachList = some list → list.getD [] = before.attach

/-- The modem makes a profile that the call is not told of, or that it cannot read back. -/
def Answers.Unread (a : Answers) : Prop :=
  (∃ index, a.create = .created index ∧ a.read = none) ∨ ∃ index, a.create = .failed (some index)

/-- The call sends a request for a new profile. -/
def Creates (a : Answers) (cfg : InitialEPSConfig) : Prop :=
  cfg.profileID = 0 ∧ cfg.ipFamily &&& ~~~Modem.IPFamily.ipv4v6 = 0
    ∧ (∃ list, a.attachList = some list ∧ ¬checkedProfileID cfg list > 255)
    ∧ ∃ fields, checkWDSCreateProfile (wdsConfig (initialEPSProfile cfg)) = .ok fields

/-! What is sent in each stage of the call. -/

/-- The request changes no profile and no list. -/
def Request.Inert : Request → Prop
  | .attachList | .read _ | .readListed _ => True
  | .setAttachList _ _ | .create _ _ | .modify _ _ _ | .delete _ _ | .startNetwork _ => False

/-- Requests one after the other. -/
theorem Stored.after_append (stored : Stored) (first second : List Request) :
    stored.after (first ++ second) = (stored.after first).after second := List.foldl_append

/-- Requests that only read leave the modem as it is. -/
theorem Stored.after_inert {stored : Stored} {sent : List Request} (inert : ∀ request ∈ sent, request.Inert) :
    stored.after sent = stored := by
  induction sent with
  | nil => rfl
  | cons request rest ih =>
    have unchanged : stored.apply request = stored := by
      have one := inert request List.mem_cons_self
      cases request <;> first | rfl | exact one.elim
    rw [Stored.after, List.foldl_cons, unchanged]
    exact ih fun other there => inert other (List.mem_cons_of_mem _ there)

section

variable (a : Answers)

/-- The last reads of the call change nothing. -/
theorem initialEPSSettings_inert : (initialEPSSettings a).Sends Request.Inert :=
  sends_initialEPSSettings a trivial fun _ => trivial

/-- A field that is not sent is one that was asked to be empty. -/
private theorem getD_unless_empty {α : Type} [DecidableEq α] (value empty : α) :
    (if value ≠ empty then some value else none).getD empty = value := by
  by_cases same : value = empty <;> simp [same]

/-- The fields of a created profile carry the attach settings. -/
theorem requested_create {cfg : InitialEPSConfig} {fields : WDSProfileUpdate}
    (checked : checkWDSCreateProfile (wdsConfig (initialEPSProfile cfg)) = .ok fields) : Requested cfg fields := by
  unfold checkWDSCreateProfile at checked
  obtain ⟨_, -, checked⟩ := Go.bind_eq_ok.mp checked
  obtain ⟨_, -, checked⟩ := Go.bind_eq_ok.mp checked
  obtain ⟨_, -, checked⟩ := Go.bind_eq_ok.mp checked
  obtain rfl := Except.ok.inj checked
  exact ⟨.inr rfl, rfl, getD_unless_empty _ _, getD_unless_empty _ _, getD_unless_empty _ _, rfl⟩

/-- The fields of an updated profile carry the attach settings. -/
theorem requested_update (cfg : InitialEPSConfig) : Requested cfg (wdsUpdate (initialEPSUpdate cfg)) :=
  ⟨.inl rfl, rfl, rfl, rfl, rfl, rfl⟩

/-- The profile that is named is updated and read, or the call ends without a new profile or a new list. -/
theorem prepare_update {cfg : InitialEPSConfig} (known : cfg.profileID ≠ 0) :
    (∃ err, (prepareInitialEPSProfile a cfg).2 = .error err)
      ∨ prepareInitialEPSProfile a cfg
        = ([.modify cfg.profileID.toUInt32.toUInt8 (wdsUpdate (initialEPSUpdate cfg)) true,
            .read cfg.profileID.toUInt32.toUInt8], .ok (cfg.profileID, false)) := by
  unfold prepareInitialEPSProfile
  rw [if_pos known]
  simp only [updateProfile, wdsUpdateProfile]
  rcases checkWDSUpdateProfile ⟨wdsProfileType3GPP, (initialEPSUpdate cfg).id.toUInt32.toUInt8⟩
    (wdsUpdate (initialEPSUpdate cfg)) with (err | _) | passed
  · exact .inl ⟨_, rfl⟩
  · exact .inl ⟨_, rfl⟩
  · cases a.modify with
    | failed applied => exact .inl ⟨_, rfl⟩
    | ok =>
      cases a.read with
      | none => exact .inl ⟨_, rfl⟩
      | some settings => exact .inr rfl

/-- A refused profile is not asked for. -/
theorem prepare_refused {cfg : InitialEPSConfig} (unknown : cfg.profileID = 0) {fault : Fault MessageError}
    (refused : checkWDSCreateProfile (wdsConfig (initialEPSProfile cfg)) = .error fault) :
    ∃ err, prepareInitialEPSProfile a cfg = ([], .error err) := by
  unfold prepareInitialEPSProfile createProfile wdsCreateProfileWithConfig
  rw [if_neg (not_not.mpr unknown), refused]
  cases fault <;> exact ⟨_, rfl⟩

/-- The profile is asked for, and read if the modem has answered with its index. -/
theorem prepare_create {cfg : InitialEPSConfig} (unknown : cfg.profileID = 0) {fields : WDSProfileUpdate}
    (checked : checkWDSCreateProfile (wdsConfig (initialEPSProfile cfg)) = .ok fields) :
    (∃ made err, a.create = .failed made ∧ prepareInitialEPSProfile a cfg = ([.create fields made], .error err))
      ∨ (∃ index err, a.create = .created index ∧ a.read = none
        ∧ prepareInitialEPSProfile a cfg = ([.create fields (some index), .read index], .error err))
      ∨ ∃ index, a.create = .created index ∧ a.read ≠ none
        ∧ prepareInitialEPSProfile a cfg
          = ([.create fields (some index), .read index], .ok (index.toUInt32.toInt32, true)) := by
  unfold prepareInitialEPSProfile createProfile wdsCreateProfileWithConfig
  rw [if_neg (not_not.mpr unknown), checked]
  cases a.create with
  | failed made => exact .inl ⟨made, _, rfl, rfl⟩
  | created index =>
    cases a.read with
    | none => exact .inr (.inl ⟨index, _, rfl, rfl, rfl⟩)
    | some settings => exact .inr (.inr ⟨index, rfl, by simp, rfl⟩)

/-- The list is set, or the call ends, with a created profile deleted again. -/
theorem attachProfile_cases (profileID : Int32) (created : Bool) (list : Option (List UInt16))
    (small : ¬profileID > 255) :
    attachProfile a profileID created list = ([.setAttachList (attachProfiles profileID list) true], .ok ())
      ∨ ∃ tried err, (tried = [] ∨ ∃ applied, tried = [.setAttachList (attachProfiles profileID list) applied])
        ∧ attachProfile a profileID created list
          = (tried ++ if created then [.delete profileID.toUInt32.toUInt8 a.delete.applied] else [], .error err) := by
  -- What is sent to undo the call does not depend on how the list was refused.
  have undo : ∀ tried err, wdsSetLTEAttachPDNList a (attachProfiles profileID list) = (tried, .error err) →
      ∃ joined, attachProfile a profileID created list
        = (tried ++ if created then [.delete profileID.toUInt32.toUInt8 a.delete.applied] else [], .error joined) := by
    intro tried err refused
    unfold attachProfile deleteProfile wdsDeleteProfile
    rw [refused, if_neg small]
    cases created with
    | false => exact ⟨.wrap "setting initial EPS profile list" err, by simp⟩
    | true =>
      cases a.delete with
      | ok => exact ⟨_, rfl⟩
      | failed applied => exact ⟨_, rfl⟩
  cases checked : checkWDSSetLTEAttachPDNList (attachProfiles profileID list) with
  -- The list is refused before it is sent.
  | error fault =>
    have refused : ∃ err, wdsSetLTEAttachPDNList a (attachProfiles profileID list) = ([], .error err) := by
      unfold wdsSetLTEAttachPDNList
      rw [checked]
      cases fault <;> exact ⟨_, rfl⟩
    obtain ⟨err, refused⟩ := refused
    obtain ⟨joined, same⟩ := undo _ _ refused
    exact .inr ⟨[], joined, .inl rfl, same⟩
  | ok passed =>
    -- The modem takes the list.
    cases answered : a.setAttachList with
    | ok =>
      refine .inl ?_
      unfold attachProfile wdsSetLTEAttachPDNList
      rw [checked, answered]
      rfl
    | failed applied =>
      -- The modem refuses the list.
      have refused : wdsSetLTEAttachPDNList a (attachProfiles profileID list)
          = ([.setAttachList (attachProfiles profileID list) applied], .error .failed) := by
        unfold wdsSetLTEAttachPDNList
        rw [checked, answered]
        rfl
      obtain ⟨joined, same⟩ := undo _ _ refused
      exact .inr ⟨_, joined, .inr ⟨applied, rfl⟩, same⟩

/-- The part of the call after the attach list was read and the settings were checked. -/
def settle (cfg : InitialEPSConfig) (list : Option (List UInt16)) : Call Unit :=
  (prepareInitialEPSProfile a cfg).bind fun prepared =>
    (attachProfile a prepared.1 prepared.2 list).bind fun _ =>
      (initialEPSSettings a).bind fun _ => ([], .ok ())

/-- A call that is refused, or that cannot read the attach list, sends nothing that changes the modem. -/
theorem run_setInitialEPS (cfg : InitialEPSConfig) :
    (∃ err, (run a (.setInitialEPS cfg)).2 = .error err ∧ (run a (.setInitialEPS cfg)).Sends Request.Inert
        ∧ ¬Creates a cfg)
      ∨ ∃ list, a.attachList = some list ∧ ¬cfg.profileID < 0 ∧ cfg.ipFamily &&& ~~~Modem.IPFamily.ipv4v6 = 0
        ∧ ¬checkedProfileID cfg list > 255
        ∧ run a (.setInitialEPS cfg) = Call.bind ([.attachList], .ok ()) fun _ => settle a cfg list := by
  unfold run
  by_cases negative : cfg.profileID < 0
  · -- A negative profile is refused.
    simp only [negative, ↓reduceIte]
    refine .inl ⟨_, rfl, Call.sends_fail _, fun creates => ?_⟩
    rw [creates.1] at negative
    exact absurd negative (by decide)
  · simp only [negative, ↓reduceIte]
    by_cases family : cfg.ipFamily &&& ~~~Modem.IPFamily.ipv4v6 = 0
    · simp only [family, ne_eq, not_true_eq_false, ↓reduceIte, setInitialEPSSettings]
      cases listed : a.attachList with
      -- The attach list cannot be read.
      | none =>
        refine .inl ⟨_, rfl, Call.sends_singleton trivial _, fun creates => ?_⟩
        obtain ⟨list, some, -⟩ := creates.2.2.1
        exact absurd (listed.symm.trans some) (by simp)
      | some list =>
        by_cases large : checkedProfileID cfg list > 255
        · -- The profile does not fit into one byte.
          simp only [wdsLTEAttachPDNList, Call.wrap, Call.bind, large, ↓reduceIte]
          refine .inl ⟨_, rfl, Call.sends_singleton trivial _, fun creates => ?_⟩
          obtain ⟨other, same, small⟩ := creates.2.2.1
          rw [Option.some.inj (listed.symm.trans same)] at large
          exact small large
        · -- All checks have passed, and the profile is prepared.
          refine .inr ⟨list, rfl, fun impossible => impossible, trivial, large, ?_⟩
          calc _ = Call.bind ([.attachList], .ok ()) fun _ =>
                  ((prepareInitialEPSProfile a cfg).bind fun prepared =>
                    (attachProfile a prepared.1 prepared.2 list).bind fun _ => initialEPSSettings a).bind
                      fun _ => ([], .ok ()) := by
                rw [Call.bind_assoc]
                simp only [wdsLTEAttachPDNList, Call.wrap, Call.bind, large, ↓reduceIte]
            _ = _ := by simp only [settle, Call.bind_assoc]
    · -- An address family that does not exist is refused.
      simp only [family, ne_eq, not_false_eq_true, ↓reduceIte]
      exact .inl ⟨_, rfl, Call.sends_fail _, fun creates => family creates.2.1⟩

/-- A call that ends with an error is settled when it is undone. -/
theorem settled_of_error {cfg : InitialEPSConfig} {before : Stored} {sent : List Request} {err : ProfileError}
    (called : run a (.setInitialEPS cfg) = (sent, .error err)) : Settled a cfg before ↔ Undone sent before := by
  unfold Settled
  rw [called]
  exact ⟨fun settled => settled.2 err rfl, fun undone => ⟨nofun, fun _ _ => undone⟩⟩

/-- A call that creates no profile has none to delete. -/
theorem undone_of_no_create {sent : List Request} {before : Stored}
    (none : ∀ request ∈ sent, ∀ fields made, request ≠ .create fields made) : Undone sent before :=
  fun _ _ fields index created => absurd rfl (none _ created fields (some index))

/-- A profile that the last request has made is left on the modem. -/
theorem not_undone_of_create (sent : List Request) {before : Stored} {fields : WDSProfileUpdate} {index : UInt8}
    (kept : ∀ request ∈ sent, request.Inert) :
    ¬Undone (.attachList :: .create fields (some index) :: sent) before := by
  intro undone
  -- The other requests neither set the list nor fail to delete.
  have inert : ∀ request ∈ sent, (∀ profiles, request ≠ .setAttachList profiles true)
      ∧ ∀ index, request ≠ .delete index false := by
    intro request there
    have reads := kept request there
    cases request <;> first | exact False.elim reads | exact ⟨by simp, by simp⟩
  have gone := undone
    (fun profiles there => by
      rcases List.mem_cons.mp there with same | there
      · cases same
      · rcases List.mem_cons.mp there with same | there
        · cases same
        · exact (inert _ there).1 profiles rfl)
    (fun other there => by
      rcases List.mem_cons.mp there with same | there
      · cases same
      · rcases List.mem_cons.mp there with same | there
        · cases same
        · exact (inert _ there).2 other rfl)
    fields index (by simp)
  -- The profile is there still.
  have left : (before.after (.attachList :: .create fields (some index) :: sent)).profiles.get index
      = some [fields] := by
    change ((Stored.apply before (.create fields (some index))).after sent).profiles.get index = _
    rw [Stored.after_inert kept]
    simp [Stored.apply]
  exact absurd (left.symm.trans gone) (by simp)

/-- The list that the last stage sets is the one that is left. -/
theorem after_attach {before : Stored} {prepared : List Request} {profiles : List UInt16} {reads : List Request}
    (inert : ∀ request ∈ reads, request.Inert) :
    before.after (prepared ++ .setAttachList profiles true :: reads)
      = { before.after prepared with attach := profiles } := by
  rw [Stored.after_append]
  exact Stored.after_inert inert

/-- The profile that was made ready is in front of the list, with the settings that were written to it last. -/
theorem attached_of_prepared {cfg : InitialEPSConfig} {before : Stored} {list : Option (List UInt16)}
    (reported : list.getD [] = before.attach) {prepared reads : List Request} {index : UInt8} {profileID : Int32}
    (named : profileID.toUInt32.toUInt16 = index.toUInt16) (inert : ∀ request ∈ reads, request.Inert)
    {fields : WDSProfileUpdate} {older : List WDSProfileUpdate} (requested : Requested cfg fields)
    (written : (before.after prepared).profiles.get index = some (fields :: older))
    (same : (cfg.profileID ≠ 0 ∧ (index.toNat : Int) = cfg.profileID.toInt)
      ∨ (cfg.profileID = 0 ∧ .create fields (some index) ∈ prepared)) :
    Attached cfg (prepared ++ .setAttachList (attachProfiles profileID list) true :: reads) before := by
  refine ⟨index, fields, older, ?_, requested, ?_, ?_⟩
  · rw [after_attach inert]
    exact written
  · exact same.imp id fun created => ⟨created.1, List.mem_append_left _ created.2⟩
  · rw [after_attach inert]
    simp only [attachProfiles, named, reported]

/-- A call that has set the list is settled, whatever the reads after it return. -/
theorem settled_of_attached {cfg : InitialEPSConfig} {before : Stored} (prepared : List Request)
    (profiles : List UInt16)
    (called : run a (.setInitialEPS cfg) = Call.bind (prepared, .ok ()) fun _ =>
      Call.bind ([.setAttachList profiles true], .ok ()) fun _ => (initialEPSSettings a).bind fun _ => ([], .ok ()))
    (attached : ∀ reads : List Request, (∀ request ∈ reads, request.Inert) →
      Attached cfg (prepared ++ .setAttachList profiles true :: reads) before) : Settled a cfg before := by
  have inert : ((initialEPSSettings a).bind fun _ => ([], .ok ()) : Call Unit).Sends Request.Inert :=
    (initialEPSSettings_inert a).bind fun _ _ => Call.sends_nil _
  have sent : (run a (.setInitialEPS cfg)).1 = prepared ++ .setAttachList profiles true
      :: ((initialEPSSettings a).bind fun _ => ([], .ok ()) : Call Unit).1 := by
    rw [called]
    rfl
  unfold Settled
  rw [sent]
  refine ⟨fun _ => attached _ inert, fun err _ unset => ?_⟩
  exact absurd (List.mem_append_right _ List.mem_cons_self) (unset profiles)

/-- The index of a created profile. -/
theorem created_index (index : UInt8) : index.toUInt32.toInt32.toUInt32.toUInt8 = index
    ∧ index.toUInt32.toInt32.toUInt32.toUInt16 = index.toUInt16 ∧ ¬index.toUInt32.toInt32 > 255 := by
  revert index
  apply forall_byte
  decide +kernel

/-- The entry of a named profile in the attach list. -/
theorem named_index {id : Int32} (positive : ¬id < 0) (small : ¬id > 255) :
    id.toUInt32.toUInt16 = id.toUInt32.toUInt8.toUInt16 := by
  have value := Int32.cast_toNatClampNeg id (Int32.not_lt.mp positive)
  have same := index_toNat positive small
  have wide := Int32.toNat_toUInt32_of_le (Int32.not_lt.mp positive)
  have byte := id.toUInt32.toUInt8.toNat_lt
  apply UInt16.toNat_inj.mp
  rw [UInt32.toNat_toUInt16, UInt8.toNat_toUInt16]
  omega

/-- A profile that was created and read is attached or deleted. -/
theorem settled_created {cfg : InitialEPSConfig} {before : Stored} {list : Option (List UInt16)}
    (reported : list.getD [] = before.attach) (unknown : cfg.profileID = 0)
    (called : run a (.setInitialEPS cfg) = Call.bind ([.attachList], .ok ()) fun _ => settle a cfg list)
    {fields : WDSProfileUpdate} (requested : Requested cfg fields) {index : UInt8}
    (sent : prepareInitialEPSProfile a cfg
      = ([.create fields (some index), .read index], .ok (index.toUInt32.toInt32, true))) : Settled a cfg before := by
  obtain ⟨sameIndex, sameEntry, fits⟩ := created_index index
  unfold settle at called
  rw [sent] at called
  obtain attached | ⟨tried, err, tries, refused⟩ := attachProfile_cases a index.toUInt32.toInt32 true list fits
  · -- The profile is attached.
    refine settled_of_attached a [.attachList, .create fields (some index), .read index]
      (attachProfiles index.toUInt32.toInt32 list) ?_ ?_
    · exact called.trans (by simp only [Call.bind, attached]; rfl)
    · intro reads inert
      have written : (before.after [.attachList, .create fields (some index), .read index]).profiles.get index
          = some [fields] := by
        simp [Stored.after, Stored.apply]
      exact attached_of_prepared reported sameEntry inert requested written (.inr ⟨unknown, by simp⟩)
  · -- The list was refused, and the profile is deleted again.
    have ended : run a (.setInitialEPS cfg) = ([.attachList, .create fields (some index), .read index]
        ++ (tried ++ [.delete index a.delete.applied]), .error err) := by
      rw [called]
      simp only [Call.bind, refused, sameIndex]
      rfl
    rw [settled_of_error a ended]
    -- The deletion is the last request, and the list that was tried was not set.
    intro unset deleted others made there
    have applied : a.delete.applied = true := by
      cases done : a.delete.applied with
      | true => rfl
      | false =>
        rw [done] at deleted
        exact absurd (by simp) (deleted index)
    have same : others = fields ∧ made = index := by
      rcases tries with rfl | ⟨answered, rfl⟩ <;> simpa using there
    rw [same.2, applied, ← List.append_assoc, Stored.after_append]
    simp [Stored.after, Stored.apply]

/-- A profile that is named is attached when it was updated. -/
theorem settled_named {cfg : InitialEPSConfig} {before : Stored} {list : Option (List UInt16)}
    (reported : list.getD [] = before.attach) (known : cfg.profileID ≠ 0) (positive : ¬cfg.profileID < 0)
    (small : ¬cfg.profileID > 255)
    (called : run a (.setInitialEPS cfg) = Call.bind ([.attachList], .ok ()) fun _ => settle a cfg list) :
    Settled a cfg before := by
  unfold settle at called
  obtain ⟨err, failed⟩ | updated := prepare_update a known
  · -- The update fails, and nothing was created.
    have sends : (prepareInitialEPSProfile a cfg).Sends fun request => ∀ fields made, request ≠ .create fields made :=
      sends_prepareInitialEPSProfile a (by simp) (by simp) (fun unknown => absurd unknown known)
        (fun unknown => absurd unknown known)
    have ended : run a (.setInitialEPS cfg) = ([.attachList] ++ (prepareInitialEPSProfile a cfg).1, .error err) := by
      rw [called]
      simp only [Call.bind, failed]
    rw [settled_of_error a ended]
    refine undone_of_no_create fun request there => ?_
    rcases List.mem_append.mp there with first | prepared
    · rw [List.mem_singleton.mp first]
      simp
    · exact sends request prepared
  · -- The profile is updated, and then attached or left.
    rw [updated] at called
    obtain attached | ⟨tried, err, tries, refused⟩ := attachProfile_cases a cfg.profileID false list small
    · refine settled_of_attached a
        [.attachList, .modify cfg.profileID.toUInt32.toUInt8 (wdsUpdate (initialEPSUpdate cfg)) true,
          .read cfg.profileID.toUInt32.toUInt8] (attachProfiles cfg.profileID list) ?_ ?_
      · exact called.trans (by simp only [Call.bind, attached]; rfl)
      · intro reads inert
        have written : (before.after
              [.attachList, .modify cfg.profileID.toUInt32.toUInt8 (wdsUpdate (initialEPSUpdate cfg)) true,
                .read cfg.profileID.toUInt32.toUInt8]).profiles.get cfg.profileID.toUInt32.toUInt8
            = some (wdsUpdate (initialEPSUpdate cfg)
              :: (before.profiles.get cfg.profileID.toUInt32.toUInt8).getD []) := by
          simp [Stored.after, Stored.apply]
        exact attached_of_prepared reported (named_index positive small) inert (requested_update cfg) written
          (.inl ⟨known, index_toNat positive small⟩)
    · have ended : run a (.setInitialEPS cfg)
          = ([.attachList, .modify cfg.profileID.toUInt32.toUInt8 (wdsUpdate (initialEPSUpdate cfg)) true,
            .read cfg.profileID.toUInt32.toUInt8] ++ tried, .error err) := by
        rw [called]
        simp only [Call.bind, refused]
        simp
      rw [settled_of_error a ended]
      refine undone_of_no_create fun request there => ?_
      rcases tries with rfl | ⟨answered, rfl⟩
      · simp at there
        rcases there with rfl | rfl | rfl <;> simp
      · simp at there
        rcases there with rfl | rfl | rfl | rfl <;> simp

/-- The attach settings are set as a whole or undone, unless a profile was made that the call could not read back. -/
theorem initial_eps_settled (cfg : InitialEPSConfig) (before : Stored) (reports : a.Reports before) :
    Settled a cfg before ↔ ¬(Creates a cfg ∧ a.Unread) := by
  obtain ⟨err, failed, inert, noCreate⟩ | ⟨list, listed, positive, family, small, called⟩ := run_setInitialEPS a cfg
  · -- The call is refused before anything is sent.
    have called : run a (.setInitialEPS cfg) = ((run a (.setInitialEPS cfg)).1, .error err) := by rw [← failed]
    rw [settled_of_error a called]
    refine ⟨fun _ leaks => noCreate leaks.1, fun _ => undone_of_no_create fun request there fields made same => ?_⟩
    have reads := inert request there
    rw [same] at reads
    exact reads
  · have reported := reports list listed
    -- Without a number a profile is created.
    by_cases unknown : cfg.profileID = 0
    · cases checked : checkWDSCreateProfile (wdsConfig (initialEPSProfile cfg)) with
      | error fault =>
        obtain ⟨err, refused⟩ := prepare_refused a unknown checked
        have ended : run a (.setInitialEPS cfg) = ([.attachList], .error err) := by
          rw [called, settle, refused]
          rfl
        rw [settled_of_error a ended]
        refine ⟨fun _ leaks => ?_, fun _ => undone_of_no_create (by simp)⟩
        obtain ⟨fields, passed⟩ := leaks.1.2.2.2
        exact absurd (checked.symm.trans passed) (by simp)
      | ok fields =>
        have creates : Creates a cfg := ⟨unknown, family, ⟨list, listed, small⟩, fields, checked⟩
        obtain ⟨made, err, answered, sent⟩ | ⟨index, err, answered, unread, sent⟩ | ⟨index, answered, read, sent⟩ :=
          prepare_create a unknown checked
        · -- The profile was not created, as far as the call knows.
          have ended : run a (.setInitialEPS cfg) = ([.attachList, .create fields made], .error err) := by
            rw [called, settle, sent]
            rfl
          rw [settled_of_error a ended]
          cases made with
          | none =>
            refine ⟨fun _ leaks => ?_, fun _ _ _ => by simp⟩
            obtain ⟨index, other, -⟩ | ⟨index, other⟩ := leaks.2
            · exact absurd (answered.symm.trans other) (by simp)
            · exact absurd (answered.symm.trans other) (by simp)
          | some index =>
            -- The modem has made a profile of which no answer arrived.
            refine ⟨fun undone => absurd undone (not_undone_of_create [] (by simp)), fun sound => ?_⟩
            exact absurd ⟨creates, .inr ⟨index, answered⟩⟩ sound
        · -- The created profile could not be read, and the call ends without deleting it.
          have ended : run a (.setInitialEPS cfg)
              = ([.attachList, .create fields (some index), .read index], .error err) := by
            rw [called, settle, sent]
            rfl
          rw [settled_of_error a ended]
          refine ⟨fun undone => absurd undone (not_undone_of_create [.read index] (by simp [Request.Inert])), fun sound => ?_⟩
          exact absurd ⟨creates, .inl ⟨index, answered, unread⟩⟩ sound
        · -- The profile was created and read.
          refine ⟨fun _ => ?_, fun _ => settled_created a reported unknown called (requested_create checked) sent⟩
          rintro ⟨-, ⟨other, -, unread⟩ | ⟨other, failed⟩⟩
          · exact read unread
          · exact absurd (answered.symm.trans failed) (by simp)
    · -- A named profile is updated.
      have within : ¬cfg.profileID > 255 := by
        rcases list with _ | _ | ⟨first, rest⟩ <;> simpa [checkedProfileID, unknown] using small
      exact ⟨fun _ leaks => unknown leaks.1.1, fun _ => settled_named a reported unknown positive within called⟩

end

/-- Attach settings for the access point "ims", without a profile. -/
def imsSettings : InitialEPSConfig := { apn := [105, 109, 115], ipFamily := Modem.IPFamily.ipv4v6 }

/-- A profile is created for the settings, and the modem is left as it should be. -/
theorem initial_eps_settled_ims :
    Creates obedient imsSettings ∧ Settled obedient imsSettings ⟨∅, []⟩ := by
  refine ⟨⟨rfl, by decide, ⟨some [], rfl, by decide⟩, ⟨_, rfl⟩⟩, ?_⟩
  refine (initial_eps_settled obedient imsSettings ⟨∅, []⟩ ?_).mpr ?_
  · intro list listed
    obtain rfl := Option.some.inj listed
    rfl
  · rintro ⟨-, ⟨index, -, unread⟩ | ⟨index, failed⟩⟩
    · cases unread
    · cases failed

/-- The created profile stays on the modem when it cannot be read back. -/
theorem unread_profile_is_left : ¬Settled { obedient with read := none } imsSettings ⟨∅, []⟩ := by
  intro settled
  have undone := settled.2 _ rfl
  exact not_undone_of_create [.read 5] (by simp [Request.Inert]) undone

end Wwan.Modem.Qmi.Profiles
