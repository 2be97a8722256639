import Wwan.Modem.QmiProfiles

/-! Which profiles the requests of a call address, and what the call leaves on the modem. -/

namespace Wwan.Modem.Qmi.Profiles

open Wwan.Qcom

/-! What a call sends. -/

/-- Everything that the call sends has a property. -/
def Call.Sends {α : Type} (call : Call α) (P : Request → Prop) : Prop := ∀ request ∈ call.1, P request

namespace Call

variable {α β : Type} {P : Request → Prop}

/-- What the first call sends, and what the next sends after a value. -/
theorem Sends.bind {call : Call α} {next : α → Call β} (first : call.Sends P)
    (rest : ∀ value, call.2 = .ok value → (next value).Sends P) : (call.bind next).Sends P := by
  unfold Call.bind
  cases returned : call.2 with
  | ok value =>
    -- The next call is made.
    intro request sent
    rcases List.mem_append.mp sent with early | late
    · exact first request early
    · exact rest value returned request late
  -- The next call is not made.
  | error err => exact first

/-- A failed check sends nothing. -/
theorem sends_fail (err : ProfileError) : (Call.fail err : Call α).Sends P := by
  intro request sent
  cases sent

/-- A check sends nothing. -/
theorem sends_check (checked : Go MessageError α) : (Call.check checked).Sends P := by
  rcases checked with (err | _) | value <;> exact fun request sent => absurd sent List.not_mem_nil

/-- A context changes nothing that is sent. -/
theorem Sends.wrap {call : Call α} (sends : call.Sends P) (context : String) : (call.wrap context).Sends P := by
  unfold Call.wrap
  cases call.2 <;> exact sends

/-- A call that sends nothing. -/
theorem sends_nil (result : Except ProfileError α) : Call.Sends ([], result) P := by
  intro request sent
  cases sent

/-- A call that sends one request. -/
theorem sends_singleton {request : Request} (holds : P request) (result : Except ProfileError α) :
    Call.Sends ([request], result) P := by
  intro other sent
  rw [List.mem_singleton.mp sent]
  exact holds

/-- Two calls in sequence return a value when both do. -/
theorem bind_ok {call : Call α} {next : α → Call β} {result : β} (returned : (call.bind next).2 = .ok result) :
    ∃ value, call.2 = .ok value ∧ (next value).2 = .ok result := by
  unfold Call.bind at returned
  cases first : call.2 with
  | ok value =>
    rw [first] at returned
    exact ⟨value, rfl, returned⟩
  | error err =>
    rw [first] at returned
    cases returned

/-- Calls in sequence, grouped either way. -/
theorem bind_assoc {γ : Type} (call : Call α) (next : α → Call β) (last : β → Call γ) :
    (call.bind next).bind last = call.bind fun value => (next value).bind last := by
  obtain ⟨sent, err | value⟩ := call
  · rfl
  · unfold Call.bind
    cases returned : (next value).2 <;> simp [returned]

/-- A context keeps the value of a call. -/
theorem wrap_ok {call : Call α} {context : String} {value : α} (returned : (call.wrap context).2 = .ok value) :
    call.2 = .ok value := by
  unfold Call.wrap at returned
  cases first : call.2 with
  | ok other =>
    rw [first] at returned
    exact first.symm.trans returned
  | error err =>
    rw [first] at returned
    cases returned

end Call

/-! The index of a profile ID. -/

/-- An ID that fits a byte is sent as it is. -/
theorem index_toNat {id : Int32} (positive : ¬id < 0) (small : ¬id > 255) :
    (id.toUInt32.toUInt8.toNat : Int) = id.toInt := by
  -- The ID is one of the numbers that a byte holds.
  have nonneg : 0 ≤ id := Int32.not_lt.mp positive
  have upper : id.toInt ≤ (255 : Int32).toInt := by
    rw [← Int32.le_iff_toInt_le]
    exact Int32.not_lt.mp small
  have value := Int32.cast_toNatClampNeg id nonneg
  have limit : (255 : Int32).toInt = 255 := by decide
  rw [UInt32.toNat_toUInt8, Int32.toNat_toUInt32_of_le nonneg]
  omega

/-- An ID that does not fit a byte is not sent as it is. -/
theorem index_ne {id : Int32} (large : id > 255) : (id.toUInt32.toUInt8.toNat : Int) ≠ id.toInt := by
  have lower : (255 : Int32).toInt < id.toInt := Int32.lt_iff_toInt_lt.mp large
  have limit : (255 : Int32).toInt = 255 := by decide
  have byte := id.toUInt32.toUInt8.toNat_lt
  omega

/-! The profiles that a call addresses. -/

/-- A request that modifies, deletes, reads or connects a profile does so with the profile of a given ID. -/
def Addresses (id : Int) : Request → Prop
  | .modify index _ _ | .delete index _ | .read index | .startNetwork (some index) => (index.toNat : Int) = id
  -- A connection that names no profile is one for the ID zero, which callers give for none.
  | .startNetwork none => id = 0
  | .attachList | .setAttachList _ _ | .create _ _ | .readListed _ => True

/-- The ID of the profile that an operation is about, which for attach settings may be one that it creates. -/
def Operation.target (a : Answers) : Operation → Int
  | .update change => change.id.toInt
  | .delete id => id.toInt
  | .connect profileID _ => profileID.toInt
  | .setInitialEPS cfg => if cfg.profileID = 0 then (a.create.made.getD 0).toNat else cfg.profileID.toInt

/-- Every request that an operation sends for its profile carries the ID of the profile. -/
def Addressed (a : Answers) (op : Operation) : Prop := (run a op).Sends (Addresses (op.target a))

/-- The update passes every check that is made before a request is sent. -/
def Accepted (update : ProfileUpdate) : Prop :=
  update.apnType.any (fun apnType => apnType &&& ~~~apnTypeAny ≠ 0) = false
    ∧ checkWDSUpdateProfile ⟨wdsProfileType3GPP, update.id.toUInt32.toUInt8⟩ (wdsUpdate update) = .ok ()

/-- An update of a profile whose ID does not fit the index of a request. -/
def Operation.Truncated : Operation → Prop
  | .update change => change.id > 255 ∧ Accepted change
  | .delete _ | .connect _ _ | .setInitialEPS _ => False

section

variable (a : Answers) {P : Request → Prop}

/-- The settings of a profile are read under its index. -/
theorem sends_wdsProfileSettings {request : UInt8 → Request} {id : WDSProfileID} (holds : P (request id.index))
    (answer : Option WDSProfileSettings) : (wdsProfileSettings request answer id).Sends P := by
  cases answer <;> exact Call.sends_singleton holds _

/-- An update sends requests with the index of the profile. -/
theorem sends_updateProfile {update : ProfileUpdate}
    (modify : ∀ fields applied, P (.modify update.id.toUInt32.toUInt8 fields applied))
    (read : P (.read update.id.toUInt32.toUInt8)) : (updateProfile a update).Sends P := by
  refine Call.Sends.bind ?_ fun _ _ => ?_
  · refine Call.Sends.bind (Call.sends_check _) fun _ _ => ?_
    cases a.modify <;> exact Call.sends_singleton (modify _ _) _
  · exact ((sends_wdsProfileSettings read _).wrap _).bind fun settings _ => Call.sends_nil _

/-- An update that passes the checks sends a request to modify the profile with that index. -/
theorem updateProfile_modifies {update : ProfileUpdate} (accepted : Accepted update) :
    ∃ fields applied, .modify update.id.toUInt32.toUInt8 fields applied ∈ (updateProfile a update).1 := by
  refine ⟨wdsUpdate update, a.modify.applied, ?_⟩
  simp only [updateProfile, wdsUpdateProfile, accepted.2]
  cases a.modify with
  | ok =>
    simp [Call.bind, Call.check, Outcome.applied]
  | failed applied =>
    simp [Call.bind, Call.check, Outcome.applied]

/-- A deletion sends a request with the index of the profile. -/
theorem sends_deleteProfile {id : Int32} (delete : ¬id > 255 → ∀ applied, P (.delete id.toUInt32.toUInt8 applied)) :
    (deleteProfile a id).Sends P := by
  unfold deleteProfile
  split
  · exact Call.sends_fail _
  · rename_i small
    unfold wdsDeleteProfile
    cases a.delete <;> exact Call.sends_singleton (delete small _) _

/-- The sessions of a connection are all started with the same index. -/
theorem sends_openSessions {profileID : Int32} (start : P (.startNetwork (startIndex profileID))) (opened count : Nat) :
    (openSessions a profileID opened count).Sends P := by
  -- Induction on the sessions that are left to open.
  induction count generalizing opened with
  | zero => exact Call.sends_nil _
  | succ count ih =>
    unfold openSessions
    cases a.opens opened with
    | notStarted => exact Call.sends_fail _
    | failed => exact Call.sends_singleton start _
    -- The session is open, and the next one follows.
    | opened => exact (Call.sends_singleton start _).bind fun _ _ => ih (opened + 1)

/-- A profile that was created has the index that the modem has answered with. -/
theorem created_of_ok {cfg : WDSProfileConfig} {id : WDSProfileID}
    (returned : (wdsCreateProfileWithConfig a cfg).2 = .ok id) : a.create = .created id.index := by
  -- The index is the modem's, whatever the fields were.
  obtain ⟨fields, -, answered⟩ := Call.bind_ok returned
  cases created : a.create with
  | created index =>
    rw [created] at answered
    obtain rfl := Except.ok.inj answered
    rfl
  | failed made =>
    rw [created] at answered
    cases answered

/-- Creating a profile sends a request for it, and reads it under the index it was given. -/
theorem sends_createProfile {cfg : ProfileConfig} (create : ∀ fields made, P (.create fields made))
    (read : ∀ index, a.create = .created index → P (.read index)) : (createProfile a cfg).Sends P := by
  refine Call.Sends.bind ?_ fun id returned => ?_
  · refine Call.Sends.bind (Call.sends_check _) fun _ _ => ?_
    cases a.create <;> exact Call.sends_singleton (create _ _) _
  · refine ((sends_wdsProfileSettings ?_ _).wrap _).bind fun settings _ => Call.sends_nil _
    exact read id.index (created_of_ok a returned)

/-- A created profile is returned under the index that the modem has answered with. -/
theorem createProfile_ok {cfg : ProfileConfig} {profile : Profile} (returned : (createProfile a cfg).2 = .ok profile) :
    ∃ index, a.create = .created index ∧ profile.id = index.toUInt32.toInt32 := by
  obtain ⟨id, created, rest⟩ := Call.bind_ok returned
  obtain ⟨settings, answered, built⟩ := Call.bind_ok rest
  -- The profile is read back under that index.
  refine ⟨id.index, created_of_ok a created, ?_⟩
  obtain rfl := Except.ok.inj built
  have read := Call.wrap_ok answered
  unfold wdsProfileSettings at read
  cases found : a.read with
  | none =>
    rw [found] at read
    cases read
  | some answer =>
    rw [found] at read
    obtain rfl := Except.ok.inj read
    rfl

/-- The profile of the attach settings is the one that is asked for, or the one that was created. -/
theorem prepareInitialEPSProfile_ok {cfg : InitialEPSConfig} {profileID : Int32} {created : Bool}
    (returned : (prepareInitialEPSProfile a cfg).2 = .ok (profileID, created)) :
    (cfg.profileID ≠ 0 ∧ profileID = cfg.profileID ∧ created = false)
      ∨ (cfg.profileID = 0 ∧ created = true ∧ ∃ index, a.create = .created index ∧ profileID = index.toUInt32.toInt32) := by
  unfold prepareInitialEPSProfile at returned
  by_cases known : cfg.profileID ≠ 0
  · -- The profile is modified.
    rw [if_pos known] at returned
    obtain ⟨profile, -, same⟩ := Call.bind_ok returned
    obtain ⟨rfl, rfl⟩ := Prod.mk.inj (Except.ok.inj same)
    exact .inl ⟨known, rfl, rfl⟩
  · -- The profile is made.
    rw [if_neg known] at returned
    obtain ⟨profile, made, same⟩ := Call.bind_ok returned
    obtain ⟨rfl, rfl⟩ := Prod.mk.inj (Except.ok.inj same)
    exact .inr ⟨not_not.mp known, rfl, createProfile_ok a (Call.wrap_ok made)⟩

/-- Preparing the profile of the attach settings modifies it, or makes and reads a new one. -/
theorem sends_prepareInitialEPSProfile {cfg : InitialEPSConfig}
    (modify : cfg.profileID ≠ 0 → ∀ fields applied, P (.modify cfg.profileID.toUInt32.toUInt8 fields applied))
    (read : cfg.profileID ≠ 0 → P (.read cfg.profileID.toUInt32.toUInt8))
    (create : cfg.profileID = 0 → ∀ fields made, P (.create fields made))
    (readCreated : cfg.profileID = 0 → ∀ index, a.create = .created index → P (.read index)) :
    (prepareInitialEPSProfile a cfg).Sends P := by
  unfold prepareInitialEPSProfile
  by_cases known : cfg.profileID ≠ 0
  · -- A known profile is modified and read.
    rw [if_pos known]
    have updates : (updateProfile a (initialEPSUpdate cfg)).Sends P :=
      sends_updateProfile a (modify known) (read known)
    exact (updates.wrap _).bind fun _ _ => Call.sends_nil _
  · -- A new one is created and read.
    rw [if_neg known]
    have creates : (createProfile a (initialEPSProfile cfg)).Sends P :=
      sends_createProfile a (create (not_not.mp known)) (readCreated (not_not.mp known))
    exact (creates.wrap _).bind fun _ _ => Call.sends_nil _

/-- Putting a profile in front of the attach list deletes no profile but a created one. -/
theorem sends_attachProfile {profileID : Int32} {created : Bool} {list : Option (List UInt16)}
    (set : ∀ profiles applied, P (.setAttachList profiles applied))
    (delete : created = true → ∀ applied, P (.delete profileID.toUInt32.toUInt8 applied)) :
    (attachProfile a profileID created list).Sends P := by
  -- Setting the list is one request.
  have sets : (wdsSetLTEAttachPDNList a (attachProfiles profileID list)).Sends P := by
    refine Call.Sends.bind (Call.sends_check _) fun _ _ => ?_
    cases a.setAttachList <;> exact Call.sends_singleton (set _ _) _
  unfold attachProfile
  rcases called : wdsSetLTEAttachPDNList a (attachProfiles profileID list) with ⟨sent, err | ⟨⟩⟩
  · -- The list is refused, and a created profile is deleted again.
    rw [called] at sets
    cases created with
    | false => exact sets
    | true =>
      have deletes : (deleteProfile a profileID).Sends P := sends_deleteProfile a fun _ => delete rfl
      rcases undone : deleteProfile a profileID with ⟨more, second | ⟨⟩⟩
      all_goals
        rw [undone] at deletes
        simp only [↓reduceIte]
        intro request there
        rcases List.mem_append.mp there with early | late
        · exact sets request early
        · exact deletes request late
  · rw [called] at sets
    exact sets

/-- The attach list is read, and then its first profile. -/
theorem sends_initialEPSSettings (list : P .attachList) (listed : ∀ index, P (.readListed index)) :
    (initialEPSSettings a).Sends P := by
  refine Call.Sends.bind ?_ fun current _ => ?_
  · -- The list is always asked for.
    cases a.attachListAfter <;> exact Call.sends_singleton list _
  · -- An empty list has no profile to read.
    rcases current with _ | _ | ⟨first, rest⟩
    · cases a.bearer <;> exact Call.sends_nil _
    · cases a.bearer <;> exact Call.sends_nil _
    · simp only []
      -- The index of the first profile must fit a byte.
      split
      · exact Call.sends_fail _
      · exact ((sends_wdsProfileSettings (listed _) _).wrap _).bind fun _ _ => Call.sends_nil _

/-- The attach settings address the profile that they name, or the one that is created for them. -/
theorem addressed_setInitialEPS {cfg : InitialEPSConfig} (positive : ¬cfg.profileID < 0) :
    (setInitialEPSSettings a cfg).Sends (Addresses (Operation.target a (.setInitialEPS cfg))) := by
  refine Call.Sends.bind (Call.Sends.wrap ?_ _) fun list _ => ?_
  · -- The attach list is read first.
    cases a.attachList <;> exact Call.sends_singleton trivial _
  · split
    · exact Call.sends_fail _
    · rename_i small
      -- An ID that is named fits a byte, since it is the one that was checked.
      have fits : cfg.profileID ≠ 0 → (cfg.profileID.toUInt32.toUInt8.toNat : Int)
          = Operation.target a (.setInitialEPS cfg) := by
        intro known
        have checked : checkedProfileID cfg list = cfg.profileID := by
          rcases list with _ | _ | ⟨first, rest⟩ <;> simp [checkedProfileID, known]
        rw [checked] at small
        rw [Operation.target, if_neg known]
        exact index_toNat positive small
      -- A created profile has the index that the modem has answered.
      have fresh : cfg.profileID = 0 → ∀ index, a.create = .created index →
          (index.toNat : Int) = Operation.target a (.setInitialEPS cfg) := by
        intro unknown index created
        simp [Operation.target, unknown, created, CreateOutcome.made]
      refine Call.Sends.bind ?_ fun prepared returned => Call.Sends.bind ?_ fun _ _ => ?_
      · exact sends_prepareInitialEPSProfile a (fun known _ _ => fits known) fits (fun _ _ _ => trivial) fresh
      · -- A profile that is deleted again is the created one.
        refine sends_attachProfile a (fun _ _ => trivial) fun created applied => ?_
        obtain ⟨profileID, made⟩ := prepared
        obtain ⟨-, -, old⟩ | ⟨unknown, -, index, answered, same⟩ := prepareInitialEPSProfile_ok a returned
        · exact absurd (created.symm.trans old) (by decide)
        · have exact' := fresh unknown index answered
          simpa [Addresses, same] using exact'
      · exact sends_initialEPSSettings a trivial fun _ => trivial

/-- An update addresses its profile when the ID fits a byte. -/
theorem addressed_update {update : ProfileUpdate} (positive : ¬update.id < 0) (small : ¬update.id > 255) :
    (updateProfile a update).Sends (Addresses update.id.toInt) :=
  sends_updateProfile a (fun _ _ => index_toNat positive small) (index_toNat positive small)

/-- An update that fails a check sends nothing. -/
theorem sends_update_refused {update : ProfileUpdate} {err : Fault MessageError}
    (refused : checkWDSUpdateProfile ⟨wdsProfileType3GPP, update.id.toUInt32.toUInt8⟩ (wdsUpdate update) = .error err) :
    (updateProfile a update).Sends P := by
  have checked : (Call.check (.error err : Go MessageError Unit)).1 = []
      ∧ ∀ value, (Call.check (.error err : Go MessageError Unit)).2 ≠ .ok value := by
    cases err <;> simp [Call.check, Call.fail]
  refine Call.Sends.bind ?_ fun _ returned => ?_
  · -- The check fails before the request.
    rw [wdsUpdateProfile, refused]
    exact Call.Sends.bind (Call.sends_check _) fun value passed => absurd passed (checked.2 value)
  · -- So that no profile is read either.
    rw [wdsUpdateProfile, refused] at returned
    obtain ⟨value, passed, -⟩ := Call.bind_ok returned
    exact absurd passed (checked.2 value)

/-- A connection addresses its profile, and names none for the ID zero. -/
theorem addressed_start {profileID : Int32} (positive : ¬profileID < 0) (small : ¬profileID > 255) :
    Addresses profileID.toInt (.startNetwork (startIndex profileID)) := by
  have same := index_toNat positive small
  unfold startIndex
  by_cases named : profileID.toUInt32.toUInt8 ≠ 0
  · simpa [named, Addresses] using same
  · rw [not_not.mp named] at same
    simpa [named, Addresses] using same.symm

/-- Every operation addresses the profile that it is about, but for an update of an ID that does not fit. -/
theorem profile_addressing (op : Operation) : Addressed a op ↔ ¬op.Truncated := by
  unfold Addressed
  cases op with
  | update change =>
    unfold run
    by_cases negative : change.id < 0
    · -- A negative ID is refused, and it is not above the range of the indexes.
      have notLarge : ¬change.id > 255 := by
        intro large
        exact Int32.lt_irrefl (Int32.lt_trans negative (Int32.lt_trans (by decide) large))
      simp only [negative, ↓reduceIte]
      exact ⟨fun _ truncated => notLarge truncated.1, fun _ => Call.sends_fail _⟩
    · simp only [negative, ↓reduceIte]
      split
      · -- An address family that does not exist is refused.
        rename_i invalid
        refine ⟨fun _ truncated => ?_, fun _ => Call.sends_fail _⟩
        exact absurd (invalid.symm.trans truncated.2.1) (by decide)
      · rename_i valid
        constructor
        · -- The request to modify the profile carries an index, which is at most 255.
          intro sends truncated
          obtain ⟨fields, applied, sent⟩ := updateProfile_modifies a truncated.2
          refine index_ne truncated.1 (sends (.modify _ fields applied) ?_)
          unfold Call.bind
          cases (updateProfile a change).2 with
          | ok profile => exact List.mem_append_left _ sent
          | error err => exact sent
        · -- The update is of an ID that fits, or fails a check.
          intro notTruncated
          refine Call.Sends.bind ?_ fun _ _ => Call.sends_nil _
          by_cases large : change.id > 255
          · -- An update of an ID that does not fit fails one of the checks of the client.
            cases checked : checkWDSUpdateProfile ⟨wdsProfileType3GPP, change.id.toUInt32.toUInt8⟩ (wdsUpdate change) with
            | error err => exact sends_update_refused a checked
            | ok passed =>
              exact absurd ⟨large, Bool.eq_false_iff.mpr valid, checked⟩ notTruncated
          · exact addressed_update a negative large
  | delete profileID =>
    -- The other operations check the range before they send.
    refine ⟨fun _ => id, fun _ => ?_⟩
    unfold run
    by_cases negative : profileID < 0
    · simp only [negative, ↓reduceIte]
      exact Call.sends_fail _
    · simp only [negative, ↓reduceIte]
      exact sends_deleteProfile a fun small _ => index_toNat negative small
  -- A connection checks the ID before its first session.
  | connect profileID ipFamily =>
    refine ⟨fun _ => id, fun _ => ?_⟩
    unfold run
    by_cases negative : profileID < 0
    · simp only [negative, ↓reduceIte]
      exact Call.sends_fail _
    · simp only [negative, ↓reduceIte]
      split
      · exact Call.sends_fail _
      · unfold connectPort
        by_cases large : profileID > 255
        · simp only [large, ↓reduceIte]
          exact Call.sends_fail _
        · simp only [large, ↓reduceIte]
          split
          · exact Call.sends_fail _
          · exact sends_openSessions a (addressed_start negative large) _ _
  -- The attach settings check it before the profile is prepared.
  | setInitialEPS cfg =>
    refine ⟨fun _ => id, fun _ => ?_⟩
    unfold run
    by_cases negative : cfg.profileID < 0
    · simp only [negative, ↓reduceIte]
      exact Call.sends_fail _
    · simp only [negative, ↓reduceIte]
      split
      · exact Call.sends_fail _
      · exact (addressed_setInitialEPS a negative).bind fun _ _ => Call.sends_nil _

end

/-- A modem that does what it is asked, with an empty attach list, and that makes profiles under the index 5. -/
def obedient : Answers where
  attachList := some (some [])
  create := .created 5
  modify := .ok
  read := some { id := ⟨wdsProfileType3GPP, 5⟩ }
  setAttachList := .ok
  delete := .ok
  attachListAfter := some none
  readListed := none
  bearer := some {}
  link := true
  opens := fun _ => .opened

/-- Enabling the profile 257 modifies the profile 1. -/
theorem update_modifies_another_profile : ¬Addressed obedient (.update { id := 257, enabled := some true }) := by
  intro sends
  have sent : Addresses 257 (.modify 1 (wdsUpdate { id := 257, enabled := some true }) true) :=
    sends _ (List.mem_cons_self)
  exact absurd (show (1 : Int) = 257 from sent) (by decide)

end Wwan.Modem.Qmi.Profiles
