import Wwan.Modem.MbimProfiles

/-! The profile that `CreateProfile` returns, and when it is the one that was created. -/

namespace Wwan.Modem.Mbim.Profiles

open Wwan.Mbim

/-- A table of contexts in which one can be told from another by its ID, and searched for by its strings. -/
structure Table (C : Type) where
  contextID : C → UInt32
  accessString : C → GoString
  userName : C → GoString

/-- The contexts of the first version. -/
def tableV1 : Table ProvisionedContext := ⟨(·.contextID), (·.accessString), (·.userName)⟩

/-- The contexts of the second version. -/
def tableV2 : Table ProvisionedContextV2 := ⟨(·.contextID), (·.accessString), (·.userName)⟩

variable {C : Type}

/-- The context has the strings that are requested. -/
def Table.Matches (table : Table C) (cfg : ProfileConfig) (context : C) : Prop :=
  table.accessString context = cfg.apn ∧ table.userName context = cfg.username

instance (table : Table C) (cfg : ProfileConfig) : DecidablePred (table.Matches cfg) := fun _ => instDecidableAnd

/-- A context with the requested strings stands in front of the new one. -/
def Table.Shadowed (table : Table C) (cfg : ProfileConfig) (fresh : UInt32) (answer : List C) : Prop :=
  ∃ context ∈ answer.takeWhile (fun context => table.contextID context ≠ fresh), table.Matches cfg context

/-- The answer holds the contexts that were there and the new one, in any order. -/
structure Table.Adds (table : Table C) (existing answer : List C) (new : C) : Prop where
  all : answer.Perm (new :: existing)
  fresh : ∀ context ∈ existing, table.contextID context ≠ table.contextID new

/-- The answer is split at the new context, with the others around it. -/
theorem Table.Adds.split {table : Table C} {existing answer : List C} {new : C} (adds : table.Adds existing answer new) :
    ∃ before after, answer = before ++ new :: after
      ∧ (∀ context ∈ before, context ∈ existing)
      ∧ answer.takeWhile (fun context => table.contextID context ≠ table.contextID new) = before := by
  -- The context that was added is one of those in the answer.
  have there : new ∈ answer := adds.all.mem_iff.mpr List.mem_cons_self
  obtain ⟨before, after, rfl⟩ := List.append_of_mem there
  have others : (before ++ after).Perm existing := (List.perm_middle.symm.trans adds.all).cons_inv
  have old : ∀ context ∈ before, context ∈ existing := fun context front =>
    others.mem_iff.mp (List.mem_append_left after front)
  refine ⟨before, after, rfl, old, ?_⟩
  rw [List.takeWhile_append_of_pos (fun context front => by simpa using adds.fresh context (old context front)),
    List.takeWhile_cons_of_neg (by simp), List.append_nil]

/-- The first context with the requested strings is the new one unless another stands in front of it. -/
theorem Table.Adds.find_iff {table : Table C} {cfg : ProfileConfig} {existing answer : List C} {new found : C}
    (adds : table.Adds existing answer new) (named : table.Matches cfg new)
    (search : answer.find? (fun context => table.Matches cfg context) = some found) :
    table.contextID found = table.contextID new ↔ ¬table.Shadowed cfg (table.contextID new) answer := by
  obtain ⟨before, after, rfl, old, front⟩ := adds.split
  rw [Table.Shadowed, front]
  rw [List.find?_append] at search
  cases earlier : before.find? (fun context => table.Matches cfg context) with
  | none =>
    -- Nothing in front matches, so the new context is found.
    rw [earlier, Option.none_or, List.find?_cons_of_pos (by simpa using named), Option.some.injEq] at search
    rw [List.find?_eq_none] at earlier
    rw [← search]
    refine iff_of_true rfl ?_
    rintro ⟨context, there, matching⟩
    exact earlier context there (by simpa using matching)
  | some first =>
    -- The context that matches in front is one that was there.
    rw [earlier, Option.some_or, Option.some.injEq] at search
    subst search
    have there := List.mem_of_find?_eq_some earlier
    have matching := List.find?_some earlier
    refine iff_of_false (adds.fresh first (old first there)) (not_not.mpr ⟨first, there, by simpa using matching⟩)

/-- Profile IDs are the same when the context IDs are. -/
theorem toInt32_inj {a b : UInt32} : a.toInt32 = b.toInt32 ↔ a = b :=
  ⟨fun same => by simpa using congrArg Int32.toUInt32 same, congrArg UInt32.toInt32⟩

/-- The profile of the context that is found has the fresh ID, and no other, unless the new context is shadowed. -/
theorem Table.Adds.profile_iff {table : Table C} {cfg : ProfileConfig} {existing answer : List C} {new found : C}
    (adds : table.Adds existing answer new) (named : table.Matches cfg new)
    (search : answer.find? (fun context => table.Matches cfg context) = some found) :
    ((table.contextID found).toInt32 = (table.contextID new).toInt32
        ∧ ∀ id ∈ existing.map table.contextID, (table.contextID found).toInt32 ≠ id.toInt32)
      ↔ ¬table.Shadowed cfg (table.contextID new) answer := by
  rw [← adds.find_iff named search, toInt32_inj]
  refine ⟨And.left, fun same => ⟨same, ?_⟩⟩
  intro id listed
  obtain ⟨context, there, rfl⟩ := List.mem_map.mp listed
  rw [same, Ne, toInt32_inj]
  exact Ne.symm (adds.fresh context there)

/-- The modem adds one context with a fresh ID and the requested values, whichever command it accepts. -/
structure Client.Adds (client : Client) (cfg : ProfileConfig) (fresh : UInt32) (version : UInt16)
    (existingV2 : List ProvisionedContextV2) (existing : List ProvisionedContext) : Prop where
  v2 : ∀ answer, client.setProvisionedContextV2 (profileV2Config newContextID cfg) = .ok answer →
    tableV2.Adds existingV2 answer { profileV2Config fresh cfg with mbimExVersion := version }
  v1 : ∀ answer, client.setProvisionedContext (profileV1Config newContextID cfg) = .ok answer →
    tableV1.Adds existing answer (profileV1Config fresh cfg)

/-- In the modem's answer a context with the requested strings stands in front of the new one. -/
def Client.Shadowed (client : Client) (cfg : ProfileConfig) (fresh : UInt32) : Prop :=
  match client.setProvisionedContextV2 (profileV2Config newContextID cfg),
    client.setProvisionedContext (profileV1Config newContextID cfg) with
  | .ok answer, _ => tableV2.Shadowed cfg fresh answer
  | .error _, .ok answer => tableV1.Shadowed cfg fresh answer
  | .error _, .error _ => False

/-- The contexts that the modem had before it answered. -/
def Client.existingIDs (client : Client) (cfg : ProfileConfig) (existingV2 : List ProvisionedContextV2)
    (existing : List ProvisionedContext) : List UInt32 :=
  match client.setProvisionedContextV2 (profileV2Config newContextID cfg) with
  | .ok _ => existingV2.map (·.contextID)
  | .error _ => existing.map (·.contextID)

/--
A created profile has the fresh ID, and not the ID of a context that was there before, exactly when no context with the
requested strings stands in front of the new one.
-/
theorem create_profile_fresh (client : Client) (cfg : ProfileConfig) (fresh : UInt32) (version : UInt16)
    (existingV2 : List ProvisionedContextV2) (existing : List ProvisionedContext) (profile : Profile)
    (adds : client.Adds cfg fresh version existingV2 existing) (created : createProfile client cfg = .ok profile) :
    (profile.id = fresh.toInt32 ∧ ∀ id ∈ client.existingIDs cfg existingV2 existing, profile.id ≠ id.toInt32)
      ↔ ¬client.Shadowed cfg fresh := by
  unfold createProfile at created
  unfold Client.Shadowed Client.existingIDs
  cases v2 : client.setProvisionedContextV2 (profileV2Config newContextID cfg) with
  | ok answer =>
    rw [v2] at created
    cases search : answer.find? fun current => current.accessString = cfg.apn ∧ current.userName = cfg.username with
    | none => simp only [search, reduceCtorEq] at created
    | some found =>
      simp only [search, Except.ok.injEq] at created
      subst created
      exact (adds.v2 answer v2).profile_iff ⟨rfl, rfl⟩ search
  | error v2Err =>
    rw [v2] at created
    cases v1 : client.setProvisionedContext (profileV1Config newContextID cfg) with
    | error err => simp only [v1, reduceCtorEq] at created
    | ok answer =>
      simp only [v1] at created
      cases search : answer.find? fun current => current.accessString = cfg.apn ∧ current.userName = cfg.username with
      | none => simp only [search, reduceCtorEq] at created
      | some found =>
        simp only [search, Except.ok.injEq] at created
        subst created
        exact (adds.v1 answer v1).profile_iff ⟨rfl, rfl⟩ search

/-- The profile to create in what follows, without a user name. -/
def plainConfig : ProfileConfig where
  apn := [0x61]
  ipFamily := IPFamily.ipv4
  authentication := Authentication.none
  username := []
  password := []
  apnType := APNType.default
  enabled := true

/-- A modem that has a context with the same strings, and answers with the contexts in one order or the other. -/
def answering (order : List ProvisionedContextV2 → List ProvisionedContextV2) : Client where
  setProvisionedContextV2 request := .ok (order [profileV2Config 1 plainConfig, { request with contextID := 2 }])
  setProvisionedContext _ := .error (.format "not supported" [])

/-- That modem adds a context with the fresh ID 2. -/
theorem answering_adds {order : List ProvisionedContextV2 → List ProvisionedContextV2} (kept : ∀ l, (order l).Perm l) :
    (answering order).Adds plainConfig 2 0 [profileV2Config 1 plainConfig] [] where
  v2 answer answered := by
    rw [← Except.ok.inj answered]
    exact ⟨(kept _).trans (List.Perm.swap _ _ _), by decide⟩
  v1 answer answered := by cases answered

/-- The new profile is returned when it stands in front. -/
theorem create_profile_fresh_front :
    (2 : Int32) = (2 : UInt32).toInt32
        ∧ (∀ id ∈ (answering List.reverse).existingIDs plainConfig [profileV2Config 1 plainConfig] [],
          (2 : Int32) ≠ id.toInt32)
      ↔ ¬(answering List.reverse).Shadowed plainConfig 2 :=
  create_profile_fresh (answering List.reverse) plainConfig 2 0 [profileV2Config 1 plainConfig] []
    (profileFromV2 (profileV2Config 2 plainConfig)) (answering_adds List.reverse_perm) rfl

/-- The profile that was there before is returned when it stands in front. -/
theorem create_profile_returns_old :
    (answering id).Adds plainConfig 2 0 [profileV2Config 1 plainConfig] []
      ∧ createProfile (answering id) plainConfig = .ok (profileFromV2 (profileV2Config 1 plainConfig))
      ∧ (profileFromV2 (profileV2Config 1 plainConfig)).id = (1 : UInt32).toInt32
      ∧ (1 : UInt32) ∈ (answering id).existingIDs plainConfig [profileV2Config 1 plainConfig] [] :=
  ⟨answering_adds List.Perm.refl, rfl, rfl, List.mem_singleton.mpr rfl⟩

end Wwan.Modem.Mbim.Profiles
