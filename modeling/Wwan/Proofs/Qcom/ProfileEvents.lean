import Wwan.Qcom.ProfileEvents

/-! The counts of the client and the filter of the modem agree with the watchers that live. -/

namespace Wwan.Qcom

/-- The profiles are in strictly ascending order. -/
def Ascending (profiles : List WDSProfileID) : Prop := profiles.Pairwise fun a b => a.compare b < 0

/-- The client and the modem agree with the watchers that live. -/
structure ProfileWatchers.Agrees (s : ProfileWatchers) : Prop where
  /-- A profile counts once for every watcher that names it. -/
  counts : ∀ profile, s.events.refs.count profile = s.live.countP fun profiles => profiles.contains profile
  /-- The filter of the modem has exactly the counted profiles. -/
  filtered : ∀ profile, profile ∈ s.events.modem.filter ↔ 0 < s.events.refs.count profile
  ascending : Ascending s.events.modem.filter
  /-- The modem reports changes exactly when there are profiles to report. -/
  enabled : s.events.modem.enabled = true ↔ s.events.modem.filter ≠ []

/-- The modem accepts what restores its filter after a failed acquire, and everything that a release asks for. -/
def ProfileCall.Accepted : ProfileCall → Prop
  | .acquire _ answers => answers.restore = true
  | .release _ answers => answers.clientID = true ∧ answers.configure = true ∧ answers.indicate = true

/-! Normalized lists. -/

/-- The position of a profile in the order. -/
private def WDSProfileID.rank (a : WDSProfileID) : Nat := a.type.toNat * 256 + a.index.toNat

/-- The comparison orders profiles by their positions. -/
private theorem WDSProfileID.compare_neg_iff (a b : WDSProfileID) : a.compare b < 0 ↔ a.rank < b.rank := by
  have aIndex := a.index.toNat_lt
  have bIndex := b.index.toNat_lt
  unfold WDSProfileID.compare WDSProfileID.rank
  simp only [ne_eq, ← UInt8.toNat_inj, UInt8.lt_iff_toNat_lt, gt_iff_lt]
  split_ifs <;> omega

/-- Profiles compare as equal or ascending exactly when their positions do. -/
private theorem WDSProfileID.compare_le_iff (a b : WDSProfileID) : a.compare b ≤ 0 ↔ a.rank ≤ b.rank := by
  have aIndex := a.index.toNat_lt
  have bIndex := b.index.toNat_lt
  unfold WDSProfileID.compare WDSProfileID.rank
  simp only [ne_eq, ← UInt8.toNat_inj, UInt8.lt_iff_toNat_lt, gt_iff_lt]
  split_ifs <;> omega

/-- Different profiles have different positions. -/
private theorem WDSProfileID.rank_injective {a b : WDSProfileID} (same : a.rank = b.rank) : a = b := by
  have aIndex := a.index.toNat_lt
  have bIndex := b.index.toNat_lt
  unfold WDSProfileID.rank at same
  cases a
  cases b
  simp only [WDSProfileID.mk.injEq, ← UInt8.toNat_inj] at *
  omega

/-- Ascending lists have no repetitions. -/
theorem Ascending.nodup {profiles : List WDSProfileID} (ascending : Ascending profiles) : profiles.Nodup := by
  refine ascending.imp fun {a b} below same => ?_
  rw [WDSProfileID.compare_neg_iff, same] at below
  omega

/-- Ascending lists with the same profiles are the same. -/
theorem Ascending.ext {one other : List WDSProfileID} (first : Ascending one) (second : Ascending other)
    (same : ∀ profile, profile ∈ one ↔ profile ∈ other) : one = other := by
  have permuted : one.Perm other := (List.perm_ext_iff_of_nodup first.nodup second.nodup).mpr same
  refine permuted.eq_of_pairwise ?_ first second
  intro a b _ _ below above
  rw [WDSProfileID.compare_neg_iff] at below above
  omega

/-- The map of a list has its profiles as keys, unless one of them has a type out of range. -/
private theorem unique_eq_ok_iff {profiles : List WDSProfileID} {start unique : GoMap WDSProfileID Unit} :
    profiles.foldlM (fun (unique : GoMap WDSProfileID Unit) profile =>
      if profile.type > wdsProfileTypeEPC then (Go.fail (.typeOutOfRange profile.type) : Go ProfileEventError _)
      else return unique.set profile ()) start = .ok unique →
    (∀ profile ∈ profiles, profile.type ≤ wdsProfileTypeEPC) ∧
      ∀ profile, profile ∈ unique.keys ↔ profile ∈ start.keys ∨ profile ∈ profiles := by
  induction profiles generalizing start with
  | nil =>
    intro same
    rw [← Except.ok.inj same]
    simp
  | cons first profiles ih =>
    intro folded
    rw [List.foldlM_cons, Go.bind_eq_ok] at folded
    obtain ⟨next, entered, rest⟩ := folded
    -- A type out of range ends the loop.
    split at entered
    · simp at entered
    · rename_i inRange
      obtain ⟨types, keys⟩ := ih rest
      rw [← Except.ok.inj entered] at keys
      refine ⟨by simpa using ⟨UInt8.not_lt.mp inRange, types⟩, fun profile => ?_⟩
      rw [keys, GoMap.mem_keys_iff, GoMap.mem_keys_iff, GoMap.get_set]
      -- The profile is entered once, whether or not it was there.
      by_cases same : profile = first
      · simp [same]
      · simp [same]

/-- The map of profiles with types in range can be built. -/
private theorem exists_unique {profiles : List WDSProfileID}
    (types : ∀ profile ∈ profiles, profile.type ≤ wdsProfileTypeEPC) (start : GoMap WDSProfileID Unit) :
    ∃ unique, profiles.foldlM (fun (unique : GoMap WDSProfileID Unit) profile =>
      if profile.type > wdsProfileTypeEPC then (Go.fail (.typeOutOfRange profile.type) : Go ProfileEventError _)
      else return unique.set profile ()) start = .ok unique := by
  induction profiles generalizing start with
  | nil => exact ⟨start, rfl⟩
  | cons first profiles ih =>
    have inRange := types first (by simp)
    obtain ⟨unique, folded⟩ := ih (fun profile member => types profile (by simp [member])) (start.set first ())
    refine ⟨unique, ?_⟩
    rw [List.foldlM_cons, if_neg (UInt8.not_lt.mpr inRange)]
    exact folded

/-- Sorting distinct profiles puts them in ascending order. -/
private theorem ascending_insertionSort {profiles : List WDSProfileID} (distinct : profiles.Nodup) :
    Ascending (profiles.insertionSort fun a b => a.compare b ≤ 0) := by
  have total : Std.Total fun a b : WDSProfileID => a.compare b ≤ 0 := by
    refine ⟨fun a b => ?_⟩
    simp only [WDSProfileID.compare_le_iff]
    omega
  have transitive : IsTrans WDSProfileID fun a b => a.compare b ≤ 0 := by
    refine ⟨fun a b c => ?_⟩
    simp only [WDSProfileID.compare_le_iff]
    omega
  have sorted := List.pairwise_insertionSort (fun a b : WDSProfileID => a.compare b ≤ 0) profiles
  have different := (List.perm_insertionSort (fun a b : WDSProfileID => a.compare b ≤ 0) profiles).nodup_iff.mpr distinct
  -- Profiles that compare as equal are the same, and no profile comes twice.
  refine (sorted.and different).imp fun {a b} both => ?_
  rw [WDSProfileID.compare_le_iff] at both
  rw [WDSProfileID.compare_neg_iff]
  have unequal : a.rank ≠ b.rank := fun same => both.2 (WDSProfileID.rank_injective same)
  omega

/-- A list is normalized to the ascending list of its profiles, if these are in range and not too many. -/
theorem normalize_eq_ok_iff (profiles list : List WDSProfileID) :
    normalizeWDSProfileEventList profiles = .ok list ↔
      (∀ profile ∈ profiles, profile.type ≤ wdsProfileTypeEPC) ∧ list.length ≤ wdsMaxProfileEventRegistrations ∧
        Ascending list ∧ ∀ profile, profile ∈ list ↔ profile ∈ profiles := by
  unfold normalizeWDSProfileEventList
  constructor
  · -- A normalized list has the keys of the map in order.
    intro normalized
    obtain ⟨unique, folded, rest⟩ := Go.bind_eq_ok.mp normalized
    obtain ⟨types, keys⟩ := unique_eq_ok_iff folded
    dsimp only at rest
    split at rest
    · simp at rest
    · rename_i few
      simp only [Go.pure_eq, Except.ok.injEq] at rest
      subst rest
      refine ⟨types, by simpa using few, ascending_insertionSort unique.keys_nodup, fun profile => ?_⟩
      rw [List.mem_insertionSort, keys]
      simp [GoMap.mem_keys_iff]
  · -- The map of a list in range has its profiles, and one ascending list has them all.
    rintro ⟨types, few, ascending, members⟩
    obtain ⟨unique, folded⟩ := exists_unique types ∅
    obtain ⟨-, keys⟩ := unique_eq_ok_iff folded
    have same : unique.keys.insertionSort (fun a b => a.compare b ≤ 0) = list := by
      refine (ascending_insertionSort unique.keys_nodup).ext ascending fun profile => ?_
      rw [List.mem_insertionSort, keys, members]
      simp [GoMap.mem_keys_iff]
    have length : unique.keys.length = list.length := by
      rw [← same, List.length_insertionSort]
    rw [folded, Go.ok_bind]
    dsimp only
    rw [if_neg (by omega), same]
    rfl

/-- The watched profiles are the ascending list of the counted ones, if these are in range and not too many. -/
theorem wdsProfileEventList_eq_ok_iff (refs : GoMap WDSProfileID Int) (list : List WDSProfileID) :
    wdsProfileEventList refs = .ok list ↔
      (∀ profile, 0 < refs.count profile → profile.type ≤ wdsProfileTypeEPC) ∧
        list.length ≤ wdsMaxProfileEventRegistrations ∧ Ascending list ∧
        ∀ profile, profile ∈ list ↔ 0 < refs.count profile := by
  rw [wdsProfileEventList, normalize_eq_ok_iff]
  simp only [GoMap.mem_positives]

/-- The watched profiles are a matter of the counts. -/
theorem wdsProfileEventList_congr {refs other : GoMap WDSProfileID Int} {list : List WDSProfileID}
    (same : ∀ profile, other.count profile = refs.count profile) (listed : wdsProfileEventList refs = .ok list) :
    wdsProfileEventList other = .ok list := by
  rw [wdsProfileEventList_eq_ok_iff] at listed ⊢
  simpa only [same] using listed

/-- Removing counts keeps the watched profiles in range and few enough. -/
theorem exists_wdsProfileEventList {refs fewer : GoMap WDSProfileID Int} {list : List WDSProfileID}
    (less : ∀ profile, fewer.count profile ≤ refs.count profile) (listed : wdsProfileEventList refs = .ok list) :
    ∃ shorter, wdsProfileEventList fewer = .ok shorter := by
  obtain ⟨types, few, ascending, members⟩ := (wdsProfileEventList_eq_ok_iff refs list).mp listed
  -- The remaining profiles are those of the list that are still counted.
  refine ⟨list.filter fun profile => 0 < fewer.count profile, (wdsProfileEventList_eq_ok_iff _ _).mpr ⟨?_, ?_, ?_, ?_⟩⟩
  · intro profile counted
    have := less profile
    exact types profile (by omega)
  · exact Nat.le_trans (List.length_filter_le _ _) few
  · exact ascending.sublist List.filter_sublist
  · intro profile
    rw [List.mem_filter, members, decide_eq_true_eq]
    have := less profile
    omega

/-- A request with watched profiles is encoded as it is. -/
theorem configure_of_listed {refs : GoMap WDSProfileID Int} {list : List WDSProfileID}
    (listed : wdsProfileEventList refs = .ok list) (modem : ProfileModem) (accepts : Bool) :
    modem.configureWDSProfileEvents list accepts =
      if accepts then ({ modem with filter := list }, .ok ()) else (modem, Go.fail .request) := by
  obtain ⟨types, few, ascending, members⟩ := (wdsProfileEventList_eq_ok_iff refs list).mp listed
  have normal : normalizeWDSProfileEventList list = .ok list := by
    refine (normalize_eq_ok_iff list list).mpr ⟨?_, few, ascending, fun _ => Iff.rfl⟩
    intro profile member
    exact types profile ((members profile).mp member)
  rw [ProfileModem.configureWDSProfileEvents, normal]

/-- Nothing is watched exactly when nothing is counted. -/
theorem listed_eq_nil_iff {refs : GoMap WDSProfileID Int} {list : List WDSProfileID}
    (listed : wdsProfileEventList refs = .ok list) : list = [] ↔ ∀ profile, ¬ 0 < refs.count profile := by
  obtain ⟨-, -, -, members⟩ := (wdsProfileEventList_eq_ok_iff refs list).mp listed
  rw [List.eq_nil_iff_forall_not_mem]
  simp only [members]

/-! One call. -/

/-- The modem watches the counted profiles, and reports their changes if there are any. -/
structure ProfileEvents.Consistent (c : ProfileEvents) : Prop where
  listed : wdsProfileEventList c.refs = .ok c.modem.filter
  enabled : c.modem.enabled = true ↔ c.modem.filter ≠ []

/-- Rolling back restores every count. -/
theorem count_rolledBack (refs : GoMap WDSProfileID Int) {profiles : List WDSProfileID} (distinct : profiles.Nodup)
    (profile : WDSProfileID) :
    (profiles.foldl GoMap.decr (profiles.foldl GoMap.incr refs)).count profile = refs.count profile := by
  rw [GoMap.count_foldl_decr _ distinct, GoMap.count_foldl_incr _ distinct]
  omega

/-- An acquire that fails leaves every count as it was. -/
theorem ProfileEvents.count_acquire_of_error {c : ProfileEvents} {profiles : List WDSProfileID} (distinct : profiles.Nodup)
    {answers : AcquireAnswers} {fault : Fault ProfileEventError}
    (failed : (c.acquireWDSProfileEvents profiles answers).2 = .error fault) (profile : WDSProfileID) :
    (c.acquireWDSProfileEvents profiles answers).1.refs.count profile = c.refs.count profile := by
  have rolledBack := count_rolledBack c.refs distinct profile
  unfold ProfileEvents.acquireWDSProfileEvents at failed ⊢
  -- Every exit with an error either precedes the counting or rolls it back.
  cases oldList : wdsProfileEventList c.refs with
  -- The counts of before cannot be listed, so nothing has been counted.
  | error fault => rfl
  | ok old =>
    simp only [oldList] at failed ⊢
    -- The new counts cannot be listed.
    cases newList : wdsProfileEventList (profiles.foldl GoMap.incr c.refs) with
    | error fault => exact rolledBack
    | ok new =>
      simp only [newList] at failed ⊢
      split at failed
      · simp at failed
      · rename_i changed
        rw [if_neg changed]
        -- The filter is not accepted.
        rcases configured : c.modem.configureWDSProfileEvents new answers.configure with ⟨modem, _ | _⟩
        · exact rolledBack
        · simp only [configured] at failed ⊢
          split at failed
          · rename_i first
            rw [if_pos first]
            -- The indications are not switched on.
            rcases indicated : modem.setWDSProfileChangeIndication true answers.indicate with ⟨modem, _ | _⟩
            · exact rolledBack
            · simp [indicated] at failed
          · simp at failed

/-- What an acquire does to a consistent client whose modem restores its filter when asked to. -/
theorem ProfileEvents.Consistent.acquire_cases {c : ProfileEvents} (consistent : c.Consistent)
    {profiles : List WDSProfileID} (distinct : profiles.Nodup) {answers : AcquireAnswers}
    (restores : answers.restore = true) :
    (∃ modem, c.acquireWDSProfileEvents profiles answers =
        ({ refs := profiles.foldl GoMap.incr c.refs, modem }, .ok ()) ∧
      ProfileEvents.Consistent { refs := profiles.foldl GoMap.incr c.refs, modem }) ∨
    (∃ refs fault, c.acquireWDSProfileEvents profiles answers = ({ refs, modem := c.modem }, .error fault) ∧
      ∀ profile, refs.count profile = c.refs.count profile) := by
  obtain ⟨listed, enabled⟩ := consistent
  have rolledBack := count_rolledBack c.refs distinct
  unfold ProfileEvents.acquireWDSProfileEvents
  simp only [listed]
  cases newList : wdsProfileEventList (profiles.foldl GoMap.incr c.refs) with
  | error fault => exact .inr ⟨_, fault, rfl, rolledBack⟩
  | ok new =>
    dsimp only
    -- The filter does not change, so the modem is not asked.
    by_cases same : c.modem.filter = new
    · rw [if_pos same]
      exact .inl ⟨c.modem, rfl, newList.trans (congrArg _ same.symm), enabled⟩
    · -- The filter is set first, and the indications are switched on with the first profile.
      rw [if_neg same, configure_of_listed newList]
      cases answers.configure with
      | false => exact .inr ⟨_, _, rfl, rolledBack⟩
      | true =>
        simp only [if_true]
        by_cases first : c.modem.filter = []
        · rw [if_pos (by simp [first])]
          cases answers.indicate with
          | false =>
            -- The filter is restored, and nothing else has changed.
            refine .inr ⟨_, .err .request, ?_, rolledBack⟩
            simp only [ProfileModem.setWDSProfileChangeIndication, Bool.false_eq_true, if_false, Go.fail,
              configure_of_listed listed, restores, if_true]
          | true =>
            refine .inl ⟨_, rfl, newList, ?_⟩
            simpa using fun empty => same (first.trans empty.symm)
        · rw [if_neg (by simpa using first)]
          refine .inl ⟨_, rfl, newList, ?_⟩
          -- A profile that was watched before is still counted.
          simp only [enabled.mpr first, true_iff]
          rw [ne_eq, listed_eq_nil_iff newList]
          intro nothing
          refine first ((listed_eq_nil_iff listed).mpr fun profile => ?_)
          have := nothing profile
          rw [GoMap.count_foldl_incr _ distinct] at this
          split at this <;> omega

/-- What a release does to a consistent client whose modem accepts its requests. -/
theorem ProfileEvents.Consistent.release {c : ProfileEvents} (consistent : c.Consistent)
    {profiles : List WDSProfileID} (distinct : profiles.Nodup) (counted : ∀ profile ∈ profiles, 0 < c.refs.count profile)
    {answers : ReleaseAnswers} (accepted : (ProfileCall.release profiles answers).Accepted) :
    (c.releaseWDSProfileEvents profiles answers).refs = profiles.foldl GoMap.drop c.refs ∧
      (c.releaseWDSProfileEvents profiles answers).Consistent := by
  obtain ⟨listed, enabled⟩ := consistent
  obtain ⟨client, configures, indicates⟩ := accepted
  -- No profile is counted more often than before.
  have less (profile : WDSProfileID) : (profiles.foldl GoMap.drop c.refs).count profile ≤ c.refs.count profile := by
    rw [GoMap.count_foldl_drop _ distinct counted]
    split <;> omega
  obtain ⟨new, newList⟩ := exists_wdsProfileEventList less listed
  unfold ProfileEvents.releaseWDSProfileEvents
  simp only [listed, newList, client, Bool.true_eq_false, or_false]
  -- The filter does not change.
  by_cases same : c.modem.filter = new
  · rw [if_pos same]
    exact ⟨rfl, newList.trans (congrArg _ same.symm), enabled⟩
  · rw [if_neg same, configure_of_listed newList, configures]
    simp only [if_true]
    -- With the last profile the indications are switched off.
    by_cases last : new = []
    · rw [if_pos (by simp [last])]
      simp only [ProfileModem.setWDSProfileChangeIndication, indicates, if_true]
      exact ⟨trivial, newList, by simp [last]⟩
    · rw [if_neg (by simpa using last)]
      refine ⟨rfl, newList, ?_⟩
      -- What is still watched was watched before, so the modem reports already.
      have before : c.modem.filter ≠ [] := by
        rw [ne_eq, listed_eq_nil_iff listed]
        intro nothing
        refine last ((listed_eq_nil_iff newList).mpr fun profile => ?_)
        have := nothing profile
        have := less profile
        omega
      simp [enabled.mpr before, last]

/-! All runs. -/

/-- What holds of the watchers between their calls. -/
structure ProfileWatchers.Sound (s : ProfileWatchers) : Prop where
  counts : ∀ profile, s.events.refs.count profile = s.live.countP fun profiles => profiles.contains profile
  consistent : s.events.Consistent
  distinct : ∀ profiles ∈ s.live, profiles.Nodup

/-- A normalized list has no repetitions. -/
theorem nodup_of_normalize {given profiles : List WDSProfileID}
    (normalized : normalizeWDSProfileEventList given = .ok profiles) : profiles.Nodup :=
  ((normalize_eq_ok_iff given profiles).mp normalized).2.2.1.nodup

/-- Every call keeps the counts, the filter and the indications in agreement. -/
theorem ProfileWatchers.Sound.step {s s' : ProfileWatchers} (sound : s.Sound) {call : ProfileCall}
    (accepted : call.Accepted) (stepped : s.step call = some s') : s'.Sound := by
  obtain ⟨counts, consistent, distinct⟩ := sound
  cases call with
  | acquire given answers =>
    unfold ProfileWatchers.step at stepped
    -- Profiles that cannot be normalized are refused.
    cases normalized : normalizeWDSProfileEventList given with
    | error fault => simp [normalized] at stepped
    | ok profiles =>
      have fresh := nodup_of_normalize normalized
      simp only [normalized] at stepped
      rcases consistent.acquire_cases fresh accepted with ⟨modem, acquired, kept⟩ | ⟨refs, fault, acquired, same⟩
      · -- The new watcher counts once in each of its profiles.
        simp only [acquired, Option.some.injEq] at stepped
        subst stepped
        refine ⟨fun profile => ?_, kept, ?_⟩
        · rw [GoMap.count_foldl_incr _ fresh, counts, List.countP_cons]
          simp only [List.contains_iff_mem]
          split <;> simp
        · intro watched member
          rcases List.mem_cons.mp member with rfl | earlier
          · exact fresh
          · exact distinct watched earlier
      · -- A failed call has rolled its counts back.
        simp only [acquired, Option.some.injEq] at stepped
        subst stepped
        refine ⟨fun profile => (same profile).trans (counts profile), ⟨?_, consistent.enabled⟩, distinct⟩
        exact wdsProfileEventList_congr same consistent.listed
  | release profiles answers =>
    simp only [ProfileWatchers.step] at stepped
    split at stepped
    · rename_i member
      simp only [Option.some.injEq] at stepped
      subst stepped
      have fresh := distinct profiles member
      -- Each of its profiles is counted, by this watcher at least.
      have counted : ∀ profile ∈ profiles, 0 < s.events.refs.count profile := by
        intro profile inside
        have named : 0 < s.live.countP fun profiles => profiles.contains profile :=
          List.countP_pos_iff.mpr ⟨profiles, member, by simpa using inside⟩
        rw [counts]
        omega
      obtain ⟨refs, kept⟩ := consistent.release fresh counted accepted
      refine ⟨fun profile => ?_, kept, fun watched inside => distinct watched (List.mem_of_mem_erase inside)⟩
      show (s.events.releaseWDSProfileEvents profiles answers).refs.count profile = _
      rw [refs, GoMap.count_foldl_drop _ fresh counted, counts]
      -- The watcher that ends no longer counts in its profiles.
      have split := (List.perm_cons_erase member).countP_eq fun watched => watched.contains profile
      rw [List.countP_cons] at split
      rw [split]
      simp only [List.contains_iff_mem]
      split_ifs <;> simp
    · simp at stepped

/--
In every run whose restores and releases are accepted, counts, filter and indications agree with the live watchers.

A failing acquire leaves every count as it was.
-/
theorem profileWatchers_agree {trace : List (ProfileWatchers × ProfileCall)} {s : ProfileWatchers}
    (run : profileWatchers.Runs trace s) (accepted : ∀ step ∈ trace, step.2.Accepted) :
    s.Agrees ∧ ∀ before state given answers after, trace = before ++ (state, .acquire given answers) :: after →
      ∀ profiles fault, normalizeWDSProfileEventList given = .ok profiles →
        (state.events.acquireWDSProfileEvents profiles answers).2 = .error fault →
        ∀ profile, (state.events.acquireWDSProfileEvents profiles answers).1.refs.count profile =
          state.events.refs.count profile := by
  constructor
  · have sound : (∀ step ∈ trace, step.2.Accepted) → s.Sound := by
      refine Machine.Runs.invariant (P := fun trace s => (∀ step ∈ trace, step.2.Accepted) → s.Sound) ?_ ?_ run
      · intro _
        refine ⟨fun profile => GoMap.count_empty profile, ⟨rfl, by simp [profileWatchers]⟩, by simp [profileWatchers]⟩
      · intro trace s call s' _ ih stepped all
        have earlier := ih fun step member => all step (by simp [member])
        exact earlier.step (all (s, call) (by simp)) stepped
    obtain ⟨counts, consistent, -⟩ := sound accepted
    obtain ⟨-, -, ascending, members⟩ := (wdsProfileEventList_eq_ok_iff _ _).mp consistent.listed
    exact ⟨counts, members, ascending, consistent.enabled⟩
  · intro before state given answers after _ profiles fault normalized failed
    exact ProfileEvents.count_acquire_of_error (nodup_of_normalize normalized) failed

/-- A watcher starts, the registration of a second one fails, a third one starts, and the first one ends. -/
def profileCalls : List ProfileCall :=
  [.acquire [⟨0, 2⟩, ⟨0, 1⟩, ⟨0, 2⟩] ⟨true, true, true⟩, .acquire [⟨2, 7⟩] ⟨false, true, true⟩,
    .acquire [⟨0, 2⟩] ⟨true, true, true⟩, .release [⟨0, 1⟩, ⟨0, 2⟩] ⟨true, true, true⟩]

/-- After these calls the modem watches the profile of the one watcher that is left. -/
theorem profileCalls_agree : ∃ trace s, profileWatchers.Runs trace s ∧ (∀ step ∈ trace, step.2.Accepted) ∧
    s.live = [[⟨0, 2⟩]] ∧ s.events.modem = { filter := [⟨0, 2⟩], enabled := true } ∧ s.Agrees := by
  have glance : (profileWatchers.runFrom profileWatchers.init profileCalls).map
      (fun run => (run.1.map Prod.snd, run.2.live, run.2.events.modem)) =
      some (profileCalls, [[⟨0, 2⟩]], { filter := [⟨0, 2⟩], enabled := true }) := by decide +kernel
  obtain ⟨trace, s, run, -, seen⟩ := Machine.exists_runs glance
  simp only [Prod.mk.injEq] at seen
  have accepted : ∀ step ∈ trace, step.2.Accepted := by
    intro step member
    have called : step.2 ∈ profileCalls := seen.1 ▸ List.mem_map_of_mem member
    simp only [profileCalls, List.mem_cons, List.not_mem_nil, or_false] at called
    rcases called with call | call | call | call <;> simp [call, ProfileCall.Accepted]
  exact ⟨trace, s, run, accepted, seen.2.1, seen.2.2, (profileWatchers_agree run accepted).1⟩

end Wwan.Qcom
