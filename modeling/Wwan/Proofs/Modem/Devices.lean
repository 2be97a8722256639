import Wwan.Modem.Devices

/-! The events of a device watch rebuild what each rescan found. -/

namespace Wwan.Modem

/-- The modem an event is about. -/
def DeviceEvent.device : DeviceEvent → Device
  | .present device | .added device | .removed device | .changed device => device

/-- The key of the modem an event is about. -/
def DeviceEvent.key (event : DeviceEvent) : GoString := physicalDeviceKey event.device

/-- What a consumer makes of an event. -/
def applyEvent (view : GoMap GoString Device) (event : DeviceEvent) : GoMap GoString Device :=
  match event with
  | .removed _ => view.delete event.key
  | .present device | .added device | .changed device => view.set event.key device

/-- What a consumer makes of a sequence of events. -/
def replay (view : GoMap GoString Device) (events : List DeviceEvent) : GoMap GoString Device :=
  events.foldl applyEvent view

/-- New modems are absent from the view, and removed or changed ones are in it. -/
def Applies (view : GoMap GoString Device) (event : DeviceEvent) : Prop :=
  match event with
  | .present _ | .added _ => view.get event.key = none
  | .removed _ | .changed _ => ∃ device, view.get event.key = some device

/-- Every event applies to the view it arrives at. -/
def Legal (view : GoMap GoString Device) : List DeviceEvent → Prop
  | [] => True
  | event :: rest => Applies view event ∧ Legal (applyEvent view event) rest

/-- The view holds exactly the modems of a list. -/
def Shows (view : GoMap GoString Device) (devices : List Device) : Prop :=
  ∀ key device, view.get key = some device ↔ device ∈ devices ∧ physicalDeviceKey device = key

/-- Events apply one group after the other. -/
theorem legal_append {view : GoMap GoString Device} {first second : List DeviceEvent} :
    Legal view (first ++ second) ↔ Legal view first ∧ Legal (replay view first) second := by
  induction first generalizing view with
  | nil => simp [Legal, replay]
  | cons event rest ih => simp [Legal, replay, ih, and_assoc]

/-- Views are rebuilt one group after the other. -/
theorem replay_append (view : GoMap GoString Device) (first second : List DeviceEvent) :
    replay view (first ++ second) = replay (replay view first) second :=
  List.foldl_append

/-- Nothing about a modem has changed exactly when it is the same. -/
theorem sameDevice_iff {a b : Device} : sameDevice a b = true ↔ a = b := by
  cases a
  cases b
  simp [sameDevice, and_assoc]

/-- One more modem is found under its own key. -/
theorem get_foldl_devices (devices : List Device) (start : GoMap GoString Device) (key : GoString)
    (device : Device) (distinct : (devices.map physicalDeviceKey).Nodup) :
    (devices.foldl (fun result device => result.set (physicalDeviceKey device) device) start).get key =
        some device ↔
      (device ∈ devices ∧ physicalDeviceKey device = key) ∨
        (key ∉ devices.map physicalDeviceKey ∧ start.get key = some device) := by
  -- The induction is on the modems, which are put in one by one.
  induction devices generalizing start with
  | nil => simp
  | cons first rest ih =>
    rw [List.map_cons, List.nodup_cons] at distinct
    rw [List.foldl_cons, ih _ distinct.2, GoMap.get_set]
    by_cases same : key = physicalDeviceKey first
    · -- The rest has other keys, so the first stays.
      subst same
      have others : ¬ (device ∈ rest ∧ physicalDeviceKey device = physicalDeviceKey first) := by
        rintro ⟨member, equal⟩
        exact distinct.1 (equal ▸ List.mem_map_of_mem member)
      constructor
      · rintro (found | ⟨-, found⟩)
        · exact absurd found others
        · rw [if_pos rfl, Option.some.injEq] at found
          exact .inl ⟨by simp [found], by rw [found]⟩
      · rintro (⟨member, equal⟩ | ⟨absent, -⟩)
        · rcases List.mem_cons.mp member with rfl | inside
          · exact .inr ⟨distinct.1, by simp⟩
          · exact absurd ⟨inside, equal⟩ others
        · simp at absent
    · -- Under another key the first is not found.
      simp only [if_neg same, List.map_cons, List.mem_cons, not_or]
      constructor
      · rintro (⟨inside, equal⟩ | ⟨absent, found⟩)
        · exact .inl ⟨.inr inside, equal⟩
        · exact .inr ⟨⟨same, absent⟩, found⟩
      · rintro (⟨rfl | inside, equal⟩ | ⟨⟨-, absent⟩, found⟩)
        · exact absurd equal.symm same
        · exact .inl ⟨inside, equal⟩
        · exact .inr ⟨absent, found⟩

/-- Modems with distinct keys are found under their keys. -/
theorem devicesByKey_shows {devices : List Device} (distinct : (devices.map physicalDeviceKey).Nodup) :
    Shows (devicesByKey devices) devices := by
  intro key device
  rw [devicesByKey, get_foldl_devices devices ∅ key device distinct]
  simp

/-- Maps that show the same modems find the same. -/
theorem Shows.get_eq {one other : GoMap GoString Device} {devices : List Device} (first : Shows one devices)
    (second : Shows other devices) (key : GoString) : one.get key = other.get key := by
  refine Option.ext fun device => ?_
  rw [first key device, second key device]

/-- A modem that is shown is under its own key. -/
theorem Shows.key {view : GoMap GoString Device} {devices : List Device} (shows : Shows view devices)
    {key : GoString} {device : Device} (found : view.get key = some device) : physicalDeviceKey device = key :=
  ((shows key device).mp found).2

section Diff

variable {current next : GoMap GoString Device} {before after : List Device} (shown : Shows current before)
  (found : Shows next after) (again : List GoString)
include shown found

/-- The events of a key are about modems with that key. -/
theorem keyEvents_key {key : GoString} {event : DeviceEvent}
    (member : event ∈ keyEvents (current.get key) (next.get key) (again.contains key)) : event.key = key := by
  unfold keyEvents at member
  split at member
  · -- A modem has appeared.
    rename_i afterDevice _ there
    rw [List.mem_singleton.mp member]
    exact found.key there
  · -- A modem has gone.
    rename_i beforeDevice there _
    rw [List.mem_singleton.mp member]
    exact shown.key there
  · -- A modem is still there, and has reconnected, changed or stayed.
    rename_i beforeDevice afterDevice was is
    split at member
    · simp only [List.mem_cons, List.not_mem_nil, or_false] at member
      rcases member with rfl | rfl
      · exact shown.key was
      · exact found.key is
    · split at member
      · rw [List.mem_singleton.mp member]
        exact found.key is
      · cases member
  · cases member

/-- The events of a key apply where the view has what was there before, and leave what is there after. -/
theorem keyEvents_replay {view : GoMap GoString Device} {key : GoString} (same : view.get key = current.get key) :
    Legal view (keyEvents (current.get key) (next.get key) (again.contains key)) ∧
      ∀ other, (replay view (keyEvents (current.get key) (next.get key) (again.contains key))).get other =
        if other = key then next.get key else view.get other := by
  cases was : current.get key with
  | none =>
    cases is : next.get key with
    | none =>
      -- Nothing was there and nothing is.
      refine ⟨trivial, fun other => ?_⟩
      simp only [keyEvents, replay, List.foldl_nil]
      split
      · rename_i equal
        rw [equal, same, was]
      · rfl
    | some device =>
      -- A modem is added where there was none.
      have named := found.key is
      refine ⟨⟨?_, trivial⟩, fun other => ?_⟩
      · show view.get (physicalDeviceKey device) = none
        rw [named, same, was]
      · simp [keyEvents, replay, applyEvent, DeviceEvent.key, DeviceEvent.device, named, GoMap.get_set]
  | some old =>
    have keyed := shown.key was
    have there : ∃ device, view.get (physicalDeviceKey old) = some device := ⟨old, by rw [keyed, same, was]⟩
    cases is : next.get key with
    | none =>
      -- The modem is removed.
      refine ⟨⟨there, trivial⟩, fun other => ?_⟩
      simp [keyEvents, replay, applyEvent, DeviceEvent.key, DeviceEvent.device, keyed, GoMap.get_delete]
    | some device =>
      have named := found.key is
      by_cases reconnect : again.contains key = true
      · -- A reconnected modem is removed and added again.
        simp only [keyEvents, reconnect, if_true]
        refine ⟨⟨there, ?_, trivial⟩, fun other => ?_⟩
        · simp [Applies, applyEvent, DeviceEvent.key, DeviceEvent.device, keyed, named]
        · simp only [replay, applyEvent, DeviceEvent.key, DeviceEvent.device, keyed, named, List.foldl_cons,
            List.foldl_nil, GoMap.get_set, GoMap.get_delete]
          split
          · rfl
          · rfl
      · simp only [keyEvents, reconnect]
        by_cases equal : sameDevice old device = true
        · -- Without a change there is no event, and the view is right already.
          have unchanged := sameDevice_iff.mp equal
          simp only [equal, Bool.not_true]
          refine ⟨trivial, fun other => ?_⟩
          show view.get other = if other = key then some device else view.get other
          split
          · rename_i here
            rw [here, same, was, unchanged]
          · rfl
        · -- A changed modem is put in the place of the old one.
          simp only [equal]
          refine ⟨⟨?_, trivial⟩, fun other => ?_⟩
          · exact ⟨old, by rw [DeviceEvent.key, DeviceEvent.device, named, same, was]⟩
          · simp [replay, applyEvent, DeviceEvent.key, DeviceEvent.device, named, GoMap.get_set]

/-- The events of distinct keys lead from what was there to what is there. -/
theorem flatMap_replay {keys : List GoString} (distinct : keys.Nodup) {view : GoMap GoString Device}
    (same : ∀ key ∈ keys, view.get key = current.get key) :
    Legal view (keys.flatMap fun key => keyEvents (current.get key) (next.get key) (again.contains key)) ∧
      ∀ other, (replay view (keys.flatMap fun key =>
        keyEvents (current.get key) (next.get key) (again.contains key))).get other =
          if other ∈ keys then next.get other else view.get other := by
  -- The induction is on the keys, each of which changes its own place of the view.
  induction keys generalizing view with
  | nil => exact ⟨trivial, fun other => by simp [replay]⟩
  | cons key rest ih =>
    rw [List.nodup_cons] at distinct
    obtain ⟨legal, replayed⟩ := keyEvents_replay shown found again (same key List.mem_cons_self)
    -- The events of the first key leave the others as they were.
    have kept : ∀ other ∈ rest, (replay view
        (keyEvents (current.get key) (next.get key) (again.contains key))).get other = current.get other := by
      intro other inside
      have different : other ≠ key := fun equal => distinct.1 (equal ▸ inside)
      rw [replayed, if_neg different]
      exact same other (List.mem_cons_of_mem _ inside)
    obtain ⟨legal', replayed'⟩ := ih distinct.2 kept
    rw [List.flatMap_cons]
    refine ⟨legal_append.mpr ⟨legal, legal'⟩, fun other => ?_⟩
    rw [replay_append, replayed', replayed]
    by_cases first : other = key
    · subst first
      simp [distinct.1]
    · simp [first]

omit shown found in
/-- Each key occurs once among the keys of both maps. -/
theorem unionKeys_nodup :
    (GoString.sorted (current.keys ++ next.keys.filter fun key => key ∉ current.keys)).Nodup := by
  rw [(GoString.sorted_perm _).nodup_iff, List.nodup_append]
  refine ⟨current.keys_nodup, next.keys_nodup.filter _, ?_⟩
  intro key inside other outside same
  subst same
  simp only [List.mem_filter, decide_eq_true_eq] at outside
  exact outside.2 inside

omit shown found in
/-- The keys of both maps are the keys of either. -/
theorem mem_unionKeys (key : GoString) :
    key ∈ GoString.sorted (current.keys ++ next.keys.filter fun key => key ∉ current.keys) ↔
      (∃ device, current.get key = some device) ∨ ∃ device, next.get key = some device := by
  rw [(GoString.sorted_perm _).mem_iff, List.mem_append, List.mem_filter, ← GoMap.mem_keys_iff,
    ← GoMap.mem_keys_iff]
  simp only [decide_eq_true_eq]
  tauto

/-- The events of a diff lead from one view to the next. -/
theorem diffDevices_replay {view : GoMap GoString Device} (same : ∀ key, view.get key = current.get key) :
    Legal view (diffDevices current next again) ∧
      ∀ key, (replay view (diffDevices current next again)).get key = next.get key := by
  obtain ⟨legal, replayed⟩ := flatMap_replay shown found again unionKeys_nodup
    (fun key _ => same key)
  refine ⟨legal, fun key => ?_⟩
  rw [diffDevices, replayed]
  split
  · rfl
  · -- A key of neither map is absent before and after.
    rename_i absent
    rw [mem_unionKeys, not_or] at absent
    rw [same, Option.eq_none_iff_forall_ne_some.mpr fun device there => absent.1 ⟨device, there⟩,
      Option.eq_none_iff_forall_ne_some.mpr fun device there => absent.2 ⟨device, there⟩]

/-- The events of a diff that are about one key. -/
theorem diffDevices_filter (key : GoString) :
    (diffDevices current next again).filter (fun event => event.key = key) =
      keyEvents (current.get key) (next.get key) (again.contains key) := by
  -- The events of a key pass its own filter and no other.
  have own (other : GoString) :
      (keyEvents (current.get other) (next.get other) (again.contains other)).filter (fun event => event.key = key) =
        if other = key then keyEvents (current.get other) (next.get other) (again.contains other) else [] := by
    split
    · rename_i same
      rw [List.filter_eq_self]
      intro event member
      simpa using (keyEvents_key shown found again member).trans same
    · rename_i different
      rw [List.filter_eq_nil_iff]
      intro event member
      simpa [keyEvents_key shown found again member] using different
  have general (keys : List GoString) (distinct : keys.Nodup) :
      (keys.flatMap fun other => keyEvents (current.get other) (next.get other) (again.contains other)).filter
          (fun event => event.key = key) =
        if key ∈ keys then keyEvents (current.get key) (next.get key) (again.contains key) else [] := by
    -- Only the events of the key itself pass, and its turn comes once.
    induction keys with
    | nil => rfl
    | cons first rest ih =>
      rw [List.nodup_cons] at distinct
      rw [List.flatMap_cons, List.filter_append, own, ih distinct.2]
      by_cases same : first = key
      · subst same
        simp [distinct.1]
      · simp [same, Ne.symm same]
  rw [diffDevices, general _ unionKeys_nodup]
  split
  · rfl
  · -- A key of neither map has no events.
    rename_i absent
    rw [mem_unionKeys, not_or] at absent
    rw [Option.eq_none_iff_forall_ne_some.mpr fun device there => absent.1 ⟨device, there⟩,
      Option.eq_none_iff_forall_ne_some.mpr fun device there => absent.2 ⟨device, there⟩]
    rfl

end Diff

/-- A key was re-created when the modem under it has a removed control node before and after. -/
theorem reconnected_contains {current next : GoMap GoString Device} {removals : List KernelUevent} {key : GoString}
    {before after : Device} (was : current.get key = some before) (is : next.get key = some after) :
    (reconnected current next removals).contains key = reconnects removals before after := by
  rw [Bool.eq_iff_iff, List.contains_iff_mem, reconnected, List.mem_map]
  constructor
  · rintro ⟨⟨_, device⟩, member, rfl⟩
    obtain ⟨inside, passes⟩ := List.mem_filter.mp member
    rw [GoMap.mem_entries_iff, was, Option.some.injEq] at inside
    subst inside
    simpa [is] using passes
  · intro again
    refine ⟨(key, before), List.mem_filter.mpr ⟨(current.mem_entries_iff _ _).mpr was, ?_⟩, rfl⟩
    simpa [is] using again

/-- What the events of a rescan do for a consumer that has followed all events so far. -/
structure Follows (view : GoMap GoString Device) (rescan : Rescan) (events : List DeviceEvent) : Prop where
  legal : Legal view events
  shows : Shows (replay view events) rescan.next
  unchanged : ∀ device, view.get (physicalDeviceKey device) = some device → device ∈ rescan.next →
    reconnects rescan.removals device device = false →
    events.filter (fun event => event.key = physicalDeviceKey device) = []
  reconnected : ∀ before after, view.get (physicalDeviceKey before) = some before → after ∈ rescan.next →
    physicalDeviceKey after = physicalDeviceKey before → reconnects rescan.removals before after = true →
    events.filter (fun event => event.key = physicalDeviceKey before) = [.removed before, .added after]

/-- The events of one rescan. -/
theorem reconcile_follows {view : GoMap GoString Device} {devices : List Device} (shown : Shows view devices)
    (distinct : (devices.map physicalDeviceKey).Nodup) {rescan : Rescan}
    (nextDistinct : (rescan.next.map physicalDeviceKey).Nodup) :
    Follows view rescan (reconcileDeviceEvents (devicesByKey devices) rescan.removals rescan.next).2 := by
  have current := devicesByKey_shows distinct
  have next := devicesByKey_shows nextDistinct
  have same := shown.get_eq current
  obtain ⟨legal, replayed⟩ := diffDevices_replay current next
    (reconnected (devicesByKey devices) (devicesByKey rescan.next) rescan.removals) same
  refine { legal, shows := ?_, unchanged := ?_, reconnected := ?_ }
  · -- The view shows what the rescan has found.
    intro key device
    rw [← next key device, ← replayed key]
    rfl
  · -- A modem that is as it was has no event.
    intro device there member quiet
    rw [same] at there
    have is := (next _ device).mpr ⟨member, rfl⟩
    rw [reconcileDeviceEvents, diffDevices_filter current next, reconnected_contains there is, there, is, quiet]
    simp [keyEvents, sameDevice_iff.mpr rfl]
  · -- A modem that has reconnected is removed and added.
    intro before after there member equal again
    rw [same] at there
    have is := (next (physicalDeviceKey before) after).mpr ⟨member, equal⟩
    rw [reconcileDeviceEvents, diffDevices_filter current next, reconnected_contains there is, there, is, again]
    rfl

/-- The events of the rescans of a loop. -/
theorem watchRescans_follows {view : GoMap GoString Device} {devices : List Device} (shown : Shows view devices)
    (distinct : (devices.map physicalDeviceKey).Nodup) {before after : List Rescan} {rescan : Rescan}
    (nextDistinct : ∀ r ∈ before ++ rescan :: after, (r.next.map physicalDeviceKey).Nodup) :
    ∃ events, (watchRescans (devicesByKey devices) (before ++ rescan :: after))[before.length]? = some events ∧
      Follows (replay view (watchRescans (devicesByKey devices) before).flatten) rescan events := by
  -- The view that the first rescan leaves is the start of the rest.
  induction before generalizing view devices with
  | nil => exact ⟨_, rfl, reconcile_follows shown distinct (nextDistinct rescan (by simp))⟩
  | cons first rest ih =>
    have follows := reconcile_follows shown distinct (nextDistinct first (by simp))
    obtain ⟨events, there, followed⟩ := ih follows.shows (nextDistinct first (by simp))
      (fun r member => nextDistinct r (List.mem_cons_of_mem _ member))
    refine ⟨events, by simpa [watchRescans, reconcileDeviceEvents] using there, ?_⟩
    simpa [watchRescans, reconcileDeviceEvents, replay_append] using followed

/-- The initial events show the initial modems. -/
theorem present_shows {devices : List Device} (distinct : (devices.map physicalDeviceKey).Nodup)
    {view : GoMap GoString Device} {shown : List Device} (shows : Shows view shown)
    (apart : ∀ device ∈ devices, ∀ other ∈ shown, physicalDeviceKey other ≠ physicalDeviceKey device) :
    Legal view (devices.map .present) ∧ Shows (replay view (devices.map .present)) (shown ++ devices) := by
  -- The induction is on the modems, with those already shown.
  induction devices generalizing view shown with
  | nil => exact ⟨trivial, by simpa [replay] using shows⟩
  | cons first rest ih =>
    rw [List.map_cons, List.nodup_cons] at distinct
    have grown : Shows (view.set (physicalDeviceKey first) first) (shown ++ [first]) := by
      intro key device
      rw [GoMap.get_set]
      split
      · -- Under the key of the first modem it is the only one.
        rename_i here
        constructor
        · intro equal
          cases equal
          exact ⟨by simp, here.symm⟩
        · rintro ⟨member, named⟩
          rcases List.mem_append.mp member with old | new
          · exact absurd (named.trans here) (apart first List.mem_cons_self device old)
          · rw [List.mem_singleton.mp new]
      · -- The others are shown as before.
        rename_i elsewhere
        rw [shows key device, List.mem_append, List.mem_singleton]
        constructor
        · rintro ⟨member, named⟩
          exact ⟨.inl member, named⟩
        · rintro ⟨old | rfl, named⟩
          · exact ⟨old, named⟩
          · exact absurd named.symm elsewhere
    obtain ⟨legal, shown'⟩ := ih distinct.2 grown (by
      intro device inside other member
      rcases List.mem_append.mp member with old | new
      · exact apart device (List.mem_cons_of_mem _ inside) other old
      · rw [List.mem_singleton.mp new]
        exact fun equal => distinct.1 (equal ▸ List.mem_map_of_mem inside))
    refine ⟨⟨?_, legal⟩, by simpa [replay, applyEvent, DeviceEvent.key, DeviceEvent.device] using shown'⟩
    -- Nothing that is shown has the key of the first.
    refine Option.eq_none_iff_forall_ne_some.mpr fun device there => ?_
    obtain ⟨member, named⟩ := (shows _ device).mp there
    exact apart first List.mem_cons_self device member named

/-- A consumer that follows the events of a watch sees the modems of the start and then those of each rescan: every
event applies to its view, unchanged modems make no event, and re-created ones are removed and added. -/
theorem deviceEvents_replay (initial : List Device) (rescans : List Rescan)
    (distinct : (initial.map physicalDeviceKey).Nodup)
    (nextDistinct : ∀ rescan ∈ rescans, (rescan.next.map physicalDeviceKey).Nodup) :
    Legal ∅ (initial.map .present) ∧ Shows (replay ∅ (initial.map .present)) initial ∧
    ∀ before rescan after, rescans = before ++ rescan :: after →
      ∃ events, (watchDevices initial rescans)[before.length + 1]? = some events ∧
        Follows (replay ∅ (watchDevices initial before).flatten) rescan events := by
  have empty : Shows ∅ [] := by simp [Shows]
  obtain ⟨legal, shows⟩ := present_shows distinct empty (by simp)
  refine ⟨legal, shows, ?_⟩
  rintro before rescan after rfl
  obtain ⟨events, there, follows⟩ := watchRescans_follows shows distinct nextDistinct
  refine ⟨events, by simpa [watchDevices] using there, ?_⟩
  simpa [watchDevices, replay_append] using follows

/-- A modem whose only control port is re-created. -/
def recreatedModem : Device :=
  { physicalPath := [1], ports := [{ type := .qmi, name := GoString.ascii "cdc-wdm0" }] }

/-- The removal of its control node. -/
def nodeRemoval : KernelUevent :=
  { action := GoString.ascii "remove", subsystem := GoString.ascii "usbmisc", devName := GoString.ascii "cdc-wdm0" }

/-- The modem is removed and added again. -/
theorem recreatedModem_replay :
    ∃ events, (watchDevices [recreatedModem] [⟨[nodeRemoval], [recreatedModem]⟩])[1]? = some events ∧
      events.filter (fun event => event.key = [1]) = [.removed recreatedModem, .added recreatedModem] := by
  have again : reconnects [nodeRemoval] recreatedModem recreatedModem = true := by decide +kernel
  obtain ⟨-, shows, rescans⟩ := deviceEvents_replay [recreatedModem] [⟨[nodeRemoval], [recreatedModem]⟩]
    (by decide +kernel) (by decide +kernel)
  obtain ⟨events, there, follows⟩ := rescans [] _ [] rfl
  refine ⟨events, there, follows.reconnected recreatedModem recreatedModem ?_ (by simp) rfl again⟩
  exact (shows _ _).mpr ⟨by simp, rfl⟩

end Wwan.Modem
