import Mathlib.Data.List.Induction
import Mathlib.Order.CompletePartialOrder
import Mathlib.Order.ConditionallyCompleteLattice.Basic
import Mathlib.Order.WithBot
import Wwan.Modem.WatchNotifications

/-! Merging notification requests gives the union of what was subscribed to and what is requested. -/

namespace Wwan.Modem.Mbim.Notifications

open Wwan.Mbim (ServiceID)

/-! The merge on the lists that the slices show. -/

/-- The CIDs of a request behind those that are there, each of them once. -/
def addDistinct (cids request : List UInt32) : List UInt32 :=
  request.foldl (fun cids cid => if cid ∈ cids then cids else cids ++ [cid]) cids

/-- A requested entry merged into a list, and whether the list changed. -/
def mergeEntry (entries : List Entry) (request : Entry) : List Entry × Bool :=
  match entries.findIdx? (fun entry => entry.serviceID = request.serviceID) with
  | none => (entries ++ [⟨request.serviceID, addDistinct [] request.cids⟩], true)
  | some index =>
    let entry := entries.getD index default
    if entry.cids = [] then (entries, false)
    else if request.cids = [] then (entries.set index ⟨entry.serviceID, []⟩, true)
    else
      (entries.set index ⟨entry.serviceID, addDistinct entry.cids request.cids⟩,
        decide (∃ cid ∈ request.cids, cid ∉ entry.cids))

/-- The requested entries merged into a list one after the other. -/
def mergeEntries (entries : List Entry) (requested : List Entry) : List Entry × Bool :=
  requested.foldl (fun (entries, changed) request =>
    let (merged, widened) := mergeEntry entries request
    (merged, changed || widened)) (entries, false)

/-! The slices show what the merge on lists computes. -/

/-- A list of entries whose arrays exist. -/
structure Memory.Valid (memory : Memory) (entries : Slice) : Prop where
  list : memory.entries.Valid entries
  cids : ∀ entry ∈ memory.entries.read entries, memory.cids.Valid entry.cids

/-- The list being built shows these entries, and writing to it cannot change what existed at the start. -/
structure Holds (start memory : Memory) (entries : Slice) (list : List Entry) : Prop where
  kept : start.entries <+: memory.entries
  valid : memory.entries.Valid entries
  fresh : Arrays.Fresh start.entries entries
  owns : Arrays.Owns start.cids memory.cids ((memory.entries.read entries).map (·.cids))
  list : memory.list entries = list

namespace Holds

variable {start memory : Memory} {entries : Slice} {list : List Entry}

/-- The length of the slice is that of the list. -/
theorem length_eq (holds : Holds start memory entries list) : entries.length = list.length := by
  rw [← holds.list, Memory.list, List.length_map, Arrays.length_read holds.valid]

/-- An element of the list is what the slice shows there. -/
theorem getElem?_eq (holds : Holds start memory entries list) (i : Nat) :
    list[i]? = (memory.entries.read entries)[i]?.map memory.entry := by
  rw [← holds.list, Memory.list, List.getElem?_map]

/-- What the entry at a place says stands in the list. -/
theorem entry_index (holds : Holds start memory entries list) {i : Nat} (within : i < entries.length) :
    list[i]? = some (memory.entry (memory.entries.index entries i)) := by
  rw [holds.getElem?_eq, Arrays.getElem?_index holds.valid within, Option.map_some]

/-- Inputs are read as they were at the start. -/
theorem list_input (holds : Holds start memory entries list) {input : Slice} (valid : start.Valid input) :
    memory.list input = start.list input := by
  rw [Memory.list, Arrays.read_of_isPrefix holds.kept valid.list]
  apply List.map_congr_left
  intro entry found
  simp only [Memory.entry, Arrays.read_of_isPrefix holds.owns.kept (valid.cids entry found)]

/-- An assignment of an entry whose slice is owned puts it into the list. -/
theorem update (holds : Holds start memory entries list) {i : Nat} (within : i < entries.length)
    {arrays : Arrays UInt32} {slice : Slice} {contents : List UInt32} (service : ServiceID)
    (owns : Arrays.Owns start.cids arrays (((memory.entries.read entries).map (·.cids)).set i slice))
    (shows : (((memory.entries.read entries).map (·.cids)).set i slice).map arrays.read
      = (((memory.entries.read entries).map (·.cids)).map memory.cids.read).set i contents) :
    Holds start ⟨memory.entries.store entries i ⟨service, slice⟩, arrays⟩ entries (list.set i ⟨service, contents⟩) := by
  have stored := Arrays.read_store holds.valid within (⟨service, slice⟩ : DeviceServiceSubscribeEntry)
  have length := Arrays.length_read holds.valid
  refine ⟨Arrays.isPrefix_store holds.kept holds.valid holds.fresh within _, Arrays.valid_store holds.valid _,
    holds.fresh, ?_, ?_⟩
  · simpa only [stored, List.map_set] using owns
  · -- Each place is either the assigned one or shows the CIDs it showed.
    apply List.ext_getElem?
    intro j
    have at_j := congrArg (fun shown => shown[j]?) shows
    simp only [Memory.list, stored, ← holds.list]
    by_cases same : j = i
    · subst same
      simpa [Memory.entry, length, within] using at_j
    · simp only [List.getElem?_map, List.getElem?_set_ne (Ne.symm same)] at at_j ⊢
      cases found : (memory.entries.read entries)[j]? with
      | none => rfl
      | some entry =>
        simp only [found, Option.map_some, Option.some.injEq] at at_j
        simp only [Option.map_some, Memory.entry, at_j]

/-- An assignment of a copy of an entry puts what the entry says into the list. -/
theorem update_clone (spareCIDs : Slice → Nat → Nat) (holds : Holds start memory entries list) {i : Nat}
    (within : i < entries.length) (entry : DeviceServiceSubscribeEntry) :
    Holds start
      ⟨memory.entries.store entries i ⟨entry.serviceID, (memory.cids.clone spareCIDs entry.cids).2⟩,
        (memory.cids.clone spareCIDs entry.cids).1⟩
      entries (list.set i (memory.entry entry)) := by
  have below : i < ((memory.entries.read entries).map (·.cids)).length := by
    rwa [List.length_map, Arrays.length_read holds.valid]
  -- The copy is appended to a slice without capacity.
  have owns := holds.owns.set_cut i (s := entry.cids.cut) rfl rfl
  have at_i : (((memory.entries.read entries).map (·.cids)).set i entry.cids.cut)[i]? = some entry.cids.cut := by
    simp only [List.getElem?_set_self below]
  have shows := owns.map_read_append spareCIDs at_i (memory.cids.read entry.cids)
  have appended := owns.append spareCIDs at_i (memory.cids.read entry.cids)
  have nothing : memory.cids.read entry.cids.cut = [] := List.take_zero
  rw [List.set_set] at appended shows
  rw [nothing, List.nil_append] at shows
  refine holds.update within entry.serviceID appended (shows.trans ?_)
  rw [List.map_set, List.set_set]

/-- An entry loses its CIDs. -/
theorem update_nil (holds : Holds start memory entries list) {i : Nat} (within : i < entries.length)
    (service : ServiceID) :
    Holds start { memory with entries := memory.entries.store entries i ⟨service, Slice.nil⟩ } entries
      (list.set i ⟨service, []⟩) := by
  refine holds.update within service (holds.owns.set_cut i rfl rfl) ?_
  rw [List.map_set]
  rfl

/-- A CID is appended to an entry. -/
theorem update_append (spareCIDs : Slice → Nat → Nat) (holds : Holds start memory entries list) {i : Nat}
    (within : i < entries.length) (values : List UInt32) :
    let entry := memory.entries.index entries i
    Holds start
      ⟨memory.entries.store entries i
          { entry with cids := (memory.cids.append spareCIDs entry.cids values).2 },
        (memory.cids.append spareCIDs entry.cids values).1⟩
      entries (list.set i ⟨entry.serviceID, memory.cids.read entry.cids ++ values⟩) := by
  intro entry
  have at_i : ((memory.entries.read entries).map (·.cids))[i]? = some entry.cids := by
    rw [List.getElem?_map, Arrays.getElem?_index holds.valid within]
    rfl
  exact holds.update within entry.serviceID (holds.owns.append spareCIDs at_i values)
    (holds.owns.map_read_append spareCIDs at_i values)

/-- An entry joins the list. -/
theorem push (spareEntries : Slice → Nat → Nat) (holds : Holds start memory entries list)
    {arrays : Arrays UInt32} {slice : Slice} {contents : List UInt32} (service : ServiceID)
    (owns : Arrays.Owns start.cids arrays ((memory.entries.read entries).map (·.cids) ++ [slice]))
    (shows : ((memory.entries.read entries).map (·.cids) ++ [slice]).map arrays.read
      = ((memory.entries.read entries).map (·.cids)).map memory.cids.read ++ [contents]) :
    Holds start ⟨(memory.entries.append spareEntries entries [⟨service, slice⟩]).1, arrays⟩
      (memory.entries.append spareEntries entries [⟨service, slice⟩]).2 (list ++ [⟨service, contents⟩]) := by
  have reads := Arrays.read_append spareEntries holds.valid [(⟨service, slice⟩ : DeviceServiceSubscribeEntry)]
  obtain ⟨kept, fresh⟩ := Arrays.isPrefix_append spareEntries holds.kept holds.fresh
    [(⟨service, slice⟩ : DeviceServiceSubscribeEntry)]
  refine ⟨kept, Arrays.valid_append spareEntries holds.valid _, fresh, ?_, ?_⟩
  · -- The slice of the new entry is owned with the others.
    rw [reads, List.map_append]
    exact owns
  · rw [List.map_append, List.map_map, List.map_map] at shows
    obtain ⟨others, last⟩ := List.append_inj' shows rfl
    rw [Memory.list, reads, List.map_append, ← holds.list, Memory.list]
    congr 1
    · -- The CIDs of the other entries are still what they were.
      apply List.map_congr_left
      intro entry found
      have same := List.map_inj_left.mp others entry found
      simp only [Function.comp_apply] at same
      simp only [Memory.entry, same]
    · simpa [Memory.entry] using last

end Holds

/-- One more requested entry is merged into the list. -/
theorem mergeEntries_take {entries requested : List Entry} {i : Nat} {request : Entry}
    (at_i : requested[i]? = some request) :
    mergeEntries entries (requested.take (i + 1))
      = ((mergeEntry (mergeEntries entries (requested.take i)).1 request).1,
        (mergeEntries entries (requested.take i)).2
          || (mergeEntry (mergeEntries entries (requested.take i)).1 request).2) := by
  rw [List.take_add_one, at_i, Option.toList_some, mergeEntries, List.foldl_append]
  rfl

/-- One more CID is added unless it is there. -/
theorem addDistinct_take {cids request : List UInt32} {i : Nat} {cid : UInt32} (at_i : request[i]? = some cid) :
    addDistinct cids (request.take (i + 1))
      = if cid ∈ addDistinct cids (request.take i) then addDistinct cids (request.take i)
        else addDistinct cids (request.take i) ++ [cid] := by
  rw [List.take_add_one, at_i, Option.toList_some, addDistinct, List.foldl_append]
  rfl

/-- What is there is what was there and what is requested. -/
theorem mem_addDistinct {cids request : List UInt32} {cid : UInt32} :
    cid ∈ addDistinct cids request ↔ cid ∈ cids ∨ cid ∈ request := by
  induction request generalizing cids with
  | nil => simp [addDistinct]
  | cons first rest ih =>
    have step : addDistinct cids (first :: rest)
        = addDistinct (if first ∈ cids then cids else cids ++ [first]) rest := rfl
    rw [step, ih]
    by_cases there : first ∈ cids
    · simp only [there, ↓reduceIte, List.mem_cons]
      grind
    · simp only [there, ↓reduceIte, List.mem_append, List.mem_cons, List.not_mem_nil, or_false, or_assoc]

section

variable (spareEntries spareCIDs : Slice → Nat → Nat) {start memory : Memory} {entries : Slice} {list : List Entry}

/-- The first of the zero values behind a part of a list becomes the next element of the list. -/
private theorem set_take_replicate {α : Type} {l : List α} {count i : Nat} {a zero : α} (total : l.length = count)
    (at_i : l[i]? = some a) :
    (l.take i ++ List.replicate (count - i) zero).set i a
      = l.take (i + 1) ++ List.replicate (count - (i + 1)) zero := by
  obtain ⟨below, -⟩ := List.getElem?_eq_some_iff.mp at_i
  have front : (l.take i).length = i := List.length_take_of_le (Nat.le_of_lt below)
  have zeros : count - i = count - (i + 1) + 1 := by omega
  rw [zeros, List.replicate_succ, List.set_append_right i a (Nat.le_of_eq front), front, Nat.sub_self,
    List.set_cons_zero, List.take_add_one, at_i, Option.toList_some, List.append_assoc, List.singleton_append]

/-- The copy shows the current list. -/
theorem holds_cloneEntries {current : Slice} (valid : start.Valid current) :
    Holds start (cloneEntries spareCIDs start current).1 (cloneEntries spareCIDs start current).2
      (start.list current) := by
  have total : (start.list current).length = current.length := by
    rw [Memory.list, List.length_map, Arrays.length_read valid.list]
  have complete : start.list current
      = (start.list current).take current.length ++ List.replicate (current.length - current.length) default := by
    rw [Nat.sub_self, List.replicate_zero, List.append_nil, List.take_of_length_le (Nat.le_of_eq total)]
  rw [complete]
  -- Before turn `i` the first `i` entries are copied, and the others are zero values.
  refine forRange_induction (fun i memory => Holds start memory (start.entries.make current.length).2
    ((start.list current).take i ++ List.replicate (current.length - i) default)) ?_ ?_
  · -- At first all entries are zero values, which own nothing.
    obtain ⟨made, zeros, kept, fresh⟩ := Arrays.make_spec start.entries current.length
    change Holds start { start with entries := (start.entries.make current.length).1 } _ _
    refine ⟨kept, made, fresh, ?_, ?_⟩
    · apply Arrays.Owns.of_capacity
      intro s found
      rw [zeros, List.map_replicate] at found
      rw [List.eq_of_mem_replicate found]
      exact ⟨rfl, rfl⟩
    · rw [Memory.list, zeros, List.map_replicate, List.take_zero, List.nil_append, Nat.sub_zero]
      rfl
  · intro i memory below holds
    -- The entry read in this turn is that of the current list.
    have at_i := Arrays.getElem?_index valid.list below
    rw [← Arrays.index_of_isPrefix holds.kept valid.list i] at at_i
    have readable := valid.cids _ (List.mem_of_getElem? at_i)
    have entry_i : (start.list current)[i]? = some (memory.entry (memory.entries.index current i)) := by
      rw [Memory.list, List.getElem?_map, at_i, Option.map_some, Memory.entry, Memory.entry,
        Arrays.read_of_isPrefix holds.owns.kept readable]
    have stepped := holds.update_clone spareCIDs below (memory.entries.index current i)
    -- The entry takes the place of the first zero value.
    have grown : ((start.list current).take i ++ List.replicate (current.length - i) default).set i
          (memory.entry (memory.entries.index current i))
        = (start.list current).take (i + 1) ++ List.replicate (current.length - (i + 1)) default := by
      exact set_take_replicate total entry_i
    rw [grown] at stepped
    exact stepped

/-- The CIDs of a request for a new service are each shown once, by a slice that joins the others. -/
theorem distinctCIDs_spec {arrays : Arrays UInt32} {slices : List Slice} {request : Slice}
    (owns : Arrays.Owns start.cids arrays slices) (valid : start.cids.Valid request) :
    Arrays.Owns start.cids (distinctCIDs spareCIDs arrays request).1
        (slices ++ [(distinctCIDs spareCIDs arrays request).2])
      ∧ (slices ++ [(distinctCIDs spareCIDs arrays request).2]).map (distinctCIDs spareCIDs arrays request).1.read
        = slices.map arrays.read ++ [addDistinct [] (start.cids.read request)] := by
  have total := Arrays.length_read valid
  have complete : start.cids.read request = (start.cids.read request).take request.length := by
    rw [List.take_of_length_le (Nat.le_of_eq total)]
  rw [complete]
  -- Before turn `i` the slice shows the first `i` CIDs, each once.
  refine forRange_induction (fun i (built : Arrays UInt32 × Slice) =>
    Arrays.Owns start.cids built.1 (slices ++ [built.2])
      ∧ (slices ++ [built.2]).map built.1.read
        = slices.map arrays.read ++ [addDistinct [] ((start.cids.read request).take i)]) ?_ ?_
  · -- Before the first turn the slice is empty.
    refine ⟨owns.concat_cut rfl rfl, ?_⟩
    rw [List.map_append]
    rfl
  · intro i built below holds
    -- What the loop reads is what was requested, for nothing existing changes.
    obtain ⟨owned, shows⟩ := holds
    have at_i := Arrays.getElem?_index valid below
    have same := Arrays.index_of_isPrefix owned.kept valid i
    have last : built.1.read built.2 = addDistinct [] ((start.cids.read request).take i) := by
      have := congrArg List.getLast? shows
      simpa using this
    have at_last : (slices ++ [built.2])[slices.length]? = some built.2 := List.getElem?_concat_length
    rw [addDistinct_take at_i, ← last, ← same]
    by_cases there : built.1.index request i ∈ built.1.read built.2
    · -- A CID that is there already is skipped.
      simp only [there, ↓reduceIte]
      exact ⟨owned, shows.trans (by rw [last])⟩
    · -- A new CID is appended, which moves the slice alone.
      simp only [there, ↓reduceIte]
      have appended := owned.append spareCIDs at_last [built.1.index request i]
      have reads := owned.map_read_append spareCIDs at_last [built.1.index request i]
      rw [List.set_append_right _ _ (Nat.le_refl _), Nat.sub_self, List.set_cons_zero] at appended reads
      refine ⟨appended, reads.trans ?_⟩
      rw [shows, List.set_append_right _ _ (by rw [List.length_map]), List.length_map, Nat.sub_self,
        List.set_cons_zero]

/-- The CIDs of a request are added to those of an entry, and a CID that was not there is a change. -/
theorem addCIDs_spec (holds : Holds start memory entries list) {index : Nat} {entry : Entry}
    (found : list[index]? = some entry) {request : Slice} (valid : start.cids.Valid request) (changed : Bool) :
    Holds start (addCIDs spareCIDs memory entries index request changed).1 entries
        (list.set index ⟨entry.serviceID, addDistinct entry.cids (start.cids.read request)⟩)
      ∧ (addCIDs spareCIDs memory entries index request changed).2
        = (changed || decide (∃ cid ∈ start.cids.read request, cid ∉ entry.cids)) := by
  have total := Arrays.length_read valid
  have complete : start.cids.read request = (start.cids.read request).take request.length := by
    rw [List.take_of_length_le (Nat.le_of_eq total)]
  rw [complete]
  -- Before turn `i` the entry lists the first `i` CIDs behind its own.
  refine forRange_induction (fun i (built : Memory × Bool) =>
    Holds start built.1 entries
        (list.set index ⟨entry.serviceID, addDistinct entry.cids ((start.cids.read request).take i)⟩)
      ∧ built.2 = (changed || decide (∃ cid ∈ (start.cids.read request).take i, cid ∉ entry.cids))) ?_ ?_
  · -- Before the first turn the entry is the one found.
    refine ⟨?_, by simp [List.take_zero]⟩
    have same : list.set index entry = list := by
      apply List.ext_getElem?
      intro j
      grind
    exact same.symm ▸ holds
  · intro i built below held
    obtain ⟨held, told⟩ := held
    have within : index < entries.length := by
      rw [holds.length_eq]
      exact (List.getElem?_eq_some_iff.mp found).1
    have at_i := Arrays.getElem?_index valid below
    have same := Arrays.index_of_isPrefix held.owns.kept valid i
    -- The slice of the entry shows what has been added so far.
    have shown := held.entry_index within
    rw [List.getElem?_set_self (by rw [← holds.length_eq]; exact within), Option.some.injEq] at shown
    obtain ⟨service, cids⟩ := Entry.mk.inj shown
    have stepped := held.update_append spareCIDs within [built.1.cids.index request i]
    simp only [List.set_set] at stepped
    rw [addDistinct_take at_i, ← same, cids]
    rw [← same] at at_i
    by_cases there : built.1.cids.index request i ∈ built.1.cids.read (built.1.entries.index entries index).cids
    · -- A CID of the entry is no change.
      simp only [there, ↓reduceIte]
      refine ⟨cids ▸ held, ?_⟩
      rw [told]
      rw [← cids, mem_addDistinct] at there
      grind [List.take_add_one]
    · -- A new CID is appended to the entry, and is a change.
      simp only [there, ↓reduceIte]
      refine ⟨service ▸ stepped, ?_⟩
      rw [← cids, mem_addDistinct] at there
      grind [List.take_add_one]

/-- A turn of the loop merges the requested entry into the list. -/
theorem mergeRequest_spec (holds : Holds start memory entries list) {request : DeviceServiceSubscribeEntry}
    (valid : start.cids.Valid request.cids) (changed : Bool) :
    Holds start (mergeRequest spareEntries spareCIDs memory entries changed request).1
        (mergeRequest spareEntries spareCIDs memory entries changed request).2.1
        (mergeEntry list (start.entry request)).1
      ∧ (mergeRequest spareEntries spareCIDs memory entries changed request).2.2
        = (changed || (mergeEntry list (start.entry request)).2) := by
  -- The same place is found in the slice and in the list.
  have search : list.findIdx? (fun entry => entry.serviceID = (start.entry request).serviceID)
      = (memory.entries.read entries).findIdx? (fun entry => entry.serviceID = request.serviceID) := by
    rw [← holds.list, Memory.list, List.findIdx?_map]
    rfl
  unfold mergeRequest mergeEntry
  rw [search]
  cases at_index : (memory.entries.read entries).findIdx? (fun entry => entry.serviceID = request.serviceID) with
  | none =>
    -- A service that is not listed joins with its distinct CIDs.
    obtain ⟨owns, shows⟩ := distinctCIDs_spec spareCIDs holds.owns valid
    exact ⟨holds.push spareEntries request.serviceID owns shows, (Bool.or_true _).symm⟩
  | some index =>
    -- A listed service is widened in place.
    have within : index < entries.length := by
      rw [← Arrays.length_read holds.valid]
      exact (List.findIdx?_eq_some_iff_findIdx_eq.mp at_index).1
    have found := holds.entry_index within
    have entry_eq : list.getD index default = memory.entry (memory.entries.index entries index) := by
      rw [List.getD_eq_getElem?_getD, found, Option.getD_some]
    have own := holds.owns.valid _ (List.mem_map_of_mem (List.mem_of_getElem?
      (Arrays.getElem?_index holds.valid within)))
    -- An entry without CIDs stands for all of them.
    have all : (memory.entry (memory.entries.index entries index)).cids = []
        ↔ (memory.entries.index entries index).cids.length = 0 := by
      rw [← Arrays.length_read own, List.length_eq_zero_iff]
      rfl
    have every : (start.entry request).cids = [] ↔ request.cids.length = 0 := by
      rw [← Arrays.length_read valid, List.length_eq_zero_iff]
      rfl
    simp only [entry_eq, all, every]
    by_cases covered : (memory.entries.index entries index).cids.length = 0
    · -- The entry covers all CIDs already.
      simp only [covered, ↓reduceIte, Bool.or_false]
      exact ⟨holds, trivial⟩
    · by_cases whole : request.cids.length = 0
      · -- The request asks for all CIDs.
        simp only [covered, whole, ↓reduceIte, Bool.or_true]
        exact ⟨holds.update_nil within _, trivial⟩
      · -- The request adds its CIDs.
        simp only [covered, whole, ↓reduceIte]
        exact addCIDs_spec spareCIDs holds found valid changed

/-- The slices show what the merge on lists computes, and what existed before is as it was. -/
theorem mergeWatchNotifications_spec {current requested : Slice} (valid : start.Valid current)
    (readable : start.Valid requested) :
    let result := mergeWatchNotifications spareEntries spareCIDs start current requested
    Holds start result.1 result.2.1 (mergeEntries (start.list current) (start.list requested)).1
      ∧ result.2.2 = (mergeEntries (start.list current) (start.list requested)).2 := by
  intro result
  have total : (start.list requested).length = requested.length := by
    rw [Memory.list, List.length_map, Arrays.length_read readable.list]
  have complete : start.list requested = (start.list requested).take requested.length := by
    rw [List.take_of_length_le (Nat.le_of_eq total)]
  rw [complete]
  -- Before turn `i` the first `i` requests are merged.
  refine forRange_induction (fun i (built : Memory × Slice × Bool) =>
    Holds start built.1 built.2.1 (mergeEntries (start.list current) ((start.list requested).take i)).1
      ∧ built.2.2 = (mergeEntries (start.list current) ((start.list requested).take i)).2) ?_ ?_
  · exact ⟨holds_cloneEntries spareCIDs valid, rfl⟩
  · intro i built below held
    obtain ⟨held, told⟩ := held
    have at_i := Arrays.getElem?_index readable.list below
    have same := Arrays.index_of_isPrefix held.kept readable.list i
    have cids := readable.cids _ (List.mem_of_getElem? at_i)
    have entry_i : (start.list requested)[i]? = some (start.entry (start.entries.index requested i)) := by
      rw [Memory.list, List.getElem?_map, at_i, Option.map_some]
    have merged := mergeRequest_spec spareEntries spareCIDs held cids built.2.2
    rw [mergeEntries_take entry_i, ← told]
    rw [← same] at merged ⊢
    exact merged

end

/-! What a list subscribes to. -/

/-- An empty CID list covers all notifications of its service, any other the CIDs it lists. -/
noncomputable def covers (cids : List UInt32) : WithTop (Set UInt32) :=
  if cids = [] then ⊤ else (({cid | cid ∈ cids} : Set UInt32) : WithTop (Set UInt32))

/-- The notifications of one service, and of no other. -/
noncomputable def ofService (service : ServiceID) (notifications : WithTop (Set UInt32)) :
    ServiceID → WithTop (Set UInt32) :=
  fun other => if service = other then notifications else ⊥

/-- What a list subscribes to at each service, with nothing at the services it does not list. -/
noncomputable def meaning : List Entry → ServiceID → WithTop (Set UInt32)
  | [] => ⊥
  | entry :: rest => ofService entry.serviceID (covers entry.cids) ⊔ meaning rest

/-- A service that is not listed has no notifications. -/
theorem meaning_of_not_mem {entries : List Entry} {service : ServiceID}
    (absent : service ∉ entries.map (·.serviceID)) : meaning entries service = ⊥ := by
  induction entries with
  | nil => rfl
  | cons entry rest ih =>
    rw [List.map_cons, List.mem_cons, not_or] at absent
    simp [meaning, ofService, Ne.symm absent.1, ih absent.2]

/-- The meaning of a list that lists each service once is what its entries cover. -/
theorem meaning_of_mem {entries : List Entry} (distinct : (entries.map (·.serviceID)).Nodup) {entry : Entry}
    (found : entry ∈ entries) : meaning entries entry.serviceID = covers entry.cids := by
  induction entries with
  | nil => exact absurd found List.not_mem_nil
  | cons first rest ih =>
    obtain ⟨once, distinct⟩ := List.nodup_cons.mp distinct
    rcases List.mem_cons.mp found with rfl | later
    · -- No later entry is for the same service.
      simp [meaning, ofService, meaning_of_not_mem once]
    · have other : first.serviceID ≠ entry.serviceID := by
        intro same
        exact once (List.mem_map.mpr ⟨entry, later, same.symm⟩)
      simp [meaning, ofService, other, ih distinct later]

/-- The meaning of a list is the union of the meanings of its parts. -/
theorem meaning_append (front back : List Entry) : meaning (front ++ back) = meaning front ⊔ meaning back := by
  induction front with
  | nil => simp [meaning]
  | cons entry rest ih => rw [List.cons_append, meaning, ih, meaning, sup_assoc]

/-- The meaning of one entry. -/
theorem meaning_singleton (entry : Entry) : meaning [entry] = ofService entry.serviceID (covers entry.cids) := by
  simp [meaning]

/-- The notifications of a service grow with what is covered there. -/
theorem ofService_sup (service : ServiceID) (a b : WithTop (Set UInt32)) :
    ofService service (a ⊔ b) = ofService service a ⊔ ofService service b := by
  funext other
  by_cases same : service = other <;> simp [ofService, same]

/-- A list subscribes to what each of its entries does. -/
theorem ofService_le_meaning {entries : List Entry} {entry : Entry} (found : entry ∈ entries) :
    ofService entry.serviceID (covers entry.cids) ≤ meaning entries := by
  induction entries with
  | nil => exact absurd found List.not_mem_nil
  | cons first rest ih =>
    rcases List.mem_cons.mp found with rfl | later
    · exact le_sup_left
    · exact le_sup_of_le_right (ih later)

/-- An entry that comes to cover more adds what it covers. -/
theorem meaning_set {entries : List Entry} {i : Nat} {entry : Entry} (at_i : entries[i]? = some entry)
    {cids : List UInt32} (wider : covers entry.cids ≤ covers cids) :
    meaning (entries.set i ⟨entry.serviceID, cids⟩) = meaning entries ⊔ ofService entry.serviceID (covers cids) := by
  induction entries generalizing i with
  | nil => simp at at_i
  | cons first rest ih =>
    cases i with
    | zero =>
      obtain rfl : first = entry := by simpa using at_i
      -- What the entry covered before is part of what it covers now.
      have absorbed : ofService first.serviceID (covers first.cids) ⊔ ofService first.serviceID (covers cids)
          = ofService first.serviceID (covers cids) := by
        rw [← ofService_sup, sup_eq_right.mpr wider]
      rw [List.set_cons_zero, meaning, meaning, sup_right_comm, absorbed]
    | succ i =>
      rw [List.set_cons_succ, meaning, meaning, ih (by simpa using at_i), sup_assoc]

/-- Every CID list covers something. -/
theorem covers_ne_bot (cids : List UInt32) : covers cids ≠ ⊥ := by
  cases cids with
  | nil => simp [covers]
  | cons cid rest =>
    have listed : ({other | other ∈ cid :: rest} : Set UInt32) ≠ ⊥ := by
      intro empty
      have : cid ∈ ({other | other ∈ cid :: rest} : Set UInt32) := List.mem_cons_self
      rw [empty] at this
      exact this
    simpa [covers] using listed

/-- CIDs added to a CID list are covered with those that were there. -/
theorem covers_addDistinct {cids request : List UInt32} (some : cids ≠ []) (more : request ≠ []) :
    covers (addDistinct cids request) = covers cids ⊔ covers request := by
  have filled : addDistinct cids request ≠ [] := by
    obtain ⟨cid, there⟩ := List.exists_mem_of_ne_nil cids some
    exact List.ne_nil_of_mem (mem_addDistinct.mpr (.inl there))
  simp only [covers, some, more, filled, ↓reduceIte, mem_addDistinct]
  rfl

/-- The CIDs of a request cover the same without their repetitions. -/
theorem covers_distinct (request : List UInt32) : covers (addDistinct [] request) = covers request := by
  cases request with
  | nil => rfl
  | cons cid rest =>
    have filled : addDistinct [] (cid :: rest) ≠ [] :=
      List.ne_nil_of_mem (mem_addDistinct.mpr (.inr List.mem_cons_self))
    simp only [covers, filled, ↓reduceIte, mem_addDistinct, List.not_mem_nil, false_or, reduceCtorEq]

/-! One requested entry. -/

/-- What a requested entry can do: join the list, be covered already, widen an entry to everything, or add its CIDs. -/
theorem mergeEntry_cases (entries : List Entry) (request : Entry) :
    (request.serviceID ∉ entries.map (·.serviceID)
        ∧ mergeEntry entries request = (entries ++ [⟨request.serviceID, addDistinct [] request.cids⟩], true))
      ∨ ∃ index entry, entries[index]? = some entry ∧ entry.serviceID = request.serviceID ∧
        ((entry.cids = [] ∧ mergeEntry entries request = (entries, false))
          ∨ (entry.cids ≠ [] ∧ request.cids = []
            ∧ mergeEntry entries request = (entries.set index ⟨entry.serviceID, []⟩, true))
          ∨ (entry.cids ≠ [] ∧ request.cids ≠ []
            ∧ mergeEntry entries request
              = (entries.set index ⟨entry.serviceID, addDistinct entry.cids request.cids⟩,
                decide (∃ cid ∈ request.cids, cid ∉ entry.cids)))) := by
  unfold mergeEntry
  cases search : entries.findIdx? (fun entry => entry.serviceID = request.serviceID) with
  | none => exact .inl ⟨by simpa [List.findIdx?_eq_none_iff] using search, rfl⟩
  | some index =>
    obtain ⟨below, matching⟩ := List.findIdx?_eq_some_iff_getElem.mp search
    have entry_eq : entries.getD index default = entries[index] := by
      rw [List.getD_eq_getElem?_getD, List.getElem?_eq_getElem below, Option.getD_some]
    refine .inr ⟨index, entries[index], List.getElem?_eq_getElem below, by simpa using matching.1, ?_⟩
    simp only [entry_eq]
    by_cases all : entries[index].cids = []
    · exact .inl ⟨all, by rw [if_pos all]⟩
    · by_cases every : request.cids = []
      · exact .inr (.inl ⟨all, every, by rw [if_neg all, if_pos every]⟩)
      · exact .inr (.inr ⟨all, every, by rw [if_neg all, if_neg every]⟩)

/-- An entry replaced by one for the same service leaves the services as they are. -/
theorem map_serviceID_set {entries : List Entry} {index : Nat} {entry : Entry} (at_index : entries[index]? = some entry)
    (cids : List UInt32) :
    (entries.set index ⟨entry.serviceID, cids⟩).map (·.serviceID) = entries.map (·.serviceID) := by
  apply List.ext_getElem?
  intro j
  grind

/-- The services stay distinct. -/
theorem nodup_mergeEntry {entries : List Entry} (distinct : (entries.map (·.serviceID)).Nodup) (request : Entry) :
    ((mergeEntry entries request).1.map (·.serviceID)).Nodup := by
  obtain ⟨absent, merged⟩ | ⟨index, entry, at_index, -, covered | widened | added⟩ := mergeEntry_cases entries request
  · rw [merged, List.map_append]
    refine List.nodup_append.mpr ⟨distinct, by simp, ?_⟩
    intro service there other last same
    rw [same, List.mem_singleton.mp last] at there
    exact absent there
  · rw [covered.2]
    exact distinct
  · rw [widened.2.2, map_serviceID_set at_index]
    exact distinct
  · rw [added.2.2, map_serviceID_set at_index]
    exact distinct

/-- The merged list means what the list and the request mean. -/
theorem meaning_mergeEntry (entries : List Entry) (request : Entry) :
    meaning (mergeEntry entries request).1 = meaning entries ⊔ meaning [request] := by
  obtain ⟨-, merged⟩ | ⟨index, entry, at_index, service, ⟨all, merged⟩ | ⟨some, every, merged⟩ | ⟨some, more, merged⟩⟩ :=
    mergeEntry_cases entries request
  · rw [merged, meaning_append, meaning_singleton, meaning_singleton, covers_distinct]
  · -- An entry for everything absorbs the request.
    have whole := ofService_le_meaning (List.mem_of_getElem? at_index)
    rw [merged, meaning_singleton, ← service]
    refine (sup_eq_left.mpr (le_trans ?_ whole)).symm
    intro other
    by_cases same : entry.serviceID = other <;> simp [ofService, same, covers, all]
  · rw [merged, meaning_set at_index (by simp [covers]), meaning_singleton, service, every]
  · rw [merged, meaning_set at_index (by rw [covers_addDistinct some more]; exact le_sup_left),
      covers_addDistinct some more, ofService_sup, ← sup_assoc,
      sup_eq_left.mpr (ofService_le_meaning (List.mem_of_getElem? at_index)), meaning_singleton, service]

/-- A request that is merged without a change is covered where its service is listed. -/
theorem covers_le_of_meaning {entries : List Entry} (distinct : (entries.map (·.serviceID)).Nodup) {entry : Entry}
    (found : entry ∈ entries) {request : Entry} (service : entry.serviceID = request.serviceID) :
    meaning (mergeEntry entries request).1 ≠ meaning entries ↔ ¬covers request.cids ≤ covers entry.cids := by
  rw [meaning_mergeEntry, Ne, sup_eq_left, meaning_singleton, not_iff_not]
  constructor
  · intro below
    have there := below entry.serviceID
    rw [meaning_of_mem distinct found] at there
    simpa [ofService, service] using there
  · intro below other
    by_cases same : request.serviceID = other
    · rw [← same, ← service, meaning_of_mem distinct found]
      simpa [ofService, service] using below
    · simp [ofService, same]

/-- The merged list is told to have changed when it means something else. -/
theorem changed_mergeEntry {entries : List Entry} (distinct : (entries.map (·.serviceID)).Nodup) (request : Entry) :
    (mergeEntry entries request).2 = true ↔ meaning (mergeEntry entries request).1 ≠ meaning entries := by
  obtain ⟨absent, merged⟩ | ⟨index, entry, at_index, service, ⟨all, merged⟩ | ⟨some, every, merged⟩ | ⟨some, more, merged⟩⟩ :=
    mergeEntry_cases entries request
  · -- A service that was not listed had nothing, and has something now.
    rw [meaning_mergeEntry, merged]
    refine ⟨fun _ same => ?_, fun _ => rfl⟩
    have there := congrFun same request.serviceID
    rw [Pi.sup_apply, meaning_of_not_mem absent, meaning_singleton] at there
    exact covers_ne_bot request.cids (by simpa [ofService] using there)
  · -- An entry that covers all CIDs means the same as before.
    rw [merged]
    simp
  · -- Asking for all CIDs of an entry with some of them is a change.
    rw [covers_le_of_meaning distinct (List.mem_of_getElem? at_index) service, merged]
    simp [covers, some, every]
  · -- Otherwise a requested CID that is missing is the change.
    rw [covers_le_of_meaning distinct (List.mem_of_getElem? at_index) service, merged]
    simp only [covers, some, more, ↓reduceIte, WithTop.coe_le_coe, decide_eq_true_eq]
    constructor
    · rintro ⟨cid, requested, missing⟩ below
      exact missing (below requested)
    · intro outside
      by_contra none
      refine outside fun cid requested => ?_
      by_contra missing
      exact none ⟨cid, requested, missing⟩

/-! All of them. -/

/-- One more requested entry at the end. -/
theorem mergeEntries_concat (entries requested : List Entry) (request : Entry) :
    mergeEntries entries (requested ++ [request])
      = ((mergeEntry (mergeEntries entries requested).1 request).1,
        (mergeEntries entries requested).2 || (mergeEntry (mergeEntries entries requested).1 request).2) := by
  rw [mergeEntries, List.foldl_append]
  rfl

/-- The merged list lists each service once, means the union, and is told to have changed when it means something else. -/
theorem mergeEntries_spec {entries : List Entry} (distinct : (entries.map (·.serviceID)).Nodup)
    (requested : List Entry) :
    ((mergeEntries entries requested).1.map (·.serviceID)).Nodup
      ∧ meaning (mergeEntries entries requested).1 = meaning entries ⊔ meaning requested
      ∧ ((mergeEntries entries requested).2 = true ↔ meaning (mergeEntries entries requested).1 ≠ meaning entries) := by
  -- The induction is from the back, as the loop merges into what it has so far.
  induction requested using List.reverseRecOn with
  | nil => exact ⟨distinct, by simp [mergeEntries, meaning], by simp [mergeEntries]⟩
  | append_singleton requested request ih =>
    obtain ⟨once, means, changed⟩ := ih
    have total : meaning (mergeEntry (mergeEntries entries requested).1 request).1
        = meaning (mergeEntries entries requested).1 ⊔ meaning [request] := meaning_mergeEntry _ _
    have widened := changed_mergeEntry once request
    rw [mergeEntries_concat]
    refine ⟨nodup_mergeEntry once request, ?_, ?_⟩
    · -- The union of what was merged before and of the request is that of all requests.
      rw [total, means, sup_assoc, ← meaning_append]
    · -- The meanings only grow, so the last is the first only if all are.
      have grows : meaning entries ≤ meaning (mergeEntries entries requested).1 := means ▸ le_sup_left
      have grows' : meaning (mergeEntries entries requested).1
          ≤ meaning (mergeEntry (mergeEntries entries requested).1 request).1 := total ▸ le_sup_left
      rw [Bool.or_eq_true, changed, widened]
      constructor
      · rintro (early | late) same
        · exact early (le_antisymm (same ▸ grows') grows)
        · exact late (le_antisymm (same ▸ grows) grows')
      · intro differs
        by_cases same : meaning (mergeEntries entries requested).1 = meaning entries
        · exact .inr (same ▸ differs)
        · exact .inl same

/--
The merged list lists each service once and subscribes to the union of what the current list and the requests do.

The call changes nothing that the inputs show, and tells of a change exactly when the list means something else.
-/
theorem merge_notifications (spareEntries spareCIDs : Slice → Nat → Nat) (memory : Memory) (current requested : Slice)
    (valid : memory.Valid current) (readable : memory.Valid requested)
    (distinct : ((memory.list current).map (·.serviceID)).Nodup) :
    let result := mergeWatchNotifications spareEntries spareCIDs memory current requested
    let merged := result.1.list result.2.1
    (merged.map (·.serviceID)).Nodup
      ∧ meaning merged = meaning (memory.list current) ⊔ meaning (memory.list requested)
      ∧ result.1.list current = memory.list current ∧ result.1.list requested = memory.list requested
      ∧ (result.2.2 = true ↔ meaning merged ≠ meaning (memory.list current)) := by
  intro result merged
  obtain ⟨holds, told⟩ := mergeWatchNotifications_spec spareEntries spareCIDs valid readable
  obtain ⟨once, means, changed⟩ := mergeEntries_spec distinct (memory.list requested)
  have shown : merged = (mergeEntries (memory.list current) (memory.list requested)).1 := holds.list
  rw [shown, told]
  exact ⟨once, means, holds.list_input valid, holds.list_input readable, changed⟩

/-- A list whose CIDs leave room in an array that a request goes on to show. -/
def sharedMemory : Memory :=
  ⟨[[⟨[1], ⟨0, 0, 1, 2⟩⟩], [⟨[1], ⟨0, 1, 1, 1⟩⟩, ⟨[2], Slice.nil⟩, ⟨[1], ⟨0, 0, 2, 2⟩⟩]], [[7, 8]]⟩

/-- A CID is not appended into the room that a request shows. -/
theorem merge_notifications_shared :
    let result := mergeWatchNotifications (fun _ _ => 0) (fun _ _ => 1) sharedMemory ⟨0, 0, 1, 1⟩ ⟨1, 0, 3, 3⟩
    let merged := result.1.list result.2.1
    (merged.map (·.serviceID)).Nodup
      ∧ meaning merged
        = meaning (sharedMemory.list ⟨0, 0, 1, 1⟩) ⊔ meaning (sharedMemory.list ⟨1, 0, 3, 3⟩)
      ∧ result.1.list ⟨0, 0, 1, 1⟩ = sharedMemory.list ⟨0, 0, 1, 1⟩
      ∧ result.1.list ⟨1, 0, 3, 3⟩ = sharedMemory.list ⟨1, 0, 3, 3⟩
      ∧ (result.2.2 = true ↔ meaning merged ≠ meaning (sharedMemory.list ⟨0, 0, 1, 1⟩)) := by
  have current : sharedMemory.Valid ⟨0, 0, 1, 1⟩ := by
    refine ⟨⟨by decide, by decide⟩, ?_⟩
    intro entry found
    obtain rfl : entry = ⟨[1], ⟨0, 0, 1, 2⟩⟩ := List.mem_singleton.mp found
    exact ⟨by decide, by decide⟩
  have requested : sharedMemory.Valid ⟨1, 0, 3, 3⟩ := by
    refine ⟨⟨by decide, by decide⟩, ?_⟩
    have all : ∀ entry ∈ [(⟨[1], ⟨0, 1, 1, 1⟩⟩ : DeviceServiceSubscribeEntry), ⟨[2], Slice.nil⟩, ⟨[1], ⟨0, 0, 2, 2⟩⟩],
        sharedMemory.cids.Valid entry.cids := by
      simp only [List.forall_mem_cons]
      exact ⟨⟨by decide, by decide⟩, ⟨by decide, by decide⟩, ⟨by decide, by decide⟩, List.forall_mem_nil _⟩
    exact all
  exact merge_notifications (fun _ _ => 0) (fun _ _ => 1) sharedMemory ⟨0, 0, 1, 1⟩ ⟨1, 0, 3, 3⟩ current requested
    (by decide)

/-- The merge with a new service, a repeated one, and repeated CIDs. -/
example : mergeEntries [⟨[1], [7]⟩] [⟨[1], [8, 8]⟩, ⟨[2], []⟩, ⟨[2], [5]⟩] = ([⟨[1], [7, 8]⟩, ⟨[2], []⟩], true) := by
  decide

end Wwan.Modem.Mbim.Notifications
