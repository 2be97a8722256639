import Wwan.Proofs.Sms.Assembler

/-! Which of the parts fed to the assembler end up in a message it returns. -/

namespace Wwan.Sms

/-- The indices seen since all indices of a message were last complete. -/
def openSet (total : UInt8) (seen : List UInt8) : List UInt8 :=
  seen.foldl (fun set index =>
    -- A complete set is set aside, and a new one is started.
    if (indices total).all (set ++ [index]).contains then [] else set ++ [index]) []

/-- The indices of one group, in the order of the parts. -/
def groupIndices (key : AssemblyKey) (parts : List Part) : List UInt8 :=
  (parts.filter fun part => part.key = key).map Part.index

/--
A part reaches a message if its set is completed before its index comes again.

The set is the one that is open when the part comes, and grows by the later parts of the group.
-/
def Reaches (before : List Part) (part : Part) (after : List Part) : Prop :=
  ∃ during, during <+: groupIndices part.key after ∧ part.index ∉ during ∧
    ∀ index ∈ indices part.total,
      index ∈ openSet part.total (groupIndices part.key before) ++ part.index :: during

/-- The references of all messages that a sequence of parts returns. -/
def returnedRefs (parts : List Part) : List MessageRef := (assemble parts).flatMap Message.refs

/-- The references of some parts. -/
def partRefs (parts : List Part) : List MessageRef := parts.flatMap fun part => part.message.refs

/--
Of all parts that the assembler holds, only the one at the given place has the reference.

Without a place the assembler does not hold the reference at all.
-/
def HeldAt (ref : MessageRef) (place : Option (AssemblyKey × UInt8)) (calls : List Part) : Prop :=
  ∀ key index other, latest (fedSince key calls) index = some other →
    other.message.refs.count ref = if place = some (key, index) then 1 else 0

/-! One call after another. -/

/-- The assembler with the messages it has returned, after one more part. -/
private def takePart (state : Assembler × List Message) (part : Part) : Assembler × List Message :=
  ((state.1.add part).1, state.2 ++ (state.1.add part).2.toList)

/-- Assembling takes one part after another. -/
private theorem assemble_eq (parts : List Part) : assemble parts = (parts.foldl takePart ({}, [])).2 := by
  unfold assemble
  congr 2
  funext state part
  rcases added : state.1.add part with ⟨a, _ | message⟩
  · simp [takePart, added]
  · simp [takePart, added]

/-- Assembling runs the assembler alongside. -/
private theorem foldl_takePart (parts : List Part) :
    parts.foldl takePart ({}, []) = (Assembler.addAll {} parts, assemble parts) := by
  refine Prod.ext ?_ (assemble_eq parts).symm
  -- The returned messages are never looked at.
  induction parts using List.reverseRecOn with
  | nil => rfl
  | append_singleton parts part ih => simp [List.foldl_append, takePart, ih]

/-- One more part adds the message that it completes. -/
theorem assemble_append_singleton (parts : List Part) (part : Part) :
    assemble (parts ++ [part]) = assemble parts ++ ((Assembler.addAll {} parts).add part).2.toList := by
  rw [assemble_eq, List.foldl_append, foldl_takePart]
  rfl

/-- One more index completes the open set or joins it. -/
theorem openSet_append_singleton (total : UInt8) (seen : List UInt8) (index : UInt8) :
    openSet total (seen ++ [index]) =
      if (indices total).all (openSet total seen ++ [index]).contains then []
      else openSet total seen ++ [index] := by
  rw [openSet, List.foldl_append]
  rfl

/-- One more part adds its index to its own group. -/
theorem groupIndices_append_singleton (key : AssemblyKey) (parts : List Part) (part : Part) :
    groupIndices key (parts ++ [part]) =
      groupIndices key parts ++ if part.key = key then [part.index] else [] := by
  by_cases same : part.key = key
  · simp [groupIndices, same]
  · simp [groupIndices, same]

/-- Coverage is a matter of the indices. -/
theorem covered_iff (total : UInt8) (fed : List Part) :
    Covered total fed ↔ (indices total).all (fed.map Part.index).contains := by
  simp only [List.all_eq_true, List.contains_iff_mem]
  constructor
  · intro covered index member
    obtain ⟨positive, inside⟩ := mem_indices.mp member
    exact List.mem_map.mpr (covered index positive inside)
  · intro all index positive inside
    exact List.mem_map.mp (all index (mem_indices.mpr ⟨positive, inside⟩))

/-- A covered message has a latest part for each of its indices. -/
theorem Covered.latest {total : UInt8} {fed : List Part} (covered : Covered total fed) :
    ∀ index ∈ indices total, ∃ other, Sms.latest fed index = some other := by
  intro index member
  obtain ⟨positive, inside⟩ := mem_indices.mp member
  exact (latest_isSome fed index).mpr (covered index positive inside)

/-- A part of a group of several parts is numbered. -/
theorem Part.Sound.numbered {part : Part} (sound : part.Sound) (several : 2 ≤ part.total) : part.Numbered := by
  refine sound.resolve_left fun alone => ?_
  exact absurd (UInt8.le_trans several alone) (by decide)

/-- What a group has been fed since its completion has the indices of the open set. -/
theorem map_index_fedSince {calls : List Part} (sound : ∀ part ∈ calls, part.Sound) {key : AssemblyKey}
    (several : 2 ≤ key.total) (small : key.total ≠ 255) :
    (fedSince key calls).map Part.index = openSet key.total (groupIndices key calls) := by
  -- The induction is from the back, as parts come in.
  induction calls using List.reverseRecOn with
  | nil => rfl
  | append_singleton calls part ih =>
    have earlier : ∀ other ∈ calls, other.Sound := fun other member => sound other (by simp [member])
    rw [fedSince_append_singleton, groupIndices_append_singleton]
    by_cases same : part.key = key
    · subst same
      -- The part joins those of its group.
      have grown : (fedSince part.key calls ++ [part]).map Part.index =
          openSet part.total (groupIndices part.key calls) ++ [part.index] := by
        rw [List.map_append, ih earlier]
        rfl
      rw [if_pos rfl, if_pos rfl, openSet_append_singleton]
      rcases addAll_add_cases earlier ((sound part (by simp)).numbered several) with
        ⟨-, covered, added⟩ | ⟨large | open_, added⟩
      · -- The part completes its group, and both start again with nothing.
        rw [covered_iff, grown] at covered
        simp only [added, Option.isSome_some, if_true, List.map_nil]
        exact (if_pos covered).symm
      · exact absurd large small
      · -- The group stays open, and both grow by the part.
        rw [covered_iff, grown] at open_
        simp only [added, Option.isSome_none, Bool.false_eq_true, if_false, grown]
        exact (if_neg open_).symm
    · -- A part of another group changes neither.
      rw [if_neg same, if_neg same, List.append_nil, ih earlier]

/-! One reference on its way through the assembler. -/

/-- A part that stands alone passes through and changes nothing. -/
theorem fedSince_append_single (key : AssemblyKey) (calls : List Part) {part : Part} (single : part.total ≤ 1) :
    fedSince key (calls ++ [part]) = fedSince key calls := by
  rw [fedSince_append_singleton, add_of_single _ single]
  split_ifs with same completed
  · -- Its own group has never collected anything.
    have alone : key.total ≤ 1 := by rw [← same]; exact single
    rw [fedSince_of_single alone]
  · simp at completed
  · rfl

/-- The parts of a complete set have the reference once for each of its places in the set. -/
theorem count_filterMap_latest {ref : MessageRef} {fed : List Part} {place : Option UInt8}
    (weight : ∀ index other, latest fed index = some other →
      other.message.refs.count ref = if place = some index then 1 else 0)
    {wanted : List UInt8} (covered : ∀ index ∈ wanted, ∃ other, latest fed index = some other) :
    (partRefs (wanted.filterMap (latest fed))).count ref = wanted.countP fun index => place = some index := by
  induction wanted with
  | nil => rfl
  | cons index wanted ih =>
    obtain ⟨other, found⟩ := covered index (by simp)
    have rest := ih fun index member => covered index (by simp [member])
    rw [List.filterMap_cons_some found, List.countP_cons, ← rest]
    simp only [partRefs, List.flatMap_cons, List.count_append, weight index other found, decide_eq_true_eq]
    exact Nat.add_comm _ _

/-- A completed message has the references of the latest parts of its group. -/
theorem refs_combine (parts : List Part) : (combine parts).refs = partRefs parts := rfl

/-- One more part returns the references of the message that it completes. -/
theorem returnedRefs_append_singleton (calls : List Part) (part : Part) :
    returnedRefs (calls ++ [part]) =
      returnedRefs calls ++ ((Assembler.addAll {} calls).add part).2.toList.flatMap Message.refs := by
  rw [returnedRefs, assemble_append_singleton, List.flatMap_append]
  rfl

/-- What one more part does to a reference that it does not have itself. -/
inductive Passes (ref : MessageRef) (place : Option (AssemblyKey × UInt8)) (calls : List Part) (part : Part) : Prop where
  /-- The part completes its group, which returns the reference if the group still holds it. -/
  | completes : part.total ≠ 255 → Covered part.total (fedSince part.key calls ++ [part]) →
      HeldAt ref (if place.map Prod.fst = some part.key then none else place) (calls ++ [part]) →
      (returnedRefs (calls ++ [part])).count ref = (returnedRefs calls).count ref +
        (if place.map Prod.fst = some part.key ∧ place ≠ some (part.key, part.index) then 1 else 0) →
      Passes ref place calls part
  /-- The part is stored, in the place of the reference if that has the same index. -/
  | stored : (part.total = 255 ∨ ¬ Covered part.total (fedSince part.key calls ++ [part])) →
      HeldAt ref (if place = some (part.key, part.index) then none else place) (calls ++ [part]) →
      (returnedRefs (calls ++ [part])).count ref = (returnedRefs calls).count ref →
      Passes ref place calls part
  /-- The part stands alone. -/
  | alone : part.total ≤ 1 → HeldAt ref place (calls ++ [part]) →
      (returnedRefs (calls ++ [part])).count ref = (returnedRefs calls).count ref →
      Passes ref place calls part

/-- A place inside the group it names. -/
def PlaceValid (place : Option (AssemblyKey × UInt8)) : Prop :=
  ∀ key index, place = some (key, index) → index ∈ indices key.total

/-- The index at which a group holds the reference, once a part without it has been stored. -/
private def placeAfter (place : Option (AssemblyKey × UInt8)) (part : Part) : Option UInt8 :=
  if place.map Prod.fst = some part.key ∧ place ≠ some (part.key, part.index) then place.map Prod.snd else none

/-- A part without the reference takes the place of the earlier part with its index. -/
private theorem placeAfter_eq_some {place : Option (AssemblyKey × UInt8)} {part : Part} {index : UInt8} :
    placeAfter place part = some index ↔ place = some (part.key, index) ∧ part.index ≠ index := by
  rcases place with _ | ⟨key, at_⟩
  · simp [placeAfter]
  · by_cases own : key = part.key
    · by_cases again : at_ = part.index
      · subst again own
        simp [placeAfter]
      · subst own
        simp only [placeAfter, Option.map_some, ne_eq, Option.some.injEq, Prod.mk.injEq, true_and, again,
          not_false_eq_true, and_self, if_true]
        exact ⟨fun same => ⟨same, fun other => again (same.trans other.symm)⟩, fun both => both.1⟩
    · simp [placeAfter, own]

/-- The weights of a group, once a part without the reference is among its parts. -/
private theorem HeldAt.weight_append {ref : MessageRef} {place : Option (AssemblyKey × UInt8)} {calls : List Part}
    (heldAt : HeldAt ref place calls) {part : Part} (unrelated : ref ∉ part.message.refs) (index : UInt8)
    (other : Part) (found : latest (fedSince part.key calls ++ [part]) index = some other) :
    other.message.refs.count ref = if placeAfter place part = some index then 1 else 0 := by
  rw [latest_append_singleton] at found
  split_ifs at found with same
  · rw [← Option.some.inj found, List.count_eq_zero_of_not_mem unrelated, if_neg]
    exact fun held => (placeAfter_eq_some.mp held).2 same
  · rw [heldAt _ _ _ found]
    simp [placeAfter_eq_some, same]

/-- A complete group returns the reference if it holds it. -/
private theorem HeldAt.count_inOrder {ref : MessageRef} {place : Option (AssemblyKey × UInt8)} {calls : List Part}
    (heldAt : HeldAt ref place calls) (valid : PlaceValid place) {part : Part}
    (unrelated : ref ∉ part.message.refs) (covered : Covered part.total (fedSince part.key calls ++ [part])) :
    (partRefs (inOrder part.total (fedSince part.key calls ++ [part]))).count ref =
      if place.map Prod.fst = some part.key ∧ place ≠ some (part.key, part.index) then 1 else 0 := by
  rw [inOrder, count_filterMap_latest (heldAt.weight_append unrelated) covered.latest]
  -- The indices are distinct, so the place is counted at most once.
  cases held : placeAfter place part with
  | none =>
    rw [if_neg]
    · simp
    · intro both
      simp [placeAfter, both] at held
      simp [held] at both
  | some index =>
    obtain ⟨own, different⟩ := placeAfter_eq_some.mp held
    rw [if_pos]
    · have once := List.count_eq_one_of_mem (indices_nodup part.total) (valid part.key index own)
      simpa [List.count, beq_eq_decide, eq_comm] using once
    · simp [own, Ne.symm different]

/-- Every part without the reference does one of the three. -/
theorem HeldAt.passes {ref : MessageRef} {place : Option (AssemblyKey × UInt8)} {calls : List Part}
    (heldAt : HeldAt ref place calls) (valid : PlaceValid place) (sound : ∀ other ∈ calls, other.Sound)
    {part : Part} (partSound : part.Sound) (unrelated : ref ∉ part.message.refs) :
    Passes ref place calls part := by
  rcases partSound with single | numbered
  · -- A message of one part is returned at once and leaves the groups alone.
    refine .alone single (fun key index other found => ?_) ?_
    · rw [fedSince_append_single key calls single] at found
      exact heldAt key index other found
    · rw [returnedRefs_append_singleton, add_of_single _ single]
      simpa using List.count_eq_zero_of_not_mem unrelated
  rcases addAll_add_cases sound numbered with ⟨small, covered, added⟩ | ⟨open_, added⟩
  · -- The part completes its group, which is returned with what it holds.
    refine .completes small covered (fun key index other found => ?_) ?_
    · rw [fedSince_append_singleton, added] at found
      split_ifs at found with same completed
      · simp [latest] at found
      · simp at completed
      · rw [heldAt key index other found]
        -- Another group still holds what it held.
        by_cases own : place = some (key, index)
        · simp [own, Ne.symm same]
        · split_ifs <;> simp_all
    · rw [returnedRefs_append_singleton, added, List.count_append]
      simp only [Option.toList_some, List.flatMap_singleton, refs_combine]
      rw [heldAt.count_inOrder valid unrelated covered]
  · -- The part is stored, in place of an earlier one with its index.
    refine .stored open_ (fun key index other found => ?_) ?_
    · rw [fedSince_append_singleton, added] at found
      split_ifs at found with same completed
      · simp at completed
      · subst same
        rw [heldAt.weight_append unrelated index other found]
        refine if_congr ?_ rfl rfl
        rw [placeAfter_eq_some]
        -- The reference is lost where its own part is replaced.
        by_cases again : place = some (part.key, part.index)
        · simp [again]
        · simp only [again, if_false]
          exact ⟨fun both => both.1, fun own => ⟨own, fun same => again (same ▸ own)⟩⟩
      · -- Another group holds what it held.
        rw [heldAt key index other found]
        by_cases own : place = some (key, index)
        · simp [own, Ne.symm same]
        · split_ifs <;> simp_all
    · rw [returnedRefs_append_singleton, added]
      simp

/-- A reference that the assembler does not hold is not returned by parts without it. -/
theorem HeldAt.none_append {ref : MessageRef} {calls more : List Part} (heldAt : HeldAt ref none calls)
    (sound : ∀ other ∈ calls ++ more, other.Sound) (unrelated : ∀ other ∈ more, ref ∉ other.message.refs) :
    HeldAt ref none (calls ++ more) ∧ (returnedRefs (calls ++ more)).count ref = (returnedRefs calls).count ref := by
  induction more using List.reverseRecOn with
  | nil => simpa using heldAt
  | append_singleton more part ih =>
    have earlier : ∀ other ∈ calls ++ more, other.Sound := fun other member => sound other (by
      rw [← List.append_assoc]
      exact List.mem_append_left _ member)
    obtain ⟨held, counted⟩ := ih earlier fun other member => unrelated other (by simp [member])
    have valid : PlaceValid none := fun _ _ place => by simp at place
    rw [← List.append_assoc, ← counted]
    cases held.passes valid earlier (sound part (by simp)) (unrelated part (by simp)) with
    | completes _ _ held counted => exact ⟨by simpa using held, by simpa using counted⟩
    | stored _ held counted => exact ⟨by simpa using held, counted⟩
    | alone _ held counted => exact ⟨held, counted⟩

/-- Before its own part comes, a reference is neither held nor returned. -/
theorem HeldAt.before {ref : MessageRef} {calls : List Part} (sound : ∀ other ∈ calls, other.Sound)
    (unrelated : ∀ other ∈ calls, ref ∉ other.message.refs) :
    HeldAt ref none calls ∧ (returnedRefs calls).count ref = 0 := by
  have start : HeldAt ref none [] := fun key index other found => by simp [fedSince, latest] at found
  simpa [returnedRefs, assemble] using start.none_append sound unrelated

/-- What happens to a reference when its own part comes. -/
inductive Enters (ref : MessageRef) (calls : List Part) (part : Part) : Prop where
  /-- It is returned at once, since the part stands alone. -/
  | alone : part.total ≤ 1 → HeldAt ref none (calls ++ [part]) →
      (returnedRefs (calls ++ [part])).count ref = 1 → Enters ref calls part
  /-- It is returned at once, since the part completes its group. -/
  | completes : part.Numbered → part.total ≠ 255 → Covered part.total (fedSince part.key calls ++ [part]) →
      HeldAt ref none (calls ++ [part]) → (returnedRefs (calls ++ [part])).count ref = 1 → Enters ref calls part
  /-- The assembler holds it in the place of the part. -/
  | stored : part.Numbered → (part.total = 255 ∨ ¬ Covered part.total (fedSince part.key calls ++ [part])) →
      HeldAt ref (some (part.key, part.index)) (calls ++ [part]) →
      (returnedRefs (calls ++ [part])).count ref = 0 → Enters ref calls part

/-- A reference that comes with its part does one of the three. -/
theorem enters {ref : MessageRef} {calls : List Part} (sound : ∀ other ∈ calls, other.Sound)
    (unrelated : ∀ other ∈ calls, ref ∉ other.message.refs) {part : Part} (partSound : part.Sound)
    (own : part.message.refs = [ref]) : Enters ref calls part := by
  obtain ⟨heldAt, counted⟩ := HeldAt.before sound unrelated
  -- The part itself is the only one of its group that has the reference.
  have weight : ∀ index other, latest (fedSince part.key calls ++ [part]) index = some other →
      other.message.refs.count ref = if some part.index = some index then 1 else 0 := by
    intro index other found
    rw [latest_append_singleton] at found
    split_ifs at found with same
    · rw [← Option.some.inj found, own, same]
      simp
    · rw [heldAt _ _ _ found]
      simp [same]
  rcases partSound with single | numbered
  · -- A message of one part is returned with its reference.
    refine .alone single (fun key index other found => ?_) ?_
    · rw [fedSince_append_single key calls single] at found
      exact heldAt key index other found
    · rw [returnedRefs_append_singleton, add_of_single _ single, List.count_append, counted]
      simp [own]
  rcases addAll_add_cases sound numbered with ⟨small, covered, added⟩ | ⟨open_, added⟩
  · -- The part completes its group, and its reference is returned once.
    refine .completes numbered small covered (fun key index other found => ?_) ?_
    · rw [fedSince_append_singleton, added] at found
      split_ifs at found with same completed
      · simp [latest] at found
      · simp at completed
      · exact heldAt key index other found
    · have member : part.index ∈ indices part.total := mem_indices.mpr ⟨numbered.positive, numbered.inside⟩
      rw [returnedRefs_append_singleton, added, List.count_append, counted]
      simp only [Option.toList_some, List.flatMap_singleton, refs_combine, inOrder]
      rw [count_filterMap_latest weight covered.latest]
      simpa [List.count, beq_eq_decide, eq_comm] using List.count_eq_one_of_mem (indices_nodup part.total) member
  · -- The part is stored, and holds its reference from now on.
    refine .stored numbered open_ (fun key index other found => ?_) ?_
    · rw [fedSince_append_singleton, added] at found
      split_ifs at found with same completed
      · simp at completed
      · subst same
        rw [weight index other found]
        simp
      · rw [heldAt key index other found]
        simp [same]
    · rw [returnedRefs_append_singleton, added, List.count_append, counted]
      simp

/-- Parts without the reference return it at most once, and then the assembler holds it no longer. -/
theorem HeldAt.atMostOnce {ref : MessageRef} {place : Option (AssemblyKey × UInt8)} {calls more : List Part}
    (heldAt : HeldAt ref place calls) (valid : PlaceValid place)
    (once : (returnedRefs calls).count ref + place.toList.length ≤ 1)
    (sound : ∀ other ∈ calls ++ more, other.Sound) (unrelated : ∀ other ∈ more, ref ∉ other.message.refs) :
    (returnedRefs (calls ++ more)).count ref ≤ 1 := by
  -- The induction is on the parts still to come.
  induction more generalizing calls place with
  | nil =>
    rw [List.append_nil]
    omega
  | cons part more ih =>
    have split : calls ++ part :: more = (calls ++ [part]) ++ more := by simp
    have earlier : ∀ other ∈ calls, other.Sound := fun other member => sound other (by simp [member])
    have later : ∀ other ∈ more, ref ∉ other.message.refs := fun other member => unrelated other (by simp [member])
    have dropped : PlaceValid none := fun _ _ place => by simp at place
    rw [split] at sound ⊢
    cases heldAt.passes valid earlier (sound part (by simp)) (unrelated part (by simp)) with
    | completes _ _ held counted =>
      -- The group that holds the reference is returned, or another is.
      by_cases same : place.map Prod.fst = some part.key
      · rw [if_pos same] at held
        have one : place.toList.length = 1 := by
          obtain ⟨_, found, _⟩ := Option.map_eq_some_iff.mp same
          simp [found]
        exact ih held dropped (by rw [counted]; split_ifs <;> simp <;> omega) sound later
      · rw [if_neg same] at held
        exact ih held valid (by rw [counted, if_neg (fun both => same both.1)]; exact once) sound later
    | stored _ held counted =>
      -- The part that holds the reference is replaced, or it stays.
      by_cases again : place = some (part.key, part.index)
      · rw [if_pos again] at held
        exact ih held dropped (by rw [counted]; simp; omega) sound later
      · rw [if_neg again] at held
        exact ih held valid (by rw [counted]; exact once) sound later
    | alone _ held counted => exact ih held valid (by rw [counted]; exact once) sound later

/-- Every reference is returned at most once. -/
theorem returnedRefs_atMostOnce {ref : MessageRef} {before after : List Part} {part : Part}
    (sound : ∀ other ∈ before ++ part :: after, other.Sound) (own : part.message.refs = [ref])
    (unrelated : ∀ other ∈ before ++ after, ref ∉ other.message.refs) :
    (returnedRefs (before ++ part :: after)).count ref ≤ 1 := by
  have earlier : ∀ other ∈ before, other.Sound := fun other member => sound other (by simp [member])
  have first : ∀ other ∈ before, ref ∉ other.message.refs := fun other member => unrelated other (by simp [member])
  have later : ∀ other ∈ after, ref ∉ other.message.refs := fun other member => unrelated other (by simp [member])
  have nowhere : PlaceValid none := fun _ _ place => by simp at place
  have split : before ++ part :: after = (before ++ [part]) ++ after := by simp
  rw [split] at sound ⊢
  cases enters earlier first (sound part (by simp)) own with
  | alone _ held counted => exact held.atMostOnce nowhere (by simp [counted]) sound later
  | completes _ _ _ held counted => exact held.atMostOnce nowhere (by simp [counted]) sound later
  | stored numbered _ held counted =>
    refine held.atMostOnce ?_ (by simp [counted]) sound later
    intro key index place
    simp only [Option.some.injEq, Prod.mk.injEq] at place
    rw [← place.1, ← place.2]
    exact mem_indices.mpr ⟨numbered.positive, numbered.inside⟩

/-! The set of a part, as the later parts of its group come. -/

/-- What has become of a reference after its own part and some later parts. -/
inductive Fate (ref : MessageRef) (before : List Part) (part : Part) (after : List Part) : Prop where
  /-- The assembler holds the reference, and its set is still open. -/
  | waiting : HeldAt ref (some (part.key, part.index)) (before ++ part :: after) →
      (returnedRefs (before ++ part :: after)).count ref = 0 →
      openSet part.total (groupIndices part.key (before ++ part :: after)) =
        openSet part.total (groupIndices part.key before) ++ part.index :: groupIndices part.key after →
      part.index ∉ groupIndices part.key after →
      (∀ during, during <+: groupIndices part.key after → ¬ ∀ index ∈ indices part.total,
        index ∈ openSet part.total (groupIndices part.key before) ++ part.index :: during) →
      Fate ref before part after
  /-- The reference has been returned. -/
  | returned : HeldAt ref none (before ++ part :: after) →
      (returnedRefs (before ++ part :: after)).count ref = 1 → Reaches before part after →
      Fate ref before part after
  /-- Another part has come with the same index, while the set was open. -/
  | lost : HeldAt ref none (before ++ part :: after) →
      (returnedRefs (before ++ part :: after)).count ref = 0 →
      part.index ∈ groupIndices part.key after → ¬ Reaches before part after → Fate ref before part after

/-- Once a part has reached a message, later parts change nothing. -/
theorem Reaches.append {before after : List Part} {part : Part} (reaches : Reaches before part after) (next : Part) :
    Reaches before part (after ++ [next]) := by
  obtain ⟨during, early, fresh, all⟩ := reaches
  refine ⟨during, ?_, fresh, all⟩
  rw [groupIndices_append_singleton]
  exact early.trans (List.prefix_append _ _)

/-- A part whose index has come again reaches nothing that it has not reached before. -/
theorem not_reaches_append {before after : List Part} {part : Part} (repeated : part.index ∈ groupIndices part.key after)
    (not : ¬ Reaches before part after) (next : Part) : ¬ Reaches before part (after ++ [next]) := by
  rintro ⟨during, early, fresh, all⟩
  rw [groupIndices_append_singleton] at early
  -- A longer set than before would have the repeated index.
  rcases List.prefix_or_prefix_of_prefix early (List.prefix_append _ _) with short | long
  · exact not ⟨during, short, fresh, all⟩
  · exact fresh (long.subset repeated)

/-- A part completes its group exactly when it completes the open set. -/
private theorem covered_iff_openSet {calls : List Part} (sound : ∀ other ∈ calls, other.Sound) {part : Part}
    (several : 2 ≤ part.total) (small : part.total ≠ 255) :
    Covered part.total (fedSince part.key calls ++ [part]) ↔ ∀ index ∈ indices part.total,
      index ∈ openSet part.total (groupIndices part.key calls) ++ [part.index] := by
  have indexed : (fedSince part.key calls).map Part.index = openSet part.total (groupIndices part.key calls) :=
    map_index_fedSince sound several small
  rw [covered_iff, List.map_append, indexed]
  simp

/-- The fate of a reference when one more part comes without it. -/
theorem Fate.append {ref : MessageRef} {before after : List Part} {part next : Part}
    (fate : Fate ref before part after) (numbered : part.Numbered) (small : part.total ≠ 255)
    (sound : ∀ other ∈ before ++ part :: after, other.Sound) (nextSound : next.Sound)
    (unrelated : ref ∉ next.message.refs) : Fate ref before part (after ++ [next]) := by
  -- The parts so far are the calls before the next one.
  have split : before ++ part :: (after ++ [next]) = (before ++ part :: after) ++ [next] := by simp
  have whole : ∀ other ∈ (before ++ part :: after) ++ [next], other.Sound := by
    intro other member
    rcases List.mem_append.mp member with earlier | now
    · exact sound other earlier
    · rw [List.mem_singleton.mp now]
      exact nextSound
  have alone : ∀ other ∈ [next], ref ∉ other.message.refs := by simpa using unrelated
  cases fate with
  -- A returned reference is nowhere held, so no later part returns it again.
  | returned held counted reaches =>
    obtain ⟨held', counted'⟩ := held.none_append whole alone
    refine .returned ?_ ?_ (reaches.append next)
    · rwa [split]
    · rw [split, counted', counted]
  -- A lost reference is nowhere held either.
  | lost held counted repeated not =>
    obtain ⟨held', counted'⟩ := held.none_append whole alone
    refine .lost ?_ ?_ ?_ (not_reaches_append repeated not next)
    · rwa [split]
    · rw [split, counted', counted]
    · rw [groupIndices_append_singleton]
      exact List.mem_append_left _ repeated
  | waiting held counted open_ fresh incomplete =>
    have valid : PlaceValid (some (part.key, part.index)) := by
      intro key index place
      simp only [Option.some.injEq, Prod.mk.injEq] at place
      rw [← place.1, ← place.2]
      exact mem_indices.mpr ⟨numbered.positive, numbered.inside⟩
    -- A part of another group leaves the set as it is.
    have other (different : next.key ≠ part.key)
        (held : HeldAt ref (some (part.key, part.index)) ((before ++ part :: after) ++ [next]))
        (counted' : (returnedRefs ((before ++ part :: after) ++ [next])).count ref =
          (returnedRefs (before ++ part :: after)).count ref) : Fate ref before part (after ++ [next]) := by
      have same : groupIndices part.key (after ++ [next]) = groupIndices part.key after := by
        simp [groupIndices_append_singleton, different]
      refine .waiting (by rwa [split]) (by rw [split, counted', counted]) ?_ (by rwa [same]) (by rwa [same])
      rw [split, groupIndices_append_singleton, if_neg different, List.append_nil, open_, same]
    by_cases same : next.key = part.key
    · -- The next part belongs to the same group.
      have total : next.total = part.total := congrArg AssemblyKey.total same
      have grown : groupIndices part.key (after ++ [next]) = groupIndices part.key after ++ [next.index] := by
        rw [groupIndices_append_singleton, if_pos same]
      -- The next part completes the set exactly when it completes its group.
      have full : Covered next.total (fedSince next.key (before ++ part :: after) ++ [next]) ↔
          ∀ index ∈ indices part.total, index ∈ openSet part.total (groupIndices part.key before) ++
            part.index :: groupIndices part.key (after ++ [next]) := by
        rw [covered_iff_openSet sound (total ▸ numbered.multipart) (total ▸ small), total, same, open_, grown]
        simp
      cases held.passes valid sound nextSound unrelated with
      | alone single => exact absurd (UInt8.le_trans numbered.multipart (total ▸ single)) (by decide)
      | completes _ covered held' counted' =>
        -- A set that the index has completed again would have been complete before.
        have different : part.index ≠ next.index := by
          intro again
          refine incomplete _ (List.prefix_refl _) fun index member => ?_
          have found := full.mp covered index member
          rw [grown, ← again] at found
          simp only [List.mem_append, List.mem_cons, List.not_mem_nil, or_false] at found ⊢
          tauto
        simp only [Option.map_some, same, if_true] at held'
        simp only [Option.map_some, same, ne_eq, Option.some.injEq, Prod.mk.injEq, true_and, different,
          not_false_eq_true, and_self, if_true, counted] at counted'
        refine .returned (by rwa [split]) (by rw [split, counted']) ?_
        exact ⟨_, List.prefix_refl _, by rw [grown]; simp [fresh, different], full.mp covered⟩
      | stored unfinished held' counted' =>
        -- The group stays open.
        have notFull := mt full.mpr (unfinished.resolve_left fun large => small (total ▸ large))
        by_cases again : part.index = next.index
        · -- A repeated index replaces the part, and its reference is lost.
          simp only [same, again, if_true] at held'
          refine .lost (by rwa [split]) (by rw [split, counted', counted]) (by simp [grown, again]) ?_
          rintro ⟨during, early, freshDuring, all⟩
          rw [grown] at early
          rcases List.prefix_concat_iff.mp early with whole | short
          · exact freshDuring (by simp [whole, again])
          · exact incomplete during short all
        · -- Another index leaves the part where it is.
          have kept : some (part.key, part.index) ≠ some (next.key, next.index) := by simp [again]
          rw [if_neg kept] at held'
          refine .waiting (by rwa [split]) (by rw [split, counted', counted]) ?_ (by simp [grown, fresh, again]) ?_
          · rw [split, groupIndices_append_singleton, if_pos same, openSet_append_singleton, open_, grown, if_neg]
            · simp
            · simpa [grown] using notFull
          · -- No earlier set was complete, nor is this one.
            intro during early
            rw [grown] at early
            rcases List.prefix_concat_iff.mp early with whole | short
            · rw [whole, ← grown]
              exact notFull
            · exact incomplete during short
    · -- The next part belongs to another group.
      cases held.passes valid sound nextSound unrelated with
      | alone _ held' counted' => exact other same held' counted'
      | completes _ _ held' counted' =>
        have elsewhere : ¬ some part.key = some next.key := fun equal => same (Option.some.inj equal).symm
        simp only [Option.map_some, elsewhere, if_false] at held'
        simp only [Option.map_some, elsewhere, false_and, if_false, Nat.add_zero] at counted'
        exact other same held' counted'
      | stored _ held' counted' =>
        have elsewhere : ¬ some (part.key, part.index) = some (next.key, next.index) := by
          intro equal
          exact same (Prod.mk.inj (Option.some.inj equal)).1.symm
        rw [if_neg elsewhere] at held'
        exact other same held' counted'

/-- The fate of a reference among all parts. -/
theorem fate {ref : MessageRef} {before after : List Part} {part : Part}
    (sound : ∀ other ∈ before ++ part :: after, other.Sound) (own : part.message.refs = [ref])
    (unrelated : ∀ other ∈ before ++ after, ref ∉ other.message.refs) (several : 2 ≤ part.total)
    (small : part.total ≠ 255) : Fate ref before part after := by
  -- The parts before the reference do not have it.
  have earlier : ∀ other ∈ before, other.Sound := fun other member => sound other (by simp [member])
  have first : ∀ other ∈ before, ref ∉ other.message.refs := fun other member => unrelated other (by simp [member])
  have partSound := sound part (by simp)
  have numbered := partSound.numbered several
  induction after using List.reverseRecOn with
  | nil =>
    -- Right after its own part the reference is returned or waits.
    have complete := covered_iff_openSet earlier several small
    cases enters earlier first partSound own with
    | alone single => exact absurd (UInt8.le_trans several single) (by decide)
    | completes _ _ covered held counted =>
      exact .returned held counted ⟨[], List.nil_prefix, by simp, complete.mp covered⟩
    | stored _ open_ held counted =>
      have notFull := mt complete.mpr (open_.resolve_left small)
      refine .waiting held counted ?_ (by simp [groupIndices]) ?_
      · rw [groupIndices_append_singleton, if_pos rfl, openSet_append_singleton, if_neg]
        · rfl
        · simpa using notFull
      · intro during early
        rw [List.prefix_nil.mp early]
        exact notFull
  | append_singleton after next ih =>
    -- Every further part moves the fate along.
    have before' : ∀ other ∈ before ++ part :: after, other.Sound := by
      intro other member
      apply sound
      rw [← List.cons_append, ← List.append_assoc]
      exact List.mem_append_left _ member
    have now := ih before' fun other member => unrelated other (by
      rw [← List.append_assoc]
      exact List.mem_append_left _ member)
    exact now.append numbered small before' (sound next (by simp)) (unrelated next (by simp))

/-- A part of a message of several parts returns its reference exactly when it reaches a message. -/
theorem count_returnedRefs_iff {ref : MessageRef} {before after : List Part} {part : Part}
    (sound : ∀ other ∈ before ++ part :: after, other.Sound) (own : part.message.refs = [ref])
    (unrelated : ∀ other ∈ before ++ after, ref ∉ other.message.refs) (several : 2 ≤ part.total)
    (small : part.total ≠ 255) :
    (returnedRefs (before ++ part :: after)).count ref = 1 ↔ Reaches before part after := by
  cases fate sound own unrelated several small with
  | waiting _ counted _ _ incomplete =>
    refine ⟨fun one => by omega, fun ⟨during, early, _, all⟩ => ?_⟩
    exact absurd all (incomplete during early)
  | returned _ counted reaches => exact ⟨fun _ => reaches, fun _ => counted⟩
  | lost _ counted _ not => exact ⟨fun one => by omega, fun reaches => absurd reaches not⟩

/-- A part that stands alone returns its reference. -/
theorem count_returnedRefs_of_single {ref : MessageRef} {before after : List Part} {part : Part}
    (sound : ∀ other ∈ before ++ part :: after, other.Sound) (own : part.message.refs = [ref])
    (unrelated : ∀ other ∈ before ++ after, ref ∉ other.message.refs) (single : part.total ≤ 1) :
    (returnedRefs (before ++ part :: after)).count ref = 1 := by
  have earlier : ∀ other ∈ before, other.Sound := fun other member => sound other (by simp [member])
  have split : before ++ part :: after = (before ++ [part]) ++ after := by simp
  cases enters earlier (fun other member => unrelated other (by simp [member])) (sound part (by simp)) own with
  | alone _ held counted =>
    rw [split] at sound ⊢
    rw [(held.none_append sound fun other member => unrelated other (by simp [member])).2, counted]
  | completes numbered => exact absurd (UInt8.le_trans numbered.multipart single) (by decide)
  | stored numbered => exact absurd (UInt8.le_trans numbered.multipart single) (by decide)

end Wwan.Sms
