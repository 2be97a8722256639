import Mathlib.Data.List.Induction
import Mathlib.Tactic.SplitIfs
import Wwan.Sms.Assembler

/-! The assembler completes a group exactly when all of its indices have been fed. -/

namespace Wwan.Sms

/-- The parts of one group fed since that group last completed, in call order. -/
def fedSince (key : AssemblyKey) (calls : List Part) : List Part :=
  (calls.foldl (fun (state : Assembler × List Part) part =>
    ((state.1.add part).1,
      -- A completion of the group starts its collection over.
      if part.key = key then if (state.1.add part).2.isSome then [] else state.2 ++ [part]
      else state.2)) ({}, [])).2

/-- The part most recently fed with an index. -/
def latest (fed : List Part) (index : UInt8) : Option Part :=
  fed.reverse.find? fun part => part.index == index

/-- The indices of a message with the given number of parts. -/
def indices (total : UInt8) : List UInt8 :=
  (List.range total.toNat).map fun i => UInt8.ofNat (i + 1)

/-- The latest part of every index, in index order. -/
def inOrder (total : UInt8) (fed : List Part) : List Part :=
  (indices total).filterMap (latest fed)

/-- The message whose content is the concatenation of the given parts. -/
def combine (parts : List Part) : Message :=
  { (parts.headD {}).message with
    text := parts.flatMap fun part => part.message.text
    data := parts.flatMap fun part => part.message.data
    pdu := (parts.map fun part => part.message.pdu).headD []
    pdus := parts.map fun part => part.message.pdu
    refs := parts.flatMap fun part => part.message.refs }

/-- A multipart part numbered inside its own message. -/
structure Part.Numbered (part : Part) : Prop where
  multipart : 2 ≤ part.total
  positive : 1 ≤ part.index
  inside : part.index ≤ part.total

/-- What one call of `Add` should do after the calls made before it. -/
structure CallCorrect (before : List Part) (part : Part) : Prop where
  /-- The call completes exactly when every index has been fed since the last completion. -/
  completes : ((Assembler.addAll {} before).add part).2.isSome ↔
    ∀ index, 1 ≤ index → index ≤ part.total →
      ∃ fed ∈ fedSince part.key before ++ [part], fed.index = index
  /-- The completed message concatenates the group's parts in index order. -/
  message : ∀ message, ((Assembler.addAll {} before).add part).2 = some message →
    message = combine (inOrder part.total (fedSince part.key before ++ [part]))
  /-- The stored parts of every other group stay as they were. -/
  frame : ∀ other, other ≠ part.key →
    ((Assembler.addAll {} before).add part).1.parts.get other =
      (Assembler.addAll {} before).parts.get other

/-- Every call of a sequence does what it should. -/
def AssemblesCorrectly (calls : List Part) : Prop :=
  ∀ before part after, calls = before ++ part :: after → CallCorrect before part

/-- Some group of 255 parts has been fed all of its indices. -/
def Feeds255 (calls : List Part) : Prop :=
  ∃ number ref, ∀ index : UInt8, 1 ≤ index →
    ∃ part ∈ calls, part.key = { number, ref, total := 255 } ∧ part.index = index

/-- One more call extends the assembler by that call. -/
@[simp] theorem addAll_append_singleton (a : Assembler) (calls : List Part) (part : Part) :
    a.addAll (calls ++ [part]) = ((a.addAll calls).add part).1 := by
  simp [Assembler.addAll]

/-- Following a group's parts runs the assembler alongside. -/
private theorem fedSince_state (key : AssemblyKey) (calls : List Part) :
    calls.foldl (fun (state : Assembler × List Part) part =>
      ((state.1.add part).1,
        if part.key = key then if (state.1.add part).2.isSome then [] else state.2 ++ [part]
        else state.2)) ({}, []) = (Assembler.addAll {} calls, fedSince key calls) := by
  refine Prod.ext ?_ rfl
  -- The first component never looks at the collected parts.
  induction calls using List.reverseRecOn with
  | nil => rfl
  | append_singleton calls part ih => simp [List.foldl_append, ih]

/-- A call adds its part to its own group, or empties the group it completes. -/
theorem fedSince_append_singleton (key : AssemblyKey) (calls : List Part) (part : Part) :
    fedSince key (calls ++ [part]) =
      if part.key = key then
        if ((Assembler.addAll {} calls).add part).2.isSome then []
        else fedSince key calls ++ [part]
      else fedSince key calls := by
  conv_lhs => unfold fedSince
  rw [List.foldl_append, fedSince_state]
  rfl

/-- The collected parts of a group are calls of that group. -/
theorem mem_fedSince {key : AssemblyKey} {calls : List Part} {part : Part}
    (member : part ∈ fedSince key calls) : part ∈ calls ∧ part.key = key := by
  induction calls using List.reverseRecOn with
  | nil => simp [fedSince] at member
  | append_singleton calls last ih =>
    rw [fedSince_append_singleton] at member
    split_ifs at member with same completed
    · simp at member
    · rcases List.mem_append.mp member with earlier | now
      · exact ⟨by simp [(ih earlier).1], (ih earlier).2⟩
      · simp only [List.mem_singleton] at now
        exact ⟨by simp [now], now ▸ same⟩
    · exact ⟨by simp [(ih member).1], (ih member).2⟩

/-- The newest part is the latest of its own index. -/
theorem latest_append_singleton (fed : List Part) (part : Part) (index : UInt8) :
    latest (fed ++ [part]) index = if part.index = index then some part else latest fed index := by
  simp only [latest, List.reverse_append, List.reverse_singleton, List.singleton_append,
    List.find?_cons]
  by_cases same : part.index = index
  · simp [same]
  · rw [if_neg same, beq_eq_false_iff_ne.mpr same]

/-- An index has a latest part exactly when it has been fed. -/
theorem latest_isSome (fed : List Part) (index : UInt8) :
    (∃ part, latest fed index = some part) ↔ ∃ part ∈ fed, part.index = index := by
  rw [← Option.isSome_iff_exists, latest, List.find?_isSome]
  simp

/-- A latest part carries the index it was looked up by. -/
theorem latest_spec {fed : List Part} {index : UInt8} {part : Part}
    (found : latest fed index = some part) : part ∈ fed ∧ part.index = index := by
  have member := List.mem_of_find?_eq_some found
  have named := List.find?_some found
  exact ⟨by simpa using member, by simpa using named⟩

/-- The valid indices are those from one to the total. -/
theorem mem_indices {total index : UInt8} : index ∈ indices total ↔ 1 ≤ index ∧ index ≤ total := by
  have bound := index.toNat_lt
  have totalBound := total.toNat_lt
  simp only [indices, List.mem_map, List.mem_range, UInt8.le_iff_toNat_le]
  constructor
  · rintro ⟨i, below, rfl⟩
    rw [UInt8.toNat_ofNat_of_lt' (by simp [UInt8.size]; omega)]
    simp
    omega
  · rintro ⟨positive, inside⟩
    refine ⟨index.toNat - 1, ?_, ?_⟩
    · simp at positive; omega
    · have : index.toNat - 1 + 1 = index.toNat := by simp at positive; omega
      rw [this, UInt8.ofNat_toNat]

/-- No index occurs twice. -/
theorem indices_nodup (total : UInt8) : (indices total).Nodup := by
  have totalBound := total.toNat_lt
  refine List.Nodup.map_on ?_ List.nodup_range
  intro i left j right same
  simp only [List.mem_range] at left right
  have values := congrArg UInt8.toNat same
  rw [UInt8.toNat_ofNat_of_lt' (by simp [UInt8.size]; omega),
    UInt8.toNat_ofNat_of_lt' (by simp [UInt8.size]; omega)] at values
  omega

/-- There are as many indices as parts. -/
@[simp] theorem indices_length (total : UInt8) : (indices total).length = total.toNat := by
  simp [indices]

/-- The assembler stores, for every group, the latest part of each index fed since completion. -/
def Tracks (a : Assembler) (fed : AssemblyKey → List Part) : Prop :=
  ∀ key index, ((a.parts.get key).getD ∅).get index = latest (fed key) index

/-- A loop whose remaining indices are all stored appends their parts in order. -/
theorem assembleFrom_complete (parts : GoMap UInt8 Part) (total : UInt8) (small : total.toNat < 255)
    (remaining : List Part) (steps : Nat) (index : UInt8) (result : Message)
    (counted : index.toNat + remaining.length = total.toNat + 1)
    (found : ∀ j (inside : j < remaining.length),
      parts.get (UInt8.ofNat (index.toNat + j)) = some remaining[j])
    (enough : remaining.length < steps) :
    assembleFrom parts total steps index result = some (remaining.foldl appendPart result) := by
  -- The index stays at most 255, so it never wraps before it passes the total.
  induction remaining generalizing steps index result with
  | nil =>
    -- No part remains, and the index has passed the total.
    obtain ⟨steps, rfl⟩ : ∃ less, steps = less + 1 := ⟨steps - 1, by simp at enough; omega⟩
    have past : ¬ index ≤ total := by
      rw [UInt8.le_iff_toNat_le]
      simp at counted
      omega
    simp [assembleFrom, past]
  | cons part remaining ih =>
    -- The part at the index is stored, and the loop goes on with the next.
    obtain ⟨steps, rfl⟩ : ∃ less, steps = less + 1 := ⟨steps - 1, by simp at enough; omega⟩
    simp only [List.length_cons] at counted enough
    have inside : index ≤ total := by rw [UInt8.le_iff_toNat_le]; omega
    have stored : parts.get index = some part := by
      simpa [UInt8.ofNat_toNat] using found 0 (Nat.zero_lt_succ _)
    -- The next index does not wrap.
    have next : (index + 1).toNat = index.toNat + 1 := by
      rw [UInt8.toNat_add]
      exact Nat.mod_eq_of_lt (by simp; omega)
    rw [assembleFrom, if_pos inside, stored]
    refine ih steps (index + 1) (appendPart result part) (by omega) ?_ (by omega)
    intro j below
    have shifted := found (j + 1) (by simp; omega)
    rw [next, Nat.add_assoc, Nat.add_comm 1 j]
    simpa using shifted

/-- With 255 parts the index wraps before it passes the total, so the loop never finishes. -/
theorem assembleFrom_255 (parts : GoMap UInt8 Part) (steps : Nat) (index : UInt8)
    (result : Message) : assembleFrom parts 255 steps index result = none := by
  induction steps generalizing index result with
  | zero => rfl
  | succ steps ih =>
    have inside : index ≤ 255 := by
      rw [UInt8.le_iff_toNat_le]
      exact Nat.le_of_lt_succ index.toNat_lt
    rw [assembleFrom, if_pos inside]
    cases parts.get index with
    | none => rfl
    | some current => exact ih _ _

/-- A missing index stops the loop, so more steps than its distance change nothing. -/
theorem assembleFrom_steps (parts : GoMap UInt8 Part) (total : UInt8) (distance : Nat)
    (index : UInt8) (missing : parts.get (index + UInt8.ofNat distance) = none)
    (steps more : Nat) (enough : distance < steps) (result : Message) :
    assembleFrom parts total (steps + more) index result =
      assembleFrom parts total steps index result := by
  induction distance generalizing steps index result with
  | zero =>
    obtain ⟨steps, rfl⟩ : ∃ less, steps = less + 1 := ⟨steps - 1, by omega⟩
    have missing : parts.get index = none := by simpa [UInt8.add_zero] using missing
    simp [assembleFrom, missing, Nat.add_right_comm steps 1 more]
  | succ distance ih =>
    obtain ⟨steps, rfl⟩ : ∃ less, steps = less + 1 := ⟨steps - 1, by omega⟩
    rw [Nat.add_right_comm steps 1 more, assembleFrom, assembleFrom]
    have shifted : parts.get (index + 1 + UInt8.ofNat distance) = none := by
      rw [← missing, UInt8.ofNat_add, UInt8.add_assoc, UInt8.add_comm 1]
      rfl
    split
    · cases parts.get index with
      | none => rfl
      | some current => exact ih (index + 1) shifted steps (by omega) _
    · rfl

/-- Fewer parts than indices leave one missing, so the loop's number of steps never matters. -/
theorem assembleFrom_enough (parts : GoMap UInt8 Part) (total : UInt8)
    (counted : parts.len = total.toNat) (more : Nat) (result : Message) :
    assembleFrom parts total (257 + more) 1 result = assembleFrom parts total 257 1 result := by
  obtain ⟨index, missing⟩ : ∃ index, parts.get index = none := by
    by_contra all
    -- Zero and the indices of a longest message are all 256 octets.
    have distinct : (0 :: indices 255).Nodup := by
      refine List.nodup_cons.mpr ⟨fun zero => ?_, indices_nodup 255⟩
      exact absurd (mem_indices.mp zero).1 (by decide)
    have full : parts.len = (0 :: indices 255).length := by
      refine (parts.len_eq_iff_of_subset distinct ?_).mpr ?_
      · intro index part _
        by_cases zero : index = 0
        · simp [zero]
        · have positive : 1 ≤ index := by
            have : index.toNat ≠ 0 := fun same => zero (UInt8.toNat_inj.mp same)
            rw [UInt8.le_iff_toNat_le]
            simp
            omega
          have inside : index ≤ 255 := by
            rw [UInt8.le_iff_toNat_le]
            exact Nat.le_of_lt_succ index.toNat_lt
          exact List.mem_cons_of_mem _ (mem_indices.mpr ⟨positive, inside⟩)
      · intro index _
        exact Option.ne_none_iff_exists'.mp fun none => all ⟨index, none⟩
    have bound := total.toNat_lt
    simp at full
    omega
  -- The loop stops at the missing index at the latest.
  refine assembleFrom_steps parts total (index - 1).toNat 1 ?_ 257 more ?_ result
  · rw [UInt8.ofNat_toNat, UInt8.add_comm, UInt8.sub_add_cancel]
    exact missing
  · have := (index - 1).toNat_lt
    omega

/-- Appending parts accumulates their contents behind what is already there. -/
theorem foldl_appendPart (parts : List Part) (result : Message) :
    parts.foldl appendPart result =
      { result with
        text := result.text ++ parts.flatMap fun part => part.message.text
        data := result.data ++ parts.flatMap fun part => part.message.data
        pdus := result.pdus ++ parts.map fun part => part.message.pdu
        refs := result.refs ++ parts.flatMap fun part => part.message.refs } := by
  induction parts generalizing result with
  | nil => simp
  | cons part parts ih => simp [ih, appendPart, List.append_assoc]

/-- Every index of the message occurs among the fed parts. -/
def Covered (total : UInt8) (fed : List Part) : Prop :=
  ∀ index, 1 ≤ index → index ≤ total → ∃ part ∈ fed, part.index = index

/-- A covered message has one latest part for every index. -/
private theorem inOrder_spec {total : UInt8} {fed : List Part} (covered : Covered total fed) :
    (inOrder total fed).length = total.toNat ∧
      ∀ j (inside : j < (inOrder total fed).length),
        latest fed (UInt8.ofNat (1 + j)) = some (inOrder total fed)[j] := by
  -- No index is filtered out, so positions and indices correspond.
  have all : ∀ index ∈ indices total, ∃ part, latest fed index = some part := by
    intro index member
    obtain ⟨positive, inside⟩ := mem_indices.mp member
    exact (latest_isSome fed index).mpr (covered index positive inside)
  have mapped : (inOrder total fed).map some = (indices total).map (latest fed) := by
    unfold inOrder
    generalize indices total = list at all
    induction list with
    | nil => rfl
    | cons index list ih =>
      obtain ⟨part, found⟩ := all index (by simp)
      have rest := ih fun index member => all index (by simp [member])
      simp [found, rest]
  have lengths := congrArg List.length mapped
  simp only [List.length_map, indices_length] at lengths
  refine ⟨lengths, fun j inside => ?_⟩
  have position := congrArg (fun list => list[j]?) mapped
  have below : j < total.toNat := lengths ▸ inside
  simpa [indices, inside, below, Nat.add_comm 1 j] using position.symm

/-- The stored parts of the called group after the part is inserted. -/
private theorem lookup_inserted {a : Assembler} {fed : AssemblyKey → List Part}
    (tracks : Tracks a fed) (part : Part) (index : UInt8) :
    (a.groupWith part).get index = latest (fed part.key ++ [part]) index := by
  rw [latest_append_singleton, Assembler.groupWith]
  split
  · rename_i same
    rw [← same, GoMap.get_set_self]
  · rename_i other
    rw [GoMap.get_set_ne _ _ (Ne.symm other), tracks]

/--
One call either completes a covered group and forgets it, or stores its part.

The exception is a group of 255 parts, which is stored even when it is covered.
-/
theorem add_cases {a : Assembler} {fed : AssemblyKey → List Part} (tracks : Tracks a fed)
    {part : Part} (numbered : part.Numbered)
    (group : ∀ other ∈ fed part.key, other.key = part.key ∧ other.Numbered) :
    (part.total ≠ 255 ∧ Covered part.total (fed part.key ++ [part]) ∧
      a.add part = ({ parts := a.parts.delete part.key },
        some (combine (inOrder part.total (fed part.key ++ [part]))))) ∨
    ((part.total = 255 ∨ ¬ Covered part.total (fed part.key ++ [part])) ∧
      a.add part = ({ parts := a.parts.set part.key (a.groupWith part) }, none)) := by
  have stored := lookup_inserted tracks part
  have multipart : ¬ part.total ≤ 1 := by
    have := numbered.multipart
    rw [UInt8.le_iff_toNat_le] at this ⊢
    simp at this ⊢
    omega
  -- The length check decides coverage, because every stored index lies inside the message.
  have counted : (a.groupWith part).len = part.total.toNat ↔
      Covered part.total (fed part.key ++ [part]) := by
    rw [← indices_length, GoMap.len_eq_iff_of_subset _ (indices_nodup part.total)]
    · constructor
      · -- All indices are stored, so each has been fed.
        intro full index positive inside
        obtain ⟨found, lookup⟩ := full index (mem_indices.mpr ⟨positive, inside⟩)
        exact (latest_isSome _ _).mp ⟨found, stored index ▸ lookup⟩
      · -- Every index has been fed, so each has its latest part.
        intro covered index member
        obtain ⟨positive, inside⟩ := mem_indices.mp member
        obtain ⟨found, lookup⟩ := (latest_isSome _ _).mpr (covered index positive inside)
        exact ⟨found, (stored index).trans lookup⟩
    · -- Stored indices lie inside the message, for the parts of a group have its total.
      intro index other lookup
      obtain ⟨member, same⟩ := latest_spec ((stored index).symm.trans lookup)
      subst same
      rcases List.mem_append.mp member with earlier | now
      · obtain ⟨key, valid⟩ := group other earlier
        have total : other.total = part.total := congrArg AssemblyKey.total key
        exact mem_indices.mpr ⟨valid.positive, total ▸ valid.inside⟩
      · rw [List.mem_singleton.mp now]
        exact mem_indices.mpr ⟨numbered.positive, numbered.inside⟩
  by_cases covered : Covered part.total (fed part.key ++ [part])
  · by_cases large : part.total = 255
    · -- The loop over 255 indices never ends with a message.
      refine .inr ⟨.inl large, ?_⟩
      have length := counted.mpr covered
      simp [Assembler.add, length, large, assembleFrom_255]
    · -- The loop appends the latest parts in order.
      obtain ⟨size, positions⟩ := inOrder_spec covered
      have small : part.total.toNat < 255 := by
        have bound := part.total.toNat_lt
        have : part.total.toNat ≠ 255 := fun same => large (UInt8.toNat_inj.mp same)
        omega
      have two : 2 ≤ part.total.toNat := by
        have := numbered.multipart
        rw [UInt8.le_iff_toNat_le] at this
        simpa using this
      have nonempty : 0 < (inOrder part.total (fed part.key ++ [part])).length := by omega
      -- The message starts as that of the first part.
      have first : latest (fed part.key ++ [part]) 1 =
          some (inOrder part.total (fed part.key ++ [part]))[0] := by
        simpa using positions 0 nonempty
      refine .inl ⟨large, covered, ?_⟩
      have finished (start : Message) := assembleFrom_complete _ part.total small
        (inOrder part.total (fed part.key ++ [part])) 257 1 start (by simp; omega)
        (fun j inside => (stored _).trans (by simpa using positions j inside)) (by omega)
      have length := counted.mpr covered
      simp only [Assembler.add, multipart, if_false, length, ne_eq, not_true_eq_false, finished,
        stored, first, Option.getD_some, foldl_appendPart, List.nil_append]
      rw [combine]
      simp [List.headD_eq_head?_getD, List.head?_eq_getElem?, List.getElem?_eq_getElem nonempty]
  · -- A group that is not covered keeps what it has.
    refine .inr ⟨.inr covered, ?_⟩
    have length := counted.not.mpr covered
    simp [Assembler.add, multipart, length]

/-- A part that stands alone is returned at once. -/
theorem add_of_single (a : Assembler) {part : Part} (single : part.total ≤ 1) :
    a.add part = (a, some part.message) := by
  simp [Assembler.add, single]

/-- Nothing is ever collected for messages of a single part. -/
theorem fedSince_of_single {key : AssemblyKey} (single : key.total ≤ 1) (calls : List Part) :
    fedSince key calls = [] := by
  -- Every call of such a group completes it.
  induction calls using List.reverseRecOn with
  | nil => rfl
  | append_singleton calls part ih =>
    rw [fedSince_append_singleton, ih]
    split_ifs with same completed
    · rfl
    · have alone : part.total ≤ 1 := by
        have : part.total = key.total := by rw [← same]; rfl
        rwa [this]
      simp [add_of_single _ alone] at completed
    · rfl

/-- A part that stands alone, or is numbered inside its own message. -/
def Part.Sound (part : Part) : Prop := part.total ≤ 1 ∨ part.Numbered

/-- The collected parts of a group of several parts are numbered inside it. -/
theorem fedSince_numbered {calls : List Part} (sound : ∀ part ∈ calls, part.Sound) {key : AssemblyKey}
    {other : Part} (member : other ∈ fedSince key calls) : other.key = key ∧ other.Numbered := by
  obtain ⟨called, same⟩ := mem_fedSince member
  refine ⟨same, (sound other called).resolve_left fun alone => ?_⟩
  -- A single part is never collected.
  have single : key.total ≤ 1 := by rw [← same]; exact alone
  rw [fedSince_of_single single] at member
  simp at member

/-- After any calls, the assembler stores exactly what has been fed since each completion. -/
theorem addAll_tracks {calls : List Part} (sound : ∀ part ∈ calls, part.Sound) :
    Tracks (Assembler.addAll {} calls) fun key => fedSince key calls := by
  -- The induction is from the back, as the calls are made.
  induction calls using List.reverseRecOn with
  | nil =>
    intro key index
    simp [Assembler.addAll, fedSince, latest]
  | append_singleton calls part ih =>
    have earlier : ∀ other ∈ calls, other.Sound := fun other member => sound other (by simp [member])
    have tracks := ih earlier
    intro key index
    dsimp only
    rw [addAll_append_singleton, fedSince_append_singleton]
    rcases sound part (by simp) with alone | numbered
    · -- A single part is neither stored nor collected.
      rw [add_of_single _ alone]
      by_cases same : part.key = key
      · subst same
        have empty : fedSince part.key calls = [] := fedSince_of_single alone calls
        simpa [empty] using tracks part.key index
      · simpa [same] using tracks key index
    rcases add_cases tracks numbered (fun other => fedSince_numbered earlier) with
      ⟨-, -, added⟩ | ⟨-, added⟩
    · -- Completion deletes the group, and collecting starts over with nothing.
      rw [added]
      by_cases same : part.key = key
      · simp [same, latest]
      · simpa [same, GoMap.get_delete_ne _ (Ne.symm same)] using tracks key index
    · -- Otherwise the part replaces any earlier part with its index.
      rw [added]
      by_cases same : part.key = key
      · subst same
        simpa using lookup_inserted tracks part index
      · simpa [same, GoMap.get_set_ne _ _ (Ne.symm same)] using tracks key index

/-- The outcome of one more call, in terms of what its group has been fed. -/
def AddCases (before : List Part) (part : Part) : Prop :=
  (part.total ≠ 255 ∧ Covered part.total (fedSince part.key before ++ [part]) ∧
    (Assembler.addAll {} before).add part =
      ({ parts := (Assembler.addAll {} before).parts.delete part.key },
        some (combine (inOrder part.total (fedSince part.key before ++ [part]))))) ∨
  ((part.total = 255 ∨ ¬ Covered part.total (fedSince part.key before ++ [part])) ∧
    (Assembler.addAll {} before).add part =
      ({ parts := (Assembler.addAll {} before).parts.set part.key
          ((Assembler.addAll {} before).groupWith part) }, none))

/-- One more call has one of the two outcomes. -/
theorem addAll_add_cases {before : List Part} {part : Part} (sound : ∀ other ∈ before, other.Sound)
    (numbered : part.Numbered) : AddCases before part :=
  add_cases (addAll_tracks sound) numbered fun _ => fedSince_numbered sound

/-- The outcome of the last call of a sequence of numbered parts. -/
theorem addAll_add_cases_of_numbered {before : List Part} {part : Part}
    (numbered : ∀ other ∈ before ++ [part], other.Numbered) : AddCases before part :=
  addAll_add_cases (fun other member => .inr (numbered other (by simp [member]))) (numbered part (by simp))

/-- A call is correct unless it covers a group of 255 parts. -/
theorem callCorrect_of_small {before : List Part} {part : Part}
    (numbered : ∀ other ∈ before ++ [part], other.Numbered)
    (small : part.total ≠ 255 ∨ ¬ Covered part.total (fedSince part.key before ++ [part])) :
    CallCorrect before part := by
  rcases addAll_add_cases_of_numbered numbered with ⟨-, covered, added⟩ | ⟨open_, added⟩
  · -- The call completes its group.
    refine ⟨?_, ?_, ?_⟩
    · simp only [added, Option.isSome_some, true_iff]
      exact covered
    · intro message returned
      simpa [added] using returned.symm
    · intro other different
      rw [added]
      exact GoMap.get_delete_ne _ different
  · -- The call leaves its group open.
    have uncovered : ¬ Covered part.total (fedSince part.key before ++ [part]) := by
      rcases open_ with large | uncovered
      · exact small.resolve_left (not_not_intro large)
      · exact uncovered
    refine ⟨?_, ?_, ?_⟩
    · simp only [added, Option.isSome_none, Bool.false_eq_true, false_iff]
      exact uncovered
    · intro message returned
      simp [added] at returned
    · intro other different
      rw [added]
      exact GoMap.get_set_ne _ _ different

/-- A group of 255 parts never completes, so everything fed to it stays collected. -/
theorem fedSince_255 {calls : List Part} (numbered : ∀ part ∈ calls, part.Numbered)
    {key : AssemblyKey} (large : key.total = 255) :
    fedSince key calls = calls.filter fun part => part.key = key := by
  induction calls using List.reverseRecOn with
  | nil => rfl
  | append_singleton calls part ih =>
    rw [fedSince_append_singleton, List.filter_append,
      ih fun other member => numbered other (by simp [member])]
    by_cases same : part.key = key
    · have total : part.total = 255 := by rw [← large, ← same]; rfl
      rcases addAll_add_cases_of_numbered numbered with ⟨small, -, -⟩ | ⟨-, added⟩
      · exact absurd total small
      · simp [same, added]
    · simp [same]

/-- A member of a list has a last occurrence of its kind. -/
private theorem exists_last_split {P : Part → Prop} {calls : List Part}
    (present : ∃ part ∈ calls, P part) :
    ∃ before part after, calls = before ++ part :: after ∧ P part ∧ ∀ other ∈ after, ¬ P other := by
  classical
  induction calls with
  | nil => simp at present
  | cons first rest ih =>
    by_cases later : ∃ part ∈ rest, P part
    · obtain ⟨before, part, after, split, holds, none⟩ := ih later
      exact ⟨first :: before, part, after, by simp [split], holds, none⟩
    · obtain ⟨part, member, holds⟩ := present
      rcases List.mem_cons.mp member with rfl | inRest
      · exact ⟨[], part, rest, rfl, holds, fun other member' holds' => later ⟨other, member', holds'⟩⟩
      · exact absurd ⟨part, inRest, holds⟩ later

/-- Feeding all of a 255-part group leaves its last call without the completion it owes. -/
theorem not_assemblesCorrectly_of_feeds255 {calls : List Part}
    (numbered : ∀ part ∈ calls, part.Numbered) (fed : Feeds255 calls) :
    ¬ AssemblesCorrectly calls := by
  intro correct
  obtain ⟨number, ref, all⟩ := fed
  obtain ⟨some_, member, named, -⟩ := all 1 (by decide)
  -- The last call of the group is the one after which nothing more arrives for it.
  obtain ⟨before, part, after, rfl, key, none⟩ :=
    exists_last_split (P := fun part => part.key = ⟨number, ref, 255⟩) ⟨some_, member, named⟩
  have total : part.total = 255 := congrArg AssemblyKey.total key
  -- All parts up to the last call of the group are numbered.
  have earlier : ∀ other ∈ before ++ [part], other.Numbered := by
    intro other member
    refine numbered other ?_
    rcases List.mem_append.mp member with first | last
    · simp [first]
    · simp [List.mem_singleton.mp last]
  -- By then every index of the group has been fed.
  have covered : ∀ index, 1 ≤ index → index ≤ part.total →
      ∃ fed ∈ fedSince part.key before ++ [part], fed.index = index := by
    intro index positive _
    obtain ⟨found, member, group, same⟩ := all index positive
    refine ⟨found, ?_, same⟩
    rw [key, fedSince_255 (fun other inBefore => earlier other (by simp [inBefore])) rfl]
    rcases List.mem_append.mp member with first | rest
    · simp [first, group]
    · rcases List.mem_cons.mp rest with rfl | late
      · simp
      · exact absurd group (none found late)
  -- So the call owes a message, which it does not return.
  have completed := (correct before part after rfl).completes.mpr covered
  rcases addAll_add_cases_of_numbered earlier with ⟨small, -, -⟩ | ⟨-, added⟩
  · exact small total
  · simp [added] at completed

/--
The assembler is correct on exactly the call sequences that never feed all of a 255-part group.

Those groups alone make the `uint8` loop index wrap before it passes the total.
-/
theorem assemblesCorrectly_iff (calls : List Part) (numbered : ∀ part ∈ calls, part.Numbered) :
    AssemblesCorrectly calls ↔ ¬ Feeds255 calls := by
  -- A group of 255 parts is the only one that is not returned.
  constructor
  · intro correct fed
    exact not_assemblesCorrectly_of_feeds255 numbered fed correct
  · rintro none before part after rfl
    refine callCorrect_of_small (fun other member => numbered other ?_) ?_
    · rcases List.mem_append.mp member with first | last
      · simp [first]
      · simp [List.mem_singleton.mp last]
    · by_cases large : part.total = 255
      · -- A covered group of 255 would have been fed all of its indices.
        refine .inr fun covered => none ⟨part.message.number, part.reference, ?_⟩
        intro index positive
        have inside : index ≤ part.total := by
          rw [large, UInt8.le_iff_toNat_le]
          exact Nat.le_of_lt_succ index.toNat_lt
        obtain ⟨found, member, same⟩ := covered index positive inside
        have own : part.key = ⟨part.message.number, part.reference, 255⟩ := by rw [Part.key, large]
        rcases List.mem_append.mp member with earlier | now
        · obtain ⟨inBefore, group⟩ := mem_fedSince earlier
          exact ⟨found, by simp [inBefore], group.trans own, same⟩
        · rw [List.mem_singleton.mp now] at same
          exact ⟨part, by simp, own, same⟩
      · exact .inl large

/-- Both parts of a two-part message, the second one first. -/
def twoParts : List Part :=
  [{ message := { text := [0x62] }, total := 2, index := 2 },
   { message := { text := [0x61] }, total := 2, index := 1 }]

/-- Two parts in reverse order are assembled correctly. -/
theorem twoParts_assemblesCorrectly :
    (∀ part ∈ twoParts, part.Numbered) ∧ AssemblesCorrectly twoParts := by
  have numbered : ∀ part ∈ twoParts, part.Numbered := by
    intro part member
    simp only [twoParts, List.mem_cons, List.not_mem_nil, or_false] at member
    rcases member with rfl | rfl <;> exact ⟨by decide, by decide, by decide⟩
  refine ⟨numbered, (assemblesCorrectly_iff twoParts numbered).mpr ?_⟩
  rintro ⟨number, ref, all⟩
  obtain ⟨part, member, key, -⟩ := all 1 (by decide)
  simp only [twoParts, List.mem_cons, List.not_mem_nil, or_false] at member
  rcases member with rfl | rfl <;> simp [Part.key] at key

/-- All 255 parts of one message, in index order. -/
def parts255 : List Part :=
  (indices 255).map fun index => { total := 255, index }

/-- Feeding 255 parts in order never reports the message that the last of them completes. -/
theorem parts255_not_assembled :
    (∀ part ∈ parts255, part.Numbered) ∧ ¬ AssemblesCorrectly parts255 := by
  have numbered : ∀ part ∈ parts255, part.Numbered := by
    intro part member
    obtain ⟨index, inside, rfl⟩ := List.mem_map.mp member
    exact ⟨by simp, (mem_indices.mp inside).1, (mem_indices.mp inside).2⟩
  refine ⟨numbered, not_assemblesCorrectly_of_feeds255 numbered ⟨[], 0, ?_⟩⟩
  intro index positive
  have inside : index ≤ 255 := by
    rw [UInt8.le_iff_toNat_le]
    exact Nat.le_of_lt_succ index.toNat_lt
  exact ⟨_, List.mem_map.mpr ⟨index, mem_indices.mpr ⟨positive, inside⟩, rfl⟩, rfl, rfl⟩

end Wwan.Sms
