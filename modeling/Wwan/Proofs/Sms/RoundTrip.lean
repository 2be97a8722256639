import Mathlib
import Wwan.Proofs.Sms.Assembler
import Wwan.Proofs.Sms.Split

/-! Encoded messages decode and assemble to what was sent, as far as their length octets reach. -/

namespace Wwan.Sms

open Greedy

/-- What every call of a sequence returns. -/
def Assembler.outcomes (a : Assembler) : List Part → List (Option Message)
  | [] => []
  | part :: rest => (a.add part).2 :: (a.add part).1.outcomes rest

/-- The message has the content, the addresses and the report flag of the configuration. -/
structure Delivers (cfg : MessageConfig) (message : Message) : Prop where
  text : message.text = cfg.text
  data : message.data = cfg.data
  number : message.number = cfg.number
  smsc : message.smsc = cfg.smsc
  deliveryReport : message.deliveryReport = cfg.deliveryReport

/-- All PDUs decode, and their parts in any order complete the message on the last call only. -/
def RoundTrips (cfg : MessageConfig) (pdus : List Bytes) : Prop :=
  ∃ parts : List Part, pdus.map Part.unmarshalBinary = parts.map .ok ∧
    ∀ order : List Part, order.Perm parts → ∃ message, Delivers cfg message ∧
      Assembler.outcomes {} order = List.replicate (order.length - 1) none ++ [some message]

/-! What a returned message inherits from the parts. -/

/-- One more call adds one more outcome. -/
theorem outcomes_append_singleton (a : Assembler) (calls : List Part) (part : Part) :
    a.outcomes (calls ++ [part]) = a.outcomes calls ++ [((a.addAll calls).add part).2] := by
  induction calls generalizing a with
  | nil => rfl
  | cons first rest ih => simp [Assembler.outcomes, ih, Assembler.addAll]

/-- Every stored part has a property. -/
def Assembler.Stores (P : Part → Prop) (a : Assembler) : Prop :=
  ∀ key group, a.parts.get key = some group → ∀ index part, group.get index = some part → P part

/-- The loop only appends content. -/
private theorem assembleFrom_envelope {parts : GoMap UInt8 Part} {total : UInt8} {steps : Nat}
    {index : UInt8} {result message : Message}
    (finished : assembleFrom parts total steps index result = some message) :
    SameEnvelope message result := by
  induction steps generalizing index result with
  | zero => simp [assembleFrom] at finished
  | succ steps ih =>
    rw [assembleFrom] at finished
    split at finished
    · split at finished
      · simp at finished
      · have appended := ih finished
        exact appended
    · simp only [Option.some.injEq] at finished
      subst finished
      exact ⟨rfl, rfl⟩

/-- Storing a part that has the property keeps the property of the group. -/
private theorem groupWith_stores {P : Part → Prop} {a : Assembler} (stores : a.Stores P) {part : Part}
    (holds : P part) : ∀ index other, (a.groupWith part).get index = some other → P other := by
  intro index other found
  rw [Assembler.groupWith, GoMap.get_set] at found
  split at found
  · rwa [← Option.some.inj found]
  · cases group : a.parts.get part.key with
    | none => simp [group] at found
    | some parts => exact stores _ _ group index other (by simpa [group] using found)

/-- A call stores nothing but its part, and returns the addresses of some part. -/
private theorem add_stores {P : Part → Prop} {a : Assembler} (stores : a.Stores P) {part : Part}
    (holds : P part) (blank : P {}) : (a.add part).1.Stores P ∧
      ∀ message, (a.add part).2 = some message → ∃ other, P other ∧ SameEnvelope message other.message := by
  -- The group of the part holds what was stored and the part.
  have group := groupWith_stores stores holds
  have kept : Assembler.Stores P { parts := a.parts.set part.key (a.groupWith part) } := by
    intro key parts found
    simp only [GoMap.get_set] at found
    split at found
    · rw [← Option.some.inj found]
      exact group
    · exact stores key parts found
  have forgotten : Assembler.Stores P { parts := a.parts.delete part.key } := by
    intro key parts found
    simp only [GoMap.get_delete] at found
    split at found
    · simp at found
    · exact stores key parts found
  -- A part that is a whole message is returned at once, and the others join their group.
  unfold Assembler.add
  split
  · exact ⟨stores, fun message same => ⟨part, holds, by simp_all [SameEnvelope]⟩⟩
  · dsimp only
    split
    · exact ⟨kept, by simp⟩
    · split
      · exact ⟨kept, by simp⟩
      · -- A group that is complete is returned under the addresses of its first part, and forgotten.
        rename_i finished
        refine ⟨forgotten, fun message same => ?_⟩
        have envelope := assembleFrom_envelope finished
        simp only [Option.some.injEq] at same
        subst same
        cases first : (a.groupWith part).get 1 with
        | none => exact ⟨{}, blank, by simpa [first, SameEnvelope] using envelope⟩
        | some other =>
          exact ⟨other, group 1 other first, by simpa [first, SameEnvelope] using envelope⟩

/-- Whatever all parts have in common, some part of that kind lends its addresses to the message. -/
theorem outcomes_envelope {P : Part → Prop} (blank : P {}) {a : Assembler} (stores : a.Stores P)
    {calls : List Part} (each : ∀ part ∈ calls, P part) {message : Message}
    (returned : some message ∈ a.outcomes calls) :
    ∃ other, P other ∧ SameEnvelope message other.message := by
  induction calls generalizing a with
  | nil => simp [Assembler.outcomes] at returned
  | cons part rest ih =>
    have step := add_stores stores (each part (by simp)) blank
    rcases List.mem_cons.mp returned with now | later
    · exact step.2 message now.symm
    · exact ih step.1 (fun other member => each other (by simp [member])) later

/-! Multipart messages. -/

/-- A part that belongs to a message and has a place in it. -/
private structure Placed (key : AssemblyKey) (parts : List Part) : Prop where
  keyed : ∀ part ∈ parts, part.key = key
  numbered : ∀ part ∈ parts, part.Numbered
  distinct : (parts.map Part.index).Nodup
  all : Covered key.total parts

/-- Until the last part is fed, the group only grows. -/
private theorem fedSince_of_prefix {key : AssemblyKey} {order before after : List Part}
    (placed : Placed key order) (split : order = before ++ after) (open_ : after ≠ []) :
    fedSince key before = before ∧
      Assembler.outcomes {} before = List.replicate before.length none := by
  -- The induction is on what was fed, from its end.
  induction before using List.reverseRecOn generalizing after with
  | nil => exact ⟨rfl, rfl⟩
  | append_singleton before part ih =>
    obtain ⟨fed, outcomes⟩ := @ih (part :: after) (by simp [split]) (by simp)
    have same : part.key = key := placed.keyed part (by simp [split])
    have total : part.total = key.total := by rw [← same]; rfl
    have numbered : ∀ other ∈ before ++ [part], other.Numbered := by
      intro other member
      exact placed.numbered other (by rw [split]; exact List.mem_append_left _ member)
    -- A part still to come has an index that nothing fed so far has.
    have uncovered : ¬ Covered part.total (fedSince part.key before ++ [part]) := by
      intro covered
      obtain ⟨next, rest, rfl⟩ := List.exists_cons_of_ne_nil open_
      have member : next ∈ order := by simp [split]
      have nextNumbered := placed.numbered next member
      have nextTotal : next.total = key.total := by rw [← placed.keyed next member]; rfl
      obtain ⟨twin, twinFed, twinIndex⟩ := covered next.index nextNumbered.positive
        (by rw [total, ← nextTotal]; exact nextNumbered.inside)
      rw [same, fed] at twinFed
      have distinct := placed.distinct
      rw [split, List.map_append, List.nodup_append] at distinct
      exact distinct.2.2 twin.index (List.mem_map_of_mem twinFed) next.index (by simp) twinIndex
    -- So the group is not complete, and only grows.
    rcases addAll_add_cases_of_numbered numbered with ⟨-, covered, -⟩ | ⟨-, added⟩
    · exact absurd covered uncovered
    · refine ⟨?_, ?_⟩
      · rw [fedSince_append_singleton, if_pos same, added, fed]
        rfl
      · rw [outcomes_append_singleton, outcomes, added, List.length_append, List.length_singleton,
          List.replicate_succ']

/-- The last part completes a message of at most 254 parts. -/
private theorem outcomes_of_placed {key : AssemblyKey} {order : List Part} (placed : Placed key order)
    (small : key.total ≠ 255) (nonempty : order ≠ []) :
    Assembler.outcomes {} order = List.replicate (order.length - 1) none ++
      [some (combine (inOrder key.total order))] := by
  obtain ⟨before, part, rfl⟩ := (List.eq_nil_or_concat' order).resolve_left nonempty
  obtain ⟨fed, outcomes⟩ := fedSince_of_prefix placed rfl (by simp)
  have same : part.key = key := placed.keyed part (by simp)
  have total : part.total = key.total := by rw [← same]; rfl
  rcases addAll_add_cases_of_numbered placed.numbered with ⟨-, -, added⟩ | ⟨large | uncovered, -⟩
  · rw [outcomes_append_singleton, outcomes, added, same, fed, total]
    simp
  · exact absurd (total ▸ large) small
  · rw [same, fed, total] at uncovered
    exact absurd placed.all uncovered

/-- A message of 255 parts is never completed. -/
private theorem outcomes_of_255 {key : AssemblyKey} {order : List Part} (placed : Placed key order)
    (large : key.total = 255) : Assembler.outcomes {} order = List.replicate order.length none := by
  -- It is shown for every prefix of what is fed, by induction from its end.
  suffices prefixes : ∀ before after, order = before ++ after →
      Assembler.outcomes {} before = List.replicate before.length none from
    prefixes order [] (by simp)
  intro before
  induction before using List.reverseRecOn with
  | nil => intro after split; rfl
  | append_singleton before part ih =>
    intro after split
    have numbered : ∀ other ∈ before ++ [part], other.Numbered := by
      intro other member
      exact placed.numbered other (by rw [split]; exact List.mem_append_left _ member)
    have total : part.total = 255 := by
      rw [← large, ← placed.keyed part (by simp [split])]
      rfl
    -- A message is returned only for a total below 255.
    rcases addAll_add_cases_of_numbered numbered with ⟨small, -, -⟩ | ⟨-, added⟩
    · exact absurd total small
    · rw [outcomes_append_singleton, ih (part :: after) (by simp [split]), added, List.length_append,
        List.length_singleton, List.replicate_succ']

/-- The parts that the PDUs of a multipart message decode to. -/
def decodedParts (ref : UInt8) (cfg : MessageConfig) (pdus : List Bytes)
    (contents : List (GoString × Bytes)) : List Part :=
  (pdus.zip contents).zipIdx.map fun ((pdu, content), i) =>
    withContent content.1 content.2 { submittedPart cfg pdu with
      reference := ref.toUInt16, total := UInt8.ofNat pdus.length, index := UInt8.ofNat (i + 1) }

/-- The chunks carry the configuration's content piece by piece, with room for a header. -/
structure ChunksCarry (cfg : MessageConfig) (alphabet : Alphabet) (chunks : List Bytes)
    (contents : List (GoString × Bytes)) : Prop where
  carries : List.Forall₂ (fun chunk content => Carries chunk content.1 content.2 alphabet) chunks contents
  fits : ∀ chunk ∈ chunks, ∀ header : Bytes, header.length = 6 → LengthFits header chunk alphabet
  text : contents.flatMap Prod.fst = cfg.text
  data : contents.flatMap Prod.snd = cfg.data

/-- The numbering check leaves the message alone. -/
private theorem setConcat_message {ref : UInt8} {count i : Nat} (p q : Part)
    (set : setConcat ref count i p = .ok q) : q.message = p.message := by
  unfold setConcat at set
  split at set
  · simp at set
  · simp only [Go.pure_eq, Except.ok.injEq] at set
    rw [← set]

/-- Each PDU of a multipart message decodes to its part, unless its index check fails. -/
private theorem unmarshalBinary_multipart {cfg : MessageConfig} (numberDial : DialNumber cfg.number)
    (smscDial : DialNumber cfg.smsc) (numberShort : digitCount cfg.number ≤ 255)
    (smscShort : digitCount cfg.smsc ≤ 508) {alphabet : Alphabet} {chunks : List Bytes}
    {contents : List (GoString × Bytes)} (carry : ChunksCarry cfg alphabet chunks contents)
    {ref : UInt8} {pdus : List Bytes}
    (built : buildMultipartPDUs ref cfg alphabet chunks = .ok pdus) :
    pdus.length = chunks.length ∧ contents.length = chunks.length ∧
      ∀ i (inside : i < pdus.length) (placed : i < (decodedParts ref cfg pdus contents).length),
        Part.unmarshalBinary pdus[i] =
          if badIndex (UInt8.ofNat pdus.length) (UInt8.ofNat (i + 1)) then
            Go.fail (.multipartIndex (UInt8.ofNat (i + 1)) (UInt8.ofNat pdus.length))
          else .ok (decodedParts ref cfg pdus contents)[i] := by
  -- Each chunk was built into its PDU, and carries its part of the contents.
  have each := Go.forall₂_of_mapM built
  have lengths : pdus.length = chunks.length := by simpa using each.length_eq.symm
  have contentLengths : contents.length = chunks.length := carry.carries.length_eq.symm
  refine ⟨lengths, contentLengths, fun i inside placed => ?_⟩
  have chunkInside : i < chunks.length := lengths ▸ inside
  have contentInside : i < contents.length := contentLengths ▸ chunkInside
  have one : buildSubmitPDU cfg alphabet chunks[i] (concatHeader ref chunks.length i) = .ok pdus[i] := by
    have := each.get (by simpa using chunkInside) inside
    simpa using this
  have carried : Carries chunks[i] contents[i].1 contents[i].2 alphabet := by
    simpa using carry.carries.get chunkInside contentInside
  have fits := carry.fits chunks[i] (List.getElem_mem _) (concatHeader ref chunks.length i) rfl
  -- The PDU decodes to what was built, and then the header's numbers are checked.
  rw [unmarshalBinary_buildSubmitPDU smscDial smscShort numberDial numberShort
    (headerReads_concatHeader ref chunks.length i) carried fits setConcat_message one]
  rw [setConcat, ← lengths]
  split
  · rfl
  · simp [decodedParts]

/-- The decoded parts of a message of up to 255 parts are numbered in order. -/
private theorem map_index_decodedParts {ref : UInt8} {cfg : MessageConfig} {pdus : List Bytes}
    {contents : List (GoString × Bytes)} (lengths : contents.length = pdus.length)
    (few : pdus.length ≤ 255) :
    (decodedParts ref cfg pdus contents).map Part.index = indices (UInt8.ofNat pdus.length) := by
  have count : (UInt8.ofNat pdus.length).toNat = pdus.length :=
    UInt8.toNat_ofNat_of_lt' (by simp [UInt8.size]; omega)
  refine List.ext_getElem (by simp [decodedParts, indices, lengths, count]) ?_
  intro i left right
  simp [decodedParts, indices, withContent]

/-- The decoded parts share their number, their reference and their total. -/
private theorem mem_decodedParts {ref : UInt8} {cfg : MessageConfig} {pdus : List Bytes}
    {contents : List (GoString × Bytes)} {part : Part}
    (member : part ∈ decodedParts ref cfg pdus contents) :
    part.key = { number := cfg.number, ref := ref.toUInt16, total := UInt8.ofNat pdus.length } ∧
      part.message.smsc = cfg.smsc ∧ part.message.deliveryReport = cfg.deliveryReport := by
  obtain ⟨⟨⟨pdu, content⟩, i⟩, -, rfl⟩ := List.mem_map.mp member
  exact ⟨rfl, rfl, rfl⟩

/-- The decoded parts of a message of up to 255 parts belong together, in any order. -/
private theorem placed_of_perm {ref : UInt8} {cfg : MessageConfig} {pdus : List Bytes}
    {contents : List (GoString × Bytes)} (lengths : contents.length = pdus.length)
    (many : 2 ≤ pdus.length) (few : pdus.length ≤ 255) {order : List Part}
    (perm : order.Perm (decodedParts ref cfg pdus contents)) :
    Placed { number := cfg.number, ref := ref.toUInt16, total := UInt8.ofNat pdus.length } order := by
  -- The indices are those from one to the number of parts.
  have indexed : (decodedParts ref cfg pdus contents).map Part.index = _ :=
    map_index_decodedParts lengths few
  have count : (UInt8.ofNat pdus.length).toNat = pdus.length :=
    UInt8.toNat_ofNat_of_lt' (by simp [UInt8.size]; omega)
  have keyed (part : Part) (member : part ∈ order) := (mem_decodedParts (perm.subset member)).1
  refine ⟨keyed, fun part member => ?_, ?_, ?_⟩
  · -- Every part has its place.
    have total : part.total = UInt8.ofNat pdus.length := congrArg AssemblyKey.total (keyed part member)
    have place : part.index ∈ indices (UInt8.ofNat pdus.length) := by
      rw [← indexed]
      exact List.mem_map_of_mem (perm.subset member)
    refine ⟨?_, (mem_indices.mp place).1, total ▸ (mem_indices.mp place).2⟩
    rw [total, UInt8.le_iff_toNat_le, count]
    exact many
  · -- No index is there twice.
    rw [(perm.map Part.index).nodup_iff, indexed]
    exact indices_nodup _
  · -- Every index is there.
    intro index positive inside
    have member : index ∈ (decodedParts ref cfg pdus contents).map Part.index := by
      rw [indexed]
      exact mem_indices.mpr ⟨positive, inside⟩
    obtain ⟨part, found, rfl⟩ := List.mem_map.mp member
    exact ⟨part, perm.symm.subset found, rfl⟩

/-- Sorting parts with distinct indices gives them in index order. -/
private theorem inOrder_of_perm {total : UInt8} {parts order : List Part}
    (indexed : parts.map Part.index = indices total) (perm : order.Perm parts) :
    inOrder total order = parts := by
  have distinct : (parts.map Part.index).Nodup := indexed ▸ indices_nodup total
  have own : ∀ part ∈ parts, latest order part.index = some part := by
    intro part member
    obtain ⟨found, lookup⟩ := (latest_isSome order part.index).mpr ⟨part, perm.symm.subset member, rfl⟩
    obtain ⟨inside, same⟩ := latest_spec lookup
    rw [lookup, List.inj_on_of_nodup_map distinct (perm.subset inside) member same]
  rw [inOrder, ← indexed, List.filterMap_map]
  exact (List.filterMap_congr own).trans List.filterMap_some

/-- Parts that all pass the numbering check are what the PDUs decode to. -/
private theorem map_unmarshalBinary {ref : UInt8} {cfg : MessageConfig} {pdus : List Bytes}
    {contents : List (GoString × Bytes)} (lengths : contents.length = pdus.length)
    (decoded : ∀ i (inside : i < pdus.length) (placed : i < (decodedParts ref cfg pdus contents).length),
      Part.unmarshalBinary pdus[i] =
        if badIndex (UInt8.ofNat pdus.length) (UInt8.ofNat (i + 1)) then
          Go.fail (.multipartIndex (UInt8.ofNat (i + 1)) (UInt8.ofNat pdus.length))
        else .ok (decodedParts ref cfg pdus contents)[i])
    (passed : ∀ i < pdus.length, ¬ badIndex (UInt8.ofNat pdus.length) (UInt8.ofNat (i + 1))) :
    pdus.map Part.unmarshalBinary = (decodedParts ref cfg pdus contents).map .ok := by
  have size : (decodedParts ref cfg pdus contents).length = pdus.length := by
    simp [decodedParts, lengths]
  refine List.ext_getElem (by simp [size]) fun i left right => ?_
  have inside : i < pdus.length := by simpa using left
  have here := decoded i inside (by omega)
  rw [if_neg (passed i inside)] at here
  simpa using here

/-- Up to 255 parts pass the numbering check. -/
private theorem not_badIndex {count i : Nat} (few : count ≤ 255) (inside : i < count) :
    ¬ badIndex (UInt8.ofNat count) (UInt8.ofNat (i + 1)) := by
  have total : (UInt8.ofNat count).toNat = count :=
    UInt8.toNat_ofNat_of_lt' (by simp [UInt8.size]; omega)
  have own : (UInt8.ofNat (i + 1)).toNat = i + 1 :=
    UInt8.toNat_ofNat_of_lt' (by simp [UInt8.size]; omega)
  rintro ⟨-, zero | beyond⟩
  · simp [zero] at own
  · rw [gt_iff_lt, UInt8.lt_iff_toNat_lt, own, total] at beyond
    omega

/-- The assembled parts deliver the configuration. -/
private theorem delivers_combine {ref : UInt8} {cfg : MessageConfig} {alphabet : Alphabet}
    {chunks pdus : List Bytes} {contents : List (GoString × Bytes)}
    (carry : ChunksCarry cfg alphabet chunks contents) (lengths : contents.length = pdus.length)
    (many : 2 ≤ pdus.length) : Delivers cfg (combine (decodedParts ref cfg pdus contents)) := by
  -- The first part gives the addresses, and all of them the contents.
  have size : (decodedParts ref cfg pdus contents).length = pdus.length := by
    simp [decodedParts, lengths]
  obtain ⟨first, rest, split⟩ := List.exists_cons_of_ne_nil
    (List.ne_nil_of_length_pos (by omega : 0 < (decodedParts ref cfg pdus contents).length))
  have common := mem_decodedParts (show first ∈ decodedParts ref cfg pdus contents by simp [split])
  have texts : (decodedParts ref cfg pdus contents).map (fun part => part.message.text) =
      contents.map Prod.fst := by
    refine List.ext_getElem (by simp [size, lengths]) fun i left right => ?_
    simp [decodedParts, withContent]
  have payloads : (decodedParts ref cfg pdus contents).map (fun part => part.message.data) =
      contents.map Prod.snd := by
    refine List.ext_getElem (by simp [size, lengths]) fun i left right => ?_
    simp [decodedParts, withContent]
  refine ⟨?_, ?_, ?_, ?_, ?_⟩
  · simp only [combine, List.flatMap_def, texts, ← carry.text]
  · simp only [combine, List.flatMap_def, payloads, ← carry.data]
  · simp only [combine, split, List.headD_cons]
    exact congrArg AssemblyKey.number common.1
  · simp only [combine, split, List.headD_cons]
    exact common.2.1
  · simp only [combine, split, List.headD_cons]
    exact common.2.2

/-- A multipart message with short addresses round-trips exactly when it has at most 254 parts. -/
theorem roundTrips_multipart_iff {cfg : MessageConfig} (numberDial : DialNumber cfg.number)
    (smscDial : DialNumber cfg.smsc) (numberShort : digitCount cfg.number ≤ 255)
    (smscShort : digitCount cfg.smsc ≤ 508) {alphabet : Alphabet} {chunks : List Bytes}
    {contents : List (GoString × Bytes)} (carry : ChunksCarry cfg alphabet chunks contents)
    (many : 2 ≤ chunks.length) {ref : UInt8} {pdus : List Bytes}
    (built : buildMultipartPDUs ref cfg alphabet chunks = .ok pdus) :
    RoundTrips cfg pdus ↔ chunks.length ≤ 254 := by
  obtain ⟨lengths, contentLengths, decoded⟩ :=
    unmarshalBinary_multipart numberDial smscDial numberShort smscShort carry built
  have size : (decodedParts ref cfg pdus contents).length = pdus.length := by
    simp [decodedParts]
    omega
  have pieces : contents.length = pdus.length := by omega
  constructor
  · -- From 255 parts on, feeding the parts in order refutes the round trip.
    rintro ⟨parts, each, orders⟩
    by_contra past
    have partCount : parts.length = pdus.length := by simpa using (congrArg List.length each).symm
    obtain ⟨message, -, outcomes⟩ := orders parts (List.Perm.refl parts)
    by_cases last : pdus.length = 255
    · -- With 255 parts the assembler never completes.
      have same := map_unmarshalBinary pieces decoded fun i inside => not_badIndex (by omega) inside
      rw [each, (List.map_injective_iff.mpr fun _ _ => Except.ok.inj).eq_iff] at same
      have placed := placed_of_perm pieces (by omega) (by omega) (List.Perm.of_eq same)
      rw [outcomes_of_255 placed (by simp [last])] at outcomes
      have returned : some message ∈ List.replicate parts.length (none : Option Message) := by
        rw [outcomes]
        simp
      simp at returned
    · -- From 256 parts on, part 256 is numbered zero.
      by_cases zero : UInt8.ofNat pdus.length = 0
      · -- A total of zero passes the check, but makes every part complete by itself.
        have same := map_unmarshalBinary pieces decoded fun i _ bad => bad.1 zero
        rw [each, (List.map_injective_iff.mpr fun _ _ => Except.ok.inj).eq_iff] at same
        obtain ⟨first, rest, split⟩ := List.exists_cons_of_ne_nil
          (List.ne_nil_of_length_pos (by omega : 0 < parts.length))
        have member : first ∈ decodedParts ref cfg pdus contents := by simp [← same, split]
        have total : first.total = 0 := by
          rw [← zero]
          exact congrArg AssemblyKey.total (mem_decodedParts member).1
        obtain ⟨more, counted⟩ : ∃ more, parts.length - 1 = more + 1 := ⟨parts.length - 2, by omega⟩
        rw [counted, List.replicate_succ, split] at outcomes
        simp [Assembler.outcomes, Assembler.add, total] at outcomes
      · -- Otherwise the zero index is refused where the total is not zero.
        have here := decoded 255 (by omega) (by omega)
        rw [if_pos ⟨zero, .inl (by decide)⟩] at here
        have there := congrArg (fun list => list[255]?) each
        simp [here, show 255 < pdus.length by omega, show 255 < parts.length by omega,
          Go.fail] at there
  · -- With fewer parts every order is complete, and the message is what the parts carry in order.
    intro few
    have passed := fun i (inside : i < pdus.length) => not_badIndex (by omega : pdus.length ≤ 255) inside
    refine ⟨decodedParts ref cfg pdus contents, map_unmarshalBinary pieces decoded passed,
      fun order perm => ?_⟩
    have placed := placed_of_perm pieces (by omega) (by omega) perm
    have indexed : (decodedParts ref cfg pdus contents).map Part.index = _ :=
      map_index_decodedParts pieces (by omega)
    have notLast : UInt8.ofNat pdus.length ≠ 255 := by
      intro last
      have count : (UInt8.ofNat pdus.length).toNat = pdus.length :=
        UInt8.toNat_ofNat_of_lt' (by simp [UInt8.size]; omega)
      rw [last] at count
      simp at count
      omega
    have nonempty : order ≠ [] := by
      rintro rfl
      have := perm.length_eq
      simp at this
      omega
    refine ⟨_, ?_, outcomes_of_placed placed notLast nonempty⟩
    rw [inOrder_of_perm indexed perm]
    exact delivers_combine carry pieces (by omega)

/-! Addresses that are too long. -/

/-- An overlong service-centre address never reads back. -/
private theorem smsc_of_long {cfg : MessageConfig} (long : 508 < digitCount cfg.smsc)
    {alphabet : Alphabet} {data header pdu : Bytes} {p : Part}
    (built : buildSubmitPDU cfg alphabet data header = .ok pdu)
    (read : Part.unmarshalBinary pdu = .ok p) : p.message.smsc ≠ cfg.smsc := by
  rw [buildSubmitPDU_eq] at built
  obtain ⟨coded, -, assembled⟩ := Go.bind_eq_ok.mp built
  rw [Go.pure_eq, Except.ok.injEq] at assembled
  subst assembled
  simp only [appendAddress_eq, List.append_assoc] at read
  exact unmarshalBinary_smsc_of_long long read

/-- An overlong number never reads back. -/
private theorem number_of_long {cfg : MessageConfig} (smscDial : DialNumber cfg.smsc)
    (smscShort : digitCount cfg.smsc ≤ 508) (long : 255 < digitCount cfg.number)
    {alphabet : Alphabet} {data header pdu : Bytes} {p : Part}
    (built : buildSubmitPDU cfg alphabet data header = .ok pdu)
    (read : Part.unmarshalBinary pdu = .ok p) : p.message.number ≠ cfg.number := by
  -- The PDU has the number's true length, of which only the low octet is written.
  rw [buildSubmitPDU_eq] at built
  obtain ⟨coded, -, assembled⟩ := Go.bind_eq_ok.mp built
  rw [Go.pure_eq, Except.ok.injEq] at assembled
  generalize headed : decide (header.length ≠ 0) = hasHeader at assembled
  obtain ⟨submit, -⟩ := firstOctet_flags cfg.deliveryReport hasHeader
  generalize octet : (0x01 ||| (if cfg.deliveryReport then 0x20 else 0) |||
    (if hasHeader then 0x40 else 0) : UInt8) = first at *
  have front : pdu = encodeSMSC cfg.smsc ++ first :: (0 :: UInt8.ofNat (digitCount cfg.number) ::
      typeOfAddress (normalizeNumber cfg.number).2 ::
        (encodeBCDDigits (normalizeNumber cfg.number).1 ++ 0 :: alphabet.scheme :: coded)) := by
    rw [← assembled]
    simp [appendAddress_eq, List.append_assoc]
  -- It is read as a submission, whose number is too long.
  have notDeliver : ¬ first &&& 0x03 = 0 := by rw [submit]; decide
  have offset : (encodeSMSC cfg.smsc).length + 1 = (encodeSMSC cfg.smsc ++ [first]).length := by simp
  rw [front, unmarshalBinary_of_short smscDial smscShort, ← front, unmarshalTPDU, if_neg notDeliver,
    if_pos submit, offset, ← assembled] at read
  exact unmarshalSubmitPDU_number_of_long long read

/-- A message round-trips only with addresses that fit their length octets. -/
private theorem addresses_of_roundTrips {cfg : MessageConfig} (smscDial : DialNumber cfg.smsc)
    {pdus : List Bytes}
    (built : ∀ pdu ∈ pdus, ∃ alphabet data header, buildSubmitPDU cfg alphabet data header = .ok pdu)
    (trips : RoundTrips cfg pdus) : digitCount cfg.number ≤ 255 ∧ digitCount cfg.smsc ≤ 508 := by
  obtain ⟨parts, each, orders⟩ := trips
  obtain ⟨message, delivers, outcomes⟩ := orders parts (List.Perm.refl parts)
  have returned : some message ∈ Assembler.outcomes {} parts := by simp [outcomes]
  -- Every part was decoded from a PDU that was built.
  have decoded : ∀ part ∈ parts, ∃ alphabet data header pdu,
      buildSubmitPDU cfg alphabet data header = .ok pdu ∧ Part.unmarshalBinary pdu = .ok part := by
    intro part member
    have found : (.ok part : Go Error Part) ∈ pdus.map Part.unmarshalBinary := by
      rw [each]
      exact List.mem_map_of_mem member
    obtain ⟨pdu, inside, read⟩ := List.mem_map.mp found
    obtain ⟨alphabet, data, header, one⟩ := built pdu inside
    exact ⟨alphabet, data, header, pdu, one, read⟩
  -- Whatever the assembler returns has the addresses of some part.
  have nothing (P : Part → Prop) : Assembler.Stores P {} := by
    intro key group found
    simp at found
  -- A service centre of more digits never reads back.
  have smscShort : digitCount cfg.smsc ≤ 508 := by
    by_contra long
    have blank : (({} : Part).message.smsc ≠ cfg.smsc) := by
      intro none
      rw [← none] at long
      exact long (by decide)
    have wrong : ∀ part ∈ parts, part.message.smsc ≠ cfg.smsc := by
      intro part member
      obtain ⟨alphabet, data, header, pdu, one, read⟩ := decoded part member
      exact smsc_of_long (by omega) one read
    obtain ⟨other, differs, same, -⟩ := outcomes_envelope blank (nothing _) wrong returned
    exact differs (same ▸ delivers.smsc)
  -- Nor does a number of more digits.
  refine ⟨?_, smscShort⟩
  by_contra long
  have blank : (({} : Part).message.number ≠ cfg.number) := by
    intro none
    rw [← none] at long
    exact long (by decide)
  have wrong : ∀ part ∈ parts, part.message.number ≠ cfg.number := by
    intro part member
    obtain ⟨alphabet, data, header, pdu, one, read⟩ := decoded part member
    exact number_of_long smscDial smscShort (by omega) one read
  obtain ⟨other, differs, -, same⟩ := outcomes_envelope blank (nothing _) wrong returned
  exact differs (same ▸ delivers.number)

/-- A single PDU with short addresses always round-trips. -/
private theorem roundTrips_single {cfg : MessageConfig} (numberDial : DialNumber cfg.number)
    (smscDial : DialNumber cfg.smsc) (numberShort : digitCount cfg.number ≤ 255)
    (smscShort : digitCount cfg.smsc ≤ 508) {alphabet : Alphabet} {data : Bytes}
    (carries : Carries data cfg.text cfg.data alphabet) (fits : LengthFits [] data alphabet)
    {pdu : Bytes} (built : buildSubmitPDU cfg alphabet data [] = .ok pdu) : RoundTrips cfg [pdu] := by
  have read := unmarshalBinary_buildSubmitPDU smscDial smscShort numberDial numberShort
    headerReads_nil carries fits (by simp) built
  refine ⟨[withContent cfg.text cfg.data (submittedPart cfg pdu)], by simpa using read, ?_⟩
  intro order perm
  rw [List.perm_singleton.mp perm]
  exact ⟨_, ⟨rfl, rfl, rfl, rfl, rfl⟩, rfl⟩

/-! The whole path. -/

/-- The content can be divided into at most `count` parts of the alphabet it is sent in. -/
def FitsParts (count : Nat) (cfg : MessageConfig) : Prop :=
  if cfg.text = [] then Divides octetCount smsBinaryPartOctets count cfg.data
  else if ∀ r ∈ Utf8.runes cfg.text, (encodeGSM7Rune r).isSome then
    Divides septetCount smsGSM7PartSeptets count (Utf8.runes cfg.text)
  else Divides unitCount smsUTF16PartUnits count (Utf8.runes cfg.text)

/-- Greedy chunks whose groups carry content carry the whole content. -/
private theorem Splits.carry {α : Type} {weight : α → Nat} {capacity : Nat}
    {encodes : List α → Bytes → Prop} {items : List α} {chunks : List Bytes}
    (splits : Splits weight capacity encodes items chunks) {cfg : MessageConfig} {alphabet : Alphabet}
    (content : List α → GoString × Bytes)
    (carries : ∀ group chunk, encodes group chunk →
      Carries chunk (content group).1 (content group).2 alphabet)
    (fits : ∀ group chunk, encodes group chunk → total weight group ≤ capacity →
      ∀ header : Bytes, header.length = 6 → LengthFits header chunk alphabet)
    (whole : ∀ groups : List (List α), groups.flatten = items →
      groups.flatMap (fun group => (content group).1) = cfg.text ∧
        groups.flatMap (fun group => (content group).2) = cfg.data) :
    ∃ contents, ChunksCarry cfg alphabet chunks contents := by
  obtain ⟨groups, divided, greedy, each⟩ := splits
  obtain ⟨text, data⟩ := whole groups divided
  refine ⟨groups.map content, ?_, ?_, ?_, ?_⟩
  · rw [List.forall₂_map_right_iff]
    exact each.flip.imp fun chunk group encoded => carries group chunk encoded
  · intro chunk member
    obtain ⟨i, inside, rfl⟩ := List.getElem_of_mem member
    have groupInside : i < groups.length := each.length_eq ▸ inside
    have within := (greedy.within groups[i] (List.getElem_mem _)).2
    exact fits groups[i] chunks[i] (by simpa using each.get groupInside inside) within
  · rw [List.flatMap_map]
    exact text
  · rw [List.flatMap_map]
    exact data

section Encoded

variable {cfg : MessageConfig} {ref : UInt8} {pdus : List Bytes}

/-- With PDUs built from the configuration, only its short-address case is left to decide. -/
private theorem roundTrips_iff_of_short (smscDial : DialNumber cfg.smsc)
    (built : ∀ pdu ∈ pdus, ∃ alphabet data header, buildSubmitPDU cfg alphabet data header = .ok pdu)
    {divides : Prop} (short : digitCount cfg.number ≤ 255 → digitCount cfg.smsc ≤ 508 →
      (RoundTrips cfg pdus ↔ divides)) :
    RoundTrips cfg pdus ↔ digitCount cfg.number ≤ 255 ∧ digitCount cfg.smsc ≤ 508 ∧ divides := by
  constructor
  · intro trips
    obtain ⟨numberShort, smscShort⟩ := addresses_of_roundTrips smscDial built trips
    exact ⟨numberShort, smscShort, (short numberShort smscShort).mp trips⟩
  · rintro ⟨numberShort, smscShort, holds⟩
    exact (short numberShort smscShort).mpr holds

/-- A single PDU round-trips as far as its addresses allow. -/
private theorem roundTrips_single_iff (numberDial : DialNumber cfg.number)
    (smscDial : DialNumber cfg.smsc) {alphabet : Alphabet} {data : Bytes}
    (carries : Carries data cfg.text cfg.data alphabet) (fits : LengthFits [] data alphabet)
    (encoded : (do return [← buildSubmitPDU cfg alphabet data []] : Go Error (List Bytes)) = .ok pdus)
    {divides : Prop} (holds : divides) :
    RoundTrips cfg pdus ↔ digitCount cfg.number ≤ 255 ∧ digitCount cfg.smsc ≤ 508 ∧ divides := by
  obtain ⟨pdu, built, single⟩ := Go.bind_eq_ok.mp encoded
  rw [Go.pure_eq, Except.ok.injEq] at single
  subst single
  refine roundTrips_iff_of_short smscDial ?_ fun numberShort smscShort => ?_
  · intro other member
    rw [List.mem_singleton.mp member]
    exact ⟨alphabet, data, [], built⟩
  · exact iff_of_true
      (roundTrips_single numberDial smscDial numberShort smscShort carries fits built) holds

/-- Chunks round-trip as far as the addresses and the shortest division allow. -/
private theorem roundTrips_chunks_iff (numberDial : DialNumber cfg.number)
    (smscDial : DialNumber cfg.smsc) {α : Type} {weight : α → Nat} {capacity : Nat}
    {encodes : List α → Bytes → Prop} {items : List α} {chunks : List Bytes}
    (splits : Splits weight capacity encodes items chunks) (past : ¬ total weight items ≤ capacity)
    {alphabet : Alphabet} (carried : ∃ contents, ChunksCarry cfg alphabet chunks contents)
    (encoded : buildMultipartPDUs ref cfg alphabet chunks = .ok pdus) :
    RoundTrips cfg pdus ↔ digitCount cfg.number ≤ 255 ∧ digitCount cfg.smsc ≤ 508 ∧
      Divides weight capacity 254 items := by
  obtain ⟨contents, carry⟩ := carried
  have many : 2 ≤ chunks.length := splits.two_le past
  refine roundTrips_iff_of_short smscDial ?_ fun numberShort smscShort => ?_
  · intro pdu member
    obtain ⟨i, inside, rfl⟩ := List.getElem_of_mem member
    have each := Go.forall₂_of_mapM encoded
    have one := each.get (each.length_eq ▸ inside) inside
    exact ⟨alphabet, _, _, one⟩
  · rw [roundTrips_multipart_iff numberDial smscDial numberShort smscShort carry many encoded]
    exact splits.length_le_iff 254

/-- Text of the default alphabet. -/
private theorem encodeGSM7PDUs_roundTrips_iff (numberDial : DialNumber cfg.number)
    (smscDial : DialNumber cfg.smsc) (noData : cfg.data = [])
    (encoded : encodeGSM7PDUs ref cfg = .ok pdus) :
    RoundTrips cfg pdus ↔ digitCount cfg.number ≤ 255 ∧ digitCount cfg.smsc ≤ 508 ∧
      Divides septetCount smsGSM7PartSeptets 254 (Utf8.runes cfg.text) := by
  obtain ⟨septets, marshalled, encoded⟩ := Go.bind_eq_ok.mp encoded
  have same := GSM7.encodeRunes_runes_of_marshal marshalled
  have weight := total_septetCount marshalled
  split at encoded
  · -- The septets fit one PDU, and so do the characters.
    rename_i single
    unfold smsGSM7SingleSeptets at single
    refine roundTrips_single_iff numberDial smscDial ?_ ?_ encoded ?_
    · refine ⟨marshalRunes_septets marshalled, ?_, noData⟩
      rw [GSM7.unmarshalBinary_marshalRunes marshalled, same]
    · simp only [LengthFits, List.length_nil]
      omega
    · exact divides_septets ((GSM7.marshalRunes_isOk _).mp ⟨septets, marshalled⟩) (by omega)
  · -- The text is split between characters, and every chunk fits its PDU.
    rename_i past
    obtain ⟨chunks, split, encoded⟩ := Go.bind_eq_ok.mp encoded
    have splits := splitGSM7_splits split
    refine roundTrips_chunks_iff numberDial smscDial splits ?_ ?_ encoded
    · rw [weight]
      unfold smsGSM7SingleSeptets at past
      unfold smsGSM7PartSeptets
      omega
    · refine splits.carry (fun group => (Utf8.encodeRunes group, [])) ?_ ?_ ?_
      · intro group chunk marshalled
        exact ⟨marshalRunes_septets marshalled, GSM7.unmarshalBinary_marshalRunes marshalled, rfl⟩
      · intro group chunk marshalled within header six
        rw [total_septetCount marshalled] at within
        unfold smsGSM7PartSeptets at within
        simp only [LengthFits, six]
        omega
      · intro groups divided
        refine ⟨?_, by simp [noData]⟩
        rw [← same, ← divided, Utf8.encodeRunes_flatten]

/-- Text that needs UTF-16. -/
private theorem encodeUCS2PDUs_roundTrips_iff (numberDial : DialNumber cfg.number)
    (smscDial : DialNumber cfg.smsc) (noData : cfg.data = [])
    (encoded : encodeUCS2PDUs ref cfg = .ok pdus) :
    RoundTrips cfg pdus ↔ digitCount cfg.number ≤ 255 ∧ digitCount cfg.smsc ≤ 508 ∧
      Divides unitCount smsUTF16PartUnits 254 (Utf8.runes cfg.text) := by
  obtain ⟨payload, marshalled, encoded⟩ := Go.bind_eq_ok.mp encoded
  obtain ⟨same, rfl⟩ := marshalUTF16_eq_ok marshalled
  have units : (Utf16.ByteOrder.bigEndian.bytes (Utf16.encode (Utf8.runes cfg.text))).length =
      2 * total unitCount (Utf8.runes cfg.text) := by simp
  -- The units fit one PDU, or are split between characters.
  split at encoded
  · rename_i single
    unfold smsUTF16SingleUnits at single
    refine roundTrips_single_iff numberDial smscDial ?_ ?_ encoded ?_
    · refine ⟨by omega, ?_, noData⟩
      rw [UTF16.unmarshalBinary, unmarshalUTF16_encode, same]
    · simp only [LengthFits, List.length_nil]
      omega
    · exact divides_units (by omega)
  · rename_i past
    have splits := splitUTF16_splits (Utf8.runes cfg.text)
    refine roundTrips_chunks_iff numberDial smscDial splits ?_ ?_ encoded
    · unfold smsUTF16SingleUnits at past
      unfold smsUTF16PartUnits
      omega
    · refine splits.carry (fun group => (Utf8.encodeRunes group, [])) ?_ ?_ ?_
      · rintro group chunk rfl
        exact ⟨by simp, unmarshalUTF16_encode group .bigEndian, rfl⟩
      · rintro group chunk rfl within header six
        unfold smsUTF16PartUnits at within
        simp only [LengthFits, six, Utf16.ByteOrder.bytes_length, length_encode]
        omega
      · intro groups divided
        refine ⟨?_, by simp [noData]⟩
        rw [← same, ← divided, Utf8.encodeRunes_flatten]

/-- Binary data. -/
private theorem encodeBinaryPDUs_roundTrips_iff (numberDial : DialNumber cfg.number)
    (smscDial : DialNumber cfg.smsc) (noText : cfg.text = [])
    (encoded : encodeBinaryPDUs ref cfg = .ok pdus) :
    RoundTrips cfg pdus ↔ digitCount cfg.number ≤ 255 ∧ digitCount cfg.smsc ≤ 508 ∧
      Divides octetCount smsBinaryPartOctets 254 cfg.data := by
  -- The octets fit one PDU, or are split anywhere.
  unfold encodeBinaryPDUs at encoded
  split at encoded
  · rename_i single
    unfold smsMaxUserDataOctets at single
    have carries : Carries cfg.data cfg.text cfg.data .binary := ⟨noText, rfl⟩
    refine roundTrips_single_iff numberDial smscDial carries ?_ encoded ?_
    · simp only [LengthFits, List.length_nil]
      omega
    · exact divides_of_length_le (by omega) fun octet _ => by simp [octetCount, smsBinaryPartOctets]
  · rename_i past
    have splits := splitBinary_splits cfg.data
    refine roundTrips_chunks_iff numberDial smscDial splits ?_ ?_ encoded
    · unfold smsMaxUserDataOctets at past
      rw [total_octetCount]
      unfold smsBinaryPartOctets
      omega
    · refine splits.carry (fun group => ([], group)) ?_ ?_ ?_
      · rintro group chunk rfl
        exact ⟨rfl, rfl⟩
      · rintro group chunk rfl within header six
        rw [total_octetCount] at within
        unfold smsBinaryPartOctets at within
        simp only [LengthFits, six]
        omega
      · intro groups divided
        exact ⟨by simp [noText], by simp [divided, List.flatMap_id']⟩

end Encoded

/--
An accepted message round-trips exactly when every count fits the octet that transmits it.

The number has at most 255 digits, the service centre at most 508, and the content at most 254 parts.
-/
theorem roundTrips_iff (ref : UInt8) (cfg : MessageConfig) (valid : validateMessageConfig cfg = .ok ())
    (numberDial : DialNumber cfg.number) (smscDial : DialNumber cfg.smsc) (pdus : List Bytes)
    (encoded : encodePDUs ref cfg = .ok pdus) :
    RoundTrips cfg pdus ↔
      digitCount cfg.number ≤ 255 ∧ digitCount cfg.smsc ≤ 508 ∧ FitsParts 254 cfg := by
  -- The encoding is chosen by what the message has.
  unfold encodePDUs at encoded
  unfold FitsParts
  by_cases noText : cfg.text = []
  · rw [if_neg (by simp [noText])] at encoded
    rw [if_pos noText]
    exact encodeBinaryPDUs_roundTrips_iff numberDial smscDial noText encoded
  · have noData : cfg.data = [] := by
      -- A validated configuration with text has no data.
      by_contra data
      have both : cfg.text ≠ [] ∧ cfg.data.length ≠ 0 := ⟨noText, by simpa using data⟩
      simp only [validateMessageConfig, both, and_self] at valid
      split at valid <;> simp at valid
    rw [if_pos noText] at encoded
    rw [if_neg noText]
    cases marshalled : GSM7.marshalBinary cfg.text with
    -- The text has only characters of the default alphabet.
    | ok septets =>
      rw [marshalled] at encoded
      rw [if_pos ((GSM7.marshalRunes_isOk _).mp ⟨septets, marshalled⟩)]
      exact encodeGSM7PDUs_roundTrips_iff numberDial smscDial noData encoded
    | error fault =>
      -- It has another one, and UTF-16 is used.
      have none : ¬ ∀ r ∈ Utf8.runes cfg.text, (encodeGSM7Rune r).isSome := by
        intro all
        obtain ⟨septets, other⟩ := (GSM7.marshalRunes_isOk _).mpr all
        rw [GSM7.marshalBinary, other] at marshalled
        simp at marshalled
      rw [if_neg none]
      rw [marshalled] at encoded
      cases fault with
      | err cause => exact encodeUCS2PDUs_roundTrips_iff numberDial smscDial noData encoded
      | outOfRange => simp at encoded

/-- A binary message of two parts to an international number through an international service centre. -/
def dividedData : MessageConfig :=
  { number := [0x2b, 0x34, 0x39, 0x31], smsc := [0x2b, 0x34, 0x39], data := List.replicate 150 5
    deliveryReport := true }

/-- The binary message round-trips as two PDUs. -/
theorem dividedData_roundTrips :
    ∃ pdus, encodePDUs 7 dividedData = .ok pdus ∧ pdus.length = 2 ∧ RoundTrips dividedData pdus := by
  have glance : (encodePDUs 7 dividedData).toOption.map List.length = some 2 := by decide +kernel
  cases encoded : encodePDUs 7 dividedData with
  | error fault => simp [encoded, Except.toOption] at glance
  | ok pdus =>
    refine ⟨pdus, rfl, by simpa [encoded, Except.toOption] using glance, ?_⟩
    have valid : validateMessageConfig dividedData = .ok () := by decide +kernel
    refine (roundTrips_iff 7 dividedData valid ?_ ?_ pdus encoded).mpr ⟨by decide, by decide, ?_⟩
    · exact ⟨[0x34, 0x39, 0x31], by simp [IsDigit], .inr rfl⟩
    · exact ⟨[0x34, 0x39], by simp [IsDigit], .inr rfl⟩
    · refine divides_of_length_le (Nat.le_of_lt (by decide +kernel)) fun item member => ?_
      rw [List.eq_of_mem_replicate member]
      decide

/-- A binary message of one octet more than 254 parts can carry. -/
def largeData : MessageConfig := { number := [0x31], data := List.replicate 34037 0 }

/-- The large message is accepted and encoded as 255 PDUs, but its parts never complete. -/
theorem largeData_not_roundTrips : validateMessageConfig largeData = .ok () ∧
    DialNumber largeData.number ∧ DialNumber largeData.smsc ∧
    ∃ pdus, encodePDUs 7 largeData = .ok pdus ∧ ¬ RoundTrips largeData pdus := by
  -- The addresses are of the usual kind.
  have numberDial : DialNumber largeData.number :=
    ⟨[0x31], by simp [IsDigit], .inl rfl⟩
  have smscDial : DialNumber largeData.smsc := ⟨[], by simp, .inl rfl⟩
  have size : largeData.data.length = 34037 := List.length_replicate
  have noText : largeData.text = [] := rfl
  have numbered : largeData.number ≠ [] := List.cons_ne_nil _ _
  have encodes : encodePDUs 7 largeData = buildMultipartPDUs 7 largeData .binary
      (splitBinary largeData.data) := by
    rw [encodePDUs, if_neg (not_not_intro noText), encodeBinaryPDUs,
      if_neg (by rw [size]; decide)]
  -- The PDUs are not computed; that they can be built is enough.
  obtain ⟨pdus, built⟩ : ∃ pdus, encodePDUs 7 largeData = .ok pdus := by
    rw [encodes]
    exact ⟨_, Go.mapM_eq_ok fun chunk member => rfl⟩
  refine ⟨?_, numberDial, smscDial, pdus, built, ?_⟩
  · simp [validateMessageConfig, size, noText, numbered]
  · -- One octet beyond 254 full parts does not fit them.
    intro trips
    rw [encodes] at built
    have binary : encodeBinaryPDUs 7 largeData = .ok pdus := by
      rw [encodeBinaryPDUs, if_neg (by rw [size]; decide), built]
    obtain ⟨-, -, divides⟩ := (encodeBinaryPDUs_roundTrips_iff numberDial smscDial rfl binary).mp trips
    have bound := divides.total_le
    rw [total_octetCount, size] at bound
    simp [smsBinaryPartOctets] at bound

end Wwan.Sms
