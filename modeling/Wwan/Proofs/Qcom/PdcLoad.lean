import Wwan.Qcom.PdcLoad

/-! Which parts of a configuration an upload sends, and what the modem has said when it succeeds. -/

namespace Wwan.Qcom.Pdc

open Call (Ensures)
open Utf16.ByteOrder (littleEndian)

/-- What was asked and answered. -/
abbrev Log := List (Request × Answer)

/-- A world of the calls. -/
abbrev World := Dialogue Request Answer UInt32

/-! What an upload is for. -/

/-- The slice of the data with a number. -/
def slice (data : Bytes) (index : Nat) : Bytes := (data.drop (index * pdcLoadChunkSize)).take pdcLoadChunkSize

/-- The offset after the chunk at an offset. -/
def PDCConfigLoad.finish (load : PDCConfigLoad) (offset : Nat) : Nat :=
  min (offset + pdcLoadChunkSize) load.data.length

/-- The chunk at an offset. -/
def PDCConfigLoad.chunk (load : PDCConfigLoad) (offset : Nat) : Bytes :=
  (load.data.take (load.finish offset)).drop offset

/-- The request with a chunk, which carries the size of the whole data. -/
def PDCConfigLoad.frame (load : PDCConfigLoad) (chunk : Bytes) (token : UInt32) : List TLV :=
  [TLV.bytes 0x01 (load.config.bytes ++ LittleEndian.putUint32 (UInt32.ofNat load.data.length)
      ++ littleEndian.putUint16 (UInt16.ofNat chunk.length) ++ chunk),
    TLV.uint 0x10 (.uint32 token)] ++ (load.storage.map fun storage => TLV.uint 0x11 (.uint32 storage)).toList

/-- The chunk that a request carries behind the configuration, the total size and the length. -/
def PDCConfigLoad.carried (load : PDCConfigLoad) (entry : Request × Answer) : Option Bytes :=
  match entry.1 with
  | .load tlvs => (TLVs.value tlvs 0x01).map fun value => value.drop (4 + 1 + load.config.id.length + 4 + 2)
  | .indicationTransport | .serviceClientID | .subscribe | .next => none

/-- The chunks that were sent. -/
def PDCConfigLoad.chunks (load : PDCConfigLoad) (log : Log) : List Bytes := log.filterMap load.carried

/-- An indication reports that a chunk was taken: it has no token or that of the chunk, no error and no frame reset, and
the size that remains. -/
def Confirms (token : UInt32) (remaining : Nat) (tlvs : List TLV) : Prop :=
  ∃ indication, PDCLoadConfigIndication.unmarshalTLVs tlvs = .ok indication
    ∧ (indication.result.token = none ∨ indication.result.token = some token) ∧ indication.result.error = 0
    ∧ indication.frameReset ≠ some true ∧ ∃ size, indication.remaining = some size ∧ size.toNat = remaining

/-- The chunks up to an offset were sent one after the other, and each was confirmed before the next. -/
inductive Uploaded (load : PDCConfigLoad) : Nat → Log → Prop where
  | start {log : Log} (quiet : ∀ entry ∈ log, ∀ tlvs, entry.1 ≠ .load tlvs) : Uploaded load 0 log
  | chunk {offset : Nat} {log skipped : Log} {token : UInt32} {answer : Answer} {indication : List TLV}
      (before : Uploaded load offset log) (more : offset < load.data.length)
      (waits : ∀ entry ∈ skipped, entry.1 = .next)
      (confirmed : Confirms token (load.data.length - load.finish offset) indication) :
      Uploaded load (load.finish offset) (log ++ (.load (load.frame (load.chunk offset) token), answer)
        :: (skipped ++ [(.next, .indication indication)]))

/-- One more chunk was sent, after which nothing was sent any more. -/
def Interrupted (load : PDCConfigLoad) (offset : Nat) (log : Log) : Prop :=
  ∃ before token answer rest, Uploaded load offset before ∧ offset < load.data.length
    ∧ log = before ++ (.load (load.frame (load.chunk offset) token), answer) :: rest ∧ ∀ entry ∈ rest, entry.1 = .next

/-- The chunks that were sent are slices of the data from the start on, and every request says the size of the data. -/
structure Framed (load : PDCConfigLoad) (log : Log) : Prop where
  slices : ∃ count, load.chunks log = (List.range count).map (slice load.data)
  bounded : ∀ chunk ∈ load.chunks log, chunk.length ≤ 1024
  total : ∀ tlvs answer, (.load tlvs, answer) ∈ log → ∃ chunk token, tlvs = load.frame chunk token

/-! The slices. -/

/-- The first slices make up the front of the data. -/
theorem flatten_slices (data : Bytes) (count : Nat) :
    ((List.range count).map (slice data)).flatten = data.take (count * pdcLoadChunkSize) := by
  induction count with
  | zero => simp
  | succ count ih =>
    rw [List.range_succ, List.map_append, List.flatten_append, ih]
    simp only [List.map_cons, List.map_nil, List.flatten_cons, List.flatten_nil, List.append_nil, slice]
    rw [Nat.succ_mul, List.take_add]

/-- The chunk at the offset of a slice is that slice. -/
theorem chunk_eq_slice (load : PDCConfigLoad) {offset count : Nat}
    (reached : offset = min (count * pdcLoadChunkSize) load.data.length) (more : offset < load.data.length) :
    load.chunk offset = slice load.data count ∧ load.finish offset = min ((count + 1) * pdcLoadChunkSize) load.data.length := by
  have exact' : offset = count * pdcLoadChunkSize := by omega
  subst exact'
  refine ⟨?_, by rw [PDCConfigLoad.finish, Nat.succ_mul]⟩
  rw [PDCConfigLoad.chunk, PDCConfigLoad.finish, slice, List.drop_take]
  rw [List.take_eq_take_iff]
  simp only [List.length_drop]
  omega

/-- A frame carries its chunk. -/
theorem carried_frame (load : PDCConfigLoad) (chunk : Bytes) (token : UInt32) (answer : Answer) :
    load.carried (.load (load.frame chunk token), answer) = some chunk := by
  have value : TLVs.value (load.frame chunk token) 0x01 = some (load.config.bytes
      ++ LittleEndian.putUint32 (UInt32.ofNat load.data.length)
      ++ littleEndian.putUint16 (UInt16.ofNat chunk.length) ++ chunk) := by
    simp [TLVs.value, TLVs.find, PDCConfigLoad.frame, TLV.bytes]
  simp only [PDCConfigLoad.carried, value, Option.map_some, Option.some.injEq]
  -- In front of the chunk are the configuration, the total size and the length.
  apply List.drop_left'
  simp only [PDCConfig.bytes, List.length_append, List.length_cons, LittleEndian.putUint32_length,
    Utf16.ByteOrder.putUint16_length]
  omega

/-- What sends no chunk carries none. -/
theorem chunks_quiet (load : PDCConfigLoad) {log : Log} (quiet : ∀ entry ∈ log, ∀ tlvs, entry.1 ≠ .load tlvs) :
    load.chunks log = [] := by
  apply List.filterMap_eq_nil_iff.mpr
  rintro ⟨request, answer⟩ there
  cases request with
  | load tlvs => exact absurd rfl (quiet _ there tlvs)
  | indicationTransport => rfl
  | serviceClientID => rfl
  | subscribe => rfl
  | next => rfl

/-- A wait sends no chunk. -/
theorem not_load_of_next {log : Log} (waits : ∀ entry ∈ log, entry.1 = .next) :
    ∀ entry ∈ log, ∀ tlvs, entry.1 ≠ .load tlvs := by
  intro entry there tlvs
  rw [waits entry there]
  exact nofun

/-- One more frame adds its chunk, and waiting for the indication adds nothing. -/
theorem chunks_more (load : PDCConfigLoad) (log rest : Log) (chunk : Bytes) (token : UInt32) (answer : Answer)
    (waits : ∀ entry ∈ rest, entry.1 = .next) :
    load.chunks (log ++ (.load (load.frame chunk token), answer) :: rest) = load.chunks log ++ [chunk] := by
  have none : load.chunks rest = [] := chunks_quiet load (not_load_of_next waits)
  simp only [PDCConfigLoad.chunks] at none ⊢
  rw [List.filterMap_append, List.filterMap_cons_some (carried_frame load chunk token answer), none]

/-- The chunks up to an offset are the first slices. -/
theorem Uploaded.slices {load : PDCConfigLoad} {offset : Nat} {log : Log} (uploaded : Uploaded load offset log) :
    ∃ count, offset = min (count * pdcLoadChunkSize) load.data.length
      ∧ load.chunks log = (List.range count).map (slice load.data) := by
  induction uploaded with
  | start quiet => exact ⟨0, by simp, by simp [chunks_quiet load quiet]⟩
  | @chunk offset log skipped token answer indication before more waits confirmed ih =>
    obtain ⟨count, reached, sent⟩ := ih
    obtain ⟨same, finish⟩ := chunk_eq_slice load reached more
    refine ⟨count + 1, finish, ?_⟩
    rw [chunks_more load log _ _ token answer, sent, same, List.range_succ, List.map_append, List.map_singleton]
    intro entry there
    rcases List.mem_append.mp there with early | last
    · exact waits entry early
    · rw [List.mem_singleton.mp last]

/-- Every request of an upload says the size of the data. -/
theorem Uploaded.total {load : PDCConfigLoad} {offset : Nat} {log : Log} (uploaded : Uploaded load offset log) :
    ∀ tlvs answer, (.load tlvs, answer) ∈ log → ∃ chunk token, tlvs = load.frame chunk token := by
  induction uploaded with
  | start quiet => exact fun tlvs answer there => absurd rfl (quiet _ there tlvs)
  | @chunk offset log skipped token answer indication before more waits confirmed ih =>
    intro tlvs answer' there
    simp only [List.mem_append, List.mem_cons, Prod.mk.injEq, Request.load.injEq, reduceCtorEq, false_and,
      List.not_mem_nil, or_false] at there
    rcases there with early | ⟨same, -⟩ | skippedOne
    · exact ih tlvs answer' early
    · exact ⟨_, token, same⟩
    · exact absurd (waits _ skippedOne) (by simp)

/-- A slice is not longer than a chunk may be. -/
theorem length_slice_le (data : Bytes) (index : Nat) : (slice data index).length ≤ 1024 := by
  rw [slice, List.length_take]
  exact Nat.min_le_left _ _

/-- Chunks that are slices, in requests that are frames, are well framed. -/
theorem framed_of_slices {load : PDCConfigLoad} {log : Log} {count : Nat}
    (sent : load.chunks log = (List.range count).map (slice load.data))
    (total : ∀ tlvs answer, (.load tlvs, answer) ∈ log → ∃ chunk token, tlvs = load.frame chunk token) :
    Framed load log := by
  refine ⟨⟨count, sent⟩, fun chunk there => ?_, total⟩
  rw [sent] at there
  obtain ⟨index, -, rfl⟩ := List.mem_map.mp there
  exact length_slice_le load.data index

/-- An upload is well framed. -/
theorem Uploaded.framed {load : PDCConfigLoad} {offset : Nat} {log : Log} (uploaded : Uploaded load offset log) :
    Framed load log := by
  obtain ⟨count, -, sent⟩ := uploaded.slices
  exact framed_of_slices sent uploaded.total

/-- So is one whose last chunk was not confirmed. -/
theorem Interrupted.framed {load : PDCConfigLoad} {offset : Nat} {log : Log} (interrupted : Interrupted load offset log) :
    Framed load log := by
  obtain ⟨before, token, answer, rest, uploaded, more, rfl, waits⟩ := interrupted
  obtain ⟨count, reached, sent⟩ := uploaded.slices
  have next := (chunk_eq_slice load reached more).1
  refine @framed_of_slices _ _ (count + 1) ?_ fun tlvs answer' there => ?_
  · rw [chunks_more load before rest _ token answer waits, sent, next, List.range_succ, List.map_append,
      List.map_singleton]
  · simp only [List.mem_append, List.mem_cons, Prod.mk.injEq, Request.load.injEq] at there
    rcases there with early | ⟨same, -⟩ | late
    · exact uploaded.total tlvs answer' early
    · exact ⟨_, token, same⟩
    · exact absurd (waits _ late) (by simp)

/-- The chunks of a whole upload make up the data. -/
theorem Uploaded.whole {load : PDCConfigLoad} {log : Log} (uploaded : Uploaded load load.data.length log) :
    (load.chunks log).flatten = load.data := by
  obtain ⟨count, reached, sent⟩ := uploaded.slices
  rw [sent, flatten_slices]
  apply List.take_of_length_le
  omega

/-! What each part of the upload asks for. -/

/-- A check asks for nothing. -/
theorem ensures_checked {α : Type} (result : Go MessageError α) (d : World) :
    (checked result).Ensures d (fun value d' => result = .ok value ∧ d' = d) fun d' => d' = d := by
  rcases result with (err | _) | value
  · exact Call.ensures_throw rfl
  · exact Call.ensures_throw rfl
  · exact Call.ensures_pure ⟨rfl, rfl⟩

/-- A step in front of the upload asks for what it is to ask. -/
theorem ensures_prepare (request : Request) (d : World) :
    (prepare request).Ensures d (fun _ d' => d' = d.say request) fun d' => d' = d.say request := by
  refine Dialogue.ensures_ask_bind ?_
  cases d.answer with
  | done => exact Call.ensures_pure rfl
  | failed => exact Call.ensures_throw rfl
  | response tlvs => exact Call.ensures_throw rfl
  | indication tlvs => exact Call.ensures_throw rfl
  | closed => exact Call.ensures_throw rfl

/-- A new token is not asked for. -/
theorem ensures_nextPDCTokenLocked (d : World) {failed : World → Prop} :
    nextPDCTokenLocked.Ensures d (fun _ d' => d'.log = d.log) failed := by
  refine Dialogue.ensures_getState_bind (Dialogue.ensures_setState_bind ?_)
  exact Call.ensures_pure rfl

/-- A frame is sent. -/
theorem ensures_requestService (tlvs : List TLV) (d : World) :
    (requestService tlvs).Ensures d (fun _ d' => d' = d.say (.load tlvs)) fun d' => d' = d.say (.load tlvs) := by
  refine Dialogue.ensures_ask_bind ?_
  cases d.answer with
  | response response => exact Call.ensures_pure rfl
  | failed => exact Call.ensures_throw rfl
  | done => exact Call.ensures_throw rfl
  | indication tlvs => exact Call.ensures_throw rfl
  | closed => exact Call.ensures_throw rfl

/-- The dialogue has gone on with waits only. -/
def Waits (d d' : World) : Prop := ∃ more : Log, d'.log = d.log ++ more ∧ ∀ entry ∈ more, entry.1 = .next

/-- Nothing was said. -/
theorem Waits.refl (d : World) : Waits d d := ⟨[], by simp, by simp⟩

/-- A wait before other waits. -/
theorem Waits.cons {d d' : World} (later : Waits (d.say .next) d') : Waits d d' := by
  obtain ⟨more, said, waits⟩ := later
  refine ⟨(.next, d.answer) :: more, by simp [said], fun entry there => ?_⟩
  rcases List.mem_cons.mp there with rfl | late
  · rfl
  · exact waits entry late

/-- One wait. -/
theorem Waits.one (d : World) : Waits d (d.say .next) := (Waits.refl _).cons

/-- The wait ends with an indication that has no token or the one that is waited for. -/
theorem ensures_waitPDCIndication (token : UInt32) (rounds : Nat) (d : World) :
    (waitPDCIndication token rounds).Ensures d
      (fun tlvs d' => (∃ skipped : Log, d'.log = d.log ++ (skipped ++ [(.next, .indication tlvs)])
          ∧ ∀ entry ∈ skipped, entry.1 = .next)
        ∧ ∃ gotToken, decodePDCIndicationToken tlvs = .ok gotToken ∧ (gotToken = none ∨ gotToken = some token))
      (Waits d) := by
  -- The induction is on the rounds that the wait may take.
  induction rounds generalizing d with
  | zero => exact Call.ensures_throw (.refl d)
  | succ rounds ih =>
    refine Dialogue.ensures_ask_bind ?_
    cases answered : d.answer with
    | indication tlvs =>
      refine Ensures.bind ((ensures_checked _ _).mono (fun _ _ => id) fun d' same => same ▸ .one d) ?_
      rintro gotToken d' ⟨decoded, rfl⟩
      refine Call.ensures_ite (fun other => ?_) fun own => ?_
      · -- The indication of another frame is skipped, and the wait goes on.
        refine (ih (d.say .next)).mono ?_ fun d' later => later.cons
        rintro found d' ⟨⟨skipped, said, waits⟩, rest⟩
        refine ⟨⟨(.next, d.answer) :: skipped, by simp [said], fun entry there => ?_⟩, rest⟩
        rcases List.mem_cons.mp there with rfl | late
        · rfl
        · exact waits entry late
      · -- An indication without a token, or with the own one, ends the wait.
        refine Call.ensures_pure ⟨⟨[], by simp [answered], by simp⟩, gotToken, decoded, ?_⟩
        cases gotToken with
        | none => exact .inl rfl
        | some got => exact .inr (by simpa using own)
    -- Without an indication the wait fails.
    | closed => exact Call.ensures_throw (.one d)
    | failed => exact Call.ensures_throw (.one d)
    | done => exact Call.ensures_throw (.one d)
    | response tlvs => exact Call.ensures_throw (.one d)

/-- The result of an indication has the token that the wait has looked at. -/
theorem token_of_unmarshalTLVs {tlvs : List TLV} {indication : PDCLoadConfigIndication}
    (parsed : PDCLoadConfigIndication.unmarshalTLVs tlvs = .ok indication) :
    decodePDCIndicationToken tlvs = .ok indication.result.token := by
  -- The result is read first, and its token is in the two bytes behind it.
  obtain ⟨result, read, parsed⟩ := Go.bind_eq_ok.mp parsed
  obtain ⟨received, -, parsed⟩ := Go.bind_eq_ok.mp parsed
  obtain ⟨remaining, -, parsed⟩ := Go.bind_eq_ok.mp parsed
  obtain ⟨frameReset, -, parsed⟩ := Go.bind_eq_ok.mp parsed
  cases parsed
  unfold PDCIndicationResult.unmarshalTLVs at read
  cases found : TLVs.value tlvs 0x01 with
  | none => simp [found, Go.fail] at read
  | some value =>
    rcases value with _ | ⟨first, _ | ⟨second, _ | ⟨third, rest⟩⟩⟩
    · simp [found, Go.fail] at read
    · simp [found, Go.fail] at read
    · simp only [found] at read
      obtain ⟨token, decoded, returned⟩ := Go.bind_eq_ok.mp read
      cases returned
      exact decoded
    · simp [found, Go.fail] at read

/-- An indication that passes reports success, no reset and the size that remains. -/
theorem ensures_checkIndication (indication : PDCLoadConfigIndication) {length finish : Nat} (fits : length ≤ 0xFFFFFFFF)
    (d : World) :
    (checkIndication indication length finish).Ensures d
      (fun _ d' => d' = d ∧ indication.result.error = 0 ∧ indication.frameReset ≠ some true
        ∧ ∃ size, indication.remaining = some size ∧ size.toNat = length - finish)
      fun d' => d' = d := by
  unfold checkIndication
  -- A failure and a reset end the upload.
  refine Call.ensures_ite (fun _ => Call.ensures_throw rfl) fun success => ?_
  refine Call.ensures_ite (fun _ => Call.ensures_throw rfl) fun kept => ?_
  cases remains : indication.remaining with
  | none => exact Call.ensures_throw rfl
  | some remaining =>
    refine Call.ensures_ite (fun _ => Call.ensures_throw rfl) fun expected => ?_
    -- What remains is what has not been sent.
    have size : remaining.toNat = length - finish := by
      rw [not_not.mp expected]
      apply UInt32.toNat_ofNat_of_lt'
      simp only [UInt32.size]
      omega
    -- What was received is checked where the modem says it.
    cases indication.received with
    | none => exact Call.ensures_pure ⟨rfl, not_not.mp success, kept, remaining, rfl, size⟩
    | some received =>
      refine Call.ensures_ite (fun _ => Call.ensures_throw rfl) fun _ => ?_
      exact Call.ensures_pure ⟨rfl, not_not.mp success, kept, remaining, rfl, size⟩

/-- A request that is built is the frame of the chunk. -/
theorem frame_of_loadConfigRequest {load : PDCConfigLoad} {chunk : Bytes} {token : UInt32} {tlvs : List TLV}
    (built : loadConfigRequest load.config (UInt32.ofNat load.data.length) chunk token load.storage = .ok tlvs) :
    tlvs = load.frame chunk token := by
  obtain ⟨value, encoded, built⟩ := Go.bind_eq_ok.mp built
  -- Past its checks the frame is the configuration, the total size, the length and the chunk.
  have layout : value = load.config.bytes ++ LittleEndian.putUint32 (UInt32.ofNat load.data.length)
      ++ littleEndian.putUint16 (UInt16.ofNat chunk.length) ++ chunk := by
    have encoded := Go.mapError_eq_ok.mp encoded
    simp only [encodePDCLoadFrame, Go.unit_bind_eq_ok] at encoded
    obtain ⟨-, -, -, -, -, returned⟩ := encoded
    obtain ⟨config, marshalled, returned⟩ := Go.bind_eq_ok.mp returned
    simp only [PDCConfig.marshalBinary, Go.unit_bind_eq_ok] at marshalled
    obtain ⟨-, -, same⟩ := marshalled
    cases same
    cases returned
    rfl
  subst layout
  unfold PDCConfigLoad.frame
  -- The storage is added where there is one.
  cases stored : load.storage with
  | none =>
    simp only [stored] at built
    cases built
    simp
  | some storage =>
    simp only [stored, Go.unit_bind_eq_ok] at built
    cases built.2
    simp

/-- One round adds its chunk to the upload when the chunk is confirmed, and sends nothing else when it is not. -/
theorem ensures_loadChunk {load : PDCConfigLoad} (fits : load.data.length ≤ 0xFFFFFFFF) {offset : Nat}
    (more : offset < load.data.length) (observed : Nat) {d : World} (uploaded : Uploaded load offset d.log) :
    (loadChunk load offset (load.finish offset) observed).Ensures d
      (fun _ d' => Uploaded load (load.finish offset) d'.log)
      fun d' => Uploaded load offset d'.log ∨ Interrupted load offset d'.log := by
  -- The token is counted up before the frame is built.
  refine Ensures.bind (ensures_nextPDCTokenLocked d) ?_
  intro token d₁ kept
  rw [← kept] at uploaded
  refine Ensures.bind ((ensures_checked _ d₁).mono (fun _ _ => id) fun d' same => .inl (same ▸ uploaded)) ?_
  rintro tlvs d₂ ⟨built, rfl⟩
  cases frame_of_loadConfigRequest built
  -- From here on the frame is sent, and only waits follow it.
  have interrupted {d' : World} (waits : Waits (d₂.say (.load (load.frame (load.chunk offset) token))) d') :
      Uploaded load offset d'.log ∨ Interrupted load offset d'.log := by
    obtain ⟨rest, said, nexts⟩ := waits
    refine .inr ⟨d₂.log, token, d₂.answer, rest, uploaded, more, ?_, nexts⟩
    rw [said, Dialogue.say_log, List.append_assoc, List.singleton_append]
  refine Ensures.bind ((ensures_requestService _ d₂).mono (fun _ _ => id) fun d' same => interrupted (same ▸ .refl _)) ?_
  rintro response d₃ rfl
  cases resultError response with
  | some err => exact Call.ensures_throw (interrupted (.refl _))
  | none =>
    -- The response may ask for a reset.
    refine Ensures.bind ((ensures_checked _ _).mono (fun _ _ => id) fun d' same => interrupted (same ▸ .refl _)) ?_
    rintro frameReset d₄ ⟨-, rfl⟩
    refine Call.ensures_ite (fun _ => Call.ensures_throw (interrupted (.refl _))) fun _ => ?_
    refine Ensures.bind ((ensures_waitPDCIndication token observed _).mono (fun _ _ => id) fun d' => interrupted) ?_
    rintro indicationTLVs d₅ ⟨⟨skipped, said, nexts⟩, gotToken, decoded, own⟩
    -- The waits so far follow the frame.
    have waited : Waits (d₂.say (.load (load.frame (load.chunk offset) token))) d₅ := by
      refine ⟨_, said, fun entry there => ?_⟩
      rcases List.mem_append.mp there with early | last
      · exact nexts entry early
      · rw [List.mem_singleton.mp last]
    refine Ensures.bind ((ensures_checked _ d₅).mono (fun _ _ => id) fun d' same => interrupted (same ▸ waited)) ?_
    rintro indication d₆ ⟨parsed, rfl⟩
    refine (ensures_checkIndication indication fits d₆).mono ?_ fun d' same => interrupted (same ▸ waited)
    rintro ⟨⟩ d' ⟨rfl, success, kept, size⟩
    -- The token of the result is the one that the wait has accepted.
    have token_eq := decoded.symm.trans (token_of_unmarshalTLVs parsed)
    cases token_eq
    rw [said, Dialogue.say_log, List.append_assoc, List.singleton_append]
    exact .chunk uploaded more nexts ⟨indication, parsed, own, success, kept, size⟩

/-- The loop ends when all chunks are confirmed, since every round comes at least one byte further. -/
theorem ensures_loadChunks {load : PDCConfigLoad} (fits : load.data.length ≤ 0xFFFFFFFF) (observed : Nat)
    {rounds offset : Nat} (enough : load.data.length - offset < rounds) {d : World}
    (uploaded : Uploaded load offset d.log) (inside : offset ≤ load.data.length) :
    (loadChunks load observed rounds offset).Ensures d (fun _ d' => Uploaded load load.data.length d'.log)
      fun d' => ∃ offset, Uploaded load offset d'.log ∨ Interrupted load offset d'.log := by
  -- The induction is on the rounds, each of which comes at least one byte further.
  induction rounds generalizing offset d with
  | zero => omega
  | succ rounds ih =>
    unfold loadChunks
    refine Call.ensures_ite (fun more => ?_) fun finished => ?_
    · refine Ensures.bind ((ensures_loadChunk fits more observed uploaded).mono (fun _ _ => id)
        fun d' stopped => ⟨offset, stopped⟩) ?_
      intro _ d' further
      have advances : offset < load.finish offset := by
        simp only [PDCConfigLoad.finish, pdcLoadChunkSize]
        omega
      have bounded : load.finish offset ≤ load.data.length := Nat.min_le_right _ _
      have closer : load.data.length - load.finish offset < rounds := by omega
      exact ih closer further bounded
    · -- All is sent.
      have done : offset = load.data.length := by omega
      subst done
      exact Call.ensures_pure uploaded

/--
An upload sends the data in consecutive chunks of at most 1024 bytes, all with the size of the whole data.

It returns only when every chunk was confirmed and the chunks are the whole data. When a chunk fails, nothing more is
sent after it.
-/
theorem pdc_load_configuration (load : PDCConfigLoad) (observed : Nat) (tape : Nat → Answer) (token : UInt32) :
    (pdcLoadConfiguration load observed).Ensures ⟨tape, [], token⟩
      (fun _ d => Uploaded load load.data.length d.log ∧ (load.chunks d.log).flatten = load.data ∧ Framed load d.log)
      fun d => Framed load d.log ∧ ∃ offset, Uploaded load offset d.log ∨ Interrupted load offset d.log := by
  -- It is enough to follow the upload.
  suffices follows : (pdcLoadConfiguration load observed).Ensures ⟨tape, [], token⟩
      (fun _ d => Uploaded load load.data.length d.log)
      fun d => ∃ offset, Uploaded load offset d.log ∨ Interrupted load offset d.log by
    refine follows.mono (fun _ d uploaded => ⟨uploaded, uploaded.whole, uploaded.framed⟩) ?_
    rintro d ⟨offset, uploaded | interrupted⟩
    · exact ⟨uploaded.framed, offset, .inl uploaded⟩
    · exact ⟨interrupted.framed, offset, .inr interrupted⟩
  -- Until the first frame the upload is at its start.
  have stopped {d : World} (quiet : ∀ entry ∈ d.log, ∀ tlvs, entry.1 ≠ .load tlvs) :
      ∃ offset, Uploaded load offset d.log ∨ Interrupted load offset d.log := ⟨0, .inl (.start quiet)⟩
  refine Ensures.bind ((ensures_checked _ _).mono (fun _ _ => id) fun d' same => stopped (by simp [same])) ?_
  rintro ⟨⟩ d₁ ⟨-, rfl⟩
  refine Call.ensures_ite (fun _ => Call.ensures_throw (stopped (by simp))) fun _ => ?_
  refine Call.ensures_ite (fun _ => Call.ensures_throw (stopped (by simp))) fun long => ?_
  -- Past the checks nothing was said so far, with or without a storage.
  have prepared : (do
      prepare .indicationTransport
      prepare .serviceClientID
      prepare .subscribe
      loadChunks load observed (load.data.length + 1) 0).Ensures ⟨tape, [], token⟩
      (fun _ d => Uploaded load load.data.length d.log)
      fun d => ∃ offset, Uploaded load offset d.log ∨ Interrupted load offset d.log := by
    refine Ensures.bind ((ensures_prepare _ _).mono (fun _ _ => id) fun d' same => stopped (by simp [same])) ?_
    rintro ⟨⟩ d₁ rfl
    refine Ensures.bind ((ensures_prepare _ _).mono (fun _ _ => id) fun d' same => stopped (by simp [same])) ?_
    rintro ⟨⟩ d₂ rfl
    refine Ensures.bind ((ensures_prepare _ _).mono (fun _ _ => id) fun d' same => stopped (by simp [same])) ?_
    rintro ⟨⟩ d₃ rfl
    exact ensures_loadChunks (by omega) observed (by omega) (.start (by simp)) (Nat.zero_le _)
  cases load.storage with
  | none => exact prepared
  | some storage =>
    refine Ensures.bind ((ensures_checked _ _).mono (fun _ _ => id) fun d' same => stopped (by simp [same])) ?_
    rintro ⟨⟩ d₄ ⟨-, rfl⟩
    exact prepared

/-- A byte is uploaded in one chunk, after an indication with the token of another request. -/
example : (pdcLoadConfiguration { config := { type := 0x00, id := [7] }, data := [42] } 2).outcome
    ⟨fun n => match n with
      | 0 | 1 | 2 => .done
      | 3 => .response [TLV.bytes 0x02 [0, 0, 0, 0]]
      | 4 => .indication [TLV.bytes 0x01 [0, 0], TLV.uint 0x10 (.uint32 9)]
      | _ => .indication [TLV.bytes 0x01 [0, 0], TLV.uint 0x10 (.uint32 1), TLV.uint 0x12 (.uint32 0)], [], 0⟩
    = .ok () := by
  decide +kernel

end Wwan.Qcom.Pdc
