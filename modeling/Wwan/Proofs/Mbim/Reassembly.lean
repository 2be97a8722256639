import Wwan.Proofs.Mbim.Fragment

/-! Collected fragments give back their message, whatever arrives between them. -/

namespace Wwan.Mbim

open LittleEndian

/-- A call the receiver makes on its collectors. -/
inductive ReceiveEvent where
  | frame (buf : Bytes) (now : Time)
  | expire (now : Time)
  deriving DecidableEq

/-- The collectors after one call. -/
def afterEvent (collectors : Collectors) : ReceiveEvent → Collectors
  | .frame buf now => (collectReceivedFrame collectors buf now).1
  | .expire now => (expireFragmentCollectors collectors now).1

/-- What the frames of a sequence of calls result in, each with its key. -/
def collectAll (collectors : Collectors) : List ReceiveEvent → List (FragmentKey × Received)
  | [] => []
  | .frame buf now :: rest =>
    (frameKey buf, (collectReceivedFrame collectors buf now).2) ::
      collectAll (afterEvent collectors (.frame buf now)) rest
  | .expire now :: rest => collectAll (afterEvent collectors (.expire now)) rest

/-- The frames that arrive under a key, in order. -/
def framesOf (key : FragmentKey) (events : List ReceiveEvent) : List Bytes :=
  events.filterMap fun
    | .frame buf _ => if frameKey buf = key then some buf else none
    | .expire _ => none

/-- What the frames under a key result in, in order. -/
def resultsOf (key : FragmentKey) (results : List (FragmentKey × Received)) : List Received :=
  results.filterMap fun result => if result.1 = key then some result.2 else none

/-- A frame counts for its own key. -/
theorem framesOf_frame (key : FragmentKey) (buf : Bytes) (now : Time) (rest : List ReceiveEvent) :
    framesOf key (.frame buf now :: rest) =
      if frameKey buf = key then buf :: framesOf key rest else framesOf key rest := by
  by_cases mine : frameKey buf = key <;> simp [framesOf, mine]

/-- An expiration brings no frame. -/
theorem framesOf_expire (key : FragmentKey) (now : Time) (rest : List ReceiveEvent) :
    framesOf key (.expire now :: rest) = framesOf key rest := by
  simp [framesOf]

/-- A result counts for its own key. -/
theorem resultsOf_cons (key own : FragmentKey) (result : Received)
    (rest : List (FragmentKey × Received)) :
    resultsOf key ((own, result) :: rest) =
      if own = key then result :: resultsOf key rest else resultsOf key rest := by
  by_cases mine : own = key <;> simp [resultsOf, mine]

/-- No expiration finds the collection under a key past its deadline. -/
def Spared (key : FragmentKey) (collectors : Collectors) : List ReceiveEvent → Prop
  | [] => True
  | .frame buf now :: rest => Spared key (afterEvent collectors (.frame buf now)) rest
  | .expire now :: rest =>
    (∀ collection ∈ collectors.get key, now < collection.deadline) ∧
      Spared key (afterEvent collectors (.expire now)) rest

instance decidableSpared (key : FragmentKey) (collectors : Collectors) :
    (events : List ReceiveEvent) → Decidable (Spared key collectors events)
  | [] => isTrue trivial
  | .frame buf now :: rest => decidableSpared key (afterEvent collectors (.frame buf now)) rest
  | .expire now :: rest =>
    have := decidableSpared key (afterEvent collectors (.expire now)) rest
    inferInstanceAs (Decidable (_ ∧ Spared key (afterEvent collectors (.expire now)) rest))

/-- A frame's call is collecting it. -/
theorem afterEvent_frame (collectors : Collectors) (buf : Bytes) (now : Time) :
    afterEvent collectors (.frame buf now) = (collectReceivedFrame collectors buf now).1 := rfl

/-- An expiration's call is expiring the collectors. -/
theorem afterEvent_expire (collectors : Collectors) (now : Time) :
    afterEvent collectors (.expire now) = (expireFragmentCollectors collectors now).1 := rfl

/-- A frame always spares. -/
theorem spared_frame {key : FragmentKey} {collectors : Collectors} {buf : Bytes} {now : Time}
    {rest : List ReceiveEvent} : Spared key collectors (.frame buf now :: rest) ↔
      Spared key (afterEvent collectors (.frame buf now)) rest := Iff.rfl

/-- An expiration spares what is ahead of its deadline. -/
theorem spared_expire {key : FragmentKey} {collectors : Collectors} {now : Time}
    {rest : List ReceiveEvent} : Spared key collectors (.expire now :: rest) ↔
      (∀ collection ∈ collectors.get key, now < collection.deadline) ∧
        Spared key (afterEvent collectors (.expire now)) rest := Iff.rfl

/-! What one call does to the collectors. -/

/-- A frame touches the collection of its own key only. -/
theorem collectReceivedFrame_other (collectors : Collectors) (buf : Bytes) (now : Time)
    {other : FragmentKey} (different : other ≠ frameKey buf) :
    (collectReceivedFrame collectors buf now).1.get other = collectors.get other := by
  have deleted : (collectors.delete (frameKey buf)).get other = collectors.get other :=
    GoMap.get_delete_ne collectors different
  have stored (collection : IncomingFragmentCollection) :
      (collectors.set (frameKey buf) collection).get other = collectors.get other :=
    GoMap.get_set_ne collectors collection different
  unfold collectReceivedFrame
  dsimp only
  -- Every branch keeps the map, deletes the frame's key or stores under it.
  repeat' split
  all_goals first
    | rfl
    | exact deleted
    | exact stored _

/-- A frame that faults leaves no collection under its key. -/
theorem collectReceivedFrame_fault {collectors : Collectors} {buf : Bytes} {now : Time}
    {fault : FragmentFault} (faulted : (collectReceivedFrame collectors buf now).2 = .fault fault) :
    (collectReceivedFrame collectors buf now).1.get (frameKey buf) = none ∧
      fault = outOfSequence buf := by
  have deleted : (collectors.delete (frameKey buf)).get (frameKey buf) = none :=
    GoMap.get_delete_self collectors _
  unfold collectReceivedFrame at faulted ⊢
  dsimp only at faulted ⊢
  repeat' split at faulted
  all_goals simp_all

section Branches

variable {collectors : Collectors} {buf : Bytes} {now : Time} {f : Fragment}

/-- A message in one frame is returned as it is. -/
private theorem collectReceivedFrame_single (parsed : Fragment.unmarshalBinary buf = .ok f)
    (single : f.total = 1) : collectReceivedFrame collectors buf now = (collectors, .complete buf) := by
  simp [collectReceivedFrame, parsed, single]

/-- A first fragment opens a collection. -/
private theorem collectReceivedFrame_first (parsed : Fragment.unmarshalBinary buf = .ok f)
    (several : f.total ≠ 1) (absent : collectors.get (frameKey buf) = none) {c : FragmentCollector}
    (first : f.current = 0) (opened : newFragmentCollector buf = .ok c) :
    collectReceivedFrame collectors buf now =
      (collectors.set (frameKey buf) { collector := c, deadline := now + fragmentTimeout },
        .incomplete) := by
  simp [collectReceivedFrame, parsed, several, absent, first, opened]

variable {collection : IncomingFragmentCollection} {c : FragmentCollector}

/-- A middle fragment extends its collection. -/
private theorem collectReceivedFrame_next (parsed : Fragment.unmarshalBinary buf = .ok f)
    (several : f.total ≠ 1) (present : collectors.get (frameKey buf) = some collection)
    (added : collection.collector.add buf = .ok c) (more : c.complete = false) :
    collectReceivedFrame collectors buf now =
      (collectors.set (frameKey buf) { collector := c, deadline := now + fragmentTimeout },
        .incomplete) := by
  simp [collectReceivedFrame, parsed, several, present, added, more]

/-- A last fragment closes its collection. -/
private theorem collectReceivedFrame_last (parsed : Fragment.unmarshalBinary buf = .ok f)
    (several : f.total ≠ 1) (present : collectors.get (frameKey buf) = some collection)
    (added : collection.collector.add buf = .ok c) (done : c.complete = true) {data : Bytes}
    (rebuilt : c.marshalBinary = .ok data) :
    collectReceivedFrame collectors buf now = (collectors.delete (frameKey buf), .complete data) := by
  simp [collectReceivedFrame, parsed, several, present, added, done, rebuilt]

end Branches

/-- Deleting keys removes exactly those keys. -/
theorem get_foldl_delete (keys : List FragmentKey) (collectors : Collectors) (key : FragmentKey) :
    (keys.foldl GoMap.delete collectors).get key =
      if key ∈ keys then none else collectors.get key := by
  induction keys generalizing collectors with
  | nil => simp
  | cons first rest ih =>
    rw [List.foldl_cons, ih, GoMap.get_delete]
    by_cases here : key = first <;> by_cases later : key ∈ rest <;> simp [here, later]

/-- A key expires when its collection's deadline has passed. -/
theorem mem_expiredKeys {collectors : Collectors} {now : Time} {key : FragmentKey} :
    key ∈ expiredKeys collectors now ↔
      ∃ collection, collectors.get key = some collection ∧ collection.deadline ≤ now := by
  simp only [expiredKeys, List.mem_map, List.mem_filter, decide_eq_true_eq, Prod.exists,
    exists_and_right, exists_eq_right, GoMap.mem_entries_iff]

/-- An expiration keeps a collection whose deadline lies ahead. -/
theorem expireFragmentCollectors_get {collectors : Collectors} {now : Time} {key : FragmentKey}
    (spared : ∀ collection ∈ collectors.get key, now < collection.deadline) :
    (expireFragmentCollectors collectors now).1.get key = collectors.get key := by
  rw [expireFragmentCollectors, get_foldl_delete, if_neg]
  rintro expired
  obtain ⟨collection, found, passed⟩ := mem_expiredKeys.mp expired
  exact absurd passed (Nat.not_le.mpr (spared collection found))

/-! One message. -/

/-- The collector of a message after its first `count` pieces. -/
def collected (data : Bytes) (pieces : List Bytes) (count : Nat) : FragmentCollector :=
  { messageType := messageTypeOf data
    transactionID := transactionIDOf data
    total := UInt32.ofNat pieces.length
    current := UInt32.ofNat (count - 1)
    payload := (pieces.take count).flatten }

/-- The message's collection holds exactly its first `count` pieces, and none at either end. -/
def Holds (data : Bytes) (pieces : List Bytes) (count : Nat) (collectors : Collectors) : Prop :=
  if 0 < count ∧ count < pieces.length then
    ∃ deadline, collectors.get (frameKey data) = some { collector := collected data pieces count, deadline }
  else collectors.get (frameKey data) = none

/-- A number of pieces reads back from its field. -/
private theorem Pieces.toNat_ofNat {data : Bytes} {pieces : List Bytes} (cut : Pieces data pieces)
    {n : Nat} (inside : n ≤ pieces.length) : (UInt32.ofNat n).toNat = n :=
  UInt32.toNat_ofNat_of_lt' (Nat.lt_of_le_of_lt inside cut.few)

/-- The last piece's number is one below the number of pieces. -/
private theorem ofNat_pred {n : Nat} (positive : 0 < n) : UInt32.ofNat n - 1 = UInt32.ofNat (n - 1) := by
  rw [UInt32.ofNat_sub positive]
  rfl

/-- The fragment a collector waits for is appended. -/
private theorem add_of_next {c : FragmentCollector} {frame : Bytes} {f : Fragment}
    (parsed : Fragment.unmarshalBinary frame = .ok f) (sameType : f.messageType = c.messageType)
    (sameTransaction : f.transactionID = c.transactionID) (sameTotal : f.total = c.total)
    (next : f.current = c.current + 1) :
    c.add frame = .ok { c with current := f.current, payload := c.payload ++ f.payload } := by
  simp [FragmentCollector.add, parsed, sameType, sameTransaction, sameTotal, next]

/-- All pieces together rebuild the message. -/
private theorem marshalBinary_collected {data : Bytes} (message : Fragmentable data)
    {pieces : List Bytes} (cut : Pieces data pieces) :
    (collected data pieces pieces.length).complete = true ∧
      (collected data pieces pieces.length).marshalBinary = .ok data := by
  -- The number of the last piece is one below their count.
  have done : (collected data pieces pieces.length).complete = true := by
    simp [FragmentCollector.complete, collected, ofNat_pred cut.several]
  have payload : (collected data pieces pieces.length).payload = data.drop 20 := by
    simp [collected, cut.whole]
  -- The message is its header and its payload.
  have size : 20 + (data.drop 20).length = data.length := by
    have := message.long
    simp only [List.length_drop]
    omega
  refine ⟨done, ?_⟩
  have rebuilt := message.eq_fragmentFrame
  rw [fragmentFrame, size] at rebuilt
  have fits : (UInt32.ofNat data.length).toNat = data.length := UInt32.toNat_ofNat_of_lt' message.short
  simp only [FragmentCollector.marshalBinary, done, payload, size, fits,
    show ¬ data.length < 20 from Nat.not_lt.mpr message.long]
  conv_rhs => rw [rebuilt]
  have all : (data.drop 20).take (data.length - 20) = data.drop 20 :=
    List.take_of_length_le (by simp)
  simp [all, collected]

/-- Before the last piece the collector waits for more. -/
private theorem complete_collected {data : Bytes} {pieces : List Bytes} {count : Nat}
    (cut : Pieces data pieces) (more : count + 1 < pieces.length) :
    (collected data pieces (count + 1)).complete = false := by
  simp only [FragmentCollector.complete, collected, Nat.add_sub_cancel, decide_eq_false_iff_not]
  intro same
  rw [ofNat_pred (by omega)] at same
  have values := congrArg UInt32.toNat same
  rw [cut.toNat_ofNat (by omega), cut.toNat_ofNat (by omega)] at values
  omega

/-- The next piece of a message is collected, and the last one completes it. -/
theorem collectReceivedFrame_piece {data : Bytes} (message : Fragmentable data) {pieces : List Bytes}
    (cut : Pieces data pieces) {count : Nat}
    (more : count < pieces.length) {collectors : Collectors} (holds : Holds data pieces count collectors)
    (now : Time) :
    Holds data pieces (count + 1)
        (collectReceivedFrame collectors (pieceFrame data pieces count) now).1 ∧
      (collectReceivedFrame collectors (pieceFrame data pieces count) now).2 =
        if count + 1 = pieces.length then .complete data else .incomplete := by
  have total := cut.toNat_ofNat (Nat.le_refl pieces.length)
  have number := cut.toNat_ofNat (Nat.le_of_lt more)
  have key : frameKey (pieceFrame data pieces count) = frameKey data := frameKey_fragmentFrame ..
  have parsed := unmarshalBinary_fragmentFrame (messageTypeOf data) (transactionIDOf data)
    (UInt32.ofNat pieces.length) (UInt32.ofNat count) (pieces.getD count []) message.kind (by omega)
  change Fragment.unmarshalBinary (pieceFrame data pieces count) = _ at parsed
  by_cases single : pieces.length = 1
  · -- A single frame is returned as it is, and no collection is opened.
    have first : count = 0 := by omega
    subst first
    obtain ⟨piece, rfl⟩ := List.length_eq_one_iff.mp single
    have same : pieceFrame data [piece] 0 = data := by
      have piece_eq : piece = data.drop 20 := by simpa using cut.whole
      have unit : UInt32.ofNat 1 = 1 := by decide
      have zero : UInt32.ofNat 0 = 0 := by decide
      conv_rhs => rw [message.eq_fragmentFrame]
      rw [pieceFrame, List.length_singleton, unit, zero, List.getD_cons_zero, piece_eq]
    rw [collectReceivedFrame_single parsed rfl, same]
    exact ⟨by simpa [Holds] using holds, by simp⟩
  · -- More than one piece is more than one fragment, for the count does not wrap.
    have several : UInt32.ofNat pieces.length ≠ 1 := by
      intro one
      rw [one] at total
      have unit : (1 : UInt32).toNat = 1 := by decide
      omega
    by_cases first : count = 0
    · -- The first of several pieces opens the collection.
      subst first
      have absent : collectors.get (frameKey (pieceFrame data pieces 0)) = none := by
        rw [key]
        simpa [Holds] using holds
      have opened : newFragmentCollector (pieceFrame data pieces 0) =
          .ok (collected data pieces 1) := by
        obtain ⟨piece, rest, rfl⟩ := List.exists_cons_of_ne_nil (List.ne_nil_of_length_pos more)
        rw [newFragmentCollector, parsed]
        simp [collected]
      rw [collectReceivedFrame_first parsed several absent rfl opened, key,
        if_neg (by omega : ¬ 0 + 1 = pieces.length)]
      have inside : 0 < 0 + 1 ∧ 0 + 1 < pieces.length := by omega
      refine ⟨?_, rfl⟩
      rw [Holds, if_pos inside]
      exact ⟨_, GoMap.get_set_self ..⟩
    · -- A later piece is the next one its collection waits for.
      rw [Holds, if_pos (by omega)] at holds
      obtain ⟨deadline, present⟩ := holds
      rw [← key] at present
      have next : UInt32.ofNat count = UInt32.ofNat (count - 1) + 1 := by
        rw [← ofNat_pred (by omega), UInt32.sub_add_cancel]
      have grown : (pieces.take count).flatten ++ pieces.getD count [] =
          (pieces.take (count + 1)).flatten := by
        rw [List.take_add_one, List.flatten_append]
        simp [List.getD_eq_getElem?_getD, more]
      -- The piece is added behind those collected.
      have added : (collected data pieces count).add (pieceFrame data pieces count) =
          .ok (collected data pieces (count + 1)) := by
        rw [add_of_next parsed rfl rfl rfl next, collected, collected, ← grown]
        rfl
      by_cases last : count + 1 = pieces.length
      · -- The last piece rebuilds the message and ends the collection.
        obtain ⟨done, rebuilt⟩ := marshalBinary_collected message cut
        rw [← last] at done rebuilt
        rw [collectReceivedFrame_last parsed several present added done rebuilt, key,
          if_pos last]
        refine ⟨?_, rfl⟩
        rw [Holds, if_neg (by omega)]
        exact GoMap.get_delete_self ..
      · -- With an earlier piece the collection goes on.
        rw [collectReceivedFrame_next parsed several present added
          (complete_collected cut (by omega)), key, if_neg last]
        refine ⟨?_, rfl⟩
        rw [Holds, if_pos (by omega)]
        exact ⟨_, GoMap.get_set_self ..⟩

/-- What the frames of a message result in: nothing until the last one gives the message. -/
def expected (data : Bytes) (frames : List Bytes) : List Received :=
  List.replicate (frames.length - 1) .incomplete ++ [.complete data]

/-- The frames from a position on start with the piece there. -/
private theorem drop_pieceFrames {data : Bytes} {pieces : List Bytes} {count : Nat}
    (more : count < pieces.length) :
    ((List.range pieces.length).map (pieceFrame data pieces)).drop count =
      pieceFrame data pieces count ::
        ((List.range pieces.length).map (pieceFrame data pieces)).drop (count + 1) := by
  rw [List.drop_eq_getElem_cons (by simpa using more)]
  simp

/-- The results from a position on start with the result there. -/
private theorem drop_expected (data : Bytes) {pieces : List Bytes} {count : Nat}
    (more : count < pieces.length) :
    (expected data ((List.range pieces.length).map (pieceFrame data pieces))).drop count =
      (if count + 1 = pieces.length then .complete data else .incomplete) ::
        (expected data ((List.range pieces.length).map (pieceFrame data pieces))).drop (count + 1) := by
  rw [List.drop_eq_getElem_cons (by simp [expected]; omega)]
  congr 1
  by_cases last : count + 1 = pieces.length
  · rw [if_pos last]
    simp [expected, List.getElem_append, show ¬ count < pieces.length - 1 by omega]
  · rw [if_neg last]
    simp [expected, show count < pieces.length - 1 by omega]

/-- The remaining frames of a message complete it, whatever other calls come between them. -/
private theorem resultsOf_pieces {data : Bytes} (message : Fragmentable data) {pieces : List Bytes}
    (cut : Pieces data pieces) {count : Nat}
    {collectors : Collectors} (holds : Holds data pieces count collectors) {events : List ReceiveEvent}
    (own : framesOf (frameKey data) events =
      ((List.range pieces.length).map (pieceFrame data pieces)).drop count)
    (spared : Spared (frameKey data) collectors events) :
    resultsOf (frameKey data) (collectAll collectors events) =
      (expected data ((List.range pieces.length).map (pieceFrame data pieces))).drop count := by
  induction events generalizing count collectors with
  | nil =>
    -- Nothing more arrives, so every piece has arrived.
    have done : pieces.length ≤ count := by
      have := congrArg List.length own
      simp [framesOf] at this
      omega
    have several := cut.several
    rw [List.drop_eq_nil_of_le (by simp [expected]; omega)]
    rfl
  | cons event rest ih =>
    cases event with
    | expire now =>
      -- An expiration that spares the key changes nothing for it.
      obtain ⟨ahead, spared⟩ := spared_expire.mp spared
      have kept : Holds data pieces count (afterEvent collectors (.expire now)) := by
        rw [Holds, afterEvent_expire, expireFragmentCollectors_get ahead]
        exact holds
      rw [framesOf_expire] at own
      rw [collectAll]
      exact ih kept own spared
    | frame buf now =>
      rw [framesOf_frame] at own
      rw [collectAll, resultsOf_cons]
      by_cases mine : frameKey buf = frameKey data
      · rw [if_pos mine] at own ⊢
        -- There is a piece that it can be.
        have more : count < pieces.length := by
          by_contra done
          rw [List.drop_eq_nil_of_le (by simp; omega)] at own
          exact absurd own (List.cons_ne_nil _ _)
        rw [drop_pieceFrames more, List.cons.injEq] at own
        obtain ⟨rfl, later⟩ := own
        obtain ⟨kept, result⟩ := collectReceivedFrame_piece message cut more holds now
        rw [← afterEvent_frame] at kept
        rw [drop_expected data more, result, ih kept later (spared_frame.mp spared)]
      · -- A frame of another message leaves the collection alone.
        rw [if_neg mine] at own ⊢
        have untouched : Holds data pieces count (afterEvent collectors (.frame buf now)) := by
          rw [Holds, afterEvent_frame, collectReceivedFrame_other collectors buf now (Ne.symm mine)]
          exact holds
        exact ih untouched own (spared_frame.mp spared)

/-- The frames of a message complete it from fresh collectors. -/
theorem resultsOf_fragments {data : Bytes} (message : Fragmentable data) {frames : List Bytes}
    (fragments : Fragments data frames) {events : List ReceiveEvent}
    (own : framesOf (frameKey data) events = frames) (spared : Spared (frameKey data) ∅ events) :
    resultsOf (frameKey data) (collectAll ∅ events) = expected data frames := by
  obtain ⟨pieces, cut, rfl⟩ := fragments
  have start : Holds data pieces 0 ∅ := by simp [Holds]
  simpa using resultsOf_pieces message cut start own spared

/-! Whole messages carry the key of the frames they were collected from. -/

/-- Every collection is filed under its own type and transaction. -/
def Keyed (collectors : Collectors) : Prop :=
  ∀ key collection, collectors.get key = some collection →
    key = { messageType := collection.collector.messageType
            transactionID := collection.collector.transactionID }

/-- A parsed frame has the key it is collected under. -/
private theorem unmarshalBinary_key {buf : Bytes} {f : Fragment}
    (parsed : Fragment.unmarshalBinary buf = .ok f) :
    frameKey buf = { messageType := f.messageType, transactionID := f.transactionID } := by
  unfold Fragment.unmarshalBinary at parsed
  repeat' split at parsed
  all_goals simp at parsed
  rw [← parsed]
  rfl

/-- A new collector takes the key of its frame. -/
private theorem newFragmentCollector_key {buf : Bytes} {c : FragmentCollector}
    (opened : newFragmentCollector buf = .ok c) :
    frameKey buf = { messageType := c.messageType, transactionID := c.transactionID } := by
  obtain ⟨f, parsed, opened⟩ := Go.bind_eq_ok.mp opened
  split at opened
  · simp at opened
  · rw [Go.pure_eq, Except.ok.injEq] at opened
    rw [unmarshalBinary_key parsed, ← opened]

/-- Appending a fragment keeps the collector's key. -/
private theorem add_key {c added : FragmentCollector} {buf : Bytes} (ok : c.add buf = .ok added) :
    added.messageType = c.messageType ∧ added.transactionID = c.transactionID := by
  obtain ⟨f, -, ok⟩ := Go.bind_eq_ok.mp ok
  repeat' split at ok
  all_goals simp at ok
  rw [← ok]
  exact ⟨rfl, rfl⟩

/-- A rebuilt message has the key of its collector. -/
private theorem marshalBinary_key {c : FragmentCollector} {data : Bytes}
    (rebuilt : c.marshalBinary = .ok data) :
    frameKey data = { messageType := c.messageType, transactionID := c.transactionID } := by
  unfold FragmentCollector.marshalBinary at rebuilt
  split at rebuilt
  · simp at rebuilt
  · dsimp only at rebuilt
    split at rebuilt
    · simp at rebuilt
    · rw [Go.pure_eq, Except.ok.injEq] at rebuilt
      obtain ⟨first, -, third, -⟩ := uint32At_fragmentHeader c.messageType
        (UInt32.ofNat (20 + c.payload.length)) c.transactionID 1 0
        (c.payload.take ((UInt32.ofNat (20 + c.payload.length)).toNat - 20))
      rw [rebuilt] at first third
      simp only [frameKey, messageTypeOf, transactionIDOf, first, third]

/-- Collecting a frame keeps the collections filed, and a completed message has the frame's key. -/
theorem collectReceivedFrame_keyed {collectors : Collectors} (keyed : Keyed collectors) (buf : Bytes)
    (now : Time) : Keyed (collectReceivedFrame collectors buf now).1 ∧
      ∀ data, (collectReceivedFrame collectors buf now).2 = .complete data →
        frameKey data = frameKey buf := by
  -- Deleting the frame's collection leaves the others filed.
  have deleted : Keyed (collectors.delete (frameKey buf)) := by
    intro key collection found
    rw [GoMap.get_delete] at found
    split at found
    · simp at found
    · exact keyed key collection found
  -- So does storing a collection with the frame's own key.
  have stored (c : FragmentCollector) (deadline : Time)
      (own : frameKey buf = { messageType := c.messageType, transactionID := c.transactionID }) :
      Keyed (collectors.set (frameKey buf) { collector := c, deadline }) := by
    intro key collection found
    rw [GoMap.get_set] at found
    split at found
    · rename_i same
      rw [← Option.some.inj found, same, own]
    · exact keyed key collection found
  unfold collectReceivedFrame
  dsimp only
  split
  · -- A frame that cannot be parsed ends its collection.
    exact ⟨deleted, by simp⟩
  · split
    · -- A single frame is complete by itself.
      exact ⟨keyed, fun data same => by rw [← Received.complete.inj same]⟩
    · split
      · -- Without a collection only the first fragment opens one.
        split
        · exact ⟨keyed, by simp⟩
        · split
          · exact ⟨keyed, by simp⟩
          · rename_i opened
            exact ⟨stored _ _ (newFragmentCollector_key opened), by simp⟩
      · rename_i found
        -- A fragment that does not follow ends the collection.
        split
        · exact ⟨deleted, by simp⟩
        · rename_i c added
          have own : frameKey buf = { messageType := c.messageType, transactionID := c.transactionID } := by
            rw [keyed _ _ found, (add_key added).1, (add_key added).2]
          split
          · -- The collection goes on, or is complete.
            exact ⟨stored _ _ own, by simp⟩
          · split
            · rename_i rebuilt
              refine ⟨deleted, fun data same => ?_⟩
              rw [← Received.complete.inj same, marshalBinary_key rebuilt, own]
            · exact ⟨deleted, by simp⟩
            · exact ⟨keyed, by simp⟩

/-- An expiration keeps the collections filed. -/
theorem expireFragmentCollectors_keyed {collectors : Collectors} (keyed : Keyed collectors) (now : Time) :
    Keyed (expireFragmentCollectors collectors now).1 := by
  intro key collection found
  rw [expireFragmentCollectors, get_foldl_delete] at found
  split at found
  · simp at found
  · exact keyed key collection found

/-- Whole messages come out under their own key only. -/
private theorem collectAll_keyed {collectors : Collectors} (keyed : Keyed collectors)
    (events : List ReceiveEvent) :
    ∀ result ∈ collectAll collectors events, ∀ data, result.2 = .complete data →
      result.1 = frameKey data := by
  induction events generalizing collectors with
  | nil => simp [collectAll]
  | cons event rest ih =>
    cases event with
    | expire now => exact ih (expireFragmentCollectors_keyed keyed now)
    | frame buf now =>
      obtain ⟨kept, named⟩ := collectReceivedFrame_keyed keyed buf now
      intro result member data same
      rcases List.mem_cons.mp member with rfl | later
      · exact (named data same).symm
      · exact ih kept result later data same

/-- A whole message occurs as often among all results as among those of its key. -/
private theorem count_complete {results : List (FragmentKey × Received)} {data : Bytes}
    (named : ∀ result ∈ results, ∀ data, result.2 = .complete data → result.1 = frameKey data) :
    results.countP (fun result => result.2 = .complete data) =
      (resultsOf (frameKey data) results).count (.complete data) := by
  induction results with
  | nil => rfl
  | cons first rest ih =>
    obtain ⟨key, result⟩ := first
    have tail := ih fun other member => named other (by simp [member])
    rw [List.countP_cons, tail, resultsOf_cons]
    by_cases complete : result = .complete data
    · have mine : key = frameKey data := named (key, result) (by simp) data complete
      simp [mine, complete, Nat.add_comm]
    · by_cases mine : key = frameKey data
      · simp [mine, complete]
      · simp [mine, complete]

/-! The results. -/

/-- The calls that feed frames in order. -/
def feed (frames : List Bytes) (times : List Time) : List ReceiveEvent :=
  List.zipWith .frame frames times

/-- Feeding frames of one key is sparing it, and brings exactly these frames. -/
private theorem feed_spec {key : FragmentKey} {frames : List Bytes} {times : List Time}
    (timed : times.length = frames.length) (own : ∀ frame ∈ frames, frameKey frame = key)
    (collectors : Collectors) :
    framesOf key (feed frames times) = frames ∧ Spared key collectors (feed frames times) ∧
      (collectAll collectors (feed frames times)).map Prod.snd =
        resultsOf key (collectAll collectors (feed frames times)) := by
  induction frames generalizing times collectors with
  | nil => exact ⟨rfl, trivial, rfl⟩
  | cons frame rest ih =>
    obtain ⟨now, later, rfl⟩ := List.exists_cons_of_ne_nil (List.ne_nil_of_length_pos
      (by rw [timed]; simp : 0 < times.length))
    have mine := own frame (by simp)
    obtain ⟨brought, spared, results⟩ := ih (by simpa using timed)
      (fun other member => own other (by simp [member])) (afterEvent collectors (.frame frame now))
    refine ⟨?_, spared, ?_⟩
    · rw [feed, List.zipWith_cons_cons, framesOf_frame, if_pos mine]
      exact congrArg _ brought
    · rw [feed, List.zipWith_cons_cons, collectAll, List.map_cons, resultsOf_cons, if_pos mine]
      exact congrArg _ results

/--
A message cut into frames is collected back from them.

The frames stay within their size, share their total and are numbered in order.
Fed in order, at whatever times, all but the last are incomplete and the last gives the message.
-/
theorem frames_collected (data : Bytes) (maxFrameSize : Nat) (message : Fragmentable data)
    (roomy : 20 < maxFrameSize) :
    ∃ cut, frames data maxFrameSize = .ok cut ∧ 0 < cut.length ∧
      (∀ frame ∈ cut, frame.length ≤ maxFrameSize) ∧
      (∀ i (inside : i < cut.length),
        (uint32At cut[i] 12).toNat = cut.length ∧ (uint32At cut[i] 16).toNat = i) ∧
      ∀ times : List Time, times.length = cut.length →
        (collectAll ∅ (feed cut times)).map Prod.snd =
          List.replicate (cut.length - 1) .incomplete ++ [.complete data] := by
  obtain ⟨cut, made, fragments, sized⟩ := frames_fragments message roomy
  refine ⟨cut, made, ?_, sized, ?_, ?_⟩
  · -- At least one frame is made.
    obtain ⟨pieces, pieces_spec, rfl⟩ := fragments
    simpa using pieces_spec.several
  · -- Each frame carries the total and its own number.
    obtain ⟨pieces, pieces_spec, rfl⟩ := fragments
    intro i inside
    have below : i < pieces.length := by simpa using inside
    obtain ⟨-, -, -, total, current⟩ := uint32At_fragmentHeader (messageTypeOf data)
      (UInt32.ofNat (20 + (pieces.getD i []).length)) (transactionIDOf data)
      (UInt32.ofNat pieces.length) (UInt32.ofNat i) (pieces.getD i [])
    simp only [List.getElem_map, List.getElem_range, pieceFrame, fragmentFrame, total, current,
      List.length_map, List.length_range]
    exact ⟨pieces_spec.toNat_ofNat (Nat.le_refl _), pieces_spec.toNat_ofNat (Nat.le_of_lt below)⟩
  · -- All frames are of the message, so feeding them collects it.
    intro times timed
    have own : ∀ frame ∈ cut, frameKey frame = frameKey data := by
      obtain ⟨pieces, -, rfl⟩ := fragments
      intro frame member
      obtain ⟨i, -, rfl⟩ := List.mem_map.mp member
      exact frameKey_fragmentFrame ..
    obtain ⟨brought, spared, results⟩ := feed_spec timed own ∅
    rw [results]
    exact resultsOf_fragments message fragments brought spared

/-- A message with a payload of five octets. -/
def fiveOctets (messageType : MessageType) : Bytes := fragmentFrame messageType 7 1 0 [1, 2, 3, 4, 5]

/-- The message is in the fragment format for every type that supports fragments. -/
private theorem fiveOctets_fragmentable {messageType : MessageType}
    (kind : isFragmentMessage messageType = true) : Fragmentable (fiveOctets messageType) := by
  obtain ⟨first, second, -, fourth, fifth⟩ :=
    uint32At_fragmentHeader messageType 25 7 1 0 [1, 2, 3, 4, 5]
  refine ⟨Nat.le_of_ble_eq_true rfl, ?_, ?_, fourth, fifth⟩
  · rw [messageTypeOf]
    exact first.symm ▸ kind
  · exact (congrArg UInt32.toNat second).trans rfl

/-- A command with a payload of five octets is collected back from three frames. -/
theorem fiveOctets_collected : Fragmentable (fiveOctets MessageType.command) ∧
    ∃ cut, frames (fiveOctets MessageType.command) 22 = .ok cut ∧ 0 < cut.length ∧
      (∀ frame ∈ cut, frame.length ≤ 22) ∧
      (∀ i (inside : i < cut.length),
        (uint32At cut[i] 12).toNat = cut.length ∧ (uint32At cut[i] 16).toNat = i) ∧
      ∀ times : List Time, times.length = cut.length →
        (collectAll ∅ (feed cut times)).map Prod.snd =
          List.replicate (cut.length - 1) .incomplete ++ [.complete (fiveOctets MessageType.command)] :=
  ⟨fiveOctets_fragmentable (by decide),
    frames_collected _ 22 (fiveOctets_fragmentable (by decide)) (by decide)⟩

/--
Interleaved messages are each collected exactly once, at their last frame.

Frames of other keys may be malformed, out of order or expire in between.
A frame that faults removes its own collection only.
-/
theorem interleaved_collected (messages : List (Bytes × List Bytes))
    (wellFormed : ∀ m ∈ messages, Fragmentable m.1 ∧ Fragments m.1 m.2)
    (events : List ReceiveEvent) (own : ∀ m ∈ messages, framesOf (frameKey m.1) events = m.2)
    (spared : ∀ m ∈ messages, Spared (frameKey m.1) ∅ events) :
    (∀ m ∈ messages,
      resultsOf (frameKey m.1) (collectAll ∅ events) =
          List.replicate (m.2.length - 1) .incomplete ++ [.complete m.1] ∧
        (collectAll ∅ events).countP (fun result => result.2 = .complete m.1) = 1) ∧
    ∀ (collectors : Collectors) (buf : Bytes) (now : Time) (fault : FragmentFault),
      (collectReceivedFrame collectors buf now).2 = .fault fault →
        (collectReceivedFrame collectors buf now).1.get (frameKey buf) = none ∧
          ∀ other, other ≠ frameKey buf →
            (collectReceivedFrame collectors buf now).1.get other = collectors.get other := by
  refine ⟨fun m member => ?_, fun collectors buf now fault faulted => ?_⟩
  · obtain ⟨message, fragments⟩ := wellFormed m member
    have results := resultsOf_fragments message fragments (own m member) (spared m member)
    have nothing : Keyed ∅ := by
      intro key collection found
      simp at found
    refine ⟨results, ?_⟩
    rw [count_complete (collectAll_keyed nothing events), results]
    simp [expected, List.count_replicate]
  · exact ⟨(collectReceivedFrame_fault faulted).1,
      fun other different => collectReceivedFrame_other collectors buf now different⟩

/-- Two messages under one transaction, in two frames each. -/
def twoMessages : List (Bytes × List Bytes) :=
  [MessageType.commandDone, MessageType.indicateStatus].map fun messageType =>
    (fiveOctets messageType,
      (List.range 2).map (pieceFrame (fiveOctets messageType) [[1, 2, 3], [4, 5]]))

/-- Their frames interleaved, around an expiration and a malformed frame of a third key. -/
def twoMessagesEvents : List ReceiveEvent :=
  [.frame (pieceFrame (fiveOctets MessageType.commandDone) [[1, 2, 3], [4, 5]] 0) 0,
   .frame (pieceFrame (fiveOctets MessageType.indicateStatus) [[1, 2, 3], [4, 5]] 0) 1,
   .frame (fragmentFrame MessageType.commandDone 8 0 0 []) 2,
   .expire 3,
   .frame (pieceFrame (fiveOctets MessageType.commandDone) [[1, 2, 3], [4, 5]] 1) 4,
   .frame (pieceFrame (fiveOctets MessageType.indicateStatus) [[1, 2, 3], [4, 5]] 1) 5]

/-- Both interleaved messages are collected exactly once. -/
theorem twoMessages_collected :
    (resultsOf (frameKey (fiveOctets MessageType.commandDone)) (collectAll ∅ twoMessagesEvents) =
        [.incomplete, .complete (fiveOctets MessageType.commandDone)] ∧
      (collectAll ∅ twoMessagesEvents).countP
        (fun result => result.2 = .complete (fiveOctets MessageType.commandDone)) = 1) ∧
    resultsOf (frameKey (fiveOctets MessageType.indicateStatus)) (collectAll ∅ twoMessagesEvents) =
        [.incomplete, .complete (fiveOctets MessageType.indicateStatus)] ∧
      (collectAll ∅ twoMessagesEvents).countP
        (fun result => result.2 = .complete (fiveOctets MessageType.indicateStatus)) = 1 := by
  have all := (interleaved_collected twoMessages (by
    intro m member
    obtain ⟨messageType, either, rfl⟩ := List.mem_map.mp member
    have kind : isFragmentMessage messageType = true := by
      simp only [List.mem_cons, List.not_mem_nil, or_false] at either
      rcases either with rfl | rfl <;> decide
    exact ⟨fiveOctets_fragmentable kind, [[1, 2, 3], [4, 5]], ⟨by decide, by decide, rfl⟩, rfl⟩)
    twoMessagesEvents (by decide) (by decide)).1
  have done := all (fiveOctets MessageType.commandDone,
    (List.range 2).map (pieceFrame (fiveOctets MessageType.commandDone) [[1, 2, 3], [4, 5]])) (by simp [twoMessages])
  have status := all (fiveOctets MessageType.indicateStatus,
    (List.range 2).map (pieceFrame (fiveOctets MessageType.indicateStatus) [[1, 2, 3], [4, 5]])) (by simp [twoMessages])
  simp only [List.length_map, List.length_range] at done status
  exact ⟨done, status⟩

end Wwan.Mbim
