import Wwan.Proofs.Mbim.Streams

/-! A watch passes on what is published, in order, and its stream's error last. -/

namespace Wwan.Mbim

/-- What a watch has passed on, with the result it is about to pass on. -/
def Watch.forwarded (watch : Watch) : List WatchResult :=
  watch.out.sent ++ match watch.stage with
    | .holding result => [result]
    | _ => []

/-- A watch that is done with its channel. -/
def WatchStage.left : WatchStage → Bool
  | .leaving | .closing | .ended => true
  | _ => false

/-- How far a watch has followed its channel. -/
structure Watch.Follows (watch : Watch) (chan : Chan WatchResult) : Prop where
  /-- What it passes on was received in that order, and without a cancellation no error is lost. -/
  received : ∃ popped, chan.sent = popped ++ chan.buffer ∧
    List.Sublist watch.forwarded (popped.map (wrapResult watch.key)) ∧
    (watch.cancelled = false → ∀ err, .failed err ∈ popped →
      .failed (watchError watch.key err) ∈ watch.forwarded)
  /-- It only goes on as long as it has passed on no error. -/
  running : watch.stage.left = false → Running watch.out.sent
  /-- It only leaves after an error or a cancellation. -/
  left : watch.stage.left = true → watch.cancelled = true ∨ ¬ Running watch.out.sent
  ended : watch.out.closed = true → watch.stage = .ended
  reads : watch.reads ++ watch.out.buffer = watch.out.sent

/-- An error is what keeps results from running. -/
theorem not_running_iff {results : List WatchResult} :
    ¬ Running results ↔ ∃ err, .failed err ∈ results := by
  simp only [Running, not_forall]
  constructor
  · rintro ⟨result, inside, fails⟩
    cases result with
    | value indication => exact absurd rfl fails
    | failed err => exact ⟨err, inside⟩
  · rintro ⟨err, inside⟩
    exact ⟨.failed err, inside, by simp [WatchResult.isValue]⟩

/-- A watch that is looping has passed on everything it received. -/
theorem Watch.forwarded_of_looping {watch : Watch} (looping : watch.stage = .looping) :
    watch.forwarded = watch.out.sent := by
  simp [Watch.forwarded, looping]

/-- What is passed on keeps being a value or an error. -/
theorem isValue_wrapResult (key : IndicationKey) (result : WatchResult) :
    (wrapResult key result).isValue = result.isValue := by
  cases result <;> rfl

/-- A move of a watch keeps it following its channel. -/
theorem Watch.Follows.moves {watch watch' : Watch} {chan : Chan WatchResult} (follows : watch.Follows chan)
    (moves : watch.Moves watch') : watch'.Follows chan := by
  obtain ⟨popped, split, order, kept⟩ := follows.received
  cases moves with
  | @emit result holding isOpen =>
    -- The result held becomes the last one passed on.
    have held : watch.forwarded = watch.out.sent ++ [result] := by simp [Watch.forwarded, holding]
    have next : ({ watch with out := watch.out.push result, stage := result.nextStage } : Watch).forwarded =
        watch.forwarded := by
      cases result <;> simp [Watch.forwarded, WatchResult.nextStage, holding]
    have before := follows.running (by simp [holding, WatchStage.left])
    refine { received := ⟨popped, split, next ▸ order, next ▸ kept⟩, running := ?_, left := ?_
             ended := ?_, reads := ?_ }
    · -- Only an indication lets the watch go on.
      intro on
      cases result with
      | value indication =>
        rw [show (watch.out.push (.value indication)).sent = watch.out.sent ++ [.value indication] from rfl,
          running_append]
        exact ⟨before, by simp [Running, WatchResult.isValue]⟩
      | failed err => simp [WatchResult.nextStage, WatchStage.left] at on
    · -- An error is the last thing that is passed on.
      intro off
      cases result with
      | value indication => simp [WatchResult.nextStage, WatchStage.left] at off
      | failed err => exact .inr (not_running_iff.mpr ⟨err, by simp⟩)
    · intro closed
      simp [isOpen] at closed
    · simp [← follows.reads]
  -- The end of the context lets the watch drop what it has not received.
  | cancel =>
    refine { received := ⟨popped, split, order, by simp⟩, running := follows.running
             left := fun _ => .inl rfl, ended := follows.ended, reads := follows.reads }
  | leave cancelled stage =>
    -- A cancelled watch may drop the result it holds.
    refine { received := ⟨popped, split, ?_, ?_⟩, running := ?_, left := fun _ => .inl cancelled
             ended := ?_, reads := follows.reads }
    · refine List.Sublist.trans ?_ order
      simp [Watch.forwarded]
    · intro running
      simp [cancelled] at running
    · intro on
      simp [WatchStage.left] at on
    · intro closed
      have ended := follows.ended closed
      rcases stage with looping | ⟨result, holding⟩
      · cases looping.symm.trans ended
      · cases holding.symm.trans ended
  -- The watch has left, and only gives its subscription back.
  | unsubscribe leaving =>
    have same : watch.forwarded = watch.out.sent := by simp [Watch.forwarded, leaving]
    refine { received := ⟨popped, split, ?_, ?_⟩, running := ?_, left := ?_, ended := ?_
             reads := follows.reads }
    · simpa [Watch.forwarded, leaving] using order
    · simpa [Watch.forwarded, leaving] using kept
    · intro on
      simp [WatchStage.left] at on
    · exact fun _ => follows.left (by simp [leaving, WatchStage.left])
    · intro closed
      cases leaving.symm.trans (follows.ended closed)
  -- It closes its stream at last.
  | closeOut closing =>
    refine { received := ⟨popped, split, ?_, ?_⟩, running := ?_, left := ?_, ended := fun _ => rfl
             reads := follows.reads }
    · simpa [Watch.forwarded, closing] using order
    · simpa [Watch.forwarded, closing] using kept
    · intro on
      simp [WatchStage.left] at on
    · exact fun _ => follows.left (by simp [closing, WatchStage.left])
  -- The consumer reads from the stream what was passed on.
  | read buffered =>
    refine { received := ⟨popped, split, order, kept⟩, running := follows.running, left := follows.left
             ended := follows.ended, reads := ?_ }
    simp [← follows.reads, buffered]

/-- A watch that receives follows its channel. -/
theorem Watch.Follows.forward {watch : Watch} {chan : Chan WatchResult} (follows : watch.Follows chan)
    (looping : watch.stage = .looping) {result : WatchResult} {rest : List WatchResult}
    (buffered : chan.buffer = result :: rest) :
    ({ watch with stage := .holding (wrapResult watch.key result) } : Watch).Follows chan.pop := by
  obtain ⟨popped, split, order, kept⟩ := follows.received
  rw [Watch.forwarded_of_looping looping] at order kept
  have running := follows.running (by simp [looping, WatchStage.left])
  refine { received := ⟨popped ++ [result], ?_, ?_, ?_⟩, running := fun _ => running, left := ?_
           ended := ?_, reads := follows.reads }
  · -- The value received moves from the buffer to what was received.
    simp [split, buffered]
  · -- What is passed on is still in the order of what was received.
    rw [List.map_append]
    exact order.append (List.Sublist.refl _)
  · -- An error that was received is passed on, or is held now.
    intro kept' err inside
    rcases List.mem_append.mp inside with before | now
    · exact List.mem_append_left _ (kept kept' err before)
    · rw [List.mem_singleton] at now
      subst now
      simp [Watch.forwarded, wrapResult]
  · intro off
    simp [WatchStage.left] at off
  · intro closed
    cases looping.symm.trans (follows.ended closed)

/-- One statement of a delivery keeps a watch following its channel. -/
theorem Watch.Follows.advances {watch : Watch} {c chan : Chan WatchResult} {d : Delivery}
    {phase : Option Phase} (follows : watch.Follows c) (advances : Indications.Advances d c chan phase)
    (values : d.phase ≠ .close → Running c.sent) : watch.Follows chan := by
  obtain ⟨popped, split, order, kept⟩ := follows.received
  refine { follows with received := ?_ }
  -- A delivery adds to the end of the channel, or drops from its front.
  cases advances with
  | pushes sends room => exact ⟨popped, by simp [split], order, kept⟩
  | full offers => exact ⟨popped, split, order, kept⟩
  | drains drains =>
    cases buffered : c.buffer with
    | nil => exact ⟨popped, by simp [split, buffered], order, kept⟩
    | cons oldest rest =>
      -- Only a value is dropped to make room, and the watch never sees it.
      refine ⟨popped ++ [oldest], by simp [split, buffered], ?_, ?_⟩
      · rw [List.map_append]
        exact order.trans (List.sublist_append_left _ _)
      · intro going err inside
        rcases List.mem_append.mp inside with before | dropped
        · exact kept going err before
        · rw [List.mem_singleton] at dropped
          have value := values (by simp [drains]) (.failed err) (by simp [split, buffered, ← dropped])
          simp [WatchResult.isValue] at value
  | closes closes => exact ⟨popped, split, order, kept⟩

namespace Indications

/-- Every watch follows its channel. -/
def Followed (n : Indications) : Prop := ∀ ch watch, n.watches ch = some watch → watch.Follows (n.chans ch)

/-- A new watch has its channel's contents ahead of it. -/
theorem follows_new {key : IndicationKey} {subscribed : Bool} {chan : Chan WatchResult}
    (untouched : chan.buffer = chan.sent) : ({ key, subscribed } : Watch).Follows chan where
  received := ⟨[], by simp [untouched], by simp [Watch.forwarded], by simp⟩
  running := by simp [Running]
  left := by simp [WatchStage.left]
  ended := by simp
  reads := by simp

/-- While a delivery is under way, its channel has been sent no error. -/
theorem Ordered.running_of_delivery {n : Indications} (ordered : n.Ordered) (sound : n.Sound) {d : Delivery}
    (member : d ∈ n.deliveries) (sends : d.phase ≠ .close) : Running (n.chans d.ch).sent := by
  -- The delivery's own result is the last of the stream.
  have final := ordered.final d.ch
  rw [stream, pendingOn_of_mem sound.single member, if_neg sends] at final
  exact final.running_of_append (by simp)

/-- Every step keeps the watches following their channels. -/
theorem Followed.step {n n' : Indications} {e : IndicationEvent} (followed : n.Followed) (sound : n.Sound)
    (ordered : n.Ordered) (moves : n.Step e n') : n'.Followed := by
  -- A channel that a call reads is no watch's channel.
  have apart {ch received : ChanID} {call : NextCall} {watch : Watch} (called : n.calls received = some call)
      (watching : n.watches ch = some watch) :
      watch.Follows (Function.update n.chans received (n.chans received).pop ch) := by
    have different : ch ≠ received := by
      rintro rfl
      cases (sound.apart ch call called).symm.trans watching
    rw [Function.update_of_ne different]
    exact followed ch watch watching
  -- A watch changed by itself keeps its channel.
  have changed {ch other : ChanID} {watch watch' after : Watch} (watching : n.watches ch = some watch)
      (follows : watch'.Follows (n.chans ch))
      (found : Function.update n.watches ch (some watch') other = some after) :
      after.Follows (n.chans other) := by
    by_cases same : other = ch
    · subst same
      rw [Function.update_self] at found
      cases found
      exact follows
    · rw [Function.update_of_ne same] at found
      exact followed other after found
  intro ch watch watching
  -- The cases are those steps that change a channel or a watch.
  cases moves with
  | waits free empty =>
    -- A call's channel is new, and so no watch's.
    have old : ch ≠ n.made := by
      rintro rfl
      cases (sound.unmade n.made (Nat.le_refl _)).2.1.symm.trans watching
    simpa [Function.update_of_ne old] using followed ch watch watching
  -- A new watch has received nothing of what is queued.
  | subscribes free filled =>
    obtain ⟨shape, -⟩ := Chan.eq_of_sendAll? filled (Nat.zero_le _)
    by_cases new : ch = n.made
    · subst new
      simp only [setChan_watches, setWatch_watches, Function.update_self, Option.some.injEq] at watching
      subst watching
      exact follows_new (by simp [shape])
    · simp only [setChan_watches, setWatch_watches, Function.update_of_ne new] at watching
      simpa [Function.update_of_ne new] using followed ch watch watching
  -- Nor has one that is subscribed to a stopped receiver.
  | subscribesStopped free =>
    by_cases new : ch = n.made
    · subst new
      simp only [setChan_watches, setWatch_watches, Function.update_self, Option.some.injEq] at watching
      subst watching
      exact follows_new (by simp)
    · simp only [setChan_watches, setWatch_watches, Function.update_of_ne new] at watching
      simpa [Function.update_of_ne new] using followed ch watch watching
  | @performs d chan phase member advanced =>
    -- A delivery changes the channel of one watch.
    have before := followed ch watch watching
    by_cases same : ch = d.ch
    · subst same
      have advances := advances_of_eq (sound.ready d member) advanced
      simpa using before.advances advances (ordered.running_of_delivery sound member)
    · simpa [Function.update_of_ne same] using before
  | takes called buffered => exact apart called watching
  | polls called buffered => exact apart called watching
  | @forwards ch' watch' result rest watching' looping buffered =>
    -- The watch that forwards receives the first result of its channel.
    by_cases same : ch = ch'
    · subst same
      simp only [setChan_watches, setWatch_watches, Function.update_self, Option.some.injEq] at watching
      subst watching
      simpa using (followed ch watch' watching').forward looping buffered
    · simp only [setChan_watches, setWatch_watches, Function.update_of_ne same] at watching
      simpa [Function.update_of_ne same] using followed ch watch watching
  | @forwardsClosed ch' watch' watching' looping empty closed =>
    refine changed watching' ?_ watching
    -- A closed channel has carried its error, and the watch has received all of it.
    have follows := followed ch' watch' watching'
    obtain ⟨popped, split, order, kept⟩ := follows.received
    rw [Watch.forwarded_of_looping looping] at order kept
    rw [empty, List.append_nil] at split
    refine { received := ⟨popped, by rw [empty, List.append_nil, split], ?_, ?_⟩, running := ?_
             left := ?_, ended := ?_, reads := follows.reads }
    · simpa [Watch.forwarded] using order
    · simpa [Watch.forwarded] using kept
    · intro on
      simp [WatchStage.left] at on
    · -- Unless the context has ended, the error that was received has been passed on.
      intro _
      cases cancelled : watch'.cancelled with
      | true => exact .inl rfl
      | false =>
        obtain ⟨err, failed⟩ := not_running_iff.mp (ordered.closed ch' closed)
        exact .inr (not_running_iff.mpr ⟨_, kept cancelled err (split ▸ failed)⟩)
    · intro shut
      cases looping.symm.trans (follows.ended shut)
  | @unsubscribes ch' watch' free watching' leaving =>
    -- Giving a subscription back changes no channel.
    simp only [setWatch_watches, unsubscribeIndication_frame] at watching
    have follows := changed watching' ((followed ch' watch' watching').moves (.unsubscribe leaving)) watching
    simpa using follows
  | moves kind watching' moved => exact changed watching' ((followed _ _ watching').moves moved) watching
  | _ => exact followed ch watch watching

/-- The indications of a key that the steps publish, oldest first. -/
def published (key : IndicationKey) (trace : List (Indications × IndicationEvent)) : List Indication :=
  trace.filterMap fun
    | (_, .publishIndication indication) => if indication.key = key then some indication else none
    | _ => none

/-- One more step publishes at most one more indication. -/
theorem published_append (key : IndicationKey) (trace : List (Indications × IndicationEvent))
    (n : Indications) (e : IndicationEvent) :
    published key (trace ++ [(n, e)]) = published key trace ++ published key [(n, e)] := by
  simp [published]

/-- A step that publishes for a key. -/
theorem published_publish (n : Indications) (indication : Indication) :
    published indication.key [(n, .publishIndication indication)] = [indication] := by
  simp [published]

/-- Values and errors of a longer list. -/
theorem valuesOf_append (first second : List WatchResult) :
    valuesOf (first ++ second) = valuesOf first ++ valuesOf second := by
  simp [valuesOf]

/-- The values of a mapped queue. -/
theorem valuesOf_values (indications : List Indication) : valuesOf (indications.map .value) = indications := by
  simp [valuesOf]

/-- What is passed on has the same values. -/
theorem valuesOf_wrapResult (key : IndicationKey) (results : List WatchResult) :
    valuesOf (results.map (wrapResult key)) = valuesOf results := by
  -- Only the errors are changed.
  induction results with
  | nil => rfl
  | cons result rest ih => cases result <;> simpa [valuesOf, wrapResult] using ih

/-- Queues and streams hold what was published, in that order. -/
structure InOrder (trace : List (Indications × IndicationEvent)) (n : Indications) : Prop where
  queue : ∀ key, List.Sublist (n.indications.items key) (published key trace)
  stream : ∀ ch watch, n.watches ch = some watch →
    List.Sublist (valuesOf (n.stream ch)) (published watch.key trace)

/-- What a step leaves in a queue. -/
theorem queue_step {n n' : Indications} {e : IndicationEvent} (moves : n.Step e n') (key : IndicationKey) :
    List.Sublist (n'.indications.items key) (n.indications.items key ++ published key [(n, e)]) := by
  -- A queue loses what is taken and dropped, and gains at its end what is published.
  cases moves with
  | @queued key' owner indication rest free queue =>
    -- A call takes the oldest.
    simp only [GoMap.items_store]
    split
    · rename_i same
      rw [same, queue]
      exact (List.sublist_cons_self _ _).trans (List.sublist_append_left _ _)
    · exact List.sublist_append_left _ _
  -- A subscriber takes the whole queue.
  | subscribes free filled =>
    simp only [GoMap.items_delete]
    split
    · exact List.nil_sublist _
    · exact List.sublist_append_left _ _
  | subscribesStopped free =>
    simp only [GoMap.items_delete]
    split
    · exact List.nil_sublist _
    · exact List.sublist_append_left _ _
  | @queues indication free nobody unsubscribed =>
    -- The new indication goes to the end, and the front of a full queue is dropped.
    simp only [GoMap.items_set]
    split
    · rename_i same
      subst same
      rw [published_publish]
      simp only [queueIndicationLocked]
      split
      · exact List.drop_sublist _ _
      · exact List.Sublist.refl _
    · exact List.sublist_append_left _ _
  | clears free => simp
  | unsubscribes free watching leaving =>
    -- A subscriber that leaves touches no queue.
    simp only [setWatch_indications, unsubscribeIndication_frame]
    exact List.sublist_append_left _ _
  | _ => exact List.sublist_append_left _ _

/-- The watches after a step are those before it, with their keys, and at most one new one. -/
theorem watches_step {n n' : Indications} {e : IndicationEvent} (moves : n.Step e n')
    {ch : ChanID} {watch : Watch} (watching : n'.watches ch = some watch) :
    (∃ before, n.watches ch = some before ∧ before.key = watch.key) ∨
      (ch = n.made ∧ ((∃ owner, e = .subscribeIndication watch.key owner) ∨
        ∃ err, e = .subscribeStopped watch.key err)) := by
  -- A watch changed by itself keeps its key.
  have changed {other : ChanID} {old new : Watch} (found : n.watches other = some old)
      (after : Function.update n.watches other (some new) ch = some watch) (named : new.key = old.key) :
      ∃ before, n.watches ch = some before ∧ before.key = watch.key := by
    by_cases same : ch = other
    · subst same
      rw [Function.update_self] at after
      cases after
      exact ⟨old, found, named.symm⟩
    · rw [Function.update_of_ne same] at after
      exact ⟨watch, after, rfl⟩
  -- Only a subscription makes a watch.
  cases moves with
  | @subscribes key owner chan free filled =>
    by_cases new : ch = n.made
    · subst new
      simp only [setChan_watches, setWatch_watches, Function.update_self, Option.some.injEq] at watching
      subst watching
      exact .inr ⟨rfl, .inl ⟨owner, rfl⟩⟩
    · simp only [setChan_watches, setWatch_watches, Function.update_of_ne new] at watching
      exact .inl ⟨watch, watching, rfl⟩
  | @subscribesStopped key err free =>
    by_cases new : ch = n.made
    · subst new
      simp only [setChan_watches, setWatch_watches, Function.update_self, Option.some.injEq] at watching
      subst watching
      exact .inr ⟨rfl, .inr ⟨err, rfl⟩⟩
    · simp only [setChan_watches, setWatch_watches, Function.update_of_ne new] at watching
      exact .inl ⟨watch, watching, rfl⟩
  | forwards found looping buffered => exact .inl (changed found watching rfl)
  | forwardsClosed found looping empty closed => exact .inl (changed found watching rfl)
  | unsubscribes free found leaving =>
    -- A subscriber that leaves stays a watch.
    simp only [setWatch_watches, unsubscribeIndication_frame] at watching
    exact .inl (changed found watching rfl)
  | moves kind found moved => exact .inl (changed found watching moved.key_eq)
  | _ => exact .inl ⟨watch, watching, rfl⟩

/-- A watch has been made. -/
theorem Sound.watch_lt {n : Indications} (sound : n.Sound) {ch : ChanID} {watch : Watch}
    (watching : n.watches ch = some watch) : ch < n.made := by
  by_contra beyond
  cases (sound.unmade ch (Nat.not_lt.mp beyond)).2.1.symm.trans watching

/-- The stream of a new watch is its queue, with the receiver's error where that has stopped. -/
theorem Sound.stream_new {n n' : Indications} {e : IndicationEvent} (sound : n.Sound) (moves : n.Step e n')
    {watch : Watch} (watching : n'.watches n.made = some watch) :
    ((∃ owner, e = .subscribeIndication watch.key owner) ∧
      n'.stream n.made = (n.indications.items watch.key).map .value) ∨
    ∃ err, e = .subscribeStopped watch.key err ∧
      n'.stream n.made = (n.indications.items watch.key).map .value ++ [.failed err] := by
  -- The watch is new, so that its channel is the one that was made.
  have before : n'.made ≠ n.made := Nat.ne_of_gt ((sound.step moves).watch_lt watching)
  obtain ⟨-, starts⟩ := (sound.made_step moves).resolve_left before
  rcases watches_step moves watching with ⟨old, found, -⟩ | ⟨-, ⟨owner, rfl⟩ | ⟨err, rfl⟩⟩
  · exact absurd (sound.watch_lt found) (Nat.lt_irrefl _)
  · generalize n'.stream n.made = results at starts
    cases starts
    exact .inl ⟨⟨owner, rfl⟩, rfl⟩
  · generalize n'.stream n.made = results at starts
    cases starts
    exact .inr ⟨err, rfl, rfl⟩

/-- Every step keeps queues and streams in the order of publication. -/
theorem InOrder.step {trace : List (Indications × IndicationEvent)} {n n' : Indications}
    {e : IndicationEvent} (inOrder : InOrder trace n) (sound : n.Sound) (moves : n.Step e n') :
    InOrder (trace ++ [(n, e)]) n' := by
  refine { queue := ?_, stream := ?_ }
  · -- The queue is in order.
    intro key
    rw [published_append]
    exact (queue_step moves key).trans ((inOrder.queue key).append (List.Sublist.refl _))
  · -- So are the streams of the watches.
    intro ch watch watching
    rw [published_append]
    rcases watches_step moves watching with ⟨old, found, named⟩ | ⟨rfl, -⟩
    · have before := named ▸ inOrder.stream ch old found
      rcases sound.stream_step moves (sound.watch_lt found) with same | ⟨i, rfl, listed, grown⟩ | ⟨err, ends⟩
      · rw [same]
        exact before.trans (List.sublist_append_left _ _)
      · -- Only the watches of the published key are given the indication.
        have key : i.key = watch.key := by
          rcases listed with subscribed | first
          · obtain ⟨⟨other, found', keyed⟩, -⟩ := sound.watching _ ch subscribed
            cases found.symm.trans found'
            exact keyed.symm.trans named
          · cases (sound.apart ch _ (sound.waiting _ ch first.waits).1).symm.trans found
        rw [grown, valuesOf_append, ← key, published_publish, key]
        exact before.append (List.Sublist.refl _)
      · -- A stream that ends gains no indication.
        rw [(sound.stream_ends moves ends).1, valuesOf_append]
        simpa [valuesOf] using before.trans (List.sublist_append_left _ _)
    · -- A new watch starts with the queue.
      have queue := (inOrder.queue watch.key).trans
        (List.sublist_append_left _ (published watch.key [(n, e)]))
      rcases sound.stream_new moves watching with ⟨-, starts⟩ | ⟨err, -, starts⟩
      · rw [starts, valuesOf_values]
        exact queue
      · rw [starts, valuesOf_append, valuesOf_values]
        simpa [valuesOf] using queue

/-- What put an error on a watch's channel. -/
def EndedBy (trace : List (Indications × IndicationEvent)) (ch : ChanID) (key : IndicationKey)
    (err : Error) : Prop :=
  (∃ n₀ e, (n₀, e) ∈ trace ∧ n₀.Subscribed key ch ∧ n₀.Ends e ch err) ∨
    ∃ n₀, (n₀, .subscribeStopped key err) ∈ trace ∧ n₀.made = ch

/-- Every error of a watch's stream has been put there by what ended it. -/
theorem endedBy_of_failed {trace : List (Indications × IndicationEvent)} {n : Indications}
    (run : Mbim.indications.Runs trace n) {ch : ChanID} {watch : Watch} (watching : n.watches ch = some watch)
    {err : Error} (failed : .failed err ∈ n.stream ch) : EndedBy trace ch watch.key err := by
  -- An ending found in the earlier part of the run is still one.
  have longer {trace : List (Indications × IndicationEvent)} {key : IndicationKey}
      {last : Indications × IndicationEvent} (ended : EndedBy trace ch key err) :
      EndedBy (trace ++ [last]) ch key err := by
    rcases ended with ⟨n₀, e, member, rest⟩ | ⟨n₀, member, rest⟩
    · exact .inl ⟨n₀, e, List.mem_append_left _ member, rest⟩
    · exact .inr ⟨n₀, List.mem_append_left _ member, rest⟩
  -- The induction is on the run, of which the last step has put the error, or an earlier one.
  induction run generalizing watch with
  | init => cases watching
  | @step trace n n' e earlier accepted ih =>
    have sound := sound_of_runs earlier
    have moves := step_of_eq accepted
    rcases watches_step moves watching with ⟨old, found, named⟩ | ⟨rfl, -⟩
    · -- An old watch is given nothing, an indication or its ending.
      rcases sound.stream_step moves (sound.watch_lt found) with same | ⟨i, -, -, grown⟩ | ⟨err', ends⟩
      · exact longer (named ▸ ih found (same ▸ failed))
      · rw [grown, List.mem_append] at failed
        rcases failed with before | now
        · exact longer (named ▸ ih found before)
        · simp at now
      · rw [(sound.stream_ends moves ends).1, List.mem_append] at failed
        rcases failed with before | now
        · exact longer (named ▸ ih found before)
        · simp only [List.mem_singleton, WatchResult.failed.injEq] at now
          subst now
          -- A watch's channel is listed as a subscription, under the watch's key.
          refine .inl ⟨n, e, by simp, ?_, ends⟩
          obtain ⟨key, subscribed | waits⟩ := ends.listed
          · obtain ⟨⟨other, found', keyed⟩, -⟩ := sound.watching _ ch subscribed
            cases found.symm.trans found'
            exact named ▸ keyed ▸ subscribed
          · cases (sound.apart ch _ (sound.waiting _ ch waits).1).symm.trans found
    · -- A new watch has its error from a receiver that was stopped before.
      rcases sound.stream_new moves watching with ⟨-, starts⟩ | ⟨err', rfl, starts⟩
      · rw [starts] at failed
        simp at failed
      · rw [starts] at failed
        simp at failed
        subst failed
        exact .inr ⟨n, by simp, rfl⟩

/-- What ended a stream has put its error on the channel. -/
theorem failed_of_endedBy {trace : List (Indications × IndicationEvent)} {n : Indications}
    (run : Mbim.indications.Runs trace n) {ch : ChanID} {key : IndicationKey} {err : Error}
    (ended : EndedBy trace ch key err) : .failed err ∈ n.stream ch := by
  rcases ended with ⟨n₀, e, member, -, ends⟩ | ⟨n₀, member, rfl⟩
  · -- The step that ended the stream is one of the run, and nothing has been added since.
    obtain ⟨before, after, rfl⟩ := List.append_of_mem member
    obtain ⟨earlier, n₁, accepted, -⟩ := run.accepted
    have sound := sound_of_runs earlier
    obtain ⟨given, unlisted⟩ := sound.stream_ends (step_of_eq accepted) ends
    -- The channel was in the lists, and so was made.
    have made : ch < n₁.made := by
      obtain ⟨key, subscribed | waits⟩ := ends.listed
      · rcases sound.made_step (step_of_eq accepted) with same | ⟨grown, -⟩
        · exact same ▸ sound.subscribed_lt subscribed
        · exact grown ▸ Nat.lt_succ_of_lt (sound.subscribed_lt subscribed)
      · rcases sound.made_step (step_of_eq accepted) with same | ⟨grown, -⟩
        · exact same ▸ sound.waits_lt waits
        · exact grown ▸ Nat.lt_succ_of_lt (sound.waits_lt waits)
    rw [stream_ended run accepted made unlisted, given]
    simp
  · -- A watch that starts after the stop is given the error with its queue.
    obtain ⟨before, after, rfl⟩ := List.append_of_mem member
    obtain ⟨earlier, n₁, accepted, -⟩ := run.accepted
    have sound := sound_of_runs earlier
    have moves : n₀.Step (.subscribeStopped key err) n₁ := step_of_eq accepted
    rcases sound.made_step moves with same | ⟨grown, starts⟩
    · obtain ⟨free, made⟩ := whileUnlocked_eq_some.mp accepted
      rw [subscribeStopped_eq] at made
      cases made
      exact absurd same (Nat.succ_ne_self _)
    · rw [stream_ended run accepted (grown ▸ Nat.lt_succ_self _) (sound.not_listed_stopped moves)]
      generalize n₁.stream n₀.made = results at starts
      cases starts
      simp

end Indications

namespace Dispatcher

/-- The indications of a key that the receiver publishes, oldest first. -/
def published (key : IndicationKey) (trace : List (Dispatcher × DispatcherEvent)) : List Indication :=
  trace.filterMap fun
    | (_, .indication (.publishIndication indication)) =>
      if indication.key = key then some indication else none
    | _ => none

/-- Publishing reaches the indications as it is. -/
theorem published_indicationTrace (key : IndicationKey) (trace : List (Dispatcher × DispatcherEvent)) :
    Indications.published key (indicationTrace trace) = published key trace := by
  -- Only the receiver's own step publishes, and it always does.
  simp only [Indications.published, published, indicationTrace, List.filterMap_filterMap]
  congr 1
  funext step
  obtain ⟨s, e⟩ := step
  cases seen : s.indicationOf e with
  -- What does not reach the lists publishes nothing.
  | none =>
    cases e with
    | indication ie =>
      cases ie with
      | publishIndication indication => cases seen
      | _ => rfl
    | _ => rfl
  | some ie =>
    -- Of what reaches them, only publishing is counted.
    rcases indicationOf_cases seen with ⟨client, key', rfl, called⟩ | ⟨client, key', rfl, subscribed⟩ |
      ⟨_, rfl, rfl⟩ | ⟨_, rfl, rfl, _⟩ | ⟨rfl, free⟩
    · rw [(nextIndication_ok called).2.1]
      rfl
    · obtain ⟨-, ⟨-, rfl⟩ | ⟨_, -, rfl⟩⟩ := subscribeIndication_ok subscribed <;> rfl
    · rfl
    · rfl
    · cases ie <;> rfl

/-- What ended a watch with an error: the receiver's stop, the end of its lease, or a start after the stop. -/
def EndedBy (trace : List (Dispatcher × DispatcherEvent)) (ch : ChanID) (key : IndicationKey)
    (err : Error) : Prop :=
  (∃ s₀, (s₀, .stopReceiver err) ∈ trace ∧ s₀.indications.Subscribed key ch) ∨
  (∃ s₀ lease, (s₀, .sweepLease lease) ∈ trace ∧
    (s₀.indications.subsOf key).get ch = some (some lease) ∧ err = errClientLeaseClosed) ∨
  ∃ s₀ client, (s₀, .subscribeIndication client key) ∈ trace ∧
    (s₀.subscribeIndication client key).2 = .ok (.subscribeStopped key err) ∧ s₀.indications.made = ch

/-- A step that reaches the indications is among their steps. -/
theorem mem_indicationTrace {trace : List (Dispatcher × DispatcherEvent)} {s : Dispatcher}
    {e : DispatcherEvent} {ie : IndicationEvent} (member : (s, e) ∈ trace) (seen : s.indicationOf e = some ie) :
    (s.indications, ie) ∈ indicationTrace trace :=
  List.mem_filterMap.mpr ⟨(s, e), member, by simp [seen]⟩

/-- What ends a watch of the dispatcher is what ends its stream. -/
theorem endedBy_iff {trace : List (Dispatcher × DispatcherEvent)} {s : Dispatcher}
    (run : dispatcher.Runs trace s) (ch : ChanID) (key : IndicationKey) (err : Error) :
    EndedBy trace ch key err ↔ Indications.EndedBy (indicationTrace trace) ch key err := by
  constructor
  · -- A stop of the receiver, the close of a lease, or a late subscription.
    rintro (⟨s₀, member, subscribed⟩ | ⟨s₀, lease, member, owned, rfl⟩ | ⟨s₀, client, member, made, rfl⟩)
    · exact .inl ⟨_, _, mem_indicationTrace member rfl, subscribed, .inl ⟨rfl, key, .inl subscribed⟩⟩
    · -- The removal was accepted, so it reached the indications.
      obtain ⟨before, after, rfl⟩ := List.append_of_mem member
      obtain ⟨-, s₁, accepted, -⟩ := run.accepted
      obtain ⟨fx, happens, -⟩ := step_parts accepted
      have seen : s₀.indicationOf (.sweepLease lease) = some (.closeLease lease) := by
        simp only [effects] at happens
        split at happens
        · rename_i listed
          simp only [indicationOf, effects, listed, if_true, Option.bind_some]
        · cases happens
      exact .inl ⟨_, _, mem_indicationTrace member seen, ⟨_, owned⟩,
        .inr ⟨lease, rfl, rfl, .inl ⟨key, _, owned, by simp⟩⟩⟩
    · refine .inr ⟨_, mem_indicationTrace member ?_, rfl⟩
      simp [indicationOf, effects, made, Except.toOption]
  · -- Conversely, each ending of the lists has its event of the dispatcher.
    rintro (⟨n₀, ie, member, subscribed, ends⟩ | ⟨n₀, member, rfl⟩)
    · obtain ⟨⟨s₀, e⟩, inside, seen⟩ := List.mem_filterMap.mp member
      obtain ⟨ie', seen, same⟩ := Option.map_eq_some_iff.mp seen
      cases same
      -- The receiver was stopped.
      rcases ends with ⟨rfl, -⟩ | ⟨lease, rfl, rfl, goes⟩
      · rcases indicationOf_cases seen with ⟨_, _, _, called⟩ | ⟨_, _, _, made⟩ | ⟨_, rfl, same⟩ |
          ⟨_, _, same, _⟩ | ⟨_, free⟩
        · cases (nextIndication_ok called).2.1
        · obtain ⟨-, ⟨-, same⟩ | ⟨_, -, same⟩⟩ := subscribeIndication_ok made <;> cases same
        · cases same
          exact .inl ⟨s₀, inside, subscribed⟩
        · cases same
        · cases free
      · -- The lease was closed.
        rcases indicationOf_cases seen with ⟨_, _, _, called⟩ | ⟨_, _, _, made⟩ | ⟨_, _, same⟩ |
          ⟨_, rfl, same, _⟩ | ⟨_, free⟩
        · cases (nextIndication_ok called).2.1
        · obtain ⟨-, ⟨-, same⟩ | ⟨_, -, same⟩⟩ := subscribeIndication_ok made <;> cases same
        · cases same
        · cases same
          -- The channel is a subscription, so it goes as one.
          obtain ⟨before, after, rfl⟩ := List.append_of_mem inside
          have sound := Indications.sound_of_runs (runs_indications run.accepted.1)
          rcases goes with ⟨key', owner, found, own⟩ | ⟨key', waiter, listed, named, own⟩
          · obtain rfl := sound.subscribed_key ⟨owner, found⟩ subscribed
            simp only [decide_eq_true_eq] at own
            exact .inr (.inl ⟨s₀, _, inside, own ▸ found, rfl⟩)
          · have waits : s₀.indications.Waits key' ch := named ▸ List.mem_map_of_mem listed
            exact absurd waits (sound.not_waits subscribed)
        · cases free
    · -- The subscription found the receiver stopped.
      obtain ⟨⟨s₀, e⟩, inside, seen⟩ := List.mem_filterMap.mp member
      obtain ⟨ie', seen, same⟩ := Option.map_eq_some_iff.mp seen
      cases same
      rcases indicationOf_cases seen with ⟨_, _, _, called⟩ | ⟨client, key', rfl, made⟩ | ⟨_, _, same⟩ |
        ⟨_, _, same, _⟩ | ⟨_, free⟩
      · cases (nextIndication_ok called).2.1
      · obtain ⟨-, ⟨-, same⟩ | ⟨_, -, same⟩⟩ := subscribeIndication_ok made
        · cases same
        · cases same
          exact .inr (.inr ⟨s₀, client, inside, made, rfl⟩)
      · cases same
      · cases same
      · cases free

/-- Every watch follows its channel in every run. -/
theorem followed_of_runs {trace : List (Dispatcher × DispatcherEvent)} {s : Dispatcher}
    (run : dispatcher.Runs trace s) : s.indications.Followed := by
  have all := (runs_indications run).stateInvariant
    (P := fun n => n.Sound ∧ n.Ordered ∧ n.Followed)
    ⟨Indications.sound_init, Indications.ordered_init, by simp [Indications.Followed, Mbim.indications]⟩
    fun n e n' all accepted =>
      have moves := Indications.step_of_eq accepted
      ⟨all.1.step moves, all.2.1.step all.1 moves, all.2.2.step all.1 all.2.1 moves⟩
  exact all.2.2

/-- Queues and streams are in the order of publication in every run. -/
theorem inOrder_of_runs {trace : List (Dispatcher × DispatcherEvent)} {s : Dispatcher}
    (run : dispatcher.Runs trace s) : Indications.InOrder (indicationTrace trace) s.indications := by
  refine (runs_indications run).invariant (P := Indications.InOrder) ?_ ?_
  · exact ⟨by simp [Mbim.indications], by simp [Mbim.indications]⟩
  · intro trace n e n' earlier inOrder accepted
    exact inOrder.step (Indications.sound_of_runs earlier) (Indications.step_of_eq accepted)

/-- A watch's consumer reads published indications in order and nothing after an error; the output of a
watch that is not cancelled only closes after the error that ended the stream. -/
theorem watch_delivers_error {trace : List (Dispatcher × DispatcherEvent)} {s : Dispatcher}
    (run : dispatcher.Runs trace s) {ch : ChanID} {watch : Watch}
    (watching : s.indications.watches ch = some watch) :
    watch.reads ++ watch.out.buffer = watch.out.sent ∧
    List.Sublist (valuesOf watch.out.sent) (published watch.key trace) ∧
    (∀ before err after, watch.out.sent = before ++ .failed err :: after → after = []) ∧
    (watch.out.closed = true → watch.cancelled = false →
      ∃ err, EndedBy trace ch watch.key err ∧
        watch.out.sent.getLast? = some (.failed (watchError watch.key err))) ∧
    ∀ err, EndedBy trace ch watch.key err → watch.cancelled = false → watch.out.closed = true →
      watch.out.sent.getLast? = some (.failed (watchError watch.key err)) := by
  have projected := runs_indications run
  have follows := followed_of_runs run ch watch watching
  have ordered := Indications.ordered_of_runs projected
  obtain ⟨popped, split, order, kept⟩ := follows.received
  -- What was passed on was received, and what was received is part of the channel's stream.
  have sub : List.Sublist watch.out.sent (popped.map (wrapResult watch.key)) :=
    (List.sublist_append_left _ _).trans order
  have inside : List.Sublist popped (s.indications.stream ch) := by
    rw [Indications.stream, split, List.append_assoc]
    exact List.sublist_append_left _ _
  -- An error is the last result of the stream, and so of what was passed on.
  have final : Final watch.out.sent := by
    have wrapped : Final (popped.map (wrapResult watch.key)) := by
      rw [Final, ← List.map_dropLast]
      intro result member
      obtain ⟨original, received, rfl⟩ := List.mem_map.mp member
      rw [isValue_wrapResult]
      exact (ordered.final ch).sublist inside original received
    exact wrapped.sublist sub
  -- An error that was passed on is the wrapped error of the stream.
  have source {err : Error} (failed : .failed err ∈ watch.out.sent) :
      ∃ cause, err = watchError watch.key cause ∧ .failed cause ∈ s.indications.stream ch := by
    obtain ⟨original, received, same⟩ := List.mem_map.mp (sub.subset failed)
    cases original with
    | value indication => cases same
    | failed cause =>
      cases same
      exact ⟨cause, rfl, inside.subset received⟩
  -- A watch that closed its stream without being cancelled has passed an error on.
  have closing (closed : watch.out.closed = true) (going : watch.cancelled = false) :
      ∃ err, .failed err ∈ s.indications.stream ch ∧
        watch.out.sent.getLast? = some (.failed (watchError watch.key err)) := by
    have ended := follows.ended closed
    have left := follows.left (by simp [ended, WatchStage.left])
    obtain ⟨err, failed⟩ := not_running_iff.mp (left.resolve_left (by simp [going]))
    obtain ⟨cause, rfl, member⟩ := source failed
    exact ⟨cause, member, final.getLast_eq failed⟩
  refine ⟨follows.reads, ?_, ?_, ?_, ?_⟩
  · -- The indications are in the order in which they were published.
    have values : List.Sublist (valuesOf watch.out.sent) (valuesOf (s.indications.stream ch)) := by
      rw [← Indications.valuesOf_wrapResult watch.key (s.indications.stream ch)]
      exact (sub.trans (List.Sublist.map _ inside)).filterMap _
    rw [← published_indicationTrace]
    exact values.trans ((inOrder_of_runs run).stream ch watch watching)
  · intro before err after whole
    -- With more to follow, the error would not be the last.
    rw [whole, show before ++ .failed err :: after = before ++ [.failed err] ++ after by simp] at final
    by_contra more
    have front := final.running_of_append more
    exact absurd (front (.failed err) (by simp)) (by simp [WatchResult.isValue])
  · -- What closed the stream was passed on.
    intro closed going
    obtain ⟨err, member, last⟩ := closing closed going
    exact ⟨err, (endedBy_iff run ch watch.key err).mpr (Indications.endedBy_of_failed projected watching member), last⟩
  · intro err ended going closed
    -- The stream has one error only.
    obtain ⟨err', member, last⟩ := closing closed going
    have given := Indications.failed_of_endedBy projected ((endedBy_iff run ch watch.key err).mp ended)
    have same := ((ordered.final ch).getLast_eq given).symm.trans ((ordered.final ch).getLast_eq member)
    cases same
    exact last

/-- A watch is published to, the receiver stops, and the watch passes both on. -/
def stoppedWatch : List DispatcherEvent :=
  let key : IndicationKey := { serviceID := [], commandID := 1 }
  let indication : Indication := { serviceID := [], commandID := 1, informationBuffer := [42] }
  [.subscribeIndication { lease := none, connected := true } key,
    .indication (.publishIndication indication),
    .indication (.perform (Indications.toSubscriber indication 0)),
    .stopReceiver errReceiverStopped,
    .indication (.perform (Indications.stopSubscriber errReceiverStopped 0)),
    .indication (.forward 0), .indication (.emit 0),
    .indication (.forward 0), .indication (.emit 0),
    .indication (.unsubscribe 0), .indication (.closeOut 0)]

/-- The consumer is left with the indication and then the receiver's error. -/
theorem stoppedWatch_delivers_error :
    ∃ trace s watch, dispatcher.Runs trace s ∧ trace.map Prod.snd = stoppedWatch ∧
      s.indications.watches 0 = some watch ∧ watch.out.closed = true ∧ watch.out.sent.length = 2 ∧
      watch.out.sent.getLast? = some (.failed (watchError watch.key errReceiverStopped)) := by
  -- The run and the ending of its watch are computed.
  have accepted : (dispatcher.runFrom dispatcher.init stoppedWatch).isSome := by decide
  have run := Machine.Runs.ofEvents dispatcher stoppedWatch accepted
  have watching : ∃ watch, ((dispatcher.runFrom dispatcher.init stoppedWatch).get accepted).2.indications.watches 0 =
      some watch ∧ watch.out.closed = true ∧ watch.cancelled = false ∧ watch.out.sent.length = 2 ∧
      watch.key = { serviceID := [], commandID := 1 } := ⟨_, rfl, rfl, rfl, rfl, rfl⟩
  obtain ⟨watch, watching, closed, going, length, named⟩ := watching
  obtain ⟨-, -, -, -, last⟩ := watch_delivers_error run watching
  have stops : EndedBy ((dispatcher.runFrom dispatcher.init stoppedWatch).get accepted).1 0
      { serviceID := [], commandID := 1 } errReceiverStopped :=
    .inl ⟨_, List.mem_cons_of_mem _ (List.mem_cons_of_mem _ (List.mem_cons_of_mem _ List.mem_cons_self)), none, rfl⟩
  exact ⟨_, _, watch, run, rfl, watching, closed, length, last errReceiverStopped (named ▸ stops) going closed⟩

end Dispatcher

end Wwan.Mbim
