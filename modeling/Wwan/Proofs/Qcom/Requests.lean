import Wwan.Qcom.Requests

/-! Requests of a transport do not get in each other's way, unless one gives up under a key that is used again. -/

namespace Wwan.Qcom.Requests

variable {Q R K : Type} (wire : Wire Q R K)

/-! What is owed, and what can go wrong. -/

/-- The response was read, and is one to this request. -/
def State.Answers (s : State Q R K) (r : RequestID) (resp : R) : Prop :=
  resp ∈ s.read ∧ ∃ req, s.request r = some req ∧ wire.responseKey resp = wire.requestKey req

variable [DecidableEq K]

/-- What the requests owe in every state. -/
structure State.Meets (s : State Q R K) : Prop where
  /-- A request returns one outcome at most. -/
  once : ∀ r, (s.outcomes r).length ≤ 1
  own : ∀ r resp, .response resp ∈ s.outcomes r → s.Answers wire r resp
  /-- An outcome that is to be sent finds its channel empty, also after the others that are to be sent. -/
  unblocked : ∀ r outcome, (r, outcome) ∈ s.sends → s.channel r = none
  unrepeated : (s.sends.map Prod.fst).Nodup
  /-- No request has removed the entry of another. -/
  isolated : s.foreign = []
  /-- A transport that has failed has no entry. -/
  failed : s.closed = true → ∀ key, s.pending.get key = none

/-- A request that has given up before its write finds the entry of another request under its key. -/
def breaks (s : State Q R K) : Event Q R → Bool
  | .removePending r =>
    match s.phase r, s.request r with
    | .leaving, some req => (s.pending.get (wire.requestKey req)).any (·.request ≠ r)
    | _, _ => false
  | _ => false

/-- The request has not yet looked at what became of its entry. -/
def Phase.waits : Phase → Bool
  | .gate | .holding | .leaving | .writeFailed _ | .written => true
  | .absent | .draining | .failing | .done => false

/-- What holds between the steps, whether or not an entry of another was removed. -/
structure State.Sound (s : State Q R K) : Prop where
  /-- An entry is that of a request under its key, which waits and is promised nothing else. -/
  pending : ∀ key entry, s.pending.get key = some entry →
    (∃ req, s.request entry.request = some req ∧ wire.requestKey req = key) ∧ (s.phase entry.request).waits = true ∧
      s.channel entry.request = none ∧ ∀ outcome, (entry.request, outcome) ∉ s.sends
  sends : ∀ r outcome, (r, outcome) ∈ s.sends → s.channel r = none ∧ s.phase r ≠ .absent ∧
    ∀ resp, outcome = .response resp → s.Answers wire r resp
  unrepeated : (s.sends.map Prod.fst).Nodup
  channel : ∀ r outcome, s.channel r = some outcome → s.phase r ≠ .absent ∧
    ∀ resp, outcome = .response resp → s.Answers wire r resp
  outcomes : ∀ r, s.outcomes r = [] ∨ s.phase r = .done ∧ (s.outcomes r).length = 1
  own : ∀ r resp, .response resp ∈ s.outcomes r → s.Answers wire r resp
  failed : s.closed = true → ∀ key, s.pending.get key = none

variable {wire} {s s' : State Q R K}

/-- Without the entry of another removed, that is what is owed. -/
theorem State.Sound.meets (sound : s.Sound wire) (isolated : s.foreign = []) : s.Meets wire where
  once := fun r => by
    rcases sound.outcomes r with none_ | ⟨-, one⟩
    · simp [none_]
    · omega
  own := sound.own
  unblocked := fun r outcome member => (sound.sends r outcome member).1
  unrepeated := sound.unrepeated
  isolated := isolated
  failed := sound.failed

/-! Parts of steps. -/

omit [DecidableEq K] in
/-- The phases after one of them changes. -/
theorem State.phase_enter (s : State Q R K) (r other : RequestID) (phase : Phase) :
    (s.enter r phase).phase other = if other = r then phase else s.phase other := by
  simp [State.enter, Function.update_apply]

/-- A request may move on, if it keeps waiting or has no entry, and has not returned. -/
theorem State.Sound.enter (sound : s.Sound wire) {r : RequestID} {phase : Phase} (present : phase ≠ .absent)
    (waits : phase.waits = true ∨ ∀ key entry, s.pending.get key = some entry → entry.request ≠ r)
    (unreturned : s.outcomes r = []) : (s.enter r phase).Sound wire := by
  refine ⟨?_, ?_, sound.unrepeated, ?_, ?_, sound.own, sound.failed⟩
  · -- A request in the table still waits.
    intro key entry found
    obtain ⟨keyed, waited, empty, unsent⟩ := sound.pending key entry found
    refine ⟨keyed, ?_, empty, unsent⟩
    rw [State.phase_enter]
    split
    · rename_i same
      exact waits.resolve_right fun others => others key entry found same
    · exact waited
  · -- A request with an outcome under way was dispatched.
    intro other outcome member
    obtain ⟨empty, was, answers⟩ := sound.sends other outcome member
    refine ⟨empty, ?_, answers⟩
    rw [State.phase_enter]
    split
    · exact present
    · exact was
  · -- So was one with an outcome in its channel.
    intro other outcome held
    obtain ⟨was, answers⟩ := sound.channel other outcome held
    refine ⟨?_, answers⟩
    rw [State.phase_enter]
    split
    · exact present
    · exact was
  · -- The request that moves on has returned nothing yet.
    intro other
    rw [State.phase_enter]
    split
    · rename_i same
      rw [same]
      exact .inl unreturned
    · exact sound.outcomes other

/-- A request may return an outcome of its own, if it has no entry and has not returned. -/
theorem State.Sound.ret (sound : s.Sound wire) {r : RequestID} {outcome : Outcome R}
    (gone : ∀ key entry, s.pending.get key = some entry → entry.request ≠ r) (unreturned : s.outcomes r = [])
    (own : ∀ resp, outcome = .response resp → s.Answers wire r resp) : (s.ret r outcome).Sound wire := by
  have entered : (s.enter r .done).Sound wire := sound.enter (by simp) (.inr gone) unreturned
  refine ⟨entered.pending, entered.sends, entered.unrepeated, entered.channel, ?_, ?_, entered.failed⟩
  · -- The request has returned once.
    intro other
    show Function.update s.outcomes r _ other = [] ∨ (s.enter r .done).phase other = .done ∧ _
    by_cases same : other = r
    · refine .inr ⟨by simp [State.phase_enter, same], ?_⟩
      show (Function.update s.outcomes r (s.outcomes r ++ [outcome]) other).length = 1
      simp [same, unreturned]
    · simpa [same, State.phase_enter, State.ret] using sound.outcomes other
  · -- What it returned was its own.
    intro other resp member
    have member : .response resp ∈ Function.update s.outcomes r (s.outcomes r ++ [outcome]) other := member
    by_cases same : other = r
    · subst same
      simp only [Function.update_self, unreturned, List.nil_append, List.mem_singleton] at member
      exact own resp member.symm
    · rw [Function.update_of_ne same] at member
      exact sound.own other resp member

/-- Entries may be deleted. -/
theorem State.Sound.delete (sound : s.Sound wire) (r : RequestID) (key : K) : (s.delete r key).Sound wire := by
  refine ⟨?_, sound.sends, sound.unrepeated, sound.channel, sound.outcomes, sound.own, ?_⟩
  · -- What is left in the table was there before.
    intro other entry found
    have found : (s.pending.delete key).get other = some entry := found
    rw [GoMap.get_delete] at found
    split at found
    · simp at found
    · exact sound.pending other entry found
  · -- A closed endpoint has an empty table.
    intro closed other
    show (s.pending.delete key).get other = none
    rw [GoMap.get_delete]
    split
    · rfl
    · exact sound.failed closed other

omit [DecidableEq K] in
/-- An answer stays one when more is read, and when another request is dispatched. -/
theorem State.Answers.mono {r : RequestID} {resp : R} (answers : s.Answers wire r resp) (read : s.read ⊆ s'.read)
    (request : s'.request r = s.request r) : s'.Answers wire r resp := by
  obtain ⟨was, req, dispatched, same⟩ := answers
  exact ⟨read was, req, request.trans dispatched, same⟩

/-- Entries may be taken from the table, with an outcome to be sent for each. -/
theorem State.Sound.take (sound : s.Sound wire) {pending : GoMap K Entry} {new : List (RequestID × Outcome R)}
    {closed : Bool}
    (fewer : ∀ key entry, pending.get key = some entry →
      s.pending.get key = some entry ∧ ∀ outcome, (entry.request, outcome) ∉ new)
    (taken : ∀ r outcome, (r, outcome) ∈ new → (∃ key entry, s.pending.get key = some entry ∧ entry.request = r) ∧
      ∀ resp, outcome = .response resp → s.Answers wire r resp)
    (unrepeated : (new.map Prod.fst).Nodup) (failed : closed = true → ∀ key, pending.get key = none) :
    State.Sound wire { s with pending, closed, sends := s.sends ++ new } := by
  refine ⟨?_, ?_, ?_, sound.channel, sound.outcomes, sound.own, failed⟩
  · -- A request that stays in the table has nothing under way.
    intro key entry found
    obtain ⟨before, unsent⟩ := fewer key entry found
    obtain ⟨keyed, waits, empty, unsent'⟩ := sound.pending key entry before
    refine ⟨keyed, waits, empty, fun outcome member => ?_⟩
    rcases List.mem_append.mp member with earlier | now
    · exact unsent' outcome earlier
    · exact unsent outcome now
  · -- Whoever is sent an outcome was in the table, and so has an empty channel.
    intro r outcome member
    rcases List.mem_append.mp member with earlier | now
    · exact sound.sends r outcome earlier
    · obtain ⟨⟨key, entry, found, rfl⟩, answers⟩ := taken r outcome now
      obtain ⟨-, waits, empty, -⟩ := sound.pending key entry found
      refine ⟨empty, ?_, answers⟩
      rintro (absent : s.phase entry.request = .absent)
      simp [absent, Phase.waits] at waits
  · show ((s.sends ++ new).map Prod.fst).Nodup
    rw [List.map_append]
    refine List.Nodup.append sound.unrepeated unrepeated fun r earlier now => ?_
    -- What was still in the table had no outcome to be sent.
    obtain ⟨⟨r', outcome⟩, member, rfl⟩ := List.mem_map.mp now
    obtain ⟨⟨key, entry, found, rfl⟩, -⟩ := taken r' outcome member
    obtain ⟨⟨_, other⟩, before, rfl⟩ := List.mem_map.mp earlier
    exact (sound.pending key entry found).2.2.2 other before

/-- The entries of the table are those of different requests. -/
theorem State.Sound.nodup_requests (sound : s.Sound wire) :
    ((s.pending.entries.map Prod.snd).map Entry.request).Nodup := by
  rw [List.map_map]
  have keys : (s.pending.entries.map Prod.fst).Nodup := by
    rw [GoMap.map_fst_entries]
    exact s.pending.keys_nodup
  refine List.Nodup.map_on ?_ keys.of_map
  rintro ⟨key, entry⟩ member ⟨key', entry'⟩ member' same
  rw [GoMap.mem_entries_iff] at member member'
  -- A request knows its key.
  have same : entry.request = entry'.request := same
  obtain ⟨⟨req, dispatched, keyed⟩, -⟩ := sound.pending key entry member
  obtain ⟨⟨req', dispatched', keyed'⟩, -⟩ := sound.pending key' entry' member'
  rw [same, dispatched'] at dispatched
  cases dispatched
  obtain rfl : key = key' := keyed.symm.trans keyed'
  rw [member] at member'
  cases member'
  rfl

/-- Entries may be taken with an error. -/
theorem State.Sound.takeErrors (sound : s.Sound wire) {pending : GoMap K Entry} {entries : List Entry}
    {err : RequestError} {closed : Bool} (sublist : entries.Sublist (s.pending.entries.map Prod.snd))
    (fewer : ∀ key entry, pending.get key = some entry → s.pending.get key = some entry ∧ entry ∉ entries)
    (failed : closed = true → ∀ key, pending.get key = none) :
    State.Sound wire { s with pending, closed, sends := s.sends ++ State.errorSends entries err } := by
  -- The entries that are taken were in the table.
  have listed {entry : Entry} (member : entry ∈ entries) : ∃ key, s.pending.get key = some entry := by
    obtain ⟨⟨key, _⟩, found, rfl⟩ := List.mem_map.mp (sublist.subset member)
    exact ⟨key, (s.pending.mem_entries_iff key _).mp found⟩
  -- An error answers nothing, so only the entries are to be told apart.
  refine sound.take ?_ ?_ ?_ failed
  · -- The entries that stay are none of those that were taken.
    intro key entry found
    obtain ⟨before, untaken⟩ := fewer key entry found
    refine ⟨before, fun outcome member => ?_⟩
    obtain ⟨other, taken, same⟩ := List.mem_map.mp member
    simp only [Prod.mk.injEq] at same
    -- The same request would have the same entry.
    obtain ⟨key', before'⟩ := listed taken
    obtain ⟨⟨req, dispatched, keyed⟩, -⟩ := sound.pending key entry before
    obtain ⟨⟨req', dispatched', keyed'⟩, -⟩ := sound.pending key' other before'
    rw [same.1, dispatched] at dispatched'
    cases dispatched'
    obtain rfl : key = key' := keyed.symm.trans keyed'
    rw [before] at before'
    cases before'
    exact untaken taken
  · -- Each error goes to a request that was in the table.
    intro r outcome member
    obtain ⟨entry, taken, same⟩ := List.mem_map.mp member
    simp only [Prod.mk.injEq] at same
    obtain ⟨rfl, rfl⟩ := same
    obtain ⟨key, before⟩ := listed taken
    exact ⟨⟨key, entry, before, rfl⟩, by simp⟩
  · -- No request is told twice.
    have same : (State.errorSends entries err : List (RequestID × Outcome R)).map Prod.fst = entries.map Entry.request := by
      simp [State.errorSends]
    rw [same]
    exact sound.nodup_requests.sublist (sublist.map _)

/-- The transport may fail. -/
theorem State.Sound.fail (sound : s.Sound wire) : s.fail.Sound wire := by
  unfold State.fail
  split
  · exact sound
  · exact sound.takeErrors (List.Sublist.refl _) (by simp) (by simp)

/-- The entries of a lease may be taken. -/
theorem State.Sound.sweepLease (sound : s.Sound wire) (lease : LeaseID) : (s.sweepLease lease).Sound wire := by
  -- The sweep leaves the entries of the other leases.
  have fewer (key : K) (entry : Entry)
      (found : (s.pending.filterMap fun _ entry => if entry.owner = some lease then none else some entry).get key =
        some entry) : s.pending.get key = some entry ∧ entry.owner ≠ some lease := by
    rw [GoMap.get_filterMap, Option.bind_eq_some_iff] at found
    obtain ⟨before, found, kept⟩ := found
    split at kept
    · simp at kept
    · rename_i another
      cases kept
      exact ⟨found, another⟩
  have swept : State.Sound wire { s with
      pending := s.pending.filterMap fun _ entry => if entry.owner = some lease then none else some entry
      sends := s.sends ++ State.errorSends
        ((s.pending.entries.map Prod.snd).filter fun entry => entry.owner = some lease) .leaseClosed } := by
    refine sound.takeErrors List.filter_sublist ?_ ?_
    · intro key entry found
      obtain ⟨before, another⟩ := fewer key entry found
      exact ⟨before, by simp [another]⟩
    · intro closed key
      rw [GoMap.get_filterMap, sound.failed closed key]
      rfl
  exact ⟨swept.pending, swept.sends, swept.unrepeated, swept.channel, swept.outcomes, swept.own, swept.failed⟩

/-- The reader may take the entry of a response. -/
theorem State.Sound.deliverResponse (sound : s.Sound wire) (resp : R) : (s.deliverResponse wire resp).Sound wire := by
  -- More is read than before.
  have more {r : RequestID} {other : R} (answers : s.Answers wire r other) :
      State.Answers wire { s with read := s.read ++ [resp] } r other :=
    answers.mono (List.subset_append_left _ _) rfl
  have sound' : State.Sound wire { s with read := s.read ++ [resp] } :=
    ⟨sound.pending,
      fun r outcome member => ⟨(sound.sends r outcome member).1, (sound.sends r outcome member).2.1,
        fun other same => more ((sound.sends r outcome member).2.2 other same)⟩,
      sound.unrepeated,
      fun r outcome held => ⟨(sound.channel r outcome held).1,
        fun other same => more ((sound.channel r outcome held).2 other same)⟩,
      sound.outcomes, fun r other member => more (sound.own r other member), sound.failed⟩
  -- The response has an entry under its key, or it is dropped.
  unfold State.deliverResponse
  dsimp only
  split
  · exact sound'
  · rename_i entry found
    refine sound'.take ?_ ?_ (by simp) ?_
    · -- The other entries stay.
      intro key other remains
      rw [GoMap.get_delete] at remains
      split at remains
      · simp at remains
      · rename_i different
        refine ⟨remains, fun outcome member => ?_⟩
        simp only [List.mem_singleton, Prod.mk.injEq] at member
        -- The same request would have the same key.
        obtain ⟨⟨req, dispatched, keyed⟩, -⟩ := sound.pending key other remains
        obtain ⟨⟨req', dispatched', keyed'⟩, -⟩ := sound.pending _ entry found
        rw [member.1, dispatched'] at dispatched
        cases dispatched
        exact different (keyed.symm.trans keyed')
    · -- The outcome is the response of that request.
      intro r outcome member
      simp only [List.mem_singleton, Prod.mk.injEq] at member
      obtain ⟨rfl, rfl⟩ := member
      refine ⟨⟨_, entry, found, rfl⟩, ?_⟩
      rintro _ ⟨⟩
      obtain ⟨⟨req, dispatched, keyed⟩, -⟩ := sound.pending _ entry found
      exact ⟨by simp, req, dispatched, keyed.symm⟩
    · intro closed key
      rw [GoMap.get_delete]
      split
      · rfl
      · exact sound.failed closed key

/-- A request that has not been dispatched is nowhere to be found. -/
theorem State.Sound.register (sound : s.Sound wire) {r : RequestID} (absent : s.phase r = .absent) (req : Q) :
    State.Sound wire { s with request := Function.update s.request r (some req) } := by
  -- A request that was dispatched before is another one.
  have others {other : RequestID} (present : s.phase other ≠ .absent) :
      Function.update s.request r (some req) other = s.request other := by
    rw [Function.update_of_ne]
    rintro rfl
    exact present absent
  have kept {other : RequestID} {resp : R} (present : s.phase other ≠ .absent) (answers : s.Answers wire other resp) :
      State.Answers wire { s with request := Function.update s.request r (some req) } other resp :=
    answers.mono (List.Subset.refl _) (others present)
  refine ⟨?_, ?_, sound.unrepeated, ?_, sound.outcomes, ?_, sound.failed⟩
  · -- The requests in the table were dispatched before.
    intro key entry found
    obtain ⟨⟨req', dispatched, keyed⟩, waits, rest⟩ := sound.pending key entry found
    refine ⟨⟨req', ?_, keyed⟩, waits, rest⟩
    refine (others fun absent => ?_).trans dispatched
    simp [absent, Phase.waits] at waits
  · -- So were those with an outcome under way.
    intro other outcome member
    obtain ⟨empty, present, answers⟩ := sound.sends other outcome member
    exact ⟨empty, present, fun resp same => kept present (answers resp same)⟩
  · intro other outcome held
    obtain ⟨present, answers⟩ := sound.channel other outcome held
    exact ⟨present, fun resp same => kept present (answers resp same)⟩
  · -- So were those that have returned.
    intro other resp member
    refine kept (fun absent => ?_) (sound.own other resp member)
    rcases sound.outcomes other with none_ | ⟨done, -⟩
    · simp [none_] at member
    · simp [absent] at done

/-- A request whose key is free may be added under it. -/
theorem State.Sound.addPending (sound : s.Sound wire) {r : RequestID} {req : Q} (absent : s.phase r = .absent)
    (dispatched : s.request r = some req) (lease : Option LeaseID) :
    (s.addPending r (wire.requestKey req) lease).Sound wire := by
  -- A request that is new has returned nothing, and has no entry.
  have unreturned : s.outcomes r = [] := by
    rcases sound.outcomes r with none_ | ⟨done, -⟩
    · exact none_
    · simp [absent] at done
  have gone (key : K) (entry : Entry) (found : s.pending.get key = some entry) : entry.request ≠ r := by
    rintro rfl
    have waits := (sound.pending key entry found).2.1
    simp [absent, Phase.waits] at waits
  -- The lease is closed, or the endpoint, or the key is in use.
  unfold State.addPending
  split
  · exact sound.ret gone unreturned (by simp)
  · split
    · exact sound.ret gone unreturned (by simp)
    · split
      · exact sound.ret gone unreturned (by simp)
      · -- Otherwise the entry is made.
        rename_i open_ free
        have entered : (s.enter r .gate).Sound wire := sound.enter (by simp) (.inl rfl) unreturned
        refine ⟨?_, entered.sends, entered.unrepeated, entered.channel, entered.outcomes, entered.own, ?_⟩
        · intro key entry found
          have found : (s.pending.set (wire.requestKey req) ⟨r, lease⟩).get key = some entry := found
          rw [GoMap.get_set] at found
          split at found
          · rename_i same
            cases found
            refine ⟨⟨req, dispatched, same.symm⟩, by simp [State.phase_enter, Phase.waits], ?_, ?_⟩
            · -- What was never dispatched was never promised an outcome.
              cases held : s.channel r with
              | none => exact held
              | some outcome => exact absurd absent (sound.channel r outcome held).1
            · intro outcome member
              exact absurd absent (sound.sends r outcome member).2.1
          · exact entered.pending key entry found
        · intro closed
          exact absurd closed open_

/-- An outcome may be sent to its channel. -/
theorem State.Sound.send [DecidableEq R] (sound : s.Sound wire) {r : RequestID} {outcome : Outcome R}
    (member : (r, outcome) ∈ s.sends) :
    State.Sound wire { s with
      sends := s.sends.erase (r, outcome), channel := Function.update s.channel r (some outcome) } := by
  obtain ⟨-, present, answers⟩ := sound.sends r outcome member
  -- No other outcome is to be sent to the same channel.
  have others {other : RequestID} {outcome' : Outcome R} (remains : (other, outcome') ∈ s.sends.erase (r, outcome)) :
      other ≠ r := by
    rintro rfl
    have before := List.mem_of_mem_erase remains
    have same : outcome' = outcome := by
      have pair := List.inj_on_of_nodup_map sound.unrepeated before member rfl
      simpa using pair
    subst same
    exact (List.Nodup.not_mem_erase sound.unrepeated.of_map) remains
  refine ⟨?_, ?_, sound.unrepeated.sublist (List.erase_sublist.map _), ?_, sound.outcomes, sound.own, sound.failed⟩
  · -- The request is not in the table any more.
    intro key entry found
    obtain ⟨keyed, waits, empty, unsent⟩ := sound.pending key entry found
    refine ⟨keyed, waits, ?_, fun outcome' remains => unsent outcome' (List.mem_of_mem_erase remains)⟩
    show Function.update s.channel r (some outcome) entry.request = none
    rw [Function.update_of_ne]
    · exact empty
    · rintro rfl
      exact unsent outcome member
  · -- The other channels are as they were.
    intro other outcome' remains
    obtain ⟨empty, present', answers'⟩ := sound.sends other outcome' (List.mem_of_mem_erase remains)
    refine ⟨?_, present', answers'⟩
    show Function.update s.channel r (some outcome) other = none
    rw [Function.update_of_ne (others remains)]
    exact empty
  · -- The channel holds what was sent.
    intro other outcome' held
    have held : Function.update s.channel r (some outcome) other = some outcome' := held
    by_cases same : other = r
    · subst same
      rw [Function.update_self] at held
      cases held
      exact ⟨present, answers⟩
    · rw [Function.update_of_ne same] at held
      exact sound.channel other outcome' held

/-- A request may receive the outcome in its channel and return it. -/
theorem State.Sound.receive (sound : s.Sound wire) {r : RequestID} {outcome : Outcome R}
    (held : s.channel r = some outcome) (running : s.phase r ≠ .done) :
    (State.ret { s with channel := Function.update s.channel r none } r outcome).Sound wire := by
  -- The other channels are as they were.
  have emptied {other : RequestID} (empty : s.channel other = none) :
      Function.update s.channel r none other = none := by
    by_cases same : other = r
    · rw [same, Function.update_self]
    · rw [Function.update_of_ne same, empty]
  have sound' : State.Sound wire { s with channel := Function.update s.channel r none } := by
    refine ⟨?_, ?_, sound.unrepeated, ?_, sound.outcomes, sound.own, sound.failed⟩
    · intro key entry found
      obtain ⟨keyed, waits, empty, unsent⟩ := sound.pending key entry found
      exact ⟨keyed, waits, emptied empty, unsent⟩
    · intro other outcome' member
      obtain ⟨empty, present, answers⟩ := sound.sends other outcome' member
      exact ⟨emptied empty, present, answers⟩
    · intro other outcome' held'
      have held' : Function.update s.channel r none other = some outcome' := held'
      by_cases same : other = r
      · simp [same] at held'
      · rw [Function.update_of_ne same] at held'
        exact sound.channel other outcome' held'
  refine sound'.ret ?_ ?_ (sound.channel r outcome held).2
  · -- A request with an outcome is not in the table.
    rintro key entry found rfl
    have empty := (sound.pending key entry found).2.2.1
    simp [held] at empty
  · -- It has returned nothing yet.
    rcases sound.outcomes r with none_ | ⟨done, -⟩
    · exact none_
    · exact absurd done running

/-- A request that has not returned has no outcome. -/
theorem State.Sound.unreturned (sound : s.Sound wire) {r : RequestID} (running : s.phase r ≠ .done) :
    s.outcomes r = [] := by
  rcases sound.outcomes r with none_ | ⟨done, -⟩
  · exact none_
  · exact absurd done running

/-- A request has no entry but the one under its own key. -/
theorem State.Sound.gone (sound : s.Sound wire) {r : RequestID} {req : Q} (dispatched : s.request r = some req)
    (other : ∀ entry, s.pending.get (wire.requestKey req) = some entry → entry.request ≠ r) (key : K) (entry : Entry)
    (found : s.pending.get key = some entry) : entry.request ≠ r := by
  rintro rfl
  obtain ⟨⟨req', dispatched', keyed⟩, -⟩ := sound.pending key entry found
  cases dispatched.symm.trans dispatched'
  exact other entry (keyed ▸ found) rfl

/-- After a deletion under its own key, a request has no entry. -/
theorem State.Sound.gone_delete (sound : s.Sound wire) {r : RequestID} {req : Q} (dispatched : s.request r = some req)
    (key : K) (entry : Entry) (found : (s.delete r (wire.requestKey req)).pending.get key = some entry) :
    entry.request ≠ r := by
  refine (sound.delete r (wire.requestKey req)).gone dispatched ?_ key entry found
  intro other found
  have found : (s.pending.delete (wire.requestKey req)).get (wire.requestKey req) = some other := found
  simp at found

/-- A request may expire. -/
theorem State.Sound.expirePending (sound : s.Sound wire) {r : RequestID} {req : Q} (dispatched : s.request r = some req)
    (running : s.phase r ≠ .done) (result : WriteResult) : (s.expirePending wire r req result).Sound wire := by
  have unreturned := sound.unreturned running
  unfold State.expirePending
  dsimp only
  -- The entry under the key is the request's own, and goes.
  split
  · -- The endpoint fails unless it can go on without the rest of the write.
    have fails : ((s.delete r (wire.requestKey req)).enter r .failing).Sound wire :=
      (sound.delete r _).enter (by simp) (.inr (sound.gone_delete dispatched)) unreturned
    have ends : ((s.delete r (wire.requestKey req)).ret r (.error .context)).Sound wire :=
      (sound.delete r _).ret (sound.gone_delete dispatched) unreturned (by simp)
    unfold State.expired
    split
    · exact fails
    · split
      · exact fails
      · exact ends
    · split
      · exact fails
      · exact ends
  · -- The entry is not its own, so the request is not in the table.
    rename_i notOwn
    refine sound.enter (by simp) (.inr (sound.gone dispatched ?_)) unreturned
    intro entry found same
    simp [found, same] at notOwn

/-- Every step keeps the table sound. -/
theorem State.Sound.step [DecidableEq R] (sound : s.Sound wire) {e : Event Q R} (stepped : s.step wire e = some s') :
    s'.Sound wire := by
  -- Each event is a step of one request, of the reader, or of a lease.
  cases e with
  -- A request is dispatched by a client of an open lease.
  | dispatch r req lease =>
    rw [State.step] at stepped
    split at stepped
    · rename_i new
      obtain ⟨absent, -⟩ := new
      rw [← Option.some.inj stepped]
      have registered := sound.register absent req
      split
      · exact registered.addPending absent (Function.update_self ..) lease
      · refine registered.ret ?_ (sound.unreturned (by simp [absent])) (by simp)
        rintro key entry found rfl
        have waits := (sound.pending key entry found).2.1
        simp [absent, Phase.waits] at waits
    · simp at stepped
  -- It takes the write gate.
  | acquireWrite r =>
    rw [State.step] at stepped
    split at stepped
    · rename_i at_
      rw [← Option.some.inj stepped]
      have entered : (s.enter r .holding).Sound wire :=
        sound.enter (by simp) (.inl rfl) (sound.unreturned (by simp [at_.1]))
      exact ⟨entered.pending, entered.sends, entered.unrepeated, entered.channel, entered.outcomes, entered.own,
        entered.failed⟩
    · simp at stepped
  -- It gives up before its write.
  | giveUp r =>
    rw [State.step] at stepped
    have leaves (running : s.phase r ≠ .done) : (s.enter r .leaving).Sound wire :=
      sound.enter (by simp) (.inl rfl) (sound.unreturned running)
    split at stepped
    · rename_i at_
      rw [← Option.some.inj stepped]
      exact leaves (by simp [at_])
    · rename_i at_
      rw [← Option.some.inj stepped]
      have entered := leaves (by simp [at_])
      exact ⟨entered.pending, entered.sends, entered.unrepeated, entered.channel, entered.outcomes, entered.own,
        entered.failed⟩
    · simp at stepped
  -- It takes the entry under its key out, whoever that belongs to.
  | removePending r =>
    rw [State.step] at stepped
    split at stepped
    · rename_i req at_ dispatched
      rw [← Option.some.inj stepped]
      exact (sound.delete r _).ret (sound.gone_delete dispatched) (sound.unreturned (by simp [at_])) (by simp)
    · simp at stepped
  -- It has written, or the write has failed.
  | write r result =>
    rw [State.step] at stepped
    split at stepped
    · rename_i at_
      rw [← Option.some.inj stepped]
      have entered : (s.enter r (if result = .ok then .written else .writeFailed result)).Sound wire := by
        refine sound.enter ?_ (.inl ?_) (sound.unreturned (by simp [at_]))
        · split <;> simp
        · split <;> rfl
      exact ⟨entered.pending, entered.sends, entered.unrepeated, entered.channel, entered.outcomes, entered.own,
        entered.failed⟩
    · simp at stepped
  -- It gives up after its write.
  | expirePending r =>
    rw [State.step] at stepped
    split at stepped
    · rename_i result req at_ dispatched
      rw [← Option.some.inj stepped]
      exact sound.expirePending dispatched (by simp [at_]) result
    · rename_i req at_ dispatched
      rw [← Option.some.inj stepped]
      exact sound.expirePending dispatched (by simp [at_]) .ok
    · simp at stepped
  -- It fails the endpoint, and then returns.
  | failTransport r =>
    rw [State.step] at stepped
    split at stepped
    · rename_i at_
      rw [← Option.some.inj stepped]
      have phase : s.fail.phase = s.phase := by
        unfold State.fail
        split <;> rfl
      refine sound.fail.ret ?_ (sound.fail.unreturned (by simp [phase, at_])) (by simp)
      rintro key entry found rfl
      have waits := (sound.fail.pending key entry found).2.1
      simp [phase, at_, Phase.waits] at waits
    · simp at stepped
  -- It receives its outcome.
  | receive r =>
    rw [State.step] at stepped
    split at stepped
    · rename_i outcome at_ held
      rw [← Option.some.inj stepped]
      exact sound.receive held (by simp [at_])
    · rename_i outcome at_ held
      rw [← Option.some.inj stepped]
      exact sound.receive held (by simp [at_])
    · simp at stepped
  | deliverResponse resp =>
    rw [← Option.some.inj stepped]
    exact sound.deliverResponse resp
  | send r outcome =>
    rw [State.step] at stepped
    split at stepped
    · rename_i ready
      rw [← Option.some.inj stepped]
      exact sound.send ready.1
    · simp at stepped
  | closeLease lease =>
    rw [State.step] at stepped
    split at stepped
    · rw [← Option.some.inj stepped]
      exact ⟨sound.pending, sound.sends, sound.unrepeated, sound.channel, sound.outcomes, sound.own, sound.failed⟩
    · simp at stepped
  | sweepLease lease =>
    rw [State.step] at stepped
    split at stepped
    · rw [← Option.some.inj stepped]
      exact sound.sweepLease lease
    · simp at stepped
  | fail =>
    rw [← Option.some.inj stepped]
    exact sound.fail

/-! Entries of others. -/

/-- A deletion is noted exactly if it is that of another's entry. -/
theorem State.foreign_delete (s : State Q R K) (r : RequestID) (key : K) :
    (∀ entry, s.pending.get key = some entry → entry.request = r) ∧ (s.delete r key).foreign = s.foreign ∨
      (∃ entry, s.pending.get key = some entry ∧ entry.request ≠ r) ∧ (s.delete r key).foreign ≠ [] := by
  unfold State.delete
  cases found : s.pending.get key with
  | none => exact .inl ⟨by simp, rfl⟩
  | some entry =>
    by_cases own : entry.request = r
    · exact .inl ⟨by simpa using own, by simp [own]⟩
    · exact .inr ⟨⟨entry, rfl, own⟩, by simp [own]⟩

/-- A request that expires removes its own entry or none. -/
theorem State.foreign_expirePending (s : State Q R K) (r : RequestID) (req : Q) (result : WriteResult) :
    (s.expirePending wire r req result).foreign = s.foreign := by
  unfold State.expirePending
  dsimp only
  split
  · -- The entry is taken only where it is the request's own.
    rename_i own
    rcases s.foreign_delete r (wire.requestKey req) with ⟨-, same⟩ | ⟨⟨entry, found, another⟩, -⟩
    · rw [← same]
      unfold State.expired
      split
      · rfl
      · split <;> rfl
      · split <;> rfl
    · simp [found, another] at own
  · rfl

/-- Only a removal that breaks the isolation is noted. -/
theorem State.foreign_step [DecidableEq R] {e : Event Q R} (stepped : s.step wire e = some s') :
    breaks wire s e = false ∧ s'.foreign = s.foreign ∨ breaks wire s e = true ∧ s'.foreign ≠ [] := by
  -- Only one step takes an entry without looking whose it is.
  cases e with
  -- The entry under the key is the request's own, or another's.
  | removePending r =>
    rw [State.step] at stepped
    split at stepped
    · rename_i req at_ dispatched
      rw [← Option.some.inj stepped]
      simp only [breaks, at_, dispatched]
      rcases s.foreign_delete r (wire.requestKey req) with ⟨own, same⟩ | ⟨⟨entry, found, another⟩, noted⟩
      · refine .inl ⟨?_, same⟩
        cases found : s.pending.get (wire.requestKey req) with
        | none => rfl
        | some entry => simp [own entry found]
      · exact .inr ⟨by simp [found, another], noted⟩
    · simp at stepped
  -- Everything else looks at the entry first, or takes those of one lease.
  | expirePending r =>
    refine .inl ⟨rfl, ?_⟩
    rw [State.step] at stepped
    split at stepped
    · rw [← Option.some.inj stepped]
      exact s.foreign_expirePending ..
    · rw [← Option.some.inj stepped]
      exact s.foreign_expirePending ..
    · simp at stepped
  | dispatch r req lease =>
    refine .inl ⟨rfl, ?_⟩
    rw [State.step] at stepped
    split at stepped
    · rw [← Option.some.inj stepped]
      unfold State.addPending
      split
      · split
        · rfl
        · split
          · rfl
          · split <;> rfl
      · rfl
    · simp at stepped
  | acquireWrite r | send r outcome | closeLease lease | sweepLease lease =>
    refine .inl ⟨rfl, ?_⟩
    rw [State.step] at stepped
    split at stepped
    · obtain rfl := Option.some.inj stepped
      rfl
    · simp at stepped
  | giveUp r | receive r =>
    refine .inl ⟨rfl, ?_⟩
    rw [State.step] at stepped
    split at stepped
    · obtain rfl := Option.some.inj stepped
      rfl
    · obtain rfl := Option.some.inj stepped
      rfl
    · simp at stepped
  | write r result =>
    refine .inl ⟨rfl, ?_⟩
    rw [State.step] at stepped
    split at stepped
    · obtain rfl := Option.some.inj stepped
      rfl
    · simp at stepped
  | failTransport r =>
    refine .inl ⟨rfl, ?_⟩
    rw [State.step] at stepped
    split at stepped
    · rw [← Option.some.inj stepped]
      show s.fail.foreign = s.foreign
      unfold State.fail
      split <;> rfl
    · simp at stepped
  | deliverResponse resp =>
    refine .inl ⟨rfl, ?_⟩
    rw [← Option.some.inj stepped]
    unfold State.deliverResponse
    dsimp only
    split <;> rfl
  | fail =>
    refine .inl ⟨rfl, ?_⟩
    rw [← Option.some.inj stepped]
    unfold State.fail
    split <;> rfl

/-! All runs. -/

/-- The requests of a run do what they owe in each of its states exactly if no step of it breaks their isolation. -/
theorem requests_meet_iff [DecidableEq R] {trace : List (State Q R K × Event Q R)}
    (run : (requests wire).Runs trace s) :
    (requests wire).Throughout trace (State.Meets wire) ↔ ∀ step ∈ trace, ¬ breaks wire step.1 step.2 = true := by
  refine @Machine.Runs.throughout_iff _ _ (requests wire) _ (fun s => State.Sound wire s ∧ s.foreign = [])
    (fun s e => breaks wire s e = true) ?_ (fun _ good => good.1.meets good.2) ?_ ?_ _ _ run
  · -- At the start nothing is pending, and nothing was taken.
    refine ⟨⟨?_, ?_, ?_, ?_, ?_, ?_, ?_⟩, rfl⟩
    all_goals simp [requests]
  · -- A step that does not break leaves the entries of others alone.
    rintro s e s' ⟨sound, isolated⟩ calm stepped
    refine ⟨sound.step stepped, ?_⟩
    rcases State.foreign_step stepped with ⟨-, same⟩ | ⟨breaks, -⟩
    · exact same.trans isolated
    · exact absurd breaks calm
  · -- A step that breaks has taken one, which stays noted.
    intro trace s e s' _ breaks stepped meets
    rcases State.foreign_step stepped with ⟨calm, -⟩ | ⟨-, noted⟩
    · simp [calm] at breaks
    · exact noted meets.isolated

/-! The two transports. -/

/-- In each state of a run, the requests of the QMUX transport do what they owe exactly if no step breaks their isolation. -/
theorem qmuxRequests_meet_iff {s : State QmuxMessage QmuxMessage QmuxMessage}
    {trace : List (State QmuxMessage QmuxMessage QmuxMessage × Event QmuxMessage QmuxMessage)}
    (run : (requests qmux).Runs trace s) :
    (requests qmux).Throughout trace (State.Meets qmux) ↔ ∀ step ∈ trace, ¬ breaks qmux step.1 step.2 = true :=
  requests_meet_iff run

/-- A message of the device management service. -/
def deviceMessage : QmuxMessage := { service := 0x02, clientID := 1, transactionID := 7, messageID := 0x20 }

/-- A key is used again after its request has expired, and the late response goes to the second request. -/
def reusedKey {M : Type} (message : M) : List (Event M M) :=
  [.dispatch 0 message none, .acquireWrite 0, .write 0 .ok, .expirePending 0, .dispatch 1 message none,
    .acquireWrite 1, .write 1 .ok, .deliverResponse message, .send 1 (.response message), .receive 1, .fail]

/-- Every request has one outcome, and only the second one has the response. -/
theorem reusedKey_meets : ∃ trace s, (requests qmux).Runs trace s ∧ s.outcomes 0 = [.error .context] ∧
    s.outcomes 1 = [.response deviceMessage] ∧ (requests qmux).Throughout trace (State.Meets qmux) := by
  have glance : ((requests qmux).runFrom (requests qmux).init (reusedKey deviceMessage)).map
      (fun run => (run.2.outcomes 0, run.2.outcomes 1, run.1.all fun step => !breaks qmux step.1 step.2)) =
      some ([.error .context], [.response deviceMessage], true) := by decide +kernel
  obtain ⟨trace, s, run, -, seen⟩ := Machine.exists_runs glance
  simp only [Prod.mk.injEq, List.all_eq_true, Bool.not_eq_true'] at seen
  refine ⟨trace, s, run, seen.1, seen.2.1, (qmuxRequests_meet_iff run).mpr fun step member => ?_⟩
  simp [seen.2.2 step member]

/-- A late response goes to the next request under its key, which gives up when a third one uses the key. -/
def stolenEntry {M : Type} (message : M) : List (Event M M) :=
  [.dispatch 0 message none, .acquireWrite 0, .write 0 .ok, .expirePending 0, .dispatch 1 message none,
    .deliverResponse message, .dispatch 2 message none, .giveUp 1, .removePending 1]

/-- The request that gives up removes the entry of the third one. -/
theorem stolenEntry_not_meet : ¬ ∀ trace s, (requests qmux).Runs trace s →
    (requests qmux).Throughout trace (State.Meets qmux) := by
  intro all
  have glance : ((requests qmux).runFrom (requests qmux).init (stolenEntry deviceMessage)).map
      (fun run => run.2.foreign) = some [(1, 2)] := by decide +kernel
  obtain ⟨trace, s, run, -, seen⟩ := Machine.exists_runs glance
  have meets := all trace s run trace [] s (by simp) run
  have seen : s.foreign = [(1, 2)] := seen
  exact absurd (seen.symm.trans meets.isolated) (by simp)

/-- In each state of a run, the requests of a QRTR service do what they owe exactly if no step breaks their isolation. -/
theorem qrtrRequests_meet_iff {s : State QrtrMessage QrtrMessage QrtrMessage}
    {trace : List (State QrtrMessage QrtrMessage QrtrMessage × Event QrtrMessage QrtrMessage)}
    (run : (requests qrtr).Runs trace s) :
    (requests qrtr).Throughout trace (State.Meets qrtr) ↔ ∀ step ∈ trace, ¬ breaks qrtr step.1 step.2 = true :=
  requests_meet_iff run

/-- A message of the service. -/
def serviceMessage : QrtrMessage := { transactionID := 7, messageID := 0x20 }

/-- Every request has one outcome, and only the second one has the response. -/
theorem reusedServiceKey_meets : ∃ trace s, (requests qrtr).Runs trace s ∧ s.outcomes 0 = [.error .context] ∧
    s.outcomes 1 = [.response serviceMessage] ∧ (requests qrtr).Throughout trace (State.Meets qrtr) := by
  have glance : ((requests qrtr).runFrom (requests qrtr).init (reusedKey serviceMessage)).map
      (fun run => (run.2.outcomes 0, run.2.outcomes 1, run.1.all fun step => !breaks qrtr step.1 step.2)) =
      some ([.error .context], [.response serviceMessage], true) := by decide +kernel
  obtain ⟨trace, s, run, -, seen⟩ := Machine.exists_runs glance
  simp only [Prod.mk.injEq, List.all_eq_true, Bool.not_eq_true'] at seen
  refine ⟨trace, s, run, seen.1, seen.2.1, (qrtrRequests_meet_iff run).mpr fun step member => ?_⟩
  simp [seen.2.2 step member]

/-- The call that gives up removes the entry of the third one. -/
theorem stolenServiceEntry_not_meet : ¬ ∀ trace s, (requests qrtr).Runs trace s →
    (requests qrtr).Throughout trace (State.Meets qrtr) := by
  intro all
  have glance : ((requests qrtr).runFrom (requests qrtr).init (stolenEntry serviceMessage)).map
      (fun run => run.2.foreign) = some [(1, 2)] := by decide +kernel
  obtain ⟨trace, s, run, -, seen⟩ := Machine.exists_runs glance
  have meets := all trace s run trace [] s (by simp) run
  have seen : s.foreign = [(1, 2)] := seen
  exact absurd (seen.symm.trans meets.isolated) (by simp)

end Wwan.Qcom.Requests
