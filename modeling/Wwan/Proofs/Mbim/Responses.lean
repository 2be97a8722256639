import Wwan.Mbim.Dispatcher

/-! Every waiter for a response is given at most one result, and the right one. -/

namespace Wwan.Mbim

namespace Responses

/-- The waiters taken out of the pending responses by one step, all for the same result. -/
structure Releases (e : ResponseEvent) (r r' : Responses) (taken : List (UInt32 × ResponseWaiter))
    (result : ResponseResult) : Prop where
  registered : r'.registered = r.registered
  chans : r'.chans = r.chans
  sends : r'.sends = r.sends ++ taken.map fun entry => { ch := entry.2.ch, result }
  nodup : taken.Nodup
  pending : ∀ entry ∈ taken, r.pending.get entry.1 = some entry.2
  removed : ∀ entry ∈ taken, r'.pending.get entry.1 = none
  kept : ∀ transactionID waiter, r'.pending.get transactionID = some waiter →
    r.pending.get transactionID = some waiter
  /-- Who is not taken stays, unless its own caller left. -/
  complete : ∀ transactionID waiter, r.pending.get transactionID = some waiter →
    (transactionID, waiter) ∈ taken ∨ r'.pending.get transactionID = some waiter ∨
      e = .unregisterResponse transactionID waiter.ch
  /-- A message is for the waiter it answers. -/
  answers : ∀ data, result = .data data → ∀ entry ∈ taken,
    entry.1 = transactionIDOf data ∧ entry.2.matches (messageTypeOf data) data = true

/-- A step that leaves everything as it is. -/
theorem releases_refl (e : ResponseEvent) (r : Responses) :
    Releases e r r [] (.err errReceiverStopped) where
  registered := rfl
  chans := rfl
  sends := by simp
  nodup := List.nodup_nil
  pending := by simp
  removed := by simp
  kept := fun _ _ found => found
  complete := fun _ _ found => .inr (.inl found)
  answers := by simp

/-- Handing a result to one waiter takes that waiter. -/
theorem hand_releases (e : ResponseEvent) {r : Responses} {transactionID : UInt32}
    {waiter : ResponseWaiter} {result : ResponseResult}
    (found : r.pending.get transactionID = some waiter)
    (answers : ∀ data, result = .data data →
      transactionID = transactionIDOf data ∧ waiter.matches (messageTypeOf data) data = true) :
    Releases e r (r.hand transactionID waiter result) [(transactionID, waiter)] result where
  registered := rfl
  chans := rfl
  sends := rfl
  nodup := List.nodup_singleton _
  pending := by simpa using found
  removed := by simp [hand]
  kept := by
    -- The waiters that are still pending are those of other transactions.
    intro other waiter' kept
    simp only [hand, GoMap.get_delete] at kept
    split at kept
    · cases kept
    · exact kept
  complete := by
    -- The waiter of the transaction is the one taken, and every other stays.
    intro other waiter' pending
    by_cases same : other = transactionID
    · subst same
      rw [found] at pending
      cases pending
      simp
    · exact .inr (.inl (by simpa [hand, GoMap.get_delete, same] using pending))
  answers := by simpa using answers

/-- Leaving takes at most the waiter of the caller. -/
theorem unregisterResponse_releases (r : Responses) (transactionID : UInt32) (ch : ChanID) :
    Releases (.unregisterResponse transactionID ch) r (r.unregisterResponse transactionID ch) []
      (.err errReceiverStopped) := by
  unfold unregisterResponse
  cases found : r.pending.get transactionID with
  | none => exact releases_refl _ r
  | some waiter =>
    -- A waiter is the caller's own if it has the caller's channel.
    by_cases own : waiter.ch = ch
    · simp only [own, if_true]
      refine { registered := rfl, chans := rfl, sends := by simp, nodup := List.nodup_nil
               pending := by simp, removed := by simp, kept := ?_, complete := ?_, answers := by simp }
      · -- The others were pending before.
        intro other waiter' kept
        rw [GoMap.get_delete] at kept
        split at kept
        · cases kept
        · exact kept
      · -- The caller's own waiter is gone without a result, for its caller has left.
        intro other waiter' pending
        by_cases same : other = transactionID
        · subst same
          rw [found] at pending
          cases pending
          simp [own]
        · exact .inr (.inl (by simpa [GoMap.get_delete, same] using pending))
    · simp only [own, if_false]
      exact releases_refl _ r

/-- Distinct keys make distinct entries. -/
theorem entries_nodup (r : Responses) : r.pending.entries.Nodup := by
  have keys := r.pending.keys_nodup
  rw [← GoMap.map_fst_entries] at keys
  exact keys.of_map _

/-- Stopping takes every waiter. -/
theorem stopReceiver_releases (e : ResponseEvent) (r : Responses) (err : Error) :
    Releases e r (r.stopReceiver err) r.pending.entries (.err err) where
  registered := rfl
  chans := rfl
  sends := rfl
  nodup := r.entries_nodup
  pending := fun entry member => (r.pending.mem_entries_iff _ _).mp member
  removed := by simp [stopReceiver]
  kept := by simp [stopReceiver]
  complete := fun _ _ found => .inl ((r.pending.mem_entries_iff _ _).mpr found)
  answers := by simp

/-- What is pending once the waiters of a lease are gone. -/
theorem get_closeLease (r : Responses) (lease : Lease) (transactionID : UInt32) :
    (r.closeLease lease).pending.get transactionID =
      (r.pending.get transactionID).filter fun waiter => waiter.owner ≠ some lease := by
  simp only [closeLease, GoMap.get_filterMap]
  cases r.pending.get transactionID with
  | none => rfl
  | some waiter => by_cases own : waiter.owner = some lease <;> simp [own, Option.filter]

/-- Closing a lease takes its waiters. -/
theorem closeLease_releases (e : ResponseEvent) (r : Responses) (lease : Lease) :
    Releases e r (r.closeLease lease)
      (r.pending.entries.filter fun entry => entry.2.owner = some lease)
      (.err errClientLeaseClosed) where
  registered := rfl
  chans := rfl
  sends := rfl
  nodup := r.entries_nodup.filter _
  pending := by
    intro entry member
    exact (r.pending.mem_entries_iff _ _).mp (List.mem_of_mem_filter member)
  removed := by
    intro entry member
    obtain ⟨inside, own⟩ := List.mem_filter.mp member
    rw [get_closeLease, (r.pending.mem_entries_iff _ _).mp inside]
    simpa [Option.filter] using own
  kept := by
    intro transactionID waiter kept
    rw [get_closeLease, Option.filter_eq_some_iff] at kept
    exact kept.1
  complete := by
    -- The waiters of the lease are taken, and every other stays.
    intro transactionID waiter found
    by_cases own : waiter.owner = some lease
    · exact .inl (List.mem_filter.mpr ⟨(r.pending.mem_entries_iff _ _).mpr found, by simpa using own⟩)
    · refine .inr (.inl ?_)
      rw [get_closeLease, found]
      simpa [Option.filter] using own
  answers := by simp

/-- What a step of the responses can do. -/
theorem step_cases {r r' : Responses} {e : ResponseEvent} (accepted : r.step e = some r') :
    (∃ transactionID messageType command owner, e = .register transactionID messageType command owner ∧
      r.pending.get transactionID = none ∧
      r' = r.register transactionID messageType command owner) ∨
    (∃ s, e = .send s ∧ s ∈ r.sends ∧ (r.chans s.ch).hasRoom = true ∧
      r' = { r with chans := Function.update r.chans s.ch ((r.chans s.ch).push s.result)
                    sends := r.sends.erase s }) ∨
    (∃ ch, e = .receive ch ∧ r' = { r with chans := Function.update r.chans ch (r.chans ch).pop }) ∨
    ∃ taken result, Releases e r r' taken result := by
  cases e with
  | register transactionID messageType command owner =>
    -- A transaction ID in use is refused.
    simp only [step] at accepted
    split at accepted
    · cases accepted
    · rename_i free
      exact .inl ⟨_, _, _, _, rfl, by simpa using free, by simpa using accepted.symm⟩
  | unregisterResponse transactionID ch =>
    cases accepted
    exact .inr (.inr (.inr ⟨_, _, r.unregisterResponse_releases transactionID ch⟩))
  | deliverResponse data =>
    cases accepted
    refine .inr (.inr (.inr ?_))
    -- A response goes to the waiter of its transaction, where that waiter takes it.
    unfold deliverResponse
    cases found : r.pending.get (transactionIDOf data) with
    | none => exact ⟨_, _, releases_refl _ r⟩
    | some waiter =>
      by_cases answered : waiter.matches (messageTypeOf data) data = true
      · simp only [answered, if_true]
        refine ⟨_, _, hand_releases _ found ?_⟩
        rintro _ ⟨⟩
        exact ⟨rfl, answered⟩
      · simp only [answered]
        exact ⟨_, _, releases_refl _ r⟩
  | failResponse transactionID err =>
    cases accepted
    refine .inr (.inr (.inr ?_))
    -- A failure goes to the waiter of the transaction, whatever it waits for.
    unfold failResponse
    cases found : r.pending.get transactionID with
    | none => exact ⟨_, _, releases_refl _ r⟩
    | some waiter => exact ⟨_, _, hand_releases _ found (by simp)⟩
  | stopReceiver err =>
    cases accepted
    exact .inr (.inr (.inr ⟨_, _, r.stopReceiver_releases _ err⟩))
  | closeLease lease =>
    cases accepted
    exact .inr (.inr (.inr ⟨_, _, r.closeLease_releases _ lease⟩))
  | send s =>
    -- A send needs room on its channel.
    simp only [step, send] at accepted
    split at accepted
    · rename_i member
      obtain ⟨chan, sent, rfl⟩ := Option.map_eq_some_iff.mp accepted
      obtain ⟨-, room, rfl⟩ := Chan.send?_eq_some.mp sent
      exact .inr (.inl ⟨s, rfl, member, room, rfl⟩)
    · cases accepted
  | receive ch =>
    simp only [step, receive] at accepted
    split at accepted
    · cases accepted
    · exact .inr (.inr (.inl ⟨ch, rfl, by simpa using accepted.symm⟩))

/-- A channel on which something is still to be sent, or that nobody has yet. -/
def Unsent (r : Responses) (ch : ChanID) : Prop :=
  r.registered.length ≤ ch ∨ (∃ transactionID waiter, r.pending.get transactionID = some waiter ∧ waiter.ch = ch) ∨
    ∃ s ∈ r.sends, s.ch = ch

/-- A message goes to the waiter that it answers. -/
def Addressed (r : Responses) (ch : ChanID) (result : ResponseResult) : Prop :=
  ∀ data, result = .data data → ∃ waiter, r.registered[ch]? = some (transactionIDOf data, waiter) ∧
    waiter.matches (messageTypeOf data) data = true

/-- What holds of the responses in every run. -/
structure Sound (r : Responses) : Prop where
  /-- A waiter's channel is its place among the registered. -/
  named : ∀ ch transactionID (waiter : ResponseWaiter),
    r.registered[ch]? = some (transactionID, waiter) → waiter.ch = ch
  /-- Every pending waiter is registered under its own channel. -/
  listed : ∀ transactionID waiter, r.pending.get transactionID = some waiter →
    r.registered[waiter.ch]? = some (transactionID, waiter)
  /-- At most one result is on its way to a channel, and none to a pending waiter. -/
  distinct : (r.sends.map ResponseSend.ch).Nodup
  apart : ∀ transactionID waiter, r.pending.get transactionID = some waiter →
    ∀ s ∈ r.sends, s.ch ≠ waiter.ch
  known : ∀ s ∈ r.sends, s.ch < r.registered.length
  unsent : ∀ ch, r.Unsent ch → r.chans ch = Chan.make 1
  once : ∀ ch, (r.chans ch).sent.length ≤ 1
  /-- Every message is sent to the waiter it answers. -/
  sending : ∀ s ∈ r.sends, r.Addressed s.ch s.result
  sent : ∀ ch, ∀ result ∈ (r.chans ch).sent, r.Addressed ch result

/-- A new client's responses. -/
theorem sound_init : Sound {} where
  named := by simp
  listed := by simp
  distinct := List.nodup_nil
  apart := by simp
  known := by simp
  unsent := fun _ _ => rfl
  once := by simp
  sending := by simp
  sent := by simp

/-- Pending waiters with the same channel are the same. -/
theorem Sound.entry_eq {r : Responses} (sound : r.Sound) {one other : UInt32 × ResponseWaiter}
    (first : r.pending.get one.1 = some one.2) (second : r.pending.get other.1 = some other.2)
    (same : one.2.ch = other.2.ch) : one = other := by
  have left := sound.listed _ _ first
  rw [same, sound.listed _ _ second] at left
  exact (Option.some.inj left).symm

/-- The channel of a pending waiter has been given out. -/
theorem Sound.ch_lt {r : Responses} (sound : r.Sound) {transactionID : UInt32} {waiter : ResponseWaiter}
    (pending : r.pending.get transactionID = some waiter) : waiter.ch < r.registered.length :=
  (List.getElem?_eq_some_iff.mp (sound.listed _ _ pending)).1

/-- Registering a waiter keeps the responses sound. -/
theorem Sound.register {r : Responses} (sound : r.Sound) {transactionID : UInt32}
    (messageType : MessageType) (command : Option Command) (owner : Option Lease)
    (free : r.pending.get transactionID = none) :
    (r.register transactionID messageType command owner).Sound := by
  -- Every old result is still for a waiter that was registered.
  have addressed {ch : ChanID} {result : ResponseResult} (before : r.Addressed ch result) :
      (r.register transactionID messageType command owner).Addressed ch result := by
    intro data made
    obtain ⟨waiter, found, answered⟩ := before data made
    exact ⟨waiter, List.getElem?_append_left (List.getElem?_eq_some_iff.mp found).1 ▸ found, answered⟩
  -- A pending waiter is the new one or an old one.
  have pending {t : UInt32} {waiter : ResponseWaiter}
      (found : (r.register transactionID messageType command owner).pending.get t = some waiter) :
      (t = transactionID ∧ waiter = { messageType, command, ch := r.registered.length, owner }) ∨
        r.pending.get t = some waiter := by
    simp only [Responses.register, GoMap.get_set] at found
    split at found
    · rename_i same
      exact .inl ⟨same, (Option.some.inj found).symm⟩
    · exact .inr found
  refine { distinct := sound.distinct, once := sound.once
           sending := fun s member => addressed (sound.sending s member)
           sent := fun ch result member => addressed (sound.sent ch result member)
           named := ?_, listed := ?_, apart := ?_, known := ?_, unsent := ?_ }
  · intro ch t waiter found
    rw [Responses.register] at found
    obtain old | new := Nat.lt_or_ge ch r.registered.length
    · rw [List.getElem?_append_left old] at found
      exact sound.named _ _ _ found
    · -- Behind the earlier waiters there is only the new one.
      have bound := (List.getElem?_eq_some_iff.mp found).1
      rw [List.length_append, List.length_singleton] at bound
      obtain rfl : ch = r.registered.length := Nat.le_antisymm (Nat.lt_succ_iff.mp bound) new
      rw [List.getElem?_concat_length] at found
      cases found
      rfl
  · -- The new waiter is registered last.
    intro t waiter found
    obtain ⟨rfl, rfl⟩ | old := pending found
    · simp [Responses.register]
    · have before := sound.listed t waiter old
      exact List.getElem?_append_left (List.getElem?_eq_some_iff.mp before).1 ▸ before
  · -- A send in flight is for an older waiter.
    intro t waiter found s member
    obtain ⟨rfl, rfl⟩ | old := pending found
    · exact Nat.ne_of_lt (sound.known s member)
    · exact sound.apart t waiter old s member
  · intro s member
    simp only [Responses.register, List.length_append, List.length_singleton]
    exact Nat.lt_succ_of_lt (sound.known s member)
  · -- The channel of the new waiter has not been made before.
    rintro ch (unmade | ⟨t, waiter, found, rfl⟩ | inFlight)
    · simp only [Responses.register, List.length_append, List.length_singleton] at unmade
      exact sound.unsent ch (.inl (by omega))
    · obtain ⟨rfl, rfl⟩ | old := pending found
      · exact sound.unsent _ (.inl (Nat.le_refl _))
      · exact sound.unsent _ (.inr (.inl ⟨t, waiter, old, rfl⟩))
    · exact sound.unsent ch (.inr (.inr inFlight))

/-- Performing a send keeps the responses sound. -/
theorem Sound.send {r : Responses} (sound : r.Sound) {s : ResponseSend} (member : s ∈ r.sends) :
    Sound { r with chans := Function.update r.chans s.ch ((r.chans s.ch).push s.result)
                   sends := r.sends.erase s } := by
  -- Nothing has been sent on the channel, since its send is in flight.
  have fresh := sound.unsent s.ch (.inr (.inr ⟨s, member, rfl⟩))
  have fewer {x : ResponseSend} (left : x ∈ r.sends.erase s) : x ∈ r.sends := List.mem_of_mem_erase left
  -- No other send is for the same channel, so none is left for it.
  have others {x : ResponseSend} (left : x ∈ r.sends.erase s) : x.ch ≠ s.ch := by
    intro same
    have one := List.inj_on_of_nodup_map sound.distinct (fewer left) member same
    exact (List.Nodup.mem_erase_iff (sound.distinct.of_map _)).mp left |>.1 one
  refine { named := sound.named, listed := sound.listed
           distinct := sound.distinct.sublist (List.Sublist.map _ List.erase_sublist)
           apart := fun t waiter found x left => sound.apart t waiter found x (fewer left)
           known := fun x left => sound.known x (fewer left)
           sending := fun x left => sound.sending x (fewer left)
           unsent := ?_, once := ?_, sent := ?_ }
  · -- The channel of the send is neither new, nor of a pending waiter, nor of another send.
    rintro ch unsent
    have different : ch ≠ s.ch := by
      rintro rfl
      obtain unmade | ⟨t, waiter, found, same⟩ | ⟨x, left, same⟩ := unsent
      · exact absurd (sound.known s member) (Nat.not_lt.mpr unmade)
      · exact sound.apart t waiter found s member same.symm
      · exact others left same
    simp only [Function.update_of_ne different]
    obtain unmade | pending | ⟨x, left, same⟩ := unsent
    · exact sound.unsent ch (.inl unmade)
    · exact sound.unsent ch (.inr (.inl pending))
    · exact sound.unsent ch (.inr (.inr ⟨x, fewer left, same⟩))
  · -- The result is the first on its channel.
    intro ch
    by_cases same : ch = s.ch
    · subst same
      simp [fresh]
    · simpa [Function.update_of_ne same] using sound.once ch
  · -- The new result is the one that was in flight.
    intro ch result inside
    by_cases same : ch = s.ch
    · subst same
      simp only [Function.update_self, fresh, Chan.push_sent, Chan.make_sent, List.nil_append,
        List.mem_singleton] at inside
      subst inside
      exact sound.sending s member
    · simp only [Function.update_of_ne same] at inside
      exact sound.sent ch result inside

/-- Receiving keeps the responses sound. -/
theorem Sound.receive {r : Responses} (sound : r.Sound) (ch : ChanID) :
    Sound { r with chans := Function.update r.chans ch (r.chans ch).pop } := by
  -- The history of what was sent does not change.
  have sent (other : ChanID) : (Function.update r.chans ch (r.chans ch).pop other).sent =
      (r.chans other).sent := by
    by_cases same : other = ch
    · subst same
      simp
    · simp [Function.update_of_ne same]
  refine { named := sound.named, listed := sound.listed, distinct := sound.distinct, apart := sound.apart
           known := sound.known, sending := sound.sending, unsent := ?_, once := ?_, sent := ?_ }
  · -- A channel on which nothing was sent has nothing to be received.
    intro other unsent
    have before := sound.unsent other unsent
    by_cases same : other = ch
    · subst same
      simp only [Function.update_self, before]
      rfl
    · simpa [Function.update_of_ne same] using before
  · intro other
    rw [sent]
    exact sound.once other
  · intro other result inside
    rw [sent] at inside
    exact sound.sent other result inside

/-- Taking waiters out for a result keeps the responses sound. -/
theorem Sound.releases {e : ResponseEvent} {r r' : Responses} {taken : List (UInt32 × ResponseWaiter)}
    {result : ResponseResult} (sound : r.Sound) (released : Releases e r r' taken result) : r'.Sound := by
  -- A taken waiter was pending, so nothing was sent to it.
  have fresh {ch : ChanID} (unsent : r'.Unsent ch) : r.Unsent ch := by
    obtain unmade | ⟨t, waiter, found, same⟩ | ⟨s, member, same⟩ := unsent
    · exact .inl (released.registered ▸ unmade)
    · exact .inr (.inl ⟨t, waiter, released.kept _ _ found, same⟩)
    · rw [released.sends, List.mem_append] at member
      obtain old | new := member
      · exact .inr (.inr ⟨s, old, same⟩)
      · obtain ⟨entry, inside, rfl⟩ := List.mem_map.mp new
        exact .inr (.inl ⟨entry.1, entry.2, released.pending entry inside, same⟩)
  refine { named := by rw [released.registered]; exact sound.named
           listed := ?_, distinct := ?_, apart := ?_, known := ?_, unsent := ?_, once := ?_
           sending := ?_, sent := ?_ }
  · intro t waiter found
    rw [released.registered]
    exact sound.listed _ _ (released.kept _ _ found)
  · -- The channels of the sends in flight stay distinct.
    rw [released.sends, List.map_append, List.nodup_append]
    refine ⟨sound.distinct, ?_, ?_⟩
    · -- Pending waiters have channels of their own.
      rw [List.map_map]
      refine released.nodup.map_on ?_
      intro one first other second same
      exact sound.entry_eq (released.pending _ first) (released.pending _ second) same
    · -- A send in flight is not for a pending waiter.
      rintro ch old new fresh rfl
      obtain ⟨s, member, rfl⟩ := List.mem_map.mp old
      rw [List.map_map] at fresh
      obtain ⟨entry, inside, same⟩ := List.mem_map.mp fresh
      exact sound.apart _ _ (released.pending entry inside) s member same.symm
  · -- Nor is a new send for one that is still pending.
    intro t waiter found s member same
    rw [released.sends, List.mem_append] at member
    obtain old | new := member
    · exact sound.apart _ _ (released.kept _ _ found) s old same
    · obtain ⟨entry, inside, rfl⟩ := List.mem_map.mp new
      have one : entry = (t, waiter) :=
        sound.entry_eq (released.pending entry inside) (released.kept _ _ found) same
      subst one
      simp [released.removed _ inside] at found
  · -- The new sends are for registered waiters.
    intro s member
    rw [released.registered]
    rw [released.sends, List.mem_append] at member
    obtain old | new := member
    · exact sound.known s old
    · obtain ⟨entry, inside, rfl⟩ := List.mem_map.mp new
      exact sound.ch_lt (released.pending entry inside)
  · intro ch unsent
    rw [released.chans]
    exact sound.unsent ch (fresh unsent)
  · rw [released.chans]
    exact sound.once
  · -- A response is sent to a waiter only that it answers.
    intro s member data made
    rw [released.registered]
    rw [released.sends, List.mem_append] at member
    obtain old | new := member
    · exact sound.sending s old data made
    · obtain ⟨entry, inside, rfl⟩ := List.mem_map.mp new
      obtain ⟨named, answered⟩ := released.answers data made entry inside
      rw [← named]
      exact ⟨entry.2, sound.listed _ _ (released.pending entry inside), answered⟩
  · intro ch result inside data made
    rw [released.registered]
    rw [released.chans] at inside
    exact sound.sent ch result inside data made

/-- Every step keeps the responses sound. -/
theorem Sound.step {r r' : Responses} {e : ResponseEvent} (sound : r.Sound)
    (accepted : r.step e = some r') : r'.Sound := by
  obtain ⟨_, _, _, _, -, free, rfl⟩ | ⟨s, -, member, -, rfl⟩ | ⟨ch, -, rfl⟩ | ⟨_, _, released⟩ :=
    step_cases accepted
  · exact sound.register _ _ _ free
  · exact sound.send member
  · exact sound.receive ch
  · exact sound.releases released

/-- Every result on its way finds room, so no send blocks. -/
theorem Sound.send_accepted {r : Responses} (sound : r.Sound) {s : ResponseSend} (member : s ∈ r.sends) :
    (r.step (.send s)).isSome := by
  have fresh := sound.unsent s.ch (.inr (.inr ⟨s, member, rfl⟩))
  simp [Responses.step, Responses.send, member, fresh, Chan.send?, Chan.hasRoom, Chan.make]

/-- A result that a waiter has been given, or that is on its way to it. -/
def Given (r : Responses) (s : ResponseSend) : Prop := s ∈ r.sends ∨ (r.chans s.ch).sent = [s.result]

/-- A result that is given is on its way or has arrived, and no other is. -/
theorem Sound.given_once {r : Responses} (sound : r.Sound) {s : ResponseSend} (given : r.Given s) :
    (s ∈ r.sends ∧ (r.chans s.ch).sent = []) ∨
      ((r.chans s.ch).sent = [s.result] ∧ ∀ x ∈ r.sends, x.ch ≠ s.ch) := by
  rcases given with inFlight | sent
  · -- A channel with a result on its way is still unused.
    refine .inl ⟨inFlight, ?_⟩
    rw [sound.unsent s.ch (.inr (.inr ⟨s, inFlight, rfl⟩))]
    rfl
  · refine .inr ⟨sent, ?_⟩
    intro x member same
    rw [sound.unsent s.ch (.inr (.inr ⟨x, member, same⟩))] at sent
    cases sent

/-- What a waiter has been given stays given. -/
theorem Sound.given_step {r r' : Responses} {e : ResponseEvent} (sound : r.Sound)
    (accepted : r.step e = some r') {s : ResponseSend} (given : r.Given s) : r'.Given s := by
  obtain ⟨_, _, _, _, -, free, rfl⟩ | ⟨x, -, member, -, rfl⟩ | ⟨ch, -, rfl⟩ | ⟨_, _, released⟩ :=
    step_cases accepted
  · -- Registering leaves channels and sends alone.
    exact given
  · -- The send performed is this one, or one on another channel.
    by_cases same : s.ch = x.ch
    · have fresh := sound.unsent x.ch (.inr (.inr ⟨x, member, rfl⟩))
      obtain inFlight | sent := given
      · obtain rfl := List.inj_on_of_nodup_map sound.distinct inFlight member same
        exact .inr (by simp [fresh])
      · simp [same, fresh] at sent
    · obtain inFlight | sent := given
      · exact .inl ((List.mem_erase_of_ne fun one => same (congrArg _ one)).mpr inFlight)
      · exact .inr (by simpa [Function.update_of_ne same] using sent)
  · -- Receiving leaves the history alone.
    obtain inFlight | sent := given
    · exact .inl inFlight
    · refine .inr ?_
      by_cases same : s.ch = ch
      · subst same
        simpa using sent
      · simpa [Function.update_of_ne same] using sent
  · -- Taking waiters out only adds sends.
    obtain inFlight | sent := given
    · exact .inl (by rw [released.sends]; exact List.mem_append_left _ inFlight)
    · exact .inr (by rw [released.chans]; exact sent)

end Responses

end Wwan.Mbim
