import Mathlib.Data.List.Count
import Wwan.DirectPool

/-! The entries of a pool live one after the other under their key, each with one connection and as many references as
leases. -/

namespace Wwan.DirectPool

variable {K : Type}

/-! The life of an entry. -/

/-- How far an entry is. -/
inductive Life where
  /-- Without a connection yet. -/
  | dialing
  /-- With a connection that is not offered yet. -/
  | opening
  /-- Given up, and still in the map. -/
  | withdrawing
  /-- Offered. -/
  | serving
  /-- No longer offered. -/
  | closing
  /-- With a closed connection, and still in the map. -/
  | unlinking
  /-- No longer in the map. -/
  | gone
  deriving DecidableEq

/-- The entry is not offered yet. -/
structure Entry.Unopened (x : Entry K) : Prop where
  published : x.published = false
  closing : x.closing = false
  openingCloses : x.openingCloses = 0
  closedCloses : x.closedCloses = 0
  refs : x.refs = 0

/-- The entry is or was offered, and is still in the map. -/
structure Entry.Opened (x : Entry K) : Prop where
  published : x.published = true
  dialed : x.dialed = true
  openingCloses : x.openingCloses = 1
  closedCloses : x.closedCloses = 0

/-- No lease can use the connection of the entry, and none was released without being counted. -/
structure Entry.Spare (x : Entry K) (held : Nat) : Prop where
  unused : x.failed = true ∨ held = 0
  counted : held ≤ x.refs

/-- What an entry is like in each part of its life, given whether it is in the map and how many leases it has. -/
def Life.Describes (x : Entry K) (here : Prop) (held : Nat) : Life → Prop
  | .dialing => here ∧ x.Unopened ∧ x.dialed = false ∧ x.connCloses = 0 ∧ x.shut = false ∧ held = 0
  | .opening => here ∧ x.Unopened ∧ x.dialed = true ∧ x.connCloses = 0 ∧ x.shut = false ∧ held = 0
  | .withdrawing => here ∧ x.Unopened ∧ x.connCloses = x.dialed.toNat ∧ held = 0
  | .serving => here ∧ x.Opened ∧ x.closing = false ∧ x.connCloses = 0 ∧ x.shut = false ∧ x.refs = held ∧ 0 < held
  | .closing =>
    here ∧ x.Opened ∧ x.closing = true ∧ x.connCloses = 0 ∧ x.shut = false ∧ x.Spare held
  | .unlinking => here ∧ x.Opened ∧ x.closing = true ∧ x.connCloses = 1 ∧ x.Spare held
  | .gone =>
    ¬ here ∧ x.openingCloses = 1 ∧ x.closedCloses = 1 ∧ x.connCloses = x.dialed.toNat ∧ x.Spare held

/-- The entry that a call alone takes further, and how far it is. -/
def Phase.owns : Phase K → Option (EntryID × Life)
  | .dialing e => some (e, .dialing)
  | .initializing e | .publishing e | .abandoning e => some (e, .opening)
  | .withdrawing e => some (e, .withdrawing)
  | .closing e _ => some (e, .closing)
  | .unlinking e _ => some (e, .unlinking)
  | .idle | .looking _ | .awaitingOpening _ _ | .awaitingClosed _ _ | .connecting _ | .releasing _ | .returned _ => none

/-- No call owns an entry that is offered or gone. -/
theorem Phase.life_of_owns {phase : Phase K} {e : EntryID} {l : Life} (owns : phase.owns = some (e, l)) :
    l ≠ .serving ∧ l ≠ .gone := by
  cases phase <;> simp_all [Phase.owns] <;> simp [← owns.2]

/-- Where a call is that takes an entry further. -/
theorem Phase.eq_of_owns {phase : Phase K} {e : EntryID} {l : Life} (owns : phase.owns = some (e, l)) :
    match l with
    | .dialing => phase = .dialing e
    | .opening => phase = .initializing e ∨ phase = .publishing e ∨ phase = .abandoning e
    | .withdrawing => phase = .withdrawing e
    | .closing => ∃ resume, phase = .closing e resume
    | .unlinking => ∃ resume, phase = .unlinking e resume
    | .serving | .gone => False := by
  -- The phase names the entry that it owns, and so its stage.
  cases phase with
  | idle | looking | awaitingOpening | awaitingClosed | connecting | releasing | returned => cases owns
  | dialing e' | initializing e' | publishing e' | abandoning e' | withdrawing e' =>
    cases owns
    simp
  | closing e' resume =>
    cases owns
    exact ⟨resume, rfl⟩
  | unlinking e' resume =>
    cases owns
    exact ⟨resume, rfl⟩

/-- An entry of the map that is set and is not being closed is offered. -/
theorem Life.eq_serving {x : Entry K} {l : Life} {here : Prop} {held : Nat} (describes : l.Describes x here held) (inMap : here)
    (published : x.published = true) (open_ : x.closing = false) : l = .serving := by
  cases l with
  | dialing | opening | withdrawing =>
    obtain ⟨-, unopened, -⟩ := describes
    rw [unopened.published] at published
    cases published
  | serving => rfl
  | closing | unlinking =>
    obtain ⟨-, -, closing, -⟩ := describes
    rw [closing] at open_
    cases open_
  | gone => exact absurd inMap describes.1

/-- With fewer leases a connection is no less spare. -/
theorem Entry.Spare.fewer {x : Entry K} {held fewer : Nat} (spare : x.Spare held) (less : fewer ≤ held) :
    x.Spare fewer :=
  ⟨spare.unused.imp_right fun none => by omega, Int.le_trans (Int.ofNat_le.mpr less) spare.counted⟩

/-- An entry with fewer leases is still what it was, unless it is offered. -/
theorem Life.fewer {x : Entry K} {l : Life} {here : Prop} {held fewer : Nat} (describes : l.Describes x here held)
    (notServing : l ≠ .serving) (less : fewer ≤ held) : l.Describes x here fewer := by
  -- An entry that nobody holds is still held by nobody.
  have none_of_none : held = 0 → fewer = 0 := fun none => by omega
  -- Only an entry in service counts its leases exactly.
  cases l with
  | dialing =>
    obtain ⟨here, unopened, dialed, connCloses, shut, unheld⟩ := describes
    exact ⟨here, unopened, dialed, connCloses, shut, none_of_none unheld⟩
  | opening =>
    obtain ⟨here, unopened, dialed, connCloses, shut, unheld⟩ := describes
    exact ⟨here, unopened, dialed, connCloses, shut, none_of_none unheld⟩
  | withdrawing =>
    obtain ⟨here, unopened, connCloses, unheld⟩ := describes
    exact ⟨here, unopened, connCloses, none_of_none unheld⟩
  | serving => exact absurd rfl notServing
  | closing =>
    obtain ⟨here, opened, closing, connCloses, shut, spare⟩ := describes
    exact ⟨here, opened, closing, connCloses, shut, spare.fewer less⟩
  | unlinking =>
    obtain ⟨here, opened, closing, connCloses, spare⟩ := describes
    exact ⟨here, opened, closing, connCloses, spare.fewer less⟩
  | gone =>
    obtain ⟨gone, openingCloses, closedCloses, connCloses, spare⟩ := describes
    exact ⟨gone, openingCloses, closedCloses, connCloses, spare.fewer less⟩

/-- The entry is where it stays without a call: offered, or gone. -/
def Life.Still (l : Life) : Prop := l = .serving ∨ l = .gone

namespace State

/-- The leases of an entry. -/
def held (s : State K) (e : EntryID) : Nat := s.leases.countP (·.entry = e)

/-- A call that goes on owns what it owned, and so does every other. -/
theorem owns_update {s : State K} {c : CallID} {phase : Phase K} (owns : phase.owns = (s.calls c).owns) (c' : CallID) :
    (Function.update s.calls c phase c').owns = (s.calls c').owns := by
  by_cases same : c' = c
  · rw [same, Function.update_self, owns]
  · rw [Function.update_of_ne same]

/-- A lease that is handed out counts for its entry. -/
theorem held_lease (s : State K) (c : CallID) (e : EntryID) (phase : Lease → Phase K) (e' : EntryID) :
    (s.lease c e phase).held e' = s.held e' + if e = e' then 1 else 0 := by
  simp [State.lease, State.goto, State.held, List.countP_cons]

/-- A lease that is released no longer counts for its entry. -/
theorem held_erase {s : State K} {lease : Lease} (member : lease ∈ s.leases) (e' : EntryID) :
    (s.leases.erase lease).countP (·.entry = e') = s.held e' - if lease.entry = e' then 1 else 0 := by
  rw [State.held, List.countP_erase]
  simp [member]

/-- An entry with a lease is counted. -/
theorem held_pos {s : State K} {lease : Lease} (member : lease ∈ s.leases) : 0 < s.held lease.entry := by
  rw [State.held, List.countP_pos_iff]
  exact ⟨lease, member, by simp⟩

variable [DecidableEq K]

/-- Every entry is as its part of life says, and one call takes it further where it does not stay. -/
structure Sound (s : State K) (life : EntryID → Option Life) : Prop where
  fresh : ∀ e, s.nextEntry ≤ e → life e = none
  unborn : ∀ e, life e = none → s.entry e = none ∧ s.held e = 0
  born : ∀ e l, life e = some l →
    ∃ x, s.entry e = some x ∧ l.Describes x (s.entries.get x.key = some e) (s.held e)
  keyed : ∀ k e, s.entries.get k = some e → ∃ x, s.entry e = some x ∧ x.key = k
  owned : ∀ c e l, (s.calls c).owns = some (e, l) → life e = some l
  tended : ∀ e l, life e = some l → l.Still ∨ ∃ c, (s.calls c).owns = some (e, l)
  sole : ∀ c c' e l l', (s.calls c).owns = some (e, l) → (s.calls c').owns = some (e, l') → c = c'

variable {s s' : State K} {life : EntryID → Option Life} {kind : Kind} {c : CallID} {e : EntryID} {x : Entry K}

/-- What an entry is like, from the entry. -/
theorem Sound.describes (sound : s.Sound life) (known : s.entry e = some x) :
    ∃ l, life e = some l ∧ l.Describes x (s.entries.get x.key = some e) (s.held e) := by
  cases lives : life e with
  | none =>
    rw [(sound.unborn e lives).1] at known
    cases known
  | some l =>
    obtain ⟨y, found, describes⟩ := sound.born e l lives
    rw [known] at found
    cases found
    exact ⟨l, rfl, describes⟩

/-- What an entry is like, from the call that takes it further. -/
theorem Sound.describes_owned (sound : s.Sound life) {l : Life} (owns : (s.calls c).owns = some (e, l))
    (known : s.entry e = some x) : l.Describes x (s.entries.get x.key = some e) (s.held e) := by
  obtain ⟨l', lives, describes⟩ := sound.describes known
  rw [sound.owned c e l owns] at lives
  cases lives
  exact describes

/-- An entry has been made. -/
theorem Sound.made (sound : s.Sound life) (known : s.entry e = some x) : e < s.nextEntry := by
  obtain ⟨l, lives, -⟩ := sound.describes known
  refine Nat.lt_of_not_le fun beyond => ?_
  rw [sound.fresh e beyond] at lives
  cases lives

/-! Steps that take one entry further. -/

/-- One entry is written to and the others are left alone. -/
structure Touches (s s' : State K) (e : EntryID) (x : Entry K) : Prop where
  nextEntry : s.nextEntry ≤ s'.nextEntry
  made : e < s'.nextEntry
  entry : s'.entry e = some x
  others : ∀ e', e' ≠ e → s'.entry e' = s.entry e'
  mapped : ∀ k, s'.entries.get k = some e → x.key = k
  unmapped : ∀ k e', e' ≠ e → (s'.entries.get k = some e' ↔ s.entries.get k = some e')
  held : ∀ e', e' ≠ e → s'.held e' = s.held e'

/-- An entry that goes on to another part of its life leaves the others as they are. -/
theorem Sound.touch (sound : s.Sound life) {l : Life} (touches : s.Touches s' e x)
    (describes : l.Describes x (s'.entries.get x.key = some e) (s'.held e))
    (mine : ∀ c' l', (s'.calls c').owns = some (e, l') → l' = l)
    (tended : l.Still ∨ ∃ c, (s'.calls c).owns = some (e, l))
    (others : ∀ c' e' l', e' ≠ e → ((s'.calls c').owns = some (e', l') ↔ (s.calls c').owns = some (e', l')))
    (sole : ∀ c₁ c₂ l₁ l₂, (s'.calls c₁).owns = some (e, l₁) → (s'.calls c₂).owns = some (e, l₂) → c₁ = c₂) :
    s'.Sound (Function.update life e (some l)) := by
  have elsewhere : ∀ e', e' ≠ e → Function.update life e (some l) e' = life e' :=
    fun e' different => Function.update_of_ne different _ _
  -- Each part is the hypothesis about the entry, and what held before about any other.
  refine ⟨?_, ?_, ?_, ?_, ?_, ?_, ?_⟩
  · -- A number that is still free was free before.
    intro e' beyond
    have different : e' ≠ e := by
      rintro rfl
      exact absurd touches.made (Nat.not_lt.mpr beyond)
    rw [elsewhere e' different]
    exact sound.fresh e' (le_trans touches.nextEntry beyond)
  · -- What was not made is not described.
    intro e' unborn
    have different : e' ≠ e := by
      rintro rfl
      simp at unborn
    rw [elsewhere e' different] at unborn
    rw [touches.others e' different, touches.held e' different]
    exact sound.unborn e' unborn
  · -- The entry is as described, and the others are as they were.
    intro e' l' lives
    by_cases same : e' = e
    · subst same
      rw [Function.update_self] at lives
      cases lives
      exact ⟨x, touches.entry, describes⟩
    · rw [elsewhere e' same] at lives
      obtain ⟨y, found, describes⟩ := sound.born e' l' lives
      refine ⟨y, by rw [touches.others e' same, found], ?_⟩
      rw [touches.held e' same, touches.unmapped y.key e' same]
      exact describes
  · -- What the map names is known under its key.
    intro k e' found
    by_cases same : e' = e
    · subst same
      exact ⟨x, touches.entry, touches.mapped k found⟩
    · rw [touches.unmapped k e' same] at found
      rw [touches.others e' same]
      exact sound.keyed k e' found
  · -- Whoever owns the entry is at its stage.
    intro c' e' l' owns
    by_cases same : e' = e
    · subst same
      rw [Function.update_self, mine c' l' owns]
    · rw [elsewhere e' same]
      exact sound.owned c' e' l' ((others c' e' l' same).mp owns)
  · -- A stage that does not last has somebody who goes on with it.
    intro e' l' lives
    by_cases same : e' = e
    · subst same
      rw [Function.update_self] at lives
      cases lives
      exact tended
    · rw [elsewhere e' same] at lives
      obtain still | ⟨c', owns⟩ := sound.tended e' l' lives
      · exact .inl still
      · exact .inr ⟨c', (others c' e' l' same).mpr owns⟩
  · -- Nobody shares an entry that he owns.
    intro c₁ c₂ e' l₁ l₂ first second
    by_cases same : e' = e
    · subst same
      exact sole c₁ c₂ l₁ l₂ first second
    · exact sound.sole c₁ c₂ e' l₁ l₂ ((others c₁ e' l₁ same).mp first) ((others c₂ e' l₂ same).mp second)

/-- A call that owns an entry or finds it without an owner takes it further. -/
theorem Sound.advance (sound : s.Sound life) {l : Life} {phase : Phase K} (touches : s.Touches s' e x)
    (describes : l.Describes x (s'.entries.get x.key = some e) (s'.held e))
    (calls : s'.calls = Function.update s.calls c phase)
    (before : ∀ e' l', (s.calls c).owns = some (e', l') → e' = e)
    (unowned : ∀ c' l', c' ≠ c → (s.calls c').owns ≠ some (e, l'))
    (owns : phase.owns = some (e, l) ∨ phase.owns = none ∧ l.Still) :
    s'.Sound (Function.update life e (some l)) := by
  -- Only this call owns the entry, and at this stage.
  have mine : ∀ c' l', (s'.calls c').owns = some (e, l') → c' = c ∧ l' = l := by
    intro c' l' owned
    rw [calls] at owned
    by_cases same : c' = c
    · subst same
      rw [Function.update_self] at owned
      obtain some | ⟨none, -⟩ := owns
      · simp only [some, Option.some.injEq, Prod.mk.injEq, true_and] at owned
        exact ⟨rfl, owned.symm⟩
      · simp [none] at owned
    · rw [Function.update_of_ne same] at owned
      exact absurd owned (unowned c' l' same)
  refine sound.touch touches describes (fun c' l' owned => (mine c' l' owned).2) ?_ ?_
    fun c₁ c₂ l₁ l₂ first second => (mine c₁ l₁ first).1.trans (mine c₂ l₂ second).1.symm
  · -- The call itself owns the entry where it does not stay.
    obtain some | ⟨-, still⟩ := owns
    · exact .inr ⟨c, by rw [calls, Function.update_self, some]⟩
    · exact .inl still
  · -- The call owned no other entry, and owns none now.
    intro c' e' l' different
    rw [calls]
    by_cases same : c' = c
    · subst same
      rw [Function.update_self]
      refine ⟨fun owned => ?_, fun owned => absurd (before e' l' owned) different⟩
      obtain some | ⟨none, -⟩ := owns
      · simp only [some, Option.some.injEq, Prod.mk.injEq] at owned
        exact absurd owned.1.symm different
      · simp [none] at owned
    · rw [Function.update_of_ne same]

/-- A call that owns an entry takes it further. -/
theorem Sound.advance_owned (sound : s.Sound life) {l l₀ : Life} {phase : Phase K}
    (owned : (s.calls c).owns = some (e, l₀)) (touches : s.Touches s' e x)
    (describes : l.Describes x (s'.entries.get x.key = some e) (s'.held e))
    (calls : s'.calls = Function.update s.calls c phase)
    (owns : phase.owns = some (e, l) ∨ phase.owns = none ∧ l.Still) :
    s'.Sound (Function.update life e (some l)) := by
  refine sound.advance touches describes calls ?_ ?_ owns
  · intro e' l' same
    rw [owned, Option.some.injEq, Prod.mk.injEq] at same
    exact same.1.symm
  · exact fun c' l' different other => different (sound.sole c' c e l' l₀ other owned)

/-- A call that owns nothing takes an entry further that is offered or not there. -/
theorem Sound.advance_free (sound : s.Sound life) {l : Life} {phase : Phase K}
    (free : (s.calls c).owns = none) (lives : life e = none ∨ life e = some .serving) (touches : s.Touches s' e x)
    (describes : l.Describes x (s'.entries.get x.key = some e) (s'.held e))
    (calls : s'.calls = Function.update s.calls c phase)
    (owns : phase.owns = some (e, l) ∨ phase.owns = none ∧ l.Still) :
    s'.Sound (Function.update life e (some l)) := by
  refine sound.advance touches describes calls (by simp [free]) ?_ owns
  intro c' l' _ other
  have same := sound.owned c' e l' other
  rw [same] at lives
  exact (Phase.life_of_owns other).1 (by simpa using lives)

/-- An entry is written to and stays in its part of life, and no call owns anything else than before. -/
theorem Sound.rewrite (sound : s.Sound life) {l : Life} (lives : life e = some l) (touches : s.Touches s' e x)
    (describes : l.Describes x (s'.entries.get x.key = some e) (s'.held e))
    (calls : ∀ c', (s'.calls c').owns = (s.calls c').owns) : s'.Sound (Function.update life e (some l)) := by
  refine sound.touch touches describes ?_ ?_ ?_ ?_
  · -- Whoever owns the entry still has its stage.
    intro c' l' owns
    rw [calls] at owns
    have same := sound.owned c' e l' owns
    rw [lives] at same
    exact (Option.some.inj same).symm
  · -- The stage is as much tended as before.
    simpa only [calls] using sound.tended e l lives
  · intro c' e' l' _
    rw [calls]
  · intro c₁ c₂ l₁ l₂ first second
    rw [calls] at first second
    exact sound.sole c₁ c₂ e l₁ l₂ first second

/-- Nothing but a call changes, and it owns what it owned. -/
theorem Sound.goto (sound : s.Sound life) {phase : Phase K} (owns : phase.owns = (s.calls c).owns) :
    (s.goto c phase).Sound life := by
  have same : ∀ c', ((s.goto c phase).calls c').owns = (s.calls c').owns := owns_update owns
  exact { sound with
    owned := fun c' e l owned => sound.owned c' e l (by rwa [same] at owned)
    tended := fun e l lives => by simpa only [same] using sound.tended e l lives
    sole := fun c₁ c₂ e l₁ l₂ first second => by
      rw [same] at first second
      exact sound.sole c₁ c₂ e l₁ l₂ first second }

/-- An entry that keeps its place in the map is written to. -/
theorem Sound.touches (sound : s.Sound life) (known : s.entry e = some x) {y : Entry K}
    (entry : s'.entry = Function.update s.entry e (some y)) (key : y.key = x.key) (nextEntry : s'.nextEntry = s.nextEntry)
    (entries : s'.entries = s.entries) (held : ∀ e', e' ≠ e → s'.held e' = s.held e') : s.Touches s' e y where
  nextEntry := le_of_eq nextEntry.symm
  made := nextEntry ▸ sound.made known
  entry := by rw [entry, Function.update_self]
  others := fun e' different => by rw [entry, Function.update_of_ne different]
  mapped := fun k found => by
    rw [entries] at found
    obtain ⟨z, same, under⟩ := sound.keyed k e found
    rw [known] at same
    cases same
    rw [key, under]
  unmapped := fun k e' _ => by rw [entries]
  held := held

/-- An entry that leaves the map is written to. -/
theorem Sound.touches_delete (sound : s.Sound life) (known : s.entry e = some x) {y : Entry K}
    (here : s.entries.get x.key = some e) (nextEntry : s'.nextEntry = s.nextEntry)
    (entry : s'.entry = Function.update s.entry e (some y)) (entries : s'.entries = s.entries.delete x.key)
    (held : s'.held = s.held) : s.Touches s' e y where
  nextEntry := le_of_eq nextEntry.symm
  made := nextEntry ▸ sound.made known
  entry := by rw [entry, Function.update_self]
  others := fun e' different => by rw [entry, Function.update_of_ne different]
  mapped := fun k found => by
    -- The entry was under its own key only, and that key is deleted.
    rw [entries, GoMap.get_delete] at found
    split at found
    · cases found
    · rename_i different
      obtain ⟨z, same, under⟩ := sound.keyed k e found
      rw [known] at same
      cases same
      exact absurd under.symm different
  unmapped := fun k e' different => by
    rw [entries, GoMap.get_delete]
    split
    · rename_i same
      rw [same, here]
      simp [Ne.symm different]
    · rfl
  held := fun e' _ => by rw [held]

/-! What `acquire` finds. -/

/-- A lease is handed out on an entry that is offered. -/
theorem Sound.share (sound : s.Sound life) (free : (s.calls c).owns = none) (known : s.entry e = some x)
    (lives : life e = some .serving) {phase : Lease → Phase K} (owns : ∀ lease, (phase lease).owns = none) :
    ((s.write e { x with refs := x.refs + 1 }).lease c e phase).Sound (Function.update life e (some .serving)) := by
  obtain ⟨l, same, describes⟩ := sound.describes known
  rw [lives] at same
  cases same
  -- The entry serves, and has one lease more.
  obtain ⟨here, opened, closing, connCloses, shut, refs, pos⟩ := describes
  have held := held_lease (s.write e { x with refs := x.refs + 1 }) c e phase
  refine sound.advance_free free (.inr lives) (sound.touches known rfl rfl rfl rfl ?_) ?_ rfl
    (.inr ⟨owns _, .inl rfl⟩)
  · -- The leases of other entries are the same.
    intro e' different
    rw [held, if_neg (Ne.symm different)]
    rfl
  · -- The references are counted with it.
    rw [held, if_pos rfl]
    refine ⟨here, ⟨opened.published, opened.dialed, opened.openingCloses, opened.closedCloses⟩, closing, connCloses,
      shut, ?_, Nat.succ_pos _⟩
    rw [refs, Nat.cast_add]
    rfl

/-- An entry whose connection is lost is no longer offered. -/
theorem Sound.discard (sound : s.Sound life) (free : (s.calls c).owns = none) (known : s.entry e = some x)
    (lives : life e = some .serving) (lost : x.available = false) (resume : Option K) :
    ((s.write e { x with closing := true }).goto c (.closing e resume)).Sound
      (Function.update life e (some .closing)) := by
  obtain ⟨l, same, describes⟩ := sound.describes known
  rw [lives] at same
  cases same
  obtain ⟨here, opened, closing, connCloses, shut, refs, pos⟩ := describes
  have failed : x.failed = true := by simpa [Entry.available, shut] using lost
  refine sound.advance_free free (.inr lives) (sound.touches known rfl rfl rfl rfl fun _ _ => rfl) ?_ rfl (.inl rfl)
  exact ⟨here, ⟨opened.published, opened.dialed, opened.openingCloses, opened.closedCloses⟩, rfl, connCloses, shut,
    .inl failed, Int.le_of_eq refs.symm⟩

/-- A call that finds an entry in the map waits for it, shares it or discards it. -/
theorem Sound.found (sound : s.Sound life) {key : K} (looking : s.calls c = .looking key)
    (under : s.entries.get key = some e) (known : s.entry e = some x) :
    ∃ life', (s.found kind c key e x).Sound life' := by
  have free : (s.calls c).owns = none := by
    rw [looking]
    rfl
  -- The entry is being closed, or opened, or serves.
  rw [State.found]
  split
  · exact ⟨life, sound.goto free.symm⟩
  · rename_i open_
    split
    · rename_i published
      obtain ⟨y, same, rfl⟩ := sound.keyed key e under
      rw [known] at same
      cases same
      -- An entry under its key that is open and published is in service.
      obtain ⟨l, lives, describes⟩ := sound.describes known
      cases Life.eq_serving describes under published (Bool.eq_false_iff.mpr open_)
      split
      · -- It is shared.
        cases kind with
        | qmi => exact ⟨_, sound.share free known lives fun _ => rfl⟩
        | mbim => exact ⟨_, sound.share free known lives fun _ => rfl⟩
      · -- Its connection was lost, and it is given up.
        rename_i lost
        exact ⟨_, sound.discard free known lives (Bool.eq_false_iff.mpr lost) _⟩
    · exact ⟨life, sound.goto free.symm⟩

/-- A call that finds no entry makes one. -/
theorem Sound.make (sound : s.Sound life) {key : K} (free : (s.calls c).owns = none)
    (absent : s.entries.get key = none) :
    (({ s with entries := s.entries.set key s.nextEntry, nextEntry := s.nextEntry + 1 }.write s.nextEntry { key }).goto c
      (.dialing s.nextEntry)).Sound (Function.update life s.nextEntry (some .dialing)) := by
  -- The number of the new entry is used by nobody.
  have unborn := sound.fresh s.nextEntry le_rfl
  obtain ⟨unwritten, unheld⟩ := sound.unborn _ unborn
  refine sound.advance_free (x := { key }) free (.inl unborn) ?_ ?_ rfl (.inl rfl)
  · refine ⟨Nat.le_succ _, Nat.lt_succ_self _, Function.update_self .., ?_, ?_, ?_, fun _ _ => rfl⟩
    · exact fun e' different => Function.update_of_ne different _ _
    · -- The number of the new entry is under no other key, since nothing is known of it.
      intro k found
      simp only [State.goto, State.write, GoMap.get_set] at found
      split at found
      · rename_i same
        exact same.symm
      · obtain ⟨y, known, -⟩ := sound.keyed k _ found
        rw [unwritten] at known
        cases known
    · intro k e' different
      simp only [State.goto, State.write, GoMap.get_set]
      split
      · rename_i same
        rw [same, absent]
        simp [Ne.symm different]
      · rfl
  · refine ⟨?_, ⟨rfl, rfl, rfl, rfl, rfl⟩, rfl, rfl, rfl, unheld⟩
    simp [State.goto, State.write]

/-- The first locked part of `acquire`. -/
theorem Sound.look (sound : s.Sound life) {key : K} (looking : s.calls c = .looking key)
    (accepted : s.look kind c key = some s') : ∃ life', s'.Sound life' := by
  -- There is no entry under the key, or one that was found.
  rw [State.look] at accepted
  cases under : s.entries.get key with
  | none =>
    simp only [under, Option.some.injEq] at accepted
    subst accepted
    refine ⟨_, sound.make ?_ under⟩
    rw [looking]
    rfl
  | some e =>
    obtain ⟨x, known, -⟩ := sound.keyed key e under
    simp only [under, known, Option.map_some, Option.some.injEq] at accepted
    subst accepted
    exact sound.found looking under known

/-! How `acquire` opens an entry. -/

/-- A call whose entry has not been set yet takes it further, with no lease on it. -/
theorem Sound.open_ (sound : s.Sound life) {l₀ l : Life} (owned : (s.calls c).owns = some (e, l₀))
    (known : s.entry e = some x) (y : Entry K) (key : y.key = x.key) (phase : Phase K)
    (owns : phase.owns = some (e, l)) (describes : l.Describes y (s.entries.get y.key = some e) (s.held e)) :
    ((s.write e y).goto c phase).Sound (Function.update life e (some l)) :=
  sound.advance_owned owned (sound.touches known rfl key rfl rfl fun _ _ => rfl) describes rfl (.inl owns)

/-- The dialer returns. -/
theorem Sound.dial (sound : s.Sound life) (dialing : s.calls c = .dialing e) (known : s.entry e = some x) (ok : Bool) :
    ∃ life', (if ok then (s.write e { x with dialed := true }).goto c (.initializing e)
      else s.goto c (.withdrawing e)).Sound life' := by
  have owned : (s.calls c).owns = some (e, .dialing) := by
    rw [dialing]
    rfl
  obtain ⟨here, unopened, undialed, connCloses, shut, unheld⟩ := sound.describes_owned owned known
  cases ok with
  -- The connection is there, and the entry goes on to be initialized.
  | true =>
    refine ⟨_, sound.open_ owned known { x with dialed := true } rfl (.initializing e) rfl ?_⟩
    exact ⟨here, ⟨unopened.published, unopened.closing, unopened.openingCloses, unopened.closedCloses,
      unopened.refs⟩, rfl, connCloses,
      shut, unheld⟩
  | false =>
    -- Without a connection nothing is written, and there is nothing to close.
    have same : s.entry = Function.update s.entry e (some x) := (Function.update_eq_self_iff.mpr known.symm).symm
    refine ⟨_, sound.advance_owned (l := .withdrawing) owned (sound.touches known same rfl rfl rfl fun _ _ => rfl) ?_ rfl
      (.inl rfl)⟩
    exact ⟨here, unopened, by rw [connCloses, undialed]; rfl, unheld⟩

/-- The connection is set, with the first lease on it. -/
theorem Sound.publish (sound : s.Sound life) (publishing : s.calls c = .publishing e) (known : s.entry e = some x) :
    ((s.write e { x with published := true, refs := 1, openingCloses := x.openingCloses + 1 }).lease c e
      fun lease => .returned (some lease)).Sound (Function.update life e (some .serving)) := by
  have owned : (s.calls c).owns = some (e, .opening) := by
    rw [publishing]
    rfl
  obtain ⟨here, unopened, dialed, connCloses, shut, unheld⟩ := sound.describes_owned owned known
  have held := held_lease (s.write e { x with published := true, refs := 1, openingCloses := x.openingCloses + 1 }) c e
    fun lease => .returned (some lease)
  -- The lease that is made is the first one.
  have first : s.held e + 1 = 1 := by rw [unheld]
  refine sound.advance_owned owned (sound.touches known rfl rfl rfl rfl ?_) ?_ rfl (.inr ⟨rfl, .inl rfl⟩)
  · intro e' different
    rw [held, if_neg (Ne.symm different)]
    rfl
  · rw [held, if_pos rfl]
    refine ⟨here, ⟨rfl, dialed, by rw [unopened.openingCloses], unopened.closedCloses⟩, unopened.closing, connCloses, shut,
      ?_, Nat.succ_pos _⟩
    exact congrArg Nat.cast first.symm

/-- A connection that could not be initialized is closed. -/
theorem Sound.abandon (sound : s.Sound life) (abandoning : s.calls c = .abandoning e) (known : s.entry e = some x) :
    ((s.write e (abandonConn kind x)).goto c (.withdrawing e)).Sound (Function.update life e (some .withdrawing)) := by
  have owned : (s.calls c).owns = some (e, .opening) := by
    rw [abandoning]
    rfl
  obtain ⟨here, unopened, dialed, connCloses, shut, unheld⟩ := sound.describes_owned owned known
  have once : x.connCloses + 1 = x.dialed.toNat := by rw [connCloses, dialed]; rfl
  -- The two pools differ in whether they mark the core as closed, which nobody looks at any more.
  cases kind with
  | qmi =>
    exact sound.open_ owned known (abandonConn .qmi x) rfl (.withdrawing e) rfl
      ⟨here, ⟨unopened.published, unopened.closing, unopened.openingCloses, unopened.closedCloses,
      unopened.refs⟩, once, unheld⟩
  | mbim =>
    exact sound.open_ owned known (abandonConn .mbim x) rfl (.withdrawing e) rfl
      ⟨here, ⟨unopened.published, unopened.closing, unopened.openingCloses, unopened.closedCloses,
      unopened.refs⟩, once, unheld⟩

/-- An entry that could not be opened leaves the map, and both channels are closed. -/
theorem Sound.withdraw (sound : s.Sound life) (withdrawing : s.calls c = .withdrawing e) (known : s.entry e = some x) :
    (({ s with entries := s.entries.delete x.key }.write e
      { x with openingCloses := x.openingCloses + 1, closedCloses := x.closedCloses + 1 }).goto c (.returned none)).Sound
      (Function.update life e (some .gone)) := by
  have owned : (s.calls c).owns = some (e, .withdrawing) := by
    rw [withdrawing]
    rfl
  obtain ⟨here, unopened, connCloses, unheld⟩ := sound.describes_owned owned known
  -- The entry leaves the map, and whoever waits for it is woken.
  refine sound.advance_owned owned (sound.touches_delete known here rfl rfl rfl rfl) ?_ rfl (.inr ⟨rfl, .inr rfl⟩)
  refine ⟨?_, by rw [unopened.openingCloses], by rw [unopened.closedCloses], connCloses, .inr unheld, ?_⟩
  · simp [State.goto, State.write]
  · show (s.held e : Int) ≤ x.refs
    rw [unheld, unopened.refs]
    exact Int.le_refl 0

/-! How an entry is closed. -/

/-- The connection of an entry that is no longer offered is closed. -/
theorem Sound.closeConn (sound : s.Sound life) {resume : Option K} (closing : s.calls c = .closing e resume)
    (known : s.entry e = some x) :
    ((s.write e (State.closeConn kind x)).goto c (.unlinking e resume)).Sound
      (Function.update life e (some .unlinking)) := by
  have owned : (s.calls c).owns = some (e, .closing) := by
    rw [closing]
    rfl
  obtain ⟨here, opened, isClosing, connCloses, shut, spare⟩ := sound.describes_owned owned known
  -- Nobody has closed the core of the MBIM pool before, so `closeDevice` does close it.
  have closed : State.closeConn kind x = { x with connCloses := x.connCloses + 1, shut := true } := by
    cases kind <;> simp [State.closeConn, shut]
  rw [closed]
  refine sound.open_ owned known { x with connCloses := x.connCloses + 1, shut := true } rfl (.unlinking e resume) rfl ?_
  exact ⟨here, ⟨opened.published, opened.dialed, opened.openingCloses, opened.closedCloses⟩, isClosing,
    by rw [connCloses], spare.unused, spare.counted⟩

/-- An entry whose connection is closed leaves the map. -/
theorem Sound.unlink (sound : s.Sound life) {resume : Option K} (unlinking : s.calls c = .unlinking e resume)
    (known : s.entry e = some x) :
    ((s.unlink e x).goto c (resumed resume)).Sound (Function.update life e (some .gone)) := by
  have owned : (s.calls c).owns = some (e, .unlinking) := by
    rw [unlinking]
    rfl
  have free : (resumed resume : Phase K).owns = none := by cases resume <;> rfl
  obtain ⟨here, opened, isClosing, connCloses, spare⟩ := sound.describes_owned owned known
  rw [State.unlink, if_pos here]
  refine sound.advance_owned owned (sound.touches_delete known here rfl rfl rfl rfl) ?_ rfl (.inr ⟨free, .inr rfl⟩)
  refine ⟨?_, opened.openingCloses, by rw [opened.closedCloses], by rw [connCloses, opened.dialed]; rfl, spare.unused,
    spare.counted⟩
  simp [State.goto, State.write]

/-! How a lease is released. -/

/-- The locked part of `release`. -/
theorem Sound.release (sound : s.Sound life) {lease : Lease} (releasing : s.calls c = .releasing lease)
    (member : lease ∈ s.leases) (known : s.entry lease.entry = some x) :
    ∃ life', (s.release c lease x).Sound life' := by
  have free : (s.calls c).owns = none := by
    rw [releasing]
    rfl
  have held := held_erase member
  -- The leases of other entries stay.
  have others : ∀ e', e' ≠ lease.entry → (s.leases.erase lease).countP (·.entry = e') = s.held e' := by
    intro e' different
    rw [held, if_neg (Ne.symm different), Nat.sub_zero]
  have mine : (s.leases.erase lease).countP (·.entry = lease.entry) = s.held lease.entry - 1 := by
    rw [held, if_pos rfl]
  have pos := held_pos member
  have same : s.entry = Function.update s.entry lease.entry (some x) :=
    (Function.update_eq_self_iff.mpr known.symm).symm
  obtain ⟨l, lives, describes⟩ := sound.describes known
  rw [State.release]
  split
  · -- The entry is no longer offered, so its references are not counted any more.
    rename_i stale
    have notServing : l ≠ .serving := by
      rintro rfl
      obtain ⟨here, -, closing, -⟩ := describes
      rcases stale with elsewhere | isClosing
      · exact elsewhere here
      · simp [closing] at isClosing
    refine ⟨_, sound.rewrite lives (sound.touches known same rfl rfl rfl others) ?_ (owns_update free.symm)⟩
    exact Life.fewer describes notServing (by rw [State.held, State.goto, mine]; omega)
  · rename_i offered
    simp only [not_or, not_not] at offered
    -- A lease of an entry in the map keeps it from being opened, and the entry is not being closed.
    have serving : l = .serving := by
      cases l with
      | dialing | opening | withdrawing => grind [Life.Describes]
      | serving => rfl
      | closing | unlinking => grind [Life.Describes]
      | gone => exact absurd offered.1 describes.1
    subst serving
    obtain ⟨here, opened, closing, connCloses, shut, refs, -⟩ := describes
    -- Other leases are left.
    split
    · rename_i more
      refine ⟨_, sound.advance_free free (.inr lives) (sound.touches known rfl rfl rfl rfl others) ?_ rfl
        (.inr ⟨rfl, .inl rfl⟩)⟩
      refine ⟨here, ⟨opened.published, opened.dialed, opened.openingCloses, opened.closedCloses⟩, closing, connCloses,
        shut, ?_, ?_⟩
      · rw [State.held, State.goto, State.write, mine]
        simp only
        omega
      · rw [State.held, State.goto, State.write, mine]
        omega
    · -- It was the last lease, and the entry is closed.
      rename_i last
      refine ⟨_, sound.advance_free (l := .closing) free (.inr lives) (sound.touches known rfl rfl rfl rfl others) ?_ rfl
        (.inl rfl)⟩
      refine ⟨here, ⟨opened.published, opened.dialed, opened.openingCloses, opened.closedCloses⟩, rfl, connCloses,
        shut, .inr ?_, ?_⟩
      · rw [State.held, State.goto, State.write, mine]
        omega
      · rw [State.held, State.goto, State.write, mine]
        simp only
        omega

/-- The connection of an entry fails. -/
theorem Sound.fail (sound : s.Sound life) (known : s.entry e = some x) :
    ∃ life', (s.write e { x with failed := true }).Sound life' := by
  obtain ⟨l, lives, describes⟩ := sound.describes known
  refine ⟨_, sound.rewrite lives (sound.touches known rfl rfl rfl rfl fun _ _ => rfl) ?_ fun _ => rfl⟩
  -- A failure is a mark that no stage but service and its end looks at.
  cases l with
  | dialing | opening =>
    obtain ⟨here, unopened, dialed, connCloses, shut, unheld⟩ := describes
    exact ⟨here, ⟨unopened.published, unopened.closing, unopened.openingCloses, unopened.closedCloses,
      unopened.refs⟩, dialed, connCloses,
      shut, unheld⟩
  | withdrawing =>
    obtain ⟨here, unopened, connCloses, unheld⟩ := describes
    exact ⟨here, ⟨unopened.published, unopened.closing, unopened.openingCloses, unopened.closedCloses,
      unopened.refs⟩, connCloses, unheld⟩
  | serving =>
    obtain ⟨here, opened, closing, connCloses, shut, refs, pos⟩ := describes
    exact ⟨here, ⟨opened.published, opened.dialed, opened.openingCloses, opened.closedCloses⟩, closing, connCloses, shut,
      refs, pos⟩
  | closing =>
    obtain ⟨here, opened, closing, connCloses, shut, spare⟩ := describes
    exact ⟨here, ⟨opened.published, opened.dialed, opened.openingCloses, opened.closedCloses⟩, closing, connCloses, shut,
      .inl rfl, spare.counted⟩
  | unlinking =>
    obtain ⟨here, opened, closing, connCloses, spare⟩ := describes
    exact ⟨here, ⟨opened.published, opened.dialed, opened.openingCloses, opened.closedCloses⟩, closing, connCloses,
      .inl rfl, spare.counted⟩
  | gone =>
    obtain ⟨gone, openingCloses, closedCloses, connCloses, spare⟩ := describes
    exact ⟨gone, openingCloses, closedCloses, connCloses, .inl rfl, spare.counted⟩

/-! Whole runs. -/

/-- No step leaves what an entry can be. -/
theorem Sound.step (sound : s.Sound life) {event : Event K} (accepted : step kind s event = some s') :
    ∃ life', s'.Sound life' := by
  -- A call goes from one phase to the next, and each of these steps is known.
  cases event with
  -- A call begins to look for an entry.
  | acquire c key =>
    rw [State.step] at accepted
    split at accepted
    · rename_i idle
      cases accepted
      exact ⟨life, sound.goto (by rw [idle]; rfl)⟩
    · cases accepted
  | look c =>
    rw [State.step] at accepted
    split at accepted
    · rename_i key looking
      exact sound.look looking accepted
    · cases accepted
  | wake c =>
    -- What it waited for has happened.
    rw [State.step] at accepted
    split at accepted
    · rename_i key e waiting
      obtain ⟨x, -, woken⟩ := Option.bind_eq_some_iff.mp accepted
      split at woken
      · cases woken
      · cases woken
        exact ⟨life, sound.goto (by rw [waiting]; rfl)⟩
    · rename_i key e waiting
      obtain ⟨x, -, woken⟩ := Option.bind_eq_some_iff.mp accepted
      split at woken
      · cases woken
      · cases woken
        exact ⟨life, sound.goto (by rw [waiting]; rfl)⟩
    · cases accepted
  | cancel c =>
    -- Its context has ended while it waited.
    rw [State.step] at accepted
    split at accepted
    · rename_i waiting
      cases accepted
      exact ⟨life, sound.goto (by rw [waiting]; rfl)⟩
    · rename_i waiting
      cases accepted
      exact ⟨life, sound.goto (by rw [waiting]; rfl)⟩
    · cases accepted
  | dial c ok =>
    rw [State.step] at accepted
    split at accepted
    · rename_i e dialing
      obtain ⟨x, known, rfl⟩ := Option.map_eq_some_iff.mp accepted
      exact sound.dial dialing known ok
    · cases accepted
  | initialize_ c ok =>
    rw [State.step] at accepted
    split at accepted
    · rename_i e initializing
      cases accepted
      refine ⟨life, sound.goto ?_⟩
      rw [initializing]
      cases ok <;> rfl
    · cases accepted
  | publish c =>
    rw [State.step] at accepted
    split at accepted
    · rename_i e publishing
      obtain ⟨x, known, rfl⟩ := Option.map_eq_some_iff.mp accepted
      exact ⟨_, sound.publish publishing known⟩
    · cases accepted
  | abandon c =>
    rw [State.step] at accepted
    split at accepted
    · rename_i e abandoning
      obtain ⟨x, known, rfl⟩ := Option.map_eq_some_iff.mp accepted
      exact ⟨_, sound.abandon abandoning known⟩
    · cases accepted
  | withdraw c =>
    rw [State.step] at accepted
    split at accepted
    · rename_i e withdrawing
      obtain ⟨x, known, rfl⟩ := Option.map_eq_some_iff.mp accepted
      exact ⟨_, sound.withdraw withdrawing known⟩
    · cases accepted
  | connectLease c ok =>
    rw [State.step] at accepted
    split at accepted
    · rename_i lease connecting
      cases accepted
      refine ⟨life, sound.goto ?_⟩
      rw [connecting]
      cases ok <;> rfl
    · cases accepted
  | close c lease =>
    rw [State.step] at accepted
    split at accepted
    · rename_i idle
      cases accepted
      exact ⟨life, sound.goto (by rw [idle]; rfl)⟩
    · cases accepted
  -- A lease is released once; the second time it is not there.
  | release c =>
    rw [State.step] at accepted
    split at accepted
    · rename_i lease releasing
      split at accepted
      · rename_i member
        obtain ⟨x, known, rfl⟩ := Option.map_eq_some_iff.mp accepted
        exact sound.release releasing member known
      · cases accepted
        exact ⟨life, sound.goto (by rw [releasing]; rfl)⟩
    · cases accepted
  | closeConn c =>
    rw [State.step] at accepted
    split at accepted
    · rename_i e resume closing
      obtain ⟨x, known, rfl⟩ := Option.map_eq_some_iff.mp accepted
      exact ⟨_, sound.closeConn closing known⟩
    · cases accepted
  | unlink c =>
    rw [State.step] at accepted
    split at accepted
    · rename_i e resume unlinking
      obtain ⟨x, known, rfl⟩ := Option.map_eq_some_iff.mp accepted
      exact ⟨_, sound.unlink unlinking known⟩
    · cases accepted
  | fail e =>
    rw [State.step] at accepted
    obtain ⟨x, known, written⟩ := Option.bind_eq_some_iff.mp accepted
    split at written
    · cases written
      exact sound.fail known
    · cases written

/-- A new pool has no entry. -/
theorem sound_init : ({} : State K).Sound fun _ => none where
  fresh := fun _ _ => rfl
  unborn := fun _ _ => ⟨rfl, rfl⟩
  born := fun _ _ lives => by cases lives
  keyed := fun k e found => by simp at found
  owned := fun _ _ _ owns => by cases owns
  tended := fun _ _ lives => by cases lives
  sole := fun _ _ _ _ _ owns => by cases owns

/-! The calls under way can close what is to be closed. -/

/-- A call that gives up an entry lets those go on that wait for it to open. -/
theorem leads_withdraw (kind : Kind) (withdrawing : s.calls c = .withdrawing e) (known : s.entry e = some x)
    (unopened : x.openingCloses = 0) :
    ∃ s' x', (pool kind K).Leads s s' ∧ s'.entry e = some x' ∧ x'.openingCloses = 1 := by
  have accepted : (pool kind K).step s (.withdraw c) = some (({ s with entries := s.entries.delete x.key }.write e
      { x with openingCloses := x.openingCloses + 1, closedCloses := x.closedCloses + 1 }).goto c (.returned none)) := by
    simp only [pool, State.step, withdrawing, known, Option.map_some]
  exact ⟨_, _, .cons accepted (.refl _), Function.update_self .., by rw [unopened]⟩

/-- So does a call that gives up a connection. -/
theorem leads_abandon (kind : Kind) (abandoning : s.calls c = .abandoning e) (known : s.entry e = some x)
    (unopened : x.openingCloses = 0) :
    ∃ s' x', (pool kind K).Leads s s' ∧ s'.entry e = some x' ∧ x'.openingCloses = 1 := by
  have accepted : (pool kind K).step s (.abandon c) =
      some ((s.write e (abandonConn kind x)).goto c (.withdrawing e)) := by
    simp only [pool, State.step, abandoning, known, Option.map_some]
  have still : (abandonConn kind x).openingCloses = 0 := by cases kind <;> exact unopened
  obtain ⟨s', x', leads, reached⟩ := leads_withdraw kind
    (s := (s.write e (abandonConn kind x)).goto c (.withdrawing e)) (c := c) (Function.update_self ..)
    (Function.update_self ..) still
  exact ⟨s', x', .cons accepted leads, reached⟩

/-- An entry that is not set yet has a call that can end the wait for it. -/
-- The call that owns the entry can always go on.
theorem Sound.leads_opening (sound : s.Sound life) (known : s.entry e = some x)
    (here : s.entries.get x.key = some e) (unset : x.published = false) :
    ∃ s' x', (pool kind K).Leads s s' ∧ s'.entry e = some x' ∧ x'.openingCloses = 1 := by
  obtain ⟨l, lives, describes⟩ := sound.describes known
  obtain (rfl | rfl) | ⟨c, owns⟩ := sound.tended e l lives
  · -- An entry in service is published.
    simp [describes.2.1.published] at unset
  · exact absurd here describes.1
  · have phase := Phase.eq_of_owns owns
    cases l with
    -- The dial can fail, and the entry is withdrawn.
    | dialing =>
      obtain ⟨-, unopened, -⟩ := describes
      have accepted : (pool kind K).step s (.dial c false) = some (s.goto c (.withdrawing e)) := by
        simp only [pool, State.step, phase, known, Option.map_some]
        rfl
      obtain ⟨s', x', leads, reached⟩ := leads_withdraw kind (s := s.goto c (.withdrawing e)) (c := c)
        (Function.update_self ..) known unopened.openingCloses
      exact ⟨s', x', .cons accepted leads, reached⟩
    | opening =>
      obtain ⟨-, unopened, -⟩ := describes
      -- The entry can fail to initialize, be published, or be abandoned.
      obtain initializing | publishing | abandoning := phase
      · have accepted : (pool kind K).step s (.initialize_ c false) = some (s.goto c (.abandoning e)) := by
          simp only [pool, State.step, initializing]
          rfl
        obtain ⟨s', x', leads, reached⟩ := leads_abandon kind (s := s.goto c (.abandoning e)) (c := c)
          (Function.update_self ..) known unopened.openingCloses
        exact ⟨s', x', .cons accepted leads, reached⟩
      · have accepted : (pool kind K).step s (.publish c) =
            some ((s.write e { x with published := true, refs := 1, openingCloses := x.openingCloses + 1 }).lease c e
              fun lease => .returned (some lease)) := by
          simp only [pool, State.step, publishing, known, Option.map_some]
        exact ⟨_, _, .cons accepted (.refl _), Function.update_self .., by rw [unopened.openingCloses]⟩
      · exact leads_abandon kind abandoning known unopened.openingCloses
    -- It is withdrawn.
    | withdrawing =>
      obtain ⟨-, unopened, -⟩ := describes
      exact leads_withdraw kind phase known unopened.openingCloses
    | serving | gone => exact phase.elim
    | closing | unlinking =>
      obtain ⟨-, opened, -⟩ := describes
      simp [opened.published] at unset

/-- A call that takes an entry out of the map lets those go on that wait for it to close. -/
theorem leads_unlink (kind : Kind) {resume : Option K} (unlinking : s.calls c = .unlinking e resume) (known : s.entry e = some x)
    (here : s.entries.get x.key = some e) (unclosed : x.closedCloses = 0) :
    ∃ s' x', (pool kind K).Leads s s' ∧ s'.entry e = some x' ∧ x'.closedCloses = 1 := by
  have accepted : (pool kind K).step s (.unlink c) = some ((s.unlink e x).goto c (resumed resume)) := by
    simp only [pool, State.step, unlinking, known, Option.map_some]
  have written : ((s.unlink e x).goto c (resumed resume)).entry e =
      some { x with closedCloses := x.closedCloses + 1 } := by
    rw [State.unlink, if_pos here]
    exact Function.update_self ..
  exact ⟨_, _, .cons accepted (.refl _), written, by rw [unclosed]⟩

/-- An entry that is being closed has a call that can end the wait for it. -/
theorem Sound.leads_closed (sound : s.Sound life) (known : s.entry e = some x)
    (here : s.entries.get x.key = some e) (isClosing : x.closing = true) :
    ∃ s' x', (pool kind K).Leads s s' ∧ s'.entry e = some x' ∧ x'.closedCloses = 1 := by
  obtain ⟨l, lives, describes⟩ := sound.describes known
  obtain (rfl | rfl) | ⟨c, owns⟩ := sound.tended e l lives
  · -- An entry in service is not being closed.
    simp [describes.2.2.1] at isClosing
  · exact absurd here describes.1
  · have phase := Phase.eq_of_owns owns
    cases l with
    -- Nor is one that is not published.
    | dialing | opening | withdrawing =>
      obtain ⟨-, unopened, -⟩ := describes
      simp [unopened.closing] at isClosing
    | serving | gone => exact phase.elim
    | closing =>
      obtain ⟨-, opened, -⟩ := describes
      obtain ⟨resume, closing⟩ := phase
      -- The connection is closed, and then the entry leaves the map.
      have accepted : (pool kind K).step s (.closeConn c) =
          some ((s.write e (State.closeConn kind x)).goto c (.unlinking e resume)) := by
        simp only [pool, State.step, closing, known, Option.map_some]
      have key : (State.closeConn kind x).key = x.key := by
        cases kind with
        | qmi => rfl
        | mbim => simp only [State.closeConn, apply_ite Entry.key, ite_self]
      have unclosed : (State.closeConn kind x).closedCloses = 0 := by
        cases kind with
        | qmi => exact opened.closedCloses
        | mbim => simp only [State.closeConn, apply_ite Entry.closedCloses, ite_self, opened.closedCloses]
      obtain ⟨s', x', leads, reached⟩ := leads_unlink kind
        (s := (s.write e (State.closeConn kind x)).goto c (.unlinking e resume)) (c := c) (Function.update_self ..)
        (Function.update_self ..) (by rw [key]; exact here) unclosed
      exact ⟨s', x', .cons accepted leads, reached⟩
    -- The entry leaves the map.
    | unlinking =>
      obtain ⟨-, opened, -⟩ := describes
      obtain ⟨resume, unlinking⟩ := phase
      exact leads_unlink kind unlinking known here opened.closedCloses

/-- What a pool promises about its entries, in a state that it reaches. -/
structure Meets (kind : Kind) (s : State K) : Prop where
  /-- The references of an entry that is not being closed are its leases. -/
  counted : ∀ e x, s.entry e = some x → s.entries.get x.key = some e → x.closing = false → x.refs = s.held e
  /-- Closing an entry leaves references behind, and does not lose any. -/
  bounded : ∀ e x, s.entry e = some x → s.entries.get x.key = some e → s.held e ≤ x.refs
  /-- At most one connection is open for a key. -/
  single : ∀ e e' x x', s.entry e = some x → s.entry e' = some x' → x.key = x'.key →
    x.dialed = true → x.connCloses = 0 → x'.dialed = true → x'.connCloses = 0 → e = e'
  /-- Nothing is closed twice, and only a connection that was opened is closed. -/
  once : ∀ e x, s.entry e = some x → x.connCloses ≤ x.dialed.toNat ∧ x.openingCloses ≤ 1 ∧ x.closedCloses ≤ 1
  /-- Everything is closed of an entry that has left the map. -/
  gone : ∀ e x, s.entry e = some x → s.entries.get x.key ≠ some e →
    x.connCloses = x.dialed.toNat ∧ x.openingCloses = 1 ∧ x.closedCloses = 1
  /-- A connection that is closed had failed, or has no lease. -/
  spared : ∀ e x, s.entry e = some x → 0 < x.connCloses → x.failed = true ∨ s.held e = 0
  /-- Whoever waits for an entry to open can be let go on. -/
  opens : ∀ e x, s.entry e = some x → s.entries.get x.key = some e → x.published = false →
    ∃ s' x', (pool kind K).Leads s s' ∧ s'.entry e = some x' ∧ x'.openingCloses = 1
  /-- Whoever waits for an entry to close can be let go on. -/
  closes : ∀ e x, s.entry e = some x → s.entries.get x.key = some e → x.closing = true →
    ∃ s' x', (pool kind K).Leads s s' ∧ s'.entry e = some x' ∧ x'.closedCloses = 1

/-- Where every entry is as its part of life says, the pool keeps its promises. -/
theorem Sound.meets (sound : s.Sound life) : s.Meets kind where
  -- The references are those of the leases, while the entry is in the map and open.
  counted e x known here open_ := by
    obtain ⟨l, -, describes⟩ := sound.describes known
    cases l with
    | dialing | opening | withdrawing => grind [Life.Describes, Entry.Unopened]
    | serving => exact describes.2.2.2.2.2.1
    | closing | unlinking => grind [Life.Describes]
    | gone => exact absurd here describes.1
  -- Beyond that, there are never more leases than references.
  bounded e x known here := by
    obtain ⟨l, -, describes⟩ := sound.describes known
    cases l with
    | dialing | opening | withdrawing => grind [Life.Describes, Entry.Unopened]
    | serving => grind [Life.Describes]
    | closing | unlinking => grind [Life.Describes, Entry.Spare]
    | gone => exact absurd here describes.1
  single e e' x x' known known' key dialed open_ dialed' open' := by
    -- An entry with an open connection is in the map, where a key has one entry.
    have inMap : ∀ {e x}, s.entry e = some x → x.dialed = true → x.connCloses = 0 → s.entries.get x.key = some e := by
      intro e x known dialed open_
      obtain ⟨l, -, describes⟩ := sound.describes known
      cases l with
      | dialing | opening | withdrawing | serving | closing | unlinking => exact describes.1
      | gone =>
        obtain ⟨-, -, -, connCloses, -⟩ := describes
        simp [open_, dialed] at connCloses
    have first := inMap known dialed open_
    have second := inMap known' dialed' open'
    rw [key, second] at first
    exact (Option.some.inj first).symm
  -- The channels are closed once at most.
  once e x known := by
    obtain ⟨l, -, describes⟩ := sound.describes known
    cases l with
    | dialing | opening | withdrawing => grind [Life.Describes, Entry.Unopened]
    | serving | closing | unlinking => grind [Life.Describes, Entry.Opened]
    | gone => grind [Life.Describes]
  -- An entry that has left the map has closed what it had.
  gone e x known left := by
    obtain ⟨l, -, describes⟩ := sound.describes known
    cases l with
    | dialing | opening | withdrawing | serving | closing | unlinking => exact absurd describes.1 left
    | gone =>
      obtain ⟨-, openingCloses, closedCloses, connCloses, -⟩ := describes
      exact ⟨connCloses, openingCloses, closedCloses⟩
  -- A connection is closed only when no lease needs it.
  spared e x known closed := by
    obtain ⟨l, -, describes⟩ := sound.describes known
    cases l with
    | dialing | opening | withdrawing => grind [Life.Describes]
    | serving | closing => grind [Life.Describes]
    | unlinking | gone => grind [Life.Describes, Entry.Spare]
  opens _ _ known here unset := sound.leads_opening known here unset
  closes _ _ known here isClosing := sound.leads_closed known here isClosing

/-- Both pools keep their promises in every state that they reach. -/
theorem directPool_meets {trace : List (State K × Event K)} (run : (pool kind K).Runs trace s) : s.Meets kind := by
  have sound : ∃ life, s.Sound life :=
    run.stateInvariant (P := fun s => ∃ life, s.Sound life) ⟨_, sound_init⟩ fun s e s' kept accepted => by
      obtain ⟨life, sound⟩ := kept
      exact sound.step accepted
  obtain ⟨life, sound⟩ := sound
  exact sound.meets

/-- A user shares the connection of another and both go. -/
def sharedEvents : List (Event Nat) :=
  [.acquire 0 7, .look 0, .dial 0 true, .initialize_ 0 true, .publish 0, .acquire 1 7, .look 1, .connectLease 1 true,
    .close 2 ⟨0, 0⟩, .release 2, .close 3 ⟨1, 0⟩, .release 3, .closeConn 3, .unlink 3]

/-- A connection that two users share is closed once, after both. -/
theorem sharedEvents_meet : ∃ trace s, (pool .mbim Nat).Runs trace s ∧ s.Meets .mbim ∧
    ∃ x, s.entry 0 = some x ∧ x.connCloses = 1 ∧ x.openingCloses = 1 ∧ x.closedCloses = 1 ∧ s.held 0 = 0 := by
  have run := Machine.Runs.ofEvents (pool .mbim Nat) sharedEvents (by decide)
  exact ⟨_, _, run, directPool_meets run, _, rfl, by decide, by decide, by decide, by decide⟩

/-- A connection fails with a lease on it, which is released while another user discards the entry. -/
def staleEvents : List (Event Nat) :=
  [.acquire 0 7, .look 0, .dial 0 true, .initialize_ 0 true, .publish 0, .fail 0, .acquire 1 7, .look 1, .close 2 ⟨0, 0⟩,
    .release 2]

/-- The entry that is being discarded keeps a reference without a lease. -/
theorem staleEvents_miscounted : ∃ trace s, (pool .qmi Nat).Runs trace s ∧ s.entries.get 7 = some 0 ∧
    ∃ x, s.entry 0 = some x ∧ x.refs = 1 ∧ s.held 0 = 0 :=
  ⟨_, _, Machine.Runs.ofEvents (pool .qmi Nat) staleEvents (by decide), by decide, _, rfl, by decide, by decide⟩

end State

end Wwan.DirectPool
