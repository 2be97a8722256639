import Wwan.Modem.QmiConnect

/-! No link and no session of the modem is left behind by a QMI data connection, and when one is. -/

namespace Wwan.Modem.Qmi

/-- The kernel is asked to delete every link that was added, and every session that was opened is closed. -/
structure Released (ops : List Op) : Prop where
  links : ∀ name, .addLink name ∈ ops → .deleteLink name ∈ ops
  sessions : ∀ i, .openPDN i ∈ ops → .closePDN i ∈ ops

/-- Every link that was added and every session that was opened is one of the connection, and none was released. -/
structure Owned (ops : List Op) (c : Connection) : Prop where
  links : ∀ name, .addLink name ∈ ops ↔ ∃ link, c.link = some link ∧ link.name = name
  sessions : ∀ i, .openPDN i ∈ ops ↔ i ∈ c.sessions
  keptLinks : ∀ name, .deleteLink name ∉ ops
  keptSessions : ∀ i, .closePDN i ∉ ops

/-- However often it is closed, a connection releases each of its own once. -/
structure ReleasesOnce (a : Answers) (c : Connection) : Prop where
  links : ∀ n link, c.link = some link → (c.closeTimes a (n + 1)).1.count (.deleteLink link.name) = 1
  sessions : ∀ n, ∀ i ∈ c.sessions, (c.closeTimes a (n + 1)).1.count (.closePDN i) = 1

/-- What a connect has to do with its links and sessions. -/
def Meets (a : Answers) (cfg : ConnectConfig) (port : NetworkPort) : Prop :=
  match connectPort a cfg port with
  | (ops, .error _) => Released ops
  | (ops, .ok c) => Owned ops c ∧ ReleasesOnce a c

/-- The loop stops at this mux ID: its name is free, and the kernel does not say that it exists. -/
def stops (a : Answers) (base : Interface) (usedNames : List GoString) (muxID : Nat) : Bool :=
  let name := rmnetLinkName base.index.toNat (UInt8.ofNat muxID)
  name ∉ usedNames && (ifNameSize ≤ name.length || a.addLink muxID ≠ .eexist)

/-- When the link is closed, the first interface that is listed under its name has its index. -/
def Lists (a : Answers) (name : GoString) (index : Int) : Prop :=
  ∃ interfaces, a.remaining = .ok interfaces ∧ interfaces.find? (fun iface => iface.name = name) = some { name, index }

/-- The kernel adds a link, and the call fails before it knows the link's index, or the link is not found under its name
and index when it is closed. -/
def Strands (a : Answers) (base : Interface) (muxID : Nat) : Prop :=
  let name := rmnetLinkName base.index.toNat (UInt8.ofNat muxID)
  name.length < ifNameSize ∧
    ((∃ err, a.addLink muxID = .failed err true) ∨
      a.addLink muxID = .added ∧ ((∃ err, a.child = .error err) ∨
        ∃ index, a.child = .ok index ∧ (validIndex index = false ∨ ¬ Lists a name index)))

/-- The port is prepared. -/
def Prepared (a : Answers) (port : NetworkPort) : Prop :=
  port.name ≠ [] ∧ (a.ipaReady = true ∨ a.dpmOpenPort = none ∧ a.configureWDA = none)

/-- A connect on an embedded port gets to add a link, and the link is stranded. -/
def StrandsLink (a : Answers) (cfg : ConnectConfig) (port : NetworkPort) : Prop :=
  cfg.profileID ≤ 255 ∧ port.embedded = true ∧ Prepared a port ∧
    ∃ base usedNames muxID, a.base = .ok base ∧ validIndex base.index = true ∧ a.interfaces = .ok usedNames ∧
      muxIDs.find? (stops a base usedNames) = some muxID ∧ Strands a base muxID

/-- A call that fails to make a link has released what it added, and a link that it makes is found when it is closed. -/
def LinkMeets (a : Answers) : List Op × Except LinkError RmnetLink → Prop
  | (ops, .error _) => Released ops
  | (_, .ok link) => Lists a link.name link.index

/-- A call that does nothing leaves nothing. -/
theorem Released.nil : Released [] := ⟨by simp, by simp⟩

/-- A link that was added and not deleted is not released. -/
theorem not_released_addLink (name : GoString) : ¬ Released [.addLink name] :=
  fun released => by simpa using released.links name (by simp)

/-- The kernel is asked to delete a link exactly where it is found under its name and index. -/
theorem deleteRMNetLink_ops (a : Answers) (name : GoString) (index : Int) :
    (Lists a name index → (deleteRMNetLink a name index).1 = [.deleteLink name]) ∧
      (¬ Lists a name index → (deleteRMNetLink a name index).1 = []) := by
  unfold deleteRMNetLink
  constructor
  · -- The request is sent.
    rintro ⟨interfaces, listed, found⟩
    simp [listed, found]
  · -- None of the other exits sends a request.
    intro absent
    split
    · rfl
    · rename_i interfaces listed
      split
      · rfl
      · rename_i iface found
        split
        · rfl
        · -- An interface of this name and index would be found.
          rename_i same
          have named : iface.name = name := by simpa using List.find?_some found
          refine absurd ⟨interfaces, listed, ?_⟩ absent
          rw [found, ← named, ← not_not.mp same]

/-- Closing a link only ever deletes that link. -/
theorem mem_close {a : Answers} {link : RmnetLink} {op : Op} (member : op ∈ (link.close a).1) :
    op = .deleteLink link.name := by
  obtain ⟨found, absent⟩ := deleteRMNetLink_ops a link.name link.index
  by_cases lists : Lists a link.name link.index
  · rw [RmnetLink.close, found lists] at member
    exact List.mem_singleton.mp member
  · rw [RmnetLink.close, absent lists] at member
    cases member

/-- A link is deleted with its close exactly where it is found. -/
theorem deleteLink_mem_close {a : Answers} {link : RmnetLink} :
    .deleteLink link.name ∈ (link.close a).1 ↔ Lists a link.name link.index := by
  obtain ⟨found, absent⟩ := deleteRMNetLink_ops a link.name link.index
  by_cases lists : Lists a link.name link.index
  · simp [RmnetLink.close, found lists, lists]
  · simp [RmnetLink.close, absent lists, lists]

/-- A link that is taken back is released where it is found. -/
theorem released_close (a : Answers) (link : RmnetLink) :
    Released (.addLink link.name :: (link.close a).1) ↔ Lists a link.name link.index := by
  rw [← deleteLink_mem_close]
  constructor
  · intro released
    simpa using released.links link.name (by simp)
  · intro deleted
    refine ⟨fun name added => ?_, fun i opened => ?_⟩
    · rcases List.mem_cons.mp added with here | later
      · cases here
        exact List.mem_cons_of_mem _ deleted
      · cases mem_close later
    · rcases List.mem_cons.mp opened with here | later
      · cases here
      · cases mem_close later

/-- The loop ends as it does at the mux ID where it stops. -/
theorem tryMuxIDs_eq (a : Answers) (base : Interface) (usedNames : List GoString) (ids : List Nat) :
    tryMuxIDs a base usedNames ids =
      match ids.find? (stops a base usedNames) with
      | none => ([], .error .noMuxID)
      | some muxID => tryMuxIDs a base usedNames [muxID] := by
  induction ids with
  | nil => rfl
  | cons muxID rest ih =>
    -- The loop stops at this mux ID, or goes on as if it were not there.
    by_cases stop : stops a base usedNames muxID = true
    · rw [List.find?_cons_of_pos stop]
      simp only [stops, Bool.and_eq_true, Bool.or_eq_true, decide_eq_true_eq, ne_eq] at stop
      obtain ⟨free, here⟩ := stop
      simp only [tryMuxIDs, if_neg free]
      split
      · rfl
      · rename_i short
        cases answer : a.addLink muxID with
        | eexist => simp [short, answer] at here
        | failed err added => rfl
        | added => rfl
    · rw [List.find?_cons_of_neg stop, ← ih]
      simp only [stops, Bool.and_eq_true, Bool.or_eq_true, decide_eq_true_eq, not_and, not_or, ne_eq,
        Decidable.not_not] at stop
      rw [tryMuxIDs]
      split
      · rfl
      · rename_i free
        obtain ⟨short, answer⟩ := stop free
        rw [if_neg short, answer]

/-- What the loop does at the mux ID where it stops. -/
theorem tryMuxIDs_singleton {a : Answers} {base : Interface} {usedNames : List GoString} {muxID : Nat}
    (stop : stops a base usedNames muxID = true) :
    LinkMeets a (tryMuxIDs a base usedNames [muxID]) ↔ ¬ Strands a base muxID := by
  simp only [stops, Bool.and_eq_true, Bool.or_eq_true, decide_eq_true_eq, ne_eq] at stop
  obtain ⟨free, here⟩ := stop
  simp only [tryMuxIDs, if_neg free, Strands]
  generalize rmnetLinkName base.index.toNat (UInt8.ofNat muxID) = name at here
  split
  · -- A name that is too long ends the loop before a link is added.
    rename_i long
    exact ⟨fun _ both => by omega, fun _ => .nil⟩
  · rename_i short
    cases answer : a.addLink muxID with
    | eexist => simp [short, answer] at here
    -- The kernel refuses, and a link that it has added all the same stays.
    | failed err added =>
      cases added with
      | false => simp [LinkMeets, Released.nil]
      | true => simp [LinkMeets, not_released_addLink, Nat.lt_of_not_le short]
    | added =>
      simp only [finishLink]
      -- The new link is looked up, and without an index it stays.
      cases looked : a.child with
      | error err => simp [LinkMeets, not_released_addLink, Nat.lt_of_not_le short]
      | ok index =>
        cases valid : validIndex index with
        | false => simp [valid, LinkMeets, not_released_addLink, Nat.lt_of_not_le short]
        | true =>
          -- A link whose index is known is owned or taken back.
          have taken := released_close a { name, muxID := UInt8.ofNat muxID, index }
          cases base.up <;> cases a.setUp <;> simp [LinkMeets, valid, taken, Nat.lt_of_not_le short]

/-- What the loop does where it stops nowhere or somewhere. -/
theorem tryMuxIDs_meets (a : Answers) (base : Interface) (usedNames : List GoString) :
    LinkMeets a (tryMuxIDs a base usedNames muxIDs) ↔
      ¬ ∃ muxID, muxIDs.find? (stops a base usedNames) = some muxID ∧ Strands a base muxID := by
  rw [tryMuxIDs_eq]
  cases found : muxIDs.find? (stops a base usedNames) with
  | none => simp [LinkMeets, Released.nil]
  | some muxID =>
    rw [tryMuxIDs_singleton (List.find?_some found)]
    simp

/-- What a prepared port does. -/
theorem createRMNetLink_meets (a : Answers) :
    LinkMeets a (createRMNetLink a) ↔
      ¬ ∃ base usedNames muxID, a.base = .ok base ∧ validIndex base.index = true ∧ a.interfaces = .ok usedNames ∧
        muxIDs.find? (stops a base usedNames) = some muxID ∧ Strands a base muxID := by
  unfold createRMNetLink
  cases looked : a.base with
  | error err => simp [LinkMeets, Released.nil]
  | ok base =>
    cases valid : validIndex base.index with
    | false => simp [valid, LinkMeets, Released.nil]
    | true =>
      cases listed : a.interfaces with
      | error err => simp [valid, LinkMeets, Released.nil]
      | ok usedNames =>
        simp only [valid, if_true]
        rw [tryMuxIDs_meets]
        simp [valid]

/-- What an embedded port does. -/
theorem prepareIPALink_meets (a : Answers) (port : NetworkPort) :
    LinkMeets a (prepareIPALink a port) ↔
      ¬ (Prepared a port ∧
        ∃ base usedNames muxID, a.base = .ok base ∧ validIndex base.index = true ∧ a.interfaces = .ok usedNames ∧
          muxIDs.find? (stops a base usedNames) = some muxID ∧ Strands a base muxID) := by
  unfold prepareIPALink Prepared
  split
  · rename_i empty
    -- Without a base interface nothing is made.
    simp [empty, LinkMeets, Released.nil]
  · rename_i named
    split
    · -- The port has been set up before, so the link is all that is made.
      rename_i ready
      rw [createRMNetLink_meets]
      simp [named, ready]
    · rename_i unready
      -- The port is opened and configured first, and no link exists until then.
      cases opened : a.dpmOpenPort with
      | some err => simp [unready, LinkMeets, Released.nil]
      | none =>
        cases configured : a.configureWDA with
        | some err => simp [unready, LinkMeets, Released.nil]
        | none =>
          dsimp only
          rw [createRMNetLink_meets]
          simp [named]

/-- A link that is made is all that was added. -/
theorem tryMuxIDs_ok {a : Answers} {base : Interface} {usedNames : List GoString} {ids : List Nat} {ops : List Op}
    {link : RmnetLink} (made : tryMuxIDs a base usedNames ids = (ops, .ok link)) : ops = [.addLink link.name] := by
  induction ids with
  | nil => simp [tryMuxIDs] at made
  | cons muxID rest ih =>
    simp only [tryMuxIDs] at made
    split at made
    · -- The mux ID is in use, and the loop goes on.
      exact ih made
    · -- The other exits return no link.
      split at made
      · simp at made
      · split at made
        · exact ih made
        · simp at made
        · unfold finishLink at made
          split at made
          · simp at made
          · split at made
            · dsimp only at made
              split at made
              · -- The base is up already, or has been set up.
                cases made
                rfl
              · split at made
                · cases made
                  rfl
                · simp at made
            · simp at made

/-- So is one of a prepared port. -/
theorem createRMNetLink_ok {a : Answers} {ops : List Op} {link : RmnetLink}
    (made : createRMNetLink a = (ops, .ok link)) : ops = [.addLink link.name] := by
  unfold createRMNetLink at made
  split at made
  · simp at made
  · split at made
    · split at made
      · simp at made
      · exact tryMuxIDs_ok made
    · simp at made

/-- So is one of an embedded port. -/
theorem prepareIPALink_ok {a : Answers} {port : NetworkPort} {ops : List Op} {link : RmnetLink}
    (made : prepareIPALink a port = (ops, .ok link)) : ops = [.addLink link.name] := by
  unfold prepareIPALink at made
  split at made
  · simp at made
  · split at made
    · exact createRMNetLink_ok made
    · split at made
      · simp at made
      · split at made
        · simp at made
        · exact createRMNetLink_ok made

/-- Closing a connection again does nothing. -/
theorem closeTimes_closed (a : Answers) {c : Connection} (closed : c.closeOnce = true) (n : Nat) :
    c.closeTimes a n = ([], c) := by
  induction n with
  | zero => rfl
  | succ n ih => simp [Connection.closeTimes, Connection.close, closed, ih]

/-- However often a connection is closed, it does the work of one close. -/
theorem closeTimes_eq (a : Answers) {c : Connection} (isOpen : c.closeOnce = false) (n : Nat) :
    (c.closeTimes a (n + 1)).1 = c.sessions.map .closePDN ++ (closeLink a c.link).1 := by
  simp only [Connection.closeTimes, Connection.close, isOpen, Bool.false_eq_true, if_false]
  rw [closeTimes_closed a rfl]
  simp [closeSessions]

/-- Closing a connection closes no session through its link. -/
theorem count_closePDN_closeLink (a : Answers) (link : Option RmnetLink) (i : Nat) :
    (closeLink a link).1.count (.closePDN i) = 0 := by
  rw [List.count_eq_zero]
  intro member
  cases link with
  | none => cases member
  | some link => cases mem_close member

/-- A connection with distinct sessions releases each of its own once, where its link is found. -/
theorem releasesOnce_iff {a : Answers} {c : Connection} (isOpen : c.closeOnce = false) (distinct : c.sessions.Nodup) :
    ReleasesOnce a c ↔ ∀ link, c.link = some link → Lists a link.name link.index := by
  -- The sessions are closed without a look at links.
  have none (link : RmnetLink) : (c.sessions.map Op.closePDN).count (.deleteLink link.name) = 0 := by
    rw [List.count_eq_zero]
    simp
  constructor
  · -- One deletion in the log is one that was sent.
    intro once link there
    have one := once.links 0 link there
    rw [closeTimes_eq a isOpen, List.count_append, none, there] at one
    rw [← deleteLink_mem_close]
    exact List.count_pos_iff.mp (by simpa [closeLink] using Nat.lt_of_lt_of_eq Nat.zero_lt_one one.symm)
  · -- The link is deleted by the first `Close` alone.
    intro lists
    constructor
    · intro n link there
      rw [closeTimes_eq a isOpen, List.count_append, none, there]
      simp [closeLink, RmnetLink.close, (deleteRMNetLink_ops a link.name link.index).1 (lists link there)]
    · -- So is each session closed, since the sessions are distinct.
      intro n i member
      rw [closeTimes_eq a isOpen, List.count_append, count_closePDN_closeLink]
      refine List.count_eq_one_of_mem (distinct.map fun _ _ same => ?_) (List.mem_map_of_mem member)
      cases same
      rfl

/-- Opening the sessions of the modem releases everything or hands it over. -/
theorem openPDNs_meets (a : Answers) (cfg : ConnectConfig) (link : Option RmnetLink) (interface : GoString)
    (preferences : List WDSIPPreference) (opened : List (NetworkConfig × Bool)) :
    match openPDNs a cfg link interface preferences opened with
    | (ops, .error _) =>
      (∀ i < opened.length, .closePDN i ∈ ops) ∧
        (∀ own, link = some own → (.deleteLink own.name ∈ ops ↔ Lists a own.name own.index)) ∧
        (∀ i, .openPDN i ∈ ops → .closePDN i ∈ ops) ∧ ∀ name, .addLink name ∉ ops
    | (ops, .ok c) =>
      (∀ i, i ∈ c.sessions ↔ i < opened.length ∨ .openPDN i ∈ ops) ∧ c.sessions.Nodup ∧ c.link = link ∧
        c.closeOnce = false ∧ (∀ name, .addLink name ∉ ops) ∧ (∀ name, .deleteLink name ∉ ops) ∧
        ∀ i, .closePDN i ∉ ops := by
  -- The induction is on the address families still to be opened.
  induction preferences generalizing opened with
  | nil => simp [openPDNs, List.nodup_range]
  | cons preference rest ih =>
    rw [openPDNs]
    cases answer : a.openPDN opened.length with
    | error err =>
      -- The sessions opened so far are closed, and then the link.
      simp only [closeSessions]
      cases link with
      | none => simp [closeLink]
      | some link =>
        have only {op : Op} (other : op ≠ .deleteLink link.name) : op ∉ (link.close a).1 :=
          fun member => other (mem_close member)
        simp only [closeLink]
        refine ⟨fun i below => by simp [below], ?_, ?_, ?_⟩
        · intro own same
          cases same
          simp [deleteLink_mem_close]
        · intro i member
          simp [only] at member
        · simp [only]
    | ok info =>
      -- The session joins those opened before.
      have more := ih (opened ++ [info])
      dsimp only
      generalize openPDNs a cfg link interface rest (opened ++ [info]) = result at more
      obtain ⟨ops, result⟩ := result
      simp only [List.length_append, List.length_singleton] at more
      cases result with
      -- What fails later closes this session too.
      | error err =>
        dsimp only at more ⊢
        obtain ⟨closes, deletes, opens, adds⟩ := more
        refine ⟨?_, ?_, ?_, by simpa using adds⟩
        · intro i below
          exact List.mem_cons_of_mem _ (closes i (by omega))
        · intro own same
          simpa using deletes own same
        · intro i member
          refine List.mem_cons_of_mem _ ?_
          rcases List.mem_cons.mp member with here | later
          · cases here
            exact closes _ (by omega)
          · exact opens i later
      -- What is handed over later has this session.
      | ok c =>
        dsimp only at more ⊢
        obtain ⟨sessions, distinct, own, isOpen, adds, deletes, closes⟩ := more
        refine ⟨?_, distinct, own, isOpen, by simpa using adds, by simpa using deletes, by simpa using closes⟩
        intro i
        rw [sessions i, List.mem_cons, Op.openPDN.injEq]
        constructor
        · rintro (below | later)
          · rcases Nat.lt_succ_iff_lt_or_eq.mp below with old | new
            · exact .inl old
            · exact .inr (.inl new)
          · exact .inr (.inr later)
        · rintro (old | new | later)
          · exact .inl (by omega)
          · exact .inl (by omega)
          · exact .inr later

/-- Without a link, what is opened is closed or handed over. -/
theorem openPDNs_unlinked (a : Answers) (cfg : ConnectConfig) :
    match openPDNs a cfg none cfg.interface (ipPreferences cfg.ipFamily) [] with
    | (ops, .error _) => Released ops
    | (ops, .ok c) => Owned ops c ∧ ReleasesOnce a c := by
  have meets := openPDNs_meets a cfg none cfg.interface (ipPreferences cfg.ipFamily) []
  generalize openPDNs a cfg none cfg.interface (ipPreferences cfg.ipFamily) [] = outcome at meets
  obtain ⟨ops, result⟩ := outcome
  cases result with
  | error err =>
    obtain ⟨-, -, opens, adds⟩ := meets
    exact ⟨fun name added => absurd added (adds name), opens⟩
  | ok c =>
    obtain ⟨sessions, distinct, own, isOpen, adds, deletes, closes⟩ := meets
    refine ⟨⟨?_, ?_, deletes, closes⟩, (releasesOnce_iff isOpen distinct).mpr (by simp [own])⟩
    · intro name
      simp [adds name, own]
    · intro i
      simp [sessions i]

/-- With a link, what is added and opened is released or handed over, where the link is found when it is closed. -/
theorem openPDNs_linked (a : Answers) (cfg : ConnectConfig) (link : RmnetLink) :
    (match openPDNs a cfg (some link) link.name (ipPreferences cfg.ipFamily) [] with
    | (ops, .error _) => Released (.addLink link.name :: ops)
    | (ops, .ok c) => Owned (.addLink link.name :: ops) c ∧ ReleasesOnce a c) ↔ Lists a link.name link.index := by
  have meets := openPDNs_meets a cfg (some link) link.name (ipPreferences cfg.ipFamily) []
  generalize openPDNs a cfg (some link) link.name (ipPreferences cfg.ipFamily) [] = outcome at meets
  obtain ⟨ops, result⟩ := outcome
  cases result with
  | error err =>
    -- A session that could not be opened has the link closed at once.
    obtain ⟨-, deleted, opens, adds⟩ := meets
    dsimp only
    rw [← deleted link rfl]
    constructor
    · intro released
      simpa using released.links link.name (by simp)
    · intro deleted
      constructor
      · intro name added
        rcases List.mem_cons.mp added with here | later
        · cases here
          exact List.mem_cons_of_mem _ deleted
        · exact absurd later (adds name)
      · intro i opened
        simp only [List.mem_cons, reduceCtorEq, false_or] at opened ⊢
        exact opens i opened
  | ok c =>
    -- The connection has the link, and closes it later.
    obtain ⟨sessions, distinct, own, isOpen, adds, deletes, closes⟩ := meets
    dsimp only
    rw [releasesOnce_iff isOpen distinct, own]
    have owned : Owned (.addLink link.name :: ops) c := by
      refine ⟨?_, ?_, by simpa using deletes, by simpa using closes⟩
      · intro name
        simp [adds name, own, eq_comm]
      · intro i
        simp [sessions i]
    simp [owned]

/-- A connect leaves nothing behind, and hands over what it keeps, exactly where it strands no link. -/
theorem connectPort_meets_iff (a : Answers) (cfg : ConnectConfig) (port : NetworkPort) :
    Meets a cfg port ↔ ¬ StrandsLink a cfg port := by
  unfold Meets connectPort StrandsLink
  by_cases large : 255 < cfg.profileID
  · -- A profile that does not fit is refused before anything is done.
    rw [if_pos large]
    exact ⟨fun _ both => absurd both.1 (by omega), fun _ => .nil⟩
  rw [if_neg large]
  cases embedded : port.embedded with
  | false =>
    -- A port without a link only opens sessions.
    simp only [Bool.false_eq_true, if_false, false_and, and_false, not_false_eq_true, iff_true]
    exact openPDNs_unlinked a cfg
  | true =>
    -- An embedded port makes its link first.
    simp only [if_true, true_and, Int.not_lt.mp large]
    rw [← prepareIPALink_meets a port]
    cases made : prepareIPALink a port with
    | mk ops result =>
      cases result with
      -- Without a link no session is opened.
      | error err => exact Iff.rfl
      | ok link =>
        have linked := openPDNs_linked a cfg link
        rw [prepareIPALink_ok made]
        simp only [LinkMeets]
        generalize openPDNs a cfg (some link) link.name (ipPreferences cfg.ipFamily) [] = outcome at linked
        obtain ⟨more, result⟩ := outcome
        cases result with
        | error err => exact linked
        | ok c => exact linked

/-- A kernel that adds a link and then cannot look it up. -/
def lostLink : Answers :=
  { base := .ok { index := 3, up := true }
    interfaces := .ok []
    addLink := fun _ => .added
    child := .error [1]
    openPDN := fun _ => .ok ({}, true)
    remaining := .ok [] }

/-- The link stays behind. -/
theorem lostLink_not_released :
    connectPort lostLink {} { name := GoString.ascii "wwan0", embedded := true } =
      ([.addLink (GoString.ascii "qmap3.0")], .error (.link (.childLookup (GoString.ascii "qmap3.0") [1]))) ∧
    ¬ Meets lostLink {} { name := GoString.ascii "wwan0", embedded := true } := by
  have outcome : connectPort lostLink {} { name := GoString.ascii "wwan0", embedded := true } =
      ([.addLink (GoString.ascii "qmap3.0")], .error (.link (.childLookup (GoString.ascii "qmap3.0") [1]))) := by
    decide +kernel
  refine ⟨outcome, ?_⟩
  unfold Meets
  rw [outcome]
  intro released
  simpa using released.links (GoString.ascii "qmap3.0") (by simp)

end Wwan.Modem.Qmi
