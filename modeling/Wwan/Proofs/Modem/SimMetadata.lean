import Wwan.Modem.SimMetadata

/-! Cached SIM metadata belong to the card whose ICCID they are cached for, as far as the load checks it. -/

namespace Wwan.Modem.SimMetadata

variable {μ : Type}

/-- The metadata are empty, or were read from a card with this ICCID. -/
def State.Belongs (empty : μ) (readFrom : μ → Card → Prop) (s : State μ) (iccid : GoString) (metadata : μ) : Prop :=
  metadata = empty ∨ ∃ card, (card, metadata) ∈ s.reads ∧ card.iccid = iccid ∧ readFrom metadata card

/-- All metadata that were returned or are cached belong to the ICCID they are reported for. -/
structure State.AllBelong (empty : μ) (readFrom : μ → Card → Prop) (s : State μ) : Prop where
  cached : s.Belongs empty readFrom s.key s.metadata
  returned : ∀ iccid metadata, (iccid, metadata) ∈ s.returned → s.Belongs empty readFrom iccid metadata

/--
What holds between the steps.

What a caller has loaded was read from a card of which the last argument knows something.
-/
structure State.Sound (empty : μ) (readFrom : μ → Card → Prop) (known : GoString → Card → μ → Prop) (s : State μ) :
    Prop where
  belong : s.AllBelong empty readFrom
  loaded : ∀ caller iccid metadata, s.callers caller = .loaded iccid (some metadata) →
    ∃ card, (card, metadata) ∈ s.reads ∧ readFrom metadata card ∧ known iccid card metadata

variable {empty : μ} {readFrom : μ → Card → Prop} {known : GoString → Card → μ → Prop} {s : State μ}

/-- Moving a caller leaves its own new stage and the old stages of the others. -/
theorem State.callers_enter (s : State μ) (caller other : CallerID) (stage : Stage μ) :
    (s.enter caller stage).callers other = if other = caller then stage else s.callers other := by
  simp [State.enter, Function.update_apply]

/-- A caller that moves on without a loaded card changes nothing that matters. -/
theorem State.Sound.enter (sound : s.Sound empty readFrom known) (caller : CallerID) (stage : Stage μ)
    (bare : ∀ iccid metadata, stage ≠ .loaded iccid (some metadata)) :
    (s.enter caller stage).Sound empty readFrom known := by
  refine ⟨⟨sound.belong.cached, sound.belong.returned⟩, fun other iccid metadata at_ => ?_⟩
  rw [State.callers_enter] at at_
  split at at_
  · exact absurd at_ (bare iccid metadata)
  · exact sound.loaded other iccid metadata at_

/-- A caller may take the right to load. -/
theorem State.Sound.lock (sound : s.Sound empty readFrom known) {caller : CallerID} {iccid : GoString} {s' : State μ}
    (locked : s.lock caller iccid = some s') : s'.Sound empty readFrom known := by
  unfold State.lock at locked
  split at locked
  · have entered := sound.enter caller (.holding iccid) (by simp)
    rw [← Option.some.inj locked]
    exact ⟨⟨entered.belong.cached, entered.belong.returned⟩, entered.loaded⟩
  · simp at locked

/-- A call may return what belongs to its ICCID. -/
theorem State.Sound.ret (sound : s.Sound empty readFrom known) (caller : CallerID) {iccid : GoString} {metadata : μ}
    (belongs : s.Belongs empty readFrom iccid metadata) : (s.ret caller iccid metadata).Sound empty readFrom known := by
  have entered := sound.enter caller .idle (by simp)
  refine ⟨⟨entered.belong.cached, fun other value member => ?_⟩, entered.loaded⟩
  rcases List.mem_append.mp member with earlier | now
  · exact entered.belong.returned other value earlier
  · simp only [List.mem_singleton, Prod.mk.injEq] at now
    obtain ⟨rfl, rfl⟩ := now
    exact belongs

/-- A call may give back the right to load and return what belongs to its ICCID. -/
theorem State.Sound.unlockRet (sound : s.Sound empty readFrom known) (caller : CallerID) {iccid : GoString} {metadata : μ}
    (belongs : s.Belongs empty readFrom iccid metadata) :
    (s.unlockRet caller iccid metadata).Sound empty readFrom known := by
  have returned := sound.ret caller belongs
  exact ⟨⟨returned.belong.cached, returned.belong.returned⟩, returned.loaded⟩

/-- What belongs to an ICCID may be cached for it. -/
theorem State.Sound.store (sound : s.Sound empty readFrom known) {iccid : GoString} {metadata : μ}
    (belongs : s.Belongs empty readFrom iccid metadata) :
    State.Sound empty readFrom known { s with key := iccid, metadata } :=
  ⟨⟨belongs, sound.belong.returned⟩, sound.loaded⟩

/-- What was read stays read. -/
theorem State.Belongs.mono {s s' : State μ} {iccid : GoString} {metadata : μ}
    (belongs : s.Belongs empty readFrom iccid metadata) (more : s.reads ⊆ s'.reads) :
    s'.Belongs empty readFrom iccid metadata := by
  rcases belongs with none | ⟨card, read, same, from_⟩
  · exact .inl none
  · exact .inr ⟨card, more read, same, from_⟩

/-- A load may read any card of which the caller then knows what it has to. -/
theorem State.Sound.load (sound : s.Sound empty readFrom known) {read : Card → μ} {caller : CallerID} {iccid : GoString}
    {answers : LoadAnswers}
    (reads : ∀ card loaded, s.slot = some card → loadCard (some card) answers = some loaded →
      readFrom (read loaded) card ∧ known iccid card (read loaded)) :
    (s.load read caller iccid answers).Sound empty readFrom known := by
  unfold State.load
  cases slot : s.slot with
  -- The slot is empty, and the load fails.
  | none => exact sound.enter caller _ (by simp)
  | some card =>
    cases load : loadCard (some card) answers with
    -- A mandatory file cannot be read.
    | none => exact sound.enter caller _ (by simp)
    | some loaded =>
      -- One more reading is on record.
      have more : s.reads ⊆ s.reads ++ [(card, read loaded)] := List.subset_append_left _ _
      obtain ⟨from_, knows⟩ := reads card loaded slot load
      refine ⟨⟨sound.belong.cached.mono more, fun other value member => ?_⟩, fun other iccid' metadata at_ => ?_⟩
      · -- What was returned before has been read before.
        exact (sound.belong.returned other value member).mono more
      · -- The caller holds what it has just read, and the others what they held.
        simp only [State.callers_enter] at at_
        split at at_
        · simp only [Stage.loaded.injEq, Option.some.injEq] at at_
          obtain ⟨rfl, rfl⟩ := at_
          exact ⟨card, by simp, from_, knows⟩
        · obtain ⟨other, member, rest⟩ := sound.loaded other iccid' metadata at_
          exact ⟨other, more member, rest⟩

end SimMetadata

open SimMetadata

/-! The QMI backend. -/

namespace Qmi

/-- The fields were read from the card, or are empty. -/
def SIMMetadata.ReadFrom (metadata : SIMMetadata) (card : Card) : Prop :=
  metadata.operatorID = card.mcc ++ card.mnc ∧ (metadata.gid1 = card.gid1 ∨ metadata.gid1 = []) ∧
    (metadata.spn = card.spn ∨ metadata.spn = [])

/-- What is read of a loaded card was read from the card in the slot, its ICCID included. -/
theorem metadataOf_readFrom {card loaded : Card} {answers : LoadAnswers}
    (load : loadCard (some card) answers = some loaded) :
    (metadataOf loaded).ReadFrom card ∧ (metadataOf loaded).iccid = card.iccid := by
  unfold loadCard at load
  simp only at load
  split at load
  · -- The files that may be missing are read as empty.
    rw [← Option.some.inj load]
    refine ⟨⟨rfl, ?_, ?_⟩, rfl⟩
    · cases answers.gid1 <;> simp [metadataOf]
    · cases answers.spn <;> simp [metadataOf]
  · simp at load

/-- What the cache has for an ICCID belongs to it. -/
theorem belongs_of_cached {known : GoString → Card → SIMMetadata → Prop} {s : State SIMMetadata}
    (sound : s.Sound {} SIMMetadata.ReadFrom known) {iccid : GoString} {metadata : SIMMetadata}
    (cached : cachedSIMMetadata s iccid = some metadata) : s.Belongs {} SIMMetadata.ReadFrom iccid metadata := by
  unfold cachedSIMMetadata at cached
  split at cached
  · -- Nothing is cached.
    simp at cached
  · split at cached
    · -- The cache is for another card.
      simp at cached
    · -- The cache is for this card.
      rename_i same
      rw [← Option.some.inj cached, ← not_not.mp same]
      exact sound.belong.cached

/-- In the QMI backend all metadata belong to their ICCID, whatever happens to the card. -/
theorem simMetadata_sound {trace : List (State SIMMetadata × Event)} {s : State SIMMetadata}
    (run : simMetadata.Runs trace s) :
    s.Sound {} SIMMetadata.ReadFrom fun _ card metadata => metadata.iccid = card.iccid := by
  refine Machine.Runs.stateInvariant ?_ ?_ run
  · exact ⟨⟨.inl rfl, by simp [simMetadata]⟩, by simp [simMetadata]⟩
  · intro s event s' sound stepped
    change simMetadataStep s event = some s' at stepped
    cases event with
    | swap slot =>
      -- A swap changes neither the cache nor what was returned.
      rw [← Option.some.inj stepped]
      exact ⟨⟨sound.belong.cached, sound.belong.returned⟩, sound.loaded⟩
    | call caller iccid =>
      simp only [simMetadataStep] at stepped
      split at stepped
      · rw [← Option.some.inj stepped]
        exact sound.enter caller _ (by simp)
      · simp at stepped
    | cancel caller =>
      simp only [simMetadataStep] at stepped
      split at stepped
      · rw [← Option.some.inj stepped]
        exact sound.ret caller (.inl rfl)
      · simp at stepped
    | load caller answers =>
      simp only [simMetadataStep] at stepped
      split at stepped
      · rw [← Option.some.inj stepped]
        exact sound.load fun card loaded _ load => metadataOf_readFrom load
      · simp at stepped
    | go caller =>
      -- What a call does next is told by its stage.
      simp only [simMetadataStep, simMetadataGo] at stepped
      split at stepped
      · split at stepped
        · -- The cache has the ICCID that was asked for.
          rename_i cached
          rw [← Option.some.inj stepped]
          exact sound.ret caller (belongs_of_cached sound cached)
        · rw [← Option.some.inj stepped]
          exact sound.enter caller _ (by simp)
      · exact sound.lock stepped
      · split at stepped
        · -- The cache is looked at again under the lock.
          rename_i cached
          rw [← Option.some.inj stepped]
          exact sound.unlockRet caller (belongs_of_cached sound cached)
        · rw [← Option.some.inj stepped]
          exact sound.enter caller _ (by simp)
      · rename_i iccid loaded at_
        -- A load that failed, or read another ICCID, is not stored.
        split at stepped
        · rw [← Option.some.inj stepped]
          exact sound.unlockRet caller (.inl rfl)
        · -- The ICCID that was read from the card is the one that was asked for.
          rename_i same
          rw [not_or, not_not] at same
          cases loaded with
          | none => simp at same
          | some metadata =>
            obtain ⟨card, read, from_, own⟩ := sound.loaded caller iccid metadata at_
            simp only [Option.getD_some] at same stepped
            have belongs : s.Belongs {} SIMMetadata.ReadFrom iccid metadata :=
              .inr ⟨card, read, own.symm.trans same.2, from_⟩
            rw [← Option.some.inj stepped]
            exact (sound.store belongs).unlockRet caller belongs
      · simp at stepped

end Qmi

/-! The MBIM backend. -/

namespace Mbim

/-- The fields were read from the card, or are empty. -/
def SimFileMetadata.ReadFrom (metadata : SimFileMetadata) (card : Card) : Prop :=
  metadata.operatorID = card.mcc ++ card.mnc ∧ (metadata.gid1 = card.gid1 ∨ metadata.gid1 = []) ∧
    (metadata.spn = card.spn ∨ metadata.spn = [])

/-- A load that succeeds finds the card whose ICCID its call was given. -/
def LoadsOwn (s : State SimFileMetadata) : Event → Prop
  | .load caller answers => ∀ iccid card, s.callers caller = .loading iccid → s.slot = some card →
      answers.mandatory = true → card.iccid = iccid
  | _ => True

/-- What is read of a loaded card was read from the card in the slot. -/
theorem metadataOf_readFrom {card loaded : Card} {answers : LoadAnswers}
    (load : loadCard (some card) answers = some loaded) :
    (metadataOf loaded).ReadFrom card ∧ answers.mandatory = true := by
  unfold loadCard at load
  simp only at load
  split at load
  · -- The files that may be missing are read as empty.
    rename_i mandatory
    rw [← Option.some.inj load]
    refine ⟨⟨rfl, ?_, ?_⟩, mandatory⟩
    · cases answers.gid1 <;> simp [metadataOf]
    · cases answers.spn <;> simp [metadataOf]
  · simp at load

/-- In the MBIM backend all metadata belong to their ICCID as long as every load finds its own card. -/
theorem simMetadata_sound {trace : List (State SimFileMetadata × Event)} {s : State SimFileMetadata}
    (run : simMetadata.Runs trace s) (own : ∀ step ∈ trace, LoadsOwn step.1 step.2) :
    s.Sound {} SimFileMetadata.ReadFrom fun iccid card _ => card.iccid = iccid := by
  revert own
  refine Machine.Runs.invariant (P := fun trace s => (∀ step ∈ trace, LoadsOwn step.1 step.2) →
    s.Sound {} SimFileMetadata.ReadFrom fun iccid card _ => card.iccid = iccid) ?_ ?_ run
  · intro _
    exact ⟨⟨.inl rfl, by simp [simMetadata]⟩, by simp [simMetadata]⟩
  · intro trace s event s' _ ih stepped own
    have sound := ih fun step member => own step (by simp [member])
    have owned : LoadsOwn s event := own (s, event) (by simp)
    change simMetadataStep s event = some s' at stepped
    cases event with
    | swap slot =>
      -- A swap changes neither the cache nor what was returned.
      rw [← Option.some.inj stepped]
      exact ⟨⟨sound.belong.cached, sound.belong.returned⟩, sound.loaded⟩
    | call caller iccid =>
      simp only [simMetadataStep] at stepped
      split at stepped
      · rw [← Option.some.inj stepped]
        exact sound.enter caller _ (by simp)
      · simp at stepped
    | cancel caller => simp [simMetadataStep] at stepped
    | load caller answers =>
      simp only [simMetadataStep] at stepped
      split at stepped
      · -- The load finds its own card, which the condition says.
        rename_i iccid at_
        rw [← Option.some.inj stepped]
        refine sound.load fun card loaded slot load => ?_
        obtain ⟨from_, mandatory⟩ := metadataOf_readFrom load
        exact ⟨from_, owned iccid card at_ slot mandatory⟩
      · simp at stepped
    | go caller =>
      -- What a call does next is told by its stage.
      simp only [simMetadataStep, simMetadataGo] at stepped
      split at stepped
      · exact sound.lock stepped
      · split at stepped
        · rename_i cached
          rw [← Option.some.inj stepped]
          refine sound.unlockRet caller ?_
          rw [← cached.2]
          exact sound.belong.cached
        · rw [← Option.some.inj stepped]
          exact sound.enter caller _ (by simp)
      · rw [← Option.some.inj stepped]
        exact sound.unlockRet caller (.inl rfl)
      · -- Nothing but the condition ties the loaded card to the ICCID.
        rename_i iccid metadata at_
        obtain ⟨card, read, from_, same⟩ := sound.loaded caller iccid metadata at_
        have belongs : s.Belongs {} SimFileMetadata.ReadFrom iccid metadata := .inr ⟨card, read, same, from_⟩
        rw [← Option.some.inj stepped]
        exact (sound.store belongs).unlockRet caller belongs
      · simp at stepped

end Mbim

/--
All metadata that the backends return or cache belong to their ICCID, provided that MBIM loads find their own cards.

The QMI backend compares the ICCID of the loaded card itself and needs no such condition.
-/
theorem simMetadata_belong {qmiTrace : List (State Qmi.SIMMetadata × Event)} {qmi : State Qmi.SIMMetadata}
    {mbimTrace : List (State Mbim.SimFileMetadata × Event)} {mbim : State Mbim.SimFileMetadata}
    (qmiRun : Qmi.simMetadata.Runs qmiTrace qmi) (mbimRun : Mbim.simMetadata.Runs mbimTrace mbim)
    (own : ∀ step ∈ mbimTrace, Mbim.LoadsOwn step.1 step.2) :
    qmi.AllBelong {} Qmi.SIMMetadata.ReadFrom ∧ mbim.AllBelong {} Mbim.SimFileMetadata.ReadFrom :=
  ⟨(Qmi.simMetadata_sound qmiRun).belong, (Mbim.simMetadata_sound mbimRun own).belong⟩

/-- A card with a service provider name. -/
def oneCard : Card :=
  { iccid := [0x31], imsi := [], mcc := [0x32], mnc := [], gid1 := [], spn := [0x61] }

/-- A card of another provider. -/
def otherCard : Card :=
  { iccid := [0x33], imsi := [], mcc := [0x34], mnc := [], gid1 := [], spn := [0x62] }

/-- The QMI backend is asked about a card that is swapped before it is loaded. -/
def qmiEvents : List Event :=
  [.swap (some oneCard), .call 0 [0x31], .swap (some otherCard), .go 0, .go 0, .go 0, .load 0 ⟨true, true, true⟩, .go 0]

/-- The MBIM backend is asked about a card twice, and the card is swapped after it was loaded. -/
def mbimEvents : List Event :=
  [.swap (some oneCard), .call 0 [0x31], .go 0, .go 0, .load 0 ⟨true, true, true⟩, .go 0, .swap (some otherCard),
    .call 1 [0x31], .go 1, .go 1]

/-- The stage and the slot that every load of a run found. -/
def loadsOf (trace : List (State Mbim.SimFileMetadata × Event)) : List (Stage Mbim.SimFileMetadata × Option Card) :=
  trace.filterMap fun step =>
    match step.2 with
    | .load caller _ => some (step.1.callers caller, step.1.slot)
    | _ => none

/-- The MBIM backend returns the metadata of the card it was asked about, and the QMI backend returns nothing. -/
theorem mbimEvents_belong : ∃ (qmi : State Qmi.SIMMetadata) (mbim : State Mbim.SimFileMetadata),
    qmi.returned = [([0x31], {})] ∧
      mbim.returned = [([0x31], Mbim.metadataOf oneCard), ([0x31], Mbim.metadataOf oneCard)] ∧
      qmi.AllBelong {} Qmi.SIMMetadata.ReadFrom ∧ mbim.AllBelong {} Mbim.SimFileMetadata.ReadFrom := by
  -- What the runs end in is evaluated.
  have qmiGlance : (Qmi.simMetadata.runFrom Qmi.simMetadata.init qmiEvents).map (fun run => run.2.returned) =
      some [([0x31], {})] := by decide +kernel
  have mbimGlance : (Mbim.simMetadata.runFrom Mbim.simMetadata.init mbimEvents).map
      (fun run => (loadsOf run.1, run.2.returned)) = some ([(.loading [0x31], some oneCard)],
        [([0x31], Mbim.metadataOf oneCard), ([0x31], Mbim.metadataOf oneCard)]) := by decide +kernel
  obtain ⟨qmiTrace, qmi, qmiRun, -, qmiReturned⟩ := Machine.exists_runs qmiGlance
  obtain ⟨mbimTrace, mbim, mbimRun, -, seen⟩ := Machine.exists_runs mbimGlance
  simp only [Prod.mk.injEq] at seen
  -- The only load finds the card that the call was given the ICCID of.
  have own : ∀ step ∈ mbimTrace, Mbim.LoadsOwn step.1 step.2 := by
    intro step member
    cases event : step.2 with
    | load caller answers =>
      intro iccid card loading slot _
      have found : (step.1.callers caller, step.1.slot) ∈ loadsOf mbimTrace :=
        List.mem_filterMap.mpr ⟨step, member, by simp [event]⟩
      rw [seen.1, loading, slot] at found
      simp only [List.mem_singleton, Prod.mk.injEq, Stage.loading.injEq, Option.some.injEq] at found
      rw [found.1, found.2]
      rfl
    | _ => trivial
  have both := simMetadata_belong qmiRun mbimRun own
  exact ⟨qmi, mbim, qmiReturned, seen.2, both.1, both.2⟩

/-- The MBIM backend is asked about a card that is swapped before it is loaded. -/
def swappedEvents : List Event :=
  [.swap (some oneCard), .call 0 [0x31], .swap (some otherCard), .go 0, .go 0, .load 0 ⟨true, true, true⟩, .go 0]

/-- The MBIM backend then returns and caches the metadata of the other card. -/
theorem swappedEvents_not_belong : ∃ trace s, Mbim.simMetadata.Runs trace s ∧
    s.returned = [([0x31], Mbim.metadataOf otherCard)] ∧ ¬ s.AllBelong {} Mbim.SimFileMetadata.ReadFrom := by
  -- What the run ends in is evaluated.
  have glance : (Mbim.simMetadata.runFrom Mbim.simMetadata.init swappedEvents).map
      (fun run => (run.2.returned, run.2.reads)) =
      some ([([0x31], Mbim.metadataOf otherCard)], [(otherCard, Mbim.metadataOf otherCard)]) := by decide +kernel
  obtain ⟨trace, s, run, -, seen⟩ := Machine.exists_runs glance
  simp only [Prod.mk.injEq] at seen
  refine ⟨trace, s, run, seen.1, fun belong => ?_⟩
  rcases belong.returned [0x31] (Mbim.metadataOf otherCard) (by simp [seen.1]) with none | ⟨card, read, same, -⟩
  · -- The metadata is not empty.
    exact absurd none (by decide)
  · -- The only card that was read has another ICCID.
    rw [seen.2] at read
    simp only [List.mem_singleton, Prod.mk.injEq, and_true] at read
    rw [read] at same
    exact absurd same (by decide)

end Wwan.Modem
