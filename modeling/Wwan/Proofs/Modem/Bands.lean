import Wwan.Modem.Bands

/-! The bands that are set are read back, as far as the masks of the modem hold them. -/

namespace Wwan.Modem.Qmi.Bands

open BitWords (Has hasBit or_and_ne_zero)
open SystemSelection

/-! The masks. -/

/-- A technology of NR. -/
def IsNR (technology : Technology) : Prop :=
  technology = technologyNR5GNSA ∨ technology = technologyNR5GSA ∨ technology = modeNR5G

/-- Exactly the masks of one legacy band have a bit in common. -/
theorem legacyBands_disjoint : ∀ one ∈ legacyBands, ∀ other ∈ legacyBands,
    one.mask &&& other.mask ≠ 0 ↔ one.band = other.band := by
  decide

/-- The technology of a legacy band is neither LTE nor NR. -/
theorem legacyBands_technology : ∀ entry ∈ legacyBands,
    entry.band.technology = technologyGSM ∨ entry.band.technology = technologyUMTS := by
  decide

/-- Setting a bit adds the number to the words, if it is within them. -/
theorem setWordBit_eq {n : Nat} {words result : Vector UInt64 n} {number : UInt16}
    (set : setWordBit words number = some result) :
    0 < number.toNat ∧ ∀ k, Has result.toList k ↔ Has words.toList k ∨ number.toNat = k + 1 := by
  rw [setWordBit] at set
  split at set
  · cases set
  · next fits =>
    cases set
    obtain ⟨nonzero, small⟩ := not_or.mp fits
    have positive : 0 < number.toNat := by
      rcases Nat.eq_zero_or_pos number.toNat with zero | positive
      · exact absurd (UInt16.toNat_inj.mp zero) nonzero
      · exact positive
    refine ⟨positive, fun k => ?_⟩
    rw [BitWords.has_insert (by omega)]
    exact or_congr Iff.rfl ⟨fun same => by omega, fun same => by omega⟩

/-- The masks show the bands. -/
structure Shows (masks : Masks) (bands : List Band) : Prop where
  legacy : ∀ entry ∈ legacyBands, masks.legacy &&& entry.mask ≠ 0 ↔ entry.band ∈ bands
  lte : ∀ k, Has masks.lte.toList k ↔ ∃ band ∈ bands, band.technology = technologyLTE ∧ band.number.toNat = k + 1
  nr : ∀ k, Has masks.nr.toList k ↔ ∃ band ∈ bands, IsNR band.technology ∧ band.number.toNat = k + 1
  /-- Each of them is in one of the masks. -/
  known : ∀ band ∈ bands, (∃ entry ∈ legacyBands, entry.band = band) ∨
    (band.technology = technologyLTE ∧ 0 < band.number.toNat) ∨ (IsNR band.technology ∧ 0 < band.number.toNat)

/-- Nothing is in the masks at first. -/
theorem shows_nil : Shows {} [] where
  legacy := by simp
  lte k := iff_of_false BitWords.not_has_zero (by simp)
  nr k := iff_of_false BitWords.not_has_zero (by simp)
  known := by simp

/-- What is so of one of the bands, with another band. -/
theorem exists_mem_concat {bands : List Band} {band : Band} {P : Band → Prop} :
    (∃ b ∈ bands ++ [band], P b) ↔ (∃ b ∈ bands, P b) ∨ P band := by
  simp [or_and_right, exists_or]

/-- A band of another technology is not among the legacy bands. -/
theorem legacy_concat {bands : List Band} {band : Band}
    (other : band.technology ≠ technologyGSM ∧ band.technology ≠ technologyUMTS) {entry : LegacyBand}
    (member : entry ∈ legacyBands) : entry.band ∈ bands ↔ entry.band ∈ bands ++ [band] := by
  have different : entry.band ≠ band := by
    intro same
    rcases legacyBands_technology entry member with technology | technology <;> rw [same] at technology
    · exact other.1 technology
    · exact other.2 technology
  simp [different]

/-- The bands stay known, with another band that is. -/
theorem known_concat {masks : Masks} {bands : List Band} {band : Band} (shows : Shows masks bands)
    (last : (∃ entry ∈ legacyBands, entry.band = band) ∨ (band.technology = technologyLTE ∧ 0 < band.number.toNat) ∨
      (IsNR band.technology ∧ 0 < band.number.toNat)) :
    ∀ b ∈ bands ++ [band], (∃ entry ∈ legacyBands, entry.band = b) ∨
      (b.technology = technologyLTE ∧ 0 < b.number.toNat) ∨ (IsNR b.technology ∧ 0 < b.number.toNat) := by
  intro b member
  rcases List.mem_append.mp member with earlier | same
  · exact shows.known b earlier
  · rw [List.mem_singleton.mp same]
    exact last

/-- A turn of the loop adds one band. -/
theorem shows_addBand {masks masks' : Masks} {bands : List Band} {band : Band} (shows : Shows masks bands)
    (added : addBand masks band = .ok masks') : Shows masks' (bands ++ [band]) := by
  rw [addBand] at added
  split at added
  · -- A legacy band has its own bits.
    next legacy =>
    have other : band.technology ≠ technologyLTE ∧ ¬IsNR band.technology := by
      rcases legacy with technology | technology <;> rw [technology] <;> exact ⟨by decide, by unfold IsNR; decide⟩
    split at added
    · next entry found =>
      cases added
      have member : entry ∈ legacyBands := List.mem_of_find?_eq_some found
      have same : entry.band = band := by simpa using List.find?_some found
      refine ⟨fun x inside => ?_, fun k => ?_, fun k => ?_, known_concat shows (.inl ⟨entry, member, same⟩)⟩
      · rw [or_and_ne_zero, shows.legacy x inside, legacyBands_disjoint entry member x inside, same]
        simp [eq_comm]
      · rw [shows.lte, exists_mem_concat]
        simp [other.1]
      · rw [shows.nr, exists_mem_concat]
        simp [other.2]
    · cases added
  · next legacy =>
    have legacy := not_or.mp legacy
    split at added
    · -- An LTE band is a bit of the LTE words.
      next technology =>
      have other : ¬IsNR band.technology := by
        rw [technology]
        unfold IsNR
        decide
      split at added
      · next lte set =>
        cases added
        obtain ⟨positive, has⟩ := setWordBit_eq set
        refine ⟨fun x inside => (shows.legacy x inside).trans (legacy_concat legacy inside), fun k => ?_, fun k => ?_,
          known_concat shows (.inr (.inl ⟨technology, positive⟩))⟩
        · rw [has, shows.lte, exists_mem_concat]
          simp [technology]
        · rw [shows.nr, exists_mem_concat]
          simp [other]
      · cases added
    · next other =>
      split at added
      · -- An NR band is a bit of the NR words.
        next technology =>
        split at added
        · next nr set =>
          cases added
          obtain ⟨positive, has⟩ := setWordBit_eq set
          refine ⟨fun x inside => (shows.legacy x inside).trans (legacy_concat legacy inside), fun k => ?_, fun k => ?_,
            known_concat shows (.inr (.inr ⟨technology, positive⟩))⟩
          · rw [shows.lte, exists_mem_concat]
            simp [other]
          · rw [has, shows.nr, exists_mem_concat]
            simp [show IsNR band.technology from technology]
        · cases added
      · cases added

/-- The loop adds all the bands. -/
theorem shows_foldlM {masks masks' : Masks} {before bands : List Band} (shows : Shows masks before)
    (added : bands.foldlM addBand masks = .ok masks') : Shows masks' (before ++ bands) := by
  induction bands generalizing masks before with
  | nil =>
    cases added
    simpa using shows
  | cons band bands ih =>
    rw [List.foldlM_cons] at added
    cases first : addBand masks band with
    | error err =>
      rw [first] at added
      cases added
    | ok next =>
      rw [first] at added
      rw [List.append_cons]
      exact ih (shows_addBand shows first) added

/-- The masks of the bands show them. -/
theorem shows_bandMasks {masks : Masks} {bands : List Band} (made : bandMasks bands = .ok masks) : Shows masks bands := by
  have shows := shows_foldlM shows_nil made
  simpa using shows

/-! Reading the masks. -/

/-- A band is in a mask of words exactly if its number is. -/
theorem mem_bandsFromWords {technology : Technology} {words : List UInt64} (short : words.length ≤ 8) {band : Band} :
    band ∈ bandsFromWords technology words ↔
      band.technology = technology ∧ ∃ k, Has words k ∧ band.number.toNat = k + 1 := by
  simp only [bandsFromWords, List.mem_flatMap, List.mem_map, List.mem_filter, List.mem_range, Prod.exists,
    List.mk_mem_zipIdx_iff_getElem?]
  constructor
  · -- A set bit of a word is a band.
    rintro ⟨word, index, found, i, ⟨small, set⟩, rfl⟩
    obtain ⟨inside, -⟩ := List.getElem?_eq_some_iff.mp found
    refine ⟨rfl, index * 64 + i, ⟨word, ?_, ?_⟩, ?_⟩
    · rw [show (index * 64 + i) / 64 = index by omega]
      exact found
    · rw [show (index * 64 + i) % 64 = i by omega]
      exact set
    · rw [UInt16.toNat_ofNat']
      omega
  · -- A band is the bit of its number.
    rintro ⟨rfl, k, ⟨word, found, set⟩, number⟩
    refine ⟨word, k / 64, found, k % 64, ⟨Nat.mod_lt _ (by decide), set⟩, ?_⟩
    rw [show k / 64 * 64 + k % 64 + 1 = band.number.toNat by omega, UInt16.ofNat_toNat]

/-- The legacy bands of a mask that shows the bands are those of them. -/
theorem mem_bandsFromLegacyMask {masks : Masks} {bands : List Band} (shows : Shows masks bands) {band : Band} :
    band ∈ bandsFromLegacyMask masks.legacy ↔ (∃ entry ∈ legacyBands, entry.band = band) ∧ band ∈ bands := by
  simp only [bandsFromLegacyMask, List.mem_map, List.mem_filter, decide_eq_true_eq]
  constructor
  · rintro ⟨entry, ⟨member, set⟩, rfl⟩
    exact ⟨⟨entry, member, rfl⟩, (shows.legacy entry member).mp set⟩
  · rintro ⟨⟨entry, member, rfl⟩, requested⟩
    exact ⟨entry, ⟨member, (shows.legacy entry member).mpr requested⟩, rfl⟩

/-- Words are not set exactly if they show nothing. -/
theorem bandsWordsSet_eq_false {words : List UInt64} : bandsWordsSet words = false ↔ ∀ k, ¬Has words k := by
  constructor
  · intro unset k has
    obtain ⟨word, member, nonzero⟩ := has.nonzero
    simp only [bandsWordsSet, List.any_eq_false, decide_eq_true_eq, not_not] at unset
    exact nonzero (unset word member)
  · intro none
    simp only [bandsWordsSet, List.any_eq_false, decide_eq_true_eq, not_not]
    intro word member
    by_contra nonzero
    obtain ⟨k, has⟩ := BitWords.exists_has member nonzero
    exact none k has

/-- The LTE masks that are sent. -/
inductive SendsLTE (preference : Preference) (masks : Masks) (config : Config) : Prop where
  | extended (known : preference.lteBandsExtended.isSome) (sent : config.lteBandsExtended = some masks.lte)
  | legacy (unknown : preference.lteBandsExtended = none) (unsent : config.lteBandsExtended = none)
      (sent : config.lteBandPreference = some (masks.lte.get 0))
  | nothing (unknown : preference.lteBandsExtended = none) (legacy : preference.lteBandPreference = none)
      (unsent : config.lteBandsExtended = none) (unsent' : config.lteBandPreference = none)
      (empty : ∀ k, ¬Has masks.lte.toList k)

/-- What is sent to select bands. -/
structure Sends (preference : Preference) (masks : Masks) (config : Config) : Prop where
  legacy : config.bandPreference = some masks.legacy
  lte : SendsLTE preference masks config
  sa : config.nr5gSABands = ifKnown preference.nr5gSABands masks.nr
  nsa : config.nr5gNSABands = ifKnown preference.nr5gNSABands masks.nr
  /-- Without a split mask, no NR band is to be sent. -/
  nr : preference.nr5gSABands = none → preference.nr5gNSABands = none → ∀ k, ¬Has masks.nr.toList k

/-- The selection of LTE bands sends their masks. -/
theorem sends_selectLTE {preference : Preference} {masks : Masks} {config config' : Config}
    (unsent : config.lteBandsExtended = none) (unsent' : config.lteBandPreference = none)
    (made : selectLTE preference masks config = .ok config') :
    SendsLTE preference masks config' ∧ config'.bandPreference = config.bandPreference := by
  rw [selectLTE] at made
  split at made
  · -- The modem knows the extended mask.
    next known =>
    cases made
    exact ⟨.extended known rfl, rfl⟩
  · -- Otherwise the legacy mask takes the bands, or there are none to send.
    next unknown =>
    have unknown : preference.lteBandsExtended = none := by simpa using unknown
    split at made
    · cases made
      exact ⟨.legacy unknown unsent rfl, rfl⟩
    · next legacy =>
      split at made
      · cases made
      · next unset =>
        cases made
        have empty := bandsWordsSet_eq_false.mp (by simpa using unset)
        exact ⟨.nothing unknown (by simpa using legacy) unsent unsent' empty, rfl⟩

/-- The selection of bands sends the masks. -/
theorem sends_bandSelectionConfig {preference : Preference} {masks : Masks} {config : Config}
    (made : bandSelectionConfig preference masks = .ok config) : Sends preference masks config := by
  rw [bandSelectionConfig] at made
  split at made
  · cases made
  · next chosen selected =>
    obtain ⟨lte, legacy⟩ := sends_selectLTE rfl rfl selected
    rw [selectNR] at made
    split at made
    · cases made
    · next available =>
      cases made
      have lte' : SendsLTE preference masks { chosen with
          nr5gSABands := ifKnown preference.nr5gSABands masks.nr
          nr5gNSABands := ifKnown preference.nr5gNSABands masks.nr } := by
        cases lte with
        | extended known sent => exact .extended known sent
        | legacy unknown unsent sent => exact .legacy unknown unsent sent
        | nothing unknown legacy unsent unsent' empty => exact .nothing unknown legacy unsent unsent' empty
      refine ⟨legacy, lte', rfl, rfl, fun sa nsa => bandsWordsSet_eq_false.mp ?_⟩
      simpa [sa, nsa, ifKnown] using available

/-- The LTE bands that are read after the masks are stored. -/
theorem mem_readLTE {preference : Preference} {masks : Masks} {config : Config} (sends : Sends preference masks config)
    {band : Band} : band ∈ readLTE (preference.store config) ↔ band.technology = technologyLTE ∧
      ∃ k, (Has masks.lte.toList k ∧ (preference.lteBandsExtended.isSome ∨ k < 64)) ∧ band.number.toNat = k + 1 := by
  rw [readLTE]
  cases sends.lte with
  | extended known sent =>
    simp only [Preference.store, sent, Option.some_or]
    rw [mem_bandsFromWords (by simp)]
    simp [known]
  | legacy unknown unsent sent =>
    simp only [Preference.store, unsent, unknown, sent, Option.or_none, Option.some_or]
    rw [mem_bandsFromWords (by simp)]
    have first {k : Nat} : Has [masks.lte.get 0] k ↔ Has masks.lte.toList k ∧ k < 64 := BitWords.has_first
    simp [first]
  | nothing unknown legacy unsent unsent' empty =>
    simp only [Preference.store, unsent, unsent', unknown, legacy, Option.or_none]
    simp [empty]

/-- The NR bands that are read after the masks are stored. -/
theorem mem_readNR {preference : Preference} {masks : Masks} {config : Config} (sends : Sends preference masks config)
    {band : Band} : band ∈ readNR (preference.store config) ↔ band.technology = modeNR5G ∧
      ∃ k, (Has masks.nr.toList k ∨ preference.nr5gSABands = none ∧ preference.nr5gNSABands = none ∧
        ∃ combined, preference.nr5gBands = some combined ∧ Has combined.toList k) ∧ band.number.toNat = k + 1 := by
  -- Only masks that the modem knows are sent.
  have sa : (preference.store config).nr5gSABands = ifKnown preference.nr5gSABands masks.nr := by
    simp only [Preference.store, sends.sa, ifKnown]
    cases preference.nr5gSABands <;> rfl
  have nsa : (preference.store config).nr5gNSABands = ifKnown preference.nr5gNSABands masks.nr := by
    simp only [Preference.store, sends.nsa, ifKnown]
    cases preference.nr5gNSABands <;> rfl
  rw [readNR, sa, nsa]
  by_cases split : preference.nr5gSABands = none ∧ preference.nr5gNSABands = none
  · -- Without split masks the combined one is left as it was.
    obtain ⟨noSA, noNSA⟩ := split
    have empty := sends.nr noSA noNSA
    simp only [noSA, noNSA, ifKnown, Option.isSome_none, Bool.false_eq_true, if_false, or_self]
    cases known : preference.nr5gBands with
    | none => simp [Preference.store, known, empty]
    | some combined =>
      simp only [Preference.store, known]
      rw [mem_bandsFromWords (by simp)]
      simp [empty]
  · -- Each split mask that is known has the bands, and the other one has none.
    have known : (ifKnown preference.nr5gSABands masks.nr).isSome ∨ (ifKnown preference.nr5gNSABands masks.nr).isSome := by
      rcases not_and_or.mp split with some | some
      · exact .inl (by simp [ifKnown, Option.isSome_iff_ne_none, some])
      · exact .inr (by simp [ifKnown, Option.isSome_iff_ne_none, some])
    have union (k : Nat) : Has ((knownWords (ifKnown preference.nr5gSABands masks.nr)).zipWith (· ||| ·)
        (knownWords (ifKnown preference.nr5gNSABands masks.nr))).toList k ↔ Has masks.nr.toList k := by
      rw [BitWords.has_zipWith]
      cases one : preference.nr5gSABands <;> cases other : preference.nr5gNSABands
      · exact absurd ⟨one, other⟩ split
      all_goals simp only [ifKnown, Option.isSome_none, Option.isSome_some, if_true, if_false, Bool.false_eq_true,
        knownWords, Option.getD_none, Option.getD_some, BitWords.not_has_zero, or_self, or_false, false_or]
    rw [if_pos known, mem_bandsFromWords (by simp)]
    simp only [union]
    refine and_congr Iff.rfl (exists_congr fun k => and_congr ?_ Iff.rfl)
    exact ⟨.inl, fun either => either.resolve_right fun none => split ⟨none.1, none.2.1⟩⟩

/-! All bands. -/

/-- Bands are ordered by their technology and number. -/
theorem Band.le_trans (a b c : Band) (below : Band.le a b) (above : Band.le b c) : Band.le a c := by
  simp only [Band.le] at below above ⊢
  grind

/-- Of two bands, one is the first. -/
theorem Band.le_total (a b : Band) : Band.le a b || Band.le b a := by
  simp only [Band.le]
  grind

/-- Only a band itself is both before and after it. -/
theorem Band.le_antisymm (a b : Band) (below : Band.le a b) (above : Band.le b a) : a = b := by
  cases a
  cases b
  simp only [Band.le] at below above
  grind

/-- An NR band is reported for both kinds of networks. -/
theorem reported_nr {band : Band} (nr : IsNR band.technology) : reported band = ⟨modeNR5G, band.number⟩ := by
  rw [reported]
  -- Any of the three NR technologies is reported as one.
  split
  · rfl
  · next other =>
    have combined : band.technology = modeNR5G := by
      rcases nr with nsa | sa | combined
      · exact absurd (.inl nsa) other
      · exact absurd (.inr sa) other
      · exact combined
    rw [← combined]

/-- Any other band is reported as it is. -/
theorem reported_other {band : Band} (other : ¬IsNR band.technology) : reported band = band := by
  rw [reported, if_neg]
  exact fun split => other (split.imp_right .inl)

/-- The technologies that are not of NR. -/
theorem not_isNR {technology : Technology}
    (other : technology = technologyGSM ∨ technology = technologyUMTS ∨ technology = technologyLTE) : ¬IsNR technology := by
  unfold IsNR
  rcases other with rfl | rfl | rfl <;> decide

/-- The bands that were requested, as they are reported, are those that the masks show. -/
theorem requested_iff {masks : Masks} {bands : List Band} (shows : Shows masks bands) {band : Band} :
    (∃ requested ∈ bands, reported requested = band) ↔ ((∃ entry ∈ legacyBands, entry.band = band) ∧ band ∈ bands) ∨
      (band.technology = technologyLTE ∧ ∃ k, Has masks.lte.toList k ∧ band.number.toNat = k + 1) ∨
      (band.technology = modeNR5G ∧ ∃ k, Has masks.nr.toList k ∧ band.number.toNat = k + 1) := by
  constructor
  · -- A requested band is shown by the mask of its technology.
    rintro ⟨requested, member, rfl⟩
    rcases shows.known requested member with ⟨entry, inside, rfl⟩ | ⟨lte, positive⟩ | ⟨nr, positive⟩
    · -- A band of the legacy mask.
      rw [reported_other (not_isNR ((legacyBands_technology entry inside).imp_right .inl))]
      exact .inl ⟨⟨entry, inside, rfl⟩, member⟩
    · -- An LTE band stands one bit below its number.
      rw [reported_other (not_isNR (.inr (.inr lte)))]
      have number : requested.number.toNat = requested.number.toNat - 1 + 1 := by omega
      exact .inr (.inl ⟨lte, _, (shows.lte _).mpr ⟨requested, member, lte, number⟩, number⟩)
    · -- An NR band is shown for both kinds of networks.
      rw [reported_nr nr]
      have number : requested.number.toNat = requested.number.toNat - 1 + 1 := by omega
      exact .inr (.inr ⟨rfl, _, (shows.nr _).mpr ⟨requested, member, nr, number⟩, number⟩)
  · -- What a mask shows has been requested.
    rintro (⟨⟨entry, inside, rfl⟩, member⟩ | ⟨lte, k, has, number⟩ | ⟨nr, k, has, number⟩)
    · -- A band of the legacy table.
      exact ⟨entry.band, member, reported_other (not_isNR ((legacyBands_technology entry inside).imp_right .inl))⟩
    · -- An LTE band.
      obtain ⟨requested, member, technology, same⟩ := (shows.lte k).mp has
      refine ⟨requested, member, ?_⟩
      rw [reported_other (not_isNR (.inr (.inr technology)))]
      cases requested
      cases band
      simp only [Band.mk.injEq]
      exact ⟨technology.trans lte.symm, UInt16.toNat_inj.mp (same.trans number.symm)⟩
    · -- An NR band.
      obtain ⟨requested, member, technology, same⟩ := (shows.nr k).mp has
      refine ⟨requested, member, ?_⟩
      rw [reported_nr technology]
      cases band
      simp only [Band.mk.injEq]
      exact ⟨nr.symm, UInt16.toNat_inj.mp (same.trans number.symm)⟩

/-- The bands that are read after the masks are stored: an LTE band may be missing, and combined NR bands may stay. -/
theorem mem_read {preference : Preference} {masks : Masks} {config : Config} {bands : List Band}
    (shows : Shows masks bands) (sends : Sends preference masks config) {band : Band} :
    band ∈ bandsFromLegacyMask masks.legacy ++ readLTE (preference.store config) ++ readNR (preference.store config) ↔
      ((∃ entry ∈ legacyBands, entry.band = band) ∧ band ∈ bands) ∨
      (band.technology = technologyLTE ∧
        ∃ k, (Has masks.lte.toList k ∧ (preference.lteBandsExtended.isSome ∨ k < 64)) ∧ band.number.toNat = k + 1) ∨
      (band.technology = modeNR5G ∧
        ∃ k, (Has masks.nr.toList k ∨ preference.nr5gSABands = none ∧ preference.nr5gNSABands = none ∧
          ∃ combined, preference.nr5gBands = some combined ∧ Has combined.toList k) ∧ band.number.toNat = k + 1) := by
  rw [List.mem_append, List.mem_append, mem_bandsFromLegacyMask shows, mem_readLTE sends, mem_readNR sends, or_assoc]

/-- Reading sorts the bands, and fails if there are none. -/
theorem readsBack_iff {preference : Preference} {masks : Masks} {config : Config} {bands : List Band}
    (sends : Sends preference masks config) (nonempty : bands ≠ []) :
    ReadsBack (preference.store config) bands ↔
      ∀ band, band ∈ bandsFromLegacyMask masks.legacy ++ readLTE (preference.store config) ++
        readNR (preference.store config) ↔ ∃ requested ∈ bands, reported requested = band := by
  have stored : (preference.store config).bandPreference = some masks.legacy := by simp [Preference.store, sends.legacy]
  rw [ReadsBack, readBands, stored]
  simp only
  constructor
  · -- What is read is the union of the masks, sorted.
    rintro ⟨result, read, -, exact⟩ band
    split at read
    · cases read
    · cases read
      rw [← exact band, normalizeBands, SortedSet.mem_normalize]
  · intro exact
    -- There is a band to be read, so reading does not fail.
    have some : (normalizeBands (bandsFromLegacyMask masks.legacy ++ readLTE (preference.store config) ++
        readNR (preference.store config))).length ≠ 0 := by
      obtain ⟨first, member⟩ := List.exists_mem_of_ne_nil bands nonempty
      have read := (exact (reported first)).mpr ⟨first, member, rfl⟩
      exact List.length_pos_of_mem (SortedSet.mem_normalize.mpr read) |>.ne'
    refine ⟨_, if_neg some, SortedSet.pairwise_normalize Band.le_trans Band.le_total Band.le_antisymm _, fun band => ?_⟩
    rw [normalizeBands, SortedSet.mem_normalize]
    exact exact band

/-- If all LTE bands are read back, those above the only mask were not requested. -/
theorem holds_lte {preference : Preference} {masks : Masks} {config : Config} {bands : List Band}
    (shows : Shows masks bands) (sends : Sends preference masks config)
    (exact : ∀ band, band ∈ bandsFromLegacyMask masks.legacy ++ readLTE (preference.store config) ++
      readNR (preference.store config) ↔ ∃ requested ∈ bands, reported requested = band) :
    preference.lteBandsExtended.isSome ∨ ∀ band ∈ bands, band.technology = technologyLTE → band.number ≤ 64 := by
  by_cases extended : preference.lteBandsExtended.isSome
  · -- The modem reports the extended mask.
    exact .inl extended
  · refine .inr fun band member lte => ?_
    -- Every requested LTE band is read back from the legacy mask.
    have read := (exact band).mpr ⟨band, member, reported_other (not_isNR (.inr (.inr lte)))⟩
    rcases (mem_read shows sends).mp read with ⟨⟨entry, inside, rfl⟩, -⟩ | ⟨-, k, ⟨-, within⟩, number⟩ | ⟨nr, -⟩
    · rcases legacyBands_technology entry inside with other | other <;> rw [lte] at other <;>
        exact absurd other (by decide)
    · rw [UInt16.le_iff_toNat_le]
      have small := within.resolve_left extended
      show band.number.toNat ≤ 64
      omega
    · rw [lte] at nr
      exact absurd nr (by decide)

/-- If no other NR band is read back, there are no combined ones, unless the split masks take their place. -/
theorem holds_nr {preference : Preference} {masks : Masks} {config : Config} {bands : List Band}
    (shows : Shows masks bands) (sends : Sends preference masks config)
    (exact : ∀ band, band ∈ bandsFromLegacyMask masks.legacy ++ readLTE (preference.store config) ++
      readNR (preference.store config) ↔ ∃ requested ∈ bands, reported requested = band) :
    preference.nr5gSABands.isSome ∨ preference.nr5gNSABands.isSome ∨
      ∀ combined, preference.nr5gBands = some combined → ∀ word ∈ combined.toList, word = 0 := by
  cases sa : preference.nr5gSABands with
  | some mask => exact .inl rfl
  | none =>
    cases nsa : preference.nr5gNSABands with
    | some mask => exact .inr (.inl rfl)
    | none =>
      refine .inr (.inr fun combined known word member => ?_)
      -- A combined mask with a bit in it would be read as a band.
      by_contra nonzero
      obtain ⟨k, has⟩ := BitWords.exists_has member nonzero
      have inside := has.inside
      have number : (UInt16.ofNat (k + 1)).toNat = k + 1 := by
        rw [UInt16.toNat_ofNat']
        omega
      have read : (⟨modeNR5G, UInt16.ofNat (k + 1)⟩ : Band) ∈ bandsFromLegacyMask masks.legacy ++
          readLTE (preference.store config) ++ readNR (preference.store config) :=
        (mem_read shows sends).mpr (.inr (.inr ⟨rfl, k, .inr ⟨sa, nsa, combined, known, has⟩, number⟩))
      -- No NR band can have been requested then.
      rcases (requested_iff shows).mp ((exact _).mp read) with ⟨⟨entry, inside, same⟩, -⟩ | ⟨lte, -⟩ | ⟨-, j, shown, -⟩
      · have technology : entry.band.technology = modeNR5G := by rw [same]
        rcases legacyBands_technology entry inside with other | other <;> rw [technology] at other <;>
          exact absurd other (by decide)
      · exact absurd (show modeNR5G = technologyLTE from lte) (by decide)
      · exact sends.nr sa nsa j shown

/-- The bands that are set are read back exactly if the masks that the modem reports can hold them. -/
theorem bands_read_back {preference : Preference} {bands : List Band} {config : Config}
    (set : setBands preference bands = .ok config) :
    ReadsBack (preference.store config) bands ↔ Holds preference bands := by
  rw [setBands] at set
  split at set
  · cases set
  · next nonempty =>
    split at set
    · cases set
    · next masks made =>
      -- The masks show what is requested, and all of them are sent.
      have shows := shows_bandMasks made
      have sends := sends_bandSelectionConfig set
      rw [readsBack_iff sends (by simpa using nonempty)]
      refine ⟨fun exact => ⟨holds_lte shows sends exact, holds_nr shows sends exact⟩, fun holds band => ?_⟩
      obtain ⟨lte, nr⟩ := holds
      rw [mem_read shows sends, requested_iff shows]
      refine or_congr Iff.rfl (or_congr (and_congr Iff.rfl (exists_congr fun k => and_congr ?_ Iff.rfl))
        (and_congr Iff.rfl (exists_congr fun k => and_congr ?_ Iff.rfl)))
      · -- The LTE bands fit into the legacy mask.
        refine ⟨And.left, fun has => ⟨has, lte.imp_right fun small => ?_⟩⟩
        obtain ⟨requested, member, technology, number⟩ := (shows.lte k).mp has
        have bound := UInt16.le_iff_toNat_le.mp (small requested member technology)
        change requested.number.toNat ≤ 64 at bound
        omega
      · -- The combined NR mask is not read, or is empty.
        refine ⟨fun either => either.resolve_right ?_, .inl⟩
        rintro ⟨sa, nsa, combined, known, has⟩
        obtain ⟨word, member, nonzero⟩ := has.nonzero
        rcases nr with some | some | zero
        · simp [sa] at some
        · simp [nsa] at some
        · exact nonzero (zero combined known word member)

/-- What a modem reports that has an extended LTE mask and the split NR masks. -/
def newModem : Preference where
  bandPreference := some 0
  lteBandsExtended := some (.replicate 4 0)
  nr5gSABands := some (.replicate 8 0)
  nr5gNSABands := some (.replicate 8 0)

/-- Bands of every technology are read back from it. -/
theorem newModem_reads_back : ∃ config,
    setBands newModem [⟨technologyNR5GSA, 78⟩, ⟨technologyLTE, 66⟩, ⟨technologyGSM, 900⟩] = .ok config ∧
      (ReadsBack (newModem.store config) [⟨technologyNR5GSA, 78⟩, ⟨technologyLTE, 66⟩, ⟨technologyGSM, 900⟩] ↔
        Holds newModem [⟨technologyNR5GSA, 78⟩, ⟨technologyLTE, 66⟩, ⟨technologyGSM, 900⟩]) ∧
      Holds newModem [⟨technologyNR5GSA, 78⟩, ⟨technologyLTE, 66⟩, ⟨technologyGSM, 900⟩] := by
  refine ⟨_, rfl, bands_read_back rfl, .inl rfl, .inl rfl⟩

/-- What a modem reports that has only the LTE mask of 64 bits. -/
def oldModem : Preference where
  bandPreference := some 0
  lteBandPreference := some 0

/-- Setting a band above it succeeds there, but no band is read back. -/
theorem oldModem_drops : ∃ config, setBands oldModem [⟨technologyLTE, 66⟩] = .ok config ∧
    readBands (oldModem.store config) = .error .preferenceUnavailable ∧
    ¬ReadsBack (oldModem.store config) [⟨technologyLTE, 66⟩] := by
  -- No band is left in the masks that the modem stores.
  have failed : readBands (oldModem.store { bandPreference := some 0, lteBandPreference := some 0 }) =
      .error .preferenceUnavailable := by
    have none : bandsFromLegacyMask 0 ++ readLTE (oldModem.store { bandPreference := some 0, lteBandPreference := some 0 }) ++
        readNR (oldModem.store { bandPreference := some 0, lteBandPreference := some 0 }) = [] := by
      decide +kernel
    rw [readBands]
    show (if (normalizeBands (bandsFromLegacyMask 0 ++ _ ++ _)).length = 0 then _ else _) = _
    rw [none]
    simp [normalizeBands, SortedSet.normalize, SortedSet.compact]
  refine ⟨{ bandPreference := some 0, lteBandPreference := some 0 }, by decide +kernel, failed, ?_⟩
  rintro ⟨result, read, -⟩
  rw [failed] at read
  cases read

end Wwan.Modem.Qmi.Bands
