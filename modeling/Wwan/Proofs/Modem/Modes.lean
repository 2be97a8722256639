import Mathlib.Data.List.Perm.Basic
import Wwan.Lib.BitWords
import Wwan.Modem.Modes

/-! A mode that is offered can be selected, and is then the current one among the same modes. -/

namespace Wwan.Modem.Qmi.Modes

open SystemSelection

/-! Sets of families. -/

/-- The technologies of a set of families. -/
def families (gsm umts lte nr : Bool) : Technology :=
  flag (flag (flag (flag 0 gsm technologyGSM) umts technologyUMTS) lte technologyLTE) nr modeNR5G

/-- The technologies are those of a set of families. -/
def Canonical (technology : Technology) : Prop := ∃ gsm umts lte nr, technology = families gsm umts lte nr

/-- Canonical technologies are sets of families. -/
theorem canonicalModeTechnology_canonical (technology : Technology) : Canonical (canonicalModeTechnology technology) :=
  ⟨_, _, _, _, rfl⟩

/-- Common families are families. -/
theorem Canonical.and {one other : Technology} (canonical : Canonical one) (canonical' : Canonical other) :
    Canonical (one &&& other) := by
  obtain ⟨gsm, umts, lte, nr, rfl⟩ := canonical
  obtain ⟨gsm', umts', lte', nr', rfl⟩ := canonical'
  refine ⟨gsm && gsm', umts && umts', lte && lte', nr && nr', ?_⟩
  revert gsm umts lte nr gsm' umts' lte' nr'
  decide

/-- A set of families is canonical already. -/
theorem Canonical.eq {technology : Technology} (canonical : Canonical technology) :
    canonicalModeTechnology technology = technology := by
  obtain ⟨gsm, umts, lte, nr, rfl⟩ := canonical
  revert gsm umts lte nr
  decide

/-- The mode preference for a set of families is read back. -/
theorem Canonical.technologyFromModePreference {technology : Technology} (canonical : Canonical technology) :
    technologyFromModePreference (modePreferenceFromTechnology technology) = technology := by
  obtain ⟨gsm, umts, lte, nr, rfl⟩ := canonical
  revert gsm umts lte nr
  decide

/-- Every family is one. -/
theorem modeFamilies_canonical {technology : Technology} (member : technology ∈ modeFamilies) :
    Canonical technology ∧ technology ≠ 0 := by
  simp only [modeFamilies, List.mem_cons, List.not_mem_nil, or_false] at member
  rcases member with rfl | rfl | rfl | rfl
  · exact ⟨⟨true, false, false, false, rfl⟩, by decide⟩
  · exact ⟨⟨false, true, false, false, rfl⟩, by decide⟩
  · exact ⟨⟨false, false, true, false, rfl⟩, by decide⟩
  · exact ⟨⟨false, false, false, true, rfl⟩, by decide⟩

/-- Families are among others exactly if none of them is outside. -/
theorem Canonical.within {one other : Technology} (canonical : Canonical one) (canonical' : Canonical other) :
    one &&& ~~~other = 0 ↔ one &&& other = one := by
  obtain ⟨gsm, umts, lte, nr, rfl⟩ := canonical
  obtain ⟨gsm', umts', lte', nr', rfl⟩ := canonical'
  revert gsm umts lte nr gsm' umts' lte' nr'
  decide

/-- Every mask but the first allows some families. -/
theorem allowedByMask_canonical {mask : Nat} (bounds : mask ∈ List.range' 1 15) :
    Canonical (allowedByMask mask) ∧ allowedByMask mask ≠ 0 := by
  refine ⟨⟨_, _, _, _, rfl⟩, ?_⟩
  revert mask
  decide

/-- The sets of families that are allowed are those of some of all families. -/
theorem mem_allowedModes {all allowed : Technology} (canonical : Canonical all) (nonzero : all ≠ 0) :
    allowed ∈ allowedModes all ↔ Canonical allowed ∧ allowed ≠ 0 ∧ allowed &&& all = allowed := by
  constructor
  · intro member
    rcases List.mem_cons.mp member with rfl | member
    · exact ⟨canonical, nonzero, UInt64.and_self⟩
    · obtain ⟨listed, within⟩ := List.mem_filter.mp member
      obtain ⟨mask, bounds, rfl⟩ := List.mem_map.mp listed
      obtain ⟨canonical', some⟩ := allowedByMask_canonical bounds
      simp only [ne_eq, Bool.not_eq_eq_eq_not, Bool.not_true, decide_eq_false_iff_not, not_or, not_not] at within
      exact ⟨canonical', some, (canonical'.within canonical).mp within.2⟩
  · rintro ⟨⟨gsm', umts', lte', nr', rfl⟩, some, within⟩
    obtain ⟨gsm, umts, lte, nr, rfl⟩ := canonical
    revert gsm umts lte nr gsm' umts' lte' nr'
    decide

/-- The families of a set. -/
theorem mem_enabledModeFamilies {technology family : Technology} (canonical : Canonical technology) :
    family ∈ enabledModeFamilies technology ↔ family ∈ modeFamilies ∧ technology &&& family = family := by
  rw [enabledModeFamilies, canonical.eq, List.mem_filter, decide_eq_true_eq]

/-- The only family of a set is the set, and a family among others is not. -/
theorem enabledModeFamilies_single {technology family : Technology} (canonical : Canonical technology)
    (member : family ∈ enabledModeFamilies technology) :
    (enabledModeFamilies technology).length = 1 ↔ family = technology := by
  rw [mem_enabledModeFamilies canonical] at member
  obtain ⟨gsm, umts, lte, nr, rfl⟩ := canonical
  obtain ⟨listed, within⟩ := member
  simp only [modeFamilies, List.mem_cons, List.not_mem_nil, or_false] at listed
  rcases listed with rfl | rfl | rfl | rfl <;> revert gsm umts lte nr <;> decide

/-! The families of radio interfaces. -/

/-- A radio interface is of one family or of none. -/
theorem family_cases (radio : UInt8) : family radio = 0 ∨ family radio ∈ modeFamilies := by
  unfold family technologyFromNASRadio
  split_ifs <;> decide

/-- A set of families has a family exactly if the technology has one of its bits. -/
theorem canonical_and_family {family : Technology} (member : family ∈ modeFamilies) :
    ∃ bits, ∀ technology, canonicalModeTechnology technology &&& family = family ↔ technology &&& bits ≠ 0 := by
  simp only [modeFamilies, List.mem_cons, List.not_mem_nil, or_false] at member
  have flags : ∀ gsm umts lte nr, (families gsm umts lte nr &&& technologyGSM = technologyGSM ↔ gsm) ∧
      (families gsm umts lte nr &&& technologyUMTS = technologyUMTS ↔ umts) ∧
      (families gsm umts lte nr &&& technologyLTE = technologyLTE ↔ lte) ∧
      (families gsm umts lte nr &&& modeNR5G = modeNR5G ↔ nr) := by decide
  rcases member with rfl | rfl | rfl | rfl
  · exact ⟨technologyGSM, fun technology => (flags _ _ _ _).1.trans decide_eq_true_iff⟩
  · exact ⟨technologyUMTS, fun technology => (flags _ _ _ _).2.1.trans decide_eq_true_iff⟩
  · exact ⟨technologyLTE ||| technologyLTECatM ||| technologyLTENB,
      fun technology => (flags _ _ _ _).2.2.1.trans decide_eq_true_iff⟩
  · exact ⟨modeNR5G, fun technology => (flags _ _ _ _).2.2.2.trans decide_eq_true_iff⟩

/-- A radio interface is of a family exactly if it has it. -/
theorem family_and {family' : Technology} (member : family' ∈ modeFamilies) (radio : UInt8) :
    family radio &&& family' = family' ↔ family radio = family' := by
  have known := family_cases radio
  simp only [modeFamilies, List.mem_cons, List.not_mem_nil, or_false] at member known
  generalize family radio = one at known ⊢
  rcases known with rfl | rfl | rfl | rfl | rfl <;> rcases member with rfl | rfl | rfl | rfl <;> decide

/-- The families of radio interfaces are those of one of them. -/
theorem technologyFromNASRadios_and {family' : Technology} (member : family' ∈ modeFamilies) (order : List UInt8) :
    canonicalModeTechnology (technologyFromNASRadios order) &&& family' = family' ↔
      ∃ radio ∈ order, family radio = family' := by
  obtain ⟨bits, has⟩ := canonical_and_family member
  have folded (result : Technology) :
      order.foldl (fun result radio => result ||| technologyFromNASRadio radio) result &&& bits ≠ 0 ↔
        result &&& bits ≠ 0 ∨ ∃ radio ∈ order, technologyFromNASRadio radio &&& bits ≠ 0 := by
    induction order generalizing result with
    | nil => simp
    | cons radio order ih =>
      rw [List.foldl_cons, ih, BitWords.or_and_ne_zero, or_assoc]
      simp
  have empty : ¬(0 : Technology) &&& bits ≠ 0 := by simp
  rw [has, technologyFromNASRadios, folded, or_iff_right empty]
  refine exists_congr fun radio => and_congr_right fun _ => ?_
  rw [← has, ← family_and member]
  rfl

/-- The order of radio interfaces does not matter for their families. -/
theorem technologyFromNASRadios_perm {order order' : List UInt8} (perm : order.Perm order') :
    technologyFromNASRadios order = technologyFromNASRadios order' := by
  have commutes : RightCommutative fun (result : Technology) radio => result ||| technologyFromNASRadio radio :=
    ⟨fun a b c => by
      show a ||| technologyFromNASRadio b ||| technologyFromNASRadio c =
        a ||| technologyFromNASRadio c ||| technologyFromNASRadio b
      rw [UInt64.or_assoc, UInt64.or_comm (technologyFromNASRadio b), UInt64.or_assoc]⟩
  exact perm.foldl_eq 0

/-! The modes with certain technologies. -/

/-- The technologies that may be preferred among those that are allowed. -/
inductive Offered (acquisition : Technology) (gw : Bool) (allowed : Technology) : Technology → Prop where
  | single (one : (enabledModeFamilies allowed).length = 1) : Offered acquisition gw allowed 0
  | acquired (several : (enabledModeFamilies allowed).length ≠ 1) {preferred : Technology}
      (enabled : preferred ∈ enabledModeFamilies allowed) (listed : acquisition &&& preferred = preferred) :
      Offered acquisition gw allowed preferred
  | ordered (several : (enabledModeFamilies allowed).length ≠ 1)
      (unlisted : ∀ family ∈ enabledModeFamilies allowed, acquisition &&& family ≠ family) (known : gw = true)
      (both : allowed = technologyGSM ||| technologyUMTS) {preferred : Technology}
      (either : preferred = 0 ∨ preferred = technologyGSM ∨ preferred = technologyUMTS) :
      Offered acquisition gw allowed preferred
  | other (several : (enabledModeFamilies allowed).length ≠ 1)
      (unlisted : ∀ family ∈ enabledModeFamilies allowed, acquisition &&& family ≠ family)
      (unordered : ¬(gw = true ∧ allowed = technologyGSM ||| technologyUMTS)) : Offered acquisition gw allowed 0

/-- These are the modes that are offered. -/
theorem mem_modesAllowing {acquisition allowed : Technology} {gw : Bool} {mode : Mode} :
    mode ∈ modesAllowing acquisition gw allowed ↔
      mode.allowed = allowed ∧ Offered acquisition gw allowed mode.preferred := by
  obtain ⟨technologies, preferred⟩ := mode
  simp only [modesAllowing]
  by_cases one : (enabledModeFamilies allowed).length = 1
  · -- A single family prefers nothing.
    rw [if_pos one, List.mem_singleton, Mode.mk.injEq]
    refine and_congr_right fun _ => ⟨?_, fun offered => ?_⟩
    · rintro rfl
      exact .single one
    · cases offered with
      | single => rfl
      | acquired several | ordered several | other several => exact absurd one several
  · rw [if_neg one]
    by_cases listed : (enabledModeFamilies allowed).filter (fun family => acquisition &&& family = family) = []
    · -- No enabled family is in the acquisition order.
      have unlisted : ∀ family ∈ enabledModeFamilies allowed, acquisition &&& family ≠ family := by
        simpa using listed
      rw [if_neg (not_not.mpr listed)]
      by_cases both : gw = true ∧ allowed = technologyGSM ||| technologyUMTS
      · -- GSM and UMTS have an order of their own.
        rw [if_pos both]
        simp only [List.mem_cons, Mode.mk.injEq, List.not_mem_nil, or_false, ← and_or_left]
        refine and_congr_right fun _ => ⟨.ordered one unlisted both.1 both.2, fun offered => ?_⟩
        cases offered with
        | single one' => exact absurd one' one
        | acquired several enabled listed => exact absurd listed (unlisted _ enabled)
        | ordered several unlisted known both either => exact either
        | other several unlisted unordered => exact absurd both unordered
      · -- Nothing can be preferred.
        rw [if_neg both, List.mem_singleton, Mode.mk.injEq]
        refine and_congr_right fun _ => ⟨?_, fun offered => ?_⟩
        · rintro rfl
          exact .other one unlisted both
        · cases offered with
          | single one' => exact absurd one' one
          | acquired several enabled listed => exact absurd listed (unlisted _ enabled)
          | ordered several unlisted known both' either => exact absurd ⟨known, both'⟩ both
          | other => rfl
    · -- The families of the acquisition order can be preferred.
      rw [if_pos listed]
      simp only [List.mem_map, List.mem_filter, decide_eq_true_eq, Mode.mk.injEq]
      obtain ⟨first, member⟩ := List.exists_mem_of_ne_nil _ listed
      obtain ⟨inside, first'⟩ := List.mem_filter.mp member
      have unlisted (none : ∀ family ∈ enabledModeFamilies allowed, acquisition &&& family ≠ family) : False :=
        none first inside (by simpa using first')
      constructor
      · rintro ⟨_, ⟨enabled, listed⟩, rfl, rfl⟩
        exact ⟨rfl, .acquired one enabled listed⟩
      · rintro ⟨rfl, offered⟩
        cases offered with
        | single one' => exact absurd one' one
        | acquired several enabled listed => exact ⟨_, ⟨enabled, listed⟩, rfl, rfl⟩
        | ordered several none | other several none => exact (unlisted none).elim

/-- The modes that are offered for a set of families. -/
theorem mem_supportedModes {preference : Preference} {all : Technology} (canonical : Canonical all) (nonzero : all ≠ 0)
    {mode : Mode} : mode ∈ supportedModes preference all ↔
      (Canonical mode.allowed ∧ mode.allowed ≠ 0 ∧ mode.allowed &&& all = mode.allowed) ∧
      Offered (acquisitionFamilies preference all)
        ((acquisitionOrder preference).isNone && preference.gwAcquisitionOrder.isSome) mode.allowed mode.preferred := by
  simp only [supportedModes, modeCombinations, canonical.eq, if_neg nonzero, List.mem_flatMap, mem_modesAllowing,
    mem_allowedModes canonical nonzero]
  constructor
  · rintro ⟨_, within, rfl, offered⟩
    exact ⟨within, offered⟩
  · rintro ⟨within, offered⟩
    exact ⟨_, within, rfl, offered⟩

/-! The mode that is current. -/

/-- A set of common families has a family exactly if both sets have it. -/
theorem and_and_family {one other family : Technology} (canonical : Canonical one) (canonical' : Canonical other)
    (member : family ∈ modeFamilies) :
    one &&& other &&& family = family ↔ one &&& family = family ∧ other &&& family = family := by
  obtain ⟨gsm, umts, lte, nr, rfl⟩ := canonical
  obtain ⟨gsm', umts', lte', nr', rfl⟩ := canonical'
  simp only [modeFamilies, List.mem_cons, List.not_mem_nil, or_false] at member
  rcases member with rfl | rfl | rfl | rfl <;> revert gsm umts lte nr gsm' umts' lte' nr' <;> decide

/-- The families of a smaller set are those of a larger one. -/
theorem enabled_within {all allowed family : Technology} (canonical : Canonical all) (canonical' : Canonical allowed)
    (within : allowed &&& all = allowed) (enabled : family ∈ enabledModeFamilies allowed) : all &&& family = family := by
  obtain ⟨member, has⟩ := (mem_enabledModeFamilies canonical').mp enabled
  rw [← within] at has
  exact ((and_and_family canonical' canonical member).mp has).2

/-- A radio interface is preferred if its family is one of several that are allowed. -/
theorem candidate_iff {allowed : Technology} (canonical : Canonical allowed) (radio : UInt8) :
    (family radio ≠ 0 ∧ family radio ≠ allowed ∧ family radio &&& ~~~allowed = 0) ↔
      family radio ∈ enabledModeFamilies allowed ∧ (enabledModeFamilies allowed).length ≠ 1 := by
  rcases family_cases radio with zero | member
  · have absent : (0 : Technology) ∉ modeFamilies := by decide
    simp [zero, mem_enabledModeFamilies canonical, absent]
  · obtain ⟨canonical', nonzero⟩ := modeFamilies_canonical member
    have enabled : family radio ∈ enabledModeFamilies allowed ↔ family radio &&& ~~~allowed = 0 := by
      rw [mem_enabledModeFamilies canonical, canonical'.within canonical, UInt64.and_comm, and_iff_right member]
    rw [enabled, and_iff_right nonzero, and_comm]
    refine and_congr_right fun inside => not_congr ?_
    exact (enabledModeFamilies_single canonical (enabled.mpr inside)).symm

/-- With an acquisition order, the first radio interface is preferred whose family is one of several allowed. -/
theorem preferredMode_known {preference : Preference} {order : List UInt8} {allowed : Technology}
    (known : acquisitionOrder preference = some order) (canonical : Canonical allowed) :
    (preferredMode preference allowed = 0 ∧ ∀ radio ∈ order,
      ¬(family radio ∈ enabledModeFamilies allowed ∧ (enabledModeFamilies allowed).length ≠ 1)) ∨
    ∃ radio ∈ order, preferredMode preference allowed = family radio ∧
      family radio ∈ enabledModeFamilies allowed ∧ (enabledModeFamilies allowed).length ≠ 1 := by
  rw [preferredMode, known]
  simp only
  cases found : (order.map family).find? fun candidate =>
      candidate ≠ 0 ∧ candidate ≠ allowed ∧ candidate &&& ~~~allowed = 0 with
  | none =>
    refine .inl ⟨rfl, fun radio member => ?_⟩
    rw [← candidate_iff canonical]
    simpa using List.find?_eq_none.mp found (family radio) (List.mem_map_of_mem member)
  | some candidate =>
    obtain ⟨radio, member, rfl⟩ := List.mem_map.mp (List.mem_of_find?_eq_some found)
    refine .inr ⟨radio, member, rfl, (candidate_iff canonical radio).mp ?_⟩
    simpa using List.find?_some found

/-- The families of an acquisition order are those of its radio interfaces, among all families. -/
theorem acquisitionFamilies_and {preference : Preference} {order : List UInt8} {all family' : Technology}
    (known : acquisitionOrder preference = some order) (canonical : Canonical all) (member : family' ∈ modeFamilies) :
    acquisitionFamilies preference all &&& family' = family' ↔
      (∃ radio ∈ order, family radio = family') ∧ all &&& family' = family' := by
  rw [acquisitionFamilies, known]
  simp only
  rw [and_and_family (canonicalModeTechnology_canonical _) canonical member, technologyFromNASRadios_and member]

/-- Without an acquisition order, there are no families of it. -/
theorem acquisitionFamilies_unknown {preference : Preference} {all family : Technology}
    (unknown : acquisitionOrder preference = none) (member : family ∈ modeFamilies) :
    acquisitionFamilies preference all &&& family ≠ family := by
  rw [acquisitionFamilies, unknown, UInt64.zero_and]
  exact fun zero => (modeFamilies_canonical member).2 zero.symm

/-- One family is not both GSM and UMTS. -/
theorem single_ne {allowed : Technology} (canonical : Canonical allowed)
    (one : (enabledModeFamilies allowed).length = 1) :
    allowed &&& (technologyGSM ||| technologyUMTS) ≠ technologyGSM ||| technologyUMTS := by
  obtain ⟨gsm, umts, lte, nr, rfl⟩ := canonical
  revert gsm umts lte nr
  decide

/-- If the only technology that is preferred would be listed, but none is, then none is preferred. -/
theorem preferredMode_unlisted {preference : Preference} {order : List UInt8} {all allowed : Technology}
    (known : acquisitionOrder preference = some order) (canonical : Canonical all) (canonical' : Canonical allowed)
    (within : allowed &&& all = allowed)
    (unlisted : ∀ family ∈ enabledModeFamilies allowed, acquisitionFamilies preference all &&& family ≠ family) :
    preferredMode preference allowed = 0 := by
  rcases preferredMode_known known canonical' with ⟨none, -⟩ | ⟨radio, inside, -, enabled, -⟩
  · exact none
  · have member := ((mem_enabledModeFamilies canonical').mp enabled).1
    refine absurd ?_ (unlisted _ enabled)
    exact (acquisitionFamilies_and known canonical member).mpr
      ⟨⟨radio, inside, rfl⟩, enabled_within canonical canonical' within enabled⟩

/-- Nothing is preferred to the only family. -/
theorem preferredMode_single {preference : Preference} {allowed : Technology} (canonical : Canonical allowed)
    (one : (enabledModeFamilies allowed).length = 1) : preferredMode preference allowed = 0 := by
  cases known : acquisitionOrder preference with
  | some order =>
    rcases preferredMode_known known canonical with ⟨none, -⟩ | ⟨_, -, -, -, several⟩
    · exact none
    · exact absurd one several
  | none =>
    have other : allowed ≠ technologyGSM ||| technologyUMTS := by
      rintro rfl
      exact single_ne canonical one UInt64.and_self
    rw [preferredMode, known]
    cases preference.gwAcquisitionOrder with
    | none => rfl
    | some order => exact if_pos other

/-- The mode that is current is one that is offered. -/
theorem offered_preferredMode {preference : Preference} {all allowed : Technology} (canonical : Canonical all)
    (canonical' : Canonical allowed) (within : allowed &&& all = allowed) :
    Offered (acquisitionFamilies preference all)
      ((acquisitionOrder preference).isNone && preference.gwAcquisitionOrder.isSome) allowed
      (preferredMode preference allowed) := by
  by_cases one : (enabledModeFamilies allowed).length = 1
  · -- With a single family nothing is preferred.
    rw [preferredMode_single canonical' one]
    exact .single one
  · cases known : acquisitionOrder preference with
    | some order =>
      -- The acquisition order decides, by its first radio that is enabled.
      rcases preferredMode_known known canonical' with ⟨none, unlisted⟩ | ⟨radio, inside, same, enabled, several⟩
      · rw [none]
        refine .other one (fun family' enabled listed => ?_) (by simp)
        have member := ((mem_enabledModeFamilies canonical').mp enabled).1
        obtain ⟨⟨radio, inside, rfl⟩, -⟩ := (acquisitionFamilies_and known canonical member).mp listed
        exact unlisted radio inside ⟨enabled, one⟩
      · rw [same]
        have member := ((mem_enabledModeFamilies canonical').mp enabled).1
        exact .acquired one enabled ((acquisitionFamilies_and known canonical member).mpr
          ⟨⟨radio, inside, rfl⟩, enabled_within canonical canonical' within enabled⟩)
    | none =>
      -- Without an acquisition order only that of GSM and UMTS is left.
      have unlisted (family : Technology) (enabled : family ∈ enabledModeFamilies allowed) :
          acquisitionFamilies preference all &&& family ≠ family :=
        acquisitionFamilies_unknown known ((mem_enabledModeFamilies canonical').mp enabled).1
      rw [preferredMode, known]
      cases order : preference.gwAcquisitionOrder with
      | none => exact .other one unlisted (by simp)
      | some order =>
        by_cases both : allowed = technologyGSM ||| technologyUMTS
        · -- The order of GSM and UMTS prefers one of them or none.
          refine .ordered one unlisted rfl both ?_
          simp only [both, ne_eq, not_true_eq_false, if_false]
          split_ifs <;> simp
        · simp only [ne_eq, both, not_false_eq_true, if_true]
          exact .other one unlisted (by simp [both])

/-! Selecting a mode. -/

/-- A new acquisition order is the old one with the radio interfaces of a family first. -/
theorem preferredAcquisitionOrder_eq {order order' : List UInt8} {preferred : Technology}
    (made : preferredAcquisitionOrder order preferred = some order') :
    order' = order.filter (fun radio => family radio = preferred) ++
      order.filter (fun radio => family radio ≠ preferred) ∧
    ∃ radio rest, order' = radio :: rest ∧ family radio = preferred := by
  simp only [preferredAcquisitionOrder] at made
  split at made
  · cases made
  · next some =>
    cases made
    refine ⟨rfl, ?_⟩
    obtain ⟨radio, rest, first⟩ := List.exists_cons_of_ne_nil (fun none => some (List.length_eq_zero_iff.mpr none))
    have member : radio ∈ order.filter fun radio => family radio = preferred := by simp [first]
    exact ⟨radio, _, by rw [first]; rfl, by simpa using (List.mem_filter.mp member).2⟩

/-- It is a permutation of the old one. -/
theorem preferredAcquisitionOrder_perm {order order' : List UInt8} {preferred : Technology}
    (made : preferredAcquisitionOrder order preferred = some order') : order'.Perm order := by
  rw [(preferredAcquisitionOrder_eq made).1]
  have both := List.filter_append_perm (fun radio => decide (family radio = preferred)) order
  simpa using both

/-- It keeps the order of those interfaces, and of the others. -/
theorem preferredAcquisitionOrder_stable {order order' : List UInt8} {preferred : Technology}
    (made : preferredAcquisitionOrder order preferred = some order') :
    order'.filter (fun radio => family radio = preferred) = order.filter (fun radio => family radio = preferred) ∧
    order'.filter (fun radio => family radio ≠ preferred) = order.filter (fun radio => family radio ≠ preferred) := by
  rw [(preferredAcquisitionOrder_eq made).1]
  constructor <;> simp [List.filter_append, List.filter_filter]

/-- After a mode is selected, it is preferred in the same way among the same families. -/
structure Selected (preference : Preference) (mode : Mode) (config : Config) (all : Technology) : Prop where
  modePreference : config.modePreference = some (modePreferenceFromTechnology mode.allowed)
  /-- A new order is the old one, rearranged. -/
  order : ∀ order', config.acquisitionOrder = some order' → ∃ order, preference.acquisitionOrder = some order ∧
    preferredAcquisitionOrder order mode.preferred = some order'
  families : acquisitionFamilies (preference.store config) all = acquisitionFamilies preference all
  known : (acquisitionOrder (preference.store config)).isNone = (acquisitionOrder preference).isNone
  gw : (preference.store config).gwAcquisitionOrder.isSome = preference.gwAcquisitionOrder.isSome
  preferred : preferredMode (preference.store config) mode.allowed = mode.preferred

/-- The order of GSM and WCDMA is written only where there is one. -/
theorem gw_store {preference : Preference} {config : Config}
    (only : config.gwAcquisitionOrder.isSome → preference.gwAcquisitionOrder.isSome) :
    (preference.store config).gwAcquisitionOrder.isSome = preference.gwAcquisitionOrder.isSome := by
  simp only [Preference.store]
  cases sent : config.gwAcquisitionOrder with
  | none => rfl
  | some order => simpa [sent] using only

/-- Without a new acquisition order, the old one stays. -/
theorem acquisitionOrder_store {preference : Preference} {config : Config} (unsent : config.acquisitionOrder = none) :
    acquisitionOrder (preference.store config) = acquisitionOrder preference := by
  simp [acquisitionOrder, Preference.store, unsent]

/-- What `modeSelectionConfig` adds to the acquisition order. -/
theorem modeSelectionConfig_eq {mode : Mode} {preference : Preference} {config : Config}
    (made : selectPreferred mode preference { modePreference := some (modePreferenceFromTechnology mode.allowed) } =
      .ok config) :
    modeSelectionConfig mode preference = .ok (if preference.gwAcquisitionOrder.isSome ∧
        mode.allowed &&& (technologyGSM ||| technologyUMTS) = technologyGSM ||| technologyUMTS then
      { config with gwAcquisitionOrder := some (gwOrder mode.preferred) } else config) := by
  rw [modeSelectionConfig, made]
  simp only
  split <;> rfl

/-- Without an acquisition order and an order of GSM and WCDMA for them alone, nothing is preferred. -/
theorem preferredMode_unordered {preference : Preference} {allowed : Technology}
    (unknown : acquisitionOrder preference = none)
    (unordered : preference.gwAcquisitionOrder = none ∨ allowed ≠ technologyGSM ||| technologyUMTS) :
    preferredMode preference allowed = 0 := by
  rw [preferredMode, unknown]
  cases order : preference.gwAcquisitionOrder with
  | none => rfl
  | some order => exact if_pos (unordered.resolve_left (by simp [order]))

/-- A mode that prefers nothing is selected, if it then prefers nothing. -/
theorem selected_plain {preference : Preference} {mode : Mode} (all : Technology) (plain : mode.preferred = 0)
    (kept : ∀ config : Config, config.acquisitionOrder = none →
      (config.gwAcquisitionOrder.isSome → preference.gwAcquisitionOrder.isSome) →
      preferredMode (preference.store config) mode.allowed = 0) :
    ∃ config, modeSelectionConfig mode preference = .ok config ∧ Selected preference mode config all := by
  -- No new acquisition order is sent.
  have made : selectPreferred mode preference
      { modePreference := some (modePreferenceFromTechnology mode.allowed) } =
      .ok { modePreference := some (modePreferenceFromTechnology mode.allowed) } := by
    rw [selectPreferred, if_neg (not_not.mpr plain)]
  refine ⟨_, modeSelectionConfig_eq made, ?_⟩
  split
  · -- The order of GSM and UMTS is sent along, for the modem has one.
    next known =>
    refine ⟨rfl, by simp, ?_, ?_, gw_store fun _ => known.1, ?_⟩
    · rw [acquisitionFamilies, acquisitionOrder_store rfl]
      rfl
    · rw [acquisitionOrder_store rfl]
    · rw [plain]
      exact kept _ rfl fun _ => known.1
  · refine ⟨rfl, by simp, ?_, ?_, gw_store (by simp), ?_⟩
    · rw [acquisitionFamilies, acquisitionOrder_store rfl]
      rfl
    · rw [acquisitionOrder_store rfl]
    · rw [plain]
      exact kept _ rfl (by simp)

/-- A mode that prefers a family of the acquisition order is selected by a new order. -/
theorem selected_acquired {preference : Preference} {mode : Mode} {all : Technology} (canonical : Canonical all)
    (canonical' : Canonical mode.allowed) (several : (enabledModeFamilies mode.allowed).length ≠ 1)
    (enabled : mode.preferred ∈ enabledModeFamilies mode.allowed)
    (listed : acquisitionFamilies preference all &&& mode.preferred = mode.preferred) :
    ∃ config, modeSelectionConfig mode preference = .ok config ∧ Selected preference mode config all := by
  have member := ((mem_enabledModeFamilies canonical').mp enabled).1
  have nonzero := (modeFamilies_canonical member).2
  cases known : acquisitionOrder preference with
  | none => exact absurd listed (acquisitionFamilies_unknown known member)
  | some order =>
    obtain ⟨⟨radio, inside, same⟩, -⟩ := (acquisitionFamilies_and known canonical member).mp listed
    -- A radio of the preferred family can move to the front.
    obtain ⟨order', moved⟩ : ∃ order', preferredAcquisitionOrder order mode.preferred = some order' := by
      have found : radio ∈ order.filter fun radio => family radio = mode.preferred := by simp [inside, same]
      exact ⟨_, if_neg (List.length_pos_of_mem found).ne'⟩
    have made : selectPreferred mode preference
        { modePreference := some (modePreferenceFromTechnology mode.allowed) } =
        .ok { modePreference := some (modePreferenceFromTechnology mode.allowed), acquisitionOrder := some order' } := by
      rw [selectPreferred, if_pos nonzero, known]
      simp only [moved]
    obtain ⟨-, first, rest, front, preferred⟩ := preferredAcquisitionOrder_eq moved
    have old : preference.acquisitionOrder = some order := (Option.filter_eq_some_iff.mp known).1
    -- The new order is stored in either case.
    have selected (config : Config) (sent : config.acquisitionOrder = some order')
        (mode' : config.modePreference = some (modePreferenceFromTechnology mode.allowed))
        (only : config.gwAcquisitionOrder.isSome → preference.gwAcquisitionOrder.isSome) :
        Selected preference mode config all := by
      have stored : acquisitionOrder (preference.store config) = some order' := by
        simp [acquisitionOrder, Preference.store, sent, front]
      refine ⟨mode', fun other same => ⟨order, old, ?_⟩, ?_, by rw [stored, known]; rfl, gw_store only, ?_⟩
      · rw [sent] at same
        rw [moved, same]
      · rw [acquisitionFamilies, acquisitionFamilies, stored, known]
        simp only [technologyFromNASRadios_perm (preferredAcquisitionOrder_perm moved)]
      · -- The first radio of the new order is the first candidate, and has the preferred family.
        have candidate := (candidate_iff canonical' first).mpr ⟨by rw [preferred]; exact enabled, several⟩
        rw [preferredMode, stored, front]
        simp only [List.map_cons]
        rw [List.find?_cons_of_pos (by simpa using candidate), preferred]
        rfl
    refine ⟨_, modeSelectionConfig_eq made, ?_⟩
    split
    · next gw => exact selected _ rfl rfl fun _ => gw.1
    · exact selected _ rfl rfl (by simp)

/-- A mode of GSM and UMTS is selected by their own order. -/
theorem selected_ordered {preference : Preference} {mode : Mode} (all : Technology)
    (unknown : acquisitionOrder preference = none) (gw : preference.gwAcquisitionOrder.isSome)
    (both : mode.allowed = technologyGSM ||| technologyUMTS)
    (either : mode.preferred = 0 ∨ mode.preferred = technologyGSM ∨ mode.preferred = technologyUMTS) :
    ∃ config, modeSelectionConfig mode preference = .ok config ∧ Selected preference mode config all := by
  -- Without an acquisition order none is sent.
  have made : selectPreferred mode preference
      { modePreference := some (modePreferenceFromTechnology mode.allowed) } =
      .ok { modePreference := some (modePreferenceFromTechnology mode.allowed) } := by
    rw [selectPreferred]
    split
    · rw [unknown]
      simp [both, Option.isNone_iff_eq_none, Option.isSome_iff_ne_none.mp gw]
    · rfl
  refine ⟨_, modeSelectionConfig_eq made, ?_⟩
  rw [if_pos ⟨gw, by rw [both]; exact UInt64.and_self⟩]
  refine ⟨rfl, by simp, ?_, by rw [acquisitionOrder_store rfl], gw_store fun _ => gw, ?_⟩
  · rw [acquisitionFamilies, acquisitionOrder_store rfl]
    rfl
  · rw [preferredMode, acquisitionOrder_store rfl, unknown]
    simp only [Preference.store, Option.some_or, both, ne_eq, not_true_eq_false, if_false]
    -- The order that is sent reads back as the preference.
    rcases either with none | gsm | umts
    · rw [none]
      decide
    · rw [gsm]
      decide
    · rw [umts]
      decide

/-- Every mode that is offered can be selected. -/
theorem selected {preference : Preference} {mode : Mode} {all : Technology} (canonical : Canonical all)
    (canonical' : Canonical mode.allowed) (within : mode.allowed &&& all = mode.allowed)
    (offered : Offered (acquisitionFamilies preference all)
      ((acquisitionOrder preference).isNone && preference.gwAcquisitionOrder.isSome) mode.allowed mode.preferred) :
    ∃ config, modeSelectionConfig mode preference = .ok config ∧ Selected preference mode config all := by
  generalize plain : mode.preferred = preferred at offered
  cases offered with
  -- Each case of what is offered is selected in its own way.
  | single one => exact selected_plain all plain fun config _ _ => preferredMode_single canonical' one
  | acquired several enabled listed =>
    rw [← plain] at enabled listed
    exact selected_acquired canonical canonical' several enabled listed
  | ordered several unlisted known both either =>
    rw [← plain] at either
    simp only [Bool.and_eq_true, Option.isNone_iff_eq_none] at known
    exact selected_ordered all known.1 known.2 both either
  | other several unlisted unordered =>
    refine selected_plain all plain fun config unsent only => ?_
    -- The acquisition order stays as it is, and so does what it prefers.
    have order : acquisitionOrder (preference.store config) = acquisitionOrder preference := acquisitionOrder_store unsent
    cases known : acquisitionOrder preference with
    | some list =>
      rw [known] at order
      refine preferredMode_unlisted order canonical canonical' within fun family enabled => ?_
      have same : acquisitionFamilies (preference.store config) all = acquisitionFamilies preference all := by
        rw [acquisitionFamilies, acquisitionFamilies, order, known]
      rw [same]
      exact unlisted family enabled
    | none =>
      rw [known] at order
      refine preferredMode_unordered order ?_
      -- Without one the order of GSM and UMTS plays no part either.
      cases gw : preference.gwAcquisitionOrder with
      | none =>
        refine .inl ?_
        rw [gw] at only
        cases sent : config.gwAcquisitionOrder with
        | none => simp [Preference.store, sent, gw]
        | some value => simp [sent] at only
      | some value =>
        refine .inr fun both => unordered ⟨by simp [known, gw], both⟩

/-! Reading the modes. -/

/-- The technologies that are allowed are some of all. -/
theorem modeState_eq {preference : Preference} {all allowed : Technology} (canonical : Canonical all) (nonzero : all ≠ 0)
    (canonical' : Canonical allowed) (some : allowed ≠ 0) (within : allowed &&& all = allowed) :
    modeState all allowed preference = .ok { supported := supportedModes preference all,
                                             current := ⟨allowed, preferredMode preference allowed⟩,
                                             preference := preference } := by
  have member : (⟨allowed, preferredMode preference allowed⟩ : Mode) ∈ supportedModes preference all :=
    (mem_supportedModes canonical nonzero).mpr ⟨⟨canonical', some, within⟩, offered_preferredMode canonical canonical' within⟩
  simp only [modeState]
  rw [if_neg (not_not.mpr member)]

/-- Reading the modes gives those that are offered and one of them, if some technology is allowed. -/
theorem readModeState_eq {radioInterfaces : List UInt8} {preference : Preference} {result : Except Error ModeState}
    (read : readModeState radioInterfaces preference = result) :
    result = .error .notSupported ∨ result = .error .preferenceUnavailable ∨
      ∃ all allowed, all = canonicalModeTechnology (technologyFromDMSRadios radioInterfaces) ∧ all ≠ 0 ∧
        result = .ok { supported := supportedModes preference all,
                       current := ⟨allowed, preferredMode preference allowed⟩,
                       preference := preference } := by
  have canonical := canonicalModeTechnology_canonical (technologyFromDMSRadios radioInterfaces)
  simp only [readModeState] at read
  split at read
  · -- No technology is supported.
    exact .inl read.symm
  · next nonzero =>
    split at read
    · next mode _ =>
      -- No supported technology is allowed.
      split at read
      · exact .inr (.inl read.symm)
      · -- The modes are those of what is allowed and supported.
        next some =>
        have canonical' := canonicalModeTechnology_canonical (technologyFromModePreference mode)
        have within (one other : Technology) : one &&& other &&& other = one &&& other := by
          rw [UInt64.and_assoc, UInt64.and_self]
        rw [modeState_eq canonical nonzero (canonical'.and canonical) some (within _ _)] at read
        exact .inr (.inr ⟨_, _, rfl, nonzero, read.symm⟩)
    · -- Without a preference all that is supported is allowed.
      split at read
      · exact .inr (.inl read.symm)
      · rw [modeState_eq canonical nonzero canonical nonzero UInt64.and_self] at read
        exact .inr (.inr ⟨_, _, rfl, nonzero, read.symm⟩)

/-- A mode that is allowed is read back after its preference is stored. -/
theorem readModeState_selected {radioInterfaces : List UInt8} {preference : Preference} {mode : Mode} {config : Config}
    {all : Technology} (same : all = canonicalModeTechnology (technologyFromDMSRadios radioInterfaces))
    (nonzero : all ≠ 0) (canonical : Canonical mode.allowed) (some : mode.allowed ≠ 0)
    (within : mode.allowed &&& all = mode.allowed) (selected : Selected preference mode config all) :
    readModeState radioInterfaces (preference.store config) =
      .ok { supported := supportedModes preference all, current := mode, preference := preference.store config } := by
  have stored : (preference.store config).modePreference = .some (modePreferenceFromTechnology mode.allowed) := by
    simp [Preference.store, selected.modePreference]
  have allowed : canonicalModeTechnology (technologyFromModePreference (modePreferenceFromTechnology mode.allowed)) &&&
      all = mode.allowed := by
    rw [canonical.technologyFromModePreference, canonical.eq, within]
  have supported : supportedModes (preference.store config) all = supportedModes preference all := by
    rw [supportedModes, supportedModes, selected.families, selected.known, selected.gw]
  simp only [readModeState]
  rw [← same, if_neg nonzero, stored]
  simp only [allowed, if_neg some]
  have canonical' : Canonical all := by
    rw [same]
    exact canonicalModeTechnology_canonical _
  rw [modeState_eq canonical' nonzero canonical some within, supported, selected.preferred]

/-- Reading never finds the current mode unsupported, and every mode that is read can be selected and is then read as
the current one among the same modes, where a new acquisition order is the old one with the preferred interfaces
first. -/
theorem modes_read_back (radioInterfaces : List UInt8) (preference : Preference) :
    (∀ current, readModeState radioInterfaces preference ≠ .error (.currentNotSupported current)) ∧
    ∀ state, readModeState radioInterfaces preference = .ok state → ∀ mode ∈ state.supported,
      ∃ config, modeSelectionConfig mode state.preference = .ok config ∧
        (∀ order', config.acquisitionOrder = some order' → ∃ order, preference.acquisitionOrder = some order ∧
          order'.Perm order ∧
          order'.filter (fun radio => family radio = mode.preferred) =
            order.filter (fun radio => family radio = mode.preferred) ∧
          order'.filter (fun radio => family radio ≠ mode.preferred) =
            order.filter (fun radio => family radio ≠ mode.preferred)) ∧
        readModeState radioInterfaces (preference.store config) =
          .ok { supported := state.supported, current := mode, preference := preference.store config } := by
  constructor
  · -- Reading never fails with a mode at hand.
    intro current read
    rcases readModeState_eq read with failed | failed | ⟨_, _, -, -, done⟩
    · cases failed
    · cases failed
    · cases done
  · -- Every mode that is offered is selected and read back.
    intro state read mode member
    rcases readModeState_eq read with failed | failed | ⟨all, allowed, same, nonzero, done⟩
    · cases failed
    · cases failed
    · cases done
      have canonical : Canonical all := by
        rw [same]
        exact canonicalModeTechnology_canonical _
      obtain ⟨⟨canonical', some, within⟩, offered⟩ := (mem_supportedModes canonical nonzero).mp member
      obtain ⟨config, made, chosen⟩ := selected canonical canonical' within offered
      refine ⟨config, made, fun order' sent => ?_, readModeState_selected same nonzero canonical' some within chosen⟩
      obtain ⟨order, old, moved⟩ := chosen.order order' sent
      exact ⟨order, old, preferredAcquisitionOrder_perm moved, preferredAcquisitionOrder_stable moved⟩

/-- A modem with three families and an acquisition order. -/
def threeFamilies : Preference where
  modePreference := some 0x1C
  acquisitionOrder := some [8, 5, 4]

/-- Its modes can be read and selected. -/
theorem threeFamilies_read_back : ∃ state, readModeState [4, 5, 8] threeFamilies = .ok state ∧
    state.current = ⟨7, technologyLTE⟩ ∧ ∀ mode ∈ state.supported, ∃ config,
      modeSelectionConfig mode state.preference = .ok config ∧
        readModeState [4, 5, 8] (threeFamilies.store config) =
          .ok { supported := state.supported, current := mode, preference := threeFamilies.store config } := by
  have read : ∃ state, readModeState [4, 5, 8] threeFamilies = .ok state ∧ state.current = ⟨7, technologyLTE⟩ :=
    ⟨_, rfl, by decide⟩
  obtain ⟨state, read, current⟩ := read
  refine ⟨state, read, current, fun mode member => ?_⟩
  obtain ⟨config, made, -, back⟩ := (modes_read_back [4, 5, 8] threeFamilies).2 state read mode member
  exact ⟨config, made, back⟩

end Wwan.Modem.Qmi.Modes
