import Wwan.Mbim.BaseStations
import Wwan.Proofs.Mbim.Wire

/-! Accepted base stations take their payload apart without a rest, down to the strings of their records. -/

namespace Wwan.Mbim

/-! The strings of records. -/

/-- A word inside the data is read. -/
theorem ensures_uint32Field {data : Bytes} {offset : Nat} (inside : offset + 4 ≤ data.length) :
    (uint32Field data offset).Ensures fun _ => True := by
  rw [uint32Field]
  refine (Go.ensures_slice (by omega) inside).bind fun window size => ?_
  exact (LittleEndian.ensures_getUint32 (by omega)).mono fun _ _ => trivial

/-- Eight bytes inside the data are read. -/
theorem ensures_uint64Field {data : Bytes} {offset : Nat} (inside : offset + 8 ≤ data.length) :
    (uint64Field data offset).Ensures fun _ => True := by
  refine (ensures_uint32Field (by omega)).bind fun _ _ => ?_
  refine (ensures_uint32Field (by omega)).bind fun _ _ => ?_
  exact Go.ensures_ok trivial

/-- The strings of a record follow one another from its fixed part to its end: each is empty, or it stands directly behind
the fixed part or behind the padding of the string before it. -/
def StringsFill (data : Bytes) (fixedSize : Nat) (fields : List UInt32) (size : Nat) : Prop :=
  ∃ refs, List.Forall₂ (fun field r => readOffsetSizeRef data field = .ok r) fields refs ∧
    Tiles align4 fixedSize (spans refs) size ∧ size ≤ data.length

/-- The loop over strings accepts those that follow one another. -/
theorem ensures_parseValues {data : Bytes} (short : data.length < 2 ^ 32) (index : Nat) (fields : List (UInt32 × UInt32))
    {stop : Nat} (inside : stop ≤ data.length) : (parseValues data index fields stop).Ensures fun out =>
      out.1.length = fields.length ∧ StringsFill data stop (fields.map Prod.fst) out.2 := by
  -- The induction is on the fields, for every end of what the record takes so far.
  induction fields generalizing index stop with
  | nil => exact Go.ensures_ok ⟨rfl, [], .nil, rfl, inside⟩
  | cons field fields ih =>
    rw [parseValues]
    -- The reference is read and checked.
    have fieldRead : (readOffsetSizeRef data field.1).Ensures fun r => readOffsetSizeRef data field.1 = .ok r :=
      ⟨(ensures_readOffsetSizeRef data field.1).1, fun _ returned => returned⟩
    refine fieldRead.mapError.bind fun r read => ?_
    refine (r.ensures_validate data).mapError.bind fun _ valid => ?_
    obtain ⟨within, zero⟩ := ValueRef.validate_eq_ok valid
    refine Go.ensures_ite (fun none => ?_) fun some => ?_
    · -- A string that is not there takes no room.
      refine (ih (index + 1) inside).bind fun out rest => ?_
      obtain ⟨number, refs, each, tiles, limit⟩ := rest
      refine Go.ensures_ok ⟨by simp [number], r :: refs, .cons read each, ?_, limit⟩
      have same : spans (r :: refs) = spans refs := by simp [spans, zero none]
      rw [same]
      exact tiles
    · -- A string that is there stands right behind what the record has so far.
      refine Go.ensures_failIf.bind fun _ nonempty => ?_
      refine Go.ensures_failIf.bind fun _ _ => ?_
      refine Go.ensures_failIf.bind fun _ placed => ?_
      rw [ValueRef.bytes_of_validate valid, Go.ok_bind]
      refine Go.ensures_failIf.bind fun _ padded => ?_
      have place : r.offset.toNat = stop := by
        rw [not_not.mp placed]
        exact UInt32.toNat_ofNat_of_lt' (Nat.lt_of_le_of_lt inside short)
      rw [toNat_add_of_le within, place] at padded ⊢
      refine (ih (index + 1) (Nat.le_of_not_lt padded)).bind fun out rest => ?_
      obtain ⟨number, refs, each, tiles, limit⟩ := rest
      refine Go.ensures_ok ⟨by simp [number], r :: refs, .cons read each, ?_, limit⟩
      have here : spans (r :: refs) = r.span :: spans refs := by simp [spans, nonempty]
      rw [here]
      exact ⟨place, tiles⟩

/-- The strings of a record of a fixed size fill it. -/
theorem ensures_parseBaseStationValues {data : Bytes} (short : data.length < 2 ^ 32) (fixedSize : Nat)
    (fields : List (UInt32 × UInt32)) : (parseBaseStationValues data fixedSize fields).Ensures fun out =>
      out.1.length = fields.length ∧ StringsFill data fixedSize (fields.map Prod.fst) out.2 :=
  Go.ensures_failIf.bind fun _ long => ensures_parseValues short 0 fields (Nat.le_of_not_lt long)

/-- Strings are decoded without a panic, one for each. -/
theorem ensures_decodeStrings (index : Nat) (raws : List Bytes) :
    (decodeStrings index raws).Ensures fun values => values.length = raws.length := by
  induction raws generalizing index with
  | nil => exact Go.ensures_ok rfl
  | cons raw raws ih =>
    refine (ensures_utf16RawString raw).mapError.bind fun value _ => ?_
    refine (ih (index + 1)).bind fun values number => ?_
    exact Go.ensures_ok (by simp [number])

/-- Checking an identity does not panic. -/
theorem ensures_validateProviderID (providerID : GoString) : (validateProviderID providerID).Ensures fun _ => True := by
  refine Go.ensures_failIf.bind fun _ _ => ?_
  exact Go.ensures_failIf.mono fun _ _ => trivial

/-- The provider of a record is its only string. -/
theorem ensures_parseBaseStationProviderID {data : Bytes} (short : data.length < 2 ^ 32) (fixedSize : Nat) :
    (parseBaseStationProviderID data fixedSize).Ensures fun out => StringsFill data fixedSize [0] out.2 := by
  rw [parseBaseStationProviderID, parseBaseStationStrings]
  -- Its one string fills what follows the fixed part.
  have strings : (parseBaseStationStrings data fixedSize [(0, baseStationProviderIDMaximumSize)]).Ensures fun out =>
      out.1.length = 1 ∧ StringsFill data fixedSize [0] out.2 := by
    refine (ensures_parseBaseStationValues short fixedSize _).bind fun raw filled => ?_
    refine (ensures_decodeStrings 0 raw.1).bind fun values number => ?_
    exact Go.ensures_ok ⟨number.trans filled.1, filled.2⟩
  refine strings.bind fun out filled => ?_
  refine (Go.ensures_index (by rw [filled.1]; decide)).bind fun providerID _ => ?_
  refine (ensures_validateProviderID providerID).mapError.bind fun _ _ => ?_
  exact Go.ensures_ok filled.2

/-- A record takes at least its fixed size, and no more than there is. -/
theorem StringsFill.bounds {data : Bytes} {fixedSize size : Nat} {fields : List UInt32}
    (filled : StringsFill data fixedSize fields size) : fixedSize ≤ size ∧ size ≤ data.length := by
  obtain ⟨refs, -, tiles, limit⟩ := filled
  exact ⟨tiles.le le_align4, limit⟩

/-! The records. -/

/-- A parser of records takes a record's fixed part and its strings, and nothing else. -/
def TakesRecord {α : Type} (parse : Bytes → Go Error (α × Nat)) (fixedSize : Nat) (fields : List UInt32) : Prop :=
  ∀ data : Bytes, data.length < 2 ^ 32 → (parse data).Ensures fun out => StringsFill data fixedSize fields out.2

/-- A GSM serving cell takes its record. -/
theorem takesRecord_GSMServingCell : TakesRecord parseGSMServingCell gsmServingCellFixedSize [0] := by
  intro data short
  refine (ensures_parseBaseStationProviderID short _).bind fun provider filled => ?_
  have long := filled.bounds
  unfold gsmServingCellFixedSize at long
  repeat refine (ensures_uint32Field (by omega)).bind fun _ _ => ?_
  exact Go.ensures_ok filled

/-- A UMTS serving cell takes its record. -/
theorem takesRecord_UMTSServingCell : TakesRecord parseUMTSServingCell umtsServingCellFixedSize [0] := by
  intro data short
  refine (ensures_parseBaseStationProviderID short _).bind fun provider filled => ?_
  have long := filled.bounds
  unfold umtsServingCellFixedSize at long
  repeat refine (ensures_uint32Field (by omega)).bind fun _ _ => ?_
  exact Go.ensures_ok filled

/-- An LTE serving cell takes its record. -/
theorem takesRecord_LTEServingCell : TakesRecord parseLTEServingCell lteServingCellFixedSize [0] := by
  intro data short
  refine (ensures_parseBaseStationProviderID short _).bind fun provider filled => ?_
  have long := filled.bounds
  unfold lteServingCellFixedSize at long
  repeat refine (ensures_uint32Field (by omega)).bind fun _ _ => ?_
  exact Go.ensures_ok filled

/-- A GSM neighboring cell takes its record. -/
theorem takesRecord_GSMNeighboringCell : TakesRecord parseGSMNeighboringCell gsmNeighboringCellFixedSize [0] := by
  intro data short
  refine (ensures_parseBaseStationProviderID short _).bind fun provider filled => ?_
  have long := filled.bounds
  unfold gsmNeighboringCellFixedSize at long
  repeat refine (ensures_uint32Field (by omega)).bind fun _ _ => ?_
  exact Go.ensures_ok filled

/-- A UMTS neighboring cell takes its record. -/
theorem takesRecord_UMTSNeighboringCell : TakesRecord parseUMTSNeighboringCell umtsNeighboringCellFixedSize [0] := by
  intro data short
  refine (ensures_parseBaseStationProviderID short _).bind fun provider filled => ?_
  have long := filled.bounds
  unfold umtsNeighboringCellFixedSize at long
  repeat refine (ensures_uint32Field (by omega)).bind fun _ _ => ?_
  exact Go.ensures_ok filled

/-- An LTE neighboring cell takes its record. -/
theorem takesRecord_LTENeighboringCell : TakesRecord parseLTENeighboringCell lteNeighboringCellFixedSize [0] := by
  intro data short
  refine (ensures_parseBaseStationProviderID short _).bind fun provider filled => ?_
  have long := filled.bounds
  unfold lteNeighboringCellFixedSize at long
  repeat refine (ensures_uint32Field (by omega)).bind fun _ _ => ?_
  exact Go.ensures_ok filled

/-- A TD-SCDMA cell of the usual fixed size takes its record. -/
theorem takesRecord_TDSCDMACell : TakesRecord (parseTDSCDMACell 36) 36 [0] := by
  intro data short
  refine (ensures_parseBaseStationProviderID short _).bind fun provider filled => ?_
  have long := filled.bounds
  repeat refine (ensures_uint32Field (by omega)).bind fun _ _ => ?_
  exact Go.ensures_ok filled

/-- A CDMA cell takes its record, which has no strings. -/
theorem takesRecord_CDMACell : TakesRecord parseCDMACell cdmaCellFixedSize [] := by
  intro data short
  refine Go.ensures_failIf.bind fun _ long => ?_
  unfold cdmaCellFixedSize at long
  repeat refine (ensures_uint32Field (by omega)).bind fun _ _ => ?_
  exact Go.ensures_ok ⟨[], .nil, rfl, Nat.le_of_not_lt long⟩

/-- Checking a value of an NR cell does not panic. -/
theorem ensures_validateNRCellValue (name : String) (value maximum : UInt32) :
    (validateNRCellValue name value maximum).Ensures fun _ => True :=
  Go.ensures_failIf.mono fun _ _ => trivial

/-- An NR serving cell takes its record. -/
theorem takesRecord_NRServingCell : TakesRecord parseNRServingCell nrServingCellFixedSize [0] := by
  intro data short
  refine (ensures_parseBaseStationProviderID short _).bind fun provider filled => ?_
  have long := filled.bounds
  unfold nrServingCellFixedSize at long
  refine (ensures_uint64Field (by omega)).bind fun nci _ => ?_
  refine Go.ensures_failIf.bind fun _ _ => ?_
  -- Six values follow, each read and then checked.
  iterate 6
    refine (ensures_uint32Field (by omega)).bind fun _ _ => ?_
    refine (ensures_validateNRCellValue _ _ _).bind fun _ _ => ?_
  refine (ensures_uint64Field (by omega)).bind fun timingAdvance _ => ?_
  exact Go.ensures_ok filled

/-- An NR neighboring cell takes its record, which has two strings. -/
theorem takesRecord_NRNeighboringCell : TakesRecord parseNRNeighboringCell nrNeighboringCellFixedSize [4, 12] := by
  intro data short
  -- The strings come first.
  refine (ensures_parseBaseStationValues short _ _).bind fun values found => ?_
  obtain ⟨number, filled⟩ := found
  have long := filled.bounds
  unfold nrNeighboringCellFixedSize at long
  simp only [List.length_cons, List.length_nil] at number
  -- The provider is checked like every other.
  refine (Go.ensures_index (by omega)).bind fun raw _ => ?_
  refine (ensures_utf16RawString raw).mapError.bind fun providerID _ => ?_
  refine (ensures_validateProviderID providerID).mapError.bind fun _ _ => ?_
  refine (Go.ensures_index (by omega)).bind fun raw _ => ?_
  refine (ensures_utf16RawString raw).mapError.bind fun cellID _ => ?_
  refine (ensures_uint32Field (by omega)).bind fun systemSubtype _ => ?_
  refine Go.ensures_failIf.bind fun _ _ => ?_
  -- Five values follow, each read and then checked.
  iterate 5
    refine (ensures_uint32Field (by omega)).bind fun _ _ => ?_
    refine (ensures_validateNRCellValue _ _ _).bind fun _ _ => ?_
  exact Go.ensures_ok filled

/-! Structures and arrays. -/

section

variable {α : Type} {parse : Bytes → Go Error (α × Nat)} {fixedSize : Nat} {fields : List UInt32} {data : Bytes}
  {ref : ValueRef}

/-- A structure is not there, or it is the record that its reference cuts out. -/
def IsStruct (parse : Bytes → Go Error (α × Nat)) (fixedSize : Nat) (fields : List UInt32) (data : Bytes) (ref : ValueRef)
    (cell : Option α) : Prop :=
  ref.offset = 0 ∧ ref.size = 0 ∧ cell = none ∨
    ∃ raw value, ref.bytes data = .ok raw ∧ cell = some value ∧ parse raw = .ok (value, raw.length) ∧
      StringsFill raw fixedSize fields raw.length

/-- An array is not there, or it is a count and as many records that tile the rest of what its reference cuts out. -/
def IsArray (parse : Bytes → Go Error (α × Nat)) (fixedSize : Nat) (fields : List UInt32) (data : Bytes) (ref : ValueRef)
    (cells : List α) : Prop :=
  ref.offset = 0 ∧ ref.size = 0 ∧ cells = [] ∨
    ∃ raw count records, ref.bytes data = .ok raw ∧ uint32Field raw 0 = .ok count ∧ cells.length = count.toNat ∧
      Tiles id 4 records raw.length ∧ List.Forall₂ (fun cell (record : Span) =>
        parse (raw.drop record.offset) = .ok (cell, record.size) ∧
          StringsFill (raw.drop record.offset) fixedSize fields record.size) cells records

/-- What a reference that is there cuts out is its bytes. -/
theorem slice_of_offset (some : ref.offset ≠ 0) :
    (Go.slice data ref.offset.toNat (ref.offset + ref.size).toNat : Go Error Bytes) = ref.bytes data := by
  rw [ValueRef.bytes, if_neg fun both => some both.1]

/-- A structure is taken apart without a rest. -/
theorem ensures_parseBaseStationStruct (takes : TakesRecord parse fixedSize fields) (short : data.length < 2 ^ 32)
    (valid : ref.validate data = .ok ()) :
    (parseBaseStationStruct data ref parse).Ensures (IsStruct parse fixedSize fields data ref) := by
  obtain ⟨-, zero⟩ := ValueRef.validate_eq_ok valid
  -- No structure is there.
  refine Go.ensures_ite (fun none => Go.ensures_ok (.inl ⟨none, zero none, rfl⟩)) fun some => ?_
  have bytes := ValueRef.bytes_of_validate valid
  rw [slice_of_offset some, bytes, Go.ok_bind]
  obtain ⟨raw, cut⟩ : ∃ raw, raw = (data.drop ref.offset.toNat).take ref.size.toNat := ⟨_, rfl⟩
  rw [← cut] at bytes ⊢
  -- The part that the reference points to is short enough for its own references.
  have fits : raw.length < 2 ^ 32 := by
    rw [cut, List.length_take, List.length_drop]
    omega
  have parsed : (parse raw).Ensures fun out => parse raw = .ok out ∧ StringsFill raw fixedSize fields out.2 :=
    ⟨(takes raw fits).1, fun out returned => ⟨returned, (takes raw fits).2 out returned⟩⟩
  refine parsed.bind fun out record => ?_
  -- The record fills all of it.
  refine Go.ensures_failIf.bind fun _ whole => ?_
  obtain ⟨returned, filled⟩ := record
  rw [not_not] at whole
  refine Go.ensures_ok (.inr ⟨raw, out.1, bytes, rfl, ?_, ?_⟩)
  · rw [returned, ← whole]
  · rwa [← whole]

/-- The records of an array follow one another, as many as its count says. -/
theorem ensures_parseRecords (takes : TakesRecord parse fixedSize fields) {raw : Bytes} (short : raw.length < 2 ^ 32)
    (index count : Nat) {offset : Nat} (inside : offset ≤ raw.length) :
    (parseRecords raw parse index count offset).Ensures fun out => out.1.length = count ∧ ∃ records,
      Tiles id offset records out.2 ∧ List.Forall₂ (fun cell (record : Span) =>
        parse (raw.drop record.offset) = .ok (cell, record.size) ∧
          StringsFill (raw.drop record.offset) fixedSize fields record.size) out.1 records := by
  -- The induction is on the records that are left, for every offset of the next.
  induction count generalizing index offset with
  | zero => exact Go.ensures_ok ⟨rfl, [], rfl, .nil⟩
  | succ count ih =>
    -- The next record starts where the one before has ended.
    rw [parseRecords, Go.slice_from inside, Go.ok_bind]
    have fits : (raw.drop offset).length < 2 ^ 32 := by
      rw [List.length_drop]
      omega
    have parsed : (parse (raw.drop offset)).Ensures fun out =>
        parse (raw.drop offset) = .ok out ∧ StringsFill (raw.drop offset) fixedSize fields out.2 :=
      ⟨(takes _ fits).1, fun out returned => ⟨returned, (takes _ fits).2 out returned⟩⟩
    refine parsed.mapError.bind fun value first => ?_
    refine Go.ensures_failIf.bind fun _ sized => ?_
    refine (ih (index + 1) (by omega)).bind fun rest others => ?_
    obtain ⟨number, records, tiles, each⟩ := others
    exact Go.ensures_ok ⟨by simp [number], ⟨offset, value.2⟩ :: records, ⟨rfl, tiles⟩, .cons first each⟩

/-- An array is taken apart without a rest. -/
theorem ensures_parseBaseStationArray (takes : TakesRecord parse fixedSize fields) (minimumSize : Nat)
    (short : data.length < 2 ^ 32) (valid : ref.validate data = .ok ()) :
    (parseBaseStationArray data ref minimumSize parse).Ensures (IsArray parse fixedSize fields data ref) := by
  obtain ⟨-, zero⟩ := ValueRef.validate_eq_ok valid
  refine Go.ensures_ite (fun none => Go.ensures_ok (.inl ⟨none, zero none, rfl⟩)) fun some => ?_
  -- The array is cut out of the data.
  have bytes := ValueRef.bytes_of_validate valid
  rw [slice_of_offset some, bytes, Go.ok_bind]
  obtain ⟨raw, cut⟩ : ∃ raw, raw = (data.drop ref.offset.toNat).take ref.size.toNat := ⟨_, rfl⟩
  rw [← cut] at bytes ⊢
  have fits : raw.length < 2 ^ 32 := by
    rw [cut, List.length_take, List.length_drop]
    omega
  -- The count comes first, and the records fill the rest.
  refine Go.ensures_failIf.bind fun _ header => ?_
  have counted : (uint32Field raw 0).Ensures fun count => uint32Field raw 0 = .ok count :=
    ⟨(ensures_uint32Field (by omega)).1, fun _ returned => returned⟩
  refine counted.bind fun count read => ?_
  refine Go.ensures_failIf.bind fun _ _ => ?_
  refine (ensures_parseRecords takes fits 0 count.toNat (Nat.le_of_not_lt header)).bind fun values found => ?_
  refine Go.ensures_failIf.bind fun _ whole => ?_
  obtain ⟨number, records, tiles, each⟩ := found
  rw [not_not.mp whole] at tiles
  exact Go.ensures_ok (.inr ⟨raw, count, records, bytes, read, number, tiles, each⟩)

end

/-! The whole payload. -/

/-- The references of a header are read without a panic, and one for each field. -/
theorem ensures_readBaseStationRefs (data : Bytes) (fieldOffset : UInt32) (index count : Nat) :
    (readBaseStationRefs data fieldOffset index count).Ensures fun refs => refs.length = count := by
  induction count generalizing index with
  | zero => exact Go.ensures_ok rfl
  | succ count ih =>
    refine (ensures_readOffsetSizeRef data _).mapError.bind fun r _ => ?_
    refine Go.ensures_failIf.bind fun _ _ => ?_
    refine (ih (index + 1)).bind fun refs number => ?_
    exact Go.ensures_ok (by simp [number])

/-- What an accepted payload is made of: the references of its header, to structures and arrays that fill the rest. -/
structure TakenApart (version : UInt16) (data : Bytes) (info : BaseStationsInfo) (refs : List ValueRef) : Prop where
  header : readBaseStationRefs data (BaseStationsInfo.refOffset version) 0 (BaseStationsInfo.refCount version) = .ok refs
  filled : Filled data (BaseStationsInfo.headerSize version).toNat refs
  sameVersion : info.mbimExVersion = version
  gsmServing : ∃ r, refs[0]? = some r ∧
    IsStruct parseGSMServingCell gsmServingCellFixedSize [0] data r info.gsmServingCell
  umtsServing : ∃ r, refs[1]? = some r ∧
    IsStruct parseUMTSServingCell umtsServingCellFixedSize [0] data r info.umtsServingCell
  tdscdmaServing : ∃ r, refs[2]? = some r ∧
    IsStruct parseTDSCDMAServingCell tdscdmaServingCellFixedSize [0] data r info.tdscdmaServingCell
  lteServing : ∃ r, refs[3]? = some r ∧
    IsStruct parseLTEServingCell lteServingCellFixedSize [0] data r info.lteServingCell
  gsmNeighboring : ∃ r, refs[4]? = some r ∧
    IsArray parseGSMNeighboringCell gsmNeighboringCellFixedSize [0] data r info.gsmNeighboringCells
  umtsNeighboring : ∃ r, refs[5]? = some r ∧
    IsArray parseUMTSNeighboringCell umtsNeighboringCellFixedSize [0] data r info.umtsNeighboringCells
  tdscdmaNeighboring : ∃ r, refs[6]? = some r ∧
    IsArray parseTDSCDMANeighboringCell tdscdmaNeighboringCellFixedSize [0] data r info.tdscdmaNeighboringCells
  lteNeighboring : ∃ r, refs[7]? = some r ∧
    IsArray parseLTENeighboringCell lteNeighboringCellFixedSize [0] data r info.lteNeighboringCells
  cdma : ∃ r, refs[8]? = some r ∧ IsArray parseCDMACell cdmaCellFixedSize [] data r info.cdmaCells
  nr : if version ≥ mbimExVersion30 then
      (∃ r, refs[9]? = some r ∧ IsArray parseNRServingCell nrServingCellFixedSize [0] data r info.nrServingCells) ∧
      (∃ r, refs[10]? = some r ∧
        IsArray parseNRNeighboringCell nrNeighboringCellFixedSize [4, 12] data r info.nrNeighboringCells)
    else info.nrServingCells = [] ∧ info.nrNeighboringCells = []

namespace BaseStationsInfo

/-- The subtype is read without a panic from a header that is long enough. -/
theorem ensures_parseSubtype (version : UInt16) (systemType : DataClass) {data : Bytes} (long : 76 ≤ data.length) :
    (parseSubtype version systemType data).Ensures fun _ => True := by
  refine Go.ensures_ite (fun _ => ?_) fun _ => Go.ensures_ok trivial
  refine (ensures_uint32Field (by omega)).bind fun _ _ => ?_
  refine Go.ensures_failIf.bind fun _ _ => ?_
  refine Go.ensures_failIf.bind fun _ _ => ?_
  exact Go.ensures_ok trivial

/-- The NR cells are taken apart in the versions that have them. -/
theorem ensures_parseNRCells {version : UInt16} {data : Bytes} {refs : List ValueRef} (short : data.length < 2 ^ 32)
    (valid : ∀ r ∈ refs, r.validate data = .ok ()) (number : refs.length = refCount version) :
    (parseNRCells version data refs).Ensures fun nr => if version ≥ mbimExVersion30 then
      (∃ r, refs[9]? = some r ∧ IsArray parseNRServingCell nrServingCellFixedSize [0] data r nr.1) ∧
      (∃ r, refs[10]? = some r ∧ IsArray parseNRNeighboringCell nrNeighboringCellFixedSize [4, 12] data r nr.2)
    else nr.1 = [] ∧ nr.2 = [] := by
  rw [parseNRCells]
  refine Go.ensures_ite (fun recent => ?_) fun old => ?_
  · rw [refCount, if_pos recent] at number
    -- The serving cells.
    refine (Go.ensures_index (by omega)).bind fun r9 at9 => ?_
    refine (ensures_parseBaseStationArray takesRecord_NRServingCell _ short
      (valid r9 (List.mem_of_getElem? at9))).mapError.bind fun serving isServing => ?_
    refine Go.ensures_failIf.bind fun _ _ => ?_
    -- The neighboring cells.
    refine (Go.ensures_index (by omega)).bind fun r10 at10 => ?_
    refine (ensures_parseBaseStationArray takesRecord_NRNeighboringCell _ short
      (valid r10 (List.mem_of_getElem? at10))).mapError.bind fun neighboring isNeighboring => ?_
    refine Go.ensures_failIf.bind fun _ _ => ?_
    apply Go.ensures_ok
    rw [if_pos recent]
    exact ⟨⟨r9, at9, isServing⟩, r10, at10, isNeighboring⟩
  · -- The older versions have none.
    apply Go.ensures_ok
    rw [if_neg old]
    exact ⟨rfl, rfl⟩

/-- The header of every version takes at least seventy-six bytes, and there are at least nine references. -/
theorem header_bounds (version : UInt16) : 76 ≤ (headerSize version).toNat ∧ 9 ≤ refCount version := by
  rw [headerSize, refCount]
  by_cases recent : version ≥ mbimExVersion30
  · rw [if_pos recent, if_pos recent]
    decide
  · rw [if_neg recent, if_neg recent]
    decide

/-- A payload is parsed without a panic, and what is accepted is taken apart without a rest. -/
theorem ensures_parse (version : UInt16) (data : Bytes) :
    (parse version data).Ensures fun info => ∃ refs, TakenApart version data info refs := by
  obtain ⟨least, most⟩ := header_bounds version
  refine Go.ensures_failIf.bind fun _ long => ?_
  -- The header is there with all of its references.
  have header : 76 ≤ data.length := by
    rw [UInt32.not_lt, UInt32.le_iff_toNat_le] at long
    exact Nat.le_trans least (Nat.le_trans long (uint32Length_le data))
  -- The references are to values that fill what follows the header.
  have found : (baseStationRefs data (refOffset version) (refCount version) (headerSize version)).Ensures fun refs =>
      readBaseStationRefs data (refOffset version) 0 (refCount version) = .ok refs ∧ refs.length = refCount version ∧
      Filled data (headerSize version).toNat refs := by
    have fields := ensures_readBaseStationRefs data (refOffset version) 0 (refCount version)
    have read : (readBaseStationRefs data (refOffset version) 0 (refCount version)).Ensures fun refs =>
        readBaseStationRefs data (refOffset version) 0 (refCount version) = .ok refs ∧ refs.length = refCount version :=
      ⟨fields.1, fun refs returned => ⟨returned, fields.2 refs returned⟩⟩
    refine read.bind fun refs listed => ?_
    refine (ensures_validateDataBufferRefs data _ refs).bind fun _ filled => ?_
    exact Go.ensures_ok ⟨listed.1, listed.2, filled⟩
  refine found.mapError.bind fun refs listed => ?_
  obtain ⟨read, number, filled⟩ := listed
  have short := filled.short
  have valid {k : Nat} {r : ValueRef} (there : refs[k]? = some r) : r.validate data = .ok () :=
    filled.valid r (List.mem_of_getElem? there)
  refine (ensures_uint32Field (by omega)).bind fun systemType _ => ?_
  refine Go.ensures_failIf.bind fun _ _ => ?_
  refine (ensures_parseSubtype version systemType header).bind fun systemSubtype _ => ?_
  -- Every reference is there, and what it points to is taken apart.
  refine (Go.ensures_index (by omega)).bind fun r0 at0 => ?_
  refine (ensures_parseBaseStationStruct takesRecord_GSMServingCell short (valid at0)).mapError.bind fun c0 is0 => ?_
  refine (Go.ensures_index (by omega)).bind fun r1 at1 => ?_
  refine (ensures_parseBaseStationStruct takesRecord_UMTSServingCell short (valid at1)).mapError.bind fun c1 is1 => ?_
  refine (Go.ensures_index (by omega)).bind fun r2 at2 => ?_
  refine (ensures_parseBaseStationStruct takesRecord_TDSCDMACell short (valid at2)).mapError.bind fun c2 is2 => ?_
  refine (Go.ensures_index (by omega)).bind fun r3 at3 => ?_
  refine (ensures_parseBaseStationStruct takesRecord_LTEServingCell short (valid at3)).mapError.bind fun c3 is3 => ?_
  refine (Go.ensures_index (by omega)).bind fun r4 at4 => ?_
  refine (ensures_parseBaseStationArray takesRecord_GSMNeighboringCell _ short (valid at4)).mapError.bind fun c4 is4 => ?_
  refine (Go.ensures_index (by omega)).bind fun r5 at5 => ?_
  refine (ensures_parseBaseStationArray takesRecord_UMTSNeighboringCell _ short (valid at5)).mapError.bind fun c5 is5 => ?_
  refine (Go.ensures_index (by omega)).bind fun r6 at6 => ?_
  refine (ensures_parseBaseStationArray takesRecord_TDSCDMACell _ short (valid at6)).mapError.bind fun c6 is6 => ?_
  refine (Go.ensures_index (by omega)).bind fun r7 at7 => ?_
  refine (ensures_parseBaseStationArray takesRecord_LTENeighboringCell _ short (valid at7)).mapError.bind fun c7 is7 => ?_
  refine (Go.ensures_index (by omega)).bind fun r8 at8 => ?_
  refine (ensures_parseBaseStationArray takesRecord_CDMACell _ short (valid at8)).mapError.bind fun c8 is8 => ?_
  refine (ensures_parseNRCells short filled.valid number).bind fun nr isNR => ?_
  refine Go.ensures_ok ⟨refs, ?_⟩
  exact
    { header := read, filled := filled, sameVersion := rfl
      gsmServing := ⟨r0, at0, is0⟩, umtsServing := ⟨r1, at1, is1⟩, tdscdmaServing := ⟨r2, at2, is2⟩
      lteServing := ⟨r3, at3, is3⟩, gsmNeighboring := ⟨r4, at4, is4⟩, umtsNeighboring := ⟨r5, at5, is5⟩
      tdscdmaNeighboring := ⟨r6, at6, is6⟩, lteNeighboring := ⟨r7, at7, is7⟩, cdma := ⟨r8, at8, is8⟩, nr := isNR }

/-- Base stations are parsed without a panic, an error leaves the receiver as it was, and an accepted payload is taken
apart without a rest: structures and arrays fill it behind the header, records tile the arrays as their counts say, and
strings follow one another in their records. -/
theorem base_stations_exact (i : BaseStationsInfo) (data : Bytes) :
    (i.unmarshalBinary data).1 ≠ .error .outOfRange ∧
    (∀ fault, (i.unmarshalBinary data).1 = .error fault → (i.unmarshalBinary data).2 = i) ∧
    ((i.unmarshalBinary data).1 = .ok () →
      ∃ refs, TakenApart i.mbimExVersion data (i.unmarshalBinary data).2 refs) := by
  rw [unmarshalBinary]
  rcases (ensures_parse i.mbimExVersion data).cases with ⟨info, returned, apart⟩ | ⟨error, failed⟩
  · rw [returned]
    exact ⟨by simp [Go.assign], by simp [Go.assign], fun _ => apart⟩
  · rw [failed]
    exact ⟨by simp [Go.assign, Go.fail], fun _ _ => rfl, by simp [Go.assign, Go.fail]⟩

end BaseStationsInfo

end Wwan.Mbim
