import Wwan.Mbim.Tai
import Wwan.Proofs.Mbim.Tlv
import Wwan.Proofs.Mbim.Wire

/-! Tracking-area lists are a canonical encoding, and the name of a data network delimits the lists before it. -/

namespace Wwan.Mbim

open Utf16.ByteOrder (littleEndian)

/-! Tracking areas. -/

/-- Area codes are read where they are written. -/
theorem tac_exact : Records.Exact LittleEndian.putUint32 4 tacAt where
  length := LittleEndian.putUint32_length
  roundTrip := by
    intro front value rest
    have read := LittleEndian.getUint32_putUint32 (ε := Error) value []
    rw [List.append_nil] at read
    rw [tacAt, Go.slice_between front rfl rfl (by rw [LittleEndian.putUint32_length]), Go.ok_bind, read]
  canonical := by
    intro data offset inside
    rw [tacAt, Go.slice_eq_ok (by omega) inside, Go.ok_bind, Nat.add_sub_cancel_left]
    exact LittleEndian.ensures_getUint32 (by rw [List.length_take, List.length_drop]; omega)

/-- Codes are read where they are written. -/
theorem code_exact : Records.Exact littleEndian.putUint16 2 codeAt where
  length := littleEndian.putUint16_length
  roundTrip := by
    intro front value rest
    have read := littleEndian.getUint16_putUint16 (ε := Error) value []
    rw [List.append_nil] at read
    rw [codeAt, Go.slice_between front rfl rfl (by rw [littleEndian.putUint16_length]), Go.ok_bind, read]
  canonical := by
    intro data offset inside
    rw [codeAt, Go.slice_eq_ok (by omega) inside, Go.ok_bind, Nat.add_sub_cancel_left]
    exact littleEndian.ensures_getUint16 (by rw [List.length_take, List.length_drop]; omega)

/-- Network codes are read where they are written. -/
theorem PLMN.exact : Records.Exact PLMN.bytes 4 PLMN.decodeAt :=
  code_exact.pair PLMN.mk code_exact (fun _ => rfl) (fun _ _ => ⟨rfl, rfl⟩)

/-- Areas that name their networks are read where they are written. -/
theorem TrackingAreaIdentity.exact : Records.Exact TrackingAreaIdentity.bytes 8 TrackingAreaIdentity.decodeAt :=
  PLMN.exact.pair TrackingAreaIdentity.mk tac_exact (fun _ => rfl) (fun _ _ => ⟨rfl, rfl⟩)

/-- Checking network codes does not panic. -/
theorem PLMN.ensures_validate (p : PLMN) : p.validate.Ensures fun _ => True := by
  refine Go.ensures_failIf.bind fun _ _ => Go.ensures_failIf.bind fun _ _ => ?_
  refine Go.ensures_ite (fun _ => ?_) fun _ => ?_
  · exact Go.ensures_failIf.bind fun _ _ => Go.ensures_failIf.mono fun _ _ => trivial
  · exact Go.ensures_failIf.bind fun _ _ => Go.ensures_failIf.mono fun _ _ => trivial

/-- Checking area codes does not panic. -/
theorem ensures_validateTACs (consecutive : Bool) (index : Nat) (previous : Option UInt32) (tacs : List UInt32) :
    (validateTACs consecutive index previous tacs).Ensures fun _ => True := by
  induction tacs generalizing index previous with
  | nil => exact Go.ensures_ok trivial
  | cons tac rest ih =>
    refine Go.ensures_failIf.mapError.bind fun _ _ => ?_
    cases previous with
    | none => exact ih (index + 1) (some tac)
    | some previous => exact Go.ensures_failIf.bind fun _ _ => ih (index + 1) (some tac)

/-- Checking areas with their networks does not panic. -/
theorem ensures_validateTAIs (index : Nat) (tais : List TrackingAreaIdentity) :
    (validateTAIs index tais).Ensures fun _ => True := by
  induction tais generalizing index with
  | nil => exact Go.ensures_ok trivial
  | cons tai rest ih =>
    refine tai.plmn.ensures_validate.mapError.bind fun _ _ => ?_
    exact Go.ensures_failIf.mapError.bind fun _ _ => ih (index + 1)

/-- Checking a list does not panic. -/
theorem TAIList.ensures_validate (l : TAIList) : l.validate.Ensures fun _ => True := by
  refine Go.ensures_ite (fun _ => ?_) fun _ => Go.ensures_ite (fun _ => ?_) fun _ => Go.ensures_fail _
  · refine Go.ensures_failIf.bind fun _ _ => Go.ensures_failIf.bind fun _ _ => ?_
    exact l.plmn.ensures_validate.bind fun _ _ => ensures_validateTACs _ 0 none l.tacs
  · exact Go.ensures_failIf.bind fun _ _ => Go.ensures_failIf.bind fun _ _ => ensures_validateTAIs 0 l.tais

/-- The shapes of an encoded list, with the list each stands for. -/
inductive TAIList.Form : Bytes → TAIList → Prop where
  | single (type : TAIListType) (plmn : PLMN) (tacs : List UInt32)
      (format : type = TAIListType.nonConsecutive ∨ type = TAIListType.consecutive) (counted : tacs.length < 256) :
    Form (type :: (plmn.bytes ++ UInt8.ofNat tacs.length :: tacs.flatMap LittleEndian.putUint32)) { type, plmn, tacs }
  | multiple (tais : List TrackingAreaIdentity) (counted : tais.length < 256) :
    Form (TAIListType.multiplePLMNs :: UInt8.ofNat tais.length :: tais.flatMap TrackingAreaIdentity.bytes)
      { type := TAIListType.multiplePLMNs, tais }

/-- A list that is encoded is valid and in its shape. -/
theorem TAIList.form_of_marshalBinary {l : TAIList} {data : Bytes} (encoded : l.marshalBinary = .ok data) :
    l.validate = .ok () ∧ Form data l := by
  rw [TAIList.marshalBinary, Go.unit_bind_eq_ok, Go.mapError_eq_ok] at encoded
  obtain ⟨valid, encoded⟩ := encoded
  refine ⟨valid, ?_⟩
  obtain ⟨type, plmn, tacs, tais⟩ := l
  rw [TAIList.validate] at valid
  by_cases single : type = TAIListType.nonConsecutive ∨ type = TAIListType.consecutive
  · -- A list of one network has no areas with networks of their own.
    rw [if_pos single, Go.unit_bind_eq_ok, Go.failIf_eq_ok, Go.unit_bind_eq_ok, Go.failIf_eq_ok] at valid
    obtain ⟨count, none, -⟩ := valid
    rw [not_not, List.length_eq_zero_iff] at none
    simp only at none count
    subst none
    rw [if_pos single] at encoded
    cases encoded
    exact .single type plmn tacs single (by omega)
  · rw [if_neg single] at valid encoded
    by_cases multiple : type = TAIListType.multiplePLMNs
    · -- A list of several networks has neither a network nor codes of its own.
      rw [if_pos multiple, Go.unit_bind_eq_ok, Go.failIf_eq_ok, Go.unit_bind_eq_ok, Go.failIf_eq_ok] at valid
      obtain ⟨count, none, -⟩ := valid
      rw [not_or, not_not, not_not, List.length_eq_zero_iff] at none
      obtain ⟨rfl, rfl⟩ := none
      simp only at count
      rw [if_pos multiple] at encoded
      cases encoded
      cases multiple
      exact .multiple tais (by omega)
    · -- There is no other format.
      rw [if_neg multiple] at valid
      exact absurd valid (by simp)

/-- The third format is neither of the others. -/
theorem multiplePLMNs_not_single :
    ¬ (TAIListType.multiplePLMNs = TAIListType.nonConsecutive ∨ TAIListType.multiplePLMNs = TAIListType.consecutive) := by
  decide

/-- A valid list is written in its shape. -/
theorem TAIList.Form.written {data : Bytes} {l : TAIList} (form : Form data l) (valid : l.validate = .ok ()) :
    l.marshalBinary = .ok data := by
  rw [TAIList.marshalBinary, valid, Go.mapError_ok, Go.ok_bind]
  cases form with
  | single type plmn tacs format =>
    rw [if_pos format]
    rfl
  | multiple tais =>
    rw [if_neg multiplePLMNs_not_single, if_pos rfl]
    rfl

/-- The first byte of a shape is a format. -/
theorem TAIList.Form.first {data : Bytes} {l : TAIList} (form : Form data l) :
    ∃ rest, data = l.type :: rest ∧ l.type ≤ TAIListType.multiplePLMNs := by
  cases form with
  | single type plmn tacs format =>
    refine ⟨_, rfl, ?_⟩
    rcases format with rfl | rfl
    · exact (by decide : TAIListType.nonConsecutive ≤ TAIListType.multiplePLMNs)
    · exact (by decide : TAIListType.consecutive ≤ TAIListType.multiplePLMNs)
  | multiple tais => exact ⟨_, rfl, (by decide : TAIListType.multiplePLMNs ≤ TAIListType.multiplePLMNs)⟩

/-- A count below 256 fits into its byte. -/
private theorem toNat_count {n : Nat} (small : n < 256) : (UInt8.ofNat n).toNat = n :=
  UInt8.toNat_ofNat_of_lt' small

/-- A list is read back from in front of anything. -/
theorem TAIList.Form.read {data : Bytes} {l : TAIList} (form : Form data l) (rest : Bytes) :
    unmarshalTAIListFields (data ++ rest) l.type = .ok (l, data.length) := by
  cases form with
  | single type plmn tacs format counted =>
    -- The network codes stand behind the format, the area codes behind their count.
    have codes := PLMN.exact.roundTrip [type] plmn (UInt8.ofNat tacs.length :: tacs.flatMap LittleEndian.putUint32 ++ rest)
    have areas := tac_exact.read_flatMap (type :: plmn.bytes ++ [UInt8.ofNat tacs.length]) tacs rest
    have size := tac_exact.length_flatMap tacs
    obtain ⟨m0, m1, mcc, -⟩ := Utf16.ByteOrder.putUint16_eq littleEndian plmn.mcc
    obtain ⟨n0, n1, mnc, -⟩ := Utf16.ByteOrder.putUint16_eq littleEndian plmn.mnc
    have bytes : plmn.bytes = [m0, m1, n0, n1] := by rw [PLMN.bytes, mcc, mnc]; rfl
    rw [bytes] at codes areas ⊢
    simp only [List.cons_append, List.nil_append, List.length_cons, List.length_nil] at codes areas ⊢
    -- The guards find the whole list, and each field is read where it stands.
    rw [unmarshalTAIListFields, if_pos format, Go.failIf_bind_of_not (by simp)]
    rw [show ∀ tail, (Go.index (type :: m0 :: m1 :: n0 :: n1 :: UInt8.ofNat tacs.length :: tail) 5 : Go Error UInt8) =
      .ok (UInt8.ofNat tacs.length) from fun _ => rfl, Go.ok_bind, toNat_count counted]
    rw [Go.failIf_bind_of_not (by simp [size]; omega), codes, Go.ok_bind, areas, Go.ok_bind, size]
    simp
    omega
  | multiple tais counted =>
    -- The areas stand behind their count.
    have areas := TrackingAreaIdentity.exact.read_flatMap [TAIListType.multiplePLMNs, UInt8.ofNat tais.length] tais rest
    have size := TrackingAreaIdentity.exact.length_flatMap tais
    simp only [List.cons_append, List.nil_append, List.length_cons, List.length_nil] at areas ⊢
    rw [unmarshalTAIListFields, if_neg multiplePLMNs_not_single, if_pos rfl, Go.failIf_bind_of_not (by simp)]
    rw [show ∀ tail, (Go.index (TAIListType.multiplePLMNs :: UInt8.ofNat tais.length :: tail) 1 : Go Error UInt8) =
      .ok (UInt8.ofNat tais.length) from fun _ => rfl, Go.ok_bind, toNat_count counted]
    rw [Go.failIf_bind_of_not (by simp [size]; omega), areas, Go.ok_bind, size]
    simp
    omega

/-- What is read as a list behind its format has the shape of the list. -/
theorem TAIList.ensures_unmarshalFields (type : TAIListType) (rest : Bytes) :
    (unmarshalTAIListFields (type :: rest) type).Ensures fun item =>
      0 < item.2 ∧ item.2 ≤ (type :: rest).length ∧ Form ((type :: rest).take item.2) item.1 := by
  rw [unmarshalTAIListFields]
  refine Go.ensures_ite (fun single => ?_) fun _ => Go.ensures_ite (fun multiple => ?_) fun _ => Go.ensures_fail _
  · -- Format, network codes and count take six bytes.
    refine Go.ensures_failIf.bind fun _ header => ?_
    have long : 5 ≤ rest.length := by
      simp only [List.length_cons] at header
      omega
    obtain ⟨m0, r0, rfl, long0⟩ := exists_cons_of_le_length long
    obtain ⟨m1, r1, rfl, long1⟩ := exists_cons_of_le_length long0
    obtain ⟨n0, r2, rfl, long2⟩ := exists_cons_of_le_length long1
    obtain ⟨n1, r3, rfl, long3⟩ := exists_cons_of_le_length long2
    obtain ⟨count, areas, rfl, -⟩ := exists_cons_of_le_length long3
    rw [show (Go.index (type :: m0 :: m1 :: n0 :: n1 :: count :: areas) 5 : Go Error UInt8) = .ok count from rfl,
      Go.ok_bind]
    refine Go.ensures_failIf.bind fun _ inside => ?_
    -- The codes and the areas are what their bytes encode.
    refine (PLMN.exact.canonical _ 1 (by simp)).bind fun plmn codes => ?_
    refine (tac_exact.ensures_read (by omega)).bind fun tacs listed => ?_
    obtain ⟨counted, listed⟩ := listed
    refine Go.ensures_ok ⟨by simp only; omega, by simp only; omega, ?_⟩
    -- The shape of what was read is spelled with the bytes it was read from.
    have shape := TAIList.Form.single type plmn tacs single (by rw [counted]; exact count.toNat_lt)
    rw [codes, listed, counted, UInt8.ofNat_toNat] at shape
    simpa [Nat.add_comm 6] using shape
  · -- Format and count take two bytes.
    subst multiple
    refine Go.ensures_failIf.bind fun _ header => ?_
    have long : 1 ≤ rest.length := by
      simp only [List.length_cons] at header
      omega
    obtain ⟨count, areas, rfl, -⟩ := exists_cons_of_le_length long
    rw [show (Go.index (TAIListType.multiplePLMNs :: count :: areas) 1 : Go Error UInt8) = .ok count from rfl, Go.ok_bind]
    refine Go.ensures_failIf.bind fun _ inside => ?_
    refine (TrackingAreaIdentity.exact.ensures_read (by omega)).bind fun tais listed => ?_
    obtain ⟨counted, listed⟩ := listed
    refine Go.ensures_ok ⟨by simp only; omega, by simp only; omega, ?_⟩
    have shape := TAIList.Form.multiple tais (by rw [counted]; exact count.toNat_lt)
    rw [listed, counted, UInt8.ofNat_toNat] at shape
    simpa [Nat.add_comm 2] using shape

/-- A valid list is read back from in front of anything. -/
theorem TAIList.unmarshalPrefix_marshalBinary {l : TAIList} {data : Bytes} (encoded : l.marshalBinary = .ok data)
    (rest : Bytes) : unmarshalTAIListPrefix (data ++ rest) = .ok (l, data.length) := by
  obtain ⟨valid, form⟩ := form_of_marshalBinary encoded
  have read := form.read rest
  obtain ⟨tail, shape, -⟩ := form.first
  rw [unmarshalTAIListPrefix, Go.failIf_bind_of_not (by simp [shape])]
  rw [show (Go.index (data ++ rest) 0 : Go Error UInt8) = .ok l.type from by rw [shape]; rfl, Go.ok_bind, read, Go.ok_bind,
    valid, Go.mapError_ok, Go.ok_bind]
  rfl

/-- What is read off the front is the encoding of the list that is returned. -/
theorem TAIList.ensures_unmarshalPrefix (data : Bytes) : (unmarshalTAIListPrefix data).Ensures fun item =>
    0 < item.2 ∧ item.2 ≤ data.length ∧ item.1.marshalBinary = .ok (data.take item.2) := by
  rw [unmarshalTAIListPrefix]
  refine Go.ensures_failIf.bind fun _ some => ?_
  obtain ⟨type, rest, rfl, -⟩ := exists_cons_of_le_length (Nat.le_of_not_lt some)
  rw [show (Go.index (type :: rest) 0 : Go Error UInt8) = .ok type from rfl, Go.ok_bind]
  refine (TAIList.ensures_unmarshalFields type rest).bind fun item read => ?_
  obtain ⟨progress, inside, form⟩ := read
  refine (Go.ensures_passed item.1.ensures_validate.1).mapError.bind fun _ valid => ?_
  exact Go.ensures_ok ⟨progress, inside, form.written valid⟩

/-- Every list of a TLV is read back, whatever follows. -/
theorem TAIList.inverts : Sequence.Inverts TAIList.marshalItem TAIList.unmarshalItem id (fun _ => True) (fun _ => True) where
  nonempty := by
    intro before x encoded written
    obtain ⟨rest, shape, -⟩ := (form_of_marshalBinary (Go.mapError_eq_ok.mp written)).2.first
    simp [shape]
  roundTrip := by
    intro before x encoded rest _ written _
    exact Go.mapError_eq_ok.mpr (unmarshalPrefix_marshalBinary (Go.mapError_eq_ok.mp written) rest)
  next := fun _ _ _ _ _ => trivial

/-- The parser of a TLV accepts only encoded lists. -/
theorem TAIList.canonical : Sequence.Canonical TAIList.marshalItem TAIList.unmarshalItem := by
  intro values data _
  refine (TAIList.ensures_unmarshalPrefix data).mapError.mono fun item read => ?_
  obtain ⟨progress, inside, encoded⟩ := read
  exact ⟨progress, inside, Go.mapError_eq_ok.mpr encoded⟩

/-! Local-area data networks. -/

/-- The byte that ends a run of tracking-area lists, if there is one, is no format. -/
def EndsLists (rest : Bytes) : Prop :=
  ∀ first tail, rest = first :: tail → ¬ first ≤ TAIListType.multiplePLMNs

/-- A run of lists is read up to what ends it. -/
theorem unmarshalTAILists_write {before lists : List TAIList} {body rest : Bytes} {rounds : Nat} (front : Bytes) (written : Sequence.write LADN.marshalList before lists = .ok body) (ends : EndsLists rest)
    (enough : body.length ≤ rounds) : unmarshalTAILists (front ++ (body ++ rest)) rounds before front.length =
      .ok (before ++ lists, front.length + body.length) := by
  -- What has been read joins the front, so the front stays quantified over.
  induction lists generalizing front before body rounds with
  -- What follows the lists ends the loop.
  | nil =>
    cases written
    have none : moreTAILists (front ++ ([] ++ rest)) front.length = .ok false := by
      cases rest with
      | nil => rw [moreTAILists, if_neg (by simp)]; rfl
      | cons first tail =>
        have next : (Go.index (front ++ first :: tail) front.length : Go Error UInt8) = .ok first :=
          Go.index_append front first tail
        rw [moreTAILists, if_pos (by simp), List.nil_append, next, Go.ok_bind, decide_eq_false (ends first tail rfl)]
        rfl
    cases rounds with
    | zero => rw [unmarshalTAILists, none]; simp
    | succ rounds => rw [unmarshalTAILists, none]; simp
  | cons list lists ih =>
    obtain ⟨encoded, first, written⟩ := Go.bind_eq_ok.mp written
    obtain ⟨others, remaining, written⟩ := Go.bind_eq_ok.mp written
    cases written
    -- The first list is read, and its own bytes are used up.
    have marshalled := Go.mapError_eq_ok.mp first
    obtain ⟨tail, shape, format⟩ := (TAIList.form_of_marshalBinary marshalled).2.first
    have read := TAIList.unmarshalPrefix_marshalBinary marshalled (others ++ rest)
    -- An encoded list starts with its format, so the loop goes on.
    have next : (Go.index (front ++ (encoded ++ others ++ rest)) front.length : Go Error UInt8) = .ok list.type := by
      rw [shape]
      exact Go.index_append front list.type _
    have more : moreTAILists (front ++ (encoded ++ others ++ rest)) front.length = .ok true := by
      rw [moreTAILists, if_pos (by simp [shape]), next, Go.ok_bind, decide_eq_true format]
      rfl
    have cut : (Go.slice (front ++ (encoded ++ others ++ rest)) front.length (front ++ (encoded ++ others ++ rest)).length :
        Go Error Bytes) = .ok (encoded ++ (others ++ rest)) := by
      rw [Go.slice_from (by simp), List.drop_left, List.append_assoc]
    have sizes : (encoded ++ others).length = tail.length + 1 + others.length := by
      rw [List.length_append, shape, List.length_cons]
    obtain ⟨rounds, rfl⟩ : ∃ fewer, rounds = fewer + 1 := ⟨rounds - 1, by omega⟩
    have fewer : others.length ≤ rounds := by omega
    rw [unmarshalTAILists, more, Go.ok_bind, if_pos rfl, cut, Go.ok_bind, read, Go.mapError_ok, Go.ok_bind]
    -- The next round starts behind the list that was read.
    have split : front ++ (encoded ++ others ++ rest) = front ++ encoded ++ (others ++ rest) := by simp
    have behind : front.length + encoded.length = (front ++ encoded).length := by simp
    rw [split, behind, ih (front ++ encoded) remaining fewer]
    simp [Nat.add_assoc]

/-- From version 4.0 on, the name's length field holds its length. -/
def LADN.Fits (version : UInt16) (value : LADN) : Prop :=
  version ≥ mbimExVersion40 → (utf16Bytes value.dnn).length < 2 ^ 32

/-- An encoded name starts with a byte that is no format. -/
theorem endsLists_marshalDNN {dnn : GoString} {version : UInt16} {encoded : Bytes}
    (written : marshalDNN dnn version = .ok encoded) (rest : Bytes) : EndsLists (encoded ++ rest) := by
  rw [marshalDNN] at written
  by_cases string : version ≥ mbimExVersion40
  · -- The first byte is the low byte of the string type.
    rw [if_pos string] at written
    cases written
    intro first tail shape
    have low : first = 10 := (List.cons.inj shape).1.symm
    rw [low]
    decide
  · -- The first byte is the length, which is three at least.
    rw [if_neg string, Go.unit_bind_eq_ok, Go.failIf_eq_ok, not_or] at written
    obtain ⟨⟨least, most⟩, written⟩ := written
    cases written
    intro first tail shape
    have length : first = UInt8.ofNat dnn.length := (List.cons.inj shape).1.symm
    have value : (UInt8.ofNat dnn.length).toNat = dnn.length :=
      UInt8.toNat_ofNat_of_lt' (by simp only [maximumLADNDNNLength] at most; simp [UInt8.size]; omega)
    rw [length, UInt8.le_iff_toNat_le, value]
    simp only [minimumLADNDNNLength] at least
    have format : TAIListType.multiplePLMNs.toNat = 2 := rfl
    omega

/-- An encoded name has a byte at least. -/
theorem marshalDNN_ne_nil {dnn : GoString} {version : UInt16} {encoded : Bytes}
    (written : marshalDNN dnn version = .ok encoded) : encoded ≠ [] := by
  rw [marshalDNN] at written
  by_cases string : version ≥ mbimExVersion40
  · rw [if_pos string] at written
    cases written
    intro empty
    have length := marshalTLV_length TLVType.wCharString (utf16Bytes dnn)
    rw [empty, List.length_nil] at length
    omega
  · rw [if_neg string, Go.unit_bind_eq_ok] at written
    cases written.2
    simp

/-- A name is read back from in front of anything. -/
theorem unmarshalDNN_marshalDNN {value : LADN} {version : UInt16} {encoded : Bytes} (fits : value.Fits version)
    (valid : Utf8.validString value.dnn = true) (written : marshalDNN value.dnn version = .ok encoded) (rest : Bytes) :
    unmarshalDNN (encoded ++ rest) version = .ok (value.dnn, encoded.length) := by
  rw [marshalDNN] at written
  rw [unmarshalDNN]
  by_cases string : version ≥ mbimExVersion40
  · -- From version 4.0 on the name is a TLV with a string.
    rw [if_pos string] at written ⊢
    cases written
    have typed : ¬ (TLVType.wCharString = 0 ∨ TLVType.wCharString > maxTLVType) := by decide
    have can : TLV.Valid ⟨TLVType.wCharString, utf16Bytes value.dnn⟩ := ⟨typed, fits string⟩
    rw [unmarshalTLVPrefix_marshalTLV can, Go.mapError_ok, Go.ok_bind, Go.failIf_bind_of_not (by simp),
      utf16RawString_utf16Bytes valid]
    rfl
  · -- Before that the name stands behind its length.
    rw [if_neg string, Go.unit_bind_eq_ok, Go.failIf_eq_ok] at written
    obtain ⟨range, written⟩ := written
    cases written
    have length : (UInt8.ofNat value.dnn.length).toNat = value.dnn.length :=
      UInt8.toNat_ofNat_of_lt' (by simp only [maximumLADNDNNLength] at range; simp [UInt8.size]; omega)
    have name : (Go.slice (UInt8.ofNat value.dnn.length :: value.dnn ++ rest) 1 (value.dnn.length + 1) : Go Error Bytes) =
        .ok value.dnn :=
      Go.slice_between [UInt8.ofNat value.dnn.length] rfl rfl (Nat.add_comm 1 _)
    rw [if_neg string, Go.failIf_bind_of_not (by simp)]
    rw [show (Go.index (UInt8.ofNat value.dnn.length :: value.dnn ++ rest) 0 : Go Error UInt8) =
      .ok (UInt8.ofNat value.dnn.length) from rfl, Go.ok_bind, length]
    rw [Go.failIf_bind_of_not range, Go.failIf_bind_of_not (by simp), name, Go.ok_bind]
    rfl

/-- Parsing a name does not panic, stays inside the data and returns a name whose length fits. -/
theorem ensures_unmarshalDNN (data : Bytes) (version : UInt16) : (unmarshalDNN data version).Ensures fun name =>
    0 < name.2 ∧ name.2 ≤ data.length ∧ (version ≥ mbimExVersion40 → (utf16Bytes name.1).length < 2 ^ 32) := by
  refine Go.ensures_ite (fun _ => ?_) fun other => ?_
  · refine (ensures_unmarshalTLVPrefix data).mapError.bind fun item read => ?_
    obtain ⟨progress, inside, encoded⟩ := read
    have short := (TLV.marshalBinary_eq_ok.mp encoded).1.2
    refine Go.ensures_failIf.bind fun _ _ => ?_
    refine (ensures_utf16RawString item.1.data).mapError.bind fun dnn length => ?_
    exact Go.ensures_ok ⟨progress, inside, fun _ => by rw [length]; exact short⟩
  · refine Go.ensures_failIf.bind fun _ some => ?_
    refine (Go.ensures_index (by omega)).bind fun length _ => ?_
    refine Go.ensures_failIf.bind fun _ _ => ?_
    refine Go.ensures_failIf.bind fun _ inside => ?_
    refine (Go.ensures_slice (by omega) (by omega)).bind fun dnn _ => ?_
    exact Go.ensures_ok ⟨by simp, by simp only; omega, fun string => absurd string other⟩

/-- What a network is encoded as. -/
theorem marshalLADN_eq_ok {value : LADN} {version : UInt16} {data : Bytes} : marshalLADN value version = .ok data ↔
    value.taiLists ≠ [] ∧ ∃ name lists, marshalDNN value.dnn version = .ok name ∧
      Sequence.write LADN.marshalList [] value.taiLists = .ok lists ∧ name ++ lists = data := by
  rw [marshalLADN, Go.unit_bind_eq_ok, Go.failIf_eq_ok, List.length_eq_zero_iff]
  simp only [Go.bind_eq_ok, Go.pure_eq, Except.ok.injEq]
  constructor
  · rintro ⟨some, name, named, lists, listed, same⟩
    exact ⟨some, name, lists, named, listed, same⟩
  · rintro ⟨some, name, lists, named, listed, same⟩
    exact ⟨some, name, named, lists, listed, same⟩

/-- Every network of a list is read back up to where the next one's name starts. -/
theorem LADN.inverts (version : UInt16) : Sequence.Inverts (LADN.marshalItem version) (LADN.unmarshalItem version) id
    (fun value => value.Fits version ∧ Utf8.validString value.dnn = true) EndsLists where
  -- An encoded network has a name at least.
  nonempty := by
    intro before value encoded written
    obtain ⟨-, name, lists, named, -, rfl⟩ := marshalLADN_eq_ok.mp (Go.mapError_eq_ok.mp written)
    have filled := marshalDNN_ne_nil named
    simp [filled]
  -- The name is read first, and then the lists up to what ends them.
  roundTrip := by
    intro before value encoded rest valid written ends
    obtain ⟨some, name, lists, named, listed, rfl⟩ := marshalLADN_eq_ok.mp (Go.mapError_eq_ok.mp written)
    have read := unmarshalDNN_marshalDNN valid.1 valid.2 named (lists ++ rest)
    have enough : lists.length ≤ (name ++ (lists ++ rest)).length := by
      rw [List.length_append, List.length_append]
      omega
    have areas := unmarshalTAILists_write name listed ends enough
    refine Go.mapError_eq_ok.mpr ?_
    rw [List.append_assoc, unmarshalLADNPrefix, read, Go.ok_bind, areas, Go.ok_bind,
      Go.failIf_bind_of_not (by simpa using some)]
    simp
  -- The next network starts with its name, which ends the lists.
  next := by
    intro before value encoded rest written
    obtain ⟨-, name, lists, named, -, rfl⟩ := marshalLADN_eq_ok.mp (Go.mapError_eq_ok.mp written)
    rw [List.append_assoc]
    exact endsLists_marshalDNN named _

/-- A network that is read has a name whose length fits. -/
theorem LADN.fits_of_unmarshal {version : UInt16} {values : List LADN} {data : Bytes} {value : LADN} {consumed : Nat}
    (read : LADN.unmarshalItem version values data = .ok (value, consumed)) : value.Fits version := by
  obtain ⟨name, named, read⟩ := Go.bind_eq_ok.mp (Go.mapError_eq_ok.mp read)
  obtain ⟨lists, -, read⟩ := Go.bind_eq_ok.mp read
  obtain ⟨-, read⟩ := Go.unit_bind_eq_ok.mp read
  cases read
  exact ((ensures_unmarshalDNN data version).2 name named).2.2

/-- Networks with names of valid UTF-8 are read back from their TLV exactly when the length fields hold the names' lengths. -/
theorem LADNList.unmarshalTLV_new_iff {values : List LADN} {version : UInt16} {tlv : TLV}
    (valid : ∀ value ∈ values, Utf8.validString value.dnn = true) (new : newLADNTLV values version = .ok tlv) :
    LADNList.unmarshalTLV tlv version = .ok values ↔
      ∀ value ∈ values, value.Fits (networkParametersVersion version) := by
  rw [newLADNTLV, Go.unit_bind_eq_ok, Go.failIf_eq_ok] at new
  obtain ⟨supported, new⟩ := new
  rw [LADNList.unmarshalTLV, Go.failIf_bind_of_not supported]
  constructor
  · -- Every name that is read has a length that fits.
    intro read value member
    obtain ⟨-, read⟩ := Go.unit_bind_eq_ok.mp read
    obtain ⟨-, read⟩ := Go.unit_bind_eq_ok.mp read
    rcases Sequence.forall_of_read read value member with none | ⟨before, data, consumed, item⟩
    · simp at none
    · exact LADN.fits_of_unmarshal item
  · intro fits
    -- Nothing follows the last network, so its lists end with the data.
    have ends : EndsLists [] := fun _ _ same => by cases same
    rw [unmarshalListTLV_newListTLV (LADN.inverts _) ends (fun value member => ⟨fits value member, valid value member⟩) new,
      List.map_id]

/-- Tracking-area lists and the TLVs they are encoded as determine each other, and networks with names of valid UTF-8
are read back from their TLV exactly when, from version 4.0 on, every name takes less than 2^32 bytes of UTF-16. -/
theorem tai_ladn_exact (lists : List TAIList) (areas : TLV) (values : List LADN) (version : UInt16) (tlv : TLV) :
    (newTAITLV lists = .ok areas → TAILists.unmarshalTLV areas = .ok lists) ∧
    ((TAILists.unmarshalTLV areas).Ensures fun lists => newTAITLV lists = .ok areas) ∧
    ((∀ value ∈ values, Utf8.validString value.dnn = true) → newLADNTLV values version = .ok tlv →
      (LADNList.unmarshalTLV tlv version = .ok values ↔
        ∀ value ∈ values, networkParametersVersion version ≥ mbimExVersion40 →
          (utf16Bytes value.dnn).length < 2 ^ 32)) := by
  refine ⟨fun written => ?_, ensures_unmarshalListTLV TAIList.canonical areas, ?_⟩
  · have read : TAILists.unmarshalTLV areas = .ok (lists.map id) :=
      unmarshalListTLV_newListTLV TAIList.inverts trivial (fun _ _ => trivial) written
    rwa [List.map_id] at read
  · exact fun valid new => LADNList.unmarshalTLV_new_iff valid new

/-- Two networks, the first with areas of two formats. -/
def campusNetworks : List LADN :=
  [⟨[0x61, 0x62, 0x63], [{ type := 1, plmn := ⟨0x262, 0x8001⟩, tacs := [5, 6] },
      { type := 2, tais := [⟨⟨0x262, 0x8001⟩, 7⟩] }]⟩,
    ⟨[0x78, 0x79, 0x7a], [{ type := 0, plmn := ⟨0x262, 0x8001⟩, tacs := [9] }]⟩]

/-- Their TLV in a version. -/
def campusTLV (version : UInt16) : TLV :=
  match newLADNTLV campusNetworks version with
  | .ok tlv => tlv
  | .error _ => ⟨0, []⟩

/-- The boundary between the networks is recovered in version 4.0. -/
theorem campusNetworks_recovered : newLADNTLV campusNetworks 0x0400 = .ok (campusTLV 0x0400) ∧
    LADNList.unmarshalTLV (campusTLV 0x0400) 0x0400 = .ok campusNetworks := by
  have made : newLADNTLV campusNetworks 0x0400 = .ok (campusTLV 0x0400) := by decide +kernel
  refine ⟨made, ((tai_ladn_exact [] ⟨0, []⟩ campusNetworks 0x0400 _).2.2 (by decide +kernel) made).mpr ?_⟩
  decide +kernel

/-- A name of repeated letters. -/
def longNetwork (count : Nat) : LADN :=
  ⟨Utf8.encodeRunes (List.replicate count 'a'), [{ type := 0, plmn := ⟨0x262, 0x8001⟩, tacs := [9] }]⟩

/-- Such a network has a TLV, however long its name is. -/
theorem longNetwork_new (count : Nat) : ∃ tlv, newLADNTLV [longNetwork count] 0x0400 = .ok tlv := by
  have lists : Sequence.write LADN.marshalList [] (longNetwork count).taiLists =
      .ok [0, 0x62, 0x02, 0x01, 0x80, 1, 9, 0, 0, 0] := by
    show Sequence.write LADN.marshalList [] [{ type := 0, plmn := ⟨0x262, 0x8001⟩, tacs := [9] }] = _
    decide
  have name : marshalDNN (longNetwork count).dnn 0x0400 =
      .ok (marshalTLV TLVType.wCharString (utf16Bytes (longNetwork count).dnn)) := by
    rw [marshalDNN, if_pos (by decide)]
    rfl
  have network : ∃ data, LADN.marshalItem 0x0400 [] (longNetwork count) = .ok data :=
    ⟨_, Go.mapError_eq_ok.mpr (marshalLADN_eq_ok.mpr ⟨by simp [longNetwork], _, _, name, lists, rfl⟩)⟩
  obtain ⟨data, network⟩ := network
  refine ⟨⟨TLVType.ladn, data ++ []⟩, ?_⟩
  rw [newLADNTLV, Go.failIf_bind_of_not (by decide)]
  refine newListTLV_eq_ok.mpr ⟨by simp, rfl, ?_⟩
  rw [Sequence.write, show networkParametersVersion 0x0400 = 0x0400 from rfl, network]
  rfl

/-- A name of 2^31 letters has a TLV, from which it is not read back. -/
theorem longNetwork_lost : Utf8.validString (longNetwork (2 ^ 31)).dnn = true ∧
    ∃ tlv, newLADNTLV [longNetwork (2 ^ 31)] 0x0400 = .ok tlv ∧
      LADNList.unmarshalTLV tlv 0x0400 ≠ .ok [longNetwork (2 ^ 31)] := by
  have valid (count : Nat) : Utf8.validString (longNetwork count).dnn = true := Utf8.validString_encodeRunes _
  -- Two bytes for each of the letters do not fit into the length field.
  have size (count : Nat) : (utf16Bytes (longNetwork count).dnn).length = 2 * count := by
    rw [utf16Bytes_length, longNetwork, Utf8.runes_encodeRunes]
    congr 1
    induction count with
    | zero => rfl
    | succ count ih => rw [List.replicate_succ, Utf16.encode_cons, List.length_append, ih, Nat.add_comm]; rfl
  obtain ⟨tlv, new⟩ := longNetwork_new (2 ^ 31)
  refine ⟨valid _, tlv, new, fun read => ?_⟩
  have each : ∀ value ∈ [longNetwork (2 ^ 31)], Utf8.validString value.dnn = true := by
    intro value member
    rw [List.mem_singleton.mp member]
    exact valid _
  have fits := (LADNList.unmarshalTLV_new_iff each new).mp read _ (List.mem_singleton_self _) (by decide)
  rw [size] at fits
  omega

end Wwan.Mbim
