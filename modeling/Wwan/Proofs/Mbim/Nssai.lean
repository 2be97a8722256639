import Wwan.Mbim.Nssai
import Wwan.Proofs.Mbim.Tlv

/-! The encoders and the parsers of slice lists enforce the same restrictions and undo each other. -/

namespace Wwan.Mbim

/-! Slice identifiers. -/

/-- The five shapes of an encoded slice identifier, with the identifier each stands for. -/
inductive SNSSAI.Form : Bytes → SNSSAI → Prop where
  | plain (sst : UInt8) : Form [1, sst] { sliceServiceType := sst }
  | mapped (sst m : UInt8) :
    Form [2, sst, m] { sliceServiceType := sst, mappedSliceServiceType := m, hasMappedSliceServiceType := true }
  | differentiated (sst a b c : UInt8) :
    Form [4, sst, a, b, c]
      { sliceServiceType := sst, sliceDifferentiator := (a, b, c), hasSliceDifferentiator := true }
  | differentiatedMapped (sst a b c m : UInt8) :
    Form [5, sst, a, b, c, m]
      { sliceServiceType := sst, sliceDifferentiator := (a, b, c), hasSliceDifferentiator := true
        mappedSliceServiceType := m, hasMappedSliceServiceType := true }
  | full (sst a b c m x y z : UInt8) :
    Form [8, sst, a, b, c, m, x, y, z]
      { sliceServiceType := sst, sliceDifferentiator := (a, b, c), hasSliceDifferentiator := true
        mappedSliceServiceType := m, hasMappedSliceServiceType := true
        mappedSliceDifferentiator := (x, y, z), hasMappedSliceDifferentiator := true }

/-- Each shape is read as its identifier. -/
theorem SNSSAI.Form.read {data : Bytes} {s : SNSSAI} (form : Form data s) : SNSSAI.unmarshalBinary data = .ok s := by
  cases form <;> rfl

/-- Each identifier is written in its shape. -/
theorem SNSSAI.Form.written {data : Bytes} {s : SNSSAI} (form : Form data s) : s.marshalBinary = .ok data := by
  cases form <;> rfl

/-- The length byte counts the bytes behind it. -/
theorem SNSSAI.Form.length {data : Bytes} {s : SNSSAI} (form : Form data s) :
    ∃ first rest, data = first :: rest ∧ first.toNat = rest.length ∧ rest ≠ [] := by
  cases form <;> exact ⟨_, _, rfl, rfl, by simp⟩

/-- An identifier that is encoded is in the shape of its normal form. -/
theorem SNSSAI.form_of_marshalBinary {s : SNSSAI} {data : Bytes} (encoded : s.marshalBinary = .ok data) :
    Form data s.normal := by
  obtain ⟨sst, ⟨a, b, c⟩, hasSD, m, hasMapped, ⟨x, y, z⟩, hasMappedSD⟩ := s
  rw [SNSSAI.marshalBinary, Go.unit_bind_eq_ok, Go.failIf_eq_ok] at encoded
  obtain ⟨allowed, same⟩ := encoded
  cases same
  -- A mapped differentiator comes with the two fields before it.
  -- The flags say which fields there are, and the check leaves five combinations.
  cases hasMappedSD with
  | true =>
    cases hasSD with
    | false => simp at allowed
    | true =>
      cases hasMapped with
      | false => simp at allowed
      | true => exact .full sst a b c m x y z
  | false =>
    cases hasSD with
    | false =>
      cases hasMapped with
      | false => exact .plain sst
      | true => exact .mapped sst m
    | true =>
      cases hasMapped with
      | false => exact .differentiated sst a b c
      | true => exact .differentiatedMapped sst a b c m

/-- What is read as an identifier has its shape. -/
theorem SNSSAI.ensures_unmarshalBinary (data : Bytes) :
    (SNSSAI.unmarshalBinary data).Ensures fun s => Form data s := by
  rw [SNSSAI.unmarshalBinary]
  refine Go.ensures_failIf.bind fun _ some => ?_
  obtain ⟨first, rest, rfl, -⟩ := exists_cons_of_le_length (Nat.le_of_not_lt some)
  rw [show (Go.index (first :: rest) 0 : Go Error UInt8) = .ok first from rfl, Go.ok_bind]
  refine Go.ensures_failIf.bind fun _ defined => ?_
  refine Go.ensures_failIf.bind fun _ sized => ?_
  -- All that the length byte counts is there.
  have size : rest.length = first.toNat := by
    simp only [List.length_cons] at sized
    omega
  -- The length byte is one of five, and each leaves as many bytes as its shape has.
  have shapes : first = 1 ∨ first = 2 ∨ first = 4 ∨ first = 5 ∨ first = 8 := by
    simp only [← UInt8.toNat_inj, UInt8.reduceToNat]
    omega
  rcases shapes with rfl | rfl | rfl | rfl | rfl
  · obtain ⟨sst, rfl⟩ := List.length_eq_one_iff.mp size
    exact Go.ensures_ok (.plain sst)
  · obtain ⟨sst, m, rfl⟩ := List.length_eq_two.mp size
    exact Go.ensures_ok (.mapped sst m)
  · obtain ⟨sst, a, b, c, rfl⟩ := List.length_eq_four.mp size
    exact Go.ensures_ok (.differentiated sst a b c)
  · obtain ⟨sst, r0, rfl, s0⟩ := exists_cons_of_length size
    obtain ⟨a, b, c, m, rfl⟩ := List.length_eq_four.mp s0
    exact Go.ensures_ok (.differentiatedMapped sst a b c m)
  · obtain ⟨sst, r0, rfl, s0⟩ := exists_cons_of_length size
    obtain ⟨a, r1, rfl, s1⟩ := exists_cons_of_length s0
    obtain ⟨b, r2, rfl, s2⟩ := exists_cons_of_length s1
    obtain ⟨c, r3, rfl, s3⟩ := exists_cons_of_length s2
    obtain ⟨m, x, y, z, rfl⟩ := List.length_eq_four.mp s3
    exact Go.ensures_ok (.full sst a b c m x y z)

/-- Every identifier of a list is read back in its normal form, whatever follows. -/
theorem SNSSAI.inverts :
    Sequence.Inverts SNSSAI.marshalItem SNSSAI.unmarshalItem SNSSAI.normal (fun _ => True) (fun _ => True) where
  nonempty := by
    intro before x encoded written
    obtain ⟨first, tail, rfl, -⟩ := (form_of_marshalBinary (Go.mapError_eq_ok.mp written)).length
    simp
  roundTrip := by
    intro before x encoded rest _ written _
    have form := form_of_marshalBinary (Go.mapError_eq_ok.mp written)
    obtain ⟨first, tail, rfl, counted, -⟩ := form.length
    -- The length byte delimits the identifier.
    have payload : (Go.slice (first :: tail ++ rest) 0 (first.toNat + 1) : Go Error Bytes) = .ok (first :: tail) :=
      Go.slice_between [] rfl rfl (by simp [counted])
    rw [SNSSAI.unmarshalItem, show (Go.index (first :: tail ++ rest) 0 : Go Error UInt8) = .ok first from rfl]
    rw [Go.ok_bind, Go.failIf_bind_of_not (by simp [counted]), payload, Go.ok_bind, form.read, Go.mapError_ok, Go.ok_bind,
      counted]
    rfl
  next := fun _ _ _ _ _ => trivial

/-- The parser of a list accepts only encoded identifiers. -/
theorem SNSSAI.canonical : Sequence.Canonical SNSSAI.marshalItem SNSSAI.unmarshalItem := by
  intro values data some
  obtain ⟨first, tail, rfl⟩ := List.exists_cons_of_ne_nil some
  rw [SNSSAI.unmarshalItem, show (Go.index (first :: tail) 0 : Go Error UInt8) = .ok first from rfl, Go.ok_bind]
  refine Go.ensures_failIf.bind fun _ inside => ?_
  rw [Go.slice_to (Nat.le_of_not_lt inside), Go.ok_bind]
  refine (SNSSAI.ensures_unmarshalBinary _).mapError.bind fun value form => ?_
  refine Go.ensures_ok ⟨Nat.succ_pos _, Nat.le_of_not_lt inside, ?_⟩
  exact Go.mapError_eq_ok.mpr form.written

/-- A list TLV is made of a type of list and a list that is not empty. -/
theorem newNSSAIListTLV_eq_ok {typ : TLVType} {values : NSSAIList} {tlv : TLV} :
    newNSSAIListTLV typ values = .ok tlv ↔
      isNSSAIListTLVType typ ∧ values ≠ [] ∧ tlv.type = typ ∧ marshalSNSSAIList values = .ok tlv.data := by
  rw [newNSSAIListTLV, Go.unit_bind_eq_ok, Go.failIf_eq_ok, Go.unit_bind_eq_ok, Go.failIf_eq_ok,
    List.length_eq_zero_iff]
  simp only [Go.bind_eq_ok, Go.mapError_eq_ok, Go.pure_eq, Except.ok.injEq, Bool.not_eq_true', Bool.not_eq_false]
  constructor
  · rintro ⟨listed, some, data, written, rfl⟩
    exact ⟨listed, some, rfl, written⟩
  · rintro ⟨listed, some, rfl, written⟩
    exact ⟨listed, some, tlv.data, written, rfl⟩

/-- A slice list is read back from its TLV. -/
theorem NSSAIList.unmarshalTLV_new {typ : TLVType} {values : NSSAIList} {tlv : TLV}
    (new : newNSSAIListTLV typ values = .ok tlv) : NSSAIList.unmarshalTLV tlv = .ok (values.map SNSSAI.normal) := by
  obtain ⟨listed, some, rfl, written⟩ := newNSSAIListTLV_eq_ok.mp new
  have filled : tlv.data.length ≠ 0 := fun empty =>
    SNSSAI.inverts.write_ne_nil some written (List.length_eq_zero_iff.mp empty)
  rw [NSSAIList.unmarshalTLV, Go.failIf_bind_of_not (by simp [listed]), Go.failIf_bind_of_not filled]
  exact Go.mapError_eq_ok.mpr (SNSSAI.inverts.readAll_write trivial (fun _ _ => trivial) written)

/-- An accepted slice list TLV is the one of the list it is read as. -/
theorem NSSAIList.ensures_unmarshalTLV (tlv : TLV) :
    (NSSAIList.unmarshalTLV tlv).Ensures fun values => newNSSAIListTLV tlv.type values = .ok tlv := by
  refine Go.ensures_failIf.bind fun _ listed => ?_
  refine Go.ensures_failIf.bind fun _ filled => ?_
  refine (SNSSAI.canonical.ensures_readAll tlv.data).mapError.mono fun values written => ?_
  refine newNSSAIListTLV_eq_ok.mpr ⟨by simpa using listed, ?_, rfl, written⟩
  rintro rfl
  rw [← Except.ok.inj written] at filled
  exact filled rfl

/-! Rejected identifiers. -/

/-- The value with the absent fields of its identifier cleared. -/
def RejectedSNSSAI.normal (r : RejectedSNSSAI) : RejectedSNSSAI := { r with snssai := r.snssai.normal }

/-- The two shapes of an encoded rejected identifier. -/
inductive RejectedSNSSAI.Form : Bytes → RejectedSNSSAI → Prop where
  | plain (cause sst : UInt8) : Form [1, cause, sst] ⟨cause, { sliceServiceType := sst }⟩
  | differentiated (cause sst a b c : UInt8) :
    Form [4, cause, sst, a, b, c]
      ⟨cause, { sliceServiceType := sst, sliceDifferentiator := (a, b, c), hasSliceDifferentiator := true }⟩

/-- The causes and slice types that may be rejected. -/
def RejectedSNSSAI.Allowed (r : RejectedSNSSAI) : Prop :=
  validateRejectedNSSAICause r.cause = .ok () ∧ ¬ (r.snssai.sliceServiceType < 1 ∨ r.snssai.sliceServiceType > 3)

/-- A rejected identifier that is encoded is allowed and in the shape of its normal form. -/
theorem RejectedSNSSAI.form_of_marshalBinary {r : RejectedSNSSAI} {data : Bytes} (encoded : r.marshalBinary = .ok data) :
    r.Allowed ∧ Form data r.normal := by
  rw [RejectedSNSSAI.marshalBinary, Go.unit_bind_eq_ok, Go.mapError_eq_ok, Go.unit_bind_eq_ok, Go.failIf_eq_ok,
    Go.unit_bind_eq_ok, Go.failIf_eq_ok, Go.bind_eq_ok] at encoded
  obtain ⟨known, standard, unmapped, inner, innerEncoded, encoded⟩ := encoded
  refine ⟨⟨known, standard⟩, ?_⟩
  obtain ⟨cause, ⟨sst, ⟨a, b, c⟩, hasSD, m, hasMapped, ⟨x, y, z⟩, hasMappedSD⟩⟩ := r
  rw [Bool.or_eq_true, not_or, Bool.not_eq_true, Bool.not_eq_true] at unmapped
  obtain ⟨rfl, rfl⟩ := unmapped
  -- Without mapped values there is a differentiator or there is none.
  cases hasSD with
  | false =>
    cases innerEncoded
    cases encoded
    exact .plain cause sst
  | true =>
    cases innerEncoded
    cases encoded
    exact .differentiated cause sst a b c

/-- Either shape has a byte at least. -/
theorem RejectedSNSSAI.Form.ne_nil {data : Bytes} {r : RejectedSNSSAI} (form : Form data r) : data ≠ [] := by
  cases form <;> simp

/-- An allowed identifier is written in its shape. -/
theorem RejectedSNSSAI.Form.written {data : Bytes} {r : RejectedSNSSAI} (form : Form data r) (allowed : r.Allowed) :
    r.marshalBinary = .ok data := by
  obtain ⟨cause, sst⟩ := allowed
  rw [RejectedSNSSAI.marshalBinary, cause, Go.mapError_ok, Go.ok_bind, Go.failIf_bind_of_not sst]
  cases form <;> rfl

/-- It is read back from in front of anything. -/
theorem RejectedSNSSAI.Form.read {data : Bytes} {r : RejectedSNSSAI} (form : Form data r) (allowed : r.Allowed)
    (rest : Bytes) : unmarshalRejectedSNSSAIPrefix (data ++ rest) = .ok (r, data.length) := by
  obtain ⟨known, standard⟩ := allowed
  cases form with
  | plain cause sst =>
    -- The guards find the whole identifier, and each field is read where it stands.
    have fields : (Go.slice ([1, cause, sst] ++ rest) 2 3 : Go Error Bytes) = .ok [sst] :=
      Go.slice_between [1, cause] rfl rfl rfl
    rw [unmarshalRejectedSNSSAIPrefix, Go.failIf_bind_of_not (by simp)]
    rw [show (Go.index ([1, cause, sst] ++ rest) 0 : Go Error UInt8) = .ok 1 from rfl, Go.ok_bind]
    rw [Go.failIf_bind_of_not (by decide), Go.failIf_bind_of_not (by simp)]
    rw [show (Go.index ([1, cause, sst] ++ rest) 1 : Go Error UInt8) = .ok cause from rfl, Go.ok_bind, known,
      Go.mapError_ok, Go.ok_bind]
    rw [show (1 : UInt8).toNat + 2 = 3 from rfl, fields, Go.ok_bind, (SNSSAI.Form.plain sst).read, Go.mapError_ok,
      Go.ok_bind, Go.failIf_bind_of_not standard]
    rfl
  | differentiated cause sst a b c =>
    -- The same with a differentiator.
    have fields : (Go.slice ([4, cause, sst, a, b, c] ++ rest) 2 6 : Go Error Bytes) = .ok [sst, a, b, c] :=
      Go.slice_between [4, cause] rfl rfl rfl
    rw [unmarshalRejectedSNSSAIPrefix, Go.failIf_bind_of_not (by simp)]
    rw [show (Go.index ([4, cause, sst, a, b, c] ++ rest) 0 : Go Error UInt8) = .ok 4 from rfl, Go.ok_bind]
    rw [Go.failIf_bind_of_not (by decide), Go.failIf_bind_of_not (by simp)]
    rw [show (Go.index ([4, cause, sst, a, b, c] ++ rest) 1 : Go Error UInt8) = .ok cause from rfl, Go.ok_bind, known,
      Go.mapError_ok, Go.ok_bind]
    rw [show (4 : UInt8).toNat + 2 = 6 from rfl, fields, Go.ok_bind, (SNSSAI.Form.differentiated sst a b c).read,
      Go.mapError_ok, Go.ok_bind, Go.failIf_bind_of_not standard]
    rfl

/-- What is read off the front is the encoding of the rejected identifier that is returned. -/
theorem RejectedSNSSAI.ensures_unmarshalPrefix (data : Bytes) :
    (unmarshalRejectedSNSSAIPrefix data).Ensures fun item =>
      0 < item.2 ∧ item.2 ≤ data.length ∧ item.1.marshalBinary = .ok (data.take item.2) := by
  rw [unmarshalRejectedSNSSAIPrefix]
  refine Go.ensures_failIf.bind fun _ header => ?_
  -- The length and the cause come first.
  obtain ⟨length, r0, rfl, long0⟩ := exists_cons_of_le_length (Nat.le_of_not_lt header)
  obtain ⟨cause, fields, rfl, -⟩ := exists_cons_of_le_length long0
  rw [show (Go.index (length :: cause :: fields) 0 : Go Error UInt8) = .ok length from rfl, Go.ok_bind]
  refine Go.ensures_failIf.bind fun _ defined => ?_
  refine Go.ensures_failIf.bind fun _ inside => ?_
  rw [show (Go.index (length :: cause :: fields) 1 : Go Error UInt8) = .ok cause from rfl, Go.ok_bind]
  refine Go.ensures_failIf.mapError.bind fun _ known => ?_
  rw [Go.slice_eq_ok (by omega) (by omega), Go.ok_bind]
  have cut : ((length :: cause :: fields).drop 2).take (length.toNat + 2 - 2) = fields.take length.toNat := by simp
  rw [cut]
  refine (SNSSAI.ensures_unmarshalBinary _).mapError.bind fun snssai form => ?_
  refine Go.ensures_failIf.bind fun _ standard => ?_
  have shape : RejectedSNSSAI.Form (length :: cause :: fields.take length.toNat) ⟨cause, snssai⟩ := by
    -- Of the five shapes of an identifier only two have one of these lengths.
    generalize taken : length :: fields.take length.toNat = payload at form
    cases form with
    | plain sst =>
      rw [(List.cons.inj taken).2, (List.cons.inj taken).1]
      exact .plain cause sst
    | differentiated sst a b c =>
      rw [(List.cons.inj taken).2, (List.cons.inj taken).1]
      exact .differentiated cause sst a b c
    | mapped => exact absurd defined (by rw [(List.cons.inj taken).1]; decide)
    | differentiatedMapped => exact absurd defined (by rw [(List.cons.inj taken).1]; decide)
    | full => exact absurd defined (by rw [(List.cons.inj taken).1]; decide)
  refine Go.ensures_ok ⟨by simp, by simp only; omega, ?_⟩
  have allowed : RejectedSNSSAI.Allowed ⟨cause, snssai⟩ := ⟨Go.failIf_eq_ok.mpr known, standard⟩
  exact shape.written allowed

/-- A rejected identifier that is allowed stays so without its absent fields. -/
theorem RejectedSNSSAI.allowed_normal {r : RejectedSNSSAI} : r.normal.Allowed ↔ r.Allowed := Iff.rfl

/-- Every rejected identifier of a list is read back in its normal form, whatever follows. -/
theorem RejectedSNSSAI.inverts : Sequence.Inverts RejectedSNSSAI.marshalItem RejectedSNSSAI.unmarshalItem
    RejectedSNSSAI.normal (fun _ => True) (fun _ => True) where
  nonempty := by
    intro before x encoded written
    obtain ⟨-, form⟩ := form_of_marshalBinary (Go.mapError_eq_ok.mp written)
    exact form.ne_nil
  roundTrip := by
    intro before x encoded rest _ written _
    obtain ⟨allowed, form⟩ := form_of_marshalBinary (Go.mapError_eq_ok.mp written)
    exact Go.mapError_eq_ok.mpr (form.read (allowed_normal.mpr allowed) rest)
  next := fun _ _ _ _ _ => trivial

/-- The parser of a rejected list accepts only encoded identifiers. -/
theorem RejectedSNSSAI.canonical : Sequence.Canonical RejectedSNSSAI.marshalItem RejectedSNSSAI.unmarshalItem := by
  intro values data _
  refine (RejectedSNSSAI.ensures_unmarshalPrefix data).mapError.mono fun item read => ?_
  obtain ⟨progress, inside, encoded⟩ := read
  exact ⟨progress, inside, Go.mapError_eq_ok.mpr encoded⟩

/-! Preferred slices by access technology. -/

/-- The value with the absent fields of its identifiers cleared. -/
def PreconfiguredDefaultNSSAI.normal (n : PreconfiguredDefaultNSSAI) : PreconfiguredDefaultNSSAI :=
  { n with preferredNSSAI := n.preferredNSSAI.map SNSSAI.normal }

/-- None of the identifiers is mapped. -/
def Unmapped (values : NSSAIList) : Prop :=
  ∀ value ∈ values, (value.hasMappedSliceServiceType || value.hasMappedSliceDifferentiator) = false

/-- Preferred identifiers are encoded as a list when none of them is mapped. -/
theorem marshalPreconfiguredDefaultNSSAIList_eq_ok {values : NSSAIList} {data : Bytes} :
    marshalPreconfiguredDefaultNSSAIList values = .ok data ↔ Unmapped values ∧ marshalSNSSAIList values = .ok data := by
  rw [marshalPreconfiguredDefaultNSSAIList, Unmapped, ← List.findIdx?_eq_none_iff]
  cases values.findIdx? fun value => value.hasMappedSliceServiceType || value.hasMappedSliceDifferentiator with
  | none => simp
  | some index => simp

/-- Clearing absent fields maps nothing. -/
theorem unmapped_normal {values : NSSAIList} : Unmapped (values.map SNSSAI.normal) ↔ Unmapped values := by
  simp [Unmapped, SNSSAI.normal]

/-- What the slices of an access technology are encoded as. -/
theorem PreconfiguredDefaultNSSAI.marshalBinary_eq_ok {n : PreconfiguredDefaultNSSAI} {data : Bytes} :
    n.marshalBinary = .ok data ↔ validateNSSAIAccessType n.accessType = .ok () ∧ Unmapped n.preferredNSSAI ∧
      ∃ preferred, marshalSNSSAIList n.preferredNSSAI = .ok preferred ∧
        TLV.Valid ⟨TLVType.defaultConfiguredNSSAI, preferred⟩ ∧
        LittleEndian.putUint32 n.accessType ++ marshalTLV TLVType.defaultConfiguredNSSAI preferred = data := by
  rw [PreconfiguredDefaultNSSAI.marshalBinary, Go.unit_bind_eq_ok, Go.mapError_eq_ok]
  simp only [Go.bind_eq_ok, Go.mapError_eq_ok, marshalPreconfiguredDefaultNSSAIList_eq_ok, TLV.marshalBinary_eq_ok,
    Go.pure_eq, Except.ok.injEq]
  constructor
  · rintro ⟨access, preferred, ⟨unmapped, list⟩, encoded, ⟨valid, rfl⟩, rfl⟩
    exact ⟨access, unmapped, preferred, list, valid, rfl⟩
  · rintro ⟨access, unmapped, preferred, list, valid, rfl⟩
    exact ⟨access, preferred, ⟨unmapped, list⟩, _, ⟨valid, rfl⟩, rfl⟩

/-- The slices of an access technology are read back from in front of anything. -/
theorem PreconfiguredDefaultNSSAI.unmarshalPrefix_marshalBinary {n : PreconfiguredDefaultNSSAI} {data : Bytes}
    (encoded : n.marshalBinary = .ok data) (rest : Bytes) :
    unmarshalPreconfiguredDefaultNSSAIPrefix (data ++ rest) = .ok (n.normal, data.length) := by
  obtain ⟨access, unmapped, preferred, list, valid, rfl⟩ := marshalBinary_eq_ok.mp encoded
  obtain ⟨a0, a1, a2, a3, stored, read⟩ := LittleEndian.putUint32_eq n.accessType
  have listRead := SNSSAI.inverts.readAll_write trivial (fun _ _ => trivial) list
  -- The identifiers that were read are encoded again as a check, which succeeds.
  have again := SNSSAI.canonical.ensures_readAll preferred
  have checked : marshalPreconfiguredDefaultNSSAIList (n.preferredNSSAI.map SNSSAI.normal) = .ok preferred :=
    marshalPreconfiguredDefaultNSSAIList_eq_ok.mpr ⟨unmapped_normal.mpr unmapped, again.2 _ listRead⟩
  obtain ⟨body, shape⟩ : ∃ body, body = marshalTLV TLVType.defaultConfiguredNSSAI preferred := ⟨_, rfl⟩
  -- The slices are a TLV behind the access technology.
  have inner : unmarshalTLVPrefix (body ++ rest) = .ok (⟨TLVType.defaultConfiguredNSSAI, preferred⟩, body.length) := by
    rw [shape]
    exact unmarshalTLVPrefix_marshalTLV valid rest
  rw [← shape, stored]
  -- The fields stand where they are read.
  have accessField : (Go.slice ([a0, a1, a2, a3] ++ body ++ rest) 0 4 : Go Error Bytes) = .ok [a0, a1, a2, a3] :=
    Go.slice_between [] (List.append_assoc ..) rfl rfl
  have others : (Go.slice ([a0, a1, a2, a3] ++ body ++ rest) 4 ([a0, a1, a2, a3] ++ body ++ rest).length :
      Go Error Bytes) = .ok (body ++ rest) :=
    Go.slice_from (by simp)
  rw [unmarshalPreconfiguredDefaultNSSAIPrefix, Go.failIf_bind_of_not (by simp), accessField, Go.ok_bind,
    LittleEndian.getUint32_cons, Go.ok_bind, read, access, Go.mapError_ok, Go.ok_bind, others, Go.ok_bind, inner,
    Go.mapError_ok, Go.ok_bind]
  rw [Go.failIf_bind_of_not (by simp), unmarshalSNSSAIList, listRead, Go.mapError_ok, Go.ok_bind, checked, Go.mapError_ok,
    Go.ok_bind, List.length_append]
  rfl

/-- What is read off the front is the encoding of the slices that are returned. -/
theorem PreconfiguredDefaultNSSAI.ensures_unmarshalPrefix (data : Bytes) :
    (unmarshalPreconfiguredDefaultNSSAIPrefix data).Ensures fun item =>
      0 < item.2 ∧ item.2 ≤ data.length ∧ item.1.marshalBinary = .ok (data.take item.2) := by
  rw [unmarshalPreconfiguredDefaultNSSAIPrefix]
  refine Go.ensures_failIf.bind fun _ header => ?_
  -- The access technology takes four bytes.
  obtain ⟨a0, r0, rfl, long0⟩ := exists_cons_of_le_length (Nat.le_of_not_lt header)
  obtain ⟨a1, r1, rfl, long1⟩ := exists_cons_of_le_length long0
  obtain ⟨a2, r2, rfl, long2⟩ := exists_cons_of_le_length long1
  obtain ⟨a3, body, rfl, -⟩ := exists_cons_of_le_length long2
  have accessField : (Go.slice (a0 :: a1 :: a2 :: a3 :: body) 0 4 : Go Error Bytes) = .ok [a0, a1, a2, a3] :=
    Go.slice_between [] rfl rfl rfl
  have others : (Go.slice (a0 :: a1 :: a2 :: a3 :: body) 4 (a0 :: a1 :: a2 :: a3 :: body).length : Go Error Bytes) =
      .ok body :=
    Go.slice_from (by simp)
  rw [accessField, Go.ok_bind, LittleEndian.getUint32_cons, Go.ok_bind]
  refine Go.ensures_failIf.mapError.bind fun _ access => ?_
  rw [others, Go.ok_bind]
  refine (ensures_unmarshalTLVPrefix body).mapError.bind fun item inner => ?_
  obtain ⟨-, inside, inner⟩ := inner
  obtain ⟨valid, inner⟩ := TLV.marshalBinary_eq_ok.mp inner
  refine Go.ensures_failIf.bind fun _ typed => ?_
  refine (SNSSAI.canonical.ensures_readAll item.1.data).mapError.bind fun preferred list => ?_
  -- The check that nothing is mapped encodes the identifiers once more.
  have checks : (marshalPreconfiguredDefaultNSSAIList preferred).Ensures fun _ => Unmapped preferred := by
    refine ⟨?_, fun again encoded => (marshalPreconfiguredDefaultNSSAIList_eq_ok.mp encoded).1⟩
    rw [marshalPreconfiguredDefaultNSSAIList]
    cases preferred.findIdx? fun value => value.hasMappedSliceServiceType || value.hasMappedSliceDifferentiator with
    | none => simp [marshalSNSSAIList, list]
    | some index => simp [Go.fail]
  refine checks.mapError.bind fun _ unmapped => ?_
  refine Go.ensures_ok ⟨by simp only; omega, by simp only [List.length_cons]; omega, ?_⟩
  rw [not_not] at typed
  rw [typed] at inner
  -- Writing what was returned gives the bytes back.
  refine marshalBinary_eq_ok.mpr ⟨Go.failIf_eq_ok.mpr access, unmapped, item.1.data, list, ?_, ?_⟩
  · rw [← typed]
    exact valid
  · rw [LittleEndian.putUint32_of_bytes, inner, Nat.add_comm]
    rfl

/-- Encode the slices of one access technology, of which there are two at most. -/
private def limitedItem (before : List PreconfiguredDefaultNSSAI) (value : PreconfiguredDefaultNSSAI) : Go Error Bytes := do
  Go.failIf (before.length = 2) (.format "" [])
  PreconfiguredDefaultNSSAI.marshalItem before value

/-- The slices of one or two access technologies are read back in their normal form, whatever follows. -/
private theorem limited_inverts : Sequence.Inverts limitedItem PreconfiguredDefaultNSSAI.unmarshalItem
    PreconfiguredDefaultNSSAI.normal (fun _ => True) (fun _ => True) where
  -- Every item has an access technology.
  nonempty := by
    intro before x encoded written
    obtain ⟨-, written⟩ := Go.unit_bind_eq_ok.mp written
    obtain ⟨-, written⟩ := Go.unit_bind_eq_ok.mp written
    obtain ⟨-, -, preferred, -, -, rfl⟩ :=
      PreconfiguredDefaultNSSAI.marshalBinary_eq_ok.mp (Go.mapError_eq_ok.mp written)
    simp [LittleEndian.putUint32]
  roundTrip := by
    intro before x encoded rest _ written _
    obtain ⟨room, written⟩ := Go.unit_bind_eq_ok.mp written
    obtain ⟨fresh, written⟩ := Go.unit_bind_eq_ok.mp written
    rw [Go.failIf_eq_ok] at room fresh
    have read := PreconfiguredDefaultNSSAI.unmarshalPrefix_marshalBinary (Go.mapError_eq_ok.mp written) rest
    -- Clearing absent fields leaves the access technologies.
    have same : (before.map PreconfiguredDefaultNSSAI.normal).map PreconfiguredDefaultNSSAI.accessType =
        before.map PreconfiguredDefaultNSSAI.accessType := by
      simp [PreconfiguredDefaultNSSAI.normal]
    have fresh : x.normal.accessType ∉ before.map PreconfiguredDefaultNSSAI.accessType := fresh
    rw [PreconfiguredDefaultNSSAI.unmarshalItem, Go.failIf_bind_of_not (by simpa using room), read, Go.mapError_ok,
      Go.ok_bind, same, Go.failIf_bind_of_not fresh]
    rfl
  next := fun _ _ _ _ _ => trivial

/-- The parser of the slices by access technology accepts only their encodings, two at most. -/
private theorem limited_canonical : Sequence.Canonical limitedItem PreconfiguredDefaultNSSAI.unmarshalItem := by
  intro values data _
  refine Go.ensures_failIf.bind fun _ room => ?_
  refine (PreconfiguredDefaultNSSAI.ensures_unmarshalPrefix data).mapError.bind fun item read => ?_
  obtain ⟨progress, inside, encoded⟩ := read
  refine Go.ensures_failIf.bind fun _ fresh => ?_
  refine Go.ensures_ok ⟨progress, inside, ?_⟩
  rw [limitedItem, Go.failIf_bind_of_not room, PreconfiguredDefaultNSSAI.marshalItem, Go.failIf_bind_of_not fresh]
  exact Go.mapError_eq_ok.mpr encoded

/-- The TLV holds one or two lists, which is what the limited encoder writes. -/
private theorem newPreconfiguredDefaultNSSAITLV_eq_ok {values : List PreconfiguredDefaultNSSAI} {tlv : TLV} :
    newPreconfiguredDefaultNSSAITLV values = .ok tlv ↔
      newListTLV TLVType.preconfiguredDefaultConfiguredNSSAI "" limitedItem values = .ok tlv := by
  have limited (data : Bytes) : Sequence.write limitedItem [] values = .ok data ↔
      Sequence.write PreconfiguredDefaultNSSAI.marshalItem [] values = .ok data ∧ 0 + values.length ≤ 2 :=
    Sequence.write_limited (Nat.zero_le 2)
  rw [newListTLV_eq_ok, newPreconfiguredDefaultNSSAITLV, Go.unit_bind_eq_ok, Go.failIf_eq_ok, limited]
  simp only [Go.bind_eq_ok, Go.pure_eq, Except.ok.injEq, not_or, List.length_eq_zero_iff]
  constructor
  · rintro ⟨⟨some, few⟩, data, written, rfl⟩
    exact ⟨some, rfl, written, by omega⟩
  · rintro ⟨some, typed, written, few⟩
    exact ⟨⟨some, by omega⟩, tlv.data, written, by rw [← typed]⟩

/-- Preferred slices are read back from their TLV. -/
theorem PreconfiguredDefaultNSSAIList.unmarshalTLV_new {values : List PreconfiguredDefaultNSSAI} {tlv : TLV}
    (new : newPreconfiguredDefaultNSSAITLV values = .ok tlv) :
    PreconfiguredDefaultNSSAIList.unmarshalTLV tlv = .ok (values.map PreconfiguredDefaultNSSAI.normal) :=
  unmarshalListTLV_newListTLV limited_inverts trivial (fun _ _ => trivial) (newPreconfiguredDefaultNSSAITLV_eq_ok.mp new)

/-- An accepted TLV of preferred slices is the one of the slices it is read as. -/
theorem PreconfiguredDefaultNSSAIList.ensures_unmarshalTLV (tlv : TLV) :
    (PreconfiguredDefaultNSSAIList.unmarshalTLV tlv).Ensures fun values =>
      newPreconfiguredDefaultNSSAITLV values = .ok tlv := by
  have accepted : (PreconfiguredDefaultNSSAIList.unmarshalTLV tlv).Ensures fun values =>
      newListTLV TLVType.preconfiguredDefaultConfiguredNSSAI "" limitedItem values = .ok tlv :=
    ensures_unmarshalListTLV limited_canonical tlv
  refine accepted.mono fun values new => ?_
  exact newPreconfiguredDefaultNSSAITLV_eq_ok.mpr new

/-- The constructors of slice TLVs and their parsers undo each other, and no TLV makes a parser panic. -/
theorem nssai_tlvs_exact :
    (∀ typ values tlv, newNSSAIListTLV typ values = .ok tlv →
      NSSAIList.unmarshalTLV tlv = .ok (values.map SNSSAI.normal)) ∧
    (∀ tlv, (NSSAIList.unmarshalTLV tlv).Ensures fun values => newNSSAIListTLV tlv.type values = .ok tlv) ∧
    (∀ values tlv, newRejectedNSSAITLV values = .ok tlv →
      RejectedNSSAIList.unmarshalTLV tlv = .ok (values.map RejectedSNSSAI.normal)) ∧
    (∀ tlv, (RejectedNSSAIList.unmarshalTLV tlv).Ensures fun values => newRejectedNSSAITLV values = .ok tlv) ∧
    (∀ values tlv, newPreconfiguredDefaultNSSAITLV values = .ok tlv →
      PreconfiguredDefaultNSSAIList.unmarshalTLV tlv = .ok (values.map PreconfiguredDefaultNSSAI.normal)) ∧
    ∀ tlv, (PreconfiguredDefaultNSSAIList.unmarshalTLV tlv).Ensures fun values =>
      newPreconfiguredDefaultNSSAITLV values = .ok tlv := by
  refine ⟨fun _ _ _ => NSSAIList.unmarshalTLV_new, NSSAIList.ensures_unmarshalTLV, ?_, ?_,
    fun _ _ => PreconfiguredDefaultNSSAIList.unmarshalTLV_new, PreconfiguredDefaultNSSAIList.ensures_unmarshalTLV⟩
  · intro values tlv new
    exact unmarshalListTLV_newListTLV RejectedSNSSAI.inverts trivial (fun _ _ => trivial) new
  · exact fun tlv => ensures_unmarshalListTLV RejectedSNSSAI.canonical tlv

/-- Preferred slices of both access technologies, one of them with a differentiator. -/
example : (newPreconfiguredDefaultNSSAITLV [⟨1, [{ sliceServiceType := 1 }]⟩,
      ⟨2, [{ sliceServiceType := 2, sliceDifferentiator := (1, 2, 3), hasSliceDifferentiator := true }]⟩]).bind
        PreconfiguredDefaultNSSAIList.unmarshalTLV =
    .ok [⟨1, [{ sliceServiceType := 1 }]⟩,
      ⟨2, [{ sliceServiceType := 2, sliceDifferentiator := (1, 2, 3), hasSliceDifferentiator := true }]⟩] := by
  decide

end Wwan.Mbim
