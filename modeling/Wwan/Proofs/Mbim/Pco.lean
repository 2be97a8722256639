import Wwan.Mbim.Pco

/-! Options are read in order, and their addresses once each. -/

namespace Wwan.Mbim

open Utf16.ByteOrder (bigEndian putUint16_eq putUint16_uint16)

/-! Options. -/

/-- An option's encoding, if its length fits. -/
def PCOOption.marshal (o : PCOOption) : Go Error Bytes := do
  Go.failIf (¬ o.Fits) (.format "" [])
  return o.bytes

/-- An option has an encoding exactly when its length fits. -/
theorem PCOOption.marshal_eq_ok {o : PCOOption} {data : Bytes} : o.marshal = .ok data ↔ o.Fits ∧ o.bytes = data := by
  rw [PCOOption.marshal, Go.unit_bind_eq_ok, Go.failIf_eq_ok, not_not, Go.pure_eq, Except.ok.injEq]

/-- The length field of an option that fits is read back. -/
theorem pcoOptionLength_of_fits {o : PCOOption} (fits : o.Fits) (rest : Bytes) :
    ∃ field : Bytes, o.bytes = bigEndian.putUint16 o.id ++ (field ++ o.data) ∧ field ≠ [] ∧
      pcoOptionLength o.id (field ++ rest) = .ok (field.length, o.data.length) := by
  rw [PCOOption.Fits] at fits
  rw [PCOOption.bytes]
  by_cases wide : pcoOptionUsesUint16Length o.id = true
  · -- An option with a wide length field has it in two bytes.
    rw [if_pos wide] at fits ⊢
    obtain ⟨l0, l1, stored, read⟩ := putUint16_eq bigEndian (UInt16.ofNat o.data.length)
    have size : (bigEndian.uint16 l0 l1).toNat = o.data.length := by
      rw [read]
      exact UInt16.toNat_ofNat_of_lt' fits
    rw [stored]
    refine ⟨[l0, l1], rfl, by simp, ?_⟩
    have field : (Go.slice ([l0, l1] ++ rest) 0 2 : Go Error Bytes) = .ok [l0, l1] := Go.slice_between [] rfl rfl rfl
    rw [pcoOptionLength, show (Go.index ([l0, l1] ++ rest) 0 : Go Error UInt8) = .ok l0 from rfl, Go.ok_bind, if_pos wide,
      Go.failIf_bind_of_not (by simp), field, Go.ok_bind, Utf16.ByteOrder.getUint16_cons, Go.ok_bind, size]
    rfl
  · -- Every other option has it in one byte.
    rw [if_neg wide] at fits ⊢
    refine ⟨[UInt8.ofNat o.data.length], rfl, by simp, ?_⟩
    have size : (UInt8.ofNat o.data.length).toNat = o.data.length := UInt8.toNat_ofNat_of_lt' fits
    rw [pcoOptionLength, show (Go.index ([UInt8.ofNat o.data.length] ++ rest) 0 : Go Error UInt8) =
      .ok (UInt8.ofNat o.data.length) from rfl, Go.ok_bind, if_neg wide, size]
    rfl

/-- An option that fits is read back from in front of anything. -/
theorem unmarshalPCOOption_bytes {o : PCOOption} (fits : o.Fits) (rest : Bytes) :
    unmarshalPCOOption (o.bytes ++ rest) = .ok (o, o.bytes.length) := by
  obtain ⟨field, shape, filled, length⟩ := pcoOptionLength_of_fits fits (o.data ++ rest)
  obtain ⟨i0, i1, stored, read⟩ := putUint16_eq bigEndian o.id
  rw [shape, stored]
  have some : field.length ≠ 0 := fun empty => filled (List.length_eq_zero_iff.mp empty)
  -- Identifier, length field and data stand one behind the other.
  have total : ([i0, i1] ++ (field ++ o.data)).length = 2 + field.length + o.data.length := by
    simp only [List.length_append, List.length_cons, List.length_nil]
    omega
  have idField : (Go.slice ([i0, i1] ++ (field ++ o.data) ++ rest) 0 2 : Go Error Bytes) = .ok [i0, i1] :=
    Go.slice_between [] rfl rfl rfl
  have behindID : (Go.slice ([i0, i1] ++ (field ++ o.data) ++ rest) 2 ([i0, i1] ++ (field ++ o.data) ++ rest).length :
      Go Error Bytes) = .ok (field ++ (o.data ++ rest)) := by
    rw [Go.slice_from (by simp)]
    simp
  have behindLength : (Go.slice (field ++ (o.data ++ rest)) field.length (field ++ (o.data ++ rest)).length :
      Go Error Bytes) = .ok (o.data ++ rest) := by
    rw [Go.slice_from (by simp), List.drop_left]
  have content : (Go.slice (o.data ++ rest) 0 o.data.length : Go Error Bytes) = .ok o.data :=
    Go.slice_between [] rfl rfl (Nat.zero_add _)
  have long : ¬ ([i0, i1] ++ (field ++ o.data) ++ rest).length < 3 := by
    rw [List.length_append, total]
    omega
  rw [unmarshalPCOOption, Go.failIf_bind_of_not long, idField, Go.ok_bind, Utf16.ByteOrder.getUint16_cons, Go.ok_bind, read,
    behindID, Go.ok_bind, length, Go.ok_bind, behindLength, Go.ok_bind, Go.failIf_bind_of_not (by simp), content, Go.ok_bind,
    total]
  rfl

/-- The length field in front of a byte string is how the length it is read as is written. -/
theorem ensures_pcoOptionLength (optionID : UInt16) {data : Bytes} (some : data ≠ []) :
    (pcoOptionLength optionID data).Ensures fun field => field.1 ≤ data.length ∧
      (if pcoOptionUsesUint16Length optionID then bigEndian.putUint16 (UInt16.ofNat field.2) else [UInt8.ofNat field.2]) =
        data.take field.1 ∧
      field.2 < if pcoOptionUsesUint16Length optionID then 2 ^ 16 else 2 ^ 8 := by
  obtain ⟨first, rest, rfl⟩ := List.exists_cons_of_ne_nil some
  rw [pcoOptionLength, show (Go.index (first :: rest) 0 : Go Error UInt8) = .ok first from rfl, Go.ok_bind]
  refine Go.ensures_ite (fun wide => ?_) fun narrow => ?_
  · -- A wide length field needs two bytes.
    refine Go.ensures_failIf.bind fun _ long => ?_
    have more : 1 ≤ rest.length := by
      simp only [List.length_cons] at long
      omega
    obtain ⟨second, tail, rfl, -⟩ := exists_cons_of_le_length more
    have field : (Go.slice (first :: second :: tail) 0 2 : Go Error Bytes) = .ok [first, second] :=
      Go.slice_between [] rfl rfl rfl
    rw [field, Go.ok_bind, Utf16.ByteOrder.getUint16_cons, Go.ok_bind]
    refine Go.ensures_ok ⟨by simp, ?_, ?_⟩
    · rw [if_pos wide, UInt16.ofNat_toNat, putUint16_uint16]
      rfl
    · rw [if_pos wide]
      exact (bigEndian.uint16 first second).toNat_lt
  · refine Go.ensures_ok ⟨by simp, ?_, ?_⟩
    · rw [if_neg narrow, UInt8.ofNat_toNat]
      rfl
    · rw [if_neg narrow]
      exact first.toNat_lt

/-- What is read off the front is the encoding of the option that is returned. -/
theorem ensures_unmarshalPCOOption (data : Bytes) : (unmarshalPCOOption data).Ensures fun item =>
    0 < item.2 ∧ item.2 ≤ data.length ∧ item.1.marshal = .ok (data.take item.2) := by
  rw [unmarshalPCOOption]
  refine Go.ensures_failIf.bind fun _ header => ?_
  -- The header takes the identifier and the first byte of the length field.
  obtain ⟨i0, r0, rfl, long0⟩ := exists_cons_of_le_length (Nat.le_of_not_lt header)
  obtain ⟨i1, body, rfl, long1⟩ := exists_cons_of_le_length long0
  have idField : (Go.slice (i0 :: i1 :: body) 0 2 : Go Error Bytes) = .ok [i0, i1] := Go.slice_between [] rfl rfl rfl
  have behindID : (Go.slice (i0 :: i1 :: body) 2 (i0 :: i1 :: body).length : Go Error Bytes) = .ok body :=
    Go.slice_from (by simp)
  rw [idField, Go.ok_bind, Utf16.ByteOrder.getUint16_cons, Go.ok_bind, behindID, Go.ok_bind]
  have some : body ≠ [] := by
    rintro rfl
    simp at long1
  refine (ensures_pcoOptionLength _ some).bind fun field read => ?_
  obtain ⟨inside, stored, fits⟩ := read
  rw [Go.slice_from inside, Go.ok_bind]
  refine Go.ensures_failIf.bind fun _ covered => ?_
  rw [Go.slice_to (Nat.le_of_not_lt covered), Go.ok_bind]
  rw [List.length_drop] at covered
  refine Go.ensures_ok ⟨by simp only; omega, by simp only [List.length_cons]; omega, ?_⟩
  -- The data are as long as the length field says.
  have length : ((body.drop field.1).take field.2).length = field.2 := by
    rw [List.length_take, List.length_drop]
    omega
  apply PCOOption.marshal_eq_ok.mpr
  refine ⟨by rw [PCOOption.Fits, length]; exact fits, ?_⟩
  -- Identifier, length field and data are the bytes that were taken.
  have cut : (i0 :: i1 :: body).take (2 + field.1 + field.2) = [i0, i1] ++ (body.take field.1 ++
      (body.drop field.1).take field.2) := by
    rw [Nat.add_assoc, Nat.add_comm 2, ← List.take_add]
    rfl
  rw [cut, PCOOption.bytes, putUint16_uint16, length, stored]

/-- Every option is read back, whatever follows. -/
theorem pcoOption_inverts : Sequence.Inverts (fun _ => PCOOption.marshal) (fun _ => unmarshalPCOOption) id (fun _ => True)
    (fun _ => True) where
  nonempty := by
    intro before o encoded written
    obtain ⟨-, rfl⟩ := PCOOption.marshal_eq_ok.mp written
    obtain ⟨i0, i1, stored, -⟩ := putUint16_eq bigEndian o.id
    simp [PCOOption.bytes, stored]
  roundTrip := by
    intro before o encoded rest _ written _
    obtain ⟨fits, rfl⟩ := PCOOption.marshal_eq_ok.mp written
    exact unmarshalPCOOption_bytes fits rest
  next := fun _ _ _ _ _ => trivial

/-- The parser accepts only encoded options. -/
theorem pcoOption_canonical : Sequence.Canonical (fun _ => PCOOption.marshal) (fun _ => unmarshalPCOOption) :=
  fun _ data _ => ensures_unmarshalPCOOption data

/-- Options that fit are encoded one after the other. -/
theorem PCOOption.write_eq_ok {before options : List PCOOption} {data : Bytes} :
    Sequence.write (fun _ => PCOOption.marshal) before options = .ok data ↔
      (∀ o ∈ options, o.Fits) ∧ options.flatMap PCOOption.bytes = data := by
  induction options generalizing before data with
  | nil => simp [Sequence.write]
  | cons o options ih =>
    simp only [Sequence.write, Go.bind_eq_ok, marshal_eq_ok, ih, Go.pure_eq, Except.ok.injEq, List.forall_mem_cons,
      List.flatMap_cons]
    constructor
    · rintro ⟨encoded, ⟨first, rfl⟩, others, ⟨rest, rfl⟩, rfl⟩
      exact ⟨⟨first, rest⟩, rfl⟩
    · rintro ⟨⟨first, rest⟩, rfl⟩
      exact ⟨_, ⟨first, rfl⟩, _, ⟨rest, rfl⟩, rfl⟩

/-! Addresses. -/

/-- Whole chunks are cut out of what has a multiple of their size. -/
theorem length_of_mem_chunksFor {size rounds : Nat} {data : Bytes} (whole : data.length % size = 0) :
    ∀ chunk ∈ chunksFor size rounds data, chunk.length = size := by
  -- The induction is on the rounds, each of which cuts one chunk off.
  induction rounds generalizing data with
  | zero => simp [chunksFor]
  | succ rounds ih =>
    cases data with
    | nil => simp [chunksFor]
    | cons byte rest =>
      -- A multiple of the size that is not zero is the size at least.
      have least : size ≤ (byte :: rest).length := by
        by_contra short
        rw [Nat.mod_eq_of_lt (by omega)] at whole
        simp at whole
      have left : ((byte :: rest).drop size).length % size = 0 := by
        rw [List.length_drop, ← Nat.mod_eq_sub_mod least]
        exact whole
      rw [chunksFor, List.forall_mem_cons]
      exact ⟨by rw [List.length_take]; omega, ih left⟩

/-- A chunk of four bytes is an address. -/
theorem chunkIPv4_eq_ok {chunk : Bytes} (size : chunk.length = 4) : chunkIPv4 chunk = .ok (v4InV6Prefix ++ chunk) := by
  obtain ⟨a, b, c, d, rfl⟩ := List.length_eq_four.mp size
  rfl

/-- The addresses of an option with one of two identifiers are whole. -/
def PCOOption.Whole (ipv4ID ipv6ID : UInt16) (o : PCOOption) : Prop :=
  (o.id = ipv4ID → o.data.length % 4 = 0) ∧ (o.id = ipv6ID → o.data.length % 16 = 0)

/-- The addresses that an option contains. -/
def PCOOption.addresses (ipv4ID ipv6ID : UInt16) (o : PCOOption) : List IP :=
  if o.id = ipv4ID then (chunks 4 o.data).map (v4InV6Prefix ++ ·)
  else if o.id = ipv6ID then chunks 16 o.data
  else []

/-- Whole addresses are read. -/
theorem optionIPs_of_whole {ipv4ID ipv6ID : UInt16} {o : PCOOption} (whole : o.Whole ipv4ID ipv6ID) :
    optionIPs ipv4ID ipv6ID o = .ok (o.addresses ipv4ID ipv6ID) := by
  rw [optionIPs, PCOOption.addresses]
  by_cases fourth : o.id = ipv4ID
  · -- An option with addresses of four bytes.
    rw [if_pos fourth, if_pos fourth, Go.failIf_bind_of_not (by rw [not_not]; exact whole.1 fourth)]
    exact Go.mapM_eq_ok fun chunk member => chunkIPv4_eq_ok (length_of_mem_chunksFor (whole.1 fourth) chunk member)
  · rw [if_neg fourth, if_neg fourth]
    by_cases sixth : o.id = ipv6ID
    · -- An option with addresses of sixteen bytes.
      rw [if_pos sixth, if_pos sixth, Go.failIf_bind_of_not (by rw [not_not]; exact whole.2 sixth)]
      rfl
    · rw [if_neg sixth, if_neg sixth]
      rfl

/-- Addresses that are read are whole. -/
theorem ensures_optionIPs {ipv4ID ipv6ID : UInt16} (different : ipv4ID ≠ ipv6ID) (o : PCOOption) :
    (optionIPs ipv4ID ipv6ID o).Ensures fun ips => o.Whole ipv4ID ipv6ID ∧ ips = o.addresses ipv4ID ipv6ID := by
  by_cases whole : o.Whole ipv4ID ipv6ID
  · rw [optionIPs_of_whole whole]
    exact Go.ensures_ok ⟨whole, rfl⟩
  · -- An address that is cut off is reported before any is read.
    rw [optionIPs]
    refine Go.ensures_ite (fun fourth => ?_) fun other => Go.ensures_ite (fun sixth => ?_) fun neither => ?_
    · refine Go.ensures_failIf.bind fun _ passed => absurd ?_ whole
      exact ⟨fun _ => not_not.mp passed, fun sixth => absurd (fourth.symm.trans sixth) different⟩
    · refine Go.ensures_failIf.bind fun _ passed => absurd ?_ whole
      exact ⟨fun fourth => absurd fourth other, fun _ => not_not.mp passed⟩
    · exact absurd ⟨fun fourth => absurd fourth other, fun sixth => absurd sixth neither⟩ whole

/-- The addresses of options are the addresses of each. -/
theorem addressesIn_eq (ipv4ID ipv6ID : UInt16) (options : List PCOOption) :
    addressesIn ipv4ID ipv6ID options = (options.map (PCOOption.addresses ipv4ID ipv6ID)).flatten := by
  rw [addressesIn, List.flatMap_def]
  rfl

/-- Every address takes sixteen bytes. -/
theorem length_of_mem_addressesIn {ipv4ID ipv6ID : UInt16} {options : List PCOOption}
    (whole : ∀ o ∈ options, o.Whole ipv4ID ipv6ID) : ∀ ip ∈ addressesIn ipv4ID ipv6ID options, ip.length = 16 := by
  intro ip member
  obtain ⟨o, listed, member⟩ := List.mem_flatMap.mp member
  by_cases fourth : o.id = ipv4ID
  · -- An address of four bytes is written with the prefix.
    rw [if_pos fourth] at member
    obtain ⟨chunk, cut, rfl⟩ := List.mem_map.mp member
    rw [List.length_append, length_of_mem_chunksFor ((whole o listed).1 fourth) chunk cut]
    rfl
  · rw [if_neg fourth] at member
    by_cases sixth : o.id = ipv6ID
    · rw [if_pos sixth] at member
      exact length_of_mem_chunksFor ((whole o listed).2 sixth) ip member
    · rw [if_neg sixth] at member
      simp at member

/-- Addresses of one length are equal when they are the same bytes. -/
theorem IP.equal_of_length {ip x : IP} (same : ip.length = x.length) : ip.equal x = (ip == x) := by
  rw [IP.equal, if_pos same]

/-- The loop adds the first occurrences of what it has not seen, in order. -/
theorem foldl_addUnique {ips unique : List IP} (sixteen : ∀ ip ∈ ips ++ unique, ip.length = 16) :
    ips.foldl addUnique unique = unique ++ (ips.filter (· ∉ unique)).eraseDups := by
  -- The induction is on the addresses still to be added.
  induction ips generalizing unique with
  | nil => simp
  | cons ip ips ih =>
    have length := sixteen ip (by simp)
    -- Among addresses of sixteen bytes, an equal one is the same one.
    have seen : unique.any ip.equal = true ↔ ip ∈ unique := by
      rw [List.any_eq_true]
      constructor
      · rintro ⟨x, member, equal⟩
        have other := sixteen x (by simp [member])
        rw [IP.equal_of_length (by omega), beq_iff_eq] at equal
        rwa [equal]
      · intro member
        exact ⟨ip, member, by rw [IP.equal_of_length rfl, beq_self_eq_true]⟩
    rw [List.foldl_cons, addUnique]
    by_cases old : ip ∈ unique
    · -- An address that is there already is skipped.
      rw [if_pos (.inr (seen.mpr old)), List.filter_cons_of_neg (by simpa using old)]
      exact ih fun x member => sixteen x (by
        rcases List.mem_append.mp member with first | second
        · simp [first]
        · simp [second])
    · -- A new address is added behind the others.
      have fresh : ¬ (ip.length = 0 ∨ unique.any ip.equal = true) := by
        rw [seen]
        rintro (empty | member)
        · omega
        · exact old member
      rw [if_neg fresh, List.filter_cons_of_pos (by simpa using old), List.eraseDups_cons, List.filter_filter,
        ih fun x member => sixteen x (by
          rcases List.mem_append.mp member with first | second
          · simp [first]
          · rcases List.mem_append.mp second with third | fourth
            · simp [third]
            · simp [List.mem_singleton.mp fourth])]
      rw [List.append_assoc, List.singleton_append]
      congr 3
      apply List.filter_congr
      intro x _
      by_cases same : x = ip
      · simp [same]
      · simp [same, beq_eq_false_iff_ne.mpr same]

/-- Each address is kept where it occurs first. -/
theorem uniqueIPs_eq_eraseDups {ips : List IP} (sixteen : ∀ ip ∈ ips, ip.length = 16) : uniqueIPs ips = ips.eraseDups := by
  rw [uniqueIPs, foldl_addUnique (by simpa using sixteen)]
  simp

/-- The loop keeps no two equal addresses. -/
theorem nodup_foldl_addUnique {ips unique : List IP} (different : unique.Pairwise fun x y => y.equal x = false) :
    (ips.foldl addUnique unique).Pairwise fun x y => y.equal x = false := by
  induction ips generalizing unique with
  | nil => exact different
  | cons ip ips ih =>
    rw [List.foldl_cons, addUnique]
    by_cases skip : ip.length = 0 ∨ unique.any ip.equal = true
    · rw [if_pos skip]
      exact ih different
    · rw [if_neg skip]
      rw [not_or, Bool.not_eq_true, List.any_eq_false] at skip
      apply ih
      rw [List.pairwise_append]
      refine ⟨different, by simp, fun x member y single => ?_⟩
      rw [List.mem_singleton.mp single]
      simpa using skip.2 x member

/-- The addresses of options are read exactly when they are whole, once each in the order they occur first. -/
theorem ensures_ipsFromOptions {ipv4ID ipv6ID : UInt16} (different : ipv4ID ≠ ipv6ID) (options : List PCOOption) :
    (ipsFromOptions options ipv4ID ipv6ID).Ensures fun ips => (∀ o ∈ options, o.Whole ipv4ID ipv6ID) ∧
      ips = (addressesIn ipv4ID ipv6ID options).eraseDups ∧ ips.Pairwise fun x y => y.equal x = false := by
  refine (Go.ensures_mapM_map fun o _ => ensures_optionIPs different o).bind fun lists read => ?_
  obtain ⟨whole, rfl⟩ := read
  rw [← addressesIn_eq]
  refine Go.ensures_ok ⟨whole, uniqueIPs_eq_eraseDups (length_of_mem_addressesIn whole), ?_⟩
  exact nodup_foldl_addUnique List.Pairwise.nil

/-- Whole addresses are read. -/
theorem ipsFromOptions_of_whole {ipv4ID ipv6ID : UInt16} {options : List PCOOption}
    (whole : ∀ o ∈ options, o.Whole ipv4ID ipv6ID) : ∃ ips, ipsFromOptions options ipv4ID ipv6ID = .ok ips := by
  rw [ipsFromOptions, Go.mapM_eq_ok fun o member => optionIPs_of_whole (whole o member)]
  exact ⟨_, rfl⟩

/-- The largest packet is read exactly when the first option about it has two bytes. -/
theorem ensures_ipv4LinkMTUFromOptions (options : List PCOOption) : (ipv4LinkMTUFromOptions options).Ensures fun _ =>
    ∀ o, options.find? (fun option => option.id = pcoOptionIPv4MTU) = some o → o.data.length = 2 := by
  rw [ipv4LinkMTUFromOptions]
  cases options.find? fun option => option.id = pcoOptionIPv4MTU with
  | none => exact Go.ensures_ok (by simp)
  | some option =>
    refine Go.ensures_failIf.bind fun _ two => ?_
    rw [not_not] at two
    refine (Utf16.ByteOrder.ensures_getUint16 bigEndian two).bind fun mtu _ => ?_
    refine Go.ensures_ok fun o same => ?_
    rw [← Option.some.inj same]
    exact two

/-- Two bytes are read as the largest packet. -/
theorem ipv4LinkMTUFromOptions_of_two {options : List PCOOption}
    (two : ∀ o, options.find? (fun option => option.id = pcoOptionIPv4MTU) = some o → o.data.length = 2) :
    ∃ mtu, ipv4LinkMTUFromOptions options = .ok mtu := by
  rw [ipv4LinkMTUFromOptions]
  cases found : options.find? fun option => option.id = pcoOptionIPv4MTU with
  | none => exact ⟨_, rfl⟩
  | some option =>
    obtain ⟨first, second, shape⟩ := List.length_eq_two.mp (two option found)
    refine ⟨(bigEndian.uint16 first second, true), ?_⟩
    simp only
    rw [shape, Go.failIf_bind_of_not (by simp)]
    rfl

/-- Options are well sized when the addresses of both kinds are whole and the largest packet has two bytes. -/
theorem wellSized_iff {options : List PCOOption} : WellSized options ↔
    (∀ o ∈ options, o.Whole pcoOptionPCSCFIPv4 pcoOptionPCSCFIPv6) ∧
      (∀ o ∈ options, o.Whole pcoOptionDNSIPv4 pcoOptionDNSIPv6) ∧
      ∀ o, options.find? (fun option => option.id = pcoOptionIPv4MTU) = some o → o.data.length = 2 := by
  constructor
  · rintro ⟨fourth, sixth, mtu⟩
    refine ⟨fun o member => ⟨fun same => ?_, fun same => ?_⟩, fun o member => ⟨fun same => ?_, fun same => ?_⟩, mtu⟩
    · exact fourth o member (.inl same)
    · exact sixth o member (.inl same)
    · exact fourth o member (.inr same)
    · exact sixth o member (.inr same)
  · rintro ⟨pcscf, dns, mtu⟩
    refine ⟨fun o member => ?_, fun o member => ?_, mtu⟩
    · rintro (same | same)
      · exact (pcscf o member).1 same
      · exact (dns o member).1 same
    · rintro (same | same)
      · exact (pcscf o member).2 same
      · exact (dns o member).2 same

/-- What the parsed options say about a payload: how it encodes them, and what is read from them. -/
structure ProtocolConfigurationOptions.Describes (p : ProtocolConfigurationOptions) (data : Bytes) : Prop where
  fits : ∀ o ∈ p.options, o.Fits
  encoded : ∃ first, data = first :: p.options.flatMap PCOOption.bytes ∧ p.extension = (first &&& 0x80 ≠ 0) ∧
    p.configurationProtocol = first &&& 0x07
  sized : WellSized p.options
  pcscf : p.pcscfIPs = (addressesIn pcoOptionPCSCFIPv4 pcoOptionPCSCFIPv6 p.options).eraseDups
  pcscfDifferent : p.pcscfIPs.Pairwise fun x y => y.equal x = false
  dns : p.dnsIPs = (addressesIn pcoOptionDNSIPv4 pcoOptionDNSIPv6 p.options).eraseDups
  dnsDifferent : p.dnsIPs.Pairwise fun x y => y.equal x = false

/-- Parsing does not panic, and what it returns describes the payload. -/
theorem ProtocolConfigurationOptions.ensures_unmarshalBinary (data : Bytes) :
    (ProtocolConfigurationOptions.unmarshalBinary data).Ensures fun p => p.Describes data := by
  rw [ProtocolConfigurationOptions.unmarshalBinary]
  refine Go.ensures_failIf.bind fun _ some => ?_
  obtain ⟨first, rest, rfl, -⟩ := exists_cons_of_le_length (Nat.one_le_iff_ne_zero.mpr some)
  have behind : (Go.slice (first :: rest) 1 (first :: rest).length : Go Error Bytes) = .ok rest := Go.slice_from (by simp)
  rw [show (Go.index (first :: rest) 0 : Go Error UInt8) = .ok first from rfl, Go.ok_bind, behind, Go.ok_bind]
  -- The options are those whose encoding the payload is.
  refine (pcoOption_canonical.ensures_readAll rest).bind fun options written => ?_
  obtain ⟨fits, encoded⟩ := PCOOption.write_eq_ok.mp written
  refine (ensures_ipsFromOptions (by decide) options).mapError.bind fun pcscfIPs pcscf => ?_
  refine (ensures_ipsFromOptions (by decide) options).mapError.bind fun dnsIPs dns => ?_
  refine (ensures_ipv4LinkMTUFromOptions options).bind fun mtu two => ?_
  apply Go.ensures_ok
  exact { fits := fits
          encoded := ⟨first, by rw [encoded], by simp, rfl⟩
          sized := wellSized_iff.mpr ⟨pcscf.1, dns.1, two⟩
          pcscf := pcscf.2.1
          pcscfDifferent := pcscf.2.2
          dns := dns.2.1
          dnsDifferent := dns.2.2 }

/-- Encoded options are parsed exactly when they are well sized. -/
theorem ProtocolConfigurationOptions.unmarshalBinary_of_wellSized {options : List PCOOption} (fits : ∀ o ∈ options, o.Fits)
    (sized : WellSized options) (first : UInt8) : ∃ p,
      ProtocolConfigurationOptions.unmarshalBinary (first :: options.flatMap PCOOption.bytes) = .ok p ∧
        p.options = options := by
  obtain ⟨pcscf, dns, two⟩ := wellSized_iff.mp sized
  have read := pcoOption_inverts.readAll_write trivial (fun _ _ => trivial) (PCOOption.write_eq_ok.mpr ⟨fits, rfl⟩)
  rw [List.map_id] at read
  obtain ⟨pcscfIPs, pcscf⟩ := ipsFromOptions_of_whole pcscf
  obtain ⟨dnsIPs, dns⟩ := ipsFromOptions_of_whole dns
  obtain ⟨mtu, two⟩ := ipv4LinkMTUFromOptions_of_two two
  have behind : (Go.slice (first :: options.flatMap PCOOption.bytes) 1 (first :: options.flatMap PCOOption.bytes).length :
      Go Error Bytes) = .ok (options.flatMap PCOOption.bytes) := Go.slice_from (by simp)
  rw [ProtocolConfigurationOptions.unmarshalBinary, Go.failIf_bind_of_not (by simp)]
  rw [show (Go.index (first :: options.flatMap PCOOption.bytes) 0 : Go Error UInt8) = .ok first from rfl, Go.ok_bind,
    behind, Go.ok_bind, read, Go.ok_bind, pcscfIPsFromOptions, pcscf, dnsIPsFromOptions, dns, two]
  exact ⟨_, rfl, rfl⟩

/-- Encoded options are returned in order or rejected for the length of an address or packet size option, whatever is
returned describes its payload, a payload that ends inside an option is rejected, and no byte string is a panic. -/
theorem pco_decoding :
    (∀ (first : UInt8) (options : List PCOOption), (∀ o ∈ options, o.Fits) →
      (WellSized options ∧ ∃ p, ProtocolConfigurationOptions.unmarshalBinary
        (first :: options.flatMap PCOOption.bytes) = .ok p ∧ p.options = options) ∨
      (¬ WellSized options ∧ ∃ error, ProtocolConfigurationOptions.unmarshalBinary
        (first :: options.flatMap PCOOption.bytes) = Go.fail error)) ∧
    (∀ data p, ProtocolConfigurationOptions.unmarshalBinary data = .ok p → p.Describes data) ∧
    (∀ (first : UInt8) (options : List PCOOption) (cut : PCOOption) (part tail : Bytes), (∀ o ∈ options ++ [cut], o.Fits) →
      cut.bytes = part ++ tail → part ≠ [] → tail ≠ [] → ∃ error, ProtocolConfigurationOptions.unmarshalBinary
        (first :: (options.flatMap PCOOption.bytes ++ part)) = Go.fail error) ∧
    ∀ data, ProtocolConfigurationOptions.unmarshalBinary data ≠ .error .outOfRange := by
  have accepted := ProtocolConfigurationOptions.ensures_unmarshalBinary
  refine ⟨fun first options fits => ?_, fun data => (accepted data).2, ?_, fun data => (accepted data).1⟩
  · -- Options that fit are decoded if and only if their contents have whole sizes.
    by_cases sized : WellSized options
    · exact .inl ⟨sized, ProtocolConfigurationOptions.unmarshalBinary_of_wellSized fits sized first⟩
    · refine .inr ⟨sized, ?_⟩
      rcases (accepted (first :: options.flatMap PCOOption.bytes)).cases with ⟨p, returned, describes⟩ | failed
      · -- The payload determines its options, so those that were returned are well sized too.
        obtain ⟨first', same, -⟩ := describes.encoded
        have written : Sequence.write (fun _ => PCOOption.marshal) [] options = .ok (p.options.flatMap PCOOption.bytes) :=
          PCOOption.write_eq_ok.mpr ⟨fits, (List.cons.inj same).2⟩
        have written' : Sequence.write (fun _ => PCOOption.marshal) [] p.options =
            .ok (p.options.flatMap PCOOption.bytes) :=
          PCOOption.write_eq_ok.mpr ⟨describes.fits, rfl⟩
        have read := pcoOption_inverts.readAll_write trivial (fun _ _ => trivial) written
        have read' := pcoOption_inverts.readAll_write trivial (fun _ _ => trivial) written'
        rw [List.map_id] at read read'
        have equal : options = p.options := Except.ok.inj (read.symm.trans read')
        rw [equal] at sized
        exact absurd describes.sized sized
      · exact failed
  · -- A payload that ends inside an option is cut there by the reader of options.
    intro first options cut part tail fits split some rest
    have written : Sequence.write (fun _ => PCOOption.marshal) [] options = .ok (options.flatMap PCOOption.bytes) :=
      PCOOption.write_eq_ok.mpr ⟨fun o member => fits o (by simp [member]), rfl⟩
    have last : cut.marshal = .ok (part ++ tail) := PCOOption.marshal_eq_ok.mpr ⟨fits cut (by simp), split⟩
    obtain ⟨error, rejected⟩ :=
      Sequence.readAll_truncated pcoOption_inverts pcoOption_canonical written last ⟨some, rest⟩
    have behind : (Go.slice (first :: (options.flatMap PCOOption.bytes ++ part)) 1
        (first :: (options.flatMap PCOOption.bytes ++ part)).length : Go Error Bytes) =
          .ok (options.flatMap PCOOption.bytes ++ part) := Go.slice_from (by simp)
    refine ⟨error, ?_⟩
    rw [ProtocolConfigurationOptions.unmarshalBinary, Go.failIf_bind_of_not (by simp)]
    rw [show (Go.index (first :: (options.flatMap PCOOption.bytes ++ part)) 0 : Go Error UInt8) = .ok first from rfl,
      Go.ok_bind, behind, Go.ok_bind, rejected]
    rfl

/-- A name server that is listed twice is kept once. -/
example : (ProtocolConfigurationOptions.unmarshalBinary
      [0x80, 0, 0x0d, 8, 1, 1, 1, 1, 8, 8, 8, 8, 0, 0x0d, 4, 1, 1, 1, 1]).map ProtocolConfigurationOptions.dnsIPs =
    .ok [ipv4 1 1 1 1, ipv4 8 8 8 8] := by decide

end Wwan.Mbim
