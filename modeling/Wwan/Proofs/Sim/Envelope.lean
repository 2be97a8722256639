import Wwan.Proofs.Sim.Tlv
import Wwan.Sim.Envelope

/-! When the two encoders of the envelope for a short message agree. -/

namespace Wwan.Sim

open Tlv (Item)

/-! Lengths and items. -/

namespace Command

/-- A length is written behind what is there already. -/
theorem appendBERLength_eq (out : Bytes) (n : Nat) : appendBERLength out n = out ++ appendBERLength [] n := by
  rw [appendBERLength, appendBERLength]
  split_ifs <;> rfl

/-- The encoder without an upper bound, for an item. -/
def item (i : Item) : Bytes := i.tag :: (appendBERLength [] i.value.length ++ i.value)

/-- An item is written behind what is there already. -/
theorem appendTLV_eq (out : Bytes) (tag : UInt8) (value : Bytes) : appendTLV out tag value = out ++ item { tag, value } := by
  rw [appendTLV, appendBERLength_eq]
  simp [item]

end Command

/-- The encoder with an upper bound writes the same length, or none. -/
theorem Tlv.marshalLength_eq (n : Nat) :
    Tlv.marshalLength n = if n ≤ 0xFFFF then .ok (Command.appendBERLength [] n) else Go.fail .valueTooLarge := by
  rw [Tlv.marshalLength, Command.appendBERLength]
  split_ifs <;> first | rfl | omega

/-- The encoder with an upper bound writes the same item, or none. -/
theorem Tlv.Item.marshalBinary_eq (i : Item) :
    i.marshalBinary = if i.value.length ≤ 0xFFFF then .ok (Command.item i) else Go.fail .valueTooLarge := by
  rw [Tlv.Item.marshalBinary, Tlv.marshalLength_eq]
  split_ifs <;> rfl

/-- The encoder with an upper bound writes the same items, or none. -/
theorem Tlv.marshalBinary_eq (items : List Item) :
    Tlv.marshalBinary items =
      if ∀ i ∈ items, i.value.length ≤ 0xFFFF then .ok (items.flatMap Command.item) else Go.fail .valueTooLarge := by
  induction items with
  | nil => simp [Tlv.marshalBinary]
  | cons i items ih =>
    rw [Tlv.marshalBinary, Tlv.Item.marshalBinary_eq, ih]
    simp only [List.forall_mem_cons, List.flatMap_cons]
    -- An item that is too long fails the whole list.
    by_cases first : i.value.length ≤ 0xFFFF
    · by_cases others : ∀ i ∈ items, i.value.length ≤ 0xFFFF
      · rw [if_pos first, if_pos others, if_pos ⟨first, others⟩]
        rfl
      · rw [if_pos first, if_neg others, if_neg fun both => others both.2]
        rfl
    · rw [if_neg first, Go.fail_bind, if_neg fun both => first both.1]

/-! Envelopes. -/

/-- The items of the envelope, with the encoded address of the service centre. -/
def SMSPPDownload.items (c : SMSPPDownload) (address : Bytes) : List Item :=
  [{ tag := 0x82, value := [0x83, 0x81] }] ++ (if address ≠ [] then [{ tag := 0x86, value := address }] else []) ++
    [{ tag := 0x8B, value := c.tpdu }]

/-- The encoded address of the service centre, which both encoders need, and a message. -/
def SMSPPDownload.Encodable (c : SMSPPDownload) (address : Bytes) : Prop :=
  c.tpdu ≠ [] ∧ Address.marshalBinary c.serviceCenterAddress = .ok address

/-- The encoder of the command package. -/
theorem Command.envelope_eq {c : SMSPPDownload} {address : Bytes} (encodable : c.Encodable address) :
    Command.envelope c = .ok (Command.item { tag := 0xD1, value := (c.items address).flatMap Command.item }) := by
  obtain ⟨nonempty, encoded⟩ := encodable
  -- The address is left out where there is none.
  have body : (if address.length ≠ 0 then appendTLV (appendTLV [] 0x82 [0x83, 0x81]) 0x86 address
      else appendTLV [] 0x82 [0x83, 0x81]) ++ item { tag := 0x8B, value := c.tpdu } =
        (c.items address).flatMap Command.item := by
    simp only [appendTLV_eq, SMSPPDownload.items, ne_eq, List.length_eq_zero_iff]
    split_ifs <;> simp
  rw [Command.envelope, if_neg fun none => nonempty (List.eq_nil_of_length_eq_zero none), encoded, Go.mapError_ok,
    Go.ok_bind]
  dsimp only
  rw [appendTLV_eq, body, appendBERLength_eq]
  rfl

/-- The encoder of the toolkit package. -/
theorem Stk.marshalBinary_eq {c : SMSPPDownload} {address : Bytes} (encodable : c.Encodable address) :
    Stk.marshalBinary c =
      ((Tlv.marshalBinary (c.items address)).mapError .items >>= fun body =>
        (Tlv.wrapBER 0xD1 body).mapError .wrapping) := by
  obtain ⟨nonempty, encoded⟩ := encodable
  -- The builder makes the same items by their tag names.
  have built : Stk.envelope c = .ok { tag := 0xD1, tlvs := c.items address } := by
    have devices : Item.newComprehension Tag.deviceIDs [DeviceID.network, DeviceID.uicc] =
        { tag := 0x82, value := [0x83, 0x81] } := by decide
    have centre : Item.newComprehension Tag.address address = { tag := 0x86, value := address } :=
      congrArg (Item.mk · address) (by decide : Tag.address &&& 0x7f ||| 0x80 = (0x86 : UInt8))
    have message : Item.newComprehension Tag.smsTPDU c.tpdu = { tag := 0x8B, value := c.tpdu } :=
      congrArg (Item.mk · c.tpdu) (by decide : Tag.smsTPDU &&& 0x7f ||| 0x80 = (0x8B : UInt8))
    rw [Stk.envelope, if_neg fun none => nonempty (List.eq_nil_of_length_eq_zero none), encoded, Go.mapError_ok,
      Go.ok_bind, devices, centre, message]
    simp only [SMSPPDownload.items, ne_eq, List.length_eq_zero_iff]
    split_ifs <;> rfl
  rw [Stk.marshalBinary, built, Go.ok_bind, Stk.Envelope.marshalBinary, if_neg (by simp)]

/-- Neither encoder builds an envelope without a message or with an address that cannot be encoded. -/
theorem not_encodable {c : SMSPPDownload} (never : ∀ address, ¬ c.Encodable address) :
    ∃ fault, Command.envelope c = .error fault ∧ Stk.marshalBinary c = .error fault := by
  rw [Command.envelope, Stk.marshalBinary, Stk.envelope]
  by_cases empty : c.tpdu.length = 0
  · -- There is no message.
    rw [if_pos empty, if_pos empty]
    exact ⟨_, rfl, rfl⟩
  · -- The address is refused by both encoders.
    rw [if_neg empty, if_neg empty]
    have some : c.tpdu ≠ [] := fun none => empty (congrArg List.length none)
    cases encoded : Address.marshalBinary c.serviceCenterAddress with
    | ok address => exact (never address ⟨some, encoded⟩).elim
    | error fault => cases fault <;> exact ⟨_, rfl, rfl⟩

/-! Agreement. -/

/-- The encoders both fail, or both return bytes that hold the envelope's items with their true lengths. -/
def EncodersAgree (c : SMSPPDownload) : Prop :=
  (∃ fault fault', Command.envelope c = .error fault ∧ Stk.marshalBinary c = .error fault') ∨
    ∃ data address body, Command.envelope c = .ok data ∧ Stk.marshalBinary c = .ok data ∧
      Address.marshalBinary c.serviceCenterAddress = .ok address ∧
      Tlv.InRange.unwrapBER data = .ok (0xD1, body) ∧ Tlv.InRange.unmarshalBinary body = .ok (c.items address)

/-- How many bytes an item of a value takes. -/
def itemSize (length : Nat) : Nat :=
  if length < 0x80 then 2 + length else if length ≤ 0xFF then 3 + length else 4 + length

/-- The items of an envelope that could be built fit two bytes of length. -/
def Fits (c : SMSPPDownload) : Prop :=
  ∀ address, c.Encodable address →
    4 + (if address = [] then 0 else itemSize address.length) + itemSize c.tpdu.length ≤ 0xFFFF

/-- How long an item is. -/
theorem Command.length_item (i : Item) : (Command.item i).length = itemSize i.value.length := by
  simp only [Command.item, Command.appendBERLength, itemSize]
  split_ifs <;> simp <;> omega

/-- How long the items of an envelope are. -/
theorem length_items (c : SMSPPDownload) (address : Bytes) :
    ((c.items address).flatMap Command.item).length =
      4 + (if address = [] then 0 else itemSize address.length) + itemSize c.tpdu.length := by
  have devices : itemSize 2 = 4 := rfl
  simp only [SMSPPDownload.items, ne_eq]
  split_ifs
  · simp [Command.length_item, devices]
  · simp [Command.length_item, devices]
    omega

/-- An item is longer than its value. -/
theorem lt_itemSize (length : Nat) : length < itemSize length := by
  rw [itemSize]
  split_ifs <;> omega

/-- The message is one of the items. -/
theorem message_mem_items (c : SMSPPDownload) (address : Bytes) :
    { tag := 0x8B, value := c.tpdu } ∈ c.items address := by
  rw [SMSPPDownload.items]
  exact List.mem_append_right _ (List.mem_singleton.mpr rfl)

/-- Items that fit together fit on their own. -/
theorem items_bounded {items : List Item} (small : (items.flatMap Command.item).length ≤ 0xFFFF) :
    ∀ i ∈ items, i.value.length ≤ 0xFFFF := by
  intro i member
  have inside := (List.sublist_flatten_of_mem (List.mem_map_of_mem (f := Command.item) member)).length_le
  have longer := lt_itemSize i.value.length
  rw [← Command.length_item] at longer
  rw [← List.flatMap_def] at inside
  omega

/-- The encoders agree on exactly the messages whose items fit two bytes of length. -/
theorem smsPPDownload_agree_iff (c : SMSPPDownload) : EncodersAgree c ↔ Fits c := by
  by_cases some : ∃ address, c.Encodable address
  · obtain ⟨address, encodable⟩ := some
    -- The address is determined by the message, so that one bound says it all.
    have fits : Fits c ↔ ((c.items address).flatMap Command.item).length ≤ 0xFFFF := by
      rw [length_items]
      refine ⟨fun all => all address encodable, fun small other encodable' => ?_⟩
      obtain rfl : address = other := Except.ok.inj (encodable.2.symm.trans encodable'.2)
      exact small
    rw [fits]
    constructor
    · rintro (⟨fault, _, command, -⟩ | ⟨data, _, _, command, toolkit, -⟩)
      · -- The encoder of the command package does not fail.
        rw [Command.envelope_eq encodable] at command
        cases command
      · -- Only a body that fits is wrapped.
        rw [Stk.marshalBinary_eq encodable, Tlv.marshalBinary_eq] at toolkit
        split_ifs at toolkit
        · by_contra large
          rw [Go.mapError_ok, Go.ok_bind, Tlv.wrapBER, Tlv.marshalLength_eq, if_neg large] at toolkit
          cases toolkit
        · cases toolkit
    · -- Both write the items with the same lengths.
      intro small
      have bounded := items_bounded small
      have body : Tlv.marshalBinary (c.items address) = .ok ((c.items address).flatMap Command.item) := by
        rw [Tlv.marshalBinary_eq, if_pos bounded]
      have wrapped : Tlv.wrapBER 0xD1 ((c.items address).flatMap Command.item) =
          .ok (Command.item { tag := 0xD1, value := (c.items address).flatMap Command.item }) := by
        rw [Tlv.wrapBER, Tlv.marshalLength_eq, if_pos small]
        rfl
      obtain ⟨data, encoded, read⟩ := Tlv.unmarshalBinary_marshalBinary bounded
      obtain rfl := Except.ok.inj (body.symm.trans encoded)
      refine .inr ⟨_, address, _, Command.envelope_eq encodable, ?_, encodable.2,
        (Tlv.unwrapBER_wrapBER wrapped).1, read⟩
      rw [Stk.marshalBinary_eq encodable, body, Go.mapError_ok, Go.ok_bind, wrapped, Go.mapError_ok]
  · -- Neither encoder builds it.
    obtain ⟨fault, command, toolkit⟩ := not_encodable (not_exists.mp some)
    exact iff_of_true (.inl ⟨fault, fault, command, toolkit⟩) fun address encodable => (some ⟨address, encodable⟩).elim

/-- A message of 65536 bytes is put in an envelope by one encoder and refused by the other. -/
theorem smsPPDownload_large_disagree :
    (∃ data, Command.envelope { serviceCenterAddress := [], tpdu := List.replicate 65536 0 } = .ok data) ∧
      Stk.marshalBinary { serviceCenterAddress := [], tpdu := List.replicate 65536 0 } =
        Go.fail (.items .valueTooLarge) := by
  have some : List.replicate 65536 (0 : UInt8) ≠ [] := by
    rw [ne_eq, List.replicate_eq_nil_iff]
    decide
  have encodable : SMSPPDownload.Encodable { serviceCenterAddress := [], tpdu := List.replicate 65536 0 } [] :=
    ⟨some, rfl⟩
  refine ⟨⟨_, Command.envelope_eq encodable⟩, ?_⟩
  rw [Stk.marshalBinary_eq encodable, Tlv.marshalBinary_eq, if_neg]
  · rfl
  · intro bounded
    have message := bounded _ (message_mem_items _ [])
    rw [List.length_replicate] at message
    exact absurd message (by decide)

end Wwan.Sim
