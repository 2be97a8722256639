import Wwan.Lib.Greedy
import Wwan.Proofs.Sms.Submit

/-! The chunk loops divide a message greedily, and the chunks together carry the message. -/

namespace Wwan.Sms

open Greedy

/-- The septets of a rune. -/
def septetCount (r : Char) : Nat := ((encodeGSM7Rune r).getD []).length

/-- The code units of a rune. -/
def unitCount (r : Char) : Nat := (Utf16.encodeRune r).length

/-- Every octet counts once. -/
def octetCount (_ : UInt8) : Nat := 1

/-- The chunks encode the groups of a greedy division of the items. -/
def Splits {α : Type} (weight : α → Nat) (capacity : Nat) (encodes : List α → Bytes → Prop)
    (items : List α) (chunks : List Bytes) : Prop :=
  ∃ groups : List (List α), groups.flatten = items ∧ IsGreedy weight capacity groups ∧
    List.Forall₂ encodes groups chunks

/-- There are as few chunks as any division allows. -/
theorem Splits.length_le_iff {α : Type} {weight : α → Nat} {capacity : Nat}
    {encodes : List α → Bytes → Prop} {items : List α} {chunks : List Bytes}
    (splits : Splits weight capacity encodes items chunks) (count : Nat) :
    chunks.length ≤ count ↔ Divides weight capacity count items := by
  obtain ⟨groups, rfl, greedy, each⟩ := splits
  rw [← each.length_eq]
  exact greedy.length_le_iff count

/-- What does not fit one group has two chunks at least. -/
theorem Splits.two_le {α : Type} {weight : α → Nat} {capacity : Nat} {encodes : List α → Bytes → Prop} {items : List α}
    {chunks : List Bytes} (splits : Splits weight capacity encodes items chunks) (past : ¬ total weight items ≤ capacity) :
    2 ≤ chunks.length := by
  -- One group would have to hold everything.
  by_contra few
  obtain ⟨groups, rfl, short, within⟩ := (splits.length_le_iff 1).mp (by omega)
  match groups, short with
  | [], _ => simp at past
  | [group], _ => exact past (by simpa using within group (by simp))

/-! The default alphabet. -/

/-- A rune has one septet, or two behind an escape. -/
theorem encodeGSM7Rune_length {r : Char} {encoded : Bytes}
    (representable : encodeGSM7Rune r = some encoded) : 1 ≤ encoded.length ∧ encoded.length ≤ 2 := by
  unfold encodeGSM7Rune at representable
  split at representable
  · simp only [Option.some.injEq] at representable
    simp [← representable]
  · split at representable
    · simp only [Option.some.injEq] at representable
      simp [← representable]
    · simp at representable

/-- The encoded runes take as many septets as they weigh. -/
theorem total_septetCount {rs : List Char} {septets : Bytes}
    (marshalled : GSM7.marshalRunes rs = .ok septets) : total septetCount rs = septets.length := by
  induction rs generalizing septets with
  | nil =>
    simp only [GSM7.marshalRunes, Go.pure_eq, Except.ok.injEq] at marshalled
    simp [← marshalled]
  | cons r rs ih =>
    obtain ⟨encoded, rest, representable, tail, rfl⟩ := GSM7.marshalRunes_cons_eq_ok.mp marshalled
    rw [← List.singleton_append, total_append, total_singleton, ih tail]
    simp [septetCount, representable]

/-- Encoding two rune sequences one after the other appends their septets. -/
theorem marshalRunes_append {rs others : List Char} {septets more : Bytes}
    (marshalled : GSM7.marshalRunes rs = .ok septets) (others' : GSM7.marshalRunes others = .ok more) :
    GSM7.marshalRunes (rs ++ others) = .ok (septets ++ more) := by
  induction rs generalizing septets with
  | nil =>
    simp only [GSM7.marshalRunes, Go.pure_eq, Except.ok.injEq] at marshalled
    simpa [← marshalled] using others'
  | cons first rs ih =>
    obtain ⟨start, rest, found, tail, rfl⟩ := GSM7.marshalRunes_cons_eq_ok.mp marshalled
    exact GSM7.marshalRunes_cons_eq_ok.mpr ⟨start, rest ++ more, found, ih tail, by simp⟩

/-- Every encoded rune gives a septet of seven bits. -/
theorem marshalRunes_septets {rs : List Char} {septets : Bytes}
    (marshalled : GSM7.marshalRunes rs = .ok septets) : ∀ septet ∈ septets, septet ≤ 0x7f := by
  induction rs generalizing septets with
  | nil =>
    simp only [GSM7.marshalRunes, Go.pure_eq, Except.ok.injEq] at marshalled
    simp [← marshalled]
  | cons r rs ih =>
    obtain ⟨encoded, rest, representable, tail, rfl⟩ := GSM7.marshalRunes_cons_eq_ok.mp marshalled
    intro septet member
    rcases List.mem_append.mp member with now | later
    · -- A rune of the default table is one septet, one of the extension table two.
      unfold encodeGSM7Rune at representable
      split at representable
      · rename_i value found
        simp only [Option.some.injEq] at representable
        subst representable
        rw [List.mem_singleton.mp now]
        exact (gsm7DefaultEncode_spec found).1
      · split at representable
        · rename_i value found
          simp only [Option.some.injEq] at representable
          subst representable
          rcases List.mem_cons.mp now with rfl | now
          · decide
          · rw [List.mem_singleton.mp now]
            exact (gsm7ExtensionEncode_spec found).1
        · simp at representable
    · exact ih tail septet later

/-- The chunk loop extends the open chunk and then divides what is left. -/
private theorem splitGSM7Runes_open {capacity : Nat} (roomy : 2 ≤ capacity) {opened : List Char}
    (nonempty : opened ≠ []) {current : Bytes} (marshalled : GSM7.marshalRunes opened = .ok current)
    (within : current.length ≤ capacity) {rs : List Char} {chunks : List Bytes}
    (split : splitGSM7Runes capacity current rs = .ok chunks) :
    Splits septetCount capacity (fun group chunk => GSM7.marshalRunes group = .ok chunk)
      (opened ++ rs) chunks := by
  -- The induction is on the runes left, for every open chunk.
  induction rs generalizing opened current chunks with
  | nil =>
    -- The open chunk is the last, and is not empty.
    obtain ⟨r, others, rfl⟩ := List.exists_cons_of_ne_nil nonempty
    obtain ⟨encoded, rest, representable, -, rfl⟩ := GSM7.marshalRunes_cons_eq_ok.mp marshalled
    have filled : (encoded ++ rest).length > 0 := by
      have := (encodeGSM7Rune_length representable).1
      simp
      omega
    simp only [splitGSM7Runes, filled, if_true, Go.pure_eq, Except.ok.injEq] at split
    subst split
    refine ⟨[r :: others], by simp, ⟨by simp, ?_⟩, .cons marshalled .nil⟩
    rwa [total_septetCount marshalled]
  | cons r rs ih =>
    rw [splitGSM7Runes] at split
    cases representable : encodeGSM7Rune r with
    | none => simp [representable] at split
    | some encoded =>
      rw [representable] at split
      dsimp only at split
      have size := encodeGSM7Rune_length representable
      have single : GSM7.marshalRunes [r] = .ok encoded := by
        simp [GSM7.marshalRunes, representable]
      split_ifs at split with past
      · -- The rune opens the next chunk, which this chunk has no room for.
        obtain ⟨later, rest, closed⟩ := Go.bind_eq_ok.mp split
        simp only [Go.pure_eq, Except.ok.injEq] at closed
        subst closed
        obtain ⟨groups, whole, greedy, each⟩ := ih (by simp) single (by omega) rest
        refine ⟨opened :: groups, by simp [whole], ?_, .cons marshalled each⟩
        refine IsGreedy.cons nonempty (by rwa [total_septetCount marshalled]) greedy ?_
        rw [whole, total_septetCount marshalled]
        simpa [septetCount, representable] using past
      · -- The rune joins the open chunk.
        have joined := ih (by simp) (marshalRunes_append marshalled single)
          (by simp only [List.length_append]; omega) split
        simpa using joined

/-- Text of the default alphabet is divided greedily by septets. -/
theorem splitGSM7_splits {text : GoString} {chunks : List Bytes}
    (split : splitGSM7 text smsGSM7PartSeptets = .ok chunks) :
    Splits septetCount smsGSM7PartSeptets (fun group chunk => GSM7.marshalRunes group = .ok chunk)
      (Utf8.runes text) chunks := by
  unfold splitGSM7 at split
  cases runes : Utf8.runes text with
  | nil =>
    simp only [runes, splitGSM7Runes, List.length_nil, gt_iff_lt, Nat.lt_irrefl, if_false,
      Go.pure_eq, Except.ok.injEq] at split
    subst split
    exact ⟨[], rfl, trivial, .nil⟩
  | cons r rs =>
    rw [runes, splitGSM7Runes] at split
    -- The first rune opens the first chunk, which has room for it.
    cases representable : encodeGSM7Rune r with
    | none => simp [representable] at split
    | some encoded =>
      have size := encodeGSM7Rune_length representable
      have single : GSM7.marshalRunes [r] = .ok encoded := by
        simp [GSM7.marshalRunes, representable]
      have fits : ¬ ([] : Bytes).length + encoded.length > smsGSM7PartSeptets := by
        simp [smsGSM7PartSeptets]
        omega
      rw [representable] at split
      simp only [fits, if_false, List.nil_append] at split
      have within : encoded.length ≤ smsGSM7PartSeptets := by
        simp [smsGSM7PartSeptets]
        omega
      exact splitGSM7Runes_open (by decide) (by simp) single within split

/-- A text of few septets divides into its characters. -/
theorem divides_septets {rs : List Char} {count : Nat} (representable : ∀ r ∈ rs, (encodeGSM7Rune r).isSome)
    (few : total septetCount rs ≤ count) : Divides septetCount smsGSM7PartSeptets count rs := by
  -- Each character takes one septet or two.
  have counts : ∀ r ∈ rs, 1 ≤ septetCount r ∧ septetCount r ≤ 2 := by
    intro r member
    obtain ⟨code, found⟩ := Option.isSome_iff_exists.mp (representable r member)
    simpa [septetCount, found] using encodeGSM7Rune_length found
  have short := length_le_total fun r member => (counts r member).1
  exact divides_of_length_le (short.trans few) fun r member => (counts r member).2.trans (by decide)

/-! UTF-16. -/

/-- A rune has one code unit or two. -/
theorem unitCount_cases (r : Char) : unitCount r = 1 ∨ unitCount r = 2 := by
  rcases Utf16.encodeRune_cases r with ⟨unit, units, -⟩ | ⟨high, low, units, -⟩
  · exact .inl (by simp [unitCount, units])
  · exact .inr (by simp [unitCount, units])

/-- A text of few code units divides into its characters. -/
theorem divides_units {rs : List Char} {count : Nat} (few : total unitCount rs ≤ count) :
    Divides unitCount smsUTF16PartUnits count rs := by
  have counts (r : Char) : 1 ≤ unitCount r ∧ unitCount r ≤ 2 := by
    rcases unitCount_cases r with one | two <;> omega
  have short := length_le_total fun r (_ : r ∈ rs) => (counts r).1
  exact divides_of_length_le (short.trans few) fun r _ => (counts r).2.trans (by decide)

/-- The encoded runes take as many units as they weigh. -/
@[simp] theorem length_encode (rs : List Char) : (Utf16.encode rs).length = total unitCount rs := by
  induction rs with
  | nil => rfl
  | cons r rs ih =>
    rw [← List.singleton_append, total_append, total_singleton, Utf16.encode_append,
      List.length_append, ih]
    simp [unitCount]

/-- The unit at an index of a stored sequence is read from its two bytes. -/
private theorem uint16_getD_bytes (before after : List UInt16) (unit : UInt16) :
    Utf16.ByteOrder.bigEndian.uint16
        ((Utf16.ByteOrder.bigEndian.bytes (before ++ unit :: after)).getD (2 * before.length) 0)
        ((Utf16.ByteOrder.bigEndian.bytes (before ++ unit :: after)).getD (2 * before.length + 1) 0) =
      unit := by
  obtain ⟨first, second, stored, read⟩ := Utf16.ByteOrder.putUint16_eq .bigEndian unit
  have split : Utf16.ByteOrder.bigEndian.bytes (before ++ unit :: after) =
      Utf16.ByteOrder.bigEndian.bytes before ++
        first :: second :: Utf16.ByteOrder.bigEndian.bytes after := by
    simp [Utf16.ByteOrder.bytes, stored]
  rw [split, ← Utf16.ByteOrder.bytes_length .bigEndian before]
  simpa [List.getD_eq_getElem?_getD] using read

/-- The next chunk holds the longest run of runes that fits a part. -/
private theorem utf16ChunkLength_bytes {group rest : List Char}
    (fits : total unitCount group ≤ smsUTF16PartUnits)
    (full : ∀ r ∈ rest.head?, smsUTF16PartUnits < total unitCount group + unitCount r) :
    utf16ChunkLength (Utf16.ByteOrder.bigEndian.bytes (Utf16.encode (group ++ rest))) =
      2 * total unitCount group := by
  have size : (Utf16.ByteOrder.bigEndian.bytes (Utf16.encode (group ++ rest))).length =
      2 * (total unitCount group + total unitCount rest) := by
    rw [Utf16.ByteOrder.bytes_length, length_encode, total_append]
  unfold smsUTF16PartUnits at fits full
  unfold utf16ChunkLength smsUTF16PartUnits
  rw [size]
  dsimp only
  cases rest with
  -- Nothing follows, and the chunk takes all.
  | nil =>
    have nothing : total unitCount [] = 0 := rfl
    rw [if_neg (by omega)]
    omega
  | cons r rest =>
    have next := full r (by simp)
    have tail : total unitCount (r :: rest) = unitCount r + total unitCount rest := by
      rw [← List.singleton_append, total_append, total_singleton]
    by_cases filled : total unitCount group = 67
    · -- The chunk ends with the group's last rune, whose last unit starts no pair.
      have some : group ≠ [] := by
        rintro rfl
        simp at filled
      obtain ⟨front, last, rfl⟩ := (List.eq_nil_or_concat' group).resolve_left some
      obtain ⟨units, unit, encoded, notHigh⟩ : ∃ units unit,
          Utf16.encodeRune last = units ++ [unit] ∧ Utf16.isHigh unit = false := by
        rcases Utf16.encodeRune_cases last with ⟨unit, units, notHigh, -⟩ | ⟨high, low, units, -, isLow, -⟩
        · exact ⟨[], unit, units, notHigh⟩
        · refine ⟨[high], low, units, ?_⟩
          simp only [Utf16.isLow, Bool.and_eq_true, decide_eq_true_eq] at isLow
          simp only [Utf16.isHigh, Bool.and_eq_false_iff, decide_eq_false_iff_not]
          right
          intro small
          exact absurd (UInt16.le_trans isLow.1 small) (by decide)
      have position : (Utf16.encode front ++ units).length = 66 := by
        have whole : (Utf16.encode (front ++ [last])).length = 67 := by rw [length_encode, filled]
        simp only [Utf16.encode_append, Utf16.encode_cons, Utf16.encode_nil, encoded,
          List.append_nil, List.length_append, List.length_singleton] at whole ⊢
        omega
      -- The unit at the end of the chunk is read.
      have read := uint16_getD_bytes (Utf16.encode front ++ units) (Utf16.encode (r :: rest)) unit
      have split : Utf16.encode (front ++ [last] ++ r :: rest) =
          Utf16.encode front ++ units ++ unit :: Utf16.encode (r :: rest) := by
        simp [encoded]
      rw [position] at read
      have bound : min (2 * (total unitCount (front ++ [last]) + total unitCount (r :: rest))) (67 * 2) =
          134 := by omega
      rw [bound, if_pos (by rcases unitCount_cases r with one | two <;> omega), split, read,
        if_neg (by simp [notHigh])]
      omega
    · -- One unit is left, and the next rune needs two, so the chunk would end inside a pair.
      have two : unitCount r = 2 := by rcases unitCount_cases r with one | two <;> omega
      have short : total unitCount group = 66 := by omega
      obtain ⟨high, low, encoded, isHigh⟩ : ∃ high low,
          Utf16.encodeRune r = [high, low] ∧ Utf16.isHigh high = true := by
        rcases Utf16.encodeRune_cases r with ⟨unit, units, -⟩ | ⟨high, low, units, isHigh, -, -⟩
        · simp [unitCount, units] at two
        · exact ⟨high, low, units, isHigh⟩
      -- The unit at the end of the chunk is the first of the pair.
      have read := uint16_getD_bytes (Utf16.encode group) (low :: Utf16.encode rest) high
      have split : Utf16.encode (group ++ r :: rest) =
          Utf16.encode group ++ high :: low :: Utf16.encode rest := by
        simp [encoded]
      rw [length_encode, short] at read
      have bound : min (2 * (total unitCount group + total unitCount (r :: rest))) (67 * 2) = 134 := by
        omega
      rw [bound, if_pos (by omega), split, read, if_pos isHigh]
      omega

/-- UTF-16 text is divided greedily by code units. -/
theorem splitUTF16_splits (rs : List Char) :
    Splits unitCount smsUTF16PartUnits
      (fun group chunk => chunk = Utf16.ByteOrder.bigEndian.bytes (Utf16.encode group))
      rs (splitUTF16 (Utf16.ByteOrder.bigEndian.bytes (Utf16.encode rs))) := by
  -- The induction is on the number of runes, since every chunk takes one at least.
  induction size : rs.length using Nat.strong_induction_on generalizing rs with
  | _ n ih =>
    by_cases empty : rs = []
    · subst empty
      rw [splitUTF16]
      exact ⟨[], rfl, trivial, .nil⟩
    · obtain ⟨group, rest, rfl, fits, full⟩ := exists_full_prefix unitCount smsUTF16PartUnits rs
      have nonempty : group ≠ [] := by
        -- A part has room for any one rune.
        rintro rfl
        obtain ⟨r, rest, rfl⟩ := List.exists_cons_of_ne_nil (by simpa using empty)
        have := full r (by simp)
        simp only [total_nil, smsUTF16PartUnits] at this
        rcases unitCount_cases r with one | two <;> omega
      have positive := List.length_pos_of_ne_nil nonempty
      obtain ⟨groups, whole, greedy, each⟩ := ih rest.length (by simp at size; omega) rest rfl
      have units : (Utf16.ByteOrder.bigEndian.bytes (Utf16.encode group)).length =
          2 * total unitCount group := by simp
      -- The group takes up units, so the loop has something left to divide.
      have filled : 0 < total unitCount group := by
        obtain ⟨r, others, rfl⟩ := List.exists_cons_of_ne_nil nonempty
        rw [← List.singleton_append, total_append, total_singleton]
        rcases unitCount_cases r with one | two <;> omega
      have present : Utf16.ByteOrder.bigEndian.bytes (Utf16.encode (group ++ rest)) ≠ [] := by
        intro none
        have := congrArg List.length none
        simp only [Utf16.ByteOrder.bytes_length, length_encode, total_append, List.length_nil] at this
        omega
      rw [splitUTF16, if_neg present, utf16ChunkLength_bytes fits full, ← units]
      refine ⟨group :: groups, by simp [whole], ?_, ?_⟩
      · exact IsGreedy.cons nonempty fits greedy (by rwa [whole])
      · simp only [Utf16.encode_append, Utf16.ByteOrder.bytes_append, List.take_left, List.drop_left]
        exact .cons rfl each

/-! Binary data. -/

/-- Octets weigh their number. -/
@[simp] theorem total_octetCount (data : Bytes) : total octetCount data = data.length := by
  induction data with
  | nil => rfl
  | cons octet data ih =>
    rw [← List.singleton_append, total_append, total_singleton, ih, octetCount, List.length_append,
      List.length_singleton]

/-- Binary data is divided greedily by octets. -/
theorem splitBinary_splits (data : Bytes) :
    Splits octetCount smsBinaryPartOctets (fun group chunk => chunk = group) data
      (splitBinary data) := by
  -- Every chunk takes an octet at least.
  induction size : data.length using Nat.strong_induction_on generalizing data with
  | _ n ih =>
    rw [splitBinary]
    split_ifs with empty
    · subst empty
      exact ⟨[], rfl, trivial, .nil⟩
    · have positive := List.length_pos_of_ne_nil empty
      generalize length : min data.length smsBinaryPartOctets = count
      have shorter : (data.drop count).length < n := by
        simp [smsBinaryPartOctets] at length ⊢
        omega
      obtain ⟨groups, whole, greedy, each⟩ := ih _ shorter (data.drop count) rfl
      refine ⟨data.take count :: groups, by simp [whole], ?_, .cons rfl each⟩
      refine IsGreedy.cons ?_ ?_ greedy ?_
      · -- A chunk is not empty.
        intro none
        have := congrArg List.length none
        rw [List.length_take, List.length_nil] at this
        unfold smsBinaryPartOctets at length
        omega
      · -- It is no longer than a part.
        rw [total_octetCount, List.length_take]
        omega
      · -- Something follows only behind a full chunk.
        intro octet first
        rw [whole] at first
        have more : 0 < (data.drop count).length := by
          obtain ⟨rest, remaining⟩ := List.head?_eq_some_iff.mp first
          simp [remaining]
        simp [smsBinaryPartOctets, octetCount] at more length ⊢
        omega

end Wwan.Sms
