import Wwan.Lib.Go

/-! Values that follow one another in a byte string without a count. -/

namespace Wwan.Sequence

variable {ε α : Type}

/-- The loop that appends the encodings of values, each encoded with the values before it in view. -/
def write (marshal : List α → α → Go ε Bytes) : List α → List α → Go ε Bytes
  | _, [] => .ok []
  | before, x :: rest => do
    let encoded ← marshal before x
    let data ← write marshal (before ++ [x]) rest
    return encoded ++ data

/-- The loop `for len(data) > 0`, which takes values off the front with the values before them in view. -/
def read (unmarshal : List α → Bytes → Go ε (α × Nat)) : Nat → List α → Bytes → Go ε (List α)
  | _, values, [] => .ok values
  -- A loop that outlives one iteration per byte would make no progress, which counts as a panic.
  | 0, _, _ :: _ => .error .outOfRange
  | rounds + 1, values, first :: rest => do
    let item ← unmarshal values (first :: rest)
    let data ← Go.slice (first :: rest) item.2 (first :: rest).length
    read unmarshal rounds (values ++ [item.1]) data

/-- All values of a byte string. -/
def readAll (unmarshal : List α → Bytes → Go ε (α × Nat)) (data : Bytes) : Go ε (List α) :=
  read unmarshal data.length [] data

/-- The decoder of one value undoes its encoder for valid values in front of whatever may follow, up to a normal form. -/
structure Inverts (marshal : List α → α → Go ε Bytes) (unmarshal : List α → Bytes → Go ε (α × Nat))
    (normal : α → α) (Valid : α → Prop) (Follows : Bytes → Prop) : Prop where
  /-- An encoding has a byte at least. -/
  nonempty : ∀ before x encoded, marshal before x = .ok encoded → encoded ≠ []
  /-- The encoding of a valid value is read back with its length. -/
  roundTrip : ∀ before x encoded rest, Valid x → marshal before x = .ok encoded → Follows rest →
    unmarshal (before.map normal) (encoded ++ rest) = .ok (normal x, encoded.length)
  /-- Another encoding may follow. -/
  next : ∀ before x encoded rest, marshal before x = .ok encoded → Follows (encoded ++ rest)

/-- The decoder of one value does not panic and accepts only what its encoder writes. -/
def Canonical (marshal : List α → α → Go ε Bytes) (unmarshal : List α → Bytes → Go ε (α × Nat)) : Prop :=
  ∀ values data, data ≠ [] → (unmarshal values data).Ensures fun result =>
    0 < result.2 ∧ result.2 ≤ data.length ∧ marshal values result.1 = .ok (data.take result.2)

section

variable {marshal : List α → α → Go ε Bytes} {unmarshal : List α → Bytes → Go ε (α × Nat)} {normal : α → α}
  {Valid : α → Prop} {Follows : Bytes → Prop}

/-- A sequence of values that have encodings has one. -/
theorem exists_write {before xs : List α} (each : ∀ before, ∀ x ∈ xs, ∃ encoded, marshal before x = .ok encoded) :
    ∃ data, write marshal before xs = .ok data := by
  induction xs generalizing before with
  | nil => exact ⟨[], rfl⟩
  | cons x xs ih =>
    -- The encoder may look at what was written before, so that is kept general.
    obtain ⟨encoded, first⟩ := each before x (by simp)
    have others : ∀ before, ∀ y ∈ xs, ∃ encoded, marshal before y = .ok encoded :=
      fun before y member => each before y (by simp [member])
    obtain ⟨data, rest⟩ := ih others
    exact ⟨encoded ++ data, by rw [write, first, Go.ok_bind, rest, Go.ok_bind, Go.pure_eq]⟩

/-- Every value of an encoded sequence has an encoding. -/
theorem forall_of_write {before xs : List α} {data : Bytes} (written : write marshal before xs = .ok data) :
    ∀ x ∈ xs, ∃ before encoded, marshal before x = .ok encoded := by
  induction xs generalizing before data with
  | nil => simp
  | cons x xs ih =>
    -- The sequence is written one value at a time.
    obtain ⟨encoded, first, written⟩ := Go.bind_eq_ok.mp written
    obtain ⟨others, rest, -⟩ := Go.bind_eq_ok.mp written
    intro y member
    rcases List.mem_cons.mp member with rfl | later
    · exact ⟨before, encoded, first⟩
    · exact ih rest y later

/-- An encoder that refuses keys it has seen encodes sequences of different keys only. -/
theorem nodup_of_write {κ : Type} {key : α → κ} (fresh : ∀ before x encoded, marshal before x = .ok encoded →
    key x ∉ before.map key) {before xs : List α} {data : Bytes} (written : write marshal before xs = .ok data)
    (different : (before.map key).Nodup) : ((before ++ xs).map key).Nodup := by
  induction xs generalizing before data with
  | nil => rwa [List.append_nil]
  | cons x xs ih =>
    obtain ⟨encoded, first, written⟩ := Go.bind_eq_ok.mp written
    obtain ⟨others, rest, -⟩ := Go.bind_eq_ok.mp written
    -- The first key is new, so that the keys so far are different.
    have extended : ((before ++ [x]).map key).Nodup := by
      rw [List.map_append, List.map_singleton, List.nodup_append]
      refine ⟨different, by simp, ?_⟩
      intro k old k' new same
      rw [List.mem_singleton] at new
      subst new same
      exact fresh before x encoded first old
    have done := ih rest extended
    rwa [List.append_assoc, List.singleton_append] at done

/-- A sequence with a value takes a byte at least. -/
theorem Inverts.write_ne_nil (law : Inverts marshal unmarshal normal Valid Follows) {before xs : List α} {data : Bytes}
    (some : xs ≠ []) (written : write marshal before xs = .ok data) : data ≠ [] := by
  obtain ⟨x, rest, rfl⟩ := List.exists_cons_of_ne_nil some
  obtain ⟨encoded, first, written⟩ := Go.bind_eq_ok.mp written
  obtain ⟨others, -, written⟩ := Go.bind_eq_ok.mp written
  cases written
  have filled := law.nonempty before x encoded first
  simp [filled]

/-- A limit on how many values there may be is a limit on the length of the sequence. -/
theorem write_limited {limit : Nat} {error : ε} {before xs : List α} {data : Bytes} (below : before.length ≤ limit) :
    write (fun before x => do Go.failIf (before.length = limit) error; marshal before x) before xs = .ok data ↔
      write marshal before xs = .ok data ∧ before.length + xs.length ≤ limit := by
  induction xs generalizing before data with
  | nil => simp [write, below]
  | cons x xs ih =>
    simp only [write, Go.bind_eq_ok, Go.failIf_eq_ok, Go.pure_eq, Except.ok.injEq, List.length_cons]
    constructor
    · -- Each value leaves room for those behind it.
      rintro ⟨encoded, ⟨-, room, first⟩, others, rest, whole⟩
      have fits : (before ++ [x]).length ≤ limit := by
        rw [List.length_append, List.length_singleton]
        omega
      obtain ⟨rest, bound⟩ := (ih fits).mp rest
      rw [List.length_append, List.length_singleton] at bound
      exact ⟨⟨encoded, first, others, rest, whole⟩, by omega⟩
    · -- The bound on the whole bounds every step.
      rintro ⟨⟨encoded, first, others, rest, whole⟩, bound⟩
      have fits : (before ++ [x]).length ≤ limit := by
        rw [List.length_append, List.length_singleton]
        omega
      refine ⟨encoded, ⟨(), by omega, first⟩, others, (ih fits).mpr ⟨rest, ?_⟩, whole⟩
      rw [List.length_append, List.length_singleton]
      omega

/-- What follows an encoded sequence, or the sequence itself, may follow. -/
private theorem Inverts.follows (law : Inverts marshal unmarshal normal Valid Follows) {before xs : List α} {data rest : Bytes}
    (written : write marshal before xs = .ok data) (follows : Follows rest) : Follows (data ++ rest) := by
  cases xs with
  | nil =>
    cases written
    exact follows
  | cons x xs =>
    obtain ⟨encoded, first, written⟩ := Go.bind_eq_ok.mp written
    obtain ⟨others, -, written⟩ := Go.bind_eq_ok.mp written
    cases written
    rw [List.append_assoc]
    exact law.next before x encoded _ first

/-- Reading comes past an encoded sequence to what follows it. -/
theorem Inverts.read_append (law : Inverts marshal unmarshal normal Valid Follows) {before xs : List α} {data rest : Bytes}
    (valid : ∀ x ∈ xs, Valid x) (written : write marshal before xs = .ok data) (follows : Follows rest) {rounds : Nat}
    (enough : (data ++ rest).length ≤ rounds) : ∃ left, rest.length ≤ left ∧
      read unmarshal rounds (before.map normal) (data ++ rest) = read unmarshal left ((before ++ xs).map normal) rest := by
  -- The values before grow while the list shrinks, so both stay quantified over.
  induction xs generalizing before data rounds with
  | nil =>
    cases written
    exact ⟨rounds, by simpa using enough, by simp⟩
  | cons x xs ih =>
    obtain ⟨encoded, first, written⟩ := Go.bind_eq_ok.mp written
    obtain ⟨others, remaining, written⟩ := Go.bind_eq_ok.mp written
    cases written
    -- The first encoding has a byte, so one round is spent on at least one byte.
    obtain ⟨byte, encoded', split⟩ := List.exists_cons_of_ne_nil (law.nonempty before x encoded first)
    have sizes : (encoded ++ others ++ rest).length = encoded'.length + 1 + others.length + rest.length := by
      simp only [split, List.length_append, List.length_cons]
    obtain ⟨rounds, rfl⟩ : ∃ fewer, rounds = fewer + 1 := ⟨rounds - 1, by omega⟩
    have fewer : (others ++ rest).length ≤ rounds := by
      rw [List.length_append]
      omega
    obtain ⟨left, fits, continued⟩ := ih (fun y member => valid y (by simp [member])) remaining fewer
    refine ⟨left, fits, ?_⟩
    -- One round reads the first value and leaves the encoding of the others.
    have round := law.roundTrip before x encoded (others ++ rest) (valid x (by simp)) first (law.follows remaining follows)
    have cut : (Go.slice (encoded ++ (others ++ rest)) encoded.length (encoded ++ (others ++ rest)).length : Go ε Bytes) =
        .ok (others ++ rest) := by
      rw [Go.slice_from (by simp), List.drop_left]
    rw [List.append_assoc]
    rw [split, List.cons_append] at round cut ⊢
    rw [read, round, Go.ok_bind]
    simp only [List.map_append, List.map_cons, List.map_nil, List.append_assoc, List.cons_append, List.nil_append] at continued
    rw [cut, Go.ok_bind, continued]
    simp

/-- An encoded sequence is read back. -/
theorem Inverts.readAll_write (law : Inverts marshal unmarshal normal Valid Follows) (last : Follows []) {xs : List α}
    {data : Bytes} (valid : ∀ x ∈ xs, Valid x) (written : write marshal [] xs = .ok data) :
    readAll unmarshal data = .ok (xs.map normal) := by
  have enough : (data ++ []).length ≤ data.length := by simp
  obtain ⟨left, -, same⟩ := law.read_append valid written last enough
  rw [List.append_nil, List.map_nil] at same
  rw [readAll, same, read]
  rfl

/-- Every value of a sequence that is read was read from the front of something. -/
theorem forall_of_read {rounds : Nat} {values result : List α} {data : Bytes}
    (done : read unmarshal rounds values data = .ok result) :
    ∀ x ∈ result, x ∈ values ∨ ∃ before data consumed, unmarshal before data = .ok (x, consumed) := by
  induction rounds generalizing values data with
  | zero =>
    cases data with
    | nil =>
      cases done
      exact fun x member => .inl member
    | cons byte rest => cases done
  | succ rounds ih =>
    cases data with
    | nil =>
      cases done
      exact fun x member => .inl member
    | cons byte rest =>
      obtain ⟨item, first, done⟩ := Go.bind_eq_ok.mp done
      obtain ⟨others, -, done⟩ := Go.bind_eq_ok.mp done
      intro x member
      rcases ih done x member with before | later
      · rcases List.mem_append.mp before with old | new
        · exact .inl old
        · rw [List.mem_singleton] at new
          subst new
          exact .inr ⟨values, byte :: rest, item.2, first⟩
      · exact .inr later

/-- Reading does not panic, and what it adds to the values before is encoded as the bytes it has read. -/
theorem Canonical.ensures_read (law : Canonical marshal unmarshal) {rounds : Nat} {values : List α} {data : Bytes}
    (enough : data.length ≤ rounds) : (read unmarshal rounds values data).Ensures fun result =>
      ∃ more, result = values ++ more ∧ write marshal values more = .ok data := by
  -- The induction is on the rounds: each of them takes a byte at least.
  induction rounds generalizing values data with
  | zero =>
    rw [List.length_eq_zero_iff.mp (by omega : data.length = 0)]
    exact Go.ensures_ok ⟨[], by simp, rfl⟩
  | succ rounds ih =>
    cases data with
    | nil => exact Go.ensures_ok ⟨[], by simp, rfl⟩
    | cons byte rest =>
      refine (law values (byte :: rest) (by simp)).bind fun result read => ?_
      obtain ⟨value, consumed⟩ := result
      obtain ⟨progress, inside, encoded⟩ := read
      rw [Go.slice_from inside, Go.ok_bind]
      have shorter : ((byte :: rest).drop consumed).length ≤ rounds := by
        rw [List.length_drop]
        simp only [List.length_cons] at enough ⊢
        simp only at progress
        omega
      refine (ih shorter).mono fun result added => ?_
      obtain ⟨more, rfl, others⟩ := added
      refine ⟨value :: more, by simp, ?_⟩
      rw [write, encoded, Go.ok_bind, others, Go.ok_bind, List.take_append_drop]
      rfl

/-- An accepted byte string is what its values are encoded as. -/
theorem Canonical.ensures_readAll (law : Canonical marshal unmarshal) (data : Bytes) :
    (readAll unmarshal data).Ensures fun values => write marshal [] values = .ok data := by
  refine (law.ensures_read le_rfl).mono fun result added => ?_
  obtain ⟨more, rfl, written⟩ := added
  exact written

/-- A sequence that ends inside an encoding is rejected with an error. -/
theorem readAll_truncated (law : Inverts marshal unmarshal id (fun _ => True) (fun _ => True))
    (canonical : Canonical marshal unmarshal) {xs : List α} {x : α} {data part tail : Bytes}
    (written : write marshal [] xs = .ok data) (cut : marshal xs x = .ok (part ++ tail)) (inside : part ≠ [] ∧ tail ≠ []) :
    ∃ error, readAll unmarshal (data ++ part) = Go.fail error := by
  have enough : (data ++ part).length ≤ (data ++ part).length := le_rfl
  obtain ⟨left, enough, reached⟩ := law.read_append (fun _ _ => trivial) written trivial enough
  rw [List.map_nil, List.nil_append, List.map_id] at reached
  rw [readAll, reached]
  obtain ⟨byte, rest, split⟩ := List.exists_cons_of_ne_nil inside.1
  have accepted := canonical xs part inside.1
  have whole := law.roundTrip xs x _ [] trivial cut trivial
  rw [List.map_id, List.append_nil] at whole
  have some : part.length ≠ 0 := fun empty => inside.1 (List.length_eq_zero_iff.mp empty)
  obtain ⟨fewer, rfl⟩ : ∃ fewer, left = fewer + 1 := ⟨left - 1, by omega⟩
  rw [split, read, ← split]
  cases outcome : unmarshal xs part with
  | error fault =>
    cases fault with
    | err error => exact ⟨error, rfl⟩
    | outOfRange => exact absurd outcome accepted.1
  | ok item =>
    -- What is read off the cut encoding is read off the whole one too, which takes all of its bytes.
    obtain ⟨progress, within, again⟩ := accepted.2 item outcome
    have longer := law.roundTrip xs item.1 _ (part.drop item.2 ++ tail) trivial again trivial
    rw [List.map_id, ← List.append_assoc, List.take_append_drop, whole] at longer
    have lengths := congrArg Prod.snd (Except.ok.inj longer)
    simp only [List.length_append, List.length_take] at lengths
    have dropped : tail.length ≠ 0 := fun empty => inside.2 (List.length_eq_zero_iff.mp empty)
    omega

end

end Wwan.Sequence
