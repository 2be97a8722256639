import Wwan.Sim.Reader

/-! A reader reads the file it was asked for, as long as the file it has in mind is the one the card has selected. -/

namespace Wwan.Sim

/-! What the calls owe, and what can go wrong. -/

/-- The SELECT commands that lead to a file. -/
def FileRef.selects (file : FileRef) : List ApduCommand :=
  [if file.aid ≠ [] then .selectName file.aid else .selectID masterFile,
    if file.path.length = 2 then .selectID file.path else .selectPath file.path]

namespace Card

variable {π : Type} (card : Card π)

/-- The file that a reference names, which is where its SELECT commands lead. -/
def named (file : FileRef) : π :=
  let application := if file.aid ≠ [] then card.application file.aid else card.master
  card.moved application (if file.path.length = 2 then .selectID file.path else .selectPath file.path)

/-- The control information of a file, if it can be parsed. -/
def info (place : π) : Except FileError FCI := FCI.unmarshalBinary (card.fci place)

/-- The bytes that READ BINARY gives of a range, in pieces of at most 255 bytes. -/
def range (place : π) (offset length : UInt16) : Bytes :=
  (List.range ((length.toNat + 254) / 255)).flatMap fun i =>
    card.binary place (offset + UInt16.ofNat (255 * i)) (UInt8.ofNat (min 255 (length.toNat - 255 * i)))

/-- Where the card is after some SELECT commands, up to the first that fails, and whether none fails. -/
def follow : π → List ApduCommand → List Turn → π × Bool
  | place, [], _ => (place, true)
  | place, _ :: _, [] => (place, false)
  | place, cmd :: cmds, turn :: turns =>
    if cmd.data.length > maxShortCommandData then (place, false)
    else
      match turn with
      | .done =>
        if (card.info (card.moved place cmd)).isOk then follow (card.moved place cmd) cmds turns
        else (card.moved place cmd, false)
      | .failed _ carriedOut => (if carriedOut then card.moved place cmd else place, false)

end Card

namespace Reader

variable {π : Type} (card : Card π)

/-- The SELECT commands that a call makes, if the card answers them all. -/
def Request.selects (selected : Selection) : Request → List ApduCommand
  | .listApplications => [.selectID masterFile, .selectID efDirFile]
  | .fileAttributes file | .readTransparent file _ _ | .readRecord file _ _ =>
    if file.path = [] || selected.matches file then [] else file.selects
  | .authenticate3G aid _ _ => if aid ≠ [] then [.selectName aid] else []

/-- What a call returns is read from the file of its own request. -/
def OfNamed : Request → Result → Prop
  | .fileAttributes file, .attributes attributes =>
    ∃ info, card.info (card.named file) = .ok info ∧ attributes = attributesOf info
  | .readTransparent file offset length, .data data =>
    ∃ info, card.info (card.named file) = .ok info ∧
      data = card.range (card.named file) offset (if length = 0 then info.fileSize - offset else length)
  | .readRecord file record length, .data data =>
    ∃ info, card.info (card.named file) = .ok info ∧
      data = card.record (card.named file) (UInt8.ofNat record.toNat)
        (UInt8.ofNat (if length = 0 then info.recordSize else length).toNat)
  | _, _ => True

/-- A call that returns has read the file of its own request. -/
def ReadsNamed (w : World π) (e : Event) : Prop :=
  ∀ returned, result card w e = .ok returned → OfNamed card e.request returned

/--
The call moves the card off the file that the reader has in mind, and the reader keeps it in mind.

That is what a list of the applications does, and every call one of whose SELECT commands fails after the card has been
moved.
-/
def Disturbs (w : World π) (e : Event) : Prop :=
  let reached := card.follow w.place (e.request.selects w.selected) e.turns
  w.selected.valid = true ∧ (e.request = .listApplications ∨ reached.2 = false) ∧
    reached.1 ≠ card.named w.selected.file

instance [DecidableEq π] (w : World π) (e : Event) : Decidable (Disturbs card w e) :=
  inferInstanceAs (Decidable (_ ∧ _ ∧ _))

/-- The file that the reader has in mind is the one that the card has selected. -/
def Sound (w : World π) : Prop :=
  w.selected.valid = true →
    w.place = card.named w.selected.file ∧ card.info (card.named w.selected.file) = .ok w.selected.info

variable {card} {w : World π}

/-! One command. -/

/-- A command that is answered was carried out, and one that fails may have been. -/
theorem transmitCommand_ensures (cmd : ApduCommand) :
    (transmitCommand card cmd).Ensures w
      (fun data w' => cmd.data.length ≤ maxShortCommandData ∧ w.turns = .done :: w'.turns ∧
        w' = { w with place := card.moved w.place cmd, turns := w'.turns } ∧ data = card.answer w'.place cmd)
      (fun w' => w'.selected = w.selected ∧ (card.moved w.place cmd = w.place → w'.place = w.place) ∧
        ∀ cmds, card.follow w.place (cmd :: cmds) w.turns = (w'.place, false)) := by
  unfold transmitCommand
  refine Call.ensures_ite (fun tooLong => Call.ensures_throw ⟨rfl, fun _ => rfl, fun cmds => ?_⟩) fun short => ?_
  · -- A command that is too long is not sent.
    cases w.turns with
    | nil => rfl
    | cons turn turns => cases turn <;> rw [Card.follow, if_pos tooLong]
  · refine Call.ensures_get_bind ?_
    -- The first of the remaining turns decides.
    obtain ⟨selected, place, turns⟩ := w
    cases turns with
    -- Without a turn the connection is gone.
    | nil => exact Call.ensures_throw ⟨rfl, fun _ => rfl, fun cmds => rfl⟩
    | cons turn turns =>
      cases turn with
      | done => exact ⟨by omega, rfl, rfl, rfl⟩
      -- A failed command may have been carried out all the same.
      | failed err carriedOut =>
        have stopped (cmds : List ApduCommand) :
            card.follow place (cmd :: cmds) (.failed err carriedOut :: turns) =
              (if carriedOut then card.moved place cmd else place, false) := by
          rw [Card.follow, if_neg short]
        refine ⟨rfl, fun still => ?_, stopped⟩
        cases carriedOut with
        | true => exact still
        | false => rfl

/-- A SELECT that succeeds leads one command further, and one that fails ends the way. -/
theorem decodeFCI_ensures {cmd : ApduCommand} (selects : ∀ place, card.answer place cmd = card.fci place)
    (cmds : List ApduCommand) :
    (decodeFCI card cmd).Ensures w
      (fun info w' => w'.selected = w.selected ∧ w'.place = card.moved w.place cmd ∧ card.info w'.place = .ok info ∧
        card.follow w.place (cmd :: cmds) w.turns = card.follow w'.place cmds w'.turns)
      (fun w' => w'.selected = w.selected ∧ card.follow w.place (cmd :: cmds) w.turns = (w'.place, false)) := by
  unfold decodeFCI
  refine Call.Ensures.bind ((transmitCommand_ensures cmd).mono (fun _ _ => id) fun w' failed => ?_) ?_
  · -- The SELECT is not answered.
    exact ⟨failed.1, failed.2.2 cmds⟩
  · rintro raw w' ⟨short, done, moved, rfl⟩
    have reached : w'.place = card.moved w.place cmd := by rw [moved]
    have kept : w'.selected = w.selected := by rw [moved]
    rw [selects]
    -- The way goes on exactly if the answer can be parsed.
    have next : card.follow w.place (cmd :: cmds) w.turns =
        if (card.info w'.place).isOk then card.follow w'.place cmds w'.turns else (w'.place, false) := by
      rw [done, Card.follow, if_neg (by omega), reached]
    cases parsed : FCI.unmarshalBinary (card.fci w'.place) with
    -- The answer is parsed.
    | ok info =>
      refine Call.ensures_pure ⟨kept, reached, parsed, ?_⟩
      rw [next, Card.info, parsed]
      rfl
    -- The answer cannot be parsed, though the card has selected the file.
    | error err =>
      refine Call.ensures_throw ⟨kept, ?_⟩
      rw [next, Card.info, parsed]
      rfl

/-! Reads. -/

/-- A piece has at most 255 bytes, and no more than there are left. -/
theorem toNat_chunk (length : UInt16) : (min length 0xFF).toNat = min length.toNat 255 := by
  show (if length ≤ 0xFF then length else 0xFF).toNat = _
  split
  · rename_i short
    rw [UInt16.le_iff_toNat_le] at short
    exact (Nat.min_eq_left short).symm
  · rename_i long
    rw [UInt16.le_iff_toNat_le, not_le] at long
    exact (Nat.min_eq_right (Nat.le_of_lt long)).symm

/-- What is left after a piece. -/
theorem toNat_sub_chunk (length : UInt16) : (length - min length 0xFF).toNat = length.toNat - min length.toNat 255 := by
  rw [UInt16.toNat_sub_of_le _ _ (by rw [UInt16.le_iff_toNat_le, toNat_chunk]; omega), toNat_chunk]

/-- No piece is read of an empty range. -/
theorem range_zero (place : π) (offset : UInt16) : card.range place offset 0 = [] := rfl

/-- The first piece of a range is followed by the rest of it. -/
theorem range_of_ne_zero (place : π) (offset : UInt16) {length : UInt16} (some_ : length ≠ 0) :
    card.range place offset length =
      card.binary place offset (UInt8.ofNat (min length 0xFF).toNat) ++
        card.range place (offset + min length 0xFF) (length - min length 0xFF) := by
  have positive : 0 < length.toNat := Nat.pos_of_ne_zero fun zero => some_ (UInt16.toNat_inj.mp zero)
  unfold Card.range
  rw [toNat_sub_chunk, toNat_chunk]
  -- The pieces of the range are one more than those of the rest.
  have count : (length.toNat + 254) / 255 = (length.toNat - min length.toNat 255 + 254) / 255 + 1 := by omega
  rw [count, List.range_succ_eq_map, List.flatMap_cons, List.flatMap_map]
  have first : min 255 (length.toNat - 255 * 0) = min length.toNat 255 := by omega
  rw [first]
  congr 1
  · simp
  · refine List.flatMap_congr fun i inside => ?_
    rw [List.mem_range] at inside
    -- There is a second piece only behind a full one.
    have full : min length 0xFF = 0xFF := UInt16.toNat_inj.mp ((toNat_chunk length).trans (by
      show _ = 255
      omega))
    have shifted : offset + UInt16.ofNat (255 * (i + 1)) = offset + 0xFF + UInt16.ofNat (255 * i) := by
      rw [Nat.mul_succ, UInt16.ofNat_add, UInt16.add_assoc, UInt16.add_comm (UInt16.ofNat (255 * i))]
      rfl
    have less : length.toNat - 255 * (i + 1) = length.toNat - min length.toNat 255 - 255 * i := by omega
    rw [Nat.succ_eq_add_one, full, shifted, less]

/-- The rounds of a read append the bytes of the selected file, and select no other. -/
theorem readBinaryFrom_ensures {fuel : Nat} {offset length : UInt16} (enough : length.toNat ≤ fuel) (data : Bytes) :
    (readBinaryFrom card fuel offset length data).Ensures w
      (fun read w' => w'.selected = w.selected ∧ w'.place = w.place ∧
        read = data ++ card.range w.place offset length)
      (fun w' => w'.selected = w.selected ∧ w'.place = w.place) := by
  -- The induction is on the rounds, each of which leaves less to read.
  induction fuel generalizing offset length data w with
  | zero =>
    have none_ : length = 0 := UInt16.toNat_inj.mp (by simpa using enough)
    exact Call.ensures_pure ⟨rfl, rfl, by rw [none_, range_zero, List.append_nil]⟩
  | succ fuel ih =>
    rw [readBinaryFrom]
    refine Call.ensures_ite (fun none_ => ?_) fun some_ => ?_
    · exact Call.ensures_pure ⟨rfl, rfl, by rw [none_, range_zero, List.append_nil]⟩
    · refine Call.Ensures.bind ((transmitCommand_ensures _).mono (fun _ _ => id) fun w' failed => ?_) ?_
      · -- A round fails, and no other file is selected.
        exact ⟨failed.1, failed.2.1 rfl⟩
      · -- A round reads from the file that is selected.
        rintro raw w' ⟨-, -, moved, rfl⟩
        have at_ : w'.place = w.place := by rw [moved]; rfl
        have kept : w'.selected = w.selected := by rw [moved]
        -- Every round leaves less to read.
        have less : (length - min length 0xFF).toNat ≤ fuel := by
          have positive : 0 < length.toNat := Nat.pos_of_ne_zero fun zero => some_ (UInt16.toNat_inj.mp zero)
          rw [toNat_sub_chunk]
          omega
        refine (ih less (data ++ card.binary w'.place offset _)).mono ?_ ?_
        · rintro read w'' ⟨keptNext, atNext, rfl⟩
          refine ⟨keptNext.trans kept, atNext.trans at_, ?_⟩
          rw [at_, List.append_assoc, ← range_of_ne_zero w.place offset some_]
        · rintro w'' ⟨keptNext, atNext⟩
          exact ⟨keptNext.trans kept, atNext.trans at_⟩

/-- A read gives the bytes of the selected file, and selects no other. -/
theorem readBinaryRaw_ensures (offset length : UInt16) :
    (readBinaryRaw card offset length).Ensures w
      (fun read w' => w'.selected = w.selected ∧ w'.place = w.place ∧ read = card.range w.place offset length)
      (fun w' => w'.selected = w.selected ∧ w'.place = w.place) :=
  readBinaryFrom_ensures le_rfl []

/-- A read of a record gives one of the selected file, and selects no other. -/
theorem readRecordRaw_ensures (record length : UInt16) :
    (readRecordRaw card record length).Ensures w
      (fun read w' => w'.selected = w.selected ∧ w'.place = w.place ∧
        read = card.record w.place (UInt8.ofNat record.toNat) (UInt8.ofNat length.toNat))
      (fun w' => w'.selected = w.selected ∧ w'.place = w.place) := by
  unfold readRecordRaw
  refine Call.ensures_ite (fun _ => Call.ensures_throw ⟨rfl, rfl⟩) fun _ => ?_
  refine Call.ensures_ite (fun _ => Call.ensures_throw ⟨rfl, rfl⟩) fun _ => ?_
  refine (transmitCommand_ensures _).mono ?_ fun w' failed => ⟨failed.1, failed.2.1 rfl⟩
  rintro read w' ⟨-, -, moved, rfl⟩
  have at_ : w'.place = w.place := by rw [moved]; rfl
  exact ⟨by rw [moved], at_, by rw [at_]; rfl⟩

/-- The rounds over the records of the directory select no other file. -/
theorem listRecords_ensures (recordSize : UInt16) (records : List Nat) (apps : List Application) :
    (listRecords card recordSize records apps).Ensures w
      (fun _ w' => w'.selected = w.selected ∧ w'.place = w.place)
      (fun w' => w'.selected = w.selected ∧ w'.place = w.place) := by
  induction records generalizing apps w with
  | nil => exact Call.ensures_pure ⟨rfl, rfl⟩
  | cons recordID rest ih =>
    rw [listRecords]
    refine (readRecordRaw_ensures _ _).bind fun record w' => ?_
    rintro ⟨kept, at_, -⟩
    cases unmarshalEFDirRecord record with
    | error err => exact Call.ensures_throw ⟨kept, at_⟩
    | ok parsed =>
      exact (ih _).mono (fun _ _ next => ⟨next.1.trans kept, next.2.trans at_⟩)
        fun _ next => ⟨next.1.trans kept, next.2.trans at_⟩

/-! Whole calls. -/

/-- A file that the reader selects anew is the one that is asked for, or a SELECT command fails on the way. -/
theorem selectFile_ensures_anew {file : FileRef} (path : file.path ≠ [])
    (unmatched : w.selected.matches file = false) :
    (selectFile card file).Ensures w
      (fun info w' => w'.place = card.named file ∧ card.info (card.named file) = .ok info ∧
        w'.selected = { valid := true, file, info })
      (fun w' => w'.selected = w.selected ∧ card.follow w.place file.selects w.turns = (w'.place, false)) := by
  unfold selectFile FileRef.selects Card.named
  rw [if_neg path]
  refine Call.ensures_get_bind ?_
  rw [if_neg (by simp [unmatched])]
  -- The first SELECT leads to the application, or to the master file.
  have first : ∃ cmd, selectRoot card file = decodeFCI card cmd ∧
      (if file.aid ≠ [] then .selectName file.aid else .selectID masterFile) = cmd ∧
      (∀ place, card.answer place cmd = card.fci place) ∧
      ∀ place, card.moved place cmd = if file.aid ≠ [] then card.application file.aid else card.master := by
    by_cases application : file.aid ≠ []
    · exact ⟨.selectName file.aid, by simp [selectRoot, application, selectName], by simp [application], fun _ => rfl,
        fun _ => by simp [application, Card.moved]⟩
    · exact ⟨.selectID masterFile, by simp [selectRoot, application, selectID], by simp [application], fun _ => rfl,
        fun _ => by simp [application, Card.moved]⟩
  -- The second leads to the file itself, by its identifier or its path.
  have second : ∃ cmd, selectLeaf card file = decodeFCI card cmd ∧
      (if file.path.length = 2 then .selectID file.path else .selectPath file.path) = cmd ∧
      ∀ place, card.answer place cmd = card.fci place := by
    by_cases two : file.path.length = 2
    · exact ⟨.selectID file.path, by simp [selectLeaf, two, selectID], by simp [two], fun _ => rfl⟩
    · exact ⟨.selectPath file.path, by simp [selectLeaf, two, selectPath], by simp [two], fun _ => rfl⟩
  obtain ⟨toApplication, sent, same, answers, leads⟩ := first
  obtain ⟨toFile, sentNext, sameNext, answersNext⟩ := second
  rw [sent, sentNext, same, sameNext]
  refine (decodeFCI_ensures answers [toFile]).bind fun _ w' => ?_
  rintro ⟨kept, at_, -, way⟩
  refine Call.Ensures.bind ((decodeFCI_ensures answersNext []).mono (fun _ _ => id) ?_) ?_
  · -- The second SELECT fails.
    rintro w'' ⟨keptNext, ends⟩
    exact ⟨keptNext.trans kept, way.trans ends⟩
  · -- Both succeed, and the reader remembers the file.
    rintro info w'' ⟨-, atNext, parsed, -⟩
    have reached : w''.place = card.moved (if file.aid ≠ [] then card.application file.aid else card.master) toFile := by
      rw [atNext, at_, leads]
    exact Call.ensures_modify_bind (Call.ensures_pure ⟨reached, reached ▸ parsed, rfl⟩)

/-- A state in which the reader has the same file in mind and the card has the same file selected is as sound. -/
theorem Sound.congr (sound : Sound card w) {w' : World π} (kept : w'.selected = w.selected)
    (at_ : w'.place = w.place) : Sound card w' := by
  unfold Sound at sound ⊢
  rwa [kept, at_]

/-- A SELECT that fails leaves a sound reader unless it disturbs it. -/
theorem Sound.of_follow (sound : Sound card w) {w' : World π} {way : π × Bool} (kept : w'.selected = w.selected)
    (reached : way.1 = w'.place)
    (undisturbed : w.selected.valid = true → way.1 = card.named w.selected.file) : Sound card w' := by
  intro valid
  rw [kept] at valid ⊢
  exact ⟨by rw [← reached, undisturbed valid], (sound valid).2⟩

/-- A matching selection is one of the same file. -/
theorem eq_of_matches {selected : Selection} {file : FileRef} (same : selected.matches file = true) :
    selected.valid = true ∧ selected.file = file := by
  obtain ⟨valid, ⟨aid, path⟩, info⟩ := selected
  obtain ⟨aid', path'⟩ := file
  simp only [Selection.matches, Bool.and_eq_true, beq_iff_eq] at same
  obtain ⟨⟨valid, rfl⟩, rfl⟩ := same
  exact ⟨valid, rfl⟩

/-- The file operations of a sound reader select the file that is asked for, or leave the reader sound. -/
theorem Sound.selectFile (sound : Sound card w) {file : FileRef}
    (undisturbed : file.path ≠ [] → w.selected.matches file = false → w.selected.valid = true →
      (card.follow w.place file.selects w.turns).2 = false →
      (card.follow w.place file.selects w.turns).1 = card.named w.selected.file) :
    (selectFile card file).Ensures w
      (fun info w' => Sound card w' ∧ w'.place = card.named file ∧ card.info (card.named file) = .ok info)
      (Sound card) := by
  by_cases path : file.path = []
  · -- Without a path nothing is asked of the card.
    rw [Reader.selectFile, if_pos path]
    exact Call.ensures_throw sound
  · cases matched : w.selected.matches file with
    | true =>
      -- Without a SELECT, the card has the right file selected because the reader is sound.
      obtain ⟨valid, rfl⟩ := eq_of_matches matched
      rw [Reader.selectFile, if_neg path]
      refine Call.ensures_get_bind ?_
      rw [if_pos matched]
      exact Call.ensures_pure ⟨sound, sound valid⟩
    | false =>
      refine (selectFile_ensures_anew path matched).mono ?_ ?_
      · -- The file is selected anew, and remembered.
        rintro info w' ⟨at_, parsed, selected⟩
        refine ⟨fun _ => ?_, at_, parsed⟩
        rw [selected]
        exact ⟨at_, parsed⟩
      · -- A SELECT fails on the way, and the reader remembers what was selected before.
        rintro w' ⟨kept, way⟩
        refine sound.of_follow kept (congrArg Prod.fst way) fun valid => ?_
        exact undisturbed path matched valid (congrArg Prod.snd way)

/-- A call that does not disturb a sound reader leaves it sound and has read the file of its own request. -/
theorem Sound.perform (sound : Sound card w) {request : Request} (calm : ¬ Disturbs card w { request, turns := w.turns }) :
    (perform card request).Ensures w
      (fun returned w' => Sound card w' ∧ OfNamed card request returned) (Sound card) := by
  -- What is asked of the file operations follows from the request not disturbing the reader.
  have calmFile (file : FileRef)
      (same : request.selects w.selected = if file.path = [] || w.selected.matches file then [] else file.selects)
      (path : file.path ≠ []) (unmatched : w.selected.matches file = false) (valid : w.selected.valid = true)
      (stopped : (card.follow w.place file.selects w.turns).2 = false) :
      (card.follow w.place file.selects w.turns).1 = card.named w.selected.file := by
    by_contra elsewhere
    rw [if_neg (by simp [path, unmatched])] at same
    refine calm ⟨valid, .inr ?_, ?_⟩
    · simpa only [same] using stopped
    · simpa only [same] using elsewhere
  cases request with
  | listApplications =>
    -- The SELECTs of `listApplications` may move the card away from the file in mind.
    have calmList (valid : w.selected.valid = true) :
        (card.follow w.place [.selectID masterFile, .selectID efDirFile] w.turns).1 = card.named w.selected.file := by
      by_contra elsewhere
      exact calm ⟨valid, .inl rfl, elsewhere⟩
    refine Call.Ensures.map ?_
    refine Call.Ensures.bind ((decodeFCI_ensures (fun _ => rfl) [.selectID efDirFile]).mono (fun _ _ => id) ?_) ?_
    · -- The first of them fails.
      rintro w' ⟨kept, way⟩
      exact sound.of_follow kept (congrArg Prod.fst way) calmList
    · rintro - w' ⟨kept, -, -, way⟩
      refine Call.Ensures.bind ((decodeFCI_ensures (fun _ => rfl) []).mono (fun _ _ => id) ?_) ?_
      · -- The second fails.
        rintro w'' ⟨keptNext, ends⟩
        exact sound.of_follow (keptNext.trans kept) (congrArg Prod.fst (way.trans ends)) calmList
      · -- Both succeed, and reading records moves nothing.
        rintro info w'' ⟨keptNext, -, -, ends⟩
        have sound'' : Sound card w'' :=
          sound.of_follow (keptNext.trans kept) (congrArg Prod.fst (way.trans ends)) calmList
        refine Call.ensures_ite (fun _ => Call.ensures_throw sound'') fun _ => ?_
        exact (listRecords_ensures _ _ _).mono (fun _ _ read => ⟨sound''.congr read.1 read.2, trivial⟩)
          fun _ read => sound''.congr read.1 read.2
  | fileAttributes file =>
    -- The attributes are those of the file asked for.
    refine Call.Ensures.map ((sound.selectFile (calmFile file rfl)).bind fun info w' => ?_)
    rintro ⟨sound', -, parsed⟩
    exact Call.ensures_pure ⟨sound', info, parsed, rfl⟩
  | readTransparent file offset length =>
    refine Call.Ensures.map ((sound.selectFile (calmFile file rfl)).bind fun info w' => ?_)
    rintro ⟨sound', at_, parsed⟩
    -- The bytes read are those of the file asked for.
    have reads (count : UInt16) (same : (if length = 0 then info.fileSize - offset else length) = count) :
        (readBinaryRaw card offset count).Ensures w'
          (fun data w'' => Sound card w'' ∧ OfNamed card (.readTransparent file offset length) (.data data))
          (Sound card) := by
      refine (readBinaryRaw_ensures offset count).mono ?_ fun _ read => sound'.congr read.1 read.2
      rintro data w'' ⟨kept, still, rfl⟩
      exact ⟨sound'.congr kept still, info, parsed, by rw [at_, same]⟩
    refine Call.ensures_ite (fun _ => Call.ensures_throw sound') fun _ => ?_
    refine Call.ensures_ite (fun rest => ?_) fun given => reads length (if_neg given)
    exact Call.ensures_ite (fun _ => Call.ensures_throw sound') fun _ => reads _ (if_pos rest)
  | readRecord file record length =>
    refine Call.Ensures.map ((sound.selectFile (calmFile file rfl)).bind fun info w' => ?_)
    rintro ⟨sound', at_, parsed⟩
    -- The record is one of the file asked for.
    refine Call.ensures_ite (fun _ => Call.ensures_throw sound') fun _ => ?_
    refine (readRecordRaw_ensures _ _).mono ?_ fun _ read => sound'.congr read.1 read.2
    rintro data w'' ⟨kept, still, rfl⟩
    exact ⟨sound'.congr kept still, info, parsed, by rw [at_]⟩
  | authenticate3G aid rand autn =>
    refine Call.Ensures.map ?_
    -- The command itself selects nothing.
    have authenticates {w' : World π} (sound' : Sound card w') :
        (transmitCommand card (.authenticate3G rand autn)).Ensures w'
          (fun data w'' => Sound card w'' ∧ OfNamed card (.authenticate3G aid rand autn) (.data data)) (Sound card) := by
      refine (transmitCommand_ensures _).mono ?_ fun _ failed => sound'.congr failed.1 (failed.2.1 rfl)
      rintro data w'' ⟨-, -, moved, -⟩
      exact ⟨sound'.congr (by rw [moved]) (by rw [moved]; rfl), trivial⟩
    unfold authenticate3G
    refine Call.ensures_ite (fun application => ?_) fun _ => authenticates sound
    refine Call.Ensures.bind ((decodeFCI_ensures (fun _ => rfl) []).mono (fun _ _ => id) ?_) ?_
    · -- The SELECT of the application fails.
      rintro w' ⟨kept, way⟩
      have same : Request.selects w.selected (.authenticate3G aid rand autn) = [.selectName aid] := if_pos application
      refine sound.of_follow kept (congrArg Prod.fst way) fun valid => ?_
      by_contra elsewhere
      refine calm ⟨valid, .inr ?_, ?_⟩
      · simpa only [same] using congrArg Prod.snd way
      · simpa only [same] using elsewhere
    · rintro - w' -
      -- A reader that has nothing in mind is sound.
      exact Call.ensures_modify_bind (authenticates (by simp [Sound]))

/-! All runs. -/

/-- A reader that no call has disturbed is sound. -/
theorem reader_sound {start : π} {trace : List (World π × Event)} (run : (reader card start).Runs trace w)
    (calm : ∀ step ∈ trace, ¬ Disturbs card step.1 step.2) : Sound card w := by
  refine Machine.Runs.invariantUnless (by simp [Sound, reader]) ?_ run calm
  intro w e w' sound undisturbed accepted
  rw [← Option.some.inj accepted]
  -- The turns of the card are no matter of soundness.
  have started : Sound card { w with turns := e.turns } := sound
  exact ((started.perform undisturbed).mono (fun _ _ => And.left) fun _ => id).after

/-- As long as no call disturbs the reader, each call reads the file of its own request. -/
theorem reader_readsNamed {start : π} {trace : List (World π × Event)} (run : (reader card start).Runs trace w)
    (calm : ∀ step ∈ trace, ¬ Disturbs card step.1 step.2) : ∀ step ∈ trace, ReadsNamed card step.1 step.2 := by
  rintro ⟨w, e⟩ member returned ran
  obtain ⟨before, after, rfl⟩ := List.append_of_mem member
  have sound := reader_sound run.accepted.1 fun step earlier => calm step (List.mem_append_left _ earlier)
  have started : Sound card { w with turns := e.turns } := sound
  exact ((started.perform (calm (w, e) member)).of_outcome ran).2

/-- A card with an application, whose directory and other file have one record each. -/
def exampleCard : Card Nat where
  master := 0
  application := fun _ => 1
  child := fun _ id => if id = efDirFile then 2 else 3
  at_ := fun _ _ => 3
  fci := fun place =>
    if place < 2 then [0x62, 0x04, 0x82, 0x02, 0x78, 0x21]
    else [0x62, 0x07, 0x82, 0x05, 0x42, 0x21, 0x00, 0x01, 0x01]
  binary := fun _ _ _ => []
  record := fun place _ _ => if place = 2 then [0xFF] else [0x2A]
  authenticate := fun _ _ => [0xDC, 0x00]

/-- A file of the application. -/
def exampleFile : FileRef := { aid := [0xA0], path := [0x6F, 0x42] }

/-- A file is read again after a SELECT was lost that the card did not carry out. -/
def calmEvents : List Event :=
  [{ request := .readRecord exampleFile 1 0, turns := [.done, .done, .done] },
    { request := .fileAttributes { path := efDirFile }, turns := [.failed .transmitter false] },
    { request := .readRecord exampleFile 1 0, turns := [.done] },
    { request := .authenticate3G [0xA0] [] [], turns := [.done, .done] },
    { request := .readRecord exampleFile 1 0, turns := [.done, .done, .done] }]

/-- All three reads give the record of the file. -/
theorem calmEvents_readNamed : ∃ trace w, (reader exampleCard 0).Runs trace w ∧
    trace.map (fun step => result exampleCard step.1 step.2) =
      [.ok (.data [0x2A]), .error (.transmit .transmitter), .ok (.data [0x2A]), .ok (.data [0xDC, 0x00]),
        .ok (.data [0x2A])] ∧
    ∀ step ∈ trace, ReadsNamed exampleCard step.1 step.2 := by
  have glance : ((reader exampleCard 0).runFrom (reader exampleCard 0).init calmEvents).map
      (fun run => (run.1.map fun step => result exampleCard step.1 step.2,
        decide (∀ step ∈ run.1, ¬ Disturbs exampleCard step.1 step.2))) =
      some ([.ok (.data [0x2A]), .error (.transmit .transmitter), .ok (.data [0x2A]), .ok (.data [0xDC, 0x00]),
        .ok (.data [0x2A])], true) := by decide +kernel
  obtain ⟨trace, w, run, -, seen⟩ := Machine.exists_runs glance
  simp only [Prod.mk.injEq, decide_eq_true_eq] at seen
  exact ⟨trace, w, run, seen.1, reader_readsNamed run seen.2⟩

/-- A file is read again after the applications were listed. -/
def disturbingEvents : List Event :=
  [{ request := .readRecord exampleFile 1 0, turns := [.done, .done, .done] },
    { request := .listApplications, turns := [.done, .done, .done] },
    { request := .readRecord exampleFile 1 0, turns := [.done] }]

/-- The second read gives the record of the directory. -/
theorem disturbingEvents_not_readNamed : ¬ ∀ trace w, (reader exampleCard 0).Runs trace w →
    ∀ step ∈ trace, ReadsNamed exampleCard step.1 step.2 := by
  intro all
  have glance : ((reader exampleCard 0).runFrom (reader exampleCard 0).init disturbingEvents).map
      (fun run => run.1[2]?.map fun step => (step.2.request, result exampleCard step.1 step.2)) =
      some (some (.readRecord exampleFile 1 0, .ok (.data [0xFF]))) := by decide +kernel
  obtain ⟨trace, w, run, -, seen⟩ := Machine.exists_runs glance
  obtain ⟨⟨s, e⟩, last, outcome⟩ := Option.map_eq_some_iff.mp seen
  simp only [Prod.mk.injEq] at outcome
  -- What it returned would have to be a record of the other file.
  have owed := all trace w run (s, e) (List.mem_of_getElem? last) _ outcome.2
  rw [outcome.1] at owed
  obtain ⟨info, -, wrong⟩ := owed
  have other : ([0xFF] : Bytes) ≠ [0x2A] := by decide
  exact other wrong

end Reader

end Wwan.Sim
