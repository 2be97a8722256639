import Wwan.Proofs.Sms.Decode
import Wwan.Proofs.Sms.Septets
import Wwan.Proofs.Sms.Text

/-! A built submission decodes to its configuration and its share of the content. -/

namespace Wwan.Sms

/-- A header in front of any user data is read as the given update of the part. -/
def HeaderReads (header : Bytes) (setHeader : Part → Go Error Part) : Prop :=
  ∀ p after, optionalHeader (header.length ≠ 0) p (unmarshalUserDataHeader p (header ++ after)) =
    (do return (← setHeader p, header.length))

/-- Without a header the part stays as it is. -/
theorem headerReads_nil : HeaderReads [] fun p => .ok p := by
  intro p after
  rfl

/-- The numbering a concatenation header sets, unless the index check refuses it. -/
def setConcat (ref : UInt8) (count i : Nat) (p : Part) : Go Error Part :=
  if badIndex (UInt8.ofNat count) (UInt8.ofNat (i + 1)) then
    Go.fail (.multipartIndex (UInt8.ofNat (i + 1)) (UInt8.ofNat count))
  else return { p with reference := ref.toUInt16, total := UInt8.ofNat count,
                       index := UInt8.ofNat (i + 1) }

/-- A concatenation header sets its numbering. -/
theorem headerReads_concatHeader (ref : UInt8) (count i : Nat) :
    HeaderReads (concatHeader ref count i) (setConcat ref count i) := by
  intro p after
  have present : decide ((concatHeader ref count i).length ≠ 0) = true := rfl
  rw [present, optionalHeader, if_pos rfl, unmarshalUserDataHeader_concatHeader, setConcat]
  split <;> rfl

/-- The same header counted in septets. -/
private theorem HeaderReads.septets {header : Bytes} {setHeader : Part → Go Error Part}
    (reads : HeaderReads header setHeader) (p : Part) (after : Bytes) :
    optionalHeader (header.length ≠ 0) p (unmarshalGSM7UserDataHeader p (header ++ after)) =
      (do return (← setHeader p, (header.length * 8 + 6) / 7)) := by
  have inner := reads p after
  by_cases empty : header.length = 0
  · have absent : decide (header.length ≠ 0) = false := by simp [empty]
    rw [absent, optionalHeader, if_neg (by simp)] at inner ⊢
    simpa [empty] using inner
  · have present : decide (header.length ≠ 0) = true := by simpa using empty
    rw [present, optionalHeader, if_pos rfl] at inner ⊢
    rw [unmarshalGSM7UserDataHeader, inner]
    cases setHeader p <;> rfl

/-- The content one PDU's data carries in its alphabet. -/
def Carries (data : Bytes) (text : GoString) (payload : Bytes) : Alphabet → Prop
  | .gsm7 => (∀ septet ∈ data, septet ≤ 0x7f) ∧ GSM7.unmarshalBinary data = .ok text ∧ payload = []
  | .binary => text = [] ∧ payload = data
  | .ucs2 => data.length % 2 = 0 ∧ UTF16.unmarshalBinary data = .ok text ∧ payload = []

/-- Header and data are counted by one length octet. -/
def LengthFits (header data : Bytes) : Alphabet → Prop
  | .gsm7 => (header.length * 8 + 6) / 7 + data.length ≤ 255
  | .binary | .ucs2 => header.length + data.length ≤ 255

/-- A part with its content filled in. -/
def withContent (text : GoString) (payload : Bytes) (p : Part) : Part :=
  { p with message := { p.message with text, data := payload } }

/-- The coding scheme of an alphabet. -/
def Alphabet.scheme : Alphabet → UInt8
  | .gsm7 => 0
  | .binary => 0x04
  | .ucs2 => 0x08

/-- The user data of a PDU behind its coding scheme, length octet first. -/
def userData (alphabet : Alphabet) (data header : Bytes) : Go Error Bytes :=
  match alphabet with
  | .gsm7 => do
    let (packed, headerSeptets) ← packSeptets data header
    return UInt8.ofNat (headerSeptets + data.length) :: packed
  | .binary | .ucs2 => return UInt8.ofNat (header ++ data).length :: (header ++ data)

/-- A built submission is its addresses, its coding scheme and its user data. -/
theorem buildSubmitPDU_eq (cfg : MessageConfig) (alphabet : Alphabet) (data header : Bytes) :
    buildSubmitPDU cfg alphabet data header = (do
      let coded ← userData alphabet data header
      return appendAddress (encodeSMSC cfg.smsc ++ [0x01 ||| (if cfg.deliveryReport then 0x20 else 0) |||
        (if decide (header.length ≠ 0) then 0x40 else 0)] ++ [0]) cfg.number ++
          0 :: alphabet.scheme :: coded) := by
  cases alphabet with
  | gsm7 =>
    simp only [buildSubmitPDU, userData, bind_assoc, decide_eq_true_eq]
    congr 1
    funext result
    simp [Alphabet.scheme, List.append_assoc]
  | binary => simp [buildSubmitPDU, userData, Alphabet.scheme, List.append_assoc]
  | ucs2 => simp [buildSubmitPDU, userData, Alphabet.scheme, List.append_assoc]

/-- Packed septets decode to their text behind any header. -/
private theorem unmarshalUserData_gsm7 (p : Part) (before : Bytes) {data header coded : Bytes}
    {setHeader : Part → Go Error Part} (reads : HeaderReads header setHeader) {text : GoString}
    (septetSized : ∀ septet ∈ data, septet ≤ 0x7f) (decoded : GSM7.unmarshalBinary data = .ok text)
    (fits : (header.length * 8 + 6) / 7 + data.length ≤ 255)
    (built : userData .gsm7 data header = .ok coded) :
    unmarshalUserData p (before ++ coded) before.length (header.length ≠ 0) 0 =
      (do
        let q ← setHeader p
        return { q with message := { q.message with text } }) := by
  obtain ⟨packed, wrote, length, isPrefix, bits⟩ := packSeptets_spec data header
  generalize counted : (header.length * 8 + 6) / 7 = headerSeptets at *
  rw [userData, wrote] at built
  simp only [Go.ok_bind, Go.pure_eq, Except.ok.injEq] at built
  subst built
  -- The length octet counts the septets, and they take the packed octets.
  have count : (UInt8.ofNat (headerSeptets + data.length)).toNat = headerSeptets + data.length :=
    UInt8.toNat_ofNat_of_lt' (by simp [UInt8.size]; omega)
  have octets : ((headerSeptets + data.length) * 7 + 7) / 8 = packed.length := by
    rw [length]
    congr 1
    omega
  -- The guards find the whole of the user data.
  have present : ¬ before.length ≥
      (before ++ UInt8.ofNat (headerSeptets + data.length) :: packed).length := by
    simp
  have untruncated : ¬ packed.length >
      (before ++ UInt8.ofNat (headerSeptets + data.length) :: packed).length - (before.length + 1) := by
    simp
    omega
  have window : (Go.slice (before ++ UInt8.ofNat (headerSeptets + data.length) :: packed)
      (before.length + 1) (before.length + 1 + packed.length) : Go Error Bytes) = .ok packed := by
    have := Go.slice_append (ε := Error)
      (before ++ [UInt8.ofNat (headerSeptets + data.length)]) packed []
    simpa using this
  have split : packed = header ++ packed.drop header.length := by
    conv_lhs => rw [← List.take_append_drop header.length packed, isPrefix]
  -- The header is read off the front of the octets.
  have headerRead : optionalHeader (header.length ≠ 0) p (unmarshalGSM7UserDataHeader p packed) =
      (do return (← setHeader p, headerSeptets)) := by
    have := reads.septets p (packed.drop header.length)
    rwa [← split, counted] at this
  -- The septets behind it are the text.
  have unpacked : unpackSeptets packed (headerSeptets * 7) data.length = .ok data :=
    unpackSeptets_spec data packed (headerSeptets * 7) septetSized (by omega) fun n _ => bits n
  have alphabet : alphabetFromDCS 0 = .gsm7 := rfl
  have fitted : ¬ headerSeptets > headerSeptets + data.length := by omega
  rw [unmarshalUserData, if_neg present, Go.index_append, Go.ok_bind, alphabet]
  simp only [count, octets, untruncated, if_false, window, Go.ok_bind, headerRead]
  cases setHeader p with
  | error fault => rfl
  | ok q =>
    simp only [Go.ok_bind, Go.pure_eq, fitted, if_false, Nat.add_sub_cancel_left, unpacked, decoded]

/-- Octets behind any header are decoded as data or as text. -/
private theorem unmarshalUserData_octets (p : Part) (before : Bytes) {alphabet : Alphabet}
    {data header : Bytes} {setHeader : Part → Go Error Part} (reads : HeaderReads header setHeader)
    (octets : alphabet ≠ .gsm7) (fits : header.length + data.length ≤ 255) :
    unmarshalUserData p (before ++ UInt8.ofNat (header ++ data).length :: (header ++ data))
        before.length (header.length ≠ 0) alphabet.scheme =
      (do
        let q ← setHeader p
        if alphabet = .binary then return { q with message := { q.message with data := data } }
        else if data.length % 2 ≠ 0 then
          Go.fail (.text "decoding SMS PDU: UCS-2 user data has odd length")
        else
          let text ← UTF16.unmarshalBinary data
          return { q with message := { q.message with text } }) := by
  -- The length octet counts all octets.
  have count : (UInt8.ofNat (header ++ data).length).toNat = (header ++ data).length :=
    UInt8.toNat_ofNat_of_lt' (by simp [UInt8.size]; omega)
  generalize whole : header ++ data = coded at *
  have present : ¬ before.length ≥ (before ++ UInt8.ofNat coded.length :: coded).length := by simp
  have untruncated : ¬ coded.length >
      (before ++ UInt8.ofNat coded.length :: coded).length - (before.length + 1) := by
    simp
    omega
  have window : (Go.slice (before ++ UInt8.ofNat coded.length :: coded) (before.length + 1)
      (before.length + 1 + coded.length) : Go Error Bytes) = .ok coded := by
    have := Go.slice_append (ε := Error) (before ++ [UInt8.ofNat coded.length]) coded []
    simpa using this
  have headerRead := reads p data
  -- The payload is what follows the header.
  have payload : (Go.slice coded header.length coded.length : Go Error Bytes) = .ok data := by
    have := Go.slice_append (ε := Error) header data []
    simpa [whole, ← List.length_append] using this
  rw [whole] at headerRead
  have decoder : alphabetFromDCS alphabet.scheme = alphabet := by cases alphabet <;> rfl
  rw [unmarshalUserData, if_neg present, Go.index_append, Go.ok_bind, decoder]
  cases alphabet with
  | gsm7 => exact absurd rfl octets
  -- Binary data are taken as they are.
  | binary =>
    simp only [count, untruncated, if_false, window, Go.ok_bind, headerRead]
    cases setHeader p with
    | error fault => rfl
    | ok q => simp only [Go.ok_bind, Go.pure_eq, payload]
  -- Text is decoded.
  | ucs2 =>
    simp only [count, untruncated, if_false, window, Go.ok_bind, headerRead]
    cases setHeader p with
    | error fault => rfl
    | ok q => simp only [Go.ok_bind, Go.pure_eq, payload]

/-- The part a submission decodes to, before its header and content are filled in. -/
def submittedPart (cfg : MessageConfig) (pdu : Bytes) : Part :=
  { message := { smsc := cfg.smsc, number := cfg.number, deliveryReport := cfg.deliveryReport,
                 pdu, pdus := [pdu] } }

/--
A submission whose addresses and user data fit their length octets decodes to its configuration.

Only the numbering check of its header can still refuse it.
-/
theorem unmarshalBinary_buildSubmitPDU {cfg : MessageConfig} (smscDial : DialNumber cfg.smsc)
    (smscShort : digitCount cfg.smsc ≤ 508) (numberDial : DialNumber cfg.number)
    (numberShort : digitCount cfg.number ≤ 255) {alphabet : Alphabet} {data header : Bytes}
    {setHeader : Part → Go Error Part} (reads : HeaderReads header setHeader)
    {text : GoString} {payload : Bytes} (carries : Carries data text payload alphabet)
    (fits : LengthFits header data alphabet)
    (plain : ∀ p q, setHeader p = .ok q → q.message = p.message)
    {pdu : Bytes} (built : buildSubmitPDU cfg alphabet data header = .ok pdu) :
    Part.unmarshalBinary pdu =
      (do return withContent text payload (← setHeader (submittedPart cfg pdu))) := by
  rw [buildSubmitPDU_eq] at built
  obtain ⟨coded, user, assembled⟩ := Go.bind_eq_ok.mp built
  simp only [Go.pure_eq, Except.ok.injEq] at assembled
  generalize headed : decide (header.length ≠ 0) = hasHeader at assembled
  obtain ⟨submit, noValidity, report, announced⟩ := firstOctet_flags cfg.deliveryReport hasHeader
  generalize octet : (0x01 ||| (if cfg.deliveryReport then 0x20 else 0) |||
    (if hasHeader then 0x40 else 0) : UInt8) = first at *
  -- The PDU starts with the service-centre address and the first octet.
  have front : pdu = encodeSMSC cfg.smsc ++ first :: (0 :: UInt8.ofNat (digitCount cfg.number) ::
      typeOfAddress (normalizeNumber cfg.number).2 ::
        (encodeBCDDigits (normalizeNumber cfg.number).1 ++ 0 :: alphabet.scheme :: coded)) := by
    rw [← assembled]
    simp [appendAddress_eq, List.append_assoc]
  have decoded := unmarshalBinary_of_short smscDial smscShort first
    (0 :: UInt8.ofNat (digitCount cfg.number) :: typeOfAddress (normalizeNumber cfg.number).2 ::
      (encodeBCDDigits (normalizeNumber cfg.number).1 ++ 0 :: alphabet.scheme :: coded))
  have notDeliver : ¬ first &&& 0x03 = 0 := by rw [submit]; decide
  have submitted := unmarshalSubmitPDU_of_short (startPart cfg.smsc pdu)
    (encodeSMSC cfg.smsc ++ [first]) numberDial numberShort noValidity alphabet.scheme coded
  rw [assembled] at submitted
  rw [← front, unmarshalTPDU, if_neg notDeliver, if_pos submit] at decoded
  have offset : (encodeSMSC cfg.smsc ++ [first]).length = (encodeSMSC cfg.smsc).length + 1 := by simp
  rw [decoded, ← offset, submitted, announced, ← headed, report]
  -- The user data follows its coding scheme.
  have rear : pdu = (appendAddress (encodeSMSC cfg.smsc ++ [first] ++ [0]) cfg.number ++
      [0, alphabet.scheme]) ++ coded := by
    rw [← assembled]
    simp
  have position : (appendAddress (encodeSMSC cfg.smsc ++ [first] ++ [0]) cfg.number).length + 2 =
      (appendAddress (encodeSMSC cfg.smsc ++ [first] ++ [0]) cfg.number ++
        [0, alphabet.scheme]).length := by simp
  have start : { startPart cfg.smsc pdu with message := { (startPart cfg.smsc pdu).message with
      messageReference := 0, number := cfg.number, deliveryReport := cfg.deliveryReport } } =
        submittedPart cfg pdu := rfl
  have blankText : (submittedPart cfg pdu).message.text = [] := rfl
  have blankData : (submittedPart cfg pdu).message.data = [] := rfl
  rw [position, start]
  generalize appendAddress (encodeSMSC cfg.smsc ++ [first] ++ [0]) cfg.number ++
    [0, alphabet.scheme] = before at rear
  generalize submittedPart cfg pdu = base at *
  rw [rear]
  cases alphabet with
  | gsm7 =>
    obtain ⟨septetSized, textDecoded, rfl⟩ := carries
    have scheme : Alphabet.gsm7.scheme = 0 := rfl
    rw [scheme, unmarshalUserData_gsm7 base before reads septetSized textDecoded fits user]
    cases set : setHeader base with
    | error fault => rfl
    | ok q =>
      have noData : q.message.data = [] := by rw [plain base q set, blankData]
      simp only [Go.ok_bind, withContent, ← noData]
  | binary =>
    obtain ⟨rfl, rfl⟩ := carries
    simp only [userData, Go.pure_eq, Except.ok.injEq] at user
    rw [← user, unmarshalUserData_octets base before reads (by decide) fits]
    cases set : setHeader base with
    | error fault => rfl
    | ok q =>
      have noText : q.message.text = [] := by rw [plain base q set, blankText]
      simp only [Go.ok_bind, withContent, ← noText, if_true]
  | ucs2 =>
    obtain ⟨even, textDecoded, rfl⟩ := carries
    simp only [userData, Go.pure_eq, Except.ok.injEq] at user
    rw [← user, unmarshalUserData_octets base before reads (by decide) fits]
    cases set : setHeader base with
    | error fault => rfl
    | ok q =>
      have noData : q.message.data = [] := by rw [plain base q set, blankData]
      have odd : ¬ data.length % 2 ≠ 0 := by omega
      simp only [Go.ok_bind, withContent, textDecoded, odd, if_false, reduceCtorEq, ← noData]

end Wwan.Sms
