import Wwan.Lib.GoString
import Wwan.Lib.Utf8

/-! The text of AT+CSIM commands and of their answers. -/

namespace Wwan.At

open GoString (ascii trimSpace)

/-! What the standard library does with such texts. -/

/-- The value of a hexadecimal digit. -/
def hexDigit (c : UInt8) : Option Nat :=
  if 0x30 ≤ c ∧ c ≤ 0x39 then some (c.toNat - 0x30)
  else if 0x41 ≤ c ∧ c ≤ 0x46 then some (c.toNat - 0x41 + 10)
  else if 0x61 ≤ c ∧ c ≤ 0x66 then some (c.toNat - 0x61 + 10)
  else none

/-- `hex.DecodeString` -/
def hexDecode : GoString → Option Bytes
  | [] => some []
  | [_] => none
  | high :: low :: rest => do
    let a ← hexDigit high
    let b ← hexDigit low
    return UInt8.ofNat (a * 16 + b) :: (← hexDecode rest)

/-- The digit `strings.ToUpper(hex.EncodeToString(..))` writes. -/
def upperHexDigit (n : Nat) : UInt8 := if n < 10 then UInt8.ofNat (0x30 + n) else UInt8.ofNat (0x41 + (n - 10))

/-- `strings.ToUpper(hex.EncodeToString(..))` -/
def upperHex (data : Bytes) : GoString :=
  data.flatMap fun b => [upperHexDigit (b.toNat / 16), upperHexDigit (b.toNat % 16)]

/-- The number that decimal digits are. -/
def decimal (digits : GoString) : Option Nat :=
  digits.foldlM (fun (value : Nat) (c : UInt8) =>
    if 0x30 ≤ c ∧ c ≤ 0x39 then some (value * 10 + (c.toNat - 0x30)) else none) 0

/-- `strconv.Atoi` -/
def atoi (s : GoString) : Option Int :=
  let (negative, digits) :=
    match s with
    | 0x2B :: rest => (false, rest)
    | 0x2D :: rest => (true, rest)
    | _ => (false, s)
  if digits = [] then none
  else
    match decimal digits with
    | none => none
    | some value =>
      let n : Int := if negative then -value else value
      if -2 ^ 63 ≤ n ∧ n < 2 ^ 63 then some n else none

/-- The number that hexadecimal digits are. -/
def hexNumber (digits : GoString) : Option Nat :=
  digits.foldlM (fun (value : Nat) c => (hexDigit c).map fun d => value * 16 + d) 0

/-- The character of a code point that may stand in a string. -/
def validRune (n : Nat) : Option Char := if n.isValidChar then some (Char.ofNat n) else none

/-- The text behind an opening quote, up to the closing one, which must be the last. -/
def unquoteBody : GoString → Option GoString
  | [] => none
  | 0x22 :: rest => if rest = [] then some [] else none
  | 0x0A :: _ => none
  | 0x5C :: 0x61 :: rest => (unquoteBody rest).map (0x07 :: ·)
  | 0x5C :: 0x62 :: rest => (unquoteBody rest).map (0x08 :: ·)
  | 0x5C :: 0x66 :: rest => (unquoteBody rest).map (0x0C :: ·)
  | 0x5C :: 0x6E :: rest => (unquoteBody rest).map (0x0A :: ·)
  | 0x5C :: 0x72 :: rest => (unquoteBody rest).map (0x0D :: ·)
  | 0x5C :: 0x74 :: rest => (unquoteBody rest).map (0x09 :: ·)
  | 0x5C :: 0x76 :: rest => (unquoteBody rest).map (0x0B :: ·)
  | 0x5C :: 0x5C :: rest => (unquoteBody rest).map (0x5C :: ·)
  | 0x5C :: 0x22 :: rest => (unquoteBody rest).map (0x22 :: ·)
  | 0x5C :: 0x78 :: a :: b :: rest => do
    let value ← hexNumber [a, b]
    return UInt8.ofNat value :: (← unquoteBody rest)
  | 0x5C :: 0x75 :: a :: b :: c :: d :: rest => do
    let r ← validRune (← hexNumber [a, b, c, d])
    return Utf8.encodeRune r ++ (← unquoteBody rest)
  | 0x5C :: 0x55 :: a :: b :: c :: d :: e :: f :: g :: h :: rest => do
    let r ← validRune (← hexNumber [a, b, c, d, e, f, g, h])
    return Utf8.encodeRune r ++ (← unquoteBody rest)
  | 0x5C :: a :: b :: c :: rest =>
    -- Three octal digits are a byte.
    if [a, b, c].all fun c => 0x30 ≤ c ∧ c ≤ 0x37 then
      let value := (a.toNat - 0x30) * 64 + (b.toNat - 0x30) * 8 + (c.toNat - 0x30)
      if value ≤ 255 then (unquoteBody rest).map (UInt8.ofNat value :: ·) else none
    else none
  | 0x5C :: _ => none
  | c :: rest => (unquoteBody rest).map (c :: ·)

/-- `strconv.Unquote`, of a string that starts with a double quote -/
def unquote (s : GoString) : Option GoString :=
  -- Bytes that are no character become the replacement character.
  match Utf8.encodeRunes (Utf8.runes s) with
  | 0x22 :: body => unquoteBody body
  | _ => none

/-- `strings.CutPrefix` -/
def cutPrefix (s start : GoString) : Option GoString :=
  if start.isPrefixOf s then some (s.drop start.length) else none

/-- `strings.SplitSeq(.., "\n")` -/
def splitLines : GoString → List GoString
  | [] => [[]]
  | c :: rest =>
    if c = 0x0A then [] :: splitLines rest
    else
      match splitLines rest with
      | [] => [[c]]
      | line :: lines => (c :: line) :: lines

/-! The codec. -/

/-- The errors of `csimData.UnmarshalText` and of the check behind it, with the arguments their texts format. -/
inductive DataError where
  /-- `invalid CSIM length %q` -/
  | invalidLength (field : GoString)
  /-- `invalid CSIM data: %w`, from `strconv.Unquote` -/
  | invalidQuote
  /-- `CSIM length mismatch: got %d, want %d` -/
  | lengthMismatch (got want : Nat)
  /-- `invalid CSIM data: %w`, from `hex.DecodeString` -/
  | invalidHex
  /-- `missing response status word` -/
  | missingStatusWord
  /-- `unrecognized APDU status word: %X` -/
  | unrecognizedStatusWord (sw : Bytes)
  deriving DecidableEq

/-- The errors of `CSIMResponse.UnmarshalText`. -/
inductive ResponseError where
  /-- The body of a `+CSIM:` line is invalid. -/
  | body (cause : DataError)
  /-- `invalid CSIM response: %w`, with what is wrong with each line -/
  | bare (causes : List (GoString × DataError))
  /-- `invalid CSIM response: %q` -/
  | invalid (raw : GoString)
  deriving DecidableEq

/-- The decimal digits of a number. -/
def digits (n : Nat) : GoString := (Nat.toDigits 10 n).map fun c => UInt8.ofNat c.toNat

/-- `csimData.MarshalText` -/
def marshalData (data : Bytes) : GoString :=
  let hexData := upperHex data
  digits hexData.length ++ [0x2C, 0x22] ++ hexData ++ [0x22]

/-- `CSIMCommand.MarshalText` -/
def marshalCommand (request : Bytes) : GoString := ascii "AT+CSIM=" ++ marshalData request

/-- The data field, without quotes if it has any. -/
def unquoteData (hexData : GoString) : Except DataError GoString :=
  if hexData.head? = some 0x22 then
    match unquote hexData with
    | none => .error .invalidQuote
    | some hexData => .ok hexData
  else .ok hexData

/-- The bytes of a data field, whose length is checked if there was a length field. -/
def decodeData (wantLen : Option Nat) (field : GoString) : Except DataError Bytes :=
  match unquoteData (trimSpace field) with
  | .error err => .error err
  | .ok hexData =>
    let decoded := match hexDecode hexData with
      | none => Except.error DataError.invalidHex
      | some decoded => .ok decoded
    match wantLen with
    | none => decoded
    | some wantLen => if hexData.length ≠ wantLen then .error (.lengthMismatch hexData.length wantLen) else decoded

/-- `csimData.UnmarshalText` -/
def unmarshalData (body : GoString) : Except DataError Bytes :=
  if 0x2C ∈ body then
    -- The text is cut at the first comma.
    let lengthField := trimSpace (body.takeWhile (· ≠ 0x2C))
    match atoi lengthField with
    | none => .error (.invalidLength lengthField)
    | some n =>
      if n < 0 then .error (.invalidLength lengthField)
      else decodeData (some n.toNat) ((body.dropWhile (· ≠ 0x2C)).drop 1)
  else decodeData none body

/-- `hasKnownStatusWord` -/
def hasKnownStatusWord (response : Bytes) : Bool :=
  match response.reverse with
  | _ :: sw1 :: _ => (0x61 ≤ sw1 ∧ sw1 ≤ 0x6F) ∨ (0x90 ≤ sw1 ∧ sw1 ≤ 0x9F)
  | _ => false

/-- `unmarshalBody` -/
def unmarshalBody (body : GoString) (requireKnownStatusWord : Bool) : Except DataError Bytes :=
  match unmarshalData body with
  | .error err => .error err
  | .ok response =>
    if requireKnownStatusWord then
      if response.length < 2 then .error .missingStatusWord
      else if !hasKnownStatusWord response then
        .error (.unrecognizedStatusWord (response.drop (response.length - 2)))
      else .ok response
    else .ok response

/-- The text in front of an answer. -/
def csimPrefix : GoString := ascii "+CSIM:"

/-- The loop of `CSIMResponse.UnmarshalText` over lines without the text in front. -/
def unmarshalBare : List GoString → Except (List (GoString × DataError)) Bytes
  | [] => .error []
  | line :: lines =>
    let line := trimSpace line
    if line = [] ∨ line.head? = some 0x2B then unmarshalBare lines
    else
      match unmarshalBody line true with
      | .ok response => .ok response
      | .error err =>
        match unmarshalBare lines with
        | .ok response => .ok response
        | .error errs => .error ((line, err) :: errs)

/-- `CSIMResponse.UnmarshalText` -/
def unmarshalResponse (text : GoString) : Except ResponseError Bytes :=
  match (splitLines text).findSome? fun line => cutPrefix (trimSpace line) csimPrefix with
  | some body =>
    match unmarshalBody (trimSpace body) false with
    | .ok response => .ok response
    | .error err => .error (.body err)
  | none =>
    match unmarshalBare (splitLines text) with
    | .ok response => .ok response
    | .error [] => .error (.invalid text)
    | .error errs => .error (.bare errs)

end Wwan.At
