import Mathlib.Data.List.Sort
import Wwan.Lib.Go

/-! The functions on Go strings that names and paths are handled with. -/

namespace Wwan

namespace GoString

/-- The bytes of an ASCII literal. -/
def ascii (text : String) : GoString := text.toList.map fun c => UInt8.ofNat c.toNat

/-- The encodings of the characters that Unicode counts as white space. -/
def spaces : List GoString :=
  [[0x09], [0x0A], [0x0B], [0x0C], [0x0D], [0x20], [0xC2, 0x85], [0xC2, 0xA0], [0xE1, 0x9A, 0x80],
    [0xE2, 0x80, 0xA8], [0xE2, 0x80, 0xA9], [0xE2, 0x80, 0xAF], [0xE2, 0x81, 0x9F], [0xE3, 0x80, 0x80]] ++
    -- The spaces of a certain width are consecutive.
    (List.range 11).map fun i => [0xE2, 0x80, UInt8.ofNat (0x80 + i)]

/-- Cut off what one of the texts matches at the front, at most `fuel` times. -/
def trimFront (texts : List GoString) : Nat → GoString → GoString
  | 0, s => s
  | fuel + 1, s =>
    match texts.find? fun text => text.isPrefixOf s with
    | none => s
    | some text => trimFront texts fuel (s.drop text.length)

/-- `strings.TrimSpace` -/
def trimSpace (s : GoString) : GoString :=
  -- No encoding of a space is the end of another character's, so the end is trimmed as a reversed front.
  let front := trimFront spaces s.length s
  (trimFront (spaces.map List.reverse) front.length front.reverse).reverse

/-- The slash that separates the elements of a path. -/
def slash : UInt8 := 0x2F

/-- `filepath.Base` -/
def base (path : GoString) : GoString :=
  if path = [] then ascii "."
  else
    let stripped := (path.reverse.dropWhile (· = slash)).reverse
    let element := (stripped.reverse.takeWhile (· ≠ slash)).reverse
    -- A path of slashes only is the root.
    if element = [] then [slash] else element

/-- The order of Go strings, byte by byte. -/
def le (one other : GoString) : Bool := decide (one ≤ other)

/-- `slices.Sorted` over strings. -/
def sorted (strings : List GoString) : List GoString := strings.mergeSort le

/-- Sorting only changes the order. -/
theorem sorted_perm (strings : List GoString) : (sorted strings).Perm strings :=
  List.mergeSort_perm strings le

end GoString

end Wwan
