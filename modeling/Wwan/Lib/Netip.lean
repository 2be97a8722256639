import Wwan.Lib.Go

/-! IP addresses as the package `net/netip` has them. -/

namespace Wwan

/-- The type `netip.Addr`. -/
inductive Addr where
  /-- The zero value, which is not an address. -/
  | zero
  /-- An IPv4 address. -/
  | four (a b c d : UInt8)
  /-- An IPv6 address with its zone, which is empty for most. -/
  | six (bytes : Bytes) (size : bytes.length = 16) (zone : GoString)
  deriving DecidableEq

namespace Addr

instance : Inhabited Addr := ⟨.zero⟩

/-- The first twelve bytes of an IPv6 address that wraps an IPv4 address. -/
def mappedPrefix : Bytes := [0, 0, 0, 0, 0, 0, 0, 0, 0, 0, 0xFF, 0xFF]

/-- The method `Unmap`, which takes the IPv4 address out of an IPv6 address that wraps one. -/
def unmap : Addr → Addr
  | .six bytes size zone =>
    if bytes.take 12 = mappedPrefix then
      .four (bytes.getD 12 0) (bytes.getD 13 0) (bytes.getD 14 0) (bytes.getD 15 0)
    else .six bytes size zone
  | address => address

/-- The address has no zone. -/
def Zoneless : Addr → Prop
  | .six _ _ zone => zone = []
  | _ => True

instance : DecidablePred Zoneless := fun address =>
  match address with
  | .zero | .four .. => inferInstanceAs (Decidable True)
  | .six _ _ zone => inferInstanceAs (Decidable (zone = []))

/-- The function `AddrFromSlice`, which takes four or sixteen bytes. -/
def fromSlice (slice : Bytes) : Option Addr :=
  if slice.length = 4 then some (.four (slice.getD 0 0) (slice.getD 1 0) (slice.getD 2 0) (slice.getD 3 0))
  else if size : slice.length = 16 then some (.six slice size [])
  else none

/-- The method `Is4`. -/
def is4 : Addr → Bool
  | .four .. => true
  | .zero | .six .. => false

/-- The method `Is6`, which is true also of an IPv6 address that wraps an IPv4 address. -/
def is6 : Addr → Bool
  | .six .. => true
  | .zero | .four .. => false

/-- The method `BitLen`. -/
def bitLen : Addr → Nat
  | .zero => 0
  | .four .. => 32
  | .six .. => 128

/-- The method `WithZone` with no zone. -/
def withoutZone : Addr → Addr
  | .six bytes size _ => .six bytes size []
  | address => address

end Addr

/-- The type `netip.Prefix`, without a length where it is not valid. -/
structure Prefix where
  ip : Addr
  bits : Option Nat
  deriving DecidableEq

/-- The function `PrefixFrom`. -/
def Prefix.from (ip : Addr) (bits : Nat) : Prefix :=
  { ip := ip.withoutZone, bits := if ip ≠ .zero ∧ bits ≤ ip.bitLen then some bits else none }

end Wwan
