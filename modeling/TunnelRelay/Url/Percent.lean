import TunnelRelay.Bytes
import TunnelRelay.Text.Decimal

/-!
# Percent encoding

Each part of a URL has a set of ASCII characters that it does not hold as they are. These, and every
character outside ASCII, stand as a percent sign and two hexadecimal digits for each octet of their
UTF-8. Reading puts the octets back and leaves a percent sign alone that no two digits follow.
-/

namespace TunnelRelay.Url

/-- The characters that one part of a URL does not hold as they are, apart from the control
characters and those outside ASCII, which no part does. -/
structure EncodeSet where
  extra : List Char

namespace EncodeSet

/-- The set of a host that is not looked up. -/
def control : EncodeSet := ⟨[]⟩

/-- The set of a path. -/
def path : EncodeSet := ⟨[' ', '"', '<', '>', '\x60', '#', '?', '\x7b', '\x7d']⟩

/-- The set of a query. -/
def query : EncodeSet := ⟨[' ', '"', '#', '<', '>']⟩

/-- The set of a query under a scheme of the web. -/
def specialQuery : EncodeSet := ⟨'\'' :: query.extra⟩

/-- The characters that stand for themselves. -/
def keeps (s : EncodeSet) (c : Char) : Bool :=
  0x20 ≤ c.toNat && c.toNat < 0x7F && !s.extra.contains c

end EncodeSet

/-- The upper-case hexadecimal digit of a number below 16. -/
def upperHexDigit (n : Nat) : Char := Char.ofNat (if n < 10 then 48 + n else 55 + n)

/-- A percent sign and the two digits of an octet. -/
def percent (x : UInt8) : List Char :=
  ['%', upperHexDigit (x.toNat / 16), upperHexDigit (x.toNat % 16)]

/-- The text with every character outside the part's own set written as octets. -/
def percentEncode (s : EncodeSet) (cs : List Char) : List Char :=
  cs.flatMap fun c => if s.keeps c then [c] else (Bytes.ofText c.toString).flatMap percent

/-- The value of an octet that is a hexadecimal digit. -/
def hexOctet? (x : UInt8) : Option Nat := Text.hexDigit? (Char.ofNat x.toNat)

/-- The octets with every percent sign and two digits replaced by the octet that they spell. -/
def percentDecode : Bytes → Bytes
  | 0x25 :: x :: y :: r =>
    match hexOctet? x, hexOctet? y with
    | some a, some b => UInt8.ofNat (16 * a + b) :: percentDecode r
    | _, _ => 0x25 :: percentDecode (x :: y :: r)
  | x :: r => x :: percentDecode r
  | [] => []
termination_by b => b.length

end TunnelRelay.Url
