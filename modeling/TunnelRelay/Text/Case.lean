import TunnelRelay.Bytes

/-!
# Letters without regard to case

Protocol words compare by their ASCII letters alone: `A` is `a`, and every octet that is no ASCII
letter is itself.
-/

namespace TunnelRelay.Text

/-- The lower-case letter of an ASCII letter; other octets stay. -/
def lowerOctet (x : UInt8) : UInt8 := if 65 ≤ x ∧ x ≤ 90 then x + 32 else x

/-- Every letter in lower case. -/
def lower (b : Bytes) : Bytes := b.map lowerOctet

/-- Two words that differ in the case of letters only. -/
def sameWord (a b : Bytes) : Bool := lower a == lower b

end TunnelRelay.Text
