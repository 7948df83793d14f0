import TunnelRelay.Bytes

/-!
# The distinguished encoding of key structures

A value is a tag, a length in its shortest form, and its contents. The readers here take one value
off the front and return the rest, so that a structure is read as a chain of them, and they refuse
every encoding that is not the shortest one.
-/

namespace TunnelRelay.Der

/-- Reads a length: one octet below 128, or a count of octets and a number that needs all of
them. -/
def length? : Bytes → Option (Nat × Bytes)
  | [] => none
  | n :: r =>
    if n < 0x80 then some (n.toNat, r)
    else if n = 0x80 ∨ 0x84 < n then none
    else do
      let (number, r) ← Bytes.split? (n.toNat - 0x80) r
      let v := Bytes.ofBigEndian number
      if 0x80 ≤ v ∧ number.head? ≠ some 0 then some (v, r) else none

/-- Reads one value with this tag and returns its contents with the rest. -/
def value? (tag : UInt8) : Bytes → Option (Bytes × Bytes)
  | [] => none
  | t :: r => if t = tag then do
      let (n, r) ← length? r
      Bytes.split? n r
    else none

/-- Reads one value with this tag that nothing follows. -/
def only? (tag : UInt8) (b : Bytes) : Option Bytes := do
  let (v, r) ← value? tag b
  if r.isEmpty then some v else none

/-- Reads an integer that is not negative. -/
def natural? (b : Bytes) : Option (Nat × Bytes) := do
  let (v, r) ← value? 0x02 b
  match v with
  | [] => none
  | [x] => if x < 0x80 then some (x.toNat, r) else none
  | x :: y :: _ => if x < 0x80 ∧ (x ≠ 0 ∨ 0x80 ≤ y) then some (Bytes.ofBigEndian v, r) else none

/-- The tag of a sequence. -/
def sequenceTag : UInt8 := 0x30

end TunnelRelay.Der
