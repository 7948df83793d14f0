/-!
# Byte strings

Everything that travels is a `Bytes`: a list of octets. This module holds the few operations that
every wire format below shares: fixed-width numbers in both byte orders, cutting a counted prefix
off the front, and reading or writing UTF-8 text.
-/

namespace TunnelRelay

/-- A string of octets. -/
abbrev Bytes := List UInt8

namespace Bytes

/-! ## Numbers -/

/-- The value of a byte string read with its most significant octet first. -/
def ofBigEndian (b : Bytes) : Nat := b.foldl (fun n x => n * 256 + x.toNat) 0

/-- The value of a byte string read with its least significant octet first. -/
def ofLittleEndian (b : Bytes) : Nat := b.foldr (fun x n => x.toNat + 256 * n) 0

/-- Two octets, most significant first. -/
def bigEndian16 (n : UInt16) : Bytes := [UInt8.ofNat (n.toNat / 0x100), UInt8.ofNat n.toNat]

/-- Four octets, most significant first; a larger number loses its high part. -/
def bigEndian32 (n : Nat) : Bytes :=
  [UInt8.ofNat (n / 0x1000000), UInt8.ofNat (n / 0x10000), UInt8.ofNat (n / 0x100), UInt8.ofNat n]

/-- Four octets, least significant first; a larger number loses its high part. -/
def littleEndian32 (n : Nat) : Bytes := (bigEndian32 n).reverse

/-- Eight octets, most significant first. -/
def bigEndian64 (n : UInt64) : Bytes :=
  bigEndian32 (n.toNat / UInt32.size) ++ bigEndian32 n.toNat

@[simp] theorem length_bigEndian16 (n : UInt16) : (bigEndian16 n).length = 2 := rfl

@[simp] theorem length_bigEndian32 (n : Nat) : (bigEndian32 n).length = 4 := rfl

theorem ofBigEndian_bigEndian16 (n : UInt16) : ofBigEndian (bigEndian16 n) = n.toNat := by
  have := n.toNat_lt
  simp [ofBigEndian, bigEndian16]
  omega

theorem ofBigEndian_bigEndian32 {n : Nat} (h : n < UInt32.size) :
    ofBigEndian (bigEndian32 n) = n := by
  simp only [UInt32.size] at h
  simp [ofBigEndian, bigEndian32]
  omega

/-! ## Cutting -/

/-- The first `n` octets and the rest, when there are that many. -/
def split? (n : Nat) (b : Bytes) : Option (Bytes × Bytes) :=
  if n ≤ b.length then some (b.take n, b.drop n) else none

theorem split?_append (a r : Bytes) : split? a.length (a ++ r) = some (a, r) := by
  simp [split?]

theorem split?_eq_none_iff {n : Nat} {b : Bytes} : split? n b = none ↔ b.length < n := by
  simp [split?]

theorem append_of_split? {n : Nat} {b x r : Bytes} (h : split? n b = some (x, r)) :
    b = x ++ r ∧ x.length = n := by
  unfold split? at h
  split at h
  · cases h
    exact ⟨(List.take_append_drop n b).symm, by simp; omega⟩
  · cases h

/-- The string cut into pieces of `n` octets, the last one possibly shorter. -/
def blocks (n : Nat) (b : Bytes) : List Bytes :=
  if _h : n = 0 ∨ b = [] then [] else b.take n :: blocks n (b.drop n)
termination_by b.length
decreasing_by
  have : b.length ≠ 0 := by simp_all
  simp only [List.length_drop]
  omega

/-! ## Text -/

/-- The octets of a text. -/
def ofText (s : String) : Bytes := s.toByteArray.data.toList

/-- The text these octets spell, when they are well-formed UTF-8. -/
def toText? (b : Bytes) : Option String := String.fromUTF8? ⟨b.toArray⟩

/-- The lower-case hexadecimal digit of a number below 16. -/
def hexDigit (n : Nat) : Char := Char.ofNat (if n < 10 then 48 + n else 87 + n)

/-- Two hexadecimal digits for each octet. -/
def toHex (b : Bytes) : String :=
  String.ofList (b.flatMap fun x => [hexDigit (x.toNat / 16), hexDigit (x.toNat % 16)])

end Bytes

end TunnelRelay
