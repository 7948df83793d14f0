import TunnelRelay.Error
import TunnelRelay.Lz4.Block

/-!
# Compression

A block is found greedily: at each place the last place with the same hash of four octets is tried,
and a match is taken as far as it goes. The last match starts at least twelve octets before the
end and the last five octets are literals, as decoders require.
-/

namespace TunnelRelay.Lz4

/-- The number of bits of a hash. -/
def hashBits : UInt32 := 14

/-- The hash of the four octets at a place. -/
def hashAt (src : Array UInt8) (i : Nat) : Nat :=
  let octet (k : Nat) := (src.getD (i + k) 0).toUInt32
  let word := octet 0 ||| (octet 1 <<< 8) ||| (octet 2 <<< 16) ||| (octet 3 <<< 24)
  ((word * 2654435761) >>> (32 - hashBits)).toNat

/-- How many octets from `i` on agree with those from `j` on, at most `most`. -/
def agreement (src : Array UInt8) (i j : Nat) : Nat → Nat → Nat
  | 0, n => n
  | most + 1, n =>
    if src.getD (i + n) 0 = src.getD (j + n) 0 then agreement src i j most (n + 1) else n

/-- The sequences from place `i` on, where literals have gathered since `anchor`. -/
def search (src : Array UInt8) :
    Nat → Nat → Nat → Array Nat → Array Sequence → Array Sequence × Nat
  | 0, _, anchor, _, found => (found, anchor)
  | fuel + 1, i, anchor, places, found =>
    if src.size < i + 12 then (found, anchor)
    else
      let h := hashAt src i
      let back := places.getD h 0
      let places := places.setIfInBounds h (i + 1)
      let n :=
        if 0 < back ∧ i + 1 - back ≤ 65535 then agreement src i (back - 1) (src.size - 5 - i) 0
        else 0
      if minMatch ≤ n then
        let s : Sequence := ⟨(src.extract anchor i).toList, i + 1 - back, n⟩
        search src fuel (i + n) (i + n) places (found.push s)
      else search src fuel (i + 1) anchor places found

/-- The sequences found in a string of octets. -/
def Block.find (src : Bytes) : Block :=
  let octets := src.toArray
  let (found, anchor) := search octets octets.size 0 0 (Array.replicate 0x4000 0) #[]
  ⟨found.toList, src.drop anchor⟩

/-- The longest input that can be compressed. -/
def maxInput : Nat := 0x7E000000

/-- The input's length in four octets, least significant first, and the block found in it. -/
def compress (src : Bytes) : Except StreamError Bytes :=
  if maxInput < src.length then .error ⟨.invalidInput, "Compression input too long."⟩
  else .ok (Bytes.littleEndian32 src.length ++ (Block.find src).encode)

end TunnelRelay.Lz4
