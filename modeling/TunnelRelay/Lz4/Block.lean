import TunnelRelay.Bytes

/-!
# LZ4 blocks

A block is a list of sequences, each some literal octets and a copy of octets written earlier, and
a last run of literals. A sequence begins with a token whose halves hold the two lengths; a half
of 15 goes on in further octets, each 255 but the last.
-/

namespace TunnelRelay.Lz4

/-- Literal octets, then a copy of `length` octets from `offset` octets back. -/
structure Sequence where
  literals : Bytes
  offset : Nat
  length : Nat
  deriving DecidableEq, Repr

/-- Sequences and the literals after the last of them. -/
structure Block where
  sequences : List Sequence
  final : Bytes
  deriving DecidableEq, Repr

/-- The shortest copy that a sequence can hold. -/
def minMatch : Nat := 4

/-- The octets after a half token of 15, for the part of a length from 15 on. -/
def extension (n : Nat) : Bytes :=
  if n < 15 then [] else List.replicate ((n - 15) / 255) 255 ++ [UInt8.ofNat ((n - 15) % 255)]

/-- The token of two lengths. -/
def token (literals copied : Nat) : UInt8 :=
  UInt8.ofNat (16 * min literals 15 + min copied 15)

namespace Sequence

/-- The octets of a sequence. -/
def encode (s : Sequence) : Bytes :=
  let copied := s.length - minMatch
  token s.literals.length copied :: extension s.literals.length ++ s.literals
    ++ [UInt8.ofNat s.offset, UInt8.ofNat (s.offset / 256)] ++ extension copied

end Sequence

namespace Block

/-- The octets of a block. -/
def encode (b : Block) : Bytes :=
  b.sequences.flatMap Sequence.encode
    ++ token b.final.length 0 :: extension b.final.length ++ b.final

end Block

end TunnelRelay.Lz4
