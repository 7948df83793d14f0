import TunnelRelay.Cipher.Ecb
import TunnelRelay.Cipher.Pi

/-!
# Blowfish

Sixteen Feistel rounds over two words. The round keys and the four substitution boxes start as
digits of π; the key is added to the round keys, and then the cipher itself replaces all of them,
two words at a time. Deciphering is enciphering with the round keys in reverse order.
-/

namespace TunnelRelay.Blowfish

/-- Round keys and substitution boxes. -/
structure Schedule where
  /-- Eighteen round keys. -/
  rounds : List UInt32
  /-- Four boxes of 256 words, one after the other. -/
  boxes : Array UInt32

/-- The round function: four look-ups, one for each octet of the word. -/
def mangle (boxes : Array UInt32) (x : UInt32) : UInt32 :=
  let box (n : Nat) (b : UInt32) := boxes.getD (256 * n + (b &&& 0xff).toNat) 0
  ((box 0 (x >>> 24) + box 1 (x >>> 16)) ^^^ box 2 (x >>> 8)) + box 3 x

/-- The rounds, and after the last one the two remaining keys on the halves in place. -/
def feistel (boxes : Array UInt32) : List UInt32 → UInt32 → UInt32 → UInt32 × UInt32
  | [p, q], l, r => (r ^^^ q, l ^^^ p)
  | k :: ks, l, r =>
    let l := l ^^^ k
    feistel boxes ks (r ^^^ mangle boxes l) l
  | [], l, r => (l, r)

/-- The start of every key schedule: the digits of π. -/
def digits : Array UInt32 := Pi.words (18 + 4 * 256)

/-- The key repeated without end and read as `n` words. -/
def keyWords (key : Array UInt8) (n : Nat) : List UInt32 :=
  (List.range n).map fun i => (List.range 4).foldl (fun w j =>
    (w <<< 8) ||| (key.getD ((4 * i + j) % key.size) 0).toUInt32) 0

/-- Replaces the round keys from place `i` on, two at a time. -/
def replaceRounds (boxes : Array UInt32) (p : Array UInt32) (l r : UInt32) :
    List Nat → Array UInt32 × UInt32 × UInt32
  | [] => (p, l, r)
  | i :: is =>
    let (l, r) := feistel boxes p.toList l r
    replaceRounds boxes ((p.setIfInBounds i l).setIfInBounds (i + 1) r) l r is

/-- Replaces the boxes from place `i` on, two words at a time. -/
def replaceBoxes (rounds : List UInt32) (boxes : Array UInt32) (l r : UInt32) :
    List Nat → Array UInt32
  | [] => boxes
  | i :: is =>
    let (l, r) := feistel boxes rounds l r
    replaceBoxes rounds ((boxes.setIfInBounds i l).setIfInBounds (i + 1) r) l r is

/-- The round keys and boxes of a key. -/
def schedule (key : Bytes) : Schedule :=
  let boxes := digits.extract 18 digits.size
  let mixed := List.zipWith (· ^^^ ·) (digits.toList.take 18) (keyWords key.toArray 18)
  let (p, l, r) := replaceRounds boxes mixed.toArray 0 0 ((List.range 9).map (2 * ·))
  ⟨p.toList, replaceBoxes p.toList boxes l r ((List.range 512).map (2 * ·))⟩

/-- The cipher on a block of eight octets with the round keys in the given order. -/
def transform (boxes : Array UInt32) (rounds : List UInt32) (b : Bytes) : Bytes :=
  let word (x : Bytes) := UInt32.ofNat (Bytes.ofBigEndian x)
  let (l, r) := feistel boxes rounds (word (b.take 4)) (word (b.drop 4))
  Bytes.bigEndian32 l.toNat ++ Bytes.bigEndian32 r.toNat

/-- Blowfish with keys of 4 to 56 octets. -/
def cipher : BlockCipher where
  blockSize := 8
  keyed? key :=
    if 4 ≤ key.length ∧ key.length ≤ 56 then
      let k := schedule key
      some ⟨transform k.boxes k.rounds, transform k.boxes k.rounds.reverse⟩
    else none

end TunnelRelay.Blowfish
