import TunnelRelay.Bytes
import TunnelRelay.Error

/-!
# Block ciphers over whole texts

A text is padded to a whole number of blocks and each block is enciphered on its own. The padding
says its own length: `n` octets of value `n`, at least one and at most a block. A cipher enters
only as a `BlockCipher`, so what is said about padding holds for every cipher.
-/

namespace TunnelRelay

/-- What a cipher does to one block under one key. -/
structure BlockMap where
  encrypt : Bytes → Bytes
  decrypt : Bytes → Bytes

/-- A block cipher: the size of its blocks, and its map under each key that it takes. -/
structure BlockCipher where
  blockSize : Nat
  /-- The map under a key, or nothing when no key has this length. -/
  keyed? : Bytes → Option BlockMap

namespace BlockCipher

/-! ## Padding -/

/-- Appends `n` octets of value `n`, up to the next whole number of blocks. -/
def pad (size : Nat) (text : Bytes) : Bytes :=
  let n := size - text.length % size
  text ++ List.replicate n (UInt8.ofNat n)

/-- Removes the padding, when the text ends in one. -/
def unpad? (size : Nat) (padded : Bytes) : Option Bytes :=
  match padded.getLast? with
  | none => none
  | some last =>
    let n := last.toNat
    let keep := padded.length - n
    if 0 < n ∧ n ≤ size ∧ (padded.drop keep).all (· == last) then some (padded.take keep) else none

/-! ## Texts -/

/-- Enciphers a text block by block after padding it. -/
def encrypt (c : BlockCipher) (token text : Bytes) : Except CryptoError Bytes :=
  match c.keyed? token with
  | none => .error (.invalidTokenLength token.length)
  | some map => .ok ((Bytes.blocks c.blockSize (pad c.blockSize text)).flatMap map.encrypt)

/-- Deciphers a text block by block and removes the padding. -/
def decrypt (c : BlockCipher) (token text : Bytes) : Except CryptoError Bytes :=
  match c.keyed? token with
  | none => .error (.invalidTokenLength token.length)
  | some map =>
    if text.isEmpty || text.length % c.blockSize != 0 then
      .error (.invalidCipherTextLength text.length)
    else
      match unpad? c.blockSize ((Bytes.blocks c.blockSize text).flatMap map.decrypt) with
      | none => .error .invalidPadding
      | some plain => .ok plain

end BlockCipher

end TunnelRelay
