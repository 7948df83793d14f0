import TunnelRelay.Error
import TunnelRelay.Rsa.Key

/-!
# Sealing tokens with RSA

A token is padded to the size of the modulus with octets that are not zero, then raised to the
public exponent. Opening raises to the private exponent and accepts only what looks padded. The
padding octets are the sender's to draw; opening does not depend on them.
-/

namespace TunnelRelay.Rsa

/-- The power of `b` to the exponent `e`, modulo `m`, by repeated squaring. -/
def powMod (m b e : Nat) : Nat :=
  if e = 0 then 1 % m
  else
    let h := powMod m (b * b % m) (e / 2)
    if e % 2 = 1 then b * h % m else h
termination_by e

/-- The lowest `size` octets of a number, most significant first. -/
def octets (size n : Nat) : Bytes :=
  (List.range size).map fun i => UInt8.ofNat (n >>> (8 * (size - 1 - i)))

/-- The block `0 2 noise 0 message` of `size` octets; a zero in the noise is replaced by one. -/
def pad (size : Nat) (noise : Nat → UInt8) (message : Bytes) : Bytes :=
  let fill := (List.range (size - 3 - message.length)).map fun i =>
    if noise i = 0 then 1 else noise i
  0 :: 2 :: fill ++ 0 :: message

/-- The message in a block `0 2 noise 0 message` with at least eight octets of noise. -/
def unpad? : Bytes → Option Bytes
  | 0 :: 2 :: r =>
    let noise := r.takeWhile (· != 0)
    if 8 ≤ noise.length ∧ noise.length < r.length then some (r.drop (noise.length + 1)) else none
  | _ => none

/-- Encrypts a message for the owner of the private key. -/
def encrypt (k : PublicKey) (noise : Nat → UInt8) (message : Bytes) : Except CryptoError Bytes :=
  if k.size < message.length + 11 then .error (.rsaEncrypt "message too long")
  else
    .ok (octets k.size (powMod k.modulus (Bytes.ofBigEndian (pad k.size noise message)) k.exponent))

/-- Decrypts a sealed message. -/
def decrypt (k : PrivateKey) (sealed : Bytes) : Except CryptoError Bytes :=
  let c := Bytes.ofBigEndian sealed
  let size := k.shared.size
  if c < k.shared.modulus ∧ 11 ≤ size then
    match unpad? (octets size (powMod k.shared.modulus c k.secret)) with
    | some message => .ok message
    | none => .error (.rsaDecrypt "decryption error")
  else .error (.rsaDecrypt "decryption error")

end TunnelRelay.Rsa
