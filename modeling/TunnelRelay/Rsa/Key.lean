import TunnelRelay.Rsa.Der
import TunnelRelay.Rsa.Pem

/-!
# RSA keys

A public key is a modulus and an exponent; a private key adds the private exponent and the two
primes. A key file holds either the bare numbers or the numbers wrapped in a structure that names
the algorithm, and the label of the block says which. A key is used only if its numbers fit
together.
-/

namespace TunnelRelay.Rsa

/-- A modulus and a public exponent. -/
structure PublicKey where
  modulus : Nat
  exponent : Nat
  deriving DecidableEq, Repr

/-- A public key with what opens its messages. -/
structure PrivateKey where
  shared : PublicKey
  secret : Nat
  p : Nat
  q : Nat
  deriving DecidableEq, Repr

/-- The number of octets of the modulus. -/
def PublicKey.size (k : PublicKey) : Nat := if k.modulus = 0 then 0 else k.modulus.log2 / 8 + 1

/-- At most 4096 bits, odd modulus, and an odd exponent between 2 and 2³³ below the modulus. -/
def PublicKey.valid (k : PublicKey) : Bool :=
  k.modulus < 1 <<< 4096 && k.exponent < k.modulus && k.modulus % 2 = 1 && k.exponent % 2 = 1
    && 2 ≤ k.exponent && k.exponent < 0x200000000

/-- The public part is valid, the primes make the modulus, and the exponents undo each other
modulo each prime. -/
def PrivateKey.valid (k : PrivateKey) : Bool :=
  let undo (p : Nat) := 2 ≤ p && k.shared.exponent * k.secret % (p - 1) = 1 % (p - 1)
  k.shared.valid && k.p * k.q = k.shared.modulus && undo k.p && undo k.q

/-! ## Bare numbers -/

/-- A sequence of modulus and exponent. -/
def PublicKey.ofNumbers? (b : Bytes) : Option PublicKey := do
  let b ← Der.only? Der.sequenceTag b
  let (n, b) ← Der.natural? b
  let (e, b) ← Der.natural? b
  let k : PublicKey := ⟨n, e⟩
  if b.isEmpty && k.valid then some k else none

/-- A sequence of version, modulus, both exponents, two primes, and three numbers that speed up
the use of the key. -/
def PrivateKey.ofNumbers? (b : Bytes) : Option PrivateKey := do
  let b ← Der.only? Der.sequenceTag b
  let (version, b) ← Der.natural? b
  let (n, b) ← Der.natural? b
  let (e, b) ← Der.natural? b
  let (d, b) ← Der.natural? b
  let (p, b) ← Der.natural? b
  let (q, b) ← Der.natural? b
  let (_, b) ← Der.natural? b
  let (_, b) ← Der.natural? b
  let (_, b) ← Der.natural? b
  let k : PrivateKey := ⟨⟨n, e⟩, d, p, q⟩
  if version = 0 && b.isEmpty && k.valid then some k else none

/-! ## Wrapped numbers -/

/-- The algorithm identifier of RSA encryption: its object identifier and a null parameter. -/
def algorithm : Bytes :=
  [0x06, 0x09, 0x2a, 0x86, 0x48, 0x86, 0xf7, 0x0d, 0x01, 0x01, 0x01, 0x05, 0x00]

/-- A sequence of the algorithm and a bit string around the numbers. -/
def PublicKey.ofWrapped? (b : Bytes) : Option PublicKey := do
  let b ← Der.only? Der.sequenceTag b
  let (alg, b) ← Der.value? Der.sequenceTag b
  let b ← Der.only? 0x03 b
  if alg = algorithm then
    match b with
    | 0 :: numbers => PublicKey.ofNumbers? numbers
    | _ => none
  else none

/-- A sequence of a version, the algorithm and an octet string around the numbers; attributes may
follow, and in the second version a public key follows. -/
def PrivateKey.ofWrapped? (b : Bytes) : Option PrivateKey := do
  let b ← Der.only? Der.sequenceTag b
  let (version, b) ← Der.natural? b
  let (alg, b) ← Der.value? Der.sequenceTag b
  let (numbers, b) ← Der.value? 0x04 b
  let b := ((Der.value? 0xa0 b).map (·.2)).getD b
  let complete :=
    match version with
    | 0 => b.isEmpty
    | 1 => (Der.only? 0x81 b).isSome || (Der.only? 0xa1 b).isSome
    | _ => false
  if alg = algorithm && complete then PrivateKey.ofNumbers? numbers else none

/-! ## Key files -/

/-- The public key in a key file. -/
def PublicKey.ofText? (text : String) : Option PublicKey :=
  ((Pem.decode? "PUBLIC KEY" text).bind PublicKey.ofWrapped?).or
    ((Pem.decode? "RSA PUBLIC KEY" text).bind PublicKey.ofNumbers?)

/-- The private key in a key file. -/
def PrivateKey.ofText? (text : String) : Option PrivateKey :=
  ((Pem.decode? "PRIVATE KEY" text).bind PrivateKey.ofWrapped?).or
    ((Pem.decode? "RSA PRIVATE KEY" text).bind PrivateKey.ofNumbers?)

end TunnelRelay.Rsa
