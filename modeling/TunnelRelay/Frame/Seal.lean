import TunnelRelay.Message
import TunnelRelay.Cipher.Ecb

/-!
# Sealed messages

The contents of a frame are the magic marker, the sealed token behind its length, the octet of the
cipher, and the body encrypted with that cipher under the token. Token sealing, the block ciphers
and compression are `Means` that the two ends agree on; nothing here depends on which they are.
-/

namespace TunnelRelay.Frame

/-- What a tunnel end seals, encrypts and compresses with. -/
structure Means where
  /-- Seals a token for the other end. -/
  sealToken : Bytes → Except CryptoError Bytes
  /-- Opens a token that the other end sealed. -/
  openToken : Bytes → Except CryptoError Bytes
  /-- The block cipher of each name. -/
  blockCipher : Cipher → BlockCipher
  /-- Compresses, with the size in the first four octets. -/
  compress : Bytes → Except StreamError Bytes
  /-- Undoes compression. -/
  decompress : Bytes → Except StreamError Bytes

/-- The octets every frame begins with. -/
def magic : Bytes := Bytes.ofText "__PPAASS__"

/-- The contents of the frame of a message. -/
def write {κ : Type} [Family κ] (w : Means) (m : Message κ) : Except RelayError Bytes := do
  let token ← (w.sealToken m.token).mapError .crypto
  let body ← ((w.blockCipher m.cipher).encrypt m.token m.body.encode).mapError .crypto
  return magic ++ Bytes.bigEndian32 token.length ++ token ++ m.cipher.code :: body

/-- The parts of a frame that can be told apart without a key: the sealed token, the cipher and
the encrypted body. -/
structure Parts where
  token : Bytes
  cipher : Cipher
  body : Bytes
  deriving DecidableEq, Repr

/-- Takes a frame's contents apart. -/
def parts (b : Bytes) : Except ProtocolError Parts :=
  match Bytes.split? magic.length b with
  | none => .error (.truncated "magic")
  | some (marker, b) =>
    if marker ≠ magic then .error .invalidMagic
    else
      match Bytes.split? 4 b with
      | none => .error (.truncated "encryption token length")
      | some (length, b) =>
        match Bytes.split? (Bytes.ofBigEndian length) b with
        | none => .error (.truncated "encryption token")
        | some (_, []) => .error (.truncated "encryption type")
        | some (token, code :: body) => do
          let cipher ← Cipher.read code
          return ⟨token, cipher, body⟩

/-- The message in a frame's contents. -/
def read {κ : Type} [Family κ] (w : Means) (b : Bytes) : Except RelayError (Message κ) := do
  let p ← (parts b).mapError .protocol
  let token ← (w.openToken p.token).mapError .crypto
  let plain ← ((w.blockCipher p.cipher).decrypt token p.body).mapError .crypto
  let body ← (Body.decode plain).mapError .protocol
  return ⟨token, p.cipher, body⟩

end TunnelRelay.Frame
