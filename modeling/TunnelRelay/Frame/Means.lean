import TunnelRelay.Cipher.Aes
import TunnelRelay.Cipher.Blowfish
import TunnelRelay.Frame.Codec
import TunnelRelay.Lz4.Decompress
import TunnelRelay.Rsa

/-!
# The means of a tunnel end

A tunnel end seals tokens under the other end's public key and opens them with its own private key,
encrypts bodies with AES or Blowfish, and compresses with LZ4.
-/

namespace TunnelRelay

/-- The block cipher of each name. -/
def Cipher.block : Cipher → BlockCipher
  | blowfish => Blowfish.cipher
  | aes => Aes.cipher

/-- The keys of a tunnel end: the other end's public key and its own private key. -/
structure KeyPair where
  remote : Rsa.PublicKey
  own : Rsa.PrivateKey
  deriving DecidableEq, Repr

/-- The keys in two key files, when both hold one. -/
def KeyPair.ofTexts? (remote own : String) : Option KeyPair := do
  return ⟨← Rsa.PublicKey.ofText? remote, ← Rsa.PrivateKey.ofText? own⟩

/-- The means of a tunnel end with these keys, with the given octets as padding. -/
def KeyPair.means (k : KeyPair) (noise : Nat → UInt8) : Frame.Means where
  sealToken := Rsa.encrypt k.remote noise
  openToken := Rsa.decrypt k.own
  blockCipher := Cipher.block
  compress := Lz4.compress
  decompress := Lz4.decompress

end TunnelRelay
