import TunnelRelay.Frame.Means
import TunnelRelay.Proofs.Cipher.Aes
import TunnelRelay.Proofs.Cipher.Blowfish
import TunnelRelay.Proofs.Frame.Seal
import TunnelRelay.Proofs.Lz4.Expand
import TunnelRelay.Proofs.Rsa
import Mathlib.Data.UInt
import Mathlib.NumberTheory.LucasLehmer

/-!
# The means of the two ends match

RSA, the two block ciphers and LZ4 give back what they were given. So everything that is said of
matching means holds of a tunnel whose sender has the public part of the receiver's key.
-/

open TunnelRelay.Frame

namespace TunnelRelay

theorem Cipher.block_lawful (c : Cipher) : c.block.Lawful := by
  cases c with
  | blowfish => exact Blowfish.cipher_lawful
  | aes => exact Aes.cipher_lawful

/-- **Two ends match** if the sender has the public part of the receiver's key. -/
theorem KeyPair.means_matches {k k' : KeyPair} (hsound : k'.own.Sound)
    (hshared : k'.own.shared = k.remote) (noise noise' : Nat → UInt8) :
    (k.means noise).Matches (k'.means noise') where
  openToken {token sealed} h := by
    change Rsa.encrypt k.remote noise token = .ok sealed at h
    rw [← hshared] at h
    exact Rsa.decrypt_of_encrypt hsound h
  sameCiphers := rfl
  lawful := Cipher.block_lawful
  decompress := Lz4.decompress_of_compress
  sizeFirst h := (Lz4.compress_eq_ok_iff.mp h).2 ▸ List.prefix_append _ _
  sizeLimited h := Nat.lt_of_le_of_lt (Lz4.compress_eq_ok_iff.mp h).1 (by decide)

/-- A tunnel end whose peer has the same key. -/
def KeyPair.ofKey (key : Rsa.PrivateKey) : KeyPair := ⟨key.shared, key⟩

theorem KeyPair.ofKey_matches {key : Rsa.PrivateKey} (h : key.Sound) (noise noise' : Nat → UInt8) :
    ((ofKey key).means noise).Matches ((ofKey key).means noise') :=
  means_matches h rfl noise noise'

/-! ## Sending without compression -/

/-- A message that the end with keys `k` can send: its token can be sealed and is a key of its
cipher, and there is room for the sealed token, the padded body and what stands around them. -/
structure KeyPair.Sends {κ : Type} [Family κ] (k : KeyPair) (l : Limits) (m : Message κ) :
    Prop where
  sealable : m.token.length + 11 ≤ k.remote.size
  keyed : ∃ f, m.cipher.block.keyed? m.token = some f
  room : k.remote.size + m.body.encode.length + 31 ≤ l.length

variable {κ : Type} [Family κ] {k : KeyPair} {l : Limits} {m : Message κ}

theorem Cipher.blockSize_le (c : Cipher) : c.block.blockSize ≤ 16 := by
  cases c <;> decide

/-- A token of 32 octets is a key of either cipher. -/
theorem Cipher.keyed_of_length (c : Cipher) {token : Bytes} (h : token.length = tokenLength) :
    ∃ f, c.block.keyed? token = some f := by
  have h32 : token.length = 32 := h
  cases c with
  | aes => simp [block, Aes.cipher, h32]
  | blowfish => simp [block, Blowfish.cipher, h32]

/-- The contents of a frame are the body, the sealed token and 31 octets at most. -/
theorem KeyPair.length_write_le {noise : Nat → UInt8} {plain : Bytes}
    (hwrite : write (k.means noise) m = .ok plain) :
    plain.length ≤ k.remote.size + m.body.encode.length + 31 := by
  obtain ⟨token, -, htoken, -⟩ := write_eq_ok_iff.mp hwrite
  have hle := length_le_of_write Cipher.block_lawful hwrite htoken
  have hlength := Rsa.length_of_encrypt htoken
  have hsize : ((k.means noise).blockCipher m.cipher).blockSize ≤ 16 := m.cipher.blockSize_le
  omega

/-- Contents of a message with room are within the limit. -/
theorem KeyPair.Sends.length_le (h : k.Sends l m) {noise : Nat → UInt8} {plain : Bytes}
    (hwrite : write (k.means noise) m = .ok plain) : plain.length ≤ l.length :=
  Nat.le_trans (length_write_le hwrite) h.room

/-- A message has a frame as soon as its token can be sealed and is a key of its cipher. -/
theorem KeyPair.write_isOk (hsealable : m.token.length + 11 ≤ k.remote.size)
    (hkeyed : ∃ f, m.cipher.block.keyed? m.token = some f) (noise : Nat → UInt8) :
    ∃ plain, write (k.means noise) m = .ok plain := by
  obtain ⟨token, htoken⟩ := Rsa.encrypt_isOk hsealable noise
  exact Frame.write_isOk htoken hkeyed

/-- A message that an end can send is encoded. -/
theorem KeyPair.Sends.encode_isOk (h : k.Sends l m) (hplain : l.compress = false)
    (noise : Nat → UInt8) (out : Bytes) :
    ∃ out', encode (k.means noise) l m out = .ok out' := by
  obtain ⟨plain, hwrite⟩ := KeyPair.write_isOk h.sealable h.keyed noise
  have hpacks : Packs (k.means noise) l plain plain := by simp [Packs, hplain]
  exact ⟨_, encode_eq_ok_iff.mpr ⟨plain, plain, hwrite, hpacks, h.length_le hwrite, rfl⟩⟩

/-! ## A key and messages that it can send -/

theorem prime_mersenne_127 : (mersenne 127).Prime :=
  lucas_lehmer_sufficiency _ (by decide) (by norm_num)

theorem prime_mersenne_521 : (mersenne 521).Prime :=
  lucas_lehmer_sufficiency _ (by decide) (by norm_num)

/-- A private key of 81 octets made of two Mersenne primes. -/
def mersenneKey : Rsa.PrivateKey :=
  let p := mersenne 127
  let q := mersenne 521
  ⟨⟨p * q, 13⟩, (9 * ((p - 1) * (q - 1)) + 1) / 13, p, q⟩

theorem mersenneKey_sound : mersenneKey.Sound where
  valid := by decide +kernel
  prime_p := prime_mersenne_127
  prime_q := prime_mersenne_521
  ne := by decide +kernel

/-- A token of 32 octets. -/
def digits : Bytes := Bytes.ofText "0123456789abcdef0123456789abcdef"

/-- What a proxy says while a target answers. -/
def answers : List (Message ProxyKind) :=
  [⟨digits, .aes, Body.connectSuccess "1" "user" "example.org" 80⟩,
    ⟨digits, .aes, Body.okTcp "2" "user" "example.org" 80 (Bytes.ofText "HTTP/1.1 200 OK")⟩]

theorem answers_sends : ∀ m ∈ answers,
    (KeyPair.ofKey mersenneKey).Sends ⟨false, defaultMaxFrameSize⟩ m := by
  have hsize : (KeyPair.ofKey mersenneKey).remote.size = 81 := by decide +kernel
  intro m hm
  have hlengths : m.token.length = 32 ∧ m.cipher = .aes ∧ m.body.encode.length < 100 := by
    revert m
    decide +kernel
  obtain ⟨htoken, hcipher, hbody⟩ := hlengths
  refine ⟨by omega, ?_, ?_⟩
  · rw [hcipher]
    exact Cipher.keyed_of_length .aes htoken
  · have hlimit : (⟨false, defaultMaxFrameSize⟩ : Limits).length = 262144 := by decide
    omega

end TunnelRelay
