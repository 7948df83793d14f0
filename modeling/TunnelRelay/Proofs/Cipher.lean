import TunnelRelay.Proofs.Frame.Means
import Mathlib.Order.Bounds.Defs

/-!
# Texts under the two ciphers

A key of either cipher gives each text its own octets, a whole number of blocks, and these octets
are all that the key opens. Whatever else is offered is refused, and the refusal says why: the token
is no key, the octets are no blocks, or the blocks end in no padding.
-/

namespace TunnelRelay.Cipher

/-- The token has the length of a key. -/
def Takes (c : Cipher) (token : Bytes) : Prop :=
  match c with
  | aes => token.length = 32
  | blowfish => 4 ≤ token.length ∧ token.length ≤ 56

/-- A token is a key by its length. -/
theorem isSome_keyed?_iff {c : Cipher} {token : Bytes} :
    (c.block.keyed? token).isSome ↔ c.Takes token := by
  cases c with
  | aes =>
    by_cases h : token.length = 32
    · simp [block, Aes.cipher, Takes, h]
    · simp [block, Aes.cipher, Takes, h]
  | blowfish =>
    by_cases h : 4 ≤ token.length ∧ token.length ≤ 56
    · simp [block, Blowfish.cipher, Takes, h]
    · simp only [block, Blowfish.cipher, Takes, h]
      simp

/-- The next whole number of blocks is the least one above the length of the text. -/
theorem isLeast_blocks {n : Nat} (hn : 0 < n) (l : Nat) :
    IsLeast {k | n ∣ k ∧ l < k} (l + (n - l % n)) := by
  have hmod := Nat.mod_lt l hn
  have hdiv := Nat.div_add_mod l n
  have hnext : l + (n - l % n) = n * (l / n + 1) := by
    rw [Nat.mul_add, Nat.mul_one]
    omega
  refine ⟨⟨⟨l / n + 1, hnext⟩, by omega⟩, ?_⟩
  rintro _ ⟨⟨k, rfl⟩, hlt⟩
  rw [hnext]
  exact Nat.mul_le_mul_left n (Nat.div_lt_of_lt_mul hlt)

/-- What a cipher makes of texts, and of octets, under a token. -/
structure PairsTexts (c : Cipher) (token : Bytes) : Prop where
  /-- Under a key every text is encrypted, into the least whole number of blocks that is longer than
  itself, and is decrypted from there. -/
  encrypts : c.Takes token → ∀ text, ∃ sealed, c.block.encrypt token text = .ok sealed ∧
    IsLeast {n | c.block.blockSize ∣ n ∧ text.length < n} sealed.length ∧
      c.block.decrypt token sealed = .ok text
  /-- What is decrypted to a text is what that text is encrypted to. -/
  decrypts : ∀ sealed text, c.block.decrypt token sealed = .ok text →
    c.block.encrypt token text = .ok sealed
  /-- A token of another length is refused, whatever it is to encrypt or to decrypt. -/
  badToken : ¬c.Takes token →
    (∀ text, c.block.encrypt token text = .error (.invalidTokenLength token.length)) ∧
      ∀ sealed, c.block.decrypt token sealed = .error (.invalidTokenLength token.length)
  /-- Under a key octets that are not blocks are refused for their length. -/
  badLength : c.Takes token → ∀ sealed, sealed = [] ∨ ¬c.block.blockSize ∣ sealed.length →
    c.block.decrypt token sealed = .error (.invalidCipherTextLength sealed.length)
  /-- Under a key blocks to which no text is encrypted are refused for their padding. -/
  badPadding : c.Takes token → ∀ sealed, sealed ≠ [] → c.block.blockSize ∣ sealed.length →
    (∀ text, c.block.encrypt token text ≠ .ok sealed) →
      c.block.decrypt token sealed = .error .invalidPadding

/-- **Texts and what they are encrypted to are in bijection** under every key of either cipher, and
nothing else is decrypted. -/
theorem pairsTexts (c : Cipher) (token : Bytes) : c.PairsTexts token where
  encrypts htakes text := by
    have hc := c.block_lawful
    obtain ⟨f, hf⟩ := Option.isSome_iff_exists.mp (isSome_keyed?_iff.mpr htakes)
    obtain ⟨sealed, hsealed⟩ := BlockCipher.encrypt_isOk hf text
    refine ⟨sealed, hsealed, ?_, BlockCipher.decrypt_of_encrypt hc hsealed⟩
    rw [BlockCipher.length_encrypt hc hsealed]
    exact isLeast_blocks hc.blockSize_pos text.length
  decrypts _ _ h := BlockCipher.encrypt_of_decrypt c.block_lawful h
  badToken hnot := by
    have hnone : c.block.keyed? token = none := by
      rwa [← isSome_keyed?_iff, Option.not_isSome_iff_eq_none] at hnot
    constructor
    · intro text
      simp only [BlockCipher.encrypt, hnone]
    · intro sealed
      simp only [BlockCipher.decrypt, hnone]
  badLength htakes sealed h := by
    obtain ⟨f, hf⟩ := Option.isSome_iff_exists.mp (isSome_keyed?_iff.mpr htakes)
    exact BlockCipher.decrypt_of_not_blocks hf h
  badPadding htakes sealed hne hdvd hnot := by
    obtain ⟨f, hf⟩ := Option.isSome_iff_exists.mp (isSome_keyed?_iff.mpr htakes)
    refine BlockCipher.decrypt_of_blocks hf hne hdvd fun text htext => hnot text ?_
    exact BlockCipher.encrypt_of_decrypt c.block_lawful htext

end TunnelRelay.Cipher
