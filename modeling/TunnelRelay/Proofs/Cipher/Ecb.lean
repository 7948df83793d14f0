import TunnelRelay.Cipher.Ecb
import TunnelRelay.Proofs.Bytes

/-!
# Padded texts under a block cipher

A block cipher is lawful if each of its maps permutes the blocks and padding can say its own length.
Under a lawful cipher a text of any length is enciphered into the next whole number of blocks and
comes back from there; and whatever is deciphered to a text is what that text is enciphered to.
-/

namespace TunnelRelay

/-- What a cipher does to a block is undone by its inverse, in both orders. -/
structure BlockMap.Permutes (f : BlockMap) (n : Nat) : Prop where
  length_encrypt : ∀ b : Bytes, b.length = n → (f.encrypt b).length = n
  length_decrypt : ∀ b : Bytes, b.length = n → (f.decrypt b).length = n
  decrypt_encrypt : ∀ b : Bytes, b.length = n → f.decrypt (f.encrypt b) = b
  encrypt_decrypt : ∀ b : Bytes, b.length = n → f.encrypt (f.decrypt b) = b

/-- A cipher whose maps permute the blocks, of a size that fits into an octet. -/
structure BlockCipher.Lawful (c : BlockCipher) : Prop where
  blockSize_pos : 0 < c.blockSize
  blockSize_lt : c.blockSize < 256
  permutes : ∀ {key : Bytes} {f : BlockMap}, c.keyed? key = some f → f.Permutes c.blockSize

namespace BlockCipher

/-! ## Padding -/

/-- Padding fills up to the next whole number of blocks, which is never the length of the text. -/
theorem length_pad (n : Nat) (text : Bytes) :
    (pad n text).length = text.length + (n - text.length % n) := by
  simp [pad]

theorem dvd_length_pad {n : Nat} (hn : 0 < n) (text : Bytes) : n ∣ (pad n text).length := by
  rw [length_pad]
  have hmod := Nat.mod_lt text.length hn
  have hdiv := Nat.div_add_mod text.length n
  refine ⟨text.length / n + 1, ?_⟩
  rw [Nat.mul_add, Nat.mul_one]
  omega

/-- Padding is recognised and removed. -/
theorem unpad?_pad {n : Nat} (hn : 0 < n) (hlt : n < 256) (text : Bytes) :
    unpad? n (pad n text) = some text := by
  have hmod := Nat.mod_lt text.length hn
  obtain ⟨k, hk⟩ : ∃ k, n - text.length % n = k + 1 := ⟨n - text.length % n - 1, by omega⟩
  have hpad : pad n text = text ++ List.replicate (k + 1) (UInt8.ofNat (k + 1)) := by simp [pad, hk]
  have hlast : (pad n text).getLast? = some (UInt8.ofNat (k + 1)) := by
    rw [hpad, List.replicate_succ', ← List.append_assoc, List.getLast?_concat]
  have hnat : (UInt8.ofNat (k + 1)).toNat = k + 1 := by simp; omega
  have hkeep : (pad n text).length - (k + 1) = text.length := by rw [length_pad, hk]; omega
  simp only [unpad?, hlast, hnat, hkeep]
  rw [hpad, List.drop_left, List.take_left, if_pos]
  refine ⟨by omega, by omega, ?_⟩
  simp [List.all_replicate]

/-- Padding that is removed is the padding of what is left. -/
theorem pad_of_unpad? {n : Nat} {padded text : Bytes} (hdvd : n ∣ padded.length)
    (h : unpad? n padded = some text) : pad n text = padded := by
  unfold unpad? at h
  split at h
  · cases h
  · rename_i last hlast
    dsimp only at h
    split at h
    · rename_i hpadding
      cases h
      obtain ⟨hpos, hle, hall⟩ := hpadding
      -- the last octet shows that there is a block, so the padding is not longer than the string
      obtain ⟨k, hk⟩ : ∃ k, padded.length = n * k + n := by
        obtain ⟨k, hk⟩ := hdvd
        cases k with
        | zero =>
          obtain rfl := List.length_eq_zero_iff.mp hk
          cases hlast
        | succ k => exact ⟨k, hk⟩
      have hlength : (padded.take (padded.length - last.toNat)).length
          = n * k + (n - last.toNat) := by
        rw [List.length_take]
        omega
      have hmissing : n - (n * k + (n - last.toNat)) % n = last.toNat := by
        rw [Nat.mul_add_mod]
        by_cases hwhole : last.toNat = n
        · rw [hwhole, Nat.sub_self, Nat.zero_mod, Nat.sub_zero]
        · rw [Nat.mod_eq_of_lt (by omega)]
          omega
      have htail : padded.drop (padded.length - last.toNat) = List.replicate last.toNat last := by
        refine List.eq_replicate_iff.mpr ⟨?_, ?_⟩
        · rw [List.length_drop]
          omega
        · intro x hx
          exact eq_of_beq (List.all_eq_true.mp hall x hx)
      rw [pad, hlength, hmissing, UInt8.ofNat_toNat, ← htail, List.take_append_drop]
    · cases h

/-! ## Texts -/

variable {c : BlockCipher} {key text sealed : Bytes}

/-- The length of an encrypted text is that of the padded text. -/
theorem length_encrypt (hc : c.Lawful) (h : c.encrypt key text = .ok sealed) :
    sealed.length = text.length + (c.blockSize - text.length % c.blockSize) := by
  unfold encrypt at h
  split at h
  · cases h
  · rename_i f hf
    cases h
    rw [Bytes.length_flatMap_blocks hc.blockSize_pos (hc.permutes hf).length_encrypt
      (dvd_length_pad hc.blockSize_pos text), length_pad]

/-- Every text is encrypted under a key that the cipher takes. -/
theorem encrypt_isOk {f : BlockMap} (hf : c.keyed? key = some f) (text : Bytes) :
    ∃ sealed, c.encrypt key text = .ok sealed := by
  simp [encrypt, hf]

/-- What was encrypted is decrypted under the same key. -/
theorem decrypt_of_encrypt (hc : c.Lawful) (h : c.encrypt key text = .ok sealed) :
    c.decrypt key sealed = .ok text := by
  have hlen := length_encrypt hc h
  have hdvd := dvd_length_pad hc.blockSize_pos text
  rw [length_pad, ← hlen] at hdvd
  unfold encrypt at h
  unfold decrypt
  split at h
  · cases h
  · rename_i f hf
    have hmod := Nat.mod_lt text.length hc.blockSize_pos
    have hne : (sealed.isEmpty || sealed.length % c.blockSize != 0) = false := by
      have hpos : sealed ≠ [] := List.ne_nil_of_length_pos (by have := hc.blockSize_pos; omega)
      simp [hpos, Nat.mod_eq_zero_of_dvd hdvd]
    cases h
    simp only [hne, Bool.false_eq_true, if_false]
    rw [Bytes.flatMap_blocks_flatMap hc.blockSize_pos (hc.permutes hf).length_encrypt
        (hc.permutes hf).decrypt_encrypt (dvd_length_pad hc.blockSize_pos text),
      unpad?_pad hc.blockSize_pos hc.blockSize_lt]

/-- What is decrypted to a text is what that text is encrypted to. -/
theorem encrypt_of_decrypt (hc : c.Lawful) (h : c.decrypt key sealed = .ok text) :
    c.encrypt key text = .ok sealed := by
  unfold decrypt at h
  unfold encrypt
  split at h
  · cases h
  · rename_i f hf
    split at h
    · cases h
    · rename_i hwhole
      have hdvd : c.blockSize ∣ sealed.length := by
        refine Nat.dvd_of_mod_eq_zero ?_
        simp only [Bool.or_eq_true, bne_iff_ne, not_or, not_not] at hwhole
        exact hwhole.2
      split at h
      · cases h
      · rename_i plain hplain
        cases h
        have hblocks :
            c.blockSize ∣ ((Bytes.blocks c.blockSize sealed).flatMap f.decrypt).length := by
          rwa [Bytes.length_flatMap_blocks hc.blockSize_pos (hc.permutes hf).length_decrypt hdvd]
        simp only [pad_of_unpad? hblocks hplain]
        rw [Bytes.flatMap_blocks_flatMap hc.blockSize_pos (hc.permutes hf).length_decrypt
          (hc.permutes hf).encrypt_decrypt hdvd]

/-- Padding is at least one octet, so a text is shorter than what it was decrypted from. -/
theorem length_lt_of_decrypt (hc : c.Lawful) (h : c.decrypt key sealed = .ok text) :
    text.length < sealed.length := by
  have hlength := length_encrypt hc (encrypt_of_decrypt hc h)
  have hmod := Nat.mod_lt text.length hc.blockSize_pos
  omega

/-- Whole blocks, of which there is at least one, are refused for their padding alone. -/
theorem decrypt_of_blocks {f : BlockMap} (hf : c.keyed? key = some f) (hne : sealed ≠ [])
    (hdvd : c.blockSize ∣ sealed.length) (hnot : ∀ text, c.decrypt key sealed ≠ .ok text) :
    c.decrypt key sealed = .error .invalidPadding := by
  have hwhole : (sealed.isEmpty || sealed.length % c.blockSize != 0) = false := by
    simp [hne, Nat.mod_eq_zero_of_dvd hdvd]
  unfold decrypt at hnot ⊢
  simp only [hf, hwhole, Bool.false_eq_true, if_false] at hnot ⊢
  split
  · rfl
  · rename_i plain hplain
    simp only [hplain] at hnot
    exact absurd rfl (hnot plain)

/-- Anything else is refused for its length. -/
theorem decrypt_of_not_blocks {f : BlockMap} (hf : c.keyed? key = some f)
    (h : sealed = [] ∨ ¬c.blockSize ∣ sealed.length) :
    c.decrypt key sealed = .error (.invalidCipherTextLength sealed.length) := by
  have hpartial : (sealed.isEmpty || sealed.length % c.blockSize != 0) = true := by
    rcases h with rfl | h
    · rfl
    · have hmod : sealed.length % c.blockSize ≠ 0 := fun hzero => h (Nat.dvd_of_mod_eq_zero hzero)
      simp [hmod]
  simp only [decrypt, hf, hpartial, if_true]

end BlockCipher

end TunnelRelay
