import TunnelRelay.Rsa
import TunnelRelay.Proofs.Bytes
import Mathlib.FieldTheory.Finite.Basic

/-!
# Sealed tokens are opened

Raising to both exponents of a key gives the number back modulo each of its primes, and so modulo
their product. The padded token is a number below the modulus, because its first octet is zero, and
its padding is recognised.
-/

namespace TunnelRelay.Rsa

/-- A private key whose numbers fit together, made of two different primes. -/
structure PrivateKey.Sound (k : PrivateKey) : Prop where
  valid : k.valid = true
  prime_p : k.p.Prime
  prime_q : k.q.Prime
  ne : k.p ≠ k.q

/-! ## Powers -/

theorem powMod_eq (m b e : Nat) : powMod m b e = b ^ e % m := by
  -- the exponent is halved and the base squared
  induction e using Nat.strong_induction_on generalizing b with
  | h e ih =>
    by_cases he : e = 0
    · rw [powMod, if_pos he, he, Nat.pow_zero]
    · have hsquare : powMod m (b * b % m) (e / 2) = b ^ (2 * (e / 2)) % m := by
        rw [ih (e / 2) (by omega), ← Nat.pow_mod, ← Nat.pow_two, ← Nat.pow_mul]
      rw [powMod, if_neg he, hsquare]
      by_cases hodd : e % 2 = 1
      · rw [if_pos hodd, Nat.mul_mod_mod, ← Nat.pow_succ']
        congr 2
        omega
      · rw [if_neg hodd]
        congr 2
        omega

/-- Raising to an exponent that is one modulo `p - 1` changes nothing modulo the prime `p`. -/
theorem pow_modEq_self {p n : Nat} (hp : p.Prime) (hn : n ≠ 0) (h : n % (p - 1) = 1 % (p - 1))
    (b : Nat) : b ^ n ≡ b [MOD p] := by
  have hfact : Fact p.Prime := ⟨hp⟩
  rw [← ZMod.natCast_eq_natCast_iff, Nat.cast_pow]
  obtain ⟨k, hk⟩ : ∃ k, n = 1 + (p - 1) * k := by
    have hmodEq : 1 ≡ n [MOD p - 1] := h.symm
    obtain ⟨k, hk⟩ := (Nat.modEq_iff_dvd' (Nat.one_le_iff_ne_zero.mpr hn)).mp hmodEq
    exact ⟨k, by omega⟩
  by_cases hb : (b : ZMod p) = 0
  · rw [hb, zero_pow hn]
  · rw [hk, pow_add, pow_one, pow_mul, ZMod.pow_card_sub_one_eq_one hb, one_pow, mul_one]

/-- What the public exponent did, the private one undoes. -/
theorem powMod_powMod {k : PrivateKey} (hk : k.Sound) {b : Nat} (hb : b < k.shared.modulus) :
    powMod k.shared.modulus (powMod k.shared.modulus b k.shared.exponent) k.secret = b := by
  have hvalid := hk.valid
  simp only [PrivateKey.valid, PublicKey.valid, Bool.and_eq_true,
    decide_eq_true_eq] at hvalid
  obtain ⟨⟨⟨⟨⟨⟨⟨⟨-, -⟩, hodd⟩, -⟩, -⟩, -⟩, hmodulus⟩, -, hp⟩, -, hq⟩ := hvalid
  -- the modulus is odd, so neither prime is two and `p - 1` is not one
  have hp2 : k.p ≠ 2 := by
    intro h
    rw [h] at hmodulus
    omega
  have hexponent : k.shared.exponent * k.secret ≠ 0 := by
    intro h
    have hle := hk.prime_p.two_le
    rw [h, Nat.zero_mod, Nat.mod_eq_of_lt (by omega)] at hp
    omega
  -- the Chinese remainder theorem puts both primes together
  have hmod : b ^ (k.shared.exponent * k.secret) ≡ b [MOD k.p * k.q] :=
    (Nat.modEq_and_modEq_iff_modEq_mul ((Nat.coprime_primes hk.prime_p hk.prime_q).mpr hk.ne)).mp
      ⟨pow_modEq_self hk.prime_p hexponent hp b, pow_modEq_self hk.prime_q hexponent hq b⟩
  rw [hmodulus] at hmod
  rw [powMod_eq, powMod_eq, ← Nat.pow_mod, ← Nat.pow_mul, hmod, Nat.mod_eq_of_lt hb]

/-! ## Octets of numbers -/

theorem octets_succ (size n : Nat) :
    octets (size + 1) n = octets size (n / 256) ++ [UInt8.ofNat n] := by
  rw [octets, List.range_succ, List.map_append, List.map_singleton]
  congr 1
  · refine List.map_congr_left fun i hi => ?_
    have hlt := List.mem_range.mp hi
    have hshift : 8 * (size + 1 - 1 - i) = 8 + 8 * (size - 1 - i) := by omega
    rw [hshift, Nat.shiftRight_add, Nat.shiftRight_eq_div_pow n 8]
  · simp

theorem length_octets (size n : Nat) : (octets size n).length = size := by
  simp [octets]

theorem ofBigEndian_octets {size n : Nat} (h : n < 256 ^ size) :
    Bytes.ofBigEndian (octets size n) = n := by
  induction size generalizing n with
  | zero =>
    obtain rfl : n = 0 := by simpa using h
    rfl
  | succ size ih =>
    have hdiv : n / 256 < 256 ^ size := Nat.div_lt_of_lt_mul (by rwa [Nat.pow_succ'] at h)
    rw [octets_succ, Bytes.ofBigEndian_concat, ih hdiv, UInt8.toNat_ofNat']
    omega

theorem octets_ofBigEndian (b : Bytes) : octets b.length (Bytes.ofBigEndian b) = b := by
  -- the last octet is the remainder, so the string is taken apart from its end
  induction b using List.reverseRec with
  | nil => rfl
  | append_singleton b x ih =>
    have hx := x.toNat_lt
    have hdiv : (Bytes.ofBigEndian b * 256 + x.toNat) / 256 = Bytes.ofBigEndian b := by omega
    have hlast : UInt8.ofNat (Bytes.ofBigEndian b * 256 + x.toNat) = x := by
      rw [← UInt8.toNat_inj, UInt8.toNat_ofNat']
      omega
    rw [List.length_append, List.length_singleton, octets_succ, Bytes.ofBigEndian_concat, hdiv, ih,
      hlast]

/-! ## Padding -/

theorem length_pad {size : Nat} (noise : Nat → UInt8) {message : Bytes}
    (h : message.length + 3 ≤ size) : (pad size noise message).length = size := by
  simp [pad]
  omega

/-- Padding is recognised and removed. -/
theorem unpad?_pad {size : Nat} {noise : Nat → UInt8} {message : Bytes}
    (h : message.length + 11 ≤ size) : unpad? (pad size noise message) = some message := by
  unfold pad unpad?
  generalize hfill : ((List.range (size - 3 - message.length)).map fun i =>
    if noise i = 0 then 1 else noise i) = fill
  have hlength : fill.length = size - 3 - message.length := by simp [← hfill]
  have hnonzero : ∀ x ∈ fill, (x != 0) = true := by
    intro x hx
    rw [← hfill] at hx
    obtain ⟨i, -, rfl⟩ := List.mem_map.mp hx
    by_cases hi : noise i = 0 <;> simp [hi]
  have hnoise : (fill ++ 0 :: message).takeWhile (· != 0) = fill := by
    rw [List.takeWhile_append_of_pos hnonzero]
    simp
  simp only [List.cons_append, hnoise]
  rw [if_pos (by simp only [List.length_append, List.length_cons]; omega), ← List.drop_drop,
    List.drop_left]
  rfl

/-- A padded message is below a modulus of its size. -/
theorem ofBigEndian_pad_lt {k : PublicKey} (noise : Nat → UInt8) {message : Bytes}
    (h : message.length + 11 ≤ k.size) :
    Bytes.ofBigEndian (pad k.size noise message) < k.modulus := by
  have hlength := length_pad noise (show message.length + 3 ≤ k.size by omega)
  have hpos : k.modulus ≠ 0 := by
    intro hzero
    rw [PublicKey.size, if_pos hzero] at h
    omega
  have hpow : 256 ^ (k.size - 1) ≤ k.modulus := by
    have hsize : 8 * (k.size - 1) ≤ k.modulus.log2 := by
      rw [PublicKey.size, if_neg hpos]
      omega
    calc 256 ^ (k.size - 1) = 2 ^ (8 * (k.size - 1)) := by rw [Nat.pow_mul]
      _ ≤ 2 ^ k.modulus.log2 := Nat.pow_le_pow_right (by decide) hsize
      _ ≤ k.modulus := Nat.log2_self_le hpos
  -- the first octet is zero, so the others already make the number
  obtain ⟨r, hr⟩ : ∃ r, pad k.size noise message = 0 :: r := ⟨_, rfl⟩
  have hvalue : Bytes.ofBigEndian (0 :: r) = Bytes.ofBigEndian r := by simp [Bytes.ofBigEndian]
  have hshort : r.length = k.size - 1 := by
    rw [hr, List.length_cons] at hlength
    omega
  rw [hr, hvalue]
  exact Nat.lt_of_lt_of_le (hshort ▸ Bytes.ofBigEndian_lt r) hpow

/-! ## Sealing and opening -/

/-- A modulus is a number of its size. -/
theorem PublicKey.modulus_lt (k : PublicKey) : k.modulus < 256 ^ k.size := by
  by_cases hpos : k.modulus = 0
  · rw [hpos]
    exact Nat.pow_pos (by decide)
  · calc k.modulus < 2 ^ (k.modulus.log2 + 1) := Nat.lt_log2_self
      _ ≤ 2 ^ (8 * k.size) := by
        refine Nat.pow_le_pow_right (by decide) ?_
        rw [PublicKey.size, if_neg hpos]
        omega
      _ = 256 ^ k.size := by rw [Nat.pow_mul]

/-- **What was sealed under a public key is opened with the private key.** -/
theorem decrypt_of_encrypt {k : PrivateKey} (hk : k.Sound) {noise : Nat → UInt8}
    {message sealed : Bytes} (h : encrypt k.shared noise message = .ok sealed) :
    decrypt k sealed = .ok message := by
  unfold encrypt at h
  split at h
  · cases h
  · rename_i hroom
    have hroom : message.length + 11 ≤ k.shared.size := by omega
    have hpad := ofBigEndian_pad_lt noise hroom
    cases h
    generalize hb : Bytes.ofBigEndian (pad k.shared.size noise message) = b at hpad
    have hlt : powMod k.shared.modulus b k.shared.exponent < k.shared.modulus := by
      rw [powMod_eq]
      exact Nat.mod_lt _ (by omega)
    have hvalue := ofBigEndian_octets (Nat.lt_trans hlt k.shared.modulus_lt)
    have hback : octets k.shared.size b = pad k.shared.size noise message := by
      have := octets_ofBigEndian (pad k.shared.size noise message)
      rwa [hb, length_pad noise (by omega)] at this
    simp only [decrypt, hvalue]
    rw [if_pos ⟨hlt, by omega⟩, powMod_powMod hk hpad, hback, unpad?_pad hroom]

/-- A sealed message has the size of the modulus. -/
theorem length_of_encrypt {k : PublicKey} {noise : Nat → UInt8} {message sealed : Bytes}
    (h : encrypt k noise message = .ok sealed) : sealed.length = k.size := by
  unfold encrypt at h
  split at h
  · cases h
  · cases h
    exact length_octets _ _

/-- A message that leaves room for the padding is sealed. -/
theorem encrypt_isOk {k : PublicKey} {message : Bytes} (h : message.length + 11 ≤ k.size)
    (noise : Nat → UInt8) : ∃ sealed, encrypt k noise message = .ok sealed := by
  rw [encrypt, if_neg (by omega)]
  exact ⟨_, rfl⟩

end TunnelRelay.Rsa
