import TunnelRelay.Cipher.Blowfish
import TunnelRelay.Proofs.Cipher.Ecb
import Mathlib.Tactic.Common

/-!
# Blowfish permutes blocks

A Feistel round is undone by the same round after its halves are exchanged, whatever the round
function is. So the cipher with its round keys in reverse order undoes the cipher, and nothing has
to be known of the digits of π or of the key schedule but the number of round keys.
-/

namespace TunnelRelay.Blowfish

/-! ## Rounds -/

/-- A round key added to the left half. -/
def whiten (k : UInt32) (s : UInt32 × UInt32) : UInt32 × UInt32 := (s.1 ^^^ k, s.2)

/-- A round without its key: the mangled left half goes to the right, and the halves exchange. -/
def turn (boxes : Array UInt32) (s : UInt32 × UInt32) : UInt32 × UInt32 :=
  (s.2 ^^^ mangle boxes s.1, s.1)

/-- The rounds between the first key and the last. -/
def rounds (boxes : Array UInt32) (ks : List UInt32) (s : UInt32 × UInt32) : UInt32 × UInt32 :=
  ks.foldl (fun s k => whiten k (turn boxes s)) s

variable (boxes : Array UInt32)

theorem xor_xor_self (a b : UInt32) : a ^^^ b ^^^ b = a := by
  rw [UInt32.xor_assoc, UInt32.xor_self, UInt32.xor_zero]

theorem whiten_whiten (k : UInt32) (s : UInt32 × UInt32) : whiten k (whiten k s) = s := by
  simp only [whiten, xor_xor_self]

/-- After its halves are exchanged a round undoes itself. -/
theorem whiten_turn_swap (k : UInt32) (s : UInt32 × UInt32) :
    whiten k (turn boxes (whiten k (turn boxes s)).swap) = s.swap := by
  obtain ⟨l, r⟩ := s
  have h : r ^^^ mangle boxes l ^^^ k ^^^ mangle boxes l = r ^^^ k := by
    rw [UInt32.xor_assoc r, UInt32.xor_comm (mangle boxes l), ← UInt32.xor_assoc, xor_xor_self]
  simp only [whiten, turn, Prod.swap_prod_mk, h, xor_xor_self]

/-- The rounds with their keys in reverse order undo the rounds. -/
theorem rounds_reverse (ks : List UInt32) (s : UInt32 × UInt32) :
    rounds boxes ks.reverse (rounds boxes ks s).swap = s.swap := by
  induction ks generalizing s with
  | nil => rfl
  | cons k ks ih =>
    have hstep (t : UInt32 × UInt32) : rounds boxes (ks.reverse ++ [k]) t =
        whiten k (turn boxes (rounds boxes ks.reverse t)) := by simp [rounds]
    rw [List.reverse_cons, hstep]
    change whiten k (turn boxes (rounds boxes ks.reverse
      (rounds boxes ks (whiten k (turn boxes s))).swap)) = s.swap
    rw [ih, whiten_turn_swap]

/-- The first and the last key stand outside the rounds, and the last exchange does not happen. -/
theorem feistel_eq (k q : UInt32) (ks : List UInt32) (s : UInt32 × UInt32) :
    feistel boxes (k :: (ks ++ [q])) s.1 s.2 = whiten q (rounds boxes ks (whiten k s)).swap := by
  -- the key in front is whitened in, and the next one takes its place
  induction ks generalizing k s with
  | nil => rfl
  | cons p ks ih =>
    have hcons : feistel boxes (k :: (p :: ks ++ [q])) s.1 s.2 =
        feistel boxes (p :: (ks ++ [q])) (turn boxes (whiten k s)).1
          (turn boxes (whiten k s)).2 := by
      cases ks <;> rfl
    rw [hcons, ih]
    rfl

/-- **With its keys in reverse order the cipher undoes itself**, if there are at least two. -/
theorem feistel_reverse {ks : List UInt32} (h : 2 ≤ ks.length) (l r : UInt32) :
    feistel boxes ks.reverse (feistel boxes ks l r).1 (feistel boxes ks l r).2 = (l, r) := by
  obtain ⟨k, ks, rfl⟩ := List.exists_cons_of_length_pos (show 0 < ks.length by omega)
  have hne : ks ≠ [] := List.ne_nil_of_length_pos (by simp at h; omega)
  obtain ⟨ks, q, rfl⟩ : ∃ ks' q, ks = ks' ++ [q] :=
    ⟨ks.dropLast, ks.getLast hne, (List.dropLast_append_getLast hne).symm⟩
  have hreverse : (k :: (ks ++ [q])).reverse = q :: (ks.reverse ++ [k]) := by simp
  rw [hreverse, feistel_eq, show feistel boxes (k :: (ks ++ [q])) l r = _ from
    feistel_eq boxes k q ks (l, r), whiten_whiten, rounds_reverse, Prod.swap_swap, whiten_whiten]

/-! ## Blocks -/

/-- The four octets of a word, read and written. -/
theorem bigEndian32_word {b : Bytes} (h : b.length = 4) :
    Bytes.bigEndian32 (UInt32.ofNat (Bytes.ofBigEndian b)).toNat = b := by
  have hlt := Bytes.ofBigEndian_lt b
  rw [h] at hlt
  rw [UInt32.toNat_ofNat_of_lt' hlt, Bytes.bigEndian32_ofBigEndian h]

theorem word_bigEndian32 (x : UInt32) :
    UInt32.ofNat (Bytes.ofBigEndian (Bytes.bigEndian32 x.toNat)) = x := by
  rw [Bytes.ofBigEndian_bigEndian32 x.toNat_lt, UInt32.ofNat_toNat]

theorem length_transform (ks : List UInt32) (b : Bytes) : (transform boxes ks b).length = 8 := by
  simp [transform]

theorem transform_reverse {ks : List UInt32} (h : 2 ≤ ks.length) {b : Bytes} (hb : b.length = 8) :
    transform boxes ks.reverse (transform boxes ks b) = b := by
  have hleft : (b.take 4).length = 4 := by simp [hb]
  have hright : (b.drop 4).length = 4 := by simp [hb]
  have htake (x y : Nat) : (Bytes.bigEndian32 x ++ Bytes.bigEndian32 y).take 4 =
      Bytes.bigEndian32 x := rfl
  have hdrop (x y : Nat) : (Bytes.bigEndian32 x ++ Bytes.bigEndian32 y).drop 4 =
      Bytes.bigEndian32 y := rfl
  simp only [transform, htake, hdrop, word_bigEndian32, feistel_reverse boxes h,
    bigEndian32_word hleft, bigEndian32_word hright, List.take_append_drop]

/-! ## The key schedule -/

theorem size_replaceRounds (is : List Nat) (p : Array UInt32) (l r : UInt32) :
    (replaceRounds boxes p l r is).1.size = p.size := by
  induction is generalizing p l r with
  | nil => rfl
  | cons i is ih => simp only [replaceRounds, ih, Array.size_setIfInBounds]

theorem size_digits : digits.size = 18 + 4 * 256 := by
  rw [digits, Pi.words, Array.size_ofFn]

/-- A key has eighteen round keys. -/
theorem length_rounds (key : Bytes) : (schedule key).rounds.length = 18 := by
  simp only [schedule, Array.length_toList, size_replaceRounds, List.size_toArray,
    List.length_zipWith, List.length_take, size_digits, keyWords, List.length_map,
    List.length_range]
  decide

/-- **Blowfish is a lawful block cipher.** -/
theorem cipher_lawful : cipher.Lawful where
  blockSize_pos := by decide
  blockSize_lt := by decide
  permutes := by
    intro key f hf
    simp only [cipher] at hf
    split at hf
    · have hlen : 2 ≤ (schedule key).rounds.length := by rw [length_rounds]; decide
      generalize schedule key = k at hf hlen
      cases hf
      refine ⟨fun b _ => length_transform _ _ b, fun b _ => length_transform _ _ b,
        fun b hb => transform_reverse _ hlen hb, fun b hb => ?_⟩
      have hlen' : 2 ≤ k.rounds.reverse.length := by rwa [List.length_reverse]
      have hback := transform_reverse k.boxes hlen' hb
      rwa [List.reverse_reverse] at hback
    · cases hf

end TunnelRelay.Blowfish
