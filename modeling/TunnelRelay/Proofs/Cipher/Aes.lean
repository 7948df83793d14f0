import TunnelRelay.Cipher.Aes
import TunnelRelay.Proofs.Cipher.Ecb
import Mathlib.Data.Fintype.EquivFin
import Mathlib.Tactic.Common

/-!
# AES permutes blocks

Each part of a round is undone by its counterpart. For the substitution this is its table: no octet
stands there twice. For the mixing of columns it is algebra that needs of doubling only that it is
linear, because the fourth power of the matrix is the identity already as a matrix of polynomials.
-/

namespace TunnelRelay.Aes

/-! ## The substitution -/

/-- The table of the substitution. -/
def substitutionTable : List Nat :=
  [0x63, 0x7c, 0x77, 0x7b, 0xf2, 0x6b, 0x6f, 0xc5, 0x30, 0x01, 0x67, 0x2b, 0xfe, 0xd7, 0xab, 0x76,
   0xca, 0x82, 0xc9, 0x7d, 0xfa, 0x59, 0x47, 0xf0, 0xad, 0xd4, 0xa2, 0xaf, 0x9c, 0xa4, 0x72, 0xc0,
   0xb7, 0xfd, 0x93, 0x26, 0x36, 0x3f, 0xf7, 0xcc, 0x34, 0xa5, 0xe5, 0xf1, 0x71, 0xd8, 0x31, 0x15,
   0x04, 0xc7, 0x23, 0xc3, 0x18, 0x96, 0x05, 0x9a, 0x07, 0x12, 0x80, 0xe2, 0xeb, 0x27, 0xb2, 0x75,
   0x09, 0x83, 0x2c, 0x1a, 0x1b, 0x6e, 0x5a, 0xa0, 0x52, 0x3b, 0xd6, 0xb3, 0x29, 0xe3, 0x2f, 0x84,
   0x53, 0xd1, 0x00, 0xed, 0x20, 0xfc, 0xb1, 0x5b, 0x6a, 0xcb, 0xbe, 0x39, 0x4a, 0x4c, 0x58, 0xcf,
   0xd0, 0xef, 0xaa, 0xfb, 0x43, 0x4d, 0x33, 0x85, 0x45, 0xf9, 0x02, 0x7f, 0x50, 0x3c, 0x9f, 0xa8,
   0x51, 0xa3, 0x40, 0x8f, 0x92, 0x9d, 0x38, 0xf5, 0xbc, 0xb6, 0xda, 0x21, 0x10, 0xff, 0xf3, 0xd2,
   0xcd, 0x0c, 0x13, 0xec, 0x5f, 0x97, 0x44, 0x17, 0xc4, 0xa7, 0x7e, 0x3d, 0x64, 0x5d, 0x19, 0x73,
   0x60, 0x81, 0x4f, 0xdc, 0x22, 0x2a, 0x90, 0x88, 0x46, 0xee, 0xb8, 0x14, 0xde, 0x5e, 0x0b, 0xdb,
   0xe0, 0x32, 0x3a, 0x0a, 0x49, 0x06, 0x24, 0x5c, 0xc2, 0xd3, 0xac, 0x62, 0x91, 0x95, 0xe4, 0x79,
   0xe7, 0xc8, 0x37, 0x6d, 0x8d, 0xd5, 0x4e, 0xa9, 0x6c, 0x56, 0xf4, 0xea, 0x65, 0x7a, 0xae, 0x08,
   0xba, 0x78, 0x25, 0x2e, 0x1c, 0xa6, 0xb4, 0xc6, 0xe8, 0xdd, 0x74, 0x1f, 0x4b, 0xbd, 0x8b, 0x8a,
   0x70, 0x3e, 0xb5, 0x66, 0x48, 0x03, 0xf6, 0x0e, 0x61, 0x35, 0x57, 0xb9, 0x86, 0xc1, 0x1d, 0x9e,
   0xe1, 0xf8, 0x98, 0x11, 0x69, 0xd9, 0x8e, 0x94, 0x9b, 0x1e, 0x87, 0xe9, 0xce, 0x55, 0x28, 0xdf,
   0x8c, 0xa1, 0x89, 0x0d, 0xbf, 0xe6, 0x42, 0x68, 0x41, 0x99, 0x2d, 0x0f, 0xb0, 0x54, 0xbb, 0x16]

theorem substitution_table :
    (List.range 256).map (fun i => (substitution (UInt8.ofNat i)).toNat) = substitutionTable := by
  decide +kernel

theorem sub_eq_substitution (b : UInt8) : sub b = substitution b := by
  have hlt : b.toNat < 256 := b.toNat_lt
  simp [sub, substitutes, Array.getD, hlt]

/-- Substitution looks octets up in the table. -/
theorem sub_eq_table : sub = fun b => UInt8.ofNat (substitutionTable.getD b.toNat 0) := by
  funext b
  have hlt : b.toNat < 256 := b.toNat_lt
  rw [sub_eq_substitution, ← substitution_table, List.getD_eq_getElem?_getD, List.getElem?_map,
    List.getElem?_range hlt]
  simp

/-- No octet is the substitution of two. -/
theorem sub_injective : Function.Injective sub := by
  intro x y h
  have hnodup : ((List.range 256).map
      (fun i => (substitution (UInt8.ofNat i)).toNat)).Nodup := by
    rw [substitution_table]
    decide +kernel
  have hmem (b : UInt8) : b.toNat ∈ List.range 256 := List.mem_range.mpr b.toNat_lt
  have hnat := List.inj_on_of_nodup_map hnodup (hmem x) (hmem y) (by
    simpa [sub_eq_substitution] using congrArg UInt8.toNat h)
  exact UInt8.toNat_inj.mp hnat

/-- A table filled by setting place `f i` to `g i` in turn holds `g i` at place `f i`. -/
theorem getElem?_foldl_set {α : Type} {f : Nat → Nat} {g : Nat → α} (t : Array α) {n : Nat}
    (hf : ∀ i < n, ∀ j < n, f i = f j → i = j) (hsize : ∀ i < n, f i < t.size) :
    let filled := (List.range n).foldl (fun t i => t.setIfInBounds (f i) (g i)) t
    filled.size = t.size ∧ ∀ i < n, filled[f i]? = some (g i) := by
  induction n with
  | zero => exact ⟨rfl, fun i hi => absurd hi (Nat.not_lt_zero i)⟩
  | succ n ih =>
    obtain ⟨hfilled, hget⟩ := ih (fun i hi j hj => hf i (by omega) j (by omega))
      (fun i hi => hsize i (by omega))
    simp only [List.range_succ, List.foldl_append, List.foldl_cons, List.foldl_nil,
      Array.size_setIfInBounds]
    refine ⟨hfilled, fun i hi => ?_⟩
    rw [Array.getElem?_setIfInBounds]
    -- the last place is set last, and setting it leaves the others alone
    by_cases hlast : i = n
    · subst hlast
      rw [if_pos rfl, if_pos (hfilled ▸ hsize i hi)]
    · rw [if_neg fun h => hlast (hf i hi n (by omega) h.symm)]
      exact hget i (by omega)

/-- A substitution is undone. -/
theorem unsub_sub (b : UInt8) : unsub (sub b) = b := by
  have hpreimages : preimages = (List.range 256).foldl
      (fun t i => t.setIfInBounds (sub (UInt8.ofNat i)).toNat (UInt8.ofNat i))
      (Array.replicate 256 0) := by
    refine List.foldl_ext _ _ _ fun t i hi => ?_
    rw [sub, UInt8.toNat_ofNat_of_lt' (List.mem_range.mp hi)]
  have hinjective : ∀ i < 256, ∀ j < 256,
      (sub (UInt8.ofNat i)).toNat = (sub (UInt8.ofNat j)).toNat → i = j := by
    intro i hi j hj h
    have hnat := congrArg UInt8.toNat (sub_injective (UInt8.toNat_inj.mp h))
    rwa [UInt8.toNat_ofNat_of_lt' hi, UInt8.toNat_ofNat_of_lt' hj] at hnat
  have hsize : ∀ i < 256, (sub (UInt8.ofNat i)).toNat < (Array.replicate 256 (0 : UInt8)).size := by
    intro i _
    rw [Array.size_replicate]
    exact UInt8.toNat_lt _
  have htable := (getElem?_foldl_set (g := UInt8.ofNat) _ hinjective hsize).2 b.toNat b.toNat_lt
  rw [UInt8.ofNat_toNat, ← hpreimages] at htable
  rw [unsub, Array.getD_eq_getD_getElem?, htable, Option.getD_some]

/-- Every octet is a substitution, so substitution undoes its inverse too. -/
theorem sub_unsub (b : UInt8) : sub (unsub b) = b := by
  have hfinite : Finite UInt8 := Finite.of_injective UInt8.toFin fun _ _ => UInt8.toFin_inj.mp
  obtain ⟨x, rfl⟩ := Finite.injective_iff_surjective.mp sub_injective b
  rw [unsub_sub]

/-! ## Doubling -/

theorem and_eq_zero_or (b : UInt8) : b &&& 0x80 = 0 ∨ b &&& 0x80 = 0x80 := by
  have hall : ∀ i : Fin 256, UInt8.ofNat i &&& 0x80 = 0 ∨ UInt8.ofNat i &&& 0x80 = 0x80 := by
    decide +kernel
  simpa using hall ⟨b.toNat, b.toNat_lt⟩

theorem xor_and (a b c : UInt8) : (a ^^^ b) &&& c = (a &&& c) ^^^ (b &&& c) := by
  apply UInt8.toBitVec_inj.mp
  ext i hi
  simp [Bool.and_xor_distrib_right]

theorem xor_left_comm (a b c : UInt8) : a ^^^ (b ^^^ c) = b ^^^ (a ^^^ c) := by
  rw [← UInt8.xor_assoc, UInt8.xor_comm a, UInt8.xor_assoc]

theorem xor_xor_cancel (a b : UInt8) : a ^^^ (a ^^^ b) = b := by
  rw [← UInt8.xor_assoc, UInt8.xor_self, UInt8.zero_xor]

/-- Doubling is linear. -/
theorem double_xor (a b : UInt8) : double (a ^^^ b) = double a ^^^ double b := by
  unfold double
  rw [xor_and, UInt8.shiftLeft_xor]
  obtain ha | ha := and_eq_zero_or a <;> obtain hb | hb := and_eq_zero_or b <;>
    simp [ha, hb, UInt8.xor_assoc, UInt8.xor_comm, xor_left_comm]

/-! ## Columns -/

namespace Column

/-- The product with the circulant matrix whose first row is 5 0 4 0. -/
def mixTwice (x : Column) : Column :=
  let row (a c : UInt8) := a ^^^ double (double a) ^^^ double (double c)
  ⟨row x.b0 x.b2, row x.b1 x.b3, row x.b2 x.b0, row x.b3 x.b1⟩

theorem mix_mix (x : Column) : x.mix.mix = x.mixTwice := by
  have row (a b c d : UInt8) :
      double (double a ^^^ (double b ^^^ b) ^^^ c ^^^ d)
        ^^^ (double (double b ^^^ (double c ^^^ c) ^^^ d ^^^ a)
          ^^^ (double b ^^^ (double c ^^^ c) ^^^ d ^^^ a))
        ^^^ (double c ^^^ (double d ^^^ d) ^^^ a ^^^ b)
        ^^^ (double d ^^^ (double a ^^^ a) ^^^ b ^^^ c) =
      a ^^^ double (double a) ^^^ double (double c) := by
    simp only [double_xor, UInt8.xor_assoc, UInt8.xor_comm, xor_left_comm, xor_xor_cancel]
  simp only [mix, mixTwice, row]

theorem mixTwice_mixTwice (x : Column) : x.mixTwice.mixTwice = x := by
  have row (a c : UInt8) :
      a ^^^ double (double a) ^^^ double (double c)
        ^^^ double (double (a ^^^ double (double a) ^^^ double (double c)))
        ^^^ double (double (c ^^^ double (double c) ^^^ double (double a))) = a := by
    simp only [double_xor, UInt8.xor_assoc, UInt8.xor_comm, xor_left_comm, xor_xor_cancel,
      UInt8.xor_self, UInt8.xor_zero]
  simp only [mixTwice, row]

theorem unmix_eq (x : Column) : x.unmix = x.mix.mixTwice := by
  have row (a b c d : UInt8) :
      double a ^^^ double (double a) ^^^ double (double (double a))
        ^^^ (b ^^^ double b ^^^ double (double (double b)))
        ^^^ (c ^^^ double (double c) ^^^ double (double (double c)))
        ^^^ (d ^^^ double (double (double d))) =
      double a ^^^ (double b ^^^ b) ^^^ c ^^^ d
        ^^^ double (double (double a ^^^ (double b ^^^ b) ^^^ c ^^^ d))
        ^^^ double (double (double c ^^^ (double d ^^^ d) ^^^ a ^^^ b)) := by
    simp only [double_xor, UInt8.xor_assoc, UInt8.xor_comm, xor_left_comm, xor_xor_cancel]
  simp only [mix, unmix, mixTwice, row]

theorem unmix_mix (x : Column) : x.mix.unmix = x := by
  rw [unmix_eq, mix_mix, mixTwice_mixTwice]

theorem mix_unmix (x : Column) : x.unmix.mix = x := by
  rw [unmix_eq, ← mix_mix, mix_mix, mix_mix, mixTwice_mixTwice]

theorem add_add (x k : Column) : (x.add k).add k = x := by
  simp only [add, UInt8.xor_assoc, UInt8.xor_self, UInt8.xor_zero]

theorem map_map_of_inverse {f g : UInt8 → UInt8} (h : ∀ b, g (f b) = b) (x : Column) :
    (x.map f).map g = x := by
  simp only [map, h]

end Column

/-! ## Blocks -/

namespace Block

theorem shiftRows_unshiftRows (s : Block) : s.unshiftRows.shiftRows = s := rfl

theorem add_add (s k : Block) : (s.add k).add k = s := by
  simp only [add, Column.add_add]

theorem map_map_of_inverse {f g : Column → Column} (h : ∀ x, g (f x) = x) (s : Block) :
    (s.map f).map g = s := by
  simp only [map, h]

theorem length_toBytes (s : Block) : s.toBytes.length = 16 := rfl

theorem toBytes_ofBytes {b : Bytes} (h : b.length = 16) : (ofBytes b).toBytes = b := by
  match b, h with
  | [a0, a1, a2, a3, b0, b1, b2, b3, c0, c1, c2, c3, d0, d1, d2, d3], _ => rfl

end Block

/-- Substitution and shift of rows, which begin every round. -/
def confuse (s : Block) : Block := (s.map (·.map sub)).shiftRows

/-- The inverse of `confuse`. -/
def unconfuse (s : Block) : Block := s.unshiftRows.map (·.map unsub)

theorem unconfuse_confuse (s : Block) : unconfuse (confuse s) = s := by
  rw [unconfuse, confuse, Block.unshiftRows_shiftRows,
    Block.map_map_of_inverse (Column.map_map_of_inverse unsub_sub)]

theorem confuse_unconfuse (s : Block) : confuse (unconfuse s) = s := by
  rw [confuse, unconfuse, Block.map_map_of_inverse (Column.map_map_of_inverse sub_unsub),
    Block.shiftRows_unshiftRows]

/-! ## Rounds -/

/-- A mixing round with its key. -/
def round (s k : Block) : Block := ((confuse s).map Column.mix).add k

/-- What undoes a mixing round, up to the confusion of the round before. -/
def unround (s k : Block) : Block := ((unconfuse s).add k).map Column.unmix

/-- The mixing rounds are undone from the last to the first. -/
theorem foldl_unround_round (ks : List Block) (s : Block) :
    ks.reverse.foldl unround (confuse (ks.foldl round s)) = confuse s := by
  induction ks generalizing s with
  | nil => rfl
  | cons k ks ih =>
    rw [List.foldl_cons, List.reverse_cons, List.foldl_append, ih, List.foldl_cons, List.foldl_nil,
      unround, unconfuse_confuse, round, Block.add_add,
      Block.map_map_of_inverse Column.unmix_mix]

theorem foldl_round_unround (ks : List Block) (s : Block) :
    ks.foldl round (unconfuse (ks.reverse.foldl unround s)) = unconfuse s := by
  induction ks generalizing s with
  | nil => rfl
  | cons k ks ih =>
    rw [List.foldl_cons, List.reverse_cons, List.foldl_append, List.foldl_cons, List.foldl_nil,
      round, confuse_unconfuse, unround, Block.map_map_of_inverse Column.mix_unmix, Block.add_add,
      ih]

/-- **AES with a given schedule undoes itself.** -/
theorem Schedule.decrypt_encrypt (k : Schedule) (s : Block) : k.decrypt (k.encrypt s) = s := by
  change (unconfuse (k.middle.reverse.foldl unround
    (((confuse (k.middle.foldl round (s.add k.first))).add k.last).add k.last))).add k.first = s
  rw [Block.add_add, foldl_unround_round, unconfuse_confuse, Block.add_add]

theorem Schedule.encrypt_decrypt (k : Schedule) (s : Block) : k.encrypt (k.decrypt s) = s := by
  change (confuse (k.middle.foldl round (((unconfuse (k.middle.reverse.foldl unround
    (s.add k.last))).add k.first).add k.first))).add k.last = s
  rw [Block.add_add, foldl_round_unround, confuse_unconfuse, Block.add_add]

/-- **AES is a lawful block cipher.** -/
theorem cipher_lawful : cipher.Lawful where
  blockSize_pos := by decide
  blockSize_lt := by decide
  permutes := by
    intro key f hf
    simp only [cipher] at hf
    split at hf
    · cases hf
      refine ⟨fun b _ => Block.length_toBytes _, fun b _ => Block.length_toBytes _,
        fun b hb => ?_, fun b hb => ?_⟩
      · simp only [Block.ofBytes_toBytes, Schedule.decrypt_encrypt, Block.toBytes_ofBytes hb]
      · simp only [Block.ofBytes_toBytes, Schedule.encrypt_decrypt, Block.toBytes_ofBytes hb]
    · cases hf

end TunnelRelay.Aes
