import TunnelRelay.Bytes
import Mathlib.Algebra.Group.Nat.Defs
import Mathlib.Data.List.Basic
import Mathlib.Data.List.Induction
import Mathlib.Tactic.Common

/-!
# Round trips of numbers, texts and blocks

What a writer puts behind a length or cuts into blocks, a reader takes back: every wire format below
is put together from these facts.
-/

namespace TunnelRelay.Bytes

/-! ## Texts -/

/-- The octets of a text read back as that text. -/
theorem toText?_ofText (s : String) : toText? (ofText s) = some s := by
  have h : (⟨(ofText s).toArray⟩ : ByteArray) = s.toByteArray := by simp [ofText]
  rw [toText?, h, String.fromUTF8?, dif_pos s.isValidUTF8]
  rfl

/-- No two strings of octets spell the same text. -/
theorem ofText_of_toText? {b : Bytes} {s : String} (h : toText? b = some s) : ofText s = b := by
  simp only [toText?, String.fromUTF8?] at h
  split at h
  · cases h
    simp [ofText, String.fromUTF8]
  · cases h

/-- The octets of a text are those of its parts. -/
theorem ofText_append (s t : String) : ofText (s ++ t) = ofText s ++ ofText t := by
  rw [ofText, ofText, ofText, String.toByteArray_append, ByteArray.toList_data_append]

/-- The octets of a text are those of its characters. -/
theorem ofText_ofList (cs : List Char) :
    ofText (String.ofList cs) = cs.flatMap String.utf8EncodeChar := by
  simp [ofText, List.utf8Encode]

theorem ofText_eq_nil_iff {s : String} : ofText s = [] ↔ s = "" := by
  constructor
  · intro h
    have hsame : toText? (ofText s) = toText? (ofText "") := by rw [h]; rfl
    rw [toText?_ofText, toText?_ofText] at hsame
    exact Option.some.inj hsame
  · rintro rfl
    rfl

/-! ## Fronts -/

/-- A front that is not the whole is shorter. -/
theorem length_lt_of_prefix {a b : Bytes} (h : a <+: b) (hne : a ≠ b) : a.length < b.length :=
  Nat.lt_of_le_of_ne h.length_le fun hlen => hne (h.eq_of_length hlen)

/-- Behind a front that is not the whole something is missing. -/
theorem exists_missing {a b : Bytes} (h : a <+: b) (hne : a ≠ b) :
    ∃ missing, missing ≠ [] ∧ a ++ missing = b := by
  obtain ⟨missing, rfl⟩ := h
  refine ⟨missing, ?_, rfl⟩
  rintro rfl
  exact hne (List.append_nil a).symm

/-! ## Numbers -/

/-- `split?_append` for a prefix whose length is known by another name. -/
theorem split?_of_length {n : Nat} {a : Bytes} (h : a.length = n) (r : Bytes) :
    split? n (a ++ r) = some (a, r) :=
  h ▸ split?_append a r

theorem split?_bigEndian32 (n : Nat) (r : Bytes) :
    split? 4 (bigEndian32 n ++ r) = some (bigEndian32 n, r) :=
  split?_append (bigEndian32 n) r

theorem ofBigEndian_concat (b : Bytes) (x : UInt8) :
    ofBigEndian (b ++ [x]) = ofBigEndian b * 256 + x.toNat := by
  simp [ofBigEndian]

/-- A number in octets is below the power of 256 to their number. -/
theorem ofBigEndian_lt (b : Bytes) : ofBigEndian b < 256 ^ b.length := by
  -- the last octet weighs least, so the string is taken apart from its end
  induction b using List.reverseRec with
  | nil => decide
  | append_singleton b x ih =>
    have hx := x.toNat_lt
    rw [ofBigEndian_concat, List.length_append, List.length_singleton, Nat.pow_succ]
    omega

/-- Four octets are what writing their value gives. -/
theorem bigEndian32_ofBigEndian {b : Bytes} (h : b.length = 4) :
    bigEndian32 (ofBigEndian b) = b := by
  obtain ⟨w, x, y, z, rfl⟩ : ∃ w x y z, b = [w, x, y, z] := by
    match b, h with
    | [w, x, y, z], _ => exact ⟨w, x, y, z, rfl⟩
  have hw := w.toNat_lt
  have hx := x.toNat_lt
  have hy := y.toNat_lt
  have hz := z.toNat_lt
  simp only [bigEndian32, ofBigEndian, List.foldl_cons, List.foldl_nil, List.cons.injEq, and_true,
    ← UInt8.toNat_inj, UInt8.toNat_ofNat']
  omega

/-- Two octets are what writing their value gives. -/
theorem bigEndian16_ofBigEndian {b : Bytes} (h : b.length = 2) :
    bigEndian16 (UInt16.ofNat (ofBigEndian b)) = b := by
  obtain ⟨x, y, rfl⟩ : ∃ x y, b = [x, y] := by
    match b, h with
    | [x, y], _ => exact ⟨x, y, rfl⟩
  have hx := x.toNat_lt
  have hy := y.toNat_lt
  simp only [bigEndian16, ofBigEndian, List.foldl_cons, List.foldl_nil, List.cons.injEq, and_true,
    ← UInt8.toNat_inj, UInt8.toNat_ofNat', UInt16.toNat_ofNat']
  omega

theorem ofLittleEndian_eq_ofBigEndian_reverse (b : Bytes) :
    ofLittleEndian b = ofBigEndian b.reverse := by
  simp [ofLittleEndian, ofBigEndian, List.foldl_reverse, Nat.add_comm, Nat.mul_comm]

theorem ofLittleEndian_lt (b : Bytes) : ofLittleEndian b < 256 ^ b.length := by
  rw [ofLittleEndian_eq_ofBigEndian_reverse, ← List.length_reverse]
  exact ofBigEndian_lt b.reverse

theorem ofLittleEndian_littleEndian32 {n : Nat} (h : n < UInt32.size) :
    ofLittleEndian (littleEndian32 n) = n := by
  rw [ofLittleEndian_eq_ofBigEndian_reverse, littleEndian32, List.reverse_reverse,
    ofBigEndian_bigEndian32 h]

@[simp] theorem length_littleEndian32 (n : Nat) : (littleEndian32 n).length = 4 := by
  simp [littleEndian32]

/-! ## Blocks -/

theorem blocks_nil (n : Nat) : blocks n [] = [] := by
  rw [blocks]
  simp

/-- The first block of a string that begins with `n` octets. -/
theorem blocks_append {n : Nat} (hn : 0 < n) {a : Bytes} (ha : a.length = n) (r : Bytes) :
    blocks n (a ++ r) = a :: blocks n r := by
  have hne : ¬(n = 0 ∨ a ++ r = []) := by
    rintro (h | h)
    · omega
    · obtain ⟨rfl, -⟩ := List.append_eq_nil_iff.mp h
      simp at ha
      omega
  rw [blocks, dif_neg hne, ← ha, List.take_left, List.drop_left]

/-- Whole blocks come back out of the string they were joined to. -/
theorem blocks_flatten {n : Nat} (hn : 0 < n) (bs : List Bytes) (h : ∀ b ∈ bs, b.length = n) :
    blocks n bs.flatten = bs := by
  induction bs with
  | nil => exact blocks_nil n
  | cons b bs ih =>
    rw [List.flatten_cons, blocks_append hn (h b (by simp)),
      ih fun x hx => h x (List.mem_cons_of_mem b hx)]

/-- A string of whole blocks is cut without loss, and every piece is a block. -/
theorem blocks_spec {n : Nat} (hn : 0 < n) (b : Bytes) (h : n ∣ b.length) :
    (blocks n b).flatten = b ∧ ∀ x ∈ blocks n b, x.length = n := by
  obtain ⟨k, hk⟩ := h
  -- induction on the number of blocks
  induction k generalizing b with
  | zero =>
    obtain rfl := List.length_eq_zero_iff.mp hk
    simp [blocks_nil]
  | succ k ih =>
    have hle : n ≤ b.length := hk ▸ Nat.le_mul_of_pos_right n k.succ_pos
    have htake : (b.take n).length = n := by simp [hle]
    have hdrop : (b.drop n).length = n * k := by rw [List.length_drop, hk, Nat.mul_succ]; omega
    obtain ⟨hflat, hlen⟩ := ih (b.drop n) hdrop
    have hcons : blocks n b = b.take n :: blocks n (b.drop n) := by
      conv_lhs => rw [← List.take_append_drop n b]
      exact blocks_append hn htake _
    rw [hcons]
    refine ⟨by rw [List.flatten_cons, hflat, List.take_append_drop], ?_⟩
    intro x hx
    rcases List.mem_cons.mp hx with rfl | hx
    · exact htake
    · exact hlen x hx

/-- Working on a string block by block and cutting the result gives the worked blocks. -/
theorem blocks_flatMap {n : Nat} (hn : 0 < n) {f : Bytes → Bytes}
    (hf : ∀ b, b.length = n → (f b).length = n) {b : Bytes} (h : n ∣ b.length) :
    blocks n ((blocks n b).flatMap f) = (blocks n b).map f := by
  rw [List.flatMap_def]
  refine blocks_flatten hn _ fun x hx => ?_
  obtain ⟨y, hy, rfl⟩ := List.mem_map.mp hx
  exact hf y ((blocks_spec hn b h).2 y hy)

/-- Work on each block that keeps its length keeps the length of the string. -/
theorem length_flatMap_blocks {n : Nat} (hn : 0 < n) {f : Bytes → Bytes}
    (hf : ∀ b, b.length = n → (f b).length = n) {b : Bytes} (h : n ∣ b.length) :
    ((blocks n b).flatMap f).length = b.length := by
  obtain ⟨hflat, hlen⟩ := blocks_spec hn b h
  conv_rhs => rw [← hflat]
  rw [List.length_flatMap, List.length_flatten]
  congr 1
  refine List.map_congr_left fun x hx => ?_
  rw [hf x (hlen x hx), hlen x hx]

/-- Undoing the work on each block undoes it on the string. -/
theorem flatMap_blocks_flatMap {n : Nat} (hn : 0 < n) {f g : Bytes → Bytes}
    (hf : ∀ b, b.length = n → (f b).length = n) (hg : ∀ b, b.length = n → g (f b) = b)
    {b : Bytes} (h : n ∣ b.length) :
    (blocks n ((blocks n b).flatMap f)).flatMap g = b := by
  obtain ⟨hflat, hlen⟩ := blocks_spec hn b h
  rw [blocks_flatMap hn hf h, List.flatMap_def, List.map_map]
  have hid : (blocks n b).map (g ∘ f) = (blocks n b).map id :=
    List.map_congr_left fun x hx => hg x (hlen x hx)
  rw [hid, List.map_id, hflat]

end TunnelRelay.Bytes
