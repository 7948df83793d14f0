import TunnelRelay.Lz4.Decompress
import TunnelRelay.Proofs.Bytes
import TunnelRelay.Proofs.Lz4.Find

/-!
# Compressed strings are expanded

A decoder that has written the string up to some place and reads sequences that spell it from there
accepts them all: the margins that it asks for are those at which the search stops. So a block that
spells a string expands to the string, and decompression undoes compression.
-/

namespace TunnelRelay.Lz4

/-- All of some input. -/
def Source.all (b : Bytes) : Source := ⟨b, b.length⟩

/-! ## Lengths -/

theorem token_halves {a b : Nat} (ha : a ≤ 15) (hb : b ≤ 15) :
    (UInt8.ofNat (16 * a + b) >>> 4).toNat = a ∧ (UInt8.ofNat (16 * a + b) &&& 15).toNat = b := by
  have hall : ∀ a b : Fin 16, (UInt8.ofNat (16 * a.val + b.val) >>> 4).toNat = a.val ∧
      (UInt8.ofNat (16 * a.val + b.val) &&& 15).toNat = b.val := by
    decide +kernel
  exact hall ⟨a, by omega⟩ ⟨b, by omega⟩

/-- The first half of a token is the length of the literals, as far as it goes. -/
theorem token_literals (n copied : Nat) : (token n copied >>> 4).toNat = min n 15 :=
  (token_halves (Nat.min_le_right n 15) (Nat.min_le_right copied 15)).1

/-- The second half of a token is the length of the copy, as far as it goes. -/
theorem token_copied (n copied : Nat) : (token n copied &&& 15).toNat = min copied 15 :=
  (token_halves (Nat.min_le_right n 15) (Nat.min_le_right copied 15)).2

/-- The octets of a long length are added up, if enough is left behind them. -/
theorem extend?_octets {margin m : Nat} (hm : m < 255) (q sum : Nat) {r : Bytes}
    (hr : margin ≤ r.length) :
    extend? margin (List.replicate q 255 ++ [UInt8.ofNat m] ++ r) (q + 1 + r.length) sum =
      some (sum + 255 * q + m, Source.all r) := by
  -- each octet of 255 says that another one follows
  induction q generalizing sum with
  | zero =>
    have hnat : (UInt8.ofNat m).toNat = m := by
      rw [UInt8.toNat_ofNat']
      omega
    have hne : UInt8.ofNat m ≠ 255 := by
      intro h
      rw [h] at hnat
      simp at hnat
      omega
    simp only [List.replicate_zero, List.nil_append, List.singleton_append, extend?]
    rw [if_neg (by omega), if_neg hne, hnat]
    simp [Source.all]
  | succ q ih =>
    simp only [List.replicate_succ, List.cons_append, extend?]
    rw [if_neg (by omega), if_pos trivial,
      show q + 1 + 1 + r.length - 1 = q + 1 + r.length by omega, ih]
    congr 2
    omega

theorem extend?_extension {margin n : Nat} (hn : 15 ≤ n) {r : Bytes} (hr : margin ≤ r.length) :
    extend? margin (extension n ++ r) (extension n ++ r).length 15 = some (n, Source.all r) := by
  have hm : (n - 15) % 255 < 255 := Nat.mod_lt _ (by decide)
  have hlength : (extension n ++ r).length = (n - 15) / 255 + 1 + r.length := by
    simp [extension, Nat.not_lt.mpr hn]
    omega
  rw [hlength, extension, if_neg (Nat.not_lt.mpr hn), extend?_octets hm _ _ hr]
  congr 2
  omega

theorem extension_of_lt {n : Nat} (hn : n < 15) : extension n = [] := if_pos hn

theorem length_extension_pos {n : Nat} (hn : 15 ≤ n) : 0 < (extension n).length := by
  simp [extension, Nat.not_lt.mpr hn]

/-! ## Literals -/

theorem literals_append (out : Array UInt8) (a r : Bytes) :
    literals out a.length (Source.all (a ++ r)) = (out ++ a.toArray, Source.all r) := by
  induction a generalizing out with
  | nil => simp [literals]
  | cons x a ih =>
    have hcons : literals out (x :: a).length (Source.all (x :: a ++ r)) =
        literals (out.push x) a.length (Source.all (a ++ r)) := by
      simp [literals, Source.all]
    rw [hcons, ih]
    congr 1
    apply Array.toList_inj.mp
    simp

/-- Literals in the middle of a block are taken, whether or not strides are wide, if the margins of
a careful decoder are kept. -/
theorem literals?_more (wide : Bool) {room : Nat} {out : Array UInt8} (a : Bytes) {r : Bytes}
    (hroom : out.size + a.length + 12 ≤ room) (hr : 8 ≤ r.length) :
    ∃ wide' sure, literals? wide room (min a.length 15) out
        (Source.all (extension a.length ++ a ++ r)) =
      some (.more wide' sure (out ++ a.toArray) (Source.all r)) := by
  have hcareful : carefulLiterals? room a.length out (Source.all (a ++ r)) =
      some (.more false false (out ++ a.toArray) (Source.all r)) := by
    simp only [carefulLiterals?, literals_append]
    rw [if_neg]
    simp only [Source.all, List.length_append]
    omega
  -- a token has room for 14, and a longer length goes on behind it
  by_cases hlong : 15 ≤ a.length
  · have hpos := length_extension_pos hlong
    have hleft : ¬(Source.all (extension a.length ++ a ++ r)).left ≤ 15 := by
      simp only [Source.all, List.length_append]
      omega
    have hextend : extend? 15 (Source.all (extension a.length ++ a ++ r)).octets
        (Source.all (extension a.length ++ a ++ r)).left 15 =
        some (a.length, Source.all (a ++ r)) := by
      simp only [Source.all, List.append_assoc]
      exact extend?_extension hlong (by rw [List.length_append]; omega)
    rw [literals?, if_pos (Nat.min_eq_right hlong), if_neg hleft, hextend]
    simp only [bind, Option.bind]
    split
    · exact ⟨true, false, by rw [literals_append]⟩
    · exact ⟨false, false, hcareful⟩
  · rw [literals?, Nat.min_eq_left (by omega), if_neg (by omega), extension_of_lt (by omega),
      List.nil_append]
    split
    · exact ⟨true, false, by rw [literals_append]⟩
    · split
      · exact ⟨false, true, by rw [literals_append]⟩
      · exact ⟨false, false, hcareful⟩

/-- The last literals are taken if they fill the room and nothing is behind them. -/
theorem literals?_done (wide : Bool) {room : Nat} {out : Array UInt8} (a : Bytes)
    (hroom : out.size + a.length = room) :
    literals? wide room (min a.length 15) out (Source.all (extension a.length ++ a)) =
      some (.done (out ++ a.toArray)) := by
  have hcareful : carefulLiterals? room a.length out (Source.all a) =
      some (.done (out ++ a.toArray)) := by
    have hmoved := literals_append out a []
    rw [List.append_nil] at hmoved
    rw [carefulLiterals?, if_pos (by omega), if_pos ⟨rfl, by omega⟩, hmoved]
  by_cases hlong : 15 ≤ a.length
  · have hpos := length_extension_pos hlong
    have hleft : ¬(Source.all (extension a.length ++ a)).left ≤ 15 := by
      simp only [Source.all, List.length_append]
      omega
    have hextend : extend? 15 (Source.all (extension a.length ++ a)).octets
        (Source.all (extension a.length ++ a)).left 15 = some (a.length, Source.all a) :=
      extend?_extension hlong hlong
    rw [literals?, if_pos (Nat.min_eq_right hlong), if_neg hleft, hextend]
    simp only [bind, Option.bind]
    rw [if_neg (by omega), hcareful]
  · have hleft : (Source.all a).left < 15 := by
      simp only [Source.all]
      omega
    rw [literals?, Nat.min_eq_left (by omega), if_neg (by omega), extension_of_lt (by omega),
      List.nil_append, if_neg (by omega), if_neg (by omega), hcareful]

/-! ## Copies -/

/-- A copy of octets that stand there again writes the string on. -/
theorem copy_take {src : Bytes} {offset p : Nat} (n : Nat) (hpos : 0 < offset) (hle : offset ≤ p)
    (hend : p + n ≤ src.length)
    (hagrees : ∀ k < n, src.getD (p + k) 0 = src.getD (p + k - offset) 0) :
    copy offset n (src.take p).toArray = (src.take (p + n)).toArray := by
  -- octet by octet, since a copy may read what it has just written
  induction n generalizing p with
  | zero => rfl
  | succ n ih =>
    have hsize : (src.take p).toArray.size = p := by
      rw [List.size_toArray, List.length_take]
      omega
    have hoctet : (src.take p).toArray.getD (p - offset) 0 = src.getD p 0 := by
      have h := hagrees 0 (Nat.succ_pos n)
      rw [Nat.add_zero] at h
      rw [h, Array.getD_eq_getD_getElem?, List.getD_eq_getElem?_getD, List.getElem?_toArray,
        List.getElem?_take_of_lt (by omega)]
    have hpush : (src.take p).toArray.push (src.getD p 0) = (src.take (p + 1)).toArray := by
      have hlt : p < src.length := by omega
      rw [List.push_toArray, List.take_add_one, List.getElem?_eq_getElem hlt,
        List.getD_eq_getElem?_getD, List.getElem?_eq_getElem hlt]
      rfl
    rw [copy, hsize, hoctet, hpush, ih (by omega) (by omega) fun k hk => ?_]
    · rw [Nat.add_assoc, Nat.add_comm 1]
    · have h := hagrees (k + 1) (by omega)
      rwa [← Nat.add_assoc, Nat.add_right_comm] at h

/-- A copy is made, whether or not strides are wide, if five octets of room are left behind it. -/
theorem copy?_some (wide sure : Bool) {room offset copied : Nat} {out : Array UInt8} {r : Bytes}
    (hoffset : offset < 0x10000) (hback : offset ≤ out.size)
    (hroom : out.size + (copied + minMatch) + 5 ≤ room) (hr : 4 ≤ r.length) :
    ∃ wide', copy? wide sure room (min copied 15) out
        (Source.all (UInt8.ofNat offset :: UInt8.ofNat (offset / 256) ::
          (extension copied ++ r))) =
      some (wide', copy offset (copied + minMatch) out, Source.all r) := by
  have hvalue : (UInt8.ofNat offset).toNat + 256 * (UInt8.ofNat (offset / 256)).toNat = offset := by
    rw [UInt8.toNat_ofNat', UInt8.toNat_ofNat']
    omega
  have hleft : (Source.all (UInt8.ofNat offset :: UInt8.ofNat (offset / 256) ::
      (extension copied ++ r))).left - 2 = (extension copied ++ r).length := by
    simp [Source.all]
  -- each way of copying gives the same octets
  have hcopied : ∃ wide', (if out.size < offset then none
      else if wide ∧ out.size + (copied + minMatch) + 64 < room then
        some (true, copy offset (copied + minMatch) out, Source.all r)
      else if sure ∧ min copied 15 ≠ 15 ∧ 8 ≤ offset then
        some (false, copy offset (copied + minMatch) out, Source.all r)
      else if out.size + (copied + minMatch) + 5 ≤ room then
        some (false, copy offset (copied + minMatch) out, Source.all r)
      else none) = some (wide', copy offset (copied + minMatch) out, Source.all r) := by
    rw [if_neg (by omega), if_pos hroom]
    split
    · exact ⟨true, rfl⟩
    · exact ⟨false, by split <;> rfl⟩
  simp only [copy?, Source.all] at hleft ⊢
  by_cases hlong : 15 ≤ copied
  · simp only [hleft, hvalue, extend?_extension hlong hr, bind, Option.bind]
    rw [if_pos (Nat.min_eq_right hlong)]
    exact hcopied
  · have hshort : min copied 15 = copied := Nat.min_eq_left (by omega)
    have hne : ¬copied = 15 := by omega
    simp only [hvalue, bind, Option.bind, hshort, extension_of_lt (show copied < 15 by omega),
      List.nil_append, hne, if_false]
    rw [hshort] at hcopied
    exact hcopied

/-! ## Blocks -/

/-- The octets of a block by its first sequence and the rest of it. -/
theorem encode_cons (s : Sequence) (ss : List Sequence) (final : Bytes) :
    Block.encode ⟨s :: ss, final⟩ = token s.literals.length (s.length - minMatch) ::
      (extension s.literals.length ++ s.literals ++ (UInt8.ofNat s.offset ::
        UInt8.ofNat (s.offset / 256) ::
          (extension (s.length - minMatch) ++ Block.encode ⟨ss, final⟩))) := by
  simp [Block.encode, Sequence.encode]

theorem encode_nil (final : Bytes) :
    Block.encode ⟨[], final⟩ = token final.length 0 :: (extension final.length ++ final) := rfl

/-- Behind a sequence at least a token and five last literals are left. -/
theorem length_encode_of_spells {src : Bytes} {i j : Nat} {ss : List Sequence}
    (h : Spells src i ss j) (hi : i + 5 ≤ src.length) :
    6 ≤ (Block.encode ⟨ss, src.drop j⟩).length := by
  induction h with
  | nil i =>
    simp only [encode_nil, List.length_cons, List.length_append, List.length_drop]
    omega
  | cons hfits _ ih =>
    have hrest := ih hfits.finish
    simp only [encode_cons, List.length_cons, List.length_append]
    omega

/-- There are no more sequences than octets. -/
theorem length_lt_length_encode (ss : List Sequence) (final : Bytes) :
    ss.length < (Block.encode ⟨ss, final⟩).length := by
  induction ss with
  | nil => exact Nat.succ_pos _
  | cons s ss ih =>
    simp only [encode_cons, List.length_cons, List.length_append]
    omega

/-- **A decoder writes the string on** when it reads sequences that spell it. -/
theorem sequences?_of_spells {src : Bytes} {i j fuel : Nat} {ss : List Sequence}
    (h : Spells src i ss j) (hi : i ≤ src.length) (hfuel : ss.length < fuel) (wide : Bool) :
    sequences? src.length fuel wide (src.take i).toArray
      (Source.all (Block.encode ⟨ss, src.drop j⟩)) = some src.toArray := by
  -- induction on what the sequences spell: each takes its literals and its copy off the front
  induction h generalizing fuel wide with
  | nil i =>
    obtain ⟨fuel, rfl⟩ : ∃ n, fuel = n + 1 := ⟨fuel - 1, by omega⟩
    have hsize : (src.take i).toArray.size + (src.drop i).length = src.length := by
      simp
      omega
    have hall : (src.take i).toArray ++ (src.drop i).toArray = src.toArray := by
      rw [List.append_toArray, List.take_append_drop]
    have hliterals := literals?_done wide (src.drop i) hsize
    simp only [encode_nil, sequences?, Source.all, token_literals, List.length_cons,
      Nat.add_sub_cancel] at hliterals ⊢
    simp only [hliterals, bind, Option.bind, hall]
  | @cons i j s ss hfits hrest ih =>
    obtain ⟨fuel, rfl⟩ : ∃ n, fuel = n + 1 := ⟨fuel - 1, by omega⟩
    have hstart := hfits.start
    have hfinish := hfits.finish
    have hmin := hfits.length
    have hsize : (src.take i).toArray.size = i := by
      simp
      omega
    have hleft := length_encode_of_spells hrest hfinish
    have hout : (src.take i).toArray ++ s.literals.toArray =
        (src.take (i + s.literals.length)).toArray := by
      rw [List.append_toArray, List.take_add, ← hfits.literals]
    have hsize' : (src.take (i + s.literals.length)).toArray.size = i + s.literals.length := by
      simp
      omega
    have hlength : s.length - minMatch + minMatch = s.length := Nat.sub_add_cancel hmin
    -- five last literals with their token stand behind any copy
    have hbehind : 8 ≤ (UInt8.ofNat s.offset :: UInt8.ofNat (s.offset / 256) ::
        (extension (s.length - minMatch) ++ Block.encode ⟨ss, src.drop j⟩)).length := by
      simp only [List.length_cons, List.length_append]
      omega
    have hroom : (src.take i).toArray.size + s.literals.length + 12 ≤ src.length := by omega
    obtain ⟨wide₁, sure, hliterals⟩ := literals?_more wide s.literals hroom hbehind
    have hback : s.offset ≤ (src.take (i + s.literals.length)).toArray.size :=
      hsize'.symm ▸ hfits.offset_le
    have hcopy : (src.take (i + s.literals.length)).toArray.size + (s.length - minMatch + minMatch)
        + 5 ≤ src.length := by omega
    obtain ⟨wide₂, hcopied⟩ := copy?_some wide₁ sure hfits.offset_lt hback hcopy
      (show 4 ≤ (Block.encode ⟨ss, src.drop j⟩).length by omega)
    rw [hlength, copy_take s.length hfits.offset_pos hfits.offset_le (by omega) hfits.agrees]
      at hcopied
    simp only [encode_cons, sequences?, Source.all, token_literals, token_copied,
      List.length_cons, Nat.add_sub_cancel] at hliterals hcopied ⊢
    simp only [hliterals, hout, hcopied, bind, Option.bind]
    exact ih (by omega) (by simpa using hfuel) wide₂

/-- A block found in a string expands to the string. -/
theorem expand?_find (src : Bytes) :
    Block.expand? src.length (Block.find src).encode = some src := by
  obtain ⟨j, hj, hspells, hfinal⟩ := find_spec src
  have hblock : Block.find src = ⟨(Block.find src).sequences, src.drop j⟩ := by rw [← hfinal]
  rw [hblock]
  generalize (Block.find src).sequences = ss at hspells
  rw [Block.expand?]
  by_cases hempty : src.length = 0
  · obtain rfl := List.length_eq_zero_iff.mp hempty
    cases hspells with
    | nil => rfl
    | cons hfits => exact absurd hfits.start (by simp)
  · have hsequences := sequences?_of_spells hspells (Nat.zero_le _)
      (length_lt_length_encode ss (src.drop j)) (64 ≤ src.length)
    simp only [Source.all, List.take_zero] at hsequences
    simp only [if_neg hempty, hsequences, Option.map_some]

/-! ## Compression -/

variable {src packed : Bytes}

/-- Compressed octets are the size of the string and the block found in it. -/
theorem compress_eq_ok_iff : compress src = .ok packed ↔ src.length ≤ maxInput ∧
    packed = Bytes.littleEndian32 src.length ++ (Block.find src).encode := by
  unfold compress
  split
  · simp
    omega
  · simp [eq_comm]
    omega

/-- **Decompression undoes compression.** -/
theorem decompress_of_compress (h : compress src = .ok packed) : decompress packed = .ok src := by
  obtain ⟨hle, rfl⟩ := compress_eq_ok_iff.mp h
  have hlt : src.length < 0x80000000 := Nat.lt_of_le_of_lt hle (by decide)
  have hsize := Bytes.ofLittleEndian_littleEndian32 (n := src.length)
    (by simp only [UInt32.size]; omega)
  simp only [decompress, Bytes.split?_of_length (Bytes.length_littleEndian32 _), hsize,
    expand?_find]
  rw [if_neg (by omega), if_neg (by omega)]

/-! ## The length of what is compressed -/

/-- The further octets of a length count 255 each, the first of them from 15 on. -/
theorem length_extension_le (n : Nat) : 255 * (extension n).length ≤ n + 240 := by
  unfold extension
  split
  · simp
  · simp only [List.length_append, List.length_replicate, List.length_singleton]
    omega

/-- A sequence takes no more octets than it stands for, but for one in 255 of them. -/
theorem Sequence.Fits.length_le {src : Bytes} {i : Nat} {s : Sequence} (h : s.Fits src i) :
    255 * (3 + (extension s.literals.length).length + s.literals.length +
      (extension (s.length - minMatch)).length) ≤ 256 * (s.literals.length + s.length) := by
  have hmin : 4 ≤ s.length := h.length
  have hliterals := length_extension_le s.literals.length
  -- a copy that is long enough to need further octets pays for them
  by_cases hshort : s.length - minMatch < 15
  · rw [extension_of_lt hshort, List.length_nil]
    omega
  · have hcopied := length_extension_le (s.length - minMatch)
    simp only [minMatch] at hshort hcopied ⊢
    omega

theorem length_encode_le {src : Bytes} {i j : Nat} {ss : List Sequence} (h : Spells src i ss j)
    (hj : j ≤ src.length) :
    255 * (Block.encode ⟨ss, src.drop j⟩).length + 256 * i ≤ 256 * src.length + 495 := by
  induction h with
  | nil i =>
    have hfinal := length_extension_le (src.drop i).length
    simp only [encode_nil, List.length_cons, List.length_append]
    simp only [List.length_drop] at hfinal ⊢
    omega
  | cons hfits _ ih =>
    have hrest := ih hj
    have hcost := hfits.length_le
    simp only [encode_cons, List.length_cons, List.length_append]
    omega

/-- **Compression adds little**: a size of four octets, one octet in 255 and a few more. -/
theorem length_compress_le (h : compress src = .ok packed) :
    packed.length ≤ src.length + src.length / 255 + 20 := by
  obtain ⟨-, rfl⟩ := compress_eq_ok_iff.mp h
  obtain ⟨j, hj, hspells, hfinal⟩ := find_spec src
  have hlength : 255 * (Block.find src).encode.length + 256 * 0 ≤ 256 * src.length + 495 := by
    have := length_encode_le hspells hj
    rwa [← hfinal] at this
  rw [List.length_append, Bytes.length_littleEndian32]
  omega

end TunnelRelay.Lz4
