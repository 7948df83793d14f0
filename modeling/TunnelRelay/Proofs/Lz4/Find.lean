import TunnelRelay.Lz4.Compress
import Mathlib.Tactic.Common

/-!
# The block found in a string spells it

A block spells a string if each of its sequences, put where the one before ended, holds the literals
that stand there and copies octets that stand there again. The search keeps this of the sequences
that it has found, and it keeps the margins at the end of the string which decoders ask for.
-/

namespace TunnelRelay.Lz4

/-- The sequence `s` spells the string from place `i` on, and ends far enough from its end. -/
structure Sequence.Fits (src : Bytes) (i : Nat) (s : Sequence) : Prop where
  literals : s.literals = (src.drop i).take s.literals.length
  offset_pos : 0 < s.offset
  offset_lt : s.offset < 0x10000
  offset_le : s.offset ≤ i + s.literals.length
  length : minMatch ≤ s.length
  start : i + s.literals.length + 12 ≤ src.length
  finish : i + s.literals.length + s.length + 5 ≤ src.length
  agrees : ∀ k < s.length, src.getD (i + s.literals.length + k) 0 =
    src.getD (i + s.literals.length + k - s.offset) 0

/-- The sequences spell the string from one place to another. -/
inductive Spells (src : Bytes) : Nat → List Sequence → Nat → Prop
  | nil (i : Nat) : Spells src i [] i
  | cons {i j : Nat} {s : Sequence} {ss : List Sequence} (h : s.Fits src i)
    (rest : Spells src (i + s.literals.length + s.length) ss j) : Spells src i (s :: ss) j

theorem Spells.concat {src : Bytes} {i j : Nat} {ss : List Sequence} (h : Spells src i ss j)
    {s : Sequence} (hs : s.Fits src j) :
    Spells src i (ss ++ [s]) (j + s.literals.length + s.length) := by
  induction h with
  | nil i => exact .cons hs (.nil _)
  | cons hfits _ ih => exact .cons hfits (ih hs)

/-! ## Matches -/

/-- What is counted agrees, and no more is counted than asked for. -/
theorem agreement_spec (src : Array UInt8) (i j most n : Nat) :
    agreement src i j most n ≤ n + most ∧
      ∀ k, n ≤ k → k < agreement src i j most n → src.getD (i + k) 0 = src.getD (j + k) 0 := by
  -- `n` counts up while what may still be counted goes down
  induction most generalizing n with
  | zero =>
    refine ⟨Nat.le_refl n, fun k hle hlt => ?_⟩
    rw [agreement] at hlt
    omega
  | succ most ih =>
    obtain ⟨hle, hagrees⟩ := ih (n + 1)
    rw [agreement]
    by_cases heq : src.getD (i + n) 0 = src.getD (j + n) 0
    · rw [if_pos heq]
      refine ⟨by omega, fun k hk hlt => ?_⟩
      by_cases hkn : k = n
      · rw [hkn, heq]
      · exact hagrees k (by omega) hlt
    · rw [if_neg heq]
      exact ⟨Nat.le_add_right n _, fun k hk hlt => by omega⟩

/-- Places remembered before `i`, each counted from one. -/
def Remembered (places : Array Nat) (i : Nat) : Prop := ∀ h, places.getD h 0 ≤ i

theorem Remembered.set {places : Array Nat} {i j : Nat} (hp : Remembered places i) (hij : i < j)
    (h : Nat) : Remembered (places.setIfInBounds h (i + 1)) j := by
  intro g
  have hg := hp g
  simp only [Array.getD_eq_getD_getElem?, Array.getElem?_setIfInBounds] at hg ⊢
  by_cases heq : h = g
  · rw [if_pos heq]
    split
    · exact hij
    · exact Nat.zero_le j
  · rw [if_neg heq]
    omega

/-- A match that was counted at place `i` makes a sequence that fits. -/
theorem fits_of_agreement {src : Bytes} {anchor i back : Nat} (ha : anchor ≤ i)
    (hend : i + 12 ≤ src.length) (hpos : 0 < back) (hback : back ≤ i)
    (hnear : i + 1 - back ≤ 65535)
    (hn : minMatch ≤ agreement src.toArray i (back - 1) (src.toArray.size - 5 - i) 0) :
    Sequence.Fits src anchor ⟨(src.toArray.extract anchor i).toList, i + 1 - back,
      agreement src.toArray i (back - 1) (src.toArray.size - 5 - i) 0⟩ := by
  have hliterals : (src.toArray.extract anchor i).toList.length = i - anchor := by
    simp
    omega
  obtain ⟨hmost, hagrees⟩ :=
    agreement_spec src.toArray i (back - 1) (src.toArray.size - 5 - i) 0
  rw [List.size_toArray] at hmost
  constructor <;> simp only [hliterals]
  case literals => simp [List.extract_eq_take_drop]
  case offset_pos => omega
  case offset_lt => omega
  case offset_le => omega
  case length => exact hn
  case start => omega
  case finish =>
    rw [List.size_toArray]
    omega
  case agrees =>
    intro k hk
    have hat := hagrees k (Nat.zero_le k) hk
    have hi : anchor + (i - anchor) + k = i + k := by omega
    have hj : i + k - (i + 1 - back) = back - 1 + k := by omega
    rw [hi, hj]
    simpa [Array.getD_eq_getD_getElem?, List.getD_eq_getElem?_getD] using hat

/-! ## The search -/

/-- Whatever is found spells the string up to the place where literals still gather. -/
theorem search_spec (src : Bytes) (fuel i anchor : Nat) (places : Array Nat)
    (found : Array Sequence) (ha : anchor ≤ i) (hi : i ≤ src.length)
    (hp : Remembered places i) (h : Spells src 0 found.toList anchor) :
    Spells src 0 (search src.toArray fuel i anchor places found).1.toList
        (search src.toArray fuel i anchor places found).2 ∧
      (search src.toArray fuel i anchor places found).2 ≤ src.length := by
  induction fuel generalizing i anchor places found with
  | zero => exact ⟨h, by simp only [search]; omega⟩
  | succ fuel ih =>
    rw [search, List.size_toArray]
    by_cases hend : src.length < i + 12
    · rw [if_pos hend]
      exact ⟨h, by simp only; omega⟩
    · rw [if_neg hend]
      have hback := hp (hashAt src.toArray i)
      -- where nothing fits, the octet joins the literals
      have hskip := ih (i + 1) anchor _ found (by omega) (by omega)
        (hp.set (Nat.lt_succ_self i) (hashAt src.toArray i)) h
      simp only
      by_cases hnear : 0 < places.getD (hashAt src.toArray i) 0 ∧
          i + 1 - places.getD (hashAt src.toArray i) 0 ≤ 65535
      · rw [if_pos hnear]
        split
        · rename_i hn
          rw [← List.size_toArray] at hn ⊢
          -- a match is taken, and literals gather anew behind it
          have hfits := fits_of_agreement ha (by omega) hnear.1 hback hnear.2 hn
          have hfinish := hfits.finish
          have hliterals : (src.toArray.extract anchor i).toList.length = i - anchor := by
            simp
            omega
          have hspells := h.concat hfits
          simp only [hliterals] at hfinish hspells
          rw [show anchor + (i - anchor) = i by omega] at hfinish hspells
          have hpos : 0 < agreement src.toArray i (places.getD (hashAt src.toArray i) 0 - 1)
            (src.toArray.size - 5 - i) 0 := Nat.lt_of_lt_of_le (by decide) hn
          exact ih _ _ _ _ (Nat.le_refl _) (by omega) (hp.set (by omega) _)
            (by rw [Array.toList_push]; exact hspells)
        · exact hskip
      · rw [if_neg hnear, if_neg (by decide)]
        exact hskip

/-- **The block found in a string spells it**: its sequences up to some place, and the final
literals from there to the end. -/
theorem find_spec (src : Bytes) :
    ∃ j ≤ src.length, Spells src 0 (Block.find src).sequences j ∧
      (Block.find src).final = src.drop j := by
  have hp : Remembered (Array.replicate 0x4000 0) 0 := by
    intro h
    simp [Array.getD_eq_getD_getElem?, Array.getElem?_replicate]
    split <;> simp
  obtain ⟨hspells, hle⟩ := search_spec src src.toArray.size 0 0 (Array.replicate 0x4000 0) #[]
    (Nat.le_refl 0) (Nat.zero_le _) hp (.nil 0)
  exact ⟨_, hle, hspells, rfl⟩

/-! ## Evaluation

The search remembers places in a large array. Remembered in a function they lead to the same block,
and this search can be evaluated in a proof. -/

/-- `search` with a function for the remembered places. -/
def searchBy (src : Array UInt8) :
    Nat → Nat → Nat → (Nat → Nat) → Array Sequence → Array Sequence × Nat
  | 0, _, anchor, _, found => (found, anchor)
  | fuel + 1, i, anchor, places, found =>
    if src.size < i + 12 then (found, anchor)
    else
      let h := hashAt src i
      let back := places h
      let places := fun g => if g = h then i + 1 else places g
      let n :=
        if 0 < back ∧ i + 1 - back ≤ 65535 then agreement src i (back - 1) (src.size - 5 - i) 0
        else 0
      if minMatch ≤ n then
        let s : Sequence := ⟨(src.extract anchor i).toList, i + 1 - back, n⟩
        searchBy src fuel (i + n) (i + n) places (found.push s)
      else searchBy src fuel (i + 1) anchor places found

theorem hashAt_lt (src : Array UInt8) (i : Nat) : hashAt src i < 0x4000 := by
  simp only [hashAt, hashBits]
  generalize (_ * 2654435761 : UInt32) = x
  have hx := x.toNat_lt
  rw [UInt32.toNat_shiftRight, Nat.shiftRight_eq_div_pow]
  exact Nat.div_lt_of_lt_mul hx

theorem search_eq_searchBy (src : Array UInt8) (fuel i anchor : Nat) {places : Array Nat}
    {table : Nat → Nat} (found : Array Sequence) (hsize : places.size = 0x4000)
    (h : ∀ g < 0x4000, places.getD g 0 = table g) :
    search src fuel i anchor places found = searchBy src fuel i anchor table found := by
  induction fuel generalizing i anchor places table found with
  | zero => rfl
  | succ fuel ih =>
    -- the array and the function still remember the same after a place is set
    have hset : ∀ g < 0x4000, (places.setIfInBounds (hashAt src i) (i + 1)).getD g 0 =
        if g = hashAt src i then i + 1 else table g := by
      intro g hg
      rw [Array.getD_eq_getD_getElem?, Array.getElem?_setIfInBounds]
      by_cases heq : g = hashAt src i
      · rw [if_pos heq.symm, if_pos heq, if_pos (hsize.symm ▸ hashAt_lt src i), Option.getD_some]
      · rw [if_neg (Ne.symm heq), if_neg heq, ← Array.getD_eq_getD_getElem?, h g hg]
    have hsize' : (places.setIfInBounds (hashAt src i) (i + 1)).size = 0x4000 := by
      rw [Array.size_setIfInBounds, hsize]
    simp only [search, searchBy, h _ (hashAt_lt src i), ih _ _ _ hsize' hset]

/-- The block found in a string, by a search that can be evaluated. -/
theorem find_eq (src : Bytes) :
    Block.find src =
      ⟨(searchBy src.toArray src.toArray.size 0 0 (fun _ => 0) #[]).1.toList,
        src.drop (searchBy src.toArray src.toArray.size 0 0 (fun _ => 0) #[]).2⟩ := by
  have hempty : ∀ g < 0x4000, (Array.replicate 0x4000 0).getD g 0 = 0 := by
    intro g hg
    simp [Array.getD_eq_getD_getElem?, hg]
  rw [Block.find, search_eq_searchBy _ _ _ _ _ Array.size_replicate hempty]

end TunnelRelay.Lz4
