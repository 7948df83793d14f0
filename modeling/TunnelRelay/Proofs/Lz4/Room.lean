import TunnelRelay.Lz4.Decompress
import TunnelRelay.Proofs.Bytes

/-!
# A block stays within its room

A decoder believes nothing that a block says. Only two steps do not look at the room that is left:
the literals of wide strides and the copy that may end at the very end of the room. What they may
write is bounded by their half of a token, and `Within` and `Literals.Within` say how much room is
kept for it. So whatever a block is made of, no more comes out of it than it declares.
-/

namespace TunnelRelay.Lz4

/-! ## What the steps write -/

theorem size_literals_le (out : Array UInt8) (n : Nat) (s : Source) :
    (literals out n s).1.size ≤ out.size + n := by
  induction n generalizing out s with
  | zero => exact Nat.le_refl _
  | succ n ih =>
    obtain ⟨_ | ⟨b, r⟩, left⟩ := s
    · exact Nat.le_add_right _ _
    · have hrest := ih (out.push b) ⟨r, left - 1⟩
      rw [Array.size_push] at hrest
      rw [literals]
      omega

theorem size_copy (offset n : Nat) (out : Array UInt8) :
    (copy offset n out).size = out.size + n := by
  induction n generalizing out with
  | zero => rfl
  | succ n ih =>
    rw [copy, ih, Array.size_push]
    omega

/-- Half a token says 15 at most. -/
theorem toNat_and_15_le (t : UInt8) : (t &&& 15).toNat ≤ 15 := by
  rw [UInt8.toNat_and]
  exact Nat.and_le_right

theorem toNat_shiftRight_4_le (t : UInt8) : (t >>> 4).toNat ≤ 15 := by
  have ht := t.toNat_lt
  rw [UInt8.toNat_shiftRight]
  change t.toNat >>> 4 ≤ 15
  rw [Nat.shiftRight_eq_div_pow]
  omega

/-! ## One sequence -/

variable {room n : Nat} {wide sure : Bool} {out : Array UInt8} {s : Source}

/-- What holds of the output between two sequences: wide strides go on only while 64 octets of room
are left. -/
structure Within (room : Nat) (wide : Bool) (out : Array UInt8) : Prop where
  size_le : out.size ≤ room
  ahead : wide = true → out.size + 64 ≤ room

/-- What holds of the output after the literals: a copy that is not held against the room has 18
octets left, the longest that half a token can say without a continuation. -/
def Literals.Within (room : Nat) : Literals → Prop
  | done out => out.size ≤ room
  | more _ sure out _ => out.size ≤ room ∧ (sure = true → out.size + 18 ≤ room)

theorem within_of_carefulLiterals? {found : Literals}
    (h : carefulLiterals? room n out s = some found) : found.Within room := by
  have hsize := size_literals_le out n s
  unfold carefulLiterals? at h
  split at h
  · split at h
    · rename_i hlast
      cases h
      change (literals out n s).1.size ≤ room
      omega
    · cases h
  · rename_i hroom
    cases h
    exact ⟨by omega, nofun⟩

theorem Within.literals (hout : Within room wide out) (hn : n ≤ 15) {found : Literals}
    (h : literals? wide room n out s = some found) : found.Within room := by
  have hle := hout.size_le
  unfold literals? at h
  split at h
  · -- a long run is held against the room
    split at h
    · cases h
    · obtain ⟨⟨m, t⟩, -, h⟩ := Option.bind_eq_some_iff.mp h
      dsimp only at h
      split at h
      · rename_i hroom
        have hsize := size_literals_le out m t
        cases h
        exact ⟨by omega, nofun⟩
      · exact within_of_carefulLiterals? h
  · have hsize := size_literals_le out n s
    split at h
    · rename_i hwide
      have hahead := hout.ahead hwide.1
      cases h
      exact ⟨by omega, nofun⟩
    · split at h
      · rename_i hroom
        cases h
        exact ⟨by omega, fun _ => by omega⟩
      · exact within_of_carefulLiterals? h

/-- Each way of copying keeps the room that the next sequence counts on. -/
theorem Literals.Within.copied (hout : (more wide sure out s).Within room) {offset long : Nat}
    (hlong : n ≠ 15 → long < 15) {wide' : Bool} {out' : Array UInt8} {s' t : Source}
    (h : (if out.size < offset then none
      else if wide ∧ out.size + (long + minMatch) + 64 < room then
        some (true, copy offset (long + minMatch) out, t)
      else if sure ∧ n ≠ 15 ∧ 8 ≤ offset then
        some (false, copy offset (long + minMatch) out, t)
      else if out.size + (long + minMatch) + 5 ≤ room then
        some (false, copy offset (long + minMatch) out, t)
      else none) = some (wide', out', s')) :
    Lz4.Within room wide' out' := by
  have hsure := hout.2
  have hsize := size_copy offset (long + minMatch) out
  split at h
  · cases h
  · split at h
    · rename_i hwide
      cases h
      exact ⟨by omega, fun _ => by omega⟩
    · split at h
      · rename_i hshort
        have hroom := hsure hshort.1
        have hlt := hlong hshort.2.1
        cases h
        refine ⟨?_, nofun⟩
        rw [hsize, minMatch]
        omega
      · split at h
        · cases h
          exact ⟨by omega, nofun⟩
        · cases h

theorem Literals.Within.copy (hout : (more wide sure out s).Within room) (hn : n ≤ 15)
    {wide' : Bool} {out' : Array UInt8} {s' : Source}
    (h : copy? wide sure room n out s = some (wide', out', s')) :
    Lz4.Within room wide' out' := by
  unfold copy? at h
  split at h
  · dsimp only at h
    split at h
    · obtain ⟨⟨long, t⟩, -, h⟩ := Option.bind_eq_some_iff.mp h
      exact hout.copied (fun hshort => absurd ‹n = 15› hshort) h
    · obtain ⟨⟨long, t⟩, hlong, h⟩ := Option.bind_eq_some_iff.mp h
      cases hlong
      exact hout.copied (fun hshort => by omega) h
  · cases h

/-! ## Blocks -/

/-- **A block writes no more than there is room for.** -/
theorem size_le_of_sequences? {fuel : Nat} (hout : Within room wide out) {found : Array UInt8}
    (h : sequences? room fuel wide out s = some found) : found.size ≤ room := by
  induction fuel generalizing wide out s with
  | zero => cases h
  | succ fuel ih =>
    unfold sequences? at h
    split at h
    · cases h
    · rename_i t r hoctets
      obtain ⟨taken, htaken, h⟩ := Option.bind_eq_some_iff.mp h
      have hliterals := hout.literals (toNat_shiftRight_4_le t) htaken
      cases taken with
      | done out =>
        cases h
        exact hliterals
      | more wide sure out s =>
        obtain ⟨⟨wide', out', s'⟩, hcopy, h⟩ := Option.bind_eq_some_iff.mp h
        exact ih (hliterals.copy (toNat_and_15_le t) hcopy) h

theorem length_le_of_expand? {block plain : Bytes} (h : Block.expand? room block = some plain) :
    plain.length ≤ room := by
  unfold Block.expand? at h
  split at h
  · split at h
    · cases h
      exact Nat.zero_le _
    · cases h
  · obtain ⟨found, hfound, rfl⟩ := Option.map_eq_some_iff.mp h
    have hempty : Within room (decide (64 ≤ room)) #[] :=
      ⟨Nat.zero_le _, fun hwide => by simpa using hwide⟩
    rw [Array.length_toList]
    exact size_le_of_sequences? hempty hfound

/-- **No more octets come out of a block than its first four octets declare.** -/
theorem length_le_of_decompress {size block plain : Bytes} (hsize : size.length = 4)
    (h : decompress (size ++ block) = .ok plain) : plain.length ≤ Bytes.ofLittleEndian size := by
  unfold decompress at h
  rw [Bytes.split?_of_length hsize] at h
  dsimp only at h
  split at h
  · cases h
  · split at h
    · cases h
    · split at h
      · rename_i out hout
        cases h
        exact length_le_of_expand? hout
      · cases h

end TunnelRelay.Lz4
