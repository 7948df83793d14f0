import TunnelRelay.Ip
import TunnelRelay.Proofs.Bytes

/-!
# How long the text of an address can be

A number below a limit has few digits unless it begins with zeros, which are counted too in a group
and are refused in an octet. So the text of an address of either kind is short, and its octets are
far fewer than 256.
-/

namespace TunnelRelay

/-! ## Fields and digits -/

namespace Text

/-- A text is as long as its fields and the separators between them. -/
theorem length_fields {α : Type} [DecidableEq α] (sep : α) (cs : List α) :
    (fields sep cs).flatten.length + (fields sep cs).length = cs.length + 1 := by
  induction cs with
  | nil => rfl
  | cons c cs ih =>
    unfold fields
    split
    · simp only [List.flatten_cons, List.nil_append, List.length_cons]
      omega
    · split
      · rename_i hnil
        exact absurd hnil (fields_ne_nil sep cs)
      · rename_i f fs hfields
        rw [hfields] at ih
        simp only [List.flatten_cons, List.cons_append, List.length_cons] at ih ⊢
        omega

/-- Each digit multiplies what stands before it by the base. -/
theorem le_of_numeral? {base n v : Nat} {cs : List Char} (h : numeral? base n cs = some v) :
    n * base ^ cs.length ≤ v := by
  induction cs generalizing n with
  | nil =>
    cases h
    simp
  | cons c cs ih =>
    unfold numeral? at h
    split at h
    · split at h
      · have hle := ih h
        calc n * base ^ (c :: cs).length = n * base * base ^ cs.length := by
              rw [List.length_cons, Nat.pow_succ, Nat.mul_assoc, Nat.mul_comm base]
          _ ≤ v := Nat.le_trans (Nat.mul_le_mul_right _ (Nat.le_add_right _ _)) hle
      · cases h
    · cases h

/-- The one digit of value zero. -/
theorem eq_of_hexDigit?_zero {c : Char} (h : hexDigit? c = some 0) : c = '0' := by
  have hcode {k : Nat} (hk : some (c.toNat - k) = some 0) : c.toNat ≤ k := by
    have hzero := Option.some.inj hk
    omega
  unfold hexDigit? at h
  split at h
  · rename_i hdigit
    have hle : 48 ≤ c.toNat := hdigit.1
    exact Char.toNat_inj.mp (Nat.le_antisymm (hcode h) hle)
  · split at h
    · rename_i hlower
      have hle : 97 ≤ c.toNat := hlower.1
      have hlt := hcode h
      omega
    · split at h
      · rename_i hupper
        have hle : 65 ≤ c.toNat := hupper.1
        have hlt := hcode h
        omega
      · cases h

/-- A numeral without a leading zero is at least the power of the base that its first digit
counts. -/
theorem pow_le_of_numeral? {base v : Nat} {c : Char} {cs : List Char}
    (h : numeral? base 0 (c :: cs) = some v) (hc : c ≠ '0') : base ^ cs.length ≤ v := by
  unfold numeral? at h
  split at h
  · rename_i d hd
    split at h
    · have hpos : 0 < d := by
        refine Nat.pos_of_ne_zero ?_
        rintro rfl
        exact hc (eq_of_hexDigit?_zero hd)
      have hle := le_of_numeral? h
      rw [Nat.zero_mul, Nat.zero_add] at hle
      exact Nat.le_trans (Nat.le_mul_of_pos_left _ hpos) hle
    · cases h
  · cases h

end Text

/-- A character has four octets at most. -/
theorem Bytes.length_ofText_le (s : String) : (ofText s).length ≤ 4 * s.toList.length := by
  have hspelled : ofText s = s.toList.flatMap String.utf8EncodeChar := by
    rw [← ofText_ofList, String.ofList_toList]
  rw [hspelled]
  induction s.toList with
  | nil => simp
  | cons c cs ih =>
    have hsize := c.utf8Size_le_four
    rw [List.flatMap_cons, List.length_append, String.length_utf8EncodeChar, List.length_cons]
    omega

namespace Ip

/-! ## IPv4 -/

namespace V4

/-- An octet has three digits at most. -/
theorem length_of_part? {cs : List Char} {x : UInt8} (h : part? cs = some x) : cs.length ≤ 3 := by
  unfold part? at h
  split at h
  · cases h
  · rename_i hform
    obtain ⟨v, hv, -⟩ := Option.map_eq_some_iff.mp h
    obtain ⟨hnumeral, hlimit⟩ := Option.filter_eq_some_iff.mp hv
    have hlt : v < 256 := of_decide_eq_true hlimit
    cases cs with
    | nil => exact Nat.zero_le 3
    | cons c r =>
      rw [List.head?_cons, List.length_cons] at hform
      by_contra hlong
      rw [List.length_cons] at hlong
      -- four digits and no leading zero spell a thousand at least
      have hc : c ≠ '0' := by
        rintro rfl
        exact hform (.inr ⟨rfl, by omega⟩)
      have hle := Text.pow_le_of_numeral? hnumeral hc
      have hpow : 10 ^ 3 ≤ 10 ^ r.length := Nat.pow_le_pow_right (by omega) (by omega)
      omega

/-- Four octets and three dots. -/
theorem length_of_ofText? {cs : List Char} {x : V4} (h : ofText? cs = some x) : cs.length ≤ 15 := by
  have hlength := Text.length_fields '.' cs
  unfold ofText? at h
  split at h
  · rename_i a b c d hfields
    rw [hfields] at hlength
    obtain ⟨xa, ha, h⟩ := Option.bind_eq_some_iff.mp h
    obtain ⟨xb, hb, h⟩ := Option.bind_eq_some_iff.mp h
    obtain ⟨xc, hc, h⟩ := Option.bind_eq_some_iff.mp h
    obtain ⟨xd, hd, -⟩ := Option.bind_eq_some_iff.mp h
    have hla := length_of_part? ha
    have hlb := length_of_part? hb
    have hlc := length_of_part? hc
    have hld := length_of_part? hd
    simp only [List.flatten_cons, List.flatten_nil, List.length_append, List.length_cons,
      List.length_nil] at hlength
    omega
  · cases h

end V4

/-! ## IPv6 -/

namespace V6

theorem length_of_group? {cs : List Char} {g : UInt16} (h : group? cs = some g) :
    cs.length ≤ 4 := by
  unfold group? at h
  split at h
  · cases h
  · rename_i hform
    omega

/-- No field stands for no group, and all but the last have four digits at most. -/
theorem length_of_groups? {v4Last : Bool} {fs : List (List Char)} {gs : List UInt16}
    (h : groups? v4Last fs = some gs) :
    fs.length ≤ gs.length ∧ fs.flatten.length ≤ 4 * fs.length + 11 := by
  induction fs generalizing gs with
  | nil => simp
  | cons f fs ih =>
    cases fs with
    | nil =>
      unfold groups? at h
      split at h
      · rename_i g hg
        cases h
        have hle := length_of_group? hg
        simp only [List.flatten_cons, List.flatten_nil, List.append_nil, List.length_cons,
          List.length_nil]
        omega
      · split at h
        · obtain ⟨x, hx, rfl⟩ := Option.map_eq_some_iff.mp h
          have hle := V4.length_of_ofText? hx
          have htwo : (ofV4 x).length = 2 := rfl
          simp only [List.flatten_cons, List.flatten_nil, List.append_nil, List.length_cons,
            List.length_nil]
          omega
        · cases h
    | cons f' fs =>
      unfold groups? at h
      obtain ⟨g, hg, h⟩ := Option.bind_eq_some_iff.mp h
      obtain ⟨gs', hgs', h⟩ := Option.bind_eq_some_iff.mp h
      cases h
      have hle := length_of_group? hg
      obtain ⟨hfields, hsum⟩ := ih hgs'
      simp only [List.flatten_cons, List.length_append, List.length_cons] at hfields hsum ⊢
      omega

theorem length_of_side? {v4Last : Bool} {cs : List Char} {gs : List UInt16}
    (h : side? v4Last cs = some gs) : cs.length ≤ 5 * gs.length + 10 := by
  unfold side? at h
  split at h
  · rename_i hnil
    simp [hnil]
  · obtain ⟨hfields, hsum⟩ := length_of_groups? h
    have hlength := Text.length_fields ':' cs
    omega

theorem length_of_cutRun? {cs l r : List Char} (h : cutRun? cs = some (l, r)) :
    cs.length = l.length + r.length + 2 := by
  induction cs generalizing l with
  | nil => cases h
  | cons c cs ih =>
    unfold cutRun? at h
    split at h
    · rename_i heq
      cases heq
      cases h
      simp
    · rename_i heq
      cases heq
      obtain ⟨⟨a, b⟩, hcut, hpair⟩ := Option.map_eq_some_iff.mp h
      cases hpair
      have hlength := ih hcut
      simp only [List.length_cons]
      omega
    · rename_i heq
      cases heq

/-- Eight groups at most, two of them in the form of an IPv4 address. -/
theorem length_of_ofText? {cs : List Char} {x : V6} (h : ofText? cs = some x) : cs.length ≤ 57 := by
  unfold ofText? at h
  split at h
  · obtain ⟨gs, hgs, h⟩ := Option.bind_eq_some_iff.mp h
    split at h
    · obtain ⟨hfields, hsum⟩ := length_of_groups? hgs
      have hlength := Text.length_fields ':' cs
      omega
    · cases h
  · rename_i l r hcut
    obtain ⟨gl, hgl, h⟩ := Option.bind_eq_some_iff.mp h
    obtain ⟨gr, hgr, h⟩ := Option.bind_eq_some_iff.mp h
    split at h
    · have hl := length_of_side? hgl
      have hr := length_of_side? hgr
      have hlength := length_of_cutRun? hcut
      omega
    · cases h

end V6

/-! ## Either kind -/

/-- The text of an address is short. -/
theorem length_of_ofText? {cs : List Char} {x : Ip} (h : ofText? cs = some x) :
    cs.length ≤ 57 := by
  unfold ofText? at h
  split at h
  · rename_i y hy
    have hle := V4.length_of_ofText? hy
    omega
  · obtain ⟨y, hy, -⟩ := Option.map_eq_some_iff.mp h
    exact V6.length_of_ofText? hy

/-- A text that spells an address has fewer than 256 octets. -/
theorem length_octets_of_ofText? {s : String} {x : Ip} (h : ofText? s.toList = some x) :
    (Bytes.ofText s).length ≤ 255 := by
  have hchars := length_of_ofText? h
  have hoctets := Bytes.length_ofText_le s
  omega

end Ip

end TunnelRelay
