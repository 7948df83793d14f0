import TunnelRelay.Scan
import Mathlib.Data.List.Infix
import Mathlib.Tactic.Common

/-!
# Where a value ends

The octets of a value are found at the front of a stream wherever the stream is cut: a part of them
is not yet complete, and what follows them is left over.
-/

namespace TunnelRelay.Scan

variable {ε α : Type} {s : Scan ε α} {front b rest : Bytes} {v v' : α}

/-- A stable scanner that has found the end of a value in a stream finds it at the same place in any
other part from the front of the stream. -/
theorem Stable.eq_append_of_complete (hs : Stable s) (hfront : s front = .complete v [])
    (hb : b <+: front ∨ front <+: b) (hbs : s b = .complete v' rest) :
    v' = v ∧ b = front ++ rest := by
  rcases hb with ⟨t, rfl⟩ | ⟨t, rfl⟩
  · have hmore := hs b t
    rw [hbs] at hmore
    rw [hmore, Scanned.complete.injEq, List.append_eq_nil_iff] at hfront
    obtain ⟨rfl, rfl, rfl⟩ := hfront
    exact ⟨rfl, by rw [List.append_nil, List.append_nil]⟩
  · have hmore := hs front t
    rw [hfront] at hmore
    simp only [List.nil_append] at hmore
    rw [hmore] at hbs
    cases hbs
    exact ⟨rfl, rfl⟩

/-- What follows a value is left over. -/
theorem Stable.complete_append (hs : Stable s) (hfront : s front = .complete v []) (t : Bytes) :
    s (front ++ t) = .complete v t := by
  have hmore := hs front t
  rw [hfront] at hmore
  exact hmore

/-- The octets of a value are not wrong, however far they have come. -/
theorem Stable.ne_invalid (hs : Stable s) (hfront : s front = .complete v [])
    (hb : b <+: front ∨ front <+: b) (e : ε) : s b ≠ .invalid e := by
  intro hinvalid
  rcases hb with ⟨t, rfl⟩ | ⟨t, rfl⟩
  · have hmore := hs b t
    rw [hinvalid] at hmore
    rw [hmore] at hfront
    cases hfront
  · rw [hs.complete_append hfront t] at hinvalid
    cases hinvalid

/-- Where a value is not yet complete, a part of its octets is missing. -/
theorem Stable.prefix_of_incomplete (hs : Stable s) (hfront : s front = .complete v [])
    (hb : b <+: front ∨ front <+: b) (hincomplete : s b = .incomplete) :
    b <+: front ∧ b ≠ front := by
  rcases hb with h | ⟨t, rfl⟩
  · refine ⟨h, ?_⟩
    rintro rfl
    rw [hincomplete] at hfront
    cases hfront
  · rw [hs.complete_append hfront t] at hincomplete
    cases hincomplete

/-- Nothing can be said of a part of the octets of a value. -/
theorem Stable.incomplete_of_prefix (hs : Stable s) (hfront : s front = .complete v [])
    (hb : b <+: front) (hne : b ≠ front) : s b = .incomplete := by
  cases hscan : s b with
  | incomplete => rfl
  | invalid e => exact absurd hscan (hs.ne_invalid hfront (Or.inl hb) e)
  | complete v' rest =>
    obtain ⟨-, rfl⟩ := hs.eq_append_of_complete hfront (Or.inl hb) hscan
    have hle := hb.length_le
    rw [List.length_append] at hle
    obtain rfl : rest = [] := List.length_eq_zero_iff.mp (by omega)
    exact absurd (List.append_nil front) hne

end TunnelRelay.Scan
