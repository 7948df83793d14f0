import TunnelRelay.Frame.Length
import TunnelRelay.Proofs.Bytes

/-!
# Frames in a stream that comes in pieces

What a reader knows of a stream is the octets that it has not handed out, of which it may have taken
a length off the front already. `next_octets` says that the next answer depends on these octets
alone, so a stream may be cut anywhere.
-/

namespace TunnelRelay.Frame

/-- The octets not handed out yet, a length that has been read among them. -/
def Inbound.octets (s : Inbound) : Bytes :=
  match s.awaited with
  | none => s.buffer
  | some n => Bytes.bigEndian32 n ++ s.buffer

/-- A length is remembered only if it is within the limit. -/
def Inbound.Legal (limit : Nat) (s : Inbound) : Prop := ∀ n, s.awaited = some n → n ≤ limit

namespace Inbound

@[simp] theorem octets_push (s : Inbound) (b : Bytes) : (s.push b).octets = s.octets ++ b := by
  obtain ⟨buffer, _ | n⟩ := s <;> simp [octets, push]

@[simp] theorem octets_empty : empty.octets = [] := rfl

theorem legal_unread (limit : Nat) (b : Bytes) : Legal limit ⟨b, none⟩ := by
  intro n h
  cases h

theorem Legal.push {limit : Nat} {s : Inbound} (h : s.Legal limit) (b : Bytes) :
    (s.push b).Legal limit := h

/-- Without octets nothing has been read and no length is remembered. -/
theorem eq_empty {s : Inbound} (h : s.octets = []) : s = empty := by
  obtain ⟨buffer, _ | n⟩ := s
  · simpa [octets, empty] using h
  · simp [octets, Bytes.bigEndian32] at h

end Inbound

/-- A frame: contents behind their length. -/
def delimit (contents : Bytes) : Bytes := Bytes.bigEndian32 contents.length ++ contents

/-! ## One answer -/

variable {limit : Nat}

/-- A remembered length changes nothing about the answer. -/
theorem next_octets (hlimit : limit < UInt32.size) {s : Inbound} (hs : s.Legal limit) :
    next limit s = next limit ⟨s.octets, none⟩ := by
  obtain ⟨buffer, _ | n⟩ := s
  · rfl
  · have hn : n ≤ limit := hs n rfl
    have hvalue : Bytes.ofBigEndian (Bytes.bigEndian32 n) = n :=
      Bytes.ofBigEndian_bigEndian32 (by omega)
    have hnot : ¬limit < n := by omega
    simp only [next, Inbound.octets, Bytes.split?_bigEndian32, hvalue, hnot, if_false]

/-- A complete frame within the limit is handed out and nothing behind it is touched. -/
theorem next_frame (hlimit : limit < UInt32.size) {contents : Bytes}
    (h : contents.length ≤ limit) (r : Bytes) :
    next limit ⟨delimit contents ++ r, none⟩ = (.ok (some contents), ⟨r, none⟩) := by
  have hvalue := Bytes.ofBigEndian_bigEndian32 (n := contents.length) (by omega)
  have hnot : ¬limit < contents.length := by omega
  rw [delimit, List.append_assoc]
  simp only [next, Bytes.split?_bigEndian32, hvalue, hnot, if_false, takeContents,
    Bytes.split?_append]

/-- As long as a frame is not complete its reader waits, and no octet is lost. -/
theorem next_of_incomplete (hlimit : limit < UInt32.size) {contents : Bytes}
    (h : contents.length ≤ limit) {b : Bytes}
    (hb : b <+: delimit contents) (hne : b ≠ delimit contents) :
    ∃ t, next limit ⟨b, none⟩ = (.ok none, t) ∧ t.octets = b ∧ t.Legal limit := by
  have hvalue := Bytes.ofBigEndian_bigEndian32 (n := contents.length) (by omega)
  have hnot : ¬limit < contents.length := by omega
  have hlt : b.length < contents.length + 4 := by
    refine Nat.lt_of_le_of_ne ?_ fun h => hne (hb.eq_of_length ?_)
    · simpa [delimit, Nat.add_comm] using hb.length_le
    · simpa [delimit, Nat.add_comm] using h
  by_cases h4 : b.length < 4
  · refine ⟨⟨b, none⟩, ?_, rfl, Inbound.legal_unread limit b⟩
    simp only [next, Bytes.split?_eq_none_iff.mpr h4]
  · obtain ⟨r, hr⟩ := hb
    -- the length is there, so the missing octets are octets of the contents
    obtain ⟨c, rfl⟩ : ∃ c, b = Bytes.bigEndian32 contents.length ++ c := by
      refine (List.append_eq_append_iff.mp hr.symm).elim ?_ ?_
      · rintro ⟨c, hc, -⟩
        exact ⟨c, hc⟩
      · rintro ⟨c, hc, -⟩
        have := congrArg List.length hc
        simp only [Bytes.length_bigEndian32, List.length_append] at this
        obtain rfl := List.length_eq_zero_iff.mp (show c.length = 0 by omega)
        exact ⟨[], by simpa using hc.symm⟩
    have hc : c.length < contents.length := by
      simp only [List.length_append, Bytes.length_bigEndian32] at hlt
      omega
    refine ⟨⟨c, some contents.length⟩, ?_, rfl, ?_⟩
    · simp only [next, Bytes.split?_bigEndian32, hvalue, hnot, if_false, takeContents,
        Bytes.split?_eq_none_iff.mpr hc]
    · rintro n ⟨⟩
      exact h

/-- Writing a frame either refuses contents above the limit and writes nothing, or appends them
behind their length. -/
theorem put_eq_ok_iff {contents out out' : Bytes} :
    put limit contents out = .ok out' ↔
      contents.length ≤ limit ∧ out' = out ++ delimit contents := by
  unfold put delimit
  split
  · simp
    omega
  · simp only [Except.ok.injEq, List.append_assoc, eq_comm (a := out')]
    constructor
    · intro h
      exact ⟨by omega, h⟩
    · exact And.right

end TunnelRelay.Frame
