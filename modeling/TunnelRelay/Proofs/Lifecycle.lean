import TunnelRelay.Lifecycle
import Mathlib.Data.List.Basic
import Mathlib.Tactic.Common

/-!
# What a lifecycle goes through

A lifecycle is meant to go forward only, to be closed by one call and to stay closed, with its token
cancelled exactly when it is closed. Closing sees to its part of this. A transit does not look at
where it leads, so it depends on the transits whether the rest holds: `orderly_iff_keepsOrder` says
of every course of operations that it is as it is meant to be just when each transit that moves the
state moves it forward, and leaves it to closing to close.
-/

namespace TunnelRelay.Lifecycle

/-! ## One operation -/

theorem perform_transit (s : Lifecycle) (expect after : RelayState) :
    s.perform (.transit expect after) =
      if s.state = expect then (.moved (.ok ()), { s with state := after })
      else (.moved (.error (.invalidRelayState expect s.state)), s) := by
  by_cases h : s.state = expect
  · simp only [perform, transit, if_pos h]
  · simp only [perform, transit, if_neg h]

theorem perform_close (s : Lifecycle) :
    s.perform .close =
      if s.state < .closing then (.closed true, ⟨.closed, true⟩) else (.closed false, s) := by
  obtain ⟨state, cancelled⟩ := s
  cases state <;> rfl

/-- A transit that moves the state goes forward, and leaves it to closing to close. -/
def Allows (s : Lifecycle) : Operation → Prop
  | .transit expect after =>
    s.state = expect → expect ≤ after ∧ (after = .closed → expect = .closed)
  | .close => True

/-- The token is cancelled exactly when the session is closed. -/
def Agrees (s : Lifecycle) : Prop := s.cancelled = true ↔ s.state = .closed

/-- Whether the answer is that this call did the close. -/
def Answer.didClose : Answer → Bool
  | closed true => true
  | _ => false

variable {s : Lifecycle} {op : Operation} {ops : List Operation}

theorem agrees_fresh : fresh.Agrees := ⟨by decide, by decide⟩

/-- What is allowed is what goes forward and keeps the token in agreement with the state. -/
theorem Agrees.allows_iff (hs : s.Agrees) :
    s.Allows op ↔ s.state ≤ (s.perform op).2.state ∧ (s.perform op).2.Agrees := by
  cases op with
  | transit expect after =>
    rw [perform_transit]
    split
    · rename_i hstate
      subst hstate
      constructor
      · intro h
        obtain ⟨hle, hclosed⟩ := h rfl
        -- a transit that moves the state starts and ends on the same side of `closed`
        have hsame : after = .closed ↔ s.state = .closed := by
          refine ⟨hclosed, fun hstate => ?_⟩
          rw [hstate] at hle
          exact RelayState.eq_closed_of_le hle
        exact ⟨hle, hs.trans hsame.symm⟩
      · -- the token is as it was where the transit started, so nothing is cancelled that was open
        rintro ⟨hle, hagrees⟩ -
        exact ⟨hle, fun hafter => hs.mp (hagrees.mpr hafter)⟩
    · rename_i hstate
      exact ⟨fun _ => ⟨s.state.le_refl, hs⟩, fun _ h => absurd h hstate⟩
  | close =>
    refine ⟨fun _ => ?_, fun _ => trivial⟩
    rw [perform_close]
    split
    · exact ⟨s.state.le_closed, fun _ => rfl, fun _ => rfl⟩
    · exact ⟨s.state.le_refl, hs⟩

/-- A call that closes finds the session open and leaves it closed. -/
theorem closed_of_didClose (h : (s.perform op).1.didClose) :
    s.state ≠ .closed ∧ (s.perform op).2.state = .closed := by
  cases op with
  | transit expect after =>
    rw [perform_transit] at h
    split at h
    · cases h
    · cases h
  | close =>
    rw [perform_close] at h ⊢
    split at h
    · rename_i hlt
      refine ⟨?_, by rw [if_pos hlt]⟩
      intro hclosed
      rw [hclosed] at hlt
      exact absurd hlt (by decide)
    · cases h

/-! ## A course of operations -/

/-- A course from `s` is as it is meant to be. -/
structure Orderly (s : Lifecycle) (course : List (Answer × Lifecycle)) : Prop where
  /-- The state never goes back. -/
  forward : (s.state :: course.map (·.2.state)).Pairwise (· ≤ ·)
  /-- Nothing leaves `closed`. -/
  terminal : (s.state :: course.map (·.2.state)).Pairwise fun a b => a = .closed → b = .closed
  /-- At most one call is told that it did the close. -/
  once : course.countP (·.1.didClose) ≤ 1
  /-- After each operation the token is cancelled exactly when the session is closed. -/
  agrees : ∀ p ∈ course, p.2.Agrees

/-- Each of the operations is allowed when it comes. -/
def KeepsOrder (s : Lifecycle) : List Operation → Prop
  | [] => True
  | op :: ops => s.Allows op ∧ (s.perform op).2.KeepsOrder ops

namespace KeepsOrder

theorem pairwise_course (h : s.KeepsOrder ops) (hs : s.Agrees) :
    (s.state :: (s.course ops).map (·.2.state)).Pairwise (· ≤ ·) := by
  induction ops generalizing s with
  | nil => exact List.pairwise_singleton _ _
  | cons op ops ih =>
    obtain ⟨hstep, hagrees⟩ := hs.allows_iff.mp h.1
    have hrest := ih h.2 hagrees
    refine List.Pairwise.cons ?_ hrest
    intro state hmem
    rcases List.mem_cons.mp hmem with rfl | hmem
    · exact hstep
    · exact RelayState.le_trans hstep (List.rel_of_pairwise_cons hrest hmem)

theorem agrees_course (h : s.KeepsOrder ops) (hs : s.Agrees) : ∀ p ∈ s.course ops, p.2.Agrees := by
  induction ops generalizing s with
  | nil => simp [course]
  | cons op ops ih =>
    obtain ⟨-, hagrees⟩ := hs.allows_iff.mp h.1
    intro p hp
    rcases List.mem_cons.mp hp with rfl | hp
    · exact hagrees
    · exact ih h.2 hagrees p hp

/-- In a closed session no call is told that it did the close, and the others are told so once. -/
theorem countP_course_le (h : s.KeepsOrder ops) (hs : s.Agrees) :
    (s.course ops).countP (·.1.didClose) ≤ if s.state = .closed then 0 else 1 := by
  induction ops generalizing s with
  | nil => simp [course]
  | cons op ops ih =>
    obtain ⟨hstep, hagrees⟩ := hs.allows_iff.mp h.1
    have hrest := ih h.2 hagrees
    rw [course, List.countP_cons]
    by_cases hwon : (s.perform op).1.didClose
    · obtain ⟨hopen, hclosed⟩ := closed_of_didClose hwon
      rw [if_pos hclosed] at hrest
      rw [if_pos hwon, if_neg hopen]
      omega
    · rw [if_neg hwon]
      by_cases hclosed : s.state = .closed
      · rw [hclosed] at hstep
        rw [if_pos (RelayState.eq_closed_of_le hstep)] at hrest
        rw [if_pos hclosed]
        omega
      · rw [if_neg hclosed]
        refine Nat.le_trans hrest ?_
        split <;> omega

theorem orderly (h : s.KeepsOrder ops) (hs : s.Agrees) : s.Orderly (s.course ops) where
  forward := h.pairwise_course hs
  terminal := (h.pairwise_course hs).imp fun hle hclosed =>
    RelayState.eq_closed_of_le (hclosed ▸ hle)
  once := by
    refine Nat.le_trans (h.countP_course_le hs) ?_
    split <;> omega
  agrees := h.agrees_course hs

end KeepsOrder

theorem Orderly.tail {p : Answer × Lifecycle} {course : List (Answer × Lifecycle)}
    (h : s.Orderly (p :: course)) : p.2.Orderly course where
  forward := h.forward.of_cons
  terminal := h.terminal.of_cons
  once := Nat.le_trans (List.sublist_cons_self p course).countP_le h.once
  agrees q hq := h.agrees q (List.mem_cons_of_mem p hq)

theorem Orderly.keepsOrder (h : s.Orderly (s.course ops)) (hs : s.Agrees) : s.KeepsOrder ops := by
  induction ops generalizing s with
  | nil => trivial
  | cons op ops ih =>
    have hle := List.rel_of_pairwise_cons h.forward List.mem_cons_self
    have hagrees := h.agrees (s.perform op) List.mem_cons_self
    exact ⟨hs.allows_iff.mpr ⟨hle, hagrees⟩, ih h.tail hagrees⟩

/-- **A course of operations is orderly just when each transit in it that moves the state goes
forward and does not close.** -/
theorem orderly_iff_keepsOrder (ops : List Operation) :
    fresh.Orderly (fresh.course ops) ↔ fresh.KeepsOrder ops :=
  ⟨fun h => h.keepsOrder agrees_fresh, fun h => h.orderly agrees_fresh⟩

/-- A session that has been closed can be made to wait again, and be closed once more. -/
theorem reopened_not_orderly :
    let ops : List Operation := [.close, .transit .closed .idle, .close]
    (fresh.course ops).map (·.2) = [⟨.closed, true⟩, ⟨.idle, true⟩, ⟨.closed, true⟩] ∧
      (fresh.course ops).countP (·.1.didClose) = 2 ∧ ¬fresh.Orderly (fresh.course ops) := by
  refine ⟨by decide, by decide, fun h => ?_⟩
  have honce := h.once
  exact absurd honce (by decide)

end TunnelRelay.Lifecycle
