import TunnelRelay.Lifecycle
import Mathlib.Tactic.Common

/-!
# One action of a task on a lifecycle

A task that closes looks at the state, exchanges what it has seen for `closing`, again and again if
the state has changed in between, and then cancels the token and stores `closed`. Each action moves
the state forward, and each brings the task nearer to its end unless its exchange fails.
-/

namespace TunnelRelay.Lifecycle.Task

/-- The task has moved the state to `closing`, and its close returns that it did. -/
def hasWon : Task → Bool
  | cancel | store | closed true => true
  | _ => false

/-- A task moves the state forward, and expects one in which the session is not closing. -/
def IsForward : Task → Prop
  | transit expect after => expect < after ∧ after < .closing
  | exchange seen => seen < .closing
  | _ => True

variable {s : Lifecycle} {t : Task}

theorem hasWon_seeing (state : RelayState) : (seeing state).hasWon = false := by
  cases state <;> rfl

theorem isForward_seeing (state : RelayState) : (seeing state).IsForward := by
  cases state with
  | closing => trivial
  | closed => trivial
  | idle => exact (by decide : RelayState.idle < .closing)
  | connecting => exact (by decide : RelayState.connecting < .closing)
  | established => exact (by decide : RelayState.established < .closing)

theorem closing_le_of_seeing {state : RelayState} {won : Bool} (h : seeing state = closed won) :
    .closing ≤ state := by
  cases state with
  | closing => exact RelayState.le_refl _
  | closed => exact RelayState.le_closed _
  | idle => cases h
  | connecting => cases h
  | established => cases h

theorem IsForward.step (h : t.IsForward) (s : Lifecycle) : (t.step s).1.IsForward := by
  cases t with
  | load => exact isForward_seeing s.state
  | transit expect after =>
    simp only [Task.step]
    split <;> trivial
  | exchange seen =>
    simp only [Task.step]
    split
    · trivial
    · exact isForward_seeing s.state
  | cancel => trivial
  | store => trivial
  | moved success => trivial
  | closed won => trivial

/-- **The state only moves forward.** -/
theorem IsForward.le_step (h : t.IsForward) (s : Lifecycle) : s.state ≤ (t.step s).2.state := by
  cases t with
  | transit expect after =>
    simp only [Task.step]
    split
    · rename_i hstate
      rw [hstate]
      exact Nat.le_of_lt h.1
    · exact s.state.le_refl
  | exchange seen =>
    simp only [Task.step]
    split
    · rename_i hstate
      rw [hstate]
      exact Nat.le_of_lt h
    · exact s.state.le_refl
  | store => exact s.state.le_closed
  | load => exact s.state.le_refl
  | cancel => exact s.state.le_refl
  | moved success => exact s.state.le_refl
  | closed won => exact s.state.le_refl

/-- A close that returns without having won has seen that the session is closing. -/
theorem closing_le_of_step_closed (h : (t.step s).1 = closed false) :
    t = closed false ∨ .closing ≤ (t.step s).2.state := by
  cases t with
  | load => exact .inr (closing_le_of_seeing h)
  | transit expect after =>
    simp only [Task.step] at h
    split at h <;> cases h
  | exchange seen =>
    simp only [Task.step] at h ⊢
    split at h
    · cases h
    · rename_i hstate
      rw [if_neg hstate]
      exact .inr (closing_le_of_seeing h)
  | cancel => cases h
  | store => cases h
  | moved success => cases h
  | closed won => exact .inl h

/-- Only a task that is about to cancel the token does. -/
theorem eq_cancel_of_step (hs : s.cancelled = false) (h : (t.step s).2.cancelled = true) :
    t = cancel := by
  cases t with
  | cancel => rfl
  | transit expect after =>
    simp only [Task.step] at h
    split at h <;> simp [hs] at h
  | exchange seen =>
    simp only [Task.step] at h
    split at h <;> simp [hs] at h
  | load => simp [Task.step, hs] at h
  | store => simp [Task.step, hs] at h
  | moved success => simp [Task.step, hs] at h
  | closed won => simp [Task.step, hs] at h

/-! ## How long a close takes -/

/-- The next action of the task is an exchange that fails. -/
def fails (s : Lifecycle) : Task → Bool
  | exchange seen => s.state ≠ seen
  | _ => false

/-- The number of actions that a task needs if none of its exchanges fails. -/
def left : Task → Nat
  | load => 4
  | exchange _ => 3
  | cancel => 2
  | store | transit _ _ => 1
  | moved _ | closed _ => 0

theorem fails_seeing (s : Lifecycle) : (seeing s.state).fails s = false := by
  obtain ⟨state, cancelled⟩ := s
  cases state <;> rfl

/-- Whoever has just acted has seen the state, so its exchange would not fail now. -/
theorem fails_step (t : Task) (s : Lifecycle) : (t.step s).1.fails (t.step s).2 = false := by
  cases t with
  | load => exact fails_seeing s
  | transit expect after =>
    simp only [Task.step]
    split <;> rfl
  | exchange seen =>
    simp only [Task.step]
    split
    · rfl
    · exact fails_seeing s
  | cancel => rfl
  | store => rfl
  | moved success => rfl
  | closed won => rfl

theorem left_seeing_le (state : RelayState) : (seeing state).left ≤ 3 := by
  cases state <;> decide

/-- An action of a task brings it nearer to its end, unless an exchange fails. -/
theorem left_step_lt (h : t.left ≠ 0) (s : Lifecycle) :
    (t.step s).1.left < t.left + if t.fails s then 1 else 0 := by
  cases t with
  | load => exact Nat.lt_succ_of_le (left_seeing_le s.state)
  | transit expect after =>
    simp only [Task.step]
    split <;> exact Nat.zero_lt_one
  | exchange seen =>
    simp only [Task.step, fails, decide_eq_true_eq]
    by_cases hstate : s.state = seen
    · simp only [hstate, if_true, ne_eq, not_true_eq_false, if_false]
      exact Nat.lt_succ_self 2
    · simp only [hstate, if_false, ne_eq, not_false_eq_true, if_true]
      exact Nat.lt_succ_of_le (left_seeing_le s.state)
  | cancel => exact Nat.lt_succ_self 1
  | store => exact Nat.zero_lt_one
  | moved success => exact absurd rfl h
  | closed won => exact absurd rfl h

/-- A task that has returned does nothing more. -/
theorem step_of_left (h : t.left = 0) (s : Lifecycle) : t.step s = (t, s) := by
  cases t with
  | moved success => rfl
  | closed won => rfl
  | load => cases h
  | transit expect after => cases h
  | exchange seen => cases h
  | cancel => cases h
  | store => cases h

/-- The task makes a call to close. -/
def IsClose : Task → Prop
  | transit _ _ | moved _ => False
  | _ => True

theorem isClose_seeing (state : RelayState) : (seeing state).IsClose := by
  cases state <;> trivial

theorem IsClose.step (h : t.IsClose) (s : Lifecycle) : (t.step s).1.IsClose := by
  cases t with
  | load => exact isClose_seeing s.state
  | exchange seen =>
    simp only [Task.step]
    split
    · trivial
    · exact isClose_seeing s.state
  | cancel => trivial
  | store => trivial
  | closed won => trivial
  | transit expect after => cases h
  | moved success => cases h

theorem IsClose.eq_closed (h : t.IsClose) (hleft : t.left = 0) : ∃ won, t = closed won := by
  cases t with
  | closed won => exact ⟨won, rfl⟩
  | load => cases hleft
  | exchange seen => cases hleft
  | cancel => cases hleft
  | store => cases hleft
  | transit expect after => cases h
  | moved success => cases h

end TunnelRelay.Lifecycle.Task
