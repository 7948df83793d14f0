import TunnelRelay.Proofs.Lifecycle.Task
import Mathlib.Data.List.Basic
import Mathlib.Data.List.Induction
import Mathlib.Tactic.Common

/-!
# Closing a lifecycle that tasks share

Any number of tasks close or move one lifecycle, and between two atomic actions of one of them all
others may act. What holds them together is `Won`: there is a task that has won the close exactly
when the state has reached `closing`, and where this task stands tells what the lifecycle is. Every
action keeps it, and `closes_once` reads off it that the session is closed once, for good, and that
nobody waits for the others in order to close.
-/

namespace TunnelRelay.Lifecycle

/-- A call on a lifecycle that a session makes. -/
inductive Call where
  | close
  /-- The target is about to be connected. -/
  | connect
  /-- The target is connected. -/
  | establish
  /-- The session needs no target to be connected. -/
  | associate
  deriving DecidableEq, Repr

/-- The task that makes a call. -/
def Call.task : Call → Task
  | close => .load
  | connect => .transit .idle .connecting
  | establish => .transit .connecting .established
  | associate => .transit .idle .established

/-- Tasks that are about to make their calls on a fresh lifecycle. -/
def Shared.start (calls : List Call) : Shared := ⟨calls.map Call.task, fresh⟩

/-! ## Who has won -/

/-- What the lifecycle is, by where the task stands that has won. -/
def Task.tells : Task → Lifecycle
  | cancel => ⟨.closing, false⟩
  | store => ⟨.closing, true⟩
  | _ => ⟨.closed, true⟩

/-- A winner goes its way and does to the lifecycle what it is there for. -/
theorem Task.step_tells {t : Task} (h : t.hasWon) :
    (t.step t.tells).1.hasWon ∧ (t.step t.tells).2 = (t.step t.tells).1.tells := by
  cases t with
  | cancel => exact ⟨rfl, rfl⟩
  | store => exact ⟨rfl, rfl⟩
  | closed won =>
    cases won with
    | true => exact ⟨rfl, rfl⟩
    | false => cases h
  | transit expect after => cases h
  | load => cases h
  | exchange seen => cases h
  | moved success => cases h

/-- What the lifecycle is, by the tasks that have won: there is none before the session is closing,
and one from then on. -/
inductive Won : Lifecycle → List Task → Prop
  | nobody {state : RelayState} (h : state < .closing) : Won ⟨state, false⟩ []
  | somebody {t : Task} (h : t.hasWon) : Won t.tells [t]

variable {s : Lifecycle} {t : Task} {l r : List Task}

theorem closing_le_tells (t : Task) : .closing ≤ t.tells.state := by
  cases t with
  | cancel => exact RelayState.le_refl _
  | store => exact RelayState.le_refl _
  | _ => exact RelayState.le_closed _

/-- As long as the session is not closing nobody has won, and the token is not cancelled. -/
theorem Won.eq_nil {winners : List Task} (h : Won s winners) (hs : s.state < .closing) :
    winners = [] ∧ s.cancelled = false := by
  cases h with
  | nobody h => exact ⟨rfl, rfl⟩
  | @somebody t h => exact absurd (closing_le_tells t) (RelayState.not_le_of_lt hs)

/-- A winner is the only one, and tells what the lifecycle is. -/
theorem Won.eq_tells {winners : List Task} (h : Won s winners) (ht : t ∈ winners) :
    winners = [t] ∧ s = t.tells := by
  cases h with
  | nobody h => cases ht
  | somebody h =>
    obtain rfl := List.mem_singleton.mp ht
    exact ⟨rfl, rfl⟩

/-- **An action of one task keeps what the winner tells of the lifecycle.** -/
theorem Won.step (h : Won s ((l ++ t :: r).filter Task.hasWon)) (ht : t.IsForward) :
    Won (t.step s).2 ((l ++ (t.step s).1 :: r).filter Task.hasWon) := by
  -- the other tasks stay where they are, so only whether `t` has won matters
  simp only [List.filter_append, List.filter_cons] at h ⊢
  by_cases hwon : t.hasWon
  · rw [if_pos hwon] at h
    obtain ⟨halone, rfl⟩ := h.eq_tells (List.mem_append_right _ List.mem_cons_self)
    obtain ⟨hl, hr⟩ : l.filter Task.hasWon = [] ∧ r.filter Task.hasWon = [] := by
      simpa [List.append_eq_singleton_iff] using halone
    obtain ⟨hwon', htells⟩ := Task.step_tells hwon
    rw [hl, hr, if_pos hwon', htells]
    exact .somebody hwon'
  rw [if_neg hwon] at h
  cases t with
  | load =>
    simp only [Task.step, Task.hasWon_seeing]
    exact h
  | transit expect after =>
    simp only [Task.step]
    split
    · rename_i hstate
      have hbefore : s.state < .closing := hstate ▸ Nat.lt_trans ht.1 ht.2
      obtain ⟨hnobody, hcancelled⟩ := h.eq_nil hbefore
      have hafter : ({ s with state := after } : Lifecycle) = ⟨after, false⟩ := by rw [hcancelled]
      simp only [Task.hasWon, Bool.false_eq_true, if_false]
      rw [hnobody, hafter]
      exact .nobody ht.2
    · exact h
  | exchange seen =>
    simp only [Task.step]
    split
    · rename_i hstate
      obtain ⟨hnobody, hcancelled⟩ := h.eq_nil (hstate ▸ ht)
      have hafter : ({ s with state := .closing } : Lifecycle) = Task.cancel.tells := by
        rw [hcancelled]
        rfl
      obtain ⟨hl, hr⟩ := List.append_eq_nil_iff.mp hnobody
      rw [hl, hr, hafter]
      exact Won.somebody (t := .cancel) rfl
    · simp only [Task.hasWon_seeing]
      exact h
  | cancel => exact absurd rfl hwon
  | store => exact absurd rfl hwon
  | moved success => exact h
  | closed won =>
    cases won with
    | true => exact absurd rfl hwon
    | false => exact h

namespace Shared

variable {c d : Shared} {i j : Nat}

theorem act_of_some (h : c.tasks[i]? = some t) :
    c.act i = ⟨c.tasks.set i (t.step c.lifecycle).1, (t.step c.lifecycle).2⟩ := by
  simp only [act, h]

theorem act_of_none (h : c.tasks[i]? = none) : c.act i = c := by
  simp only [act, h]

theorem getElem?_act_self (h : c.tasks[i]? = some t) :
    (c.act i).tasks[i]? = some (t.step c.lifecycle).1 := by
  obtain ⟨hi, -⟩ := List.getElem?_eq_some_iff.mp h
  rw [act_of_some h, List.getElem?_set_self hi]

theorem getElem?_act_ne (h : i ≠ j) : (c.act i).tasks[j]? = c.tasks[j]? := by
  cases hi : c.tasks[i]? with
  | none => rw [act_of_none hi]
  | some t => rw [act_of_some hi, List.getElem?_set_ne h]

/-- What is known of tasks around one lifecycle. -/
structure Sound (c : Shared) : Prop where
  won : Won c.lifecycle (c.tasks.filter Task.hasWon)
  forward : ∀ t ∈ c.tasks, t.IsForward
  /-- A close that has not won leaves a session that somebody closes. -/
  lost : .closed false ∈ c.tasks → .closing ≤ c.lifecycle.state

theorem sound_start (calls : List Call) : (start calls).Sound where
  won := by
    have hnobody : (calls.map Call.task).filter Task.hasWon = [] := by
      rw [List.filter_eq_nil_iff]
      intro t ht
      obtain ⟨call, -, rfl⟩ := List.mem_map.mp ht
      cases call <;> decide
    show Won fresh ((calls.map Call.task).filter Task.hasWon)
    rw [hnobody]
    exact .nobody (by decide)
  forward t ht := by
    obtain ⟨call, -, rfl⟩ := List.mem_map.mp ht
    cases call
    · trivial
    · exact ⟨by decide, by decide⟩
    · exact ⟨by decide, by decide⟩
    · exact ⟨by decide, by decide⟩
  lost h := by
    obtain ⟨call, -, hcall⟩ := List.mem_map.mp h
    cases call <;> cases hcall

theorem Sound.act (h : c.Sound) (i : Nat) : (c.act i).Sound := by
  cases hi : c.tasks[i]? with
  | none =>
    rw [act_of_none hi]
    exact h
  | some t =>
    obtain ⟨l, r, htasks, hlength⟩ : ∃ l r, c.tasks = l ++ t :: r ∧ l.length = i := by
      obtain ⟨hlt, hget⟩ := List.getElem?_eq_some_iff.mp hi
      refine ⟨c.tasks.take i, c.tasks.drop (i + 1), ?_, by simp; omega⟩
      rw [← hget, List.getElem_cons_drop, List.take_append_drop]
    have ht := h.forward t (by simp [htasks])
    have hafter : c.act i = ⟨l ++ (t.step c.lifecycle).1 :: r, (t.step c.lifecycle).2⟩ := by
      rw [act_of_some hi, htasks, ← hlength, List.set_append_right _ _ (Nat.le_refl _),
        Nat.sub_self, List.set_cons_zero]
    have hwon := h.won
    rw [htasks] at hwon
    rw [hafter]
    refine ⟨hwon.step ht, ?_, ?_⟩
    · intro u hu
      rcases List.mem_append.mp hu with hu | hu
      · exact h.forward u (by simp [htasks, hu])
      · rcases List.mem_cons.mp hu with rfl | hu
        · exact ht.step c.lifecycle
        · exact h.forward u (by simp [htasks, hu])
    · intro hlost
      have hle := ht.le_step c.lifecycle
      -- either this task has just seen it, or it was so before
      have hbefore : .closed false ∈ c.tasks → .closing ≤ (t.step c.lifecycle).2.state :=
        fun hmem => RelayState.le_trans (h.lost hmem) hle
      rcases List.mem_append.mp hlost with hmem | hmem
      · exact hbefore (by simp [htasks, hmem])
      · rcases List.mem_cons.mp hmem with heq | hmem
        · rcases Task.closing_le_of_step_closed heq.symm with rfl | hclosing
          · exact hbefore (by simp [htasks])
          · exact hclosing
        · exact hbefore (by simp [htasks, hmem])

theorem Sound.reaches (h : c.Sound) (hr : Reaches c d) : d.Sound := by
  induction hr with
  | refl => exact h
  | act i _ ih => exact ih.act i

/-- A winner among the tasks is the only one, and tells what the lifecycle is. -/
theorem Sound.eq_tells (h : c.Sound) (hmem : t ∈ c.tasks) (ht : t.hasWon) :
    c.tasks.filter Task.hasWon = [t] ∧ c.lifecycle = t.tells :=
  h.won.eq_tells (List.mem_filter.mpr ⟨hmem, ht⟩)

theorem Sound.le_act (h : c.Sound) (i : Nat) : c.lifecycle.state ≤ (c.act i).lifecycle.state := by
  cases hi : c.tasks[i]? with
  | none =>
    rw [act_of_none hi]
    exact RelayState.le_refl _
  | some t =>
    rw [act_of_some hi]
    exact (h.forward t (List.mem_of_getElem? hi)).le_step c.lifecycle

/-! ## The loop of a close -/

/-- The tasks at the places in `turns` act, one after the other. -/
def run (c : Shared) (turns : List Nat) : Shared := turns.foldl act c

/-- How many exchanges of the task at place `i` fail. -/
def failures (i : Nat) : Shared → List Nat → Nat
  | _, [] => 0
  | c, j :: turns =>
    (if j = i ∧ c.tasks[i]?.any (·.fails c.lifecycle) then 1 else 0) + failures i (c.act j) turns

/-- How often the other tasks change the state. -/
def changes (i : Nat) : Shared → List Nat → Nat
  | _, [] => 0
  | c, j :: turns =>
    (if j ≠ i ∧ (c.act j).lifecycle.state ≠ c.lifecycle.state then 1 else 0)
      + changes i (c.act j) turns

theorem reaches_run (c : Shared) (turns : List Nat) : Reaches c (c.run turns) := by
  induction turns using List.reverseRecOn with
  | nil => exact .refl
  | append_singleton turns i ih =>
    rw [run, List.foldl_append]
    exact ih.act i

/-- **Each failed exchange is due to a change that another task has made meanwhile.** An exchange
that would fail right away is due to an earlier change. -/
theorem failures_le_changes (turns : List Nat) (c : Shared) (h : c.tasks[i]? = some t) :
    failures i c turns ≤ changes i c turns + if t.fails c.lifecycle then 1 else 0 := by
  induction turns generalizing c t with
  | nil => exact Nat.zero_le _
  | cons j turns ih =>
    simp only [failures, changes, h, Option.any_some]
    by_cases hj : j = i
    · subst hj
      have hrest := ih (c.act j) (getElem?_act_self h)
      rw [act_of_some h] at hrest
      simp only [Task.fails_step, Bool.false_eq_true, if_false] at hrest
      simp only [true_and, ne_eq, not_true_eq_false, false_and, if_false]
      rw [act_of_some h]
      omega
    · have hrest := ih (c.act j) ((getElem?_act_ne hj).trans h)
      by_cases hsame : (c.act j).lifecycle.state = c.lifecycle.state
      · -- the state is the same, so the exchange fails now exactly if it failed before
        have hfails : t.fails (c.act j).lifecycle = t.fails c.lifecycle := by
          cases t <;> simp only [Task.fails, hsame]
        rw [hfails] at hrest
        simp only [hj, hsame, false_and, ne_eq, not_true_eq_false, and_false, if_false]
        omega
      · simp only [hj, hsame, false_and, ne_eq, not_false_eq_true, and_self, if_false, if_true]
        split at hrest <;> omega

/-- A task that has returned stays as it is. -/
theorem getElem?_run_of_left (turns : List Nat) (c : Shared) (h : c.tasks[i]? = some t)
    (hleft : t.left = 0) : (c.run turns).tasks[i]? = some t := by
  induction turns generalizing c with
  | nil => exact h
  | cons j turns ih =>
    refine ih (c.act j) ?_
    by_cases hj : j = i
    · subst hj
      rw [getElem?_act_self h, Task.step_of_left hleft]
    · exact (getElem?_act_ne hj).trans h

/-- A close that has acted as often as it needs to, and once more for each failure, has returned. -/
theorem exists_closed_of_count (turns : List Nat) (c : Shared) (h : c.tasks[i]? = some t)
    (ht : t.IsClose) (hcount : t.left + failures i c turns ≤ turns.count i) :
    ∃ won, (c.run turns).tasks[i]? = some (.closed won) := by
  induction turns generalizing c t with
  | nil =>
    have hleft : t.left = 0 := Nat.eq_zero_of_add_eq_zero_right (Nat.eq_zero_of_le_zero hcount)
    obtain ⟨won, rfl⟩ := ht.eq_closed hleft
    exact ⟨won, h⟩
  | cons j turns ih =>
    simp only [failures, h, Option.any_some, List.count_cons, beq_iff_eq] at hcount
    by_cases hj : j = i
    · subst hj
      simp only [true_and, if_true] at hcount
      by_cases hleft : t.left = 0
      · obtain ⟨won, rfl⟩ := ht.eq_closed hleft
        exact ⟨won, getElem?_run_of_left (j :: turns) c h hleft⟩
      · have hstep := Task.left_step_lt hleft c.lifecycle
        refine ih (c.act j) (getElem?_act_self h) (ht.step c.lifecycle) ?_
        omega
    · simp only [hj, false_and, if_false] at hcount
      refine ih (c.act j) ((getElem?_act_ne hj).trans h) ht ?_
      omega

/-- As the state only moves forward, it changes at most as often as there are states ahead. -/
theorem Sound.changes_le (h : c.Sound) (i : Nat) (turns : List Nat) :
    c.lifecycle.state.rank + changes i c turns ≤ 4 := by
  induction turns generalizing c with
  | nil => exact c.lifecycle.state.rank_le
  | cons j turns ih =>
    have hrest := ih (h.act j)
    have hle := RelayState.le_iff_rank_le.mp (h.le_act j)
    simp only [changes]
    split
    · rename_i hchange
      have hne : c.lifecycle.state ≠ (c.act j).lifecycle.state := fun heq => hchange.2 heq.symm
      have hlt := RelayState.lt_iff_rank_lt.mp (RelayState.lt_of_le_of_ne (h.le_act j) hne)
      omega
    · omega

/-! ## All calls -/

/-- **A session is closed once, for good, and without waiting.** -/
structure ClosesOnce (c : Shared) : Prop where
  /-- At most one close has won. -/
  once : c.tasks.countP Task.hasWon ≤ 1
  /-- When all calls have returned and one of them was to close, one close has won. -/
  exactly : (∀ t ∈ c.tasks, t.left = 0) → (∃ t ∈ c.tasks, t.IsClose) → .closed true ∈ c.tasks
  /-- Whoever acts next, the state does not go back. -/
  forward : ∀ i, c.lifecycle.state ≤ (c.act i).lifecycle.state
  /-- Storing `closed` overwrites `closing`. -/
  store : .store ∈ c.tasks → c.lifecycle.state = .closing
  /-- The token is cancelled by the winner, whose exchange has moved the state to `closing`. -/
  cancel : ∀ i, c.lifecycle.cancelled = false → (c.act i).lifecycle.cancelled = true →
    c.tasks[i]? = some .cancel ∧ c.lifecycle.state = .closing
  /-- Before that the token is not cancelled. -/
  uncancelled : c.lifecycle.state < .closing → c.lifecycle.cancelled = false
  /-- When a close has returned that it did the close, the session is closed for good. -/
  forever : .closed true ∈ c.tasks → ∀ d, Reaches c d → d.lifecycle = ⟨.closed, true⟩
  /-- The exchanges of a close that fail are at most as many as the changes of the state that other
  tasks make meanwhile, of which there are at most four; after as many actions, and the four that
  closing takes, the close has returned. -/
  returns : ∀ i, c.tasks[i]? = some .load → ∀ turns,
    failures i c turns ≤ changes i c turns ∧ changes i c turns ≤ 4 ∧
      (4 + changes i c turns ≤ turns.count i → ∃ won, (c.run turns).tasks[i]? = some (.closed won))

theorem mem_act_of_left (h : t ∈ c.tasks) (hleft : t.left = 0) (i : Nat) :
    t ∈ (c.act i).tasks := by
  obtain ⟨j, hj⟩ := List.mem_iff_getElem?.mp h
  exact List.mem_of_getElem? (getElem?_run_of_left [i] c hj hleft)

theorem Sound.eq_of_reaches (h : c.Sound) (hwon : .closed true ∈ c.tasks) (hd : Reaches c d) :
    d.lifecycle = ⟨.closed, true⟩ := by
  have hmem : .closed true ∈ d.tasks := by
    induction hd with
    | refl => exact hwon
    | act i _ ih => exact mem_act_of_left ih rfl i
  exact ((h.reaches hd).eq_tells hmem rfl).2

theorem Sound.countP_le (h : c.Sound) : c.tasks.countP Task.hasWon ≤ 1 := by
  rw [List.countP_eq_length_filter]
  have hwon := h.won
  generalize c.tasks.filter Task.hasWon = winners at hwon
  generalize c.lifecycle = s at hwon
  cases hwon with
  | nobody => exact Nat.zero_le 1
  | somebody => exact Nat.le_refl 1

/-- Somebody has won when everybody has returned and somebody was to close. -/
theorem Sound.mem_closed (h : c.Sound) (hdone : ∀ t ∈ c.tasks, t.left = 0)
    (hclose : ∃ t ∈ c.tasks, t.IsClose) : .closed true ∈ c.tasks := by
  obtain ⟨t, hmem, ht⟩ := hclose
  obtain ⟨won, rfl⟩ := ht.eq_closed (hdone t hmem)
  cases won with
  | true => exact hmem
  | false =>
    -- the loser has seen that the session is closing, so there is a winner, who has returned too
    have hclosing := h.lost hmem
    have hwon := h.won
    generalize hw : c.tasks.filter Task.hasWon = winners at hwon
    generalize c.lifecycle = s at hclosing hwon
    cases hwon with
    | nobody hlt => exact absurd hclosing (RelayState.not_le_of_lt hlt)
    | @somebody u hu =>
      have hin : u ∈ c.tasks.filter Task.hasWon := by rw [hw]; exact List.mem_singleton_self u
      have humem := (List.mem_filter.mp hin).1
      have hleft := hdone u humem
      cases u with
      | closed won =>
        cases won with
        | true => exact humem
        | false => cases hu
      | cancel => cases hleft
      | store => cases hleft
      | transit expect after => cases hu
      | load => cases hu
      | exchange seen => cases hu
      | moved success => cases hu

theorem Sound.closesOnce (h : c.Sound) : c.ClosesOnce where
  once := h.countP_le
  exactly hdone hclose := h.mem_closed hdone hclose
  forward := h.le_act
  store hmem := by rw [(h.eq_tells hmem rfl).2]; rfl
  cancel i hbefore hafter := by
    cases hi : c.tasks[i]? with
    | none =>
      rw [act_of_none hi, hbefore] at hafter
      cases hafter
    | some t =>
      rw [act_of_some hi] at hafter
      obtain rfl := Task.eq_cancel_of_step hbefore hafter
      rw [(h.eq_tells (List.mem_of_getElem? hi) rfl).2]
      exact ⟨rfl, rfl⟩
  uncancelled hlt := (h.won.eq_nil hlt).2
  forever hwon d hd := h.eq_of_reaches hwon hd
  returns i hi turns := by
    have hfailures := failures_le_changes turns c hi
    have hchanges := h.changes_le i turns
    refine ⟨hfailures, by omega, fun hcount => ?_⟩
    refine exists_closed_of_count turns c hi trivial ?_
    exact Nat.le_trans (Nat.add_le_add_left hfailures 4) hcount

end Shared

/-- **Whatever calls tasks make on a lifecycle, and in whatever order they act, it is closed
once.** -/
theorem closes_once (calls : List Call) {c : Shared} (h : Reaches (.start calls) c) :
    c.ClosesOnce :=
  ((Shared.sound_start calls).reaches h).closesOnce

/-- Two closes race while the target is being connected: one exchange fails, and one close wins. -/
theorem race_closes_once :
    (Shared.start [.close, .close, .connect]).run [0, 2, 1, 0, 1, 0, 1] =
        ⟨[.closed false, .store, .moved true], ⟨.closing, true⟩⟩ ∧
      Shared.ClosesOnce ⟨[.closed false, .store, .moved true], ⟨.closing, true⟩⟩ :=
  ⟨by decide, closes_once [.close, .close, .connect]
    (Shared.reaches_run (.start [.close, .close, .connect]) [0, 2, 1, 0, 1, 0, 1])⟩

end TunnelRelay.Lifecycle
