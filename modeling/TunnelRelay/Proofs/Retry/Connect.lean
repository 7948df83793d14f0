import TunnelRelay.Retry.Connect
import Mathlib.Tactic.Common

/-!
# What attempts to connect come to

A target is tried until an attempt succeeds, or until one more have failed than the policy allows to
repeat, with a pause between two attempts. `connectFrom_of_first` and `connectFrom_of_none` give the
whole run in either case, and a policy is honoured if they hold of it.

The number of attempts is counted in 32 bits. At the largest limit of all it has no room, and
connecting comes to nothing, be the target reachable or not. So a policy is honoured just below that
limit.
-/

namespace TunnelRelay

variable {σ : Type} {answer : Nat → Except StreamError σ} {a : ConnectAttempt} {total : UInt32}

/-! ## A number of attempts -/

/-- Of some attempts one is the first to succeed, or all fail. -/
theorem exists_first_or_forall_error (answer : Nat → Except StreamError σ) (n : Nat) :
    (∃ k < n, (∃ stream, answer k = .ok stream) ∧ ∀ j < k, ∃ e, answer j = .error e) ∨
      ∀ j < n, ∃ e, answer j = .error e := by
  induction n with
  | zero => exact .inr fun j hj => absurd hj (Nat.not_lt_zero j)
  | succ n ih =>
    rcases ih with ⟨k, hk, hfirst⟩ | hall
    · exact .inl ⟨k, Nat.lt_succ_of_lt hk, hfirst⟩
    · cases hanswer : answer n with
      | ok stream => exact .inl ⟨n, Nat.lt_succ_self n, ⟨stream, hanswer⟩, hall⟩
      | error e =>
        refine .inr fun j hj => ?_
        rcases Nat.lt_succ_iff_lt_or_eq.mp hj with hj | rfl
        · exact hall j hj
        · exact ⟨e, hanswer⟩

/-- The first success ends the run, and each failure before it was followed by a pause. -/
theorem connectFrom_of_first {i k remaining : Nat} {stream : σ} (hk : k < remaining)
    (hbefore : ∀ j < k, ∃ e, answer (i + j) = .error e) (hok : answer (i + k) = .ok stream) :
    connectFrom answer a total i remaining = ⟨.ok stream, List.replicate (k + 1) a, k⟩ := by
  -- each failure before the success takes one off the attempts that are left
  induction k generalizing i remaining with
  | zero =>
    obtain ⟨n, rfl⟩ : ∃ n, remaining = n + 1 := ⟨remaining - 1, by omega⟩
    rw [Nat.add_zero] at hok
    rw [connectFrom, hok]
    rfl
  | succ k ih =>
    obtain ⟨n, rfl⟩ : ∃ n, remaining = n + 1 := ⟨remaining - 1, by omega⟩
    obtain ⟨e, he⟩ := hbefore 0 (Nat.succ_pos k)
    rw [Nat.add_zero] at he
    have hrest : connectFrom answer a total (i + 1) n =
        ⟨.ok stream, List.replicate (k + 1) a, k⟩ := by
      refine ih (by omega) (fun j hj => ?_) ?_
      · rw [Nat.add_right_comm, Nat.add_assoc]
        exact hbefore (j + 1) (by omega)
      · rwa [Nat.add_right_comm, Nat.add_assoc]
    have hmore : n ≠ 0 := by omega
    rw [connectFrom, he]
    simp only [hrest, hmore, if_false, List.replicate_succ]

/-- Failures alone use up all attempts, with a pause between two. -/
theorem connectFrom_of_none {i remaining : Nat}
    (hall : ∀ j < remaining, ∃ e, answer (i + j) = .error e) :
    connectFrom answer a total i remaining =
      ⟨.error (.connectFail a.host a.port total), List.replicate remaining a, remaining - 1⟩ := by
  induction remaining generalizing i with
  | zero => rfl
  | succ n ih =>
    obtain ⟨e, he⟩ := hall 0 (Nat.succ_pos n)
    rw [Nat.add_zero] at he
    have hrest : connectFrom answer a total (i + 1) n =
        ⟨.error (.connectFail a.host a.port total), List.replicate n a, n - 1⟩ := by
      refine ih fun j hj => ?_
      rw [Nat.add_right_comm, Nat.add_assoc]
      exact hall (j + 1) (by omega)
    rw [connectFrom, he]
    simp only [hrest, List.replicate_succ]
    cases n with
    | zero => rfl
    | succ n => rfl

/-! ## As many as the policy allows -/

/-- What a policy promises of a run that makes the attempt `a`: one more attempt than `limit`,
unless one succeeds before. -/
structure ConnectRun.Honours (run : ConnectRun σ) (answer : Nat → Except StreamError σ)
    (a : ConnectAttempt) (limit : UInt32) : Prop where
  /-- If the `k`-th attempt, counted from 0, is the first to succeed and allowed, the run ends with
  its stream after `k + 1` attempts and `k` pauses. -/
  first : ∀ k ≤ limit.toNat, ∀ stream, answer k = .ok stream →
    (∀ j < k, ∃ e, answer j = .error e) → run = ⟨.ok stream, List.replicate (k + 1) a, k⟩
  /-- If no attempt that is allowed succeeds, all are made, and their number is reported. -/
  none : (∀ j ≤ limit.toNat, ∃ e, answer j = .error e) →
    ∃ total : UInt32, total.toNat = limit.toNat + 1 ∧
      run = ⟨.error (.connectFail a.host a.port total), List.replicate total.toNat a, limit.toNat⟩
  /-- The target is tried. -/
  tried : run.attempts ≠ []
  /-- Nothing else is tried. -/
  each : ∀ b ∈ run.attempts, b = a

theorem ConnectRun.Honours.mem_attempts {run : ConnectRun σ} {limit : UInt32}
    (h : run.Honours answer a limit) : a ∈ run.attempts := by
  obtain ⟨b, hb⟩ := List.exists_mem_of_ne_nil _ h.tried
  exact h.each b hb ▸ hb

/-- What a policy that is honoured says of the result. -/
theorem ConnectRun.Honours.result {run : ConnectRun σ} {limit : UInt32}
    (h : run.Honours answer a limit) :
    match run.result with
    | .ok stream => ∃ i ≤ limit.toNat, answer i = .ok stream
    | .error _ => ∀ i ≤ limit.toNat, ∃ cause, answer i = .error cause := by
  rcases exists_first_or_forall_error answer (limit.toNat + 1) with
    ⟨k, hk, ⟨stream, hok⟩, hbefore⟩ | hall
  · rw [h.first k (Nat.le_of_lt_succ hk) stream hok hbefore]
    exact ⟨k, Nat.le_of_lt_succ hk, hok⟩
  · have hall' : ∀ j ≤ limit.toNat, ∃ e, answer j = .error e :=
      fun j hj => hall j (Nat.lt_succ_of_le hj)
    obtain ⟨total, -, hrun⟩ := h.none hall'
    rw [hrun]
    exact hall'

variable {host : String} {port : UInt16} {keepAlive : Bool} {limit : UInt32}

/-- With room for the number of attempts they are made. -/
theorem connectWithRetry_of_room (hlimit : limit.toNat + 1 < UInt32.size) :
    connectWithRetry answer host port keepAlive limit =
      some (connectFrom answer ⟨host, port, keepAlive⟩ (limit + 1) 0 (limit.toNat + 1)) := by
  rw [connectWithRetry, attempts?, if_pos hlimit, Option.map_some, toNat_add_one hlimit]

/-- Connecting comes to nothing just where the number of attempts has no room. -/
theorem connectWithRetry_eq_none_iff :
    connectWithRetry answer host port keepAlive limit = none ↔
      ¬limit.toNat + 1 < UInt32.size := by
  rw [connectWithRetry, attempts?, Option.map_eq_none_iff, ite_eq_right_iff]
  exact ⟨fun h hlimit => Option.some_ne_none _ (h hlimit), fun h hlimit => absurd hlimit h⟩

/-- A run under a limit that leaves room for the number of attempts honours the policy. -/
theorem honours_connectFrom (answer : Nat → Except StreamError σ) (a : ConnectAttempt)
    (hlimit : limit.toNat + 1 < UInt32.size) :
    (connectFrom answer a (limit + 1) 0 (limit.toNat + 1)).Honours answer a limit := by
  have htotal := toNat_add_one hlimit
  have hfirst (k : Nat) (hk : k ≤ limit.toNat) (stream : σ) (hok : answer k = .ok stream)
      (hbefore : ∀ j < k, ∃ e, answer j = .error e) :
      connectFrom answer a (limit + 1) 0 (limit.toNat + 1) =
        ⟨.ok stream, List.replicate (k + 1) a, k⟩ := by
    refine connectFrom_of_first (Nat.lt_succ_of_le hk) ?_ ?_
    · simpa only [Nat.zero_add] using hbefore
    · rwa [Nat.zero_add]
  have hnone (hall : ∀ j ≤ limit.toNat, ∃ e, answer j = .error e) :
      connectFrom answer a (limit + 1) 0 (limit.toNat + 1) =
        ⟨.error (.connectFail a.host a.port (limit + 1)), List.replicate (limit + 1).toNat a,
          limit.toNat⟩ := by
    rw [connectFrom_of_none, htotal]
    · rfl
    · simpa only [Nat.zero_add, Nat.lt_succ_iff] using hall
  -- one of the two cases is the run's, so the attempts are known
  have hattempts : ∃ n, (connectFrom answer a (limit + 1) 0 (limit.toNat + 1)).attempts =
      List.replicate (n + 1) a := by
    rcases exists_first_or_forall_error answer (limit.toNat + 1) with
      ⟨k, hk, ⟨stream, hok⟩, hbefore⟩ | hall
    · exact ⟨k, by rw [hfirst k (Nat.le_of_lt_succ hk) stream hok hbefore]⟩
    · refine ⟨limit.toNat, ?_⟩
      rw [hnone fun j hj => hall j (Nat.lt_succ_of_le hj), htotal]
  obtain ⟨n, hattempts⟩ := hattempts
  refine ⟨hfirst, fun hall => ⟨limit + 1, htotal, hnone hall⟩, ?_, ?_⟩
  · rw [hattempts]
    exact List.cons_ne_nil _ _
  · rw [hattempts]
    exact fun b hb => List.eq_of_mem_replicate hb

/-- **A policy is honoured** if and only if there is room for the number of its attempts. -/
theorem connectWithRetry_honours_iff :
    (∃ run, connectWithRetry answer host port keepAlive limit = some run ∧
      run.Honours answer ⟨host, port, keepAlive⟩ limit) ↔ limit.toNat + 1 < UInt32.size := by
  constructor
  · rintro ⟨run, hrun, -⟩
    by_contra hlimit
    rw [connectWithRetry_eq_none_iff.mpr hlimit] at hrun
    cases hrun
  · intro hlimit
    exact ⟨_, connectWithRetry_of_room hlimit, honours_connectFrom answer _ hlimit⟩

/-- **A target that would be reached at once is not reached** at the largest limit. -/
theorem greatestLimit_not_honoured :
    ¬∃ run, connectWithRetry (fun _ => .ok ()) "example.com" 443 true 0xffffffff = some run ∧
      run.Honours (fun _ => .ok ()) ⟨"example.com", 443, true⟩ 0xffffffff := by
  rintro ⟨run, hrun, -⟩
  cases hrun

end TunnelRelay
