import TunnelRelay.Tunnel.Sharing
import Mathlib.Data.List.Infix
import Mathlib.Tactic.Common

/-!
# What one call does with a writer

A call that sends a message puts its frame behind what waits, or leaves the octets what they are and
at most lets the stream take some from the front (`step_changes`). It returns without touching them,
and with none left if it succeeds (`step_returning`).
-/

namespace TunnelRelay.Tunnel

/-- All octets of the frames, whether the stream took them or not. -/
def Outbound.octets (o : Outbound) : Bytes := o.accepted ++ o.pending

@[simp] theorem Outbound.octets_take (o : Outbound) (n : Nat) : (o.take n).octets = o.octets := by
  simp [octets, take]

namespace Stage

variable {limit : UInt32} {encode : Bytes → Except RelayError Bytes} {answer : WriteAnswer}
  {o : Outbound} {s : Stage}

theorem encoded_judged (v : Verdict) : (judged v).encoded = true := by
  cases v <;> rfl

/-- A call makes no octets, and takes none back from the stream. -/
structure Keeps (s : Stage) (o : Outbound) (after : Stage × Outbound) : Prop where
  encoded : after.1.encoded = s.encoded
  octets : after.2.octets = o.octets
  accepted : o.accepted <+: after.2.accepted

theorem Keeps.stay {s' : Stage} (h : s'.encoded = s.encoded) : s.Keeps o (s', o) :=
  ⟨h, rfl, List.prefix_rfl⟩

theorem Keeps.take {s' : Stage} (h : s'.encoded = s.encoded) (n : Nat) :
    s.Keeps o (s', o.take n) :=
  ⟨h, o.octets_take n, List.prefix_append _ _⟩

/-- What the stream has its say on goes one of three ways. -/
theorem offer_cases {P : Stage × Outbound → Prop} {waiting going : Stage}
    {failed : StreamError → Stage} (hwaiting : P (waiting, o))
    (hgoing : ∀ n, P (going, o.take n)) (hfailed : ∀ e, P (failed e, o)) (answer : WriteAnswer) :
    P (offer o waiting going failed answer) := by
  rcases answer with (_ | n) | e | _
  · exact hfailed takesNothing
  · exact hgoing (n + 1)
  · exact hfailed e
  · exact hwaiting

/-- A call puts its frame behind what waits, or does not change what the octets are. -/
theorem step_changes (limit : UInt32) (encode : Bytes → Except RelayError Bytes)
    (answer : WriteAnswer) (o : Outbound) (s : Stage) :
    (s = encoding ∧ ∃ pending, encode o.pending = .ok pending ∧
      s.step limit encode answer o = (flushing 0, ⟨o.accepted, pending⟩)) ∨
    s.Keeps o (s.step limit encode answer o) := by
  cases s with
  | queued => exact .inr (.stay rfl)
  | looking =>
    right
    apply Keeps.stay
    split <;> rfl
  | clearing =>
    right
    simp only [step]
    split
    · exact .stay rfl
    · exact offer_cases (.stay rfl) (fun n => .take rfl n) (fun e => .stay rfl) answer
  | encoding =>
    cases h : encode o.pending with
    | ok pending => exact .inl ⟨rfl, pending, rfl, by simp only [step, h]⟩
    | error e =>
      right
      simp only [step, h]
      exact .stay rfl
  | flushing failures =>
    right
    simp only [step]
    split
    · exact .stay rfl
    · exact offer_cases (.stay rfl) (fun n => .take rfl n) (fun e => .stay (encoded_judged _))
        answer
  | returned encoded result => exact .inr (.stay rfl)

/-- A call keeps its turn or gives it back. -/
theorem hasTurn_of_step (hs : s ≠ queued) (h : (s.step limit encode answer o).1.hasTurn = true) :
    s.hasTurn = true := by
  cases s with
  | queued => exact absurd rfl hs
  | returned encoded result => cases h
  | _ => rfl

theorem judged_ne_queued (v : Verdict) : judged v ≠ queued := by
  cases v <;> simp [judged]

/-- A call queues once. -/
theorem step_ne_queued (s : Stage) : (s.step limit encode answer o).1 ≠ queued := by
  cases s with
  | queued => simp [step]
  | looking =>
    simp only [step]
    split <;> simp
  | clearing =>
    simp only [step]
    split
    · simp
    · exact offer_cases (P := fun after => after.1 ≠ queued) (by simp) (by simp) (by simp) answer
  | encoding =>
    simp only [step]
    split <;> simp
  | flushing failures =>
    simp only [step]
    split
    · simp
    · exact offer_cases (P := fun after => after.1 ≠ queued) (by simp) (by simp)
        (fun e => judged_ne_queued _) answer
  | returned encoded result => simp [step]

/-- A call that returns leaves the octets alone, and there are none waiting if it succeeds. -/
structure Returning (s : Stage) (o : Outbound) (after : Stage × Outbound) : Prop where
  alone : ∀ b result, after.1 = returned b result → after.2 = o
  empty : ∀ b, after.1 = returned b (.ok ()) → s = after.1 ∨ o.pending = []

theorem returning_of_hasTurn {after : Stage × Outbound} (h : after.1.hasTurn = true) :
    s.Returning o after where
  alone b result heq := by simp [heq, hasTurn] at h
  empty b heq := by simp [heq, hasTurn] at h

theorem returning_failed (b : Bool) (e : RelayError) :
    s.Returning o (returned b (.error e), o) where
  alone _ _ _ := rfl
  empty _ heq := by cases heq

theorem returning_judged (v : Verdict) : s.Returning o (judged v, o) := by
  cases v with
  | stop e => exact returning_failed true e
  | again failures => exact returning_of_hasTurn rfl

theorem step_returning (s : Stage) : s.Returning o (s.step limit encode answer o) := by
  cases s with
  | queued => exact returning_of_hasTurn rfl
  | looking =>
    apply returning_of_hasTurn
    simp only [step]
    split <;> rfl
  | clearing =>
    simp only [step]
    split
    · exact returning_of_hasTurn rfl
    · exact offer_cases (returning_of_hasTurn rfl) (fun n => returning_of_hasTurn rfl)
        (fun e => returning_failed _ _) answer
  | encoding =>
    simp only [step]
    split
    · exact returning_of_hasTurn rfl
    · exact returning_failed _ _
  | flushing failures =>
    simp only [step]
    split
    · rename_i hempty
      exact ⟨fun _ _ _ => rfl, fun _ _ => .inr hempty⟩
    · exact offer_cases (returning_of_hasTurn rfl) (fun n => returning_of_hasTurn rfl)
        (fun e => returning_judged _) answer
  | returned encoded result => exact ⟨fun _ _ _ => rfl, fun _ _ => .inl rfl⟩

end Stage

end TunnelRelay.Tunnel
