import TunnelRelay.System
import Mathlib.Data.List.Infix
import Mathlib.Tactic.Common

/-!
# Octets that pass through a leg

A leg of a relay reads octets on one side, holds some of them, and passes them on at its other side.
While it runs nothing is lost: what it has read is what it has passed on and, behind that, what it
still holds. When it has ended it reads no more, and what it has passed on is a part from the front
of what it had read. Each leg of a relay keeps `Passes`; what differs is only how it holds octets.
-/

namespace TunnelRelay

/-- What was read, by what was passed on and what is still held; nothing is held by a leg that has
ended. -/
def Passes (held : Option Bytes) (read passed : Bytes) : Prop :=
  match held with
  | some held => passed ++ held = read
  | none => passed <+: read

namespace Passes

variable {held d read passed : Bytes}

/-- Nothing is passed on that was not read. -/
theorem isPrefix {held : Option Bytes} (h : Passes held read passed) : passed <+: read := by
  cases held with
  | none => exact h
  | some held => exact ⟨held, h⟩

/-- A running leg that starts with nothing. -/
theorem start : Passes (some []) [] [] := rfl

theorem take (h : Passes (some held) read passed) (b : Bytes) :
    Passes (some (held ++ b)) (read ++ b) passed := by
  change passed ++ (held ++ b) = read ++ b
  rw [← List.append_assoc, h]

theorem give (h : Passes (some (d ++ held)) read passed) :
    Passes (some held) read (passed ++ d) := by
  change passed ++ d ++ held = read
  rw [List.append_assoc]
  exact h

/-- A leg that has passed on all that it held holds nothing. -/
theorem giveAll (h : Passes (some d) read passed) : Passes (some []) read (passed ++ d) := by
  change passed ++ d ++ [] = read
  rw [List.append_nil]
  exact h

/-- A leg may end after it has passed on a part of what it was about to. -/
theorem stop (h : Passes (some held) read passed) (hd : d <+: held) :
    Passes none read (passed ++ d) := by
  obtain ⟨rest, rfl⟩ := hd
  exact ⟨rest, by rw [List.append_assoc]; exact h⟩

/-- Octets that came before are before what was passed on. -/
theorem behind {held : Option Bytes} (front : Bytes) (h : Passes held read passed) :
    Passes held (front ++ read) (front ++ passed) := by
  cases held with
  | none =>
    obtain ⟨rest, hrest⟩ := h
    exact ⟨rest, by rw [List.append_assoc, hrest]⟩
  | some held =>
    change front ++ passed ++ held = front ++ read
    rw [List.append_assoc]
    exact congrArg (front ++ ·) h

/-- A leg may end at any time, and lose what it holds. -/
theorem lose {held : Option Bytes} (h : Passes held read passed) : Passes none read passed :=
  h.isPrefix

/-- What comes after the end is lost. -/
theorem miss (h : Passes none read passed) (b : Bytes) : Passes none (read ++ b) passed :=
  List.IsPrefix.trans h (List.prefix_append read b)

end Passes

/-! ## Payloads -/

/-- The payloads of the messages of one type, one behind the other. -/
def Body.stream {κ : Type} [DecidableEq κ] (kind : κ) (ms : List (Body κ)) : Bytes :=
  ms.flatMap fun m => if m.kind = kind then m.payload else []

/-- The message that came out of a tunnel, if one did. -/
def Received.bodies {κ : Type} : Option (Received κ) → List (Body κ)
  | some (.body m) => [m]
  | _ => []

section

variable {κ : Type} [DecidableEq κ] {kind : κ}

@[simp] theorem Body.stream_nil : Body.stream kind [] = [] := rfl

@[simp] theorem Body.stream_append (ms ns : List (Body κ)) :
    Body.stream kind (ms ++ ns) = Body.stream kind ms ++ Body.stream kind ns :=
  List.flatMap_append

theorem Body.stream_singleton (m : Body κ) :
    Body.stream kind [m] = if m.kind = kind then m.payload else [] := by
  simp [Body.stream]

/-- What came out of a tunnel was the first that was in it. -/
theorem eq_of_takeNext {queue queue' : List (Body κ)} {r : Option (Received κ)}
    (h : takeNext queue r = some queue') : queue = Received.bodies r ++ queue' := by
  match r with
  | none | some .ended | some (.failed _) =>
    simp only [takeNext, Option.some.injEq] at h
    exact h
  | some (.body m) =>
    simp only [takeNext] at h
    split at h
    · rename_i hhead
      cases h
      cases queue with
      | nil => cases hhead
      | cons n queue =>
        cases hhead
        rfl
    · cases h

end

/-- What was read from a stream was the next of it. -/
theorem Pipe.eq_of_get? {p p' : Pipe} {b : Option Bytes} (h : p.get? b = some p') :
    p'.sent = p.sent ∧ p.unread = b.getD [] ++ p'.unread := by
  cases b with
  | none =>
    cases h
    exact ⟨rfl, rfl⟩
  | some b =>
    simp only [get?] at h
    split at h
    · rename_i hpart
      cases h
      obtain ⟨rest, hrest⟩ := List.isPrefixOf_iff_prefix.mp hpart
      refine ⟨rfl, ?_⟩
      rw [Option.getD_some, ← hrest, List.drop_left]
    · cases h

/-! ## What was sent -/

section

variable {κ : Type}

/-- A message is on its way when its sender goes on. -/
theorem Sent.entered_of_none {outcome : Sent} (h : outcome.error? = none) (m : Body κ) :
    outcome.entered m = [m] := by
  cases outcome with
  | done => rfl
  | stuck e => cases h
  | refused e => cases h

/-- A message that could not be sent may still be on its way, or it is not. -/
theorem Sent.entered_eq (outcome : Sent) (m : Body κ) :
    outcome.entered m = [m] ∨ outcome.entered m = [] := by
  cases outcome with
  | done => exact Or.inl rfl
  | stuck e => exact Or.inl rfl
  | refused e => exact Or.inr rfl

/-- Nothing but the message that is sent enters a tunnel. -/
theorem Sent.eq_of_mem_entered (outcome : Sent) {m n : Body κ} (h : n ∈ outcome.entered m) :
    n = m := by
  rcases outcome.entered_eq m with hin | hin
  · rw [hin] at h
    exact List.mem_singleton.mp h
  · rw [hin] at h
    cases h

variable [DecidableEq κ] {kind : κ} {m : Body κ} {outcome : Sent} {held read passed : Bytes}

/-- A message of another type carries nothing of the stream, whatever becomes of it. -/
theorem Sent.stream_entered_of_ne (outcome : Sent) (hm : m.kind ≠ kind) :
    Body.stream kind (outcome.entered m) = [] := by
  rcases outcome.entered_eq m with hin | hin
  · rw [hin, Body.stream_singleton, if_neg hm]
  · rw [hin, Body.stream_nil]

/-- A payload is passed on when its sender goes on. -/
theorem Passes.send (h : outcome.error? = none) (hm : m.kind = kind)
    (hp : Passes (some (m.payload ++ held)) read passed) :
    Passes (some held) read (passed ++ Body.stream kind (outcome.entered m)) := by
  rw [Sent.entered_of_none h, Body.stream_singleton, if_pos hm]
  exact hp.give

/-- A payload may be passed on or not when its sender gives up. -/
theorem Passes.giveUp (outcome : Sent) (hm : m.kind = kind)
    (hp : Passes (some (m.payload ++ held)) read passed) :
    Passes none read (passed ++ Body.stream kind (outcome.entered m)) := by
  rcases outcome.entered_eq m with hin | hin
  · rw [hin, Body.stream_singleton, if_pos hm]
    exact hp.stop (List.prefix_append m.payload held)
  · rw [hin, Body.stream_nil, List.append_nil]
    exact hp.lose

end

end TunnelRelay
