import TunnelRelay.Retry.Write
import Mathlib.Data.List.Infix
import Mathlib.Tactic.Common

/-!
# What a writer receives

Whatever a writer answers, it has received a part of the data from its front, and all of it if
writing succeeds.
-/

namespace TunnelRelay

/-- The writer has received a part of the data from its front, and all of it on success. -/
structure WriteRun.Delivers (run : WriteRun) (data : Bytes) : Prop where
  part : run.received <+: data
  all : run.result = .ok () → run.received = data

namespace WriteRun

variable {run : WriteRun} {data : Bytes}

theorem Delivers.after (h : run.Delivers data) (c : WriterCall) : (run.after c).Delivers data :=
  ⟨h.part, h.all⟩

theorem Delivers.pausing (h : run.Delivers data) : run.pausing.Delivers data :=
  ⟨h.part, h.all⟩

theorem Delivers.taking (h : run.Delivers data) (b : Bytes) :
    (run.taking b).Delivers (b ++ data) := by
  refine ⟨?_, ?_⟩
  · exact (List.prefix_append_right_inj b).mpr h.part
  · intro hresult
    rw [WriteRun.taking, h.all hresult]

/-- A run that fails at once has delivered nothing. -/
theorem delivers_finish_error (e : RelayError) (data : Bytes) :
    (finish (.error e)).Delivers data := by
  refine ⟨List.nil_prefix, ?_⟩
  intro hresult
  cases hresult

end WriteRun

/-- A flush moves no octets. -/
theorem flushAll_delivers (limit : UInt32) (script : List FlushAnswer) (failures : UInt32) :
    (flushAll limit script failures).Delivers [] := by
  induction script generalizing failures with
  | nil => exact ⟨List.prefix_rfl, fun _ => rfl⟩
  | cons answer script ih =>
    cases answer with
    | done => exact ⟨List.prefix_rfl, fun _ => rfl⟩
    | notReady => exact (ih failures).after .flush
    | fails e =>
      rw [flushAll]
      cases Verdict.of limit failures e with
      | stop e => exact (WriteRun.delivers_finish_error e []).after .flush
      | again failures => exact (ih failures).pausing.after .flush

theorem writeRest_delivers (limit : UInt32) (flushes : List FlushAnswer)
    (writes : List WriteAnswer) (data : Bytes) (failures : UInt32) :
    (writeRest limit flushes writes data failures).Delivers data := by
  induction writes generalizing data failures with
  | nil =>
    cases data with
    | nil => exact flushAll_delivers limit flushes failures
    | cons b data =>
      have h := (flushAll_delivers limit flushes failures).taking (b :: data)
      rw [List.append_nil] at h
      exact h.after _
  | cons answer writes ih =>
    cases data with
    | nil => exact flushAll_delivers limit flushes failures
    | cons b data =>
      cases answer with
      | notReady => exact (ih (b :: data) failures).after _
      | takes most =>
        cases most with
        | zero => exact (WriteRun.delivers_finish_error _ _).after _
        | succ n =>
          have h := (ih ((b :: data).drop (n + 1)) failures).taking ((b :: data).take (n + 1))
          rw [List.take_append_drop] at h
          exact h.after _
      | fails e =>
        rw [writeRest]
        -- an interrupted write is tried again and counts as no failure
        refine WriteRun.Delivers.after ?_ _
        by_cases hinterrupted : e.kind = .interrupted
        · simp only [hinterrupted, if_true]
          exact ih (b :: data) failures
        · simp only [hinterrupted, if_false]
          cases Verdict.of limit failures e with
          | stop e => exact WriteRun.delivers_finish_error e _
          | again failures => exact (ih (b :: data) failures).pausing

/-- **What is written is received from its front**, and all of it if writing succeeds. -/
theorem writeAll_delivers (limit : UInt32) (writes : List WriteAnswer)
    (flushes : List FlushAnswer) (data : Bytes) :
    (writeAll limit writes flushes data).Delivers data :=
  writeRest_delivers limit flushes writes data 0

end TunnelRelay
