import TunnelRelay.Error

/-!
# How often to try again

Every operation that is retried has a bound of its own, and between two attempts the same pause is
made. A failed write is classified first: if the other side is gone there is nothing to retry.
-/

namespace TunnelRelay

/-- The bounds of all retried operations of one side. -/
structure RetryPolicy where
  writeRetryLimit : UInt32
  connectRetryLimit : UInt32
  heartbeatFailureLimit : UInt32
  /-- The pause between attempts, in milliseconds. -/
  retryInterval : Nat
  deriving DecidableEq, Repr

namespace RetryPolicy

/-- The bounds unless configured. -/
def default : RetryPolicy := ⟨2, 2, 3, 100⟩

end RetryPolicy

/-- A count goes up by one unless it is the largest of 32 bits. -/
theorem toNat_add_one {n : UInt32} (h : n.toNat + 1 < UInt32.size) :
    (n + 1).toNat = n.toNat + 1 := by
  rw [UInt32.toNat_add, UInt32.toNat_one]
  exact Nat.mod_eq_of_lt h

/-- What a failed write leads to. -/
inductive Verdict where
  /-- The operation fails with this error. -/
  | stop (e : RelayError)
  /-- The operation is tried again after a pause, with this many failures so far. -/
  | again (failures : UInt32)
  deriving DecidableEq, Repr

/-- Classifies a failed write after `failures` earlier ones. -/
def Verdict.of (limit failures : UInt32) (e : StreamError) : Verdict :=
  if e.kind.closesChannel then .stop (.channelClosed e.text)
  else
    let failures := failures + 1
    if limit < failures then .stop (.transientWrite failures e) else .again failures

end TunnelRelay
