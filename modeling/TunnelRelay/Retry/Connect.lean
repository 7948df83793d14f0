import TunnelRelay.Retry.Policy

/-!
# Connecting to a target

A target is tried once and then as often again as the policy allows, with a pause between two
attempts. The connector enters as its answer to each attempt, counted from 0. The number of attempts
is counted in 32 bits, and a limit that leaves no room for it ends whatever was to connect.
-/

namespace TunnelRelay

/-- An attempt to connect to a target, as the connector is asked for it. -/
structure ConnectAttempt where
  host : String
  port : UInt16
  /-- Whether the connection is to be kept alive. -/
  keepAlive : Bool
  deriving DecidableEq, Repr

/-- The course of connecting. -/
structure ConnectRun (σ : Type) where
  result : Except RelayError σ
  /-- Every attempt, in order. -/
  attempts : List ConnectAttempt
  /-- The number of pauses made. -/
  pauses : Nat

/-- Makes the attempt `a` up to `remaining` more times, the next one being attempt `i`; `total` is
reported when all have failed. -/
def connectFrom {σ : Type} (answer : Nat → Except StreamError σ) (a : ConnectAttempt)
    (total : UInt32) : Nat → Nat → ConnectRun σ
  | _, 0 => ⟨.error (.connectFail a.host a.port total), [], 0⟩
  | i, remaining + 1 =>
    match answer i with
    | .ok stream => ⟨.ok stream, [a], 0⟩
    | .error _ =>
      let r := connectFrom answer a total (i + 1) remaining
      { r with
        attempts := a :: r.attempts
        pauses := r.pauses + if remaining = 0 then 0 else 1 }

/-- The number of attempts under a retry limit, which is one more, if 32 bits have room for it. -/
def attempts? (retryLimit : UInt32) : Option UInt32 :=
  if retryLimit.toNat + 1 < UInt32.size then some (retryLimit + 1) else none

/-- Connects to a target, trying once more than the retry limit. If the number of attempts has no
room, the sum overflows, and the task that was to connect dies of it: there is no result to go on
with, and nothing has been tried. -/
def connectWithRetry {σ : Type} (answer : Nat → Except StreamError σ) (host : String)
    (port : UInt16) (keepAlive : Bool) (retryLimit : UInt32) : Option (ConnectRun σ) :=
  (attempts? retryLimit).map fun total =>
    connectFrom answer ⟨host, port, keepAlive⟩ total 0 total.toNat

end TunnelRelay
