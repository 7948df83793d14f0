import TunnelRelay.Idle
import TunnelRelay.Tunnel.Link

/-!
# Heartbeats

A supervisor looks after one session of a proxy. Whenever the tunnel has been idle it sends a
heartbeat, unless it is the agent that has been silent for too long: then it closes the session. It
closes the session too when a heartbeat finds the tunnel closed, and when too many heartbeats in a
row could not be sent. It stops by itself when the session is closed or no longer registered.
-/

namespace TunnelRelay

/-- Where a supervisor stands. -/
inductive Heartbeat where
  /-- About to look the session up, after so many failures in a row. -/
  | looking (failures : Nat)
  /-- Waiting until the tunnel is idle or the session is closed. -/
  | waiting (failures : Nat)
  /-- Sending a heartbeat. -/
  | sending (failures : Nat)
  | stopped
  deriving DecidableEq, Repr

namespace Heartbeat

/-- A supervisor of a new session. -/
def start : Heartbeat := looking 0

/-- What a supervisor comes to see. -/
inductive Event where
  /-- Whether the session is registered. -/
  | lookedUp (found : Bool)
  /-- The session is closed. -/
  | closed
  /-- The tunnel has been idle. -/
  | idle (e : IdleEvent)
  /-- A heartbeat with this id and time came to this. -/
  | sent (id : String) (now : UInt64) (outcome : Sent)
  deriving DecidableEq, Repr

/-- What a supervisor does. -/
inductive Effect where
  | message (m : Body ProxyKind)
  | closeSession
  | closeTunnel
  deriving DecidableEq, Repr

/-- The next step after a heartbeat that came to this. -/
def afterSending (limit : UInt32) (failures : Nat) (outcome : Sent) : Heartbeat × List Effect :=
  match outcome.error? with
  | none => (looking 0, [])
  | some e =>
    if e.isChannelClosed then (stopped, [.closeSession])
    else if limit.toNat ≤ failures + 1 then (stopped, [.closeSession])
    else (looking (failures + 1), [])

/-- What an event leads to; nothing when the supervisor does not wait for it. -/
def step (user : String) (limit : UInt32) : Heartbeat → Event → Option (Heartbeat × List Effect)
  | looking _, .lookedUp false => some (stopped, [.closeTunnel])
  | looking n, .lookedUp true => some (waiting n, [])
  | waiting _, .closed => some (stopped, [])
  | waiting _, .idle .readerIdle => some (stopped, [.closeSession])
  | waiting n, .idle _ => some (sending n, [])
  | sending n, .sent id now outcome =>
    let (next, effects) := afterSending limit n outcome
    some (next, (outcome.entered (Body.heartbeat id user now)).map .message ++ effects)
  | _, _ => none

/-- What a sequence of events leads to. -/
def run (user : String) (limit : UInt32) : Heartbeat → List Event → Option (Heartbeat × List Effect)
  | h, [] => some (h, [])
  | h, e :: es => do
    let (h, effects) ← step user limit h e
    let (h, more) ← run user limit h es
    return (h, effects ++ more)

end Heartbeat

end TunnelRelay
