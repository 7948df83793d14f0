import TunnelRelay.Idle

/-!
# Two watchers of one tunnel

Both ends of a tunnel watch it. The proxy's watcher sends a heartbeat when it finds the tunnel idle;
the agent's gives the session up when nothing has come from the proxy for too long. Here every
message arrives at once, and both watchers look at the ticks of their own thresholds, so a session
is determined by when the client and the target send something. Times are in milliseconds from the
moment in which the session was established.
-/

namespace TunnelRelay

/-- The thresholds of both ends. -/
structure Vigil.Thresholds where
  agent : IdleThresholds
  proxy : IdleThresholds
  deriving DecidableEq, Repr

/-- The thresholds unless configured. -/
def Vigil.Thresholds.default : Vigil.Thresholds :=
  ⟨IdleThresholds.ofSeconds 90 0 0, IdleThresholds.ofSeconds 0 0 30⟩

/-- What both ends know of the tunnel. -/
structure Vigil where
  agent : IdleTracker
  proxy : IdleTracker
  deriving DecidableEq, Repr

namespace Vigil

/-- A session that has just been established. -/
def fresh : Vigil := ⟨IdleTracker.fresh, IdleTracker.fresh⟩

/-- The agent sends a message. -/
def up (v : Vigil) (now : Nat) : Vigil :=
  ⟨v.agent.markWrite now, v.proxy.markRead now⟩

/-- The proxy sends a message. -/
def down (v : Vigil) (now : Nat) : Vigil :=
  ⟨v.agent.markRead now, v.proxy.markWrite now⟩

/-- Whether a watcher looks at a time. -/
def looks (t : IdleThresholds) (now : Nat) : Bool :=
  match t.tick with
  | none => false
  | some tick => 0 < now && now % tick = 0

/-- The proxy's watcher looks: an idle tunnel gets a heartbeat, unless it is the agent that is
silent. -/
def proxyLooks (t : IdleThresholds) (v : Vigil) (now : Nat) : Vigil :=
  match v.proxy.event t now with
  | some .allIdle | some .writerIdle => v.down now
  | _ => v

/-- What the client and the target do at each time. -/
structure Schedule where
  client : Nat → Bool
  target : Nat → Bool

/-- One millisecond, in which the streams come first and the watchers after them, with what the
agent's watcher finds. -/
def tick (t : Thresholds) (s : Schedule) (v : Vigil) (now : Nat) : Vigil × Option IdleEvent :=
  let v := if s.client now then v.up now else v
  let v := if s.target now then v.down now else v
  let v := if looks t.proxy now then proxyLooks t.proxy v now else v
  (v, if looks t.agent now then v.agent.event t.agent now else none)

/-- What both ends know after a time. -/
def state (t : Thresholds) (s : Schedule) : Nat → Vigil
  | 0 => fresh
  | now + 1 => (tick t s (state t s now) (now + 1)).1

/-- What the agent's watcher finds at a time. -/
def found (t : Thresholds) (s : Schedule) : Nat → Option IdleEvent
  | 0 => none
  | now + 1 => (tick t s (state t s now) (now + 1)).2

end Vigil

end TunnelRelay
