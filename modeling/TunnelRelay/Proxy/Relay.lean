import TunnelRelay.Proxy.Context
import TunnelRelay.Proxy.Heartbeat
import TunnelRelay.Lifecycle
import TunnelRelay.Registry
import TunnelRelay.Retry.Write

/-!
# Relaying a stream to a target

Once the target is connected the session is registered and the agent is told. Then three legs run
side by side: one writes to the target what the agent sends, one sends to the agent what the target
says, and one keeps the tunnel alive. They share the session's lifecycle as the legs of an agent do.
After the last of them the entry is removed and the tunnel closed.
-/

namespace TunnelRelay

/-- What a proxy does. -/
inductive ProxyEffect where
  /-- The target is tried. -/
  | attempt (target : Target) (keepAlive : Bool)
  /-- A message enters the tunnel. -/
  | message (m : Body ProxyKind)
  /-- The tunnel is shut down, or let go. -/
  | closeTunnel
  /-- Octets reach the target. -/
  | toTarget (b : Bytes)
  /-- Nothing more is written to the target. -/
  | shutTarget
  /-- A datagram leaves for an address. -/
  | datagram (dest : Endpoint) (b : Bytes)
  deriving DecidableEq, Repr

/-! ## From the agent to the target -/

/-- Where the leg to the target stands. -/
inductive ToTarget where
  | reading
  | writing (data : Bytes)
  | ended
  deriving DecidableEq, Repr

namespace ToTarget

/-- What the leg waits for. -/
inductive Event where
  /-- The session is closed. -/
  | closed
  | received (r : Received AgentKind)
  /-- The target's stream answered the writes and the flushes so. -/
  | wrote (writes : List WriteAnswer) (flushes : List FlushAnswer)
  deriving DecidableEq, Repr

/-- What a read from the tunnel leads to: only data may come. -/
def receive : Received AgentKind → ToTarget
  | .ended | .failed _ => ended
  | .body m => if m.kind = .tcpData then writing m.payload else ended

/-- The end of the leg closes its half of the target's stream. -/
def leaving : ToTarget → List ProxyEffect
  | ended => [.shutTarget]
  | _ => []

/-- What an event leads to; nothing when the leg does not wait for it. -/
def step (retryLimit : UInt32) : ToTarget → Event → Option (ToTarget × List ProxyEffect)
  | reading, .closed => some (ended, leaving ended)
  | reading, .received r => some (receive r, (receive r).leaving)
  | writing data, .wrote writes flushes =>
    let run := writeAll retryLimit writes flushes data
    match run.result with
    | .ok () => some (reading, [.toTarget run.received])
    | .error _ => some (ended, .toTarget run.received :: leaving ended)
  | _, _ => none

end ToTarget

/-! ## From the target to the agent -/

/-- Where the leg from the target stands. -/
inductive FromTarget where
  | reading
  | sending (data : Bytes)
  | ended
  deriving DecidableEq, Repr

namespace FromTarget

/-- What the leg waits for. -/
inductive Event where
  /-- The session is closed. -/
  | closed
  /-- Octets have come. -/
  | read (b : Bytes)
  /-- The target has ended its stream, or it failed. -/
  | ended
  /-- The message with this id came to this. -/
  | sent (id : String) (outcome : Sent)
  deriving DecidableEq, Repr

/-- What an event leads to; nothing when the leg does not wait for it. -/
def step (pieceSize : Nat) (user : String) (target : Target) :
    FromTarget → Event → Option (FromTarget × List ProxyEffect)
  | reading, .closed | reading, .ended => some (ended, [])
  | reading, .read b => if b ≠ [] ∧ b.length ≤ pieceSize then some (sending b, []) else none
  | sending data, .sent id outcome =>
    let m := Body.okTcp id user target.host target.port data
    some (if outcome.error?.isNone then reading else ended,
      (outcome.entered m).map ProxyEffect.message)
  | _, _ => none

end FromTarget

/-! ## The session -/

/-- How far a relay to a target is. -/
inductive ProxyRelay.Phase where
  /-- The agent is being told that the target is connected. -/
  | confirming
  | running (up : ToTarget) (down : FromTarget) (heart : Heartbeat)
  | closed
  deriving DecidableEq, Repr

/-- A relay between a tunnel and a target. -/
structure ProxyRelay where
  id : String
  target : Target
  user : String
  lifecycle : Lifecycle
  phase : ProxyRelay.Phase
  deriving DecidableEq, Repr

/-- The sessions of a proxy that relay a stream. -/
abbrev ProxyStreams := Registry StreamEntry

namespace ProxyRelay

/-- A relay to a target that has just been connected for the given connect message. -/
def start (streams : ProxyStreams) (id : String) (m : Body AgentKind) (l : Lifecycle) :
    Option (ProxyStreams × ProxyRelay) :=
  let target : Target := ⟨m.host, m.port⟩
  match streams.create id ⟨target, m.user, m.kind = .connectWithKeepAlive⟩,
      l.transit .connecting .established with
  | .ok streams, .ok l => some (streams, ⟨id, target, m.user, l, .confirming⟩)
  | _, _ => none

/-- What a relay waits for. -/
inductive Event where
  /-- The answer with this id to the connect message came to this. -/
  | sent (id : String) (outcome : Sent)
  | up (e : ToTarget.Event)
  | down (e : FromTarget.Event)
  | heart (e : Heartbeat.Event)
  /-- All legs have ended. -/
  | finished
  deriving DecidableEq, Repr

/-- Whether the event can be seen: that the session is closed only if it is, and its entry as the
registry has it. -/
def visible (streams : ProxyStreams) (r : ProxyRelay) : Event → Bool
  | .up .closed | .down .closed | .heart .closed => r.lifecycle.cancelled
  | .heart (.lookedUp found) => found = (streams.get? r.id).isSome
  | _ => true

/-- The lifecycle when a leg goes on or ends. -/
def after (ends : Bool) (l : Lifecycle) : Lifecycle := if ends then l.close.2 else l

/-- The session is over: its entry is removed and its tunnel closed. -/
def leave (streams : ProxyStreams) (r : ProxyRelay) :
    ProxyStreams × ProxyRelay × List ProxyEffect :=
  (streams.remove r.id, { r with lifecycle := r.lifecycle.close.2, phase := .closed },
    [.closeTunnel])

/-- What a supervisor does, as far as it can be seen outside the session. -/
def outer : Heartbeat.Effect → List ProxyEffect
  | .message m => [.message m]
  | .closeTunnel => [.closeTunnel]
  | .closeSession => []

/-- What an event leads to; nothing when the relay does not wait for it. -/
def step (c : ProxyContext) (streams : ProxyStreams) (r : ProxyRelay) (e : Event) :
    Option (ProxyStreams × ProxyRelay × List ProxyEffect) :=
  if !visible streams r e then none
  else
    match r.phase, e with
    | .confirming, .sent id outcome =>
      let m := Body.connectSuccess id r.user r.target.host r.target.port
      let entered := (outcome.entered m).map ProxyEffect.message
      match outcome.error? with
      | none => some (streams, { r with phase := .running .reading .reading .start }, entered)
      | some _ =>
        let (streams, r, effects) := leave streams r
        some (streams, r, entered ++ effects)
    | .running up down heart, .up e => do
      let (up, effects) ← up.step c.retry.writeRetryLimit e
      return (streams, { r with
        lifecycle := after (up = .ended) r.lifecycle, phase := .running up down heart }, effects)
    | .running up down heart, .down e => do
      let (down, effects) ← down.step c.pieceSize r.user r.target e
      return (streams, { r with
        lifecycle := after (down = .ended) r.lifecycle, phase := .running up down heart }, effects)
    | .running up down heart, .heart e => do
      let (heart, effects) ← heart.step r.user c.retry.heartbeatFailureLimit e
      return (streams, { r with
          lifecycle := after (effects.contains .closeSession) r.lifecycle
          phase := .running up down heart },
        effects.flatMap outer)
    | .running .ended .ended .stopped, .finished => some (leave streams r)
    | _, _ => none

end ProxyRelay

end TunnelRelay
