import TunnelRelay.Agent.Opening
import TunnelRelay.Retry.Write

/-!
# From the proxy to the client

The other leg of a relay writes to the client what the target sent. Heartbeats say nothing to the
client; any message that does not belong here ends the leg.
-/

namespace TunnelRelay

/-- Where the leg stands. -/
inductive FromProxy where
  | reading
  | writing (data : Bytes)
  | ended
  deriving DecidableEq, Repr

namespace FromProxy

/-- What the leg waits for. -/
inductive Event where
  /-- The session is closed. -/
  | closed
  | received (r : Received ProxyKind)
  /-- The client's stream answered the writes and the flushes so. -/
  | wrote (writes : List WriteAnswer) (flushes : List FlushAnswer)
  deriving DecidableEq, Repr

/-- What a read from the tunnel leads to. -/
def receive : Received ProxyKind → FromProxy
  | .ended | .failed _ => ended
  | .body m =>
    match m.kind with
    | .heartbeat => reading
    | .okTcp => writing m.payload
    | _ => ended

/-- What an event leads to; nothing when the leg does not wait for it. -/
def step (retryLimit : UInt32) : FromProxy → Event → Option (FromProxy × List AgentEffect)
  | reading, .closed => some (ended, [])
  | reading, .received r => some (receive r, [])
  | writing data, .wrote writes flushes =>
    let run := writeAll retryLimit writes flushes data
    match run.result with
    | .ok () => some (reading, [.toClient run.received])
    | .error _ => some (ended, [.toClient run.received])
  | _, _ => none

end FromProxy

end TunnelRelay
