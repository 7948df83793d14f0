import TunnelRelay.Agent.Error
import TunnelRelay.Agent.ProxyAddress
import TunnelRelay.Lifecycle
import TunnelRelay.Tunnel.Link

/-!
# Opening a tunnel

The proxies are tried in order, and the first that accepts is the one. It is then asked to connect
to the target, and its answer decides; heartbeats on the way do not. Whatever else comes, or does
not come in time, closes the tunnel.
-/

namespace TunnelRelay

/-- What an agent does. -/
inductive AgentEffect where
  /-- A proxy accepted a tunnel of that id; messages go into the last tunnel. -/
  | tunnel (id : String)
  /-- A message enters the tunnel. -/
  | message (m : Body AgentKind)
  | closeTunnel
  /-- Octets reach the client. -/
  | toClient (b : Bytes)
  /-- A datagram leaves for an address. -/
  | datagram (dest : Endpoint) (b : Bytes)
  deriving DecidableEq, Repr

/-- How far a tunnel is. -/
inductive Opening.Phase where
  /-- The first of these proxies is being tried. -/
  | choosing (left : List ProxyAddress)
  /-- The connect message is being sent. -/
  | asking
  /-- The proxy is to answer. -/
  | waiting
  | opened
  | failed (e : AgentError)
  deriving DecidableEq, Repr

/-- A tunnel that is being opened to a target. -/
structure Opening where
  id : String
  target : Target
  keepAlive : Bool
  lifecycle : Lifecycle
  phase : Opening.Phase
  deriving DecidableEq, Repr

namespace Opening

/-- The choice between proxies of which those in front have been tried. -/
def choose (id : String) (left : List ProxyAddress) : Phase :=
  if left = [] then .failed (.noProxy id) else .choosing left

/-- A tunnel for which no proxy has been tried yet. -/
def start (id : String) (target : Target) (keepAlive : Bool) (proxies : List ProxyAddress) :
    Opening :=
  ⟨id, target, keepAlive, Lifecycle.fresh, choose id proxies⟩

/-- What opening a tunnel waits for. -/
inductive Event where
  /-- Whether the proxy accepts. -/
  | tried (accepted : Bool)
  /-- The connect message with this id came to this. -/
  | sent (id : String) (outcome : Sent)
  | received (r : Received ProxyKind)
  /-- The proxy did not answer in time. -/
  | timedOut
  deriving DecidableEq, Repr

/-- The tunnel is given up. -/
def fail (o : Opening) (e : AgentError) : Opening :=
  { o with lifecycle := o.lifecycle.close.2, phase := .failed e }

/-- The tunnel moves on, if its lifecycle does. -/
def move (o : Opening) (expect after : RelayState) (phase : Phase) : Opening :=
  match o.lifecycle.transit expect after with
  | .ok l => { o with lifecycle := l, phase }
  | .error e => { o with phase := .failed (.relay e) }

/-- What the proxy's answer means. -/
def answer (o : Opening) : Received ProxyKind → Opening × List AgentEffect
  | .ended => (o.fail (.proxyClosed o.id), [.closeTunnel])
  | .failed e => (o.fail (.relay e), [.closeTunnel])
  | .body m =>
    match m.kind with
    | .heartbeat => (o, [])
    | .connectSuccess => (o.move .connecting .established .opened, [])
    | .connectFail => (o.fail (.targetUnreachable o.target.host o.target.port), [.closeTunnel])
    | kind => (o.fail (.unexpectedMessage o.id kind), [.closeTunnel])

/-- What an event leads to; nothing when the opening does not wait for it. -/
def step (user : String) (o : Opening) (e : Event) : Option (Opening × List AgentEffect) :=
  match o.phase, e with
  | .choosing _, .tried true => some (o.move .idle .connecting .asking, [.tunnel o.id])
  | .choosing left, .tried false => some ({ o with phase := choose o.id left.tail }, [])
  | .asking, .sent id outcome =>
    let m := Body.connect id user o.target.host o.target.port o.keepAlive
    let entered := (outcome.entered m).map AgentEffect.message
    match outcome.error? with
    | none => some ({ o with phase := .waiting }, entered)
    | some e => some (o.fail (.relay e), entered ++ [.closeTunnel])
  | .waiting, .received r => some (o.answer r)
  | .waiting, .timedOut => some (o.fail (.responseTimeout o.id), [.closeTunnel])
  | _, _ => none

end Opening

end TunnelRelay
