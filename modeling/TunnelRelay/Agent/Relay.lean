import TunnelRelay.Agent.Context
import TunnelRelay.Agent.FromProxy
import TunnelRelay.Agent.ToProxy
import TunnelRelay.Registry

/-!
# Relaying a stream

Once a tunnel is open its session is registered, what the client has sent already goes ahead, and
then three legs run side by side: one to the proxy, one to the client, and one that watches for a
silent tunnel. They share the session's lifecycle: a leg that ends closes it, and a leg that waits
sees that and ends too. After the last of them the entry is removed and the tunnel closed.
-/

namespace TunnelRelay

/-- How far a relay is. -/
inductive Relay.Phase where
  /-- The first octets are being sent. -/
  | starting (data : Bytes) (source : Source)
  /-- The legs run, the last one as long as it watches. -/
  | running (up : ToProxy) (down : FromProxy) (watching : Bool)
  | closed (next : Option HandBack)
  deriving DecidableEq, Repr

/-- A relay between a client and the target of a tunnel. -/
structure Relay where
  id : String
  target : Target
  lifecycle : Lifecycle
  phase : Relay.Phase
  deriving DecidableEq, Repr

/-- The sessions of an agent that relay a stream. -/
abbrev Streams := Registry StreamEntry

namespace Relay

/-- The legs of a relay that starts to run. -/
def legs (source : Source) : Phase := .running (.reading source) .reading true

/-- A relay over a tunnel that has been opened, which begins with the given octets. -/
def start (user : String) (streams : Streams) (o : Opening) (data : Bytes) (source : Source) :
    Streams × Relay × List AgentEffect :=
  match streams.create o.id ⟨o.target, user, o.keepAlive⟩ with
  | .error _ => (streams, ⟨o.id, o.target, o.lifecycle, .closed none⟩, [.closeTunnel])
  | .ok streams =>
    let phase := if data = [] then legs source else .starting data source
    (streams, ⟨o.id, o.target, o.lifecycle, phase⟩, [])

/-- What a relay waits for. -/
inductive Event where
  /-- The first message with this id came to this. -/
  | sent (id : String) (outcome : Sent)
  | up (e : ToProxy.Event)
  | down (e : FromProxy.Event)
  /-- The tunnel has been silent for too long. -/
  | silent
  /-- The watching leg sees that the session is closed. -/
  | unwatched
  /-- All legs have ended. -/
  | finished
  deriving DecidableEq, Repr

/-- The lifecycle when a leg goes on or ends. -/
def after (ends : Bool) (l : Lifecycle) : Lifecycle := if ends then l.close.2 else l

/-- Whether the event can be seen: that the session is closed only if it is. -/
def visible (l : Lifecycle) : Event → Bool
  | .up .closed | .down .closed | .unwatched => l.cancelled
  | _ => true

/-- The session is over: its entry is removed and its tunnel closed. -/
def leave (streams : Streams) (r : Relay) (next : Option HandBack) :
    Streams × Relay × List AgentEffect :=
  (streams.remove r.id, { r with lifecycle := r.lifecycle.close.2, phase := .closed next },
    [.closeTunnel])

/-- What an event leads to; nothing when the relay does not wait for it. -/
def step (c : AgentContext) (streams : Streams) (r : Relay) (e : Event) :
    Option (Streams × Relay × List AgentEffect) :=
  if !visible r.lifecycle e then none
  else
    match r.phase, e with
    | .starting data source, .sent id outcome =>
      let m := Body.tcpData id c.userToken r.target.host r.target.port data
      let entered := (outcome.entered m).map AgentEffect.message
      match outcome.error? with
      | none => some (streams, { r with phase := legs source }, entered)
      | some _ =>
        let (streams, r, effects) := leave streams r none
        some (streams, r, entered ++ effects)
    | .running up down watching, .up e => do
      let (up, effects) ← up.step c.pieceSize c.userToken r.target e
      return (streams, { r with
        lifecycle := after up.isEnded r.lifecycle, phase := .running up down watching }, effects)
    | .running up down watching, .down e => do
      let (down, effects) ← down.step c.retry.writeRetryLimit e
      return (streams, { r with
        lifecycle := after (down = .ended) r.lifecycle
        phase := .running up down watching }, effects)
    | .running up down true, .silent =>
      some (streams, { r with
        lifecycle := r.lifecycle.close.2, phase := .running up down false }, [])
    | .running up down true, .unwatched =>
      some (streams, { r with phase := .running up down false }, [])
    | .running (.ended next) .ended false, .finished => some (leave streams r next)
    | _, _ => none

end Relay

end TunnelRelay
