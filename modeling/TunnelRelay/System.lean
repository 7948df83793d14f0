import TunnelRelay.Agent.Session
import TunnelRelay.Proxy.Session

/-!
# A client, an agent, a proxy and a target

The two ends of one tunnel run side by side, each between the tunnel and a stream of its own: the
client's on the side of the agent, the target's on the side of the proxy. Streams and tunnel deliver
in order what was put into them, cut in any way; messages are what the tunnel carries. `Step` is one
event anywhere, and `Reaches` is what any sequence of events can lead to.
-/

namespace TunnelRelay

/-! ## What an event takes in -/

/-- The octet that the agent sees at the front of the client's stream in an event, if it does. -/
def AgentSession.Event.sees : AgentSession.Event → Option UInt8
  | .first octet => octet
  | _ => none

/-- The octets that the agent reads from the client in an event, if it does. -/
def AgentSession.Event.reads : AgentSession.Event → Option Bytes
  | .socks (.read b) | .http (.read b) => some b
  | .socks (.relay (.up (.read b))) | .http (.relay (.up (.read b))) => some b
  | _ => none

/-- What the agent reads from the tunnel in an event, if it does. -/
def AgentSession.Event.receives : AgentSession.Event → Option (Received ProxyKind)
  | .socks (.opening (.received r)) | .http (.opening (.received r)) => some r
  | .socks (.relay (.down (.received r))) | .http (.relay (.down (.received r))) => some r
  | .socks (.association (.received r)) => some r
  | _ => none

/-- The octets that the proxy reads from the target in an event, if it does. -/
def ProxySession.Event.reads : ProxySession.Event → Option Bytes
  | .relay (.down (.read b)) => some b
  | _ => none

/-- What the proxy reads from the tunnel in an event, if it does. -/
def ProxySession.Event.receives : ProxySession.Event → Option (Received AgentKind)
  | .received r => some r
  | .relay (.up (.received r)) => some r
  | .datagrams (.received r) => some r
  | _ => none

/-! ## What an event puts out -/

/-- The messages among what an agent does. -/
def AgentEffect.messages (effects : List AgentEffect) : List (Body AgentKind) :=
  effects.filterMap fun
    | .message m => some m
    | _ => none

/-- The octets for the client among what an agent does. -/
def AgentEffect.forClient (effects : List AgentEffect) : Bytes :=
  effects.flatMap fun
    | .toClient b => b
    | _ => []

/-- The messages among what a proxy does. -/
def ProxyEffect.messages (effects : List ProxyEffect) : List (Body ProxyKind) :=
  effects.filterMap fun
    | .message m => some m
    | _ => none

/-- The octets for the target among what a proxy does. -/
def ProxyEffect.forTarget (effects : List ProxyEffect) : Bytes :=
  effects.flatMap fun
    | .toTarget b => b
    | _ => []

/-! ## The system -/

/-- A stream in one direction: all that was put into it, and what of it has not been read. -/
structure Pipe where
  sent : Bytes
  unread : Bytes
  deriving DecidableEq, Repr

namespace Pipe

/-- A stream into which nothing was put. -/
def empty : Pipe := ⟨[], []⟩

/-- More octets are put into the stream. -/
def put (p : Pipe) (b : Bytes) : Pipe := ⟨p.sent ++ b, p.unread ++ b⟩

/-- Whether an octet is the next one of the stream, if there is one to be seen. -/
def shows (p : Pipe) : Option UInt8 → Bool
  | none => true
  | some octet => p.unread.head? = some octet

/-- Octets are read, if they are next, or none are. -/
def get? (p : Pipe) : Option Bytes → Option Pipe
  | none => some p
  | some b =>
    if b.isPrefixOf p.unread then some { p with unread := p.unread.drop b.length } else none

end Pipe

/-- Reading from a tunnel takes the next message, or finds the tunnel ended or broken. -/
def takeNext {κ : Type} [DecidableEq κ] (queue : List (Body κ)) :
    Option (Received κ) → Option (List (Body κ))
  | some (.body m) => if queue.head? = some m then some queue.tail else none
  | _ => some queue

/-- The two ends of one tunnel with all that is on its way. -/
structure System where
  agent : AgentSession
  agentRegistries : AgentRegistries
  proxy : ProxySession
  proxyRegistries : ProxyRegistries
  /-- From the client to the agent. -/
  client : Pipe
  /-- What has reached the client. -/
  atClient : Bytes
  /-- The messages on their way to the proxy, the next one first. -/
  up : List (Body AgentKind)
  /-- The messages on their way to the agent, the next one first. -/
  down : List (Body ProxyKind)
  /-- From the target to the proxy. -/
  target : Pipe
  /-- What has reached the target. -/
  atTarget : Bytes

namespace System

/-- What both ends run with. -/
structure Setting where
  agent : AgentContext
  link : ClientLink
  proxy : ProxyContext
  /-- The id that the proxy has drawn for the tunnel. -/
  id : String

/-- A client that has just connected. -/
def start (agentRegistries : AgentRegistries) (proxyRegistries : ProxyRegistries) : System where
  agent := .fresh
  agentRegistries
  proxy := .waiting
  proxyRegistries
  client := .empty
  atClient := []
  up := []
  down := []
  target := .empty
  atTarget := []

/-- An event of the agent, if it is possible. -/
def agentMoves (w : Setting) (s : System) (e : AgentSession.Event) : Option System :=
  if !s.client.shows e.sees then none
  else do
    let client ← s.client.get? e.reads
    let down ← takeNext s.down e.receives
    let (agentRegistries, agent, effects) ← s.agent.step w.agent w.link s.agentRegistries e
    return { s with
      agent, agentRegistries, client, down
      atClient := s.atClient ++ AgentEffect.forClient effects
      up := s.up ++ AgentEffect.messages effects }

/-- An event of the proxy, if it is possible. -/
def proxyMoves (w : Setting) (s : System) (e : ProxySession.Event) : Option System := do
  let target ← s.target.get? e.reads
  let up ← takeNext s.up e.receives
  let (proxyRegistries, proxy, effects) ← s.proxy.step w.proxy w.id s.proxyRegistries e
  return { s with
    proxy, proxyRegistries, target, up
    atTarget := s.atTarget ++ ProxyEffect.forTarget effects
    down := s.down ++ ProxyEffect.messages effects }

/-- One event anywhere. -/
inductive Step (w : Setting) (s : System) : System → Prop
  /-- The client sends octets. -/
  | client (b : Bytes) : Step w s { s with client := s.client.put b }
  /-- The target sends octets. -/
  | target (b : Bytes) : Step w s { s with target := s.target.put b }
  | agent (e : AgentSession.Event) {t : System} : s.agentMoves w e = some t → Step w s t
  | proxy (e : ProxySession.Event) {t : System} : s.proxyMoves w e = some t → Step w s t

/-- What any sequence of events can lead to. -/
inductive Reaches (w : Setting) (s : System) : System → Prop
  | refl : Reaches w s s
  | step {t u : System} : Reaches w s t → Step w t u → Reaches w s u

end System

end TunnelRelay
