import TunnelRelay.System

/-!
# An agent and the proxies of its tunnels

A client that speaks HTTP may ask for one target after another, and each of them gets a tunnel of
its own, at whose other end a proxy runs a session of its own. The agent writes to its latest tunnel
and reads from that; what is at the other end of the earlier ones goes on by itself. The client may
send anything, the targets' connector may answer in any way, and other sessions of the agent and of
the proxies come and go. What is kept besides the states is what has happened so far: what was read
from the client, what the client was told of its targets, and what each proxy has seen and done.
-/

namespace TunnelRelay

/-- What an agent tells a client about the target that the client has asked for. -/
structure Notice where
  /-- The target that is said to be connected; none if it is said that there is no connection. -/
  target : Option Target
  /-- The octets that reach the client, which are none when they cannot be written. -/
  octets : Bytes
  deriving DecidableEq, Repr

/-- What an event with these effects tells a client about its target, if it does. -/
def AgentSession.notice? (s : AgentSession) (e : Event) (effects : List AgentEffect) :
    Option Notice :=
  match s, e with
  | socks (.confirming o _), .socks (.wrote _) | http (.establishing o _), .http (.wrote _) =>
    some ⟨some o.target, AgentEffect.forClient effects⟩
  | socks (.refusing _), .socks (.wrote _) | http (.rejecting _), .http (.wrote _) =>
    some ⟨none, AgentEffect.forClient effects⟩
  | _, _ => none

/-- Whether an agent has opened a tunnel among what it does. -/
def AgentEffect.opensTunnel (effects : List AgentEffect) : Bool :=
  effects.any fun
    | .tunnel _ => true
    | _ => false

/-! ## A tunnel and the proxy at its end -/

/-- A tunnel, and the session of the proxy at its other end. -/
structure Line where
  /-- The id that the proxy has drawn for the tunnel. -/
  id : String
  proxy : ProxySession
  registries : ProxyRegistries
  /-- The messages on their way to the proxy, the next one first. -/
  up : List (Body AgentKind)
  /-- The messages on their way to the agent, the next one first. -/
  down : List (Body ProxyKind)
  /-- What has happened to the proxy's session. -/
  past : List ProxySession.Event
  /-- What the proxy's session has done. -/
  done : List ProxyEffect

namespace Line

/-- A tunnel that has just been accepted. -/
def fresh (id : String) (registries : ProxyRegistries) : Line :=
  ⟨id, .waiting, registries, [], [], [], []⟩

/-- The agent writes messages to the tunnel. -/
def put (l : Line) (ms : List (Body AgentKind)) : Line := { l with up := l.up ++ ms }

/-- The agent reads from the tunnel. -/
def take (l : Line) (r : Received ProxyKind) : Option Line :=
  (takeNext l.down (some r)).map fun down => { l with down }

/-- An event of the proxy's session, if it is possible. -/
def moves (c : ProxyContext) (l : Line) (e : ProxySession.Event) : Option Line := do
  let up ← takeNext l.up e.receives
  let (registries, proxy, effects) ← l.proxy.step c l.id l.registries e
  return { l with
    proxy, registries, up
    down := l.down ++ ProxyEffect.messages effects
    past := l.past ++ [e]
    done := l.done ++ effects }

/-- What can happen at the other end of a tunnel. -/
inductive Step (c : ProxyContext) (l : Line) : Line → Prop
  | event (e : ProxySession.Event) {k : Line} : l.moves c e = some k → Step c l k
  /-- Other sessions of the proxy come and go. -/
  | others (registries : ProxyRegistries) :
    registries.streams.get? l.id = l.registries.streams.get? l.id → Step c l { l with registries }

end Line

/-! ## The network -/

/-- An agent's session with a client, and the tunnels that it has opened. -/
structure Network where
  agent : AgentSession
  registries : AgentRegistries
  /-- What the agent has read from the client. -/
  read : Bytes
  /-- What the client was told about its targets. -/
  told : List Notice
  /-- The tunnels that were opened, the latest one first. -/
  lines : List Line

namespace Network

/-- What both ends run with. -/
structure Setting where
  agent : AgentContext
  link : ClientLink
  proxy : ProxyContext

/-- A client that has just connected. -/
def start (registries : AgentRegistries) : Network := ⟨.fresh, registries, [], [], []⟩

/-- Reading takes from the latest tunnel. -/
def takeLatest : List Line → Option (Received ProxyKind) → Option (List Line)
  | lines, none => some lines
  | [], some _ => none
  | l :: lines, some r => (l.take r).map (· :: lines)

/-- Messages go into the latest tunnel. -/
def putLatest : List Line → List (Body AgentKind) → List Line
  | [], _ => []
  | l :: lines, ms => l.put ms :: lines

/-- What the effects of an agent do to its tunnels; one that it opens begins as given. -/
def carry (next : Line) (effects : List AgentEffect) (lines : List Line) : List Line :=
  putLatest (if AgentEffect.opensTunnel effects then next :: lines else lines)
    (AgentEffect.messages effects)

/-- An event of the agent, if it is possible; a tunnel that it opens begins as given. -/
def agentMoves (w : Setting) (n : Network) (next : Line) (e : AgentSession.Event) :
    Option Network := do
  let lines ← takeLatest n.lines e.receives
  let (registries, agent, effects) ← n.agent.step w.agent w.link n.registries e
  return {
    agent, registries
    read := n.read ++ e.reads.getD []
    told := n.told ++ (n.agent.notice? e effects).toList
    lines := carry next effects lines }

/-- One event anywhere. -/
inductive Step (w : Setting) (n : Network) : Network → Prop
  /-- An event of the agent. The proxy of a tunnel that it opens draws an id that is free. -/
  | agent (e : AgentSession.Event) (id : String) (registries : ProxyRegistries) {m : Network} :
    registries.streams.get? id = none →
    n.agentMoves w (.fresh id registries) e = some m → Step w n m
  /-- An event at the other end of a tunnel. -/
  | line {before after : List Line} {l k : Line} :
    n.lines = before ++ l :: after → l.Step w.proxy k →
    Step w n { n with lines := before ++ k :: after }
  /-- Other sessions of the agent come and go. -/
  | others (registries : AgentRegistries) : Step w n { n with registries }

/-- What any sequence of events can lead to. -/
inductive Reaches (w : Setting) (n : Network) : Network → Prop
  | refl : Reaches w n n
  | step {m k : Network} : Reaches w n m → Step w m k → Reaches w n k

end Network

end TunnelRelay
