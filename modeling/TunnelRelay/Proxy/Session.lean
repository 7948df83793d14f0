import TunnelRelay.Proxy.DatagramRelay
import TunnelRelay.Retry.Connect

/-!
# A tunnel accepted from an agent

The first message tells what the tunnel is for: a connect message makes it a relay of a stream to
the target that it names, a datagram makes it a relay of datagrams. Nothing else may come first, and
not too late. A target that cannot be reached is reported to the agent, and that ends the tunnel. A
target that is reached and gone again before its address is asked for is not reported at all: the
tunnel is let go.
-/

namespace TunnelRelay

/-- What ends the session of a proxy. -/
inductive ProxyError where
  /-- The first message did not come in time. -/
  | silentAgent (tunnel : String)
  /-- The first message is of a type that cannot be first. -/
  | unexpectedMessage (tunnel : String) (kind : AgentKind)
  /-- The target could not be reached. -/
  | targetUnreachable (tunnel : String) (cause : RelayError)
  /-- The tunnel failed. -/
  | relay (cause : RelayError)
  deriving DecidableEq, Repr

/-- How the error is reported. -/
def ProxyError.message : ProxyError → String
  | silentAgent tunnel => s!"Agent do not send init message in time, transport: [{tunnel}]"
  | unexpectedMessage tunnel kind =>
    s!"Receive invalid agent message, transport: [{tunnel}], body type: {Family.name kind}"
  | targetUnreachable tunnel e =>
    s!"Fail to connect target, transport: [{tunnel}], error: {e.message}"
  | relay e => s!"Common error: {e.message}"

/-- What a proxy has registered. -/
structure ProxyRegistries where
  streams : ProxyStreams
  datagrams : ProxyDatagrams

/-- How far a tunnel is. -/
inductive ProxySession where
  /-- The first message has not come. -/
  | waiting
  /-- The target of a connect message is being connected. -/
  | connecting (m : Body AgentKind) (l : Lifecycle)
  /-- The agent is being told that the target cannot be reached. -/
  | refusing (m : Body AgentKind) (l : Lifecycle) (cause : RelayError)
  | relaying (r : ProxyRelay)
  /-- An address for datagrams is being bound. -/
  | binding (m : Body AgentKind)
  | passing (r : DatagramRelay)
  /-- The tunnel is closed, for a reason if there is one. -/
  | closed (cause : Option ProxyError)
  deriving DecidableEq, Repr

namespace ProxySession

/-- What a tunnel waits for. -/
inductive Event where
  | received (r : Received AgentKind)
  /-- The first message did not come in time. -/
  | timedOut
  /-- The first attempts to connect failed so, where there is a failure; every later one succeeds.
  The stream that comes of it has this address at its other end, if that can be had: it cannot when
  the target has reset the connection by then. -/
  | connected (script : List (Option StreamError)) (address : Option Endpoint)
  /-- The message with this id came to this. -/
  | sent (id : String) (outcome : Sent)
  | relay (e : ProxyRelay.Event)
  /-- The address that was bound, if one could be. -/
  | bound (address : Option Endpoint)
  | datagrams (e : DatagramRelay.Event)
  deriving DecidableEq, Repr

/-- How an attempt to connect ends. -/
def attempt (script : List (Option StreamError)) (i : Nat) : Except StreamError Unit :=
  match script[i]? with
  | some (some e) => .error e
  | _ => .ok ()

/-- What the first message leads to. -/
def first (id : String) : Received AgentKind → ProxySession × List ProxyEffect
  | .ended => (closed none, [])
  | .failed e => (closed (some (.relay e)), [.closeTunnel])
  | .body m =>
    match m.kind with
    | .connectWithKeepAlive | .connectWithoutKeepAlive =>
      match Lifecycle.fresh.transit .idle .connecting with
      | .ok l => (connecting m l, [])
      | .error e => (closed (some (.relay e)), [])
    | .udpData => (binding m, [])
    | .tcpData => (closed (some (.unexpectedMessage id m.kind)), [.closeTunnel])

/-- What connecting a target comes to. -/
inductive Contact where
  | made
  /-- Every attempt has failed. -/
  | refused (cause : RelayError)
  /-- The stream has no address at its other end, or 32 bits have no room for the number of attempts
  and the task that was to make them has died. -/
  | lost
  deriving DecidableEq, Repr

/-- What attempts to connect come to, with this address at the other end of the stream. -/
def Contact.ofRun (run : ConnectRun Unit) (address : Option Endpoint) :
    Contact × List ProxyEffect :=
  let tries := run.attempts.map fun a => ProxyEffect.attempt ⟨a.host, a.port⟩ a.keepAlive
  match run.result, address with
  | .ok (), some _ => (.made, tries)
  | .ok (), none => (.lost, tries)
  | .error e, _ => (.refused e, tries)

/-- Connects the target of a connect message. -/
def contact (limit : UInt32) (m : Body AgentKind) (script : List (Option StreamError))
    (address : Option Endpoint) : Contact × List ProxyEffect :=
  match connectWithRetry (attempt script) m.host m.port (m.kind = .connectWithKeepAlive) limit with
  | some run => Contact.ofRun run address
  | none => (.lost, [])

/-- What the attempts to connect lead to. -/
def afterConnecting (c : ProxyContext) (id : String) (rs : ProxyRegistries) (m : Body AgentKind)
    (l : Lifecycle) (script : List (Option StreamError)) (address : Option Endpoint) :
    ProxyRegistries × ProxySession × List ProxyEffect :=
  match contact c.retry.connectRetryLimit m script address with
  | (.lost, tries) => (rs, closed none, tries ++ [.closeTunnel])
  | (.refused e, tries) => (rs, refusing m l e, tries)
  | (.made, tries) =>
    match ProxyRelay.start rs.streams id m l with
    | none => (rs, closed none, tries ++ [.closeTunnel])
    | some (streams, r) => ({ rs with streams }, relaying r, tries)

/-- What an event leads to; nothing when the tunnel does not wait for it. -/
def step (c : ProxyContext) (id : String) (rs : ProxyRegistries) (s : ProxySession) (e : Event) :
    Option (ProxyRegistries × ProxySession × List ProxyEffect) :=
  match s, e with
  | waiting, .received r =>
    let (s, effects) := first id r
    some (rs, s, effects)
  | waiting, .timedOut => some (rs, closed (some (.silentAgent id)), [.closeTunnel])
  | connecting m l, .connected script address =>
    some (afterConnecting c id rs m l script address)
  | refusing m _ cause, .sent messageId outcome =>
    let answer := Body.connectFail messageId m.user m.host m.port
    some (rs, closed (some (.targetUnreachable id cause)),
      (outcome.entered answer).map ProxyEffect.message ++ [.closeTunnel])
  | relaying r, .relay e => do
    let (streams, r, effects) ← r.step c rs.streams e
    return ({ rs with streams }, relaying r, effects)
  | binding _, .bound none => some (rs, closed none, [.closeTunnel])
  | binding m, .bound (some own) =>
    match DatagramRelay.start rs.datagrams id own m with
    | none => some (rs, closed none, [.closeTunnel])
    | some (datagrams, r) => some ({ rs with datagrams }, passing r, [])
  | passing r, .datagrams e => do
    let (datagrams, r, effects) ← r.step rs.datagrams e
    return ({ rs with datagrams }, passing r, effects)
  | _, _ => none

/-- What a sequence of events leads to. -/
def run (c : ProxyContext) (id : String) :
    ProxyRegistries → ProxySession → List Event →
      Option (ProxyRegistries × ProxySession × List ProxyEffect)
  | rs, s, [] => some (rs, s, [])
  | rs, s, e :: es => do
    let (rs, s, effects) ← step c id rs s e
    let (rs, s, more) ← run c id rs s es
    return (rs, s, effects ++ more)

end ProxySession

end TunnelRelay
