import TunnelRelay.Agent.Client
import TunnelRelay.Socks.Handshake

/-!
# A client that speaks SOCKS

The client greets, whatever methods it offers is told that none is needed, and commands. To connect,
a tunnel is opened to the target, and what the client has sent behind its command goes ahead. For an
association an address for datagrams is bound. Any other command is refused.
-/

namespace TunnelRelay

/-- How far a client is. -/
inductive SocksSession where
  /-- The greeting is not complete. -/
  | greeting (buffer : Bytes)
  /-- The client is being told that it needs no authentication. -/
  | choosing (buffer : Bytes)
  /-- The command is not complete. -/
  | command (buffer : Bytes)
  | opening (o : Opening) (rest : Bytes)
  /-- The client is being told that the target is connected. -/
  | confirming (o : Opening) (rest : Bytes)
  /-- The client is being told that its command has failed. -/
  | refusing (status : Socks.Status)
  | relaying (r : Relay)
  /-- An address for datagrams is being bound. -/
  | binding
  /-- The client is being told the address for its datagrams. -/
  | granting (a : Association) (bound : Endpoint)
  | associated (a : Association)
  | closed
  deriving DecidableEq, Repr

namespace SocksSession

/-- What a client's session waits for. -/
inductive Event where
  /-- Octets have come. -/
  | read (b : Bytes)
  /-- The client has ended its stream, or it failed. -/
  | ended
  /-- Whether a reply could be written. -/
  | wrote (success : Bool)
  | opening (e : Opening.Event)
  | relay (e : Relay.Event)
  /-- The address that was bound, if one could be. -/
  | bound (address : Option Endpoint)
  | association (e : Association.Event)
  deriving DecidableEq, Repr

/-- A session of which nothing has come. -/
def start : SocksSession := greeting []

/-- What the octets of a greeting lead to. -/
def greeted (buffer : Bytes) : SocksSession :=
  match Socks.greeting buffer with
  | .incomplete => greeting buffer
  | .invalid _ => closed
  | .complete _ rest => choosing rest

/-- What the state of its tunnel means for a client. -/
def ofOpening (o : Opening) (rest : Bytes) : SocksSession :=
  match o.phase with
  | .failed _ => refusing .failure
  | .opened => confirming o rest
  | _ => opening o rest

/-- What a command leads to. -/
def obey (link : ClientLink) (proxies : List ProxyAddress) (q : Socks.Request) (rest : Bytes) :
    SocksSession :=
  match q.command with
  | .connect =>
    match q.target.hostText with
    | .error _ => closed
    | .ok host => ofOpening (Opening.start link.id ⟨host, q.target.port⟩ true proxies) rest
  | .associate => binding
  | .bind | .unsupported _ => refusing .commandNotSupported

/-- What the octets of a command lead to. -/
def commanded (link : ClientLink) (proxies : List ProxyAddress) (buffer : Bytes) : SocksSession :=
  match Socks.request buffer with
  | .incomplete => command buffer
  | .invalid _ => closed
  | .complete q rest => obey link proxies q rest

/-- A reply that offers an address. -/
def grant (e : Endpoint) : Bytes := (Socks.Reply.mk .succeeded (.ofIp e.ip e.port)).toBytes

/-- An association is registered at an address. -/
def associate (user : String) (link : ClientLink) (rs : AgentRegistries) (bound : Endpoint) :
    AgentRegistries × SocksSession :=
  match rs.associations.create link.id ⟨user, link.client, bound⟩,
      Lifecycle.fresh.transit .idle .established with
  | .ok associations, .ok l =>
    ({ rs with associations }, granting (Association.start link.id link.client.ip l) bound)
  | .ok associations, .error _ => ({ rs with associations }, closed)
  | .error _, _ => (rs, closed)

/-- What an event leads to; nothing when the session does not wait for it. -/
def step (c : AgentContext) (link : ClientLink) (rs : AgentRegistries) (s : SocksSession)
    (e : Event) : Option (AgentRegistries × SocksSession × List AgentEffect) :=
  match s, e with
  | greeting buffer, .read b => if b = [] then none else some (rs, greeted (buffer ++ b), [])
  | command buffer, .read b =>
    if b = [] then none else some (rs, commanded link c.proxies (buffer ++ b), [])
  | greeting _, .ended | command _, .ended => some (rs, closed, [])
  | choosing buffer, .wrote true =>
    some (rs, commanded link c.proxies buffer, [.toClient (Socks.choice .noAuthentication)])
  | choosing _, .wrote false => some (rs, closed, [])
  | opening o rest, .opening e => do
    let (o, effects) ← o.step c.userToken e
    return (rs, ofOpening o rest, effects)
  | confirming o rest, .wrote true =>
    let (streams, r, effects) := Relay.start c.userToken rs.streams o rest .octets
    some ({ rs with streams }, relaying r, .toClient (grant link.own) :: effects)
  | confirming _ _, .wrote false => some (rs, closed, [.closeTunnel])
  | refusing status, .wrote true =>
    some (rs, closed, [.toClient (Socks.Reply.refusal status).toBytes])
  | refusing _, .wrote false => some (rs, closed, [])
  | relaying r, .relay e => do
    let (streams, r, effects) ← r.step c rs.streams e
    return ({ rs with streams }, relaying r, effects)
  | binding, .bound none => some (rs, refusing .failure, [])
  | binding, .bound (some address) =>
    let (rs, s) := associate c.userToken link rs address
    some (rs, s, [])
  | granting a bound, .wrote true => some (rs, associated a, [.toClient (grant bound)])
  | granting a _, .wrote false =>
    some ({ rs with associations := rs.associations.remove a.id }, closed, [])
  | associated a, .association e => do
    let (associations, a, effects) ← a.step c rs.associations e
    return ({ rs with associations }, associated a, effects)
  | _, _ => none

end SocksSession

end TunnelRelay
