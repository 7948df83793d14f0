import TunnelRelay.Agent.Client

/-!
# A client that speaks HTTP

Each request names its target. A request to connect opens a tunnel behind which the client's stream
is opaque. Any other request is forwarded, and so are the requests after it as long as they have the
same target; the first that does not gets a tunnel of its own, and so on until the client is done. A
request for which there is no tunnel is answered by the agent itself, and that ends the connection.
-/

namespace TunnelRelay

/-- How far a client is. -/
inductive HttpSession where
  /-- The first head is not complete. -/
  | first (s : Http.Inbound)
  /-- An id is to be drawn for the tunnel of a request. -/
  | naming (target : Target) (q : Http.Request) (s : Http.Inbound)
  | opening (o : Opening) (q : Http.Request) (s : Http.Inbound)
  /-- The client is being told that its opaque stream stands. -/
  | establishing (o : Opening) (s : Http.Inbound)
  | relaying (r : Relay)
  /-- The client is being told that its request has failed. -/
  | rejecting (r : Http.Response)
  | closed
  deriving DecidableEq, Repr

namespace HttpSession

/-- What a client's session waits for. -/
inductive Event where
  /-- Octets have come. -/
  | read (b : Bytes)
  /-- The client has ended its stream. -/
  | ended
  /-- The client's stream failed. -/
  | failed
  /-- The last part of the tunnel's id. -/
  | named (suffix : String)
  /-- Whether an answer could be written. -/
  | wrote (success : Bool)
  | opening (e : Opening.Event)
  | relay (e : Relay.Event)
  deriving DecidableEq, Repr

/-- A session of which nothing has come. -/
def start : HttpSession := first Http.Inbound.empty

/-- What a request leads to. -/
def handle (q : Http.Request) (s : Http.Inbound) : HttpSession :=
  match q.head.targetAddress with
  | .error _ => rejecting .badRequest
  | .ok (host, port) => naming ⟨host, port⟩ q s

/-- What the octets of the first head lead to. -/
def firstHead (pieceSize : Nat) (s : Http.Inbound) : HttpSession :=
  match Http.next pieceSize s with
  | (.ok none, s) => first s
  | (.error _, _) => rejecting .badRequest
  | (.ok (some (.body _)), _) => rejecting .badRequest
  | (.ok (some (.head q)), s) => handle q s

/-- How a request that has no tunnel is answered. -/
def response : AgentError → Http.Response
  | .http (.malformed _) => .badGateway
  | .http _ => .badRequest
  | _ => .badGateway

/-- Whether the connection to the target of a request is to be kept. -/
def keepsAlive (q : Http.Request) : Bool := q.head.isConnect || q.head.isKeepAlive

/-- The octets that go ahead of a forwarded request's relay, and how the rest is taken. -/
def ahead (q : Http.Request) (s : Http.Inbound) : Bytes × Source :=
  if q.chunked then (q.head.toBytes ++ s.buffer, .octets) else (q.head.toBytes, .requests s)

/-- What the state of its tunnel means for a request. -/
def ofOpening (user : String) (streams : Streams) (o : Opening) (q : Http.Request)
    (s : Http.Inbound) : Streams × HttpSession × List AgentEffect :=
  match o.phase with
  | .failed e => (streams, rejecting (response e), [])
  | .opened =>
    if q.head.isConnect then (streams, establishing o s, [])
    else
      let (data, source) := ahead q s
      let (streams, r, effects) := Relay.start user streams o data source
      (streams, relaying r, effects)
  | _ => (streams, opening o q s, [])

/-- What the state of its relay means for the client: a request that was handed back is next. -/
def ofRelay (r : Relay) : HttpSession :=
  match r.phase with
  | .closed (some (q, s)) => handle q s
  | _ => relaying r

/-- What an event leads to; nothing when the session does not wait for it. -/
def step (c : AgentContext) (link : ClientLink) (streams : Streams) (s : HttpSession) (e : Event) :
    Option (Streams × HttpSession × List AgentEffect) :=
  match s, e with
  | first s, .read b =>
    if b = [] then none else some (streams, firstHead c.pieceSize (s.push b), [])
  | first s, .ended =>
    some (streams, if s.buffer = [] then closed else rejecting .badRequest, [])
  | first _, .failed => some (streams, rejecting .badRequest, [])
  | naming target q s, .named suffix =>
    let o := Opening.start s!"{link.id}-{suffix}" target (keepsAlive q) c.proxies
    some (ofOpening c.userToken streams o q s)
  | opening o q s, .opening e => do
    let (o, effects) ← o.step c.userToken e
    let (streams, s, more) := ofOpening c.userToken streams o q s
    return (streams, s, effects ++ more)
  | establishing o s, .wrote true =>
    let (streams, r, effects) := Relay.start c.userToken streams o s.buffer .octets
    some (streams, relaying r, .toClient Http.Response.connectionEstablished.toBytes :: effects)
  | establishing _ _, .wrote false => some (streams, closed, [.closeTunnel])
  | relaying r, .relay e => do
    let (streams, r, effects) ← r.step c streams e
    return (streams, ofRelay r, effects)
  | rejecting r, .wrote true => some (streams, closed, [.toClient r.toBytes])
  | rejecting _, .wrote false => some (streams, closed, [])
  | _, _ => none

end HttpSession

end TunnelRelay
