import TunnelRelay.Agent.Opening
import TunnelRelay.Http.Stream

/-!
# From the client to the proxy

One leg of a relay reads what the client sends and wraps it into messages for the target. An opaque
stream is taken in pieces as they come. A stream of requests is taken apart: heads are written anew
for the target, bodies are passed on in pieces, and the first request that is not for this target
ends the leg, which then hands the request back with all that has been read behind it. Behind a head
whose body only the target can read, the stream is opaque.
-/

namespace TunnelRelay

/-- How the client's octets are to be taken. -/
inductive Source where
  /-- As they come. -/
  | octets
  /-- As requests. -/
  | requests (s : Http.Inbound)
  deriving DecidableEq, Repr

/-- The request at which a leg has stopped, and what has been read behind it. -/
abbrev HandBack := Http.Request × Http.Inbound

/-- Where the leg stands. -/
inductive ToProxy where
  | reading (source : Source)
  /-- Sending a payload, and then another one if that is not empty. -/
  | sending (data : Bytes) (rest : Bytes) (source : Source)
  | ended (next : Option HandBack)
  deriving DecidableEq, Repr

namespace ToProxy

/-- What the leg waits for. -/
inductive Event where
  /-- The session is closed. -/
  | closed
  /-- Octets have come. -/
  | read (b : Bytes)
  /-- The client has ended its stream. -/
  | ended
  /-- The client's stream failed. -/
  | failed
  /-- What has been read is looked at. -/
  | decode
  /-- The message with this id came to this. -/
  | sent (id : String) (outcome : Sent)
  deriving DecidableEq, Repr

/-- Whether nothing can be done before more octets come. -/
def needsMore (pieceSize : Nat) : Source → Bool
  | .octets => true
  | .requests s =>
    match (Http.next pieceSize s).1 with
    | .ok none => true
    | _ => false

/-- What octets lead to: they are sent at once, or kept until they make sense. -/
def take (b : Bytes) : Source → ToProxy
  | .octets => sending b [] .octets
  | .requests s => reading (.requests (s.push b))

/-- Whether these octets can have come in one read. -/
def fits (pieceSize : Nat) (b : Bytes) : Source → Bool
  | .octets => b ≠ [] && b.length ≤ pieceSize
  | .requests _ => b ≠ []

/-- Whether a request is one for this target. -/
def isFor (target : Target) (h : Http.Head) : Bool :=
  match h.targetAddress with
  | .ok (host, port) => !h.isConnect && host = target.host && port = target.port
  | .error _ => false

/-- What a request leads to. -/
def forward (target : Target) (q : Http.Request) (s : Http.Inbound) : ToProxy :=
  if !isFor target q.head then ended (some (q, s))
  else if q.chunked then sending q.head.toBytes s.buffer .octets
  else sending q.head.toBytes [] (.requests s)

/-- What the requests that have been read lead to; nothing if more octets are needed. -/
def decode (pieceSize : Nat) (target : Target) (s : Http.Inbound) : Option ToProxy :=
  match Http.next pieceSize s with
  | (.ok none, _) => none
  | (.error _, _) => some (ended none)
  | (.ok (some (.body b)), s) => some (sending b [] (.requests s))
  | (.ok (some (.head q)), s) => some (forward target q s)

/-- What an event leads to; nothing when the leg does not wait for it. -/
def step (pieceSize : Nat) (user : String) (target : Target) :
    ToProxy → Event → Option (ToProxy × List AgentEffect)
  | reading _, .closed => some (ended none, [])
  | reading source, .read b =>
    if needsMore pieceSize source && fits pieceSize b source then some (take b source, []) else none
  | reading source, .ended => if needsMore pieceSize source then some (ended none, []) else none
  | reading source, .failed => if needsMore pieceSize source then some (ended none, []) else none
  | reading (.requests s), .decode => (decode pieceSize target s).map (·, [])
  | sending data rest source, .sent id outcome =>
    let m := Body.tcpData id user target.host target.port data
    let entered := (outcome.entered m).map AgentEffect.message
    match outcome.error? with
    | some _ => some (ended none, entered)
    | none =>
      some (if rest = [] then reading source else sending rest [] source, entered)
  | _, _ => none

/-- The leg has ended. -/
def isEnded : ToProxy → Bool
  | ended _ => true
  | _ => false

end ToProxy

end TunnelRelay
