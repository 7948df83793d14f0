import TunnelRelay.Http.Request

/-!
# The stream of a client

A client's stream is requests one after the other: a head, and as many octets of body as the head
declares. Heads come whole and bodies in pieces of a limited size. A read that fails or needs more
takes nothing off the stream.
-/

namespace TunnelRelay.Http

/-- What a client sends. -/
inductive Frame where
  | head (request : Request)
  | body (piece : Bytes)
  deriving DecidableEq, Repr

/-- What is known of a client's stream: octets not yet read, and how many of them or of those to
come are still body. -/
structure Inbound where
  buffer : Bytes
  bodyRemaining : Nat
  deriving DecidableEq, Repr

namespace Inbound

/-- A stream of which nothing has come. -/
def empty : Inbound := ⟨[], 0⟩

/-- More octets come. -/
def push (s : Inbound) (b : Bytes) : Inbound := { s with buffer := s.buffer ++ b }

end Inbound

/-- A head that has not ended within this many octets is refused. -/
def maxHeadSize : Nat := 64 * 1024

/-- The largest piece of a body unless configured. -/
def defaultPieceSize : Nat := 16 * 1024

/-- The next piece of a body: at most `pieceSize` octets, but at least one. -/
def nextPiece (pieceSize : Nat) (s : Inbound) : Frame × Inbound :=
  let n := min s.bodyRemaining (min (max pieceSize 1) s.buffer.length)
  (.body (s.buffer.take n), ⟨s.buffer.drop n, s.bodyRemaining - n⟩)

/-- The next head. -/
def nextHead (s : Inbound) : Except Error (Option Frame) × Inbound :=
  match head s.buffer with
  | .incomplete =>
    (if maxHeadSize < s.buffer.length then .error .headTooLarge else .ok none, s)
  | .invalid e => (.error (.malformed e), s)
  | .complete h r =>
    match h.request with
    | .error e => (.error e, s)
    | .ok q => (.ok (some (.head q)), ⟨r, q.contentLength⟩)

/-- The next head or piece of a body, or nothing before more octets come. -/
def next (pieceSize : Nat) (s : Inbound) : Except Error (Option Frame) × Inbound :=
  if s.buffer = [] then (.ok none, s)
  else if 0 < s.bodyRemaining then
    let (f, s) := nextPiece pieceSize s
    (.ok (some f), s)
  else nextHead s

/-! ## Answers -/

/-- What a client is told about its first request. -/
inductive Response where
  /-- The opaque stream stands. -/
  | connectionEstablished
  /-- The request cannot be understood. -/
  | badRequest
  /-- The target cannot be reached. -/
  | badGateway
  deriving DecidableEq, Repr

/-- The answer on the wire. -/
def Response.toBytes : Response → Bytes
  | connectionEstablished => Bytes.ofText "HTTP/1.1 200 Connection Established\r\n\r\n"
  | badRequest =>
    Bytes.ofText "HTTP/1.1 400 Bad Request\r\nContent-Length: 0\r\nConnection: close\r\n\r\n"
  | badGateway =>
    Bytes.ofText "HTTP/1.1 502 Bad Gateway\r\nContent-Length: 0\r\nConnection: close\r\n\r\n"

end TunnelRelay.Http
