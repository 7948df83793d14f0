import TunnelRelay.Error
import TunnelRelay.Ip
import TunnelRelay.Message

/-!
# What a session sees of its tunnel

A session reads bodies from its tunnel one after the other until the tunnel ends or something in it
does not read, and sends messages, of which it learns whether they are on their way.
-/

namespace TunnelRelay

/-- The host and the port that a tunnel leads to. -/
structure Target where
  host : String
  port : UInt16
  deriving DecidableEq, Repr

/-- An address on the network. -/
structure Endpoint where
  ip : Ip
  port : UInt16
  deriving DecidableEq, Repr

/-- What the next read from a tunnel comes to. -/
inductive Received (κ : Type) where
  | body (m : Body κ)
  /-- Something does not read. -/
  | failed (e : RelayError)
  /-- The other end closed the tunnel. -/
  | ended
  deriving DecidableEq, Repr

/-- What sending a message comes to. -/
inductive Sent where
  /-- The message is on its way. -/
  | done
  /-- The message waits in the tunnel's writer and goes out before any later one, but sending it
  was given up. -/
  | stuck (e : RelayError)
  /-- The message never entered the tunnel's writer. -/
  | refused (e : RelayError)
  deriving DecidableEq, Repr

namespace Sent

/-- Why sending was given up. -/
def error? : Sent → Option RelayError
  | done => none
  | stuck e | refused e => some e

/-- The messages that entered the writer when `m` was sent. -/
def entered {κ : Type} (m : Body κ) : Sent → List (Body κ)
  | done | stuck _ => [m]
  | refused _ => []

end Sent

/-- What a registry knows of a session that relays a stream. -/
structure StreamEntry where
  target : Target
  user : String
  keepAlive : Bool
  deriving DecidableEq, Repr

end TunnelRelay
