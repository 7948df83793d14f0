import TunnelRelay.Agent.Association
import TunnelRelay.Agent.Relay

/-!
# Clients of an agent
-/

namespace TunnelRelay

/-- The connection of a client. Its ends are known: where an answer or an association needs the
agent's own, asking for it (`local_addr`) is taken not to fail, nor is asking for that of a socket
that has just been bound. -/
structure ClientLink where
  /-- The id drawn for the connection. -/
  id : String
  client : Endpoint
  /-- The agent's end. -/
  own : Endpoint
  deriving DecidableEq, Repr

/-- What an agent has registered. -/
structure AgentRegistries where
  streams : Streams
  associations : Associations

end TunnelRelay
