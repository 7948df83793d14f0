import TunnelRelay.Proofs.Forward.Service
import TunnelRelay.Proofs.Http.Spelling
import TunnelRelay.Proofs.Vigil

/-!
# What a silent tunnel costs

A target that has to read a whole request before it answers is silent meanwhile. If that takes
longer than the agent's watch of the tunnel waits, the agent closes the tunnel, whatever the client
is still sending. Here a client sends its body octet by octet, and the watch fires before the last
of them: those that are left, and all requests behind, are lost.
-/

namespace TunnelRelay

open Http (Item)

namespace AgentSession

variable {c : AgentContext} {link : ClientLink} {fires : Bool}

/-! ## What goes ahead -/

/-- The messages of a request of which the head has been forwarded, and some octets behind it. -/
def forwarded (user : String) (target : Target) (q : Http.Request) (b : Bytes) :
    List (Body AgentKind) :=
  Body.connect "1" user target.host target.port (HttpSession.keepsAlive q) ::
    Body.tcpData "2" user target.host target.port q.head.toBytes ::
      b.map fun x => Body.tcpData "3" user target.host target.port [x]

end AgentSession

end TunnelRelay
