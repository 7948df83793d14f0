import TunnelRelay.Agent.Session
import TunnelRelay.Frame.Means
import TunnelRelay.Main
import TunnelRelay.Proofs.Agent.Association.Dropped
import TunnelRelay.Proofs.Agent.Association.Reply
import TunnelRelay.Proofs.Agent.Command
import TunnelRelay.Proofs.Agent.Heartbeat
import TunnelRelay.Proofs.Agent.Payload
import TunnelRelay.Proofs.Agent.ProxyAddress
import TunnelRelay.Proofs.Agent.Room
import TunnelRelay.Proofs.Cascade
import TunnelRelay.Proofs.Cipher
import TunnelRelay.Proofs.Forward.Silence
import TunnelRelay.Proofs.Frame.Atomic
import TunnelRelay.Proofs.Frame.Bounded
import TunnelRelay.Proofs.Frame.Failures
import TunnelRelay.Proofs.Http.Framing
import TunnelRelay.Proofs.Http.Limit
import TunnelRelay.Proofs.Http.Routing
import TunnelRelay.Proofs.Lifecycle
import TunnelRelay.Proofs.Lifecycle.Sharing
import TunnelRelay.Proofs.Message.Damage
import TunnelRelay.Proofs.Network
import TunnelRelay.Proofs.Proxy.Heartbeat
import TunnelRelay.Proofs.Proxy.Room
import TunnelRelay.Proofs.Retry.Course
import TunnelRelay.Proofs.Socks.Handshake
import TunnelRelay.Proofs.Tunnel.Sharing
import TunnelRelay.Proofs.Vigil
import TunnelRelay.Tunnel.Sharing
