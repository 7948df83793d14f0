import TunnelRelay.Error
import TunnelRelay.Http.Request
import TunnelRelay.Message.Family
import TunnelRelay.Socks.Address

/-!
# Errors of an agent

An agent stands between a client and a proxy, so what ends a session is the client's own protocol,
the tunnel, or the proxy's answer.
-/

namespace TunnelRelay

/-- What can end an agent's session. -/
inductive AgentError where
  /-- A text is no address of a proxy. -/
  | invalidProxyAddress (text : String)
  /-- No proxy could be reached for the tunnel. -/
  | noProxy (tunnel : String)
  /-- The proxy could not reach the target. -/
  | targetUnreachable (host : String) (port : UInt16)
  /-- The proxy closed the tunnel before it answered. -/
  | proxyClosed (tunnel : String)
  /-- The proxy did not answer in time. -/
  | responseTimeout (tunnel : String)
  /-- The proxy sent something else than an answer. -/
  | unexpectedMessage (tunnel : String) (kind : ProxyKind)
  /-- The client's handshake is wrong. -/
  | socks (cause : Socks.Error)
  /-- The client's request is wrong. -/
  | http (cause : Http.Error)
  /-- The tunnel failed. -/
  | relay (cause : RelayError)
  /-- A stream failed. -/
  | stream (cause : StreamError)
  deriving DecidableEq, Repr

namespace AgentError

/-- How an error is reported. -/
def message : AgentError → String
  | invalidProxyAddress text => s!"Fail to parse proxy address: {text}"
  | noProxy tunnel => s!"Fail to connect any proxy, tunnel: [{tunnel}]"
  | targetUnreachable host port => s!"Proxy fail to connect target [{host}:{port}]"
  | proxyClosed tunnel => s!"Proxy closed the tunnel: [{tunnel}]"
  | responseTimeout tunnel => s!"Timeout waiting for proxy connect response, tunnel: [{tunnel}]"
  | unexpectedMessage tunnel kind =>
    s!"Receive unexpected proxy message, tunnel: [{tunnel}], body type: {Family.name kind}"
  | socks e => e.message
  | http e => e.message
  | relay e => s!"Common error: {e.message}"
  | stream e => s!"I/O error: {e.text}"

/-- The error's name as it is reported; a cause of another layer follows its layer. -/
def name : AgentError → String
  | invalidProxyAddress _ => "FailToParseProxyAddress"
  | noProxy _ => "ConnectToProxyFail"
  | targetUnreachable _ _ => "TargetConnectFail"
  | proxyClosed _ => "ProxyClosed"
  | responseTimeout _ => "ConnectResponseTimeout"
  | unexpectedMessage _ _ => "UnexpectedProxyMessage"
  | socks e => e.name
  | http e => e.name
  | relay e => "Common::" ++ e.name
  | stream e => "Io::" ++ e.kind.name

end AgentError

end TunnelRelay
