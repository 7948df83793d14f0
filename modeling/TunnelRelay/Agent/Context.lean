import TunnelRelay.Agent.ProxyAddress
import TunnelRelay.Agent.Settings
import TunnelRelay.Idle
import TunnelRelay.Retry.Policy

/-!
# What an agent runs with

The settings with every default filled in. An agent needs a user token, at least one proxy, every
proxy's address in a form that reads, and frames that have room for a payload.
-/

namespace TunnelRelay

/-- The values that all sessions of an agent share; times are in seconds. -/
structure AgentContext where
  userToken : String
  proxies : List ProxyAddress
  proxyConnectTimeout : Nat
  responseTimeout : Nat
  limits : Frame.Limits
  /-- The most that is read from a client at once. -/
  pieceSize : Nat
  retry : RetryPolicy
  /-- When a silent tunnel is given up. -/
  idle : IdleThresholds
  deriving DecidableEq, Repr

/-- Why an agent cannot run with its settings. -/
inductive AgentContext.Error where
  | noUserToken
  | noProxy
  /-- A proxy's address does not read. -/
  | invalidProxyAddress (text : String)
  /-- A frame of that size has no room for a payload. -/
  | smallFrame (size : Nat)
  deriving DecidableEq, Repr

/-- How the error is reported. -/
def AgentContext.Error.message : AgentContext.Error → String
  | noUserToken => "Can not get user token from configuration."
  | noProxy => "Proxy address did not configure properly"
  | invalidProxyAddress text => s!"Fail to parse proxy address: {text}"
  | smallFrame size => s!"Max frame size [{size}] is too small"

namespace AgentContext

/-- The addresses that texts spell, or the first text that spells none. -/
def readProxies : List String → Except Error (List ProxyAddress)
  | [] => .ok []
  | s :: rest =>
    match ProxyAddress.ofText? s with
    | none => .error (.invalidProxyAddress s)
    | some a => (readProxies rest).map (a :: ·)

/-- What an agent with these settings runs with. -/
def ofSettings (s : AgentSettings) : Except Error AgentContext := do
  let userToken ← s.userToken.elim (.error .noUserToken) .ok
  let texts ← s.proxyAddresses.elim (.error .noProxy) .ok
  let proxies ← readProxies texts
  if proxies = [] then .error .noProxy
  else
    let limits := s.frames.limits
    if Frame.maxPayloadSize limits.maxFrameSize = 0 then .error (.smallFrame limits.maxFrameSize)
    else
      .ok {
        userToken, proxies, limits
        pieceSize := s.frames.pieceSize
        proxyConnectTimeout := s.proxyConnectTimeout.getD 20
        responseTimeout := s.responseTimeout.getD 60
        retry := { RetryPolicy.default with
          writeRetryLimit := s.writeRetryLimit.getD RetryPolicy.default.writeRetryLimit }
        idle := IdleThresholds.ofSeconds (s.readIdleTimeout.getD 90) 0 0 }

end AgentContext

end TunnelRelay
