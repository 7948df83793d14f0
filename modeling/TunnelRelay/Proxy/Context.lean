import TunnelRelay.Idle
import TunnelRelay.Proxy.Settings
import TunnelRelay.Retry.Policy

/-!
# What a proxy runs with

The settings with every default filled in. A proxy runs with any settings; if its frames have no
room for a payload it reads one octet at a time.
-/

namespace TunnelRelay

/-- The values that all sessions of a proxy share; times are in seconds. -/
structure ProxyContext where
  limits : Frame.Limits
  /-- The most that is read from a target at once. -/
  pieceSize : Nat
  targetConnectTimeout : Nat
  initTimeout : Nat
  retry : RetryPolicy
  /-- When an agent is sent a heartbeat or given up. -/
  idle : IdleThresholds
  deriving DecidableEq, Repr

namespace ProxyContext

/-- What a proxy with these settings runs with. -/
def ofSettings (s : ProxySettings) : ProxyContext where
  limits := s.frames.limits
  pieceSize := s.frames.pieceSize
  targetConnectTimeout := s.targetConnectTimeout.getD 20
  initTimeout := s.initTimeout.getD 30
  retry := {
    writeRetryLimit := s.writeRetryLimit.getD RetryPolicy.default.writeRetryLimit
    connectRetryLimit := s.connectRetryLimit.getD RetryPolicy.default.connectRetryLimit
    heartbeatFailureLimit :=
      s.heartbeatFailureLimit.getD RetryPolicy.default.heartbeatFailureLimit
    retryInterval := s.retryInterval.getD RetryPolicy.default.retryInterval }
  idle := IdleThresholds.ofSeconds (s.readIdleTimeout.getD 0) (s.writeIdleTimeout.getD 0)
    (s.allIdleTimeout.getD 30)

end ProxyContext

end TunnelRelay
