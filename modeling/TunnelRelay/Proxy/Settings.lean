import TunnelRelay.Settings.Part

/-!
# Settings of a proxy
-/

namespace TunnelRelay

open Toml (Entries Value)

/-- What a proxy can be configured with; times are in seconds unless said otherwise. -/
structure ProxySettings where
  /-- Where agents connect. -/
  port : Option UInt16
  frames : Settings.Frames
  targetConnectTimeout : Option Nat
  connectRetryLimit : Option UInt32
  writeRetryLimit : Option UInt32
  /-- The pause between two attempts, in milliseconds. -/
  retryInterval : Option Nat
  heartbeatFailureLimit : Option UInt32
  /-- For how long an agent may be silent. -/
  readIdleTimeout : Option Nat
  /-- For how long nothing may be sent to an agent. -/
  writeIdleTimeout : Option Nat
  /-- For how long a tunnel may be without any traffic. -/
  allIdleTimeout : Option Nat
  /-- For how long an agent may take to send its first message. -/
  initTimeout : Option Nat
  threads : Settings.Threads
  log : Settings.Log
  keyFiles : Settings.KeyFiles
  deriving DecidableEq, Repr

namespace ProxySettings

/-- The settings of a proxy in a document. -/
def ofEntries? (es : Entries) : Option ProxySettings := do
  return {
    port := ← es.setting? "port" Value.port?
    frames := ← Settings.Frames.ofEntries? es
    targetConnectTimeout := ← es.setting? "target_connect_timeout" Value.size?
    connectRetryLimit := ← es.setting? "connect_retry_limit" Value.count?
    writeRetryLimit := ← es.setting? "write_retry_limit" Value.count?
    retryInterval := ← es.setting? "retry_interval" Value.size?
    heartbeatFailureLimit := ← es.setting? "heartbeat_failure_limit" Value.count?
    readIdleTimeout := ← es.setting? "agent_read_idle_timeout" Value.size?
    writeIdleTimeout := ← es.setting? "agent_write_idle_timeout" Value.size?
    allIdleTimeout := ← es.setting? "agent_all_idle_timeout" Value.size?
    initTimeout := ← es.setting? "init_timeout" Value.size?
    threads := ← Settings.Threads.ofEntries? es
    log := ← Settings.Log.ofEntries? es
    keyFiles := ← Settings.KeyFiles.ofEntries? .proxy es }

/-- The settings in a file. -/
def load (path : String) (contents : Option Bytes) : Except SettingsError ProxySettings :=
  Settings.load .proxy ofEntries? path contents

end ProxySettings

end TunnelRelay
