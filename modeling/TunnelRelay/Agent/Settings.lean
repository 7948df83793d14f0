import TunnelRelay.Settings.Part

/-!
# Settings of an agent
-/

namespace TunnelRelay

open Toml (Entries Value)

/-- What an agent can be configured with; times are in seconds. -/
structure AgentSettings where
  /-- Where clients connect. -/
  port : Option UInt16
  /-- On whose behalf tunnels are opened. -/
  userToken : Option String
  /-- The proxies, in the order in which they are tried. -/
  proxyAddresses : Option (List String)
  proxyConnectTimeout : Option Nat
  /-- For how long a proxy may take to answer a connect message. -/
  responseTimeout : Option Nat
  frames : Settings.Frames
  writeRetryLimit : Option UInt32
  /-- For how long a tunnel may be silent. -/
  readIdleTimeout : Option Nat
  threads : Settings.Threads
  log : Settings.Log
  keyFiles : Settings.KeyFiles
  deriving DecidableEq, Repr

namespace AgentSettings

/-- The settings of an agent in a document. -/
def ofEntries? (es : Entries) : Option AgentSettings := do
  return {
    port := ← es.setting? "port" Value.port?
    userToken := ← es.setting? "user_token" Value.text?
    proxyAddresses := ← es.setting? "proxy_addresses" Value.texts?
    proxyConnectTimeout := ← es.setting? "proxy_connect_timeout" Value.size?
    responseTimeout := ← es.setting? "connect_response_timeout" Value.size?
    frames := ← Settings.Frames.ofEntries? es
    writeRetryLimit := ← es.setting? "write_retry_limit" Value.count?
    readIdleTimeout := ← es.setting? "proxy_read_idle_timeout" Value.size?
    threads := ← Settings.Threads.ofEntries? es
    log := ← Settings.Log.ofEntries? es
    keyFiles := ← Settings.KeyFiles.ofEntries? .agent es }

/-- The settings in a file. -/
def load (path : String) (contents : Option Bytes) : Except SettingsError AgentSettings :=
  Settings.load .agent ofEntries? path contents

end AgentSettings

end TunnelRelay
