import TunnelRelay.Launch

/-!
# The command line

`agent` or `proxy` as the only argument checks the configuration of that program in the working
directory, as the program does before it accepts connections, and reports what it would run with.
-/

namespace TunnelRelay.CommandLine

/-- The contents of a file that can be read. -/
def contents? (path : String) : IO (Option Bytes) := do
  try return some (← IO.FS.readBinFile path).toList
  catch _ => return none

/-- The contents of some files. -/
def read (paths : List String) : IO (String → Option Bytes) := do
  let files ← paths.mapM fun path => return (path, ← contents? path)
  return fun path => (files.lookup path).join

/-- Reports a failure. -/
def failed (message : String) : IO UInt32 := do
  IO.eprintln s!"Error: {message}"
  return 1

/-- Reports whether a program can start. -/
def report {γ : Type} (role : Role) (r : Except StartError (Launch γ)) : IO UInt32 := do
  match r with
  | .error e => failed e.message
  | .ok launch =>
    IO.println s!"The {role.name} is ready to accept connections on port {launch.port}."
    return 0

/-- Checks the configuration of an agent. -/
def agent : IO UInt32 := do
  let path := Role.agent.settingsFile
  match AgentSettings.load path (← contents? path) with
  | .error e => failed e.message
  | .ok s =>
    let files ← read [Launch.remotePath .agent s.keyFiles, Launch.ownPath .agent s.keyFiles]
    report .agent (Launch.agent files s)

/-- Checks the configuration of a proxy. -/
def proxy : IO UInt32 := do
  let path := Role.proxy.settingsFile
  match ProxySettings.load path (← contents? path) with
  | .error e => failed e.message
  | .ok s =>
    let files ← read [Launch.remotePath .proxy s.keyFiles, Launch.ownPath .proxy s.keyFiles]
    report .proxy (Launch.proxy files s)

end TunnelRelay.CommandLine

/-- Runs the check that the argument asks for. -/
def main (args : List String) : IO UInt32 :=
  match args with
  | ["agent"] => TunnelRelay.CommandLine.agent
  | ["proxy"] => TunnelRelay.CommandLine.proxy
  | _ => TunnelRelay.CommandLine.failed "expected one argument, agent or proxy"
