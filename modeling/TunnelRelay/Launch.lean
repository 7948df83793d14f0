import TunnelRelay.Agent.Context
import TunnelRelay.Frame.Means
import TunnelRelay.Proxy.Context

/-!
# Starting up

A program reads its two key files, the other end's public key first, and then has all it needs to
accept connections on its port. Files enter as a function that gives the contents of a file that can
be read.
-/

namespace TunnelRelay

namespace Role

/-- The program's name where it begins a file name. -/
def title : Role → String
  | agent => "Agent"
  | proxy => "Proxy"

/-- The file with the program's own private key unless configured. -/
def privateKeyFile (r : Role) : String := s!"{r.title}PrivateKey.pem"

/-- The file with the program's public key, as the other end has it, unless configured. -/
def publicKeyFile (r : Role) : String := s!"{r.title}PublicKey.pem"

/-- The port unless configured. -/
def port : Role → UInt16
  | agent => 10080
  | proxy => 80

end Role

/-- Why a program does not run. -/
inductive StartError where
  /-- The file with the other end's public key cannot be read, or it is no text. -/
  | unreadablePublicKey (owner : Role) (path : String)
  /-- The file with the program's own private key cannot be read, or it is no text. -/
  | unreadablePrivateKey (owner : Role) (path : String)
  /-- One of the two files holds no key. -/
  | unusableKeys (role : Role)
  /-- An agent cannot run with its settings. -/
  | context (cause : AgentContext.Error)
  /-- The port cannot be had. -/
  | portTaken (role : Role) (port : UInt16)
  deriving DecidableEq, Repr

/-- How the error is reported. -/
def StartError.message : StartError → String
  | unreadablePublicKey owner path => s!"Fail to read {owner.name} public key: {path}"
  | unreadablePrivateKey owner path => s!"Fail to read {owner.name} private key: {path}"
  | unusableKeys role => s!"Fail to parse {role.name} rsa keys."
  | context e => e.message
  | portTaken role port => s!"Fail to bind {role.name} on port: {port}"

/-- All that a program needs to accept connections. -/
structure Launch (γ : Type) where
  keys : KeyPair
  context : γ
  port : UInt16
  deriving DecidableEq, Repr

namespace Launch

/-- Where the other end's public key is. -/
def remotePath (role : Role) (s : Settings.KeyFiles) : String :=
  s.remote.getD role.peer.publicKeyFile

/-- Where the program's own private key is. -/
def ownPath (role : Role) (s : Settings.KeyFiles) : String := s.own.getD role.privateKeyFile

/-- The keys in the key files. -/
def readKeys (role : Role) (files : String → Option Bytes) (s : Settings.KeyFiles) :
    Except StartError KeyPair := do
  let text (path : String) := (files path).bind Bytes.toText?
  let remote ← (text (remotePath role s)).elim
    (.error (.unreadablePublicKey role.peer (remotePath role s))) .ok
  let own ← (text (ownPath role s)).elim
    (.error (.unreadablePrivateKey role (ownPath role s))) .ok
  (KeyPair.ofTexts? remote own).elim (.error (.unusableKeys role)) .ok

/-- What an agent with these settings needs. -/
def agent (files : String → Option Bytes) (s : AgentSettings) :
    Except StartError (Launch AgentContext) := do
  let keys ← readKeys .agent files s.keyFiles
  let context ← (AgentContext.ofSettings s).mapError .context
  return ⟨keys, context, s.port.getD Role.agent.port⟩

/-- What a proxy with these settings needs. -/
def proxy (files : String → Option Bytes) (s : ProxySettings) :
    Except StartError (Launch ProxyContext) := do
  let keys ← readKeys .proxy files s.keyFiles
  return ⟨keys, ProxyContext.ofSettings s, s.port.getD Role.proxy.port⟩

end Launch

end TunnelRelay
