import TunnelRelay.Message.Body

/-!
# Messages

A message is a body together with the way its frame is to be encrypted: a cipher and the key for
it, called the token. The functions here build the bodies each side sends; the id is the caller's
to draw.
-/

namespace TunnelRelay

/-- A body with the cipher and the key that protect it. -/
structure Message (κ : Type) where
  /-- The key of the cipher, drawn for this message alone. -/
  token : Bytes
  cipher : Cipher
  body : Body κ
  deriving DecidableEq, Repr

/-- The length of a token that a sender draws. -/
def tokenLength : Nat := 32

/-- The id that sixteen random octets stand for: their hexadecimal digits, with the six bits that
mark an id as random set. -/
def idOfRandom (octets : Bytes) : String :=
  let mark (i : Nat) (x : UInt8) : UInt8 :=
    if i = 6 then (x &&& 0x0f) ||| 0x40 else if i = 8 then (x &&& 0x3f) ||| 0x80 else x
  Bytes.toHex ((octets.take 16).mapIdx mark)

namespace Body

/-! ## What an agent sends -/

/-- Asks for a connection to the target. -/
def connect (id user host : String) (port : UInt16) (keepAlive : Bool) : Body AgentKind :=
  ⟨id, if keepAlive then .connectWithKeepAlive else .connectWithoutKeepAlive, user, host, port, []⟩

/-- Carries octets to the connected target. -/
def tcpData (id user host : String) (port : UInt16) (data : Bytes) : Body AgentKind :=
  ⟨id, .tcpData, user, host, port, data⟩

/-- Carries one datagram to the target. -/
def udpData (id user host : String) (port : UInt16) (data : Bytes) : Body AgentKind :=
  ⟨id, .udpData, user, host, port, data⟩

/-! ## What a proxy sends -/

/-- Tells that the target is connected. -/
def connectSuccess (id user host : String) (port : UInt16) : Body ProxyKind :=
  ⟨id, .connectSuccess, user, host, port, []⟩

/-- Tells that the target could not be reached. -/
def connectFail (id user host : String) (port : UInt16) : Body ProxyKind :=
  ⟨id, .connectFail, user, host, port, []⟩

/-- Carries octets from the connected target. -/
def okTcp (id user host : String) (port : UInt16) (data : Bytes) : Body ProxyKind :=
  ⟨id, .okTcp, user, host, port, data⟩

/-- Carries one datagram; host and port are the address it came from. -/
def okUdp (id user host : String) (port : UInt16) (data : Bytes) : Body ProxyKind :=
  ⟨id, .okUdp, user, host, port, data⟩

/-- Tells that the tunnel is alive; the payload is the sender's clock in milliseconds. -/
def heartbeat (id user : String) (now : UInt64) : Body ProxyKind :=
  ⟨id, .heartbeat, user, "", 0, Bytes.bigEndian64 now⟩

/-- The sender's clock in a heartbeat whose payload has room for it. -/
def heartbeatTime? (m : Body ProxyKind) : Option UInt64 :=
  match m.kind, Bytes.split? 8 m.payload with
  | .heartbeat, some (time, _) => some (UInt64.ofNat (Bytes.ofBigEndian time))
  | _, _ => none

end Body

end TunnelRelay
