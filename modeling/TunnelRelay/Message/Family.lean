import TunnelRelay.Error

/-!
# The two families of messages

An agent and a proxy talk over one tunnel, each in a family of its own. A family is a finite list
of body types, each with its octet on the wire and its name. Octets of the two families are
disjoint, so a message of one family never reads as one of the other.
-/

namespace TunnelRelay

/-- A family of body types: a finite list with pairwise different octets. -/
class Family (κ : Type) where
  /-- The octet of a body type. -/
  code : κ → UInt8
  /-- The name of a body type. -/
  name : κ → String
  /-- Every body type of the family. -/
  all : List κ
  mem_all : ∀ k, k ∈ all
  code_injective : ∀ j k, code j = code k → j = k

namespace Family

variable {κ : Type} [Family κ]

/-- The body type of an octet. -/
def ofCode? (n : UInt8) : Option κ := (all : List κ).find? (code · == n)

/-- The body type of that name. -/
def ofName? (s : String) : Option κ := (all : List κ).find? (name · == s)

theorem code_of_ofCode? {n : UInt8} {k : κ} (h : ofCode? n = some k) : code k = n := by
  simpa using List.find?_some h

theorem ofCode?_code (k : κ) : ofCode? (code k) = some k := by
  cases h : ofCode? (κ := κ) (code k) with
  | none => simpa using List.find?_eq_none.1 h k (mem_all k)
  | some j => exact congrArg some (code_injective j k (code_of_ofCode? h))

/-- The body type of an octet, or the error that names the octet. -/
def read (n : UInt8) : Except ProtocolError κ :=
  match ofCode? n with
  | some k => .ok k
  | none => .error (.unknownBodyType n)

theorem code_of_read {n : UInt8} {k : κ} (h : read n = .ok k) : code k = n := by
  unfold read at h
  split at h
  · rename_i hcode
    cases h
    exact code_of_ofCode? hcode
  · cases h

end Family

/-- What an agent says. -/
inductive AgentKind where
  /-- Connect to the target and keep the connection alive. -/
  | connectWithKeepAlive
  /-- Connect to the target. -/
  | connectWithoutKeepAlive
  /-- Octets for the connected target. -/
  | tcpData
  /-- One datagram for the target. -/
  | udpData
  deriving DecidableEq, Repr

instance : Family AgentKind where
  code
    | .connectWithKeepAlive => 1 | .connectWithoutKeepAlive => 2 | .tcpData => 3 | .udpData => 4
  name
    | .connectWithKeepAlive => "ConnectWithKeepAlive"
    | .connectWithoutKeepAlive => "ConnectWithoutKeepAlive"
    | .tcpData => "TcpData" | .udpData => "UdpData"
  all := [.connectWithKeepAlive, .connectWithoutKeepAlive, .tcpData, .udpData]
  mem_all k := by cases k <;> decide
  code_injective j k := by cases j <;> cases k <;> decide

/-- What a proxy says. -/
inductive ProxyKind where
  /-- Octets from the connected target. -/
  | okTcp
  /-- One datagram that a target sent back. -/
  | okUdp
  /-- Nothing but the time: the tunnel is alive. -/
  | heartbeat
  /-- The target could not be reached. -/
  | connectFail
  /-- The target is connected. -/
  | connectSuccess
  deriving DecidableEq, Repr

instance : Family ProxyKind where
  code
    | .okTcp => 10 | .okUdp => 11 | .heartbeat => 12 | .connectFail => 13 | .connectSuccess => 14
  name
    | .okTcp => "OkTcp" | .okUdp => "OkUdp" | .heartbeat => "Heartbeat"
    | .connectFail => "ConnectFail" | .connectSuccess => "ConnectSuccess"
  all := [.okTcp, .okUdp, .heartbeat, .connectFail, .connectSuccess]
  mem_all k := by cases k <;> decide
  code_injective j k := by cases j <;> cases k <;> decide

/-- The symmetric ciphers a message body can be encrypted with. -/
inductive Cipher where
  | blowfish | aes
  deriving DecidableEq, Repr

namespace Cipher

/-- The cipher's octet in a frame. -/
def code : Cipher → UInt8
  | blowfish => 1 | aes => 2

/-- The cipher's name. -/
def name : Cipher → String
  | blowfish => "Blowfish" | aes => "Aes"

/-- Every cipher. -/
def all : List Cipher := [blowfish, aes]

/-- The cipher of that name. -/
def ofName? (s : String) : Option Cipher := all.find? (·.name == s)

/-- The cipher of an octet, or the error that names the octet. -/
def read (n : UInt8) : Except ProtocolError Cipher :=
  if n = 1 then .ok blowfish else if n = 2 then .ok aes else .error (.unknownCipher n)

theorem read_eq_ok_iff {n : UInt8} {c : Cipher} : read n = .ok c ↔ n = c.code := by
  unfold read
  cases c <;> simp only [code] <;> split <;> (try split) <;> simp_all

end Cipher

end TunnelRelay
